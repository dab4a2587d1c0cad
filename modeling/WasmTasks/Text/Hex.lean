/-!
Hexadecimal notation for numbers and for byte strings, in lower case.
-/

namespace WasmTasks.Text.Hex

def digit (n : Nat) : Char :=
  if n < 10 then Char.ofNat (48 + n) else Char.ofNat (87 + n)

def value? (c : Char) : Option Nat :=
  if '0' ≤ c ∧ c ≤ '9' then some (c.toNat - 48)
  else if 'a' ≤ c ∧ c ≤ 'f' then some (c.toNat - 87)
  else if 'A' ≤ c ∧ c ≤ 'F' then some (c.toNat - 55)
  else none

def ofNat (n : Nat) : String :=
  String.ofList (Nat.toDigits 16 n)

/-- The lowest `places` digits of the number. -/
def ofNatPadded : Nat → Nat → List Char
  | 0, _ => []
  | places + 1, n => ofNatPadded places (n / 16) ++ [digit (n % 16)]

def ofByte (b : UInt8) : List Char :=
  [digit (b.toNat / 16), digit (b.toNat % 16)]

def ofBytes (bytes : List UInt8) : String :=
  String.ofList (bytes.flatMap ofByte)

/-- Reads pairs of digits; an odd digit out or any other character is refused. -/
def bytes? : List Char → Option (List UInt8)
  | [] => some []
  | high :: low :: rest => do
      let h ← value? high
      let l ← value? low
      let tail ← bytes? rest
      pure (UInt8.ofNat (16 * h + l) :: tail)
  | [_] => none

end WasmTasks.Text.Hex
