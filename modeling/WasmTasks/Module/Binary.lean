import WasmTasks.Text.Utf8

/-!
Binary modules without code: the header, followed by custom sections only. A custom section is the
byte zero, the size of the rest, the length of its name, the name in UTF-8 and any payload.
-/

namespace WasmTasks.BinaryModule

def magic : List UInt8 := [0x00, 0x61, 0x73, 0x6d]

def version : List UInt8 := [0x01, 0x00, 0x00, 0x00]

/-- Seven bits a byte, the lowest first, in at most `left` bytes and 32 bits. -/
def size? (shift : Nat) : Nat → List UInt8 → Option (Nat × List UInt8)
  | 0, _ => none
  | _, [] => none
  | left + 1, byte :: rest =>
      let low := byte.toNat % 128
      if UInt32.size ≤ low <<< shift then none
      else if byte.toNat < 128 then some (low <<< shift, rest)
      else (size? (shift + 7) left rest).map fun (high, rest) => ((low <<< shift) + high, rest)

def readSize? (bytes : List UInt8) : Option (Nat × List UInt8) :=
  size? 0 5 bytes

def longestName : Nat := 100000

/-- Names of sections that described interfaces before components did. They ask for more than can
be compiled, so a module that has one is refused. -/
def withdrawnNames : List String := ["webidl-bindings", "wasm-interface-types"]

/-- The body of a custom section: a name and a payload. -/
def isCustomBody (body : List UInt8) : Bool :=
  match readSize? body with
  | none => false
  | some (length, rest) =>
      length ≤ longestName && length ≤ rest.length
        && (match Text.Utf8.decode? (rest.take length) with
          | none => false
          | some name => !withdrawnNames.contains name)

/-- A list of custom sections and nothing else; each section takes at least one byte. -/
def isSections : Nat → List UInt8 → Bool
  | _, [] => true
  | 0, _ => false
  | fuel + 1, kind :: rest =>
      kind = 0 && (match readSize? rest with
        | none => false
        | some (size, rest) =>
            size ≤ rest.length && isCustomBody (rest.take size)
              && isSections fuel (rest.drop size))

def hasMagic (bytes : List UInt8) : Bool :=
  bytes.take 4 = magic

def isValid (bytes : List UInt8) : Bool :=
  bytes.take 8 = magic ++ version && isSections bytes.length (bytes.drop 8)

end WasmTasks.BinaryModule
