import WasmTasks.Document.Basic

/-!
JSON text. A number with a fraction or an exponent is a float, and so is an integer outside the
64-bit ranges; the fields of an object are taken in the order of their names, the last of equal
names winning.
-/

namespace WasmTasks.Json

open WasmTasks.Text

def isBlank (c : Char) : Bool :=
  c = ' ' || c = '\n' || c = '\t' || c = '\r'

def skipBlank (text : List Char) : List Char :=
  text.dropWhile isBlank

/-- A code unit of a string: a character, or a number from a numeric escape. -/
inductive Unit16 where
  | char (c : Char)
  | code (n : Nat)

def hex4? (a b c d : Char) : Option Nat := do
  let w ← Hex.value? a
  let x ← Hex.value? b
  let y ← Hex.value? c
  let z ← Hex.value? d
  pure (((w * 16 + x) * 16 + y) * 16 + z)

/-- The units of a string up to its closing quote, and the text after it. -/
def units? : List Char → Option (List Unit16 × List Char)
  | [] => none
  | '"' :: rest => some ([], rest)
  | '\\' :: 'u' :: a :: b :: c :: d :: rest => do
      let code ← hex4? a b c d
      let (units, rest) ← units? rest
      pure (.code code :: units, rest)
  | '\\' :: c :: rest => do
      let plain ← match c with
        | '"' => some '"'
        | '\\' => some '\\'
        | '/' => some '/'
        | 'b' => some '\x08'
        | 'f' => some '\x0c'
        | 'n' => some '\n'
        | 'r' => some '\r'
        | 't' => some '\t'
        | _ => none
      let (units, rest) ← units? rest
      pure (.char plain :: units, rest)
  | c :: rest =>
      if c.toNat < 32 || c = '\\' then none
      else do
        let (units, rest) ← units? rest
        pure (.char c :: units, rest)

/-- Joins surrogate pairs; a lone surrogate is refused. -/
def joinUnits? : List Unit16 → Option (List Char)
  | [] => some []
  | .char c :: rest => (joinUnits? rest).map (c :: ·)
  | .code high :: .code low :: rest =>
      if 0xd800 ≤ high ∧ high < 0xdc00 then
        if 0xdc00 ≤ low ∧ low < 0xe000 then
          (joinUnits? rest).map
            (Char.ofNat (0x10000 + (high - 0xd800) * 0x400 + (low - 0xdc00)) :: ·)
        else none
      else if 0xdc00 ≤ high ∧ high < 0xe000 then none
      else (joinUnits? (.code low :: rest)).map (Char.ofNat high :: ·)
  | .code n :: rest =>
      if 0xd800 ≤ n ∧ n < 0xe000 then none else (joinUnits? rest).map (Char.ofNat n :: ·)

def string? (text : List Char) : Option (String × List Char) := do
  let (units, rest) ← units? text
  let chars ← joinUnits? units
  pure (String.ofList chars, rest)

def digitsValue (digits : List Char) : Nat :=
  digits.foldl (fun n c => 10 * n + (c.toNat - 48)) 0

def takeDigits (text : List Char) : List Char × List Char :=
  (text.takeWhile Char.isDigit, text.dropWhile Char.isDigit)

def exponent? : List Char → Option (Option Int × List Char)
  | c :: rest =>
      if c = 'e' || c = 'E' then
        let (negative, rest) := match rest with
          | '-' :: rest => (true, rest)
          | '+' :: rest => (false, rest)
          | rest => (false, rest)
        let (digits, rest) := takeDigits rest
        if digits.isEmpty then none
        else
          let size : Int := digitsValue digits
          some (some (if negative then -size else size), rest)
      else some (none, c :: rest)
  | [] => some (none, [])

/-- An integer that fits no 64-bit type, and the integer `-0`, are floats. -/
def integer (negative : Bool) (size : Nat) : Document :=
  let value : Int := if negative then -(size : Int) else size
  if negative && size = 0 then .float ⟨true, 0⟩
  else if Int64.minValue.toInt ≤ value ∧ value < UInt64.size then .int value
  else .float (.ofDecimal negative size 0)

def number? (text : List Char) : Option (Document × List Char) := do
  let (negative, text) := match text with
    | '-' :: rest => (true, rest)
    | rest => (false, rest)
  let (whole, rest) := takeDigits text
  if whole.isEmpty || (whole.length > 1 && whole.head? = some '0') then none
  else
    let (fraction, rest) ← match rest with
      | '.' :: rest =>
          let (digits, rest) := takeDigits rest
          if digits.isEmpty then none else some (digits, rest)
      | rest => some ([], rest)
    let (exponent, rest) ← exponent? rest
    if fraction.isEmpty && exponent.isNone then
      pure (integer negative (digitsValue whole), rest)
    else
      let power := exponent.getD 0 - fraction.length
      pure (.float (.ofDecimal negative (digitsValue (whole ++ fraction)) power), rest)

/-- Puts a field into a list ordered by names, in place of one of the same name. -/
def insertField (name : String) (value : Document) :
    List (String × Document) → List (String × Document)
  | [] => [(name, value)]
  | (other, held) :: rest =>
      if name < other then (name, value) :: (other, held) :: rest
      else if name = other then (name, value) :: rest
      else (other, held) :: insertField name value rest

mutual

/-- Reads one value; the fuel bounds the values and separators still to come. -/
def value? : Nat → List Char → Option (Document × List Char)
  | 0, _ => none
  | fuel + 1, text =>
      match skipBlank text with
      | '\x7b' :: rest =>
          match skipBlank rest with
          | '\x7d' :: rest => some (.table [], rest)
          | rest => fields? fuel [] rest
      | '[' :: rest =>
          match skipBlank rest with
          | ']' :: rest => some (.list [], rest)
          | rest => items? fuel [] rest
      | '"' :: rest => (string? rest).map fun (text, rest) => (.text text, rest)
      | 't' :: 'r' :: 'u' :: 'e' :: rest => some (.bool true, rest)
      | 'f' :: 'a' :: 'l' :: 's' :: 'e' :: rest => some (.bool false, rest)
      | 'n' :: 'u' :: 'l' :: 'l' :: rest => some (.null, rest)
      | rest => number? rest

def items? : Nat → List Document → List Char → Option (Document × List Char)
  | 0, _, _ => none
  | fuel + 1, read, text => do
      let (value, rest) ← value? fuel text
      match skipBlank rest with
      | ',' :: rest => items? fuel (value :: read) rest
      | ']' :: rest => pure (.list (value :: read).reverse, rest)
      | _ => none

def fields? : Nat → List (String × Document) → List Char → Option (Document × List Char)
  | 0, _, _ => none
  | fuel + 1, read, text =>
      match skipBlank text with
      | '"' :: rest => do
          let (name, rest) ← string? rest
          match skipBlank rest with
          | ':' :: rest =>
              let (value, rest) ← value? fuel rest
              match skipBlank rest with
              | ',' :: rest => fields? fuel (insertField name value read) rest
              | '\x7d' :: rest => pure (.table (insertField name value read), rest)
              | _ => none
          | _ => none
      | _ => none

end

def read? (text : String) : Option Document := do
  let chars := text.toList
  let (value, rest) ← value? (chars.length + 1) chars
  if (skipBlank rest).isEmpty then pure value else none

def escape (c : Char) : List Char :=
  match c with
  | '"' => ['\\', '"']
  | '\\' => ['\\', '\\']
  | '\n' => ['\\', 'n']
  | '\r' => ['\\', 'r']
  | '\t' => ['\\', 't']
  | '\x08' => ['\\', 'b']
  | '\x0c' => ['\\', 'f']
  | c => if c.toNat < 32 then ['\\', 'u'] ++ Hex.ofNatPadded 4 c.toNat else [c]

def quote (text : String) : String :=
  String.ofList ('"' :: text.toList.flatMap escape ++ ['"'])

mutual

def write : Document → String
  | .null => "null"
  | .bool value => toString value
  | .int value => toString value
  | .float value => value.compact
  | .text value => quote value
  | .moment spelling => quote spelling
  | .list items => "[" ++ String.intercalate "," (writeItems items) ++ "]"
  | .sections items => "[" ++ String.intercalate "," (writeItems items) ++ "]"
  | .table fields => "\x7b" ++ String.intercalate "," (writeFields fields) ++ "\x7d"

def writeItems : List Document → List String
  | [] => []
  | item :: rest => write item :: writeItems rest

def writeFields : List (String × Document) → List String
  | [] => []
  | (name, value) :: rest => (quote name ++ ":" ++ write value) :: writeFields rest

end

def layout (margin opening closing : String) (lines : List String) : String :=
  if lines.isEmpty then opening ++ closing
  else
    opening ++ "\n" ++ String.intercalate ",\n" (lines.map (margin ++ "  " ++ ·)) ++ "\n"
      ++ margin ++ closing

mutual

/-- Writes a value with one field or item a line, indented by two blanks a level. -/
def writePretty (margin : String) : Document → String
  | .list items => layout margin "[" "]" (prettyItems (margin ++ "  ") items)
  | .sections items => layout margin "[" "]" (prettyItems (margin ++ "  ") items)
  | .table fields => layout margin "\x7b" "\x7d" (prettyFields (margin ++ "  ") fields)
  | .null => "null"
  | .bool value => toString value
  | .int value => toString value
  | .float value => value.compact
  | .text value => quote value
  | .moment spelling => quote spelling

def prettyItems (margin : String) : List Document → List String
  | [] => []
  | item :: rest => writePretty margin item :: prettyItems margin rest

def prettyFields (margin : String) : List (String × Document) → List String
  | [] => []
  | (name, value) :: rest =>
      (quote name ++ ": " ++ writePretty margin value) :: prettyFields margin rest

end

end WasmTasks.Json
