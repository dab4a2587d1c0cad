import WasmTasks.Text.Hex
import WasmTasks.Text.Utf8

/-!
The text format of modules without content: the word `module` between parentheses, with a name after
it if there is one, and blanks and comments around them. A name is a dollar sign with a word or a
string behind it.
-/

namespace WasmTasks.TextModule

def isIdentifier (c : Char) : Bool :=
  '!' ≤ c && c ≤ '~' && !("\"(),;[]\x7b\x7d".toList.contains c)

/-- Characters that change how the text behind them is laid out are not allowed in comments and
strings. -/
def isConfusing (c : Char) : Bool :=
  [0x202a, 0x202b, 0x202d, 0x202e, 0x2066, 0x2067, 0x2068, 0x2069, 0x206c].contains c.toNat

/-- Where the reading of a string stands between two characters. -/
inductive Escape where
  | plain
  /-- Behind a backslash. -/
  | begun
  /-- Behind the first digit of a byte. -/
  | byte (high : Nat)
  /-- In front of the brace that opens a code point. -/
  | brace
  /-- Behind digits of a code point; none yet if there is no value. -/
  | point (value : Option Nat)
  /-- Behind an underscore between digits. -/
  | gap (value : Nat)
  deriving DecidableEq, Repr

namespace Escape

def letter? : Char → Option Char
  | '"' => some '"'
  | '\'' => some '\''
  | '\\' => some '\\'
  | 't' => some '\t'
  | 'n' => some '\n'
  | 'r' => some '\r'
  | _ => none

/-- Takes one character of a string: where the reading stands then, and the bytes that are
complete. -/
def step (mode : Escape) (c : Char) : Option (Escape × List UInt8) :=
  match mode with
  | plain =>
      if c = '\\' then some (begun, [])
      else if c.toNat < 0x20 ∨ c = '\x7f' ∨ isConfusing c then none
      else some (plain, Text.Utf8.encode c.toString)
  | begun =>
      match letter? c with
      | some meant => some (plain, Text.Utf8.encode meant.toString)
      | none =>
          if c = 'u' then some (brace, [])
          else (Text.Hex.value? c).map fun high => (byte high, [])
  | byte high => (Text.Hex.value? c).map fun low => (plain, [.ofNat (16 * high + low)])
  | brace => if c = '\x7b' then some (point none, []) else none
  | point none => (Text.Hex.value? c).map fun digit => (point (some digit), [])
  | point (some value) =>
      if c = '\x7d' then
        if value.isValidChar then some (plain, Text.Utf8.encode (Char.ofNat value).toString)
        else none
      else if c = '_' then some (gap value, [])
      else (Text.Hex.value? c).map fun digit => (point (some (16 * value + digit)), [])
  | gap value =>
      if c = '_' then some (gap value, [])
      else (Text.Hex.value? c).map fun digit => (point (some (16 * value + digit)), [])

end Escape

inductive Token where
  | opening
  | closing
  | word (text : String)
  /-- A name in the form of a string, by its bytes. -/
  | quotedName (bytes : List UInt8)
  deriving DecidableEq, Repr

inductive Mode where
  | blank
  | word (reversed : List Char)
  | line
  | block (depth : Nat)
  | quoted (mode : Escape) (bytes : List UInt8)

/-- Splits a text into parentheses, words and names; `none` if another character, an open comment or
an open string remains. -/
def tokens? : Mode → List Char → Option (List Token)
  | .blank, [] => some []
  | .word reversed, [] => some [.word (String.ofList reversed.reverse)]
  | .line, [] => some []
  | .block _, [] => none
  | .quoted _ _, [] => none
  | .line, c :: rest =>
      if c = '\n' ∨ c = '\r' then tokens? .blank rest
      else if isConfusing c then none
      else tokens? .line rest
  | .block depth, ';' :: ')' :: rest =>
      match depth with
      | 0 => tokens? .blank rest
      | outer + 1 => tokens? (.block outer) rest
  | .block depth, '(' :: ';' :: rest => tokens? (.block (depth + 1)) rest
  | .block depth, c :: rest => if isConfusing c then none else tokens? (.block depth) rest
  | .quoted mode bytes, c :: rest =>
      if mode = .plain ∧ c = '"' then (tokens? .blank rest).map (.quotedName bytes :: ·)
      else
        match mode.step c with
        | none => none
        | some (mode, more) => tokens? (.quoted mode (bytes ++ more)) rest
  | .word reversed, c :: rest =>
      if isIdentifier c then tokens? (.word (c :: reversed)) rest
      else if c = '"' then
        if reversed = ['$'] then tokens? (.quoted .plain []) rest else none
      else (separate c rest).map (.word (String.ofList reversed.reverse) :: ·)
  | .blank, c :: rest =>
      if isIdentifier c then tokens? (.word [c]) rest else separate c rest
where
  separate : Char → List Char → Option (List Token)
    | '(', ';' :: rest => tokens? (.block 0) rest
    | ';', ';' :: rest => tokens? .line rest
    | '(', rest => (tokens? .blank rest).map (.opening :: ·)
    | ')', rest => (tokens? .blank rest).map (.closing :: ·)
    | c, rest => if " \t\n\r".toList.contains c then tokens? .blank rest else none

/-- A name is not empty, and one in the form of a string is text. -/
def isName : Token → Bool
  | .word text => text.startsWith "$" && 1 < text.length
  | .quotedName bytes => !bytes.isEmpty && Text.Utf8.isText bytes
  | _ => false

/-- A module that may have a name and holds nothing. -/
def isValid (text : String) : Bool :=
  match tokens? .blank text.toList with
  | some [.opening, .word keyword, .closing] => keyword = "module"
  | some [.opening, .word keyword, name, .closing] => keyword = "module" && isName name
  | _ => false

end WasmTasks.TextModule
