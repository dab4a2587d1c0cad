import WasmTasks.Text.Hex
import WasmTasks.Text.Invisible
import WasmTasks.Text.Utf8

/-!
Text between double quotes, as it appears in messages that quote a name: quotes, backslashes and
line controls are written with a backslash, and invisible characters by their number. A name may also
be given as bytes.
-/

namespace WasmTasks.Text

def escape (c : Char) : List Char :=
  match c with
  | '"' => ['\\', '"']
  | '\\' => ['\\', '\\']
  | '\n' => ['\\', 'n']
  | '\t' => ['\\', 't']
  | '\r' => ['\\', 'r']
  | '\x00' => ['\\', '0']
  | c =>
      if isInvisible c then ['\\', 'u', '\x7b'] ++ Nat.toDigits 16 c.toNat ++ ['\x7d']
      else [c]

def quote (text : String) : String :=
  String.ofList ('"' :: text.toList.flatMap escape ++ ['"'])

/-- Bytes that are no text stand there by their number. -/
def escapeFragment : Utf8.Fragment → List Char
  | .char c => escape c
  | .broken bytes =>
      bytes.flatMap fun byte =>
        ['\\', 'x'] ++ (Hex.ofByte byte).map Char.toUpper

def quoteBytes (bytes : Bytes) : String :=
  String.ofList ('"' :: (Utf8.fragments none bytes).flatMap escapeFragment ++ ['"'])

end WasmTasks.Text
