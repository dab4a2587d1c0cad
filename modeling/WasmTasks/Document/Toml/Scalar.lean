import WasmTasks.Document.Basic
import WasmTasks.Document.Json

/-!
TOML scalars: the four kinds of strings, and the words that stand for numbers, booleans and points
in time.
-/

namespace WasmTasks.Toml

open WasmTasks.Text

/-- Characters that may stand in comments, and in strings apart from their delimiters. -/
def isPlain (c : Char) : Bool :=
  c = '\t' || (0x20 ≤ c.toNat && c.toNat ≠ 0x7f)

def isBlank (c : Char) : Bool :=
  c = ' ' || c = '\t'

def skipBlank (text : List Char) : List Char :=
  text.dropWhile isBlank

def newline? : List Char → Option (List Char)
  | '\n' :: rest => some rest
  | '\r' :: '\n' :: rest => some rest
  | _ => none

def skipSpace : List Char → List Char
  | ' ' :: rest => skipSpace rest
  | '\t' :: rest => skipSpace rest
  | '\n' :: rest => skipSpace rest
  | '\r' :: '\n' :: rest => skipSpace rest
  | rest => rest

theorem length_skipSpace_le (text : List Char) : (skipSpace text).length ≤ text.length := by
  fun_induction skipSpace text <;> simp_all <;> omega

def scalar? (digits : List Char) : Option Char := do
  let values ← digits.mapM Hex.value?
  let n := values.foldl (fun n digit => 16 * n + digit) 0
  if n < 0xd800 ∨ (0xe000 ≤ n ∧ n < 0x110000) then some (Char.ofNat n) else none

def simpleEscape? : Char → Option Char
  | 'b' => some '\x08'
  | 't' => some '\t'
  | 'n' => some '\n'
  | 'f' => some '\x0c'
  | 'r' => some '\r'
  | '"' => some '"'
  | '\\' => some '\\'
  | _ => none

def escape? : List Char → Option (Char × List Char)
  | 'u' :: a :: b :: c :: d :: rest => (scalar? [a, b, c, d]).map fun char => (char, rest)
  | 'U' :: a :: b :: c :: d :: e :: f :: g :: h :: rest =>
      (scalar? [a, b, c, d, e, f, g, h]).map fun char => (char, rest)
  | c :: rest => (simpleEscape? c).map fun char => (char, rest)
  | [] => none

theorem length_of_escape? {text rest : List Char} {c : Char}
    (found : escape? text = some (c, rest)) : rest.length < text.length := by
  unfold escape? at found
  split at found
  all_goals first
    | (simp only [Option.map_eq_some_iff, Prod.mk.injEq] at found
       obtain ⟨_, _, _, rfl⟩ := found
       simp only [List.length_cons]
       omega)
    | cases found

def basicString? (text : List Char) : Option (List Char × List Char) :=
  match text with
  | [] => none
  | '"' :: rest => some ([], rest)
  | '\\' :: rest =>
      match _escaped : escape? rest with
      | none => none
      | some (char, rest) => (basicString? rest).map fun (chars, rest) => (char :: chars, rest)
  | c :: rest =>
      if isPlain c then (basicString? rest).map fun (chars, rest) => (c :: chars, rest) else none
termination_by text.length
decreasing_by
  · exact Nat.lt_succ_of_lt (length_of_escape? _escaped)
  · exact Nat.lt_succ_self _

def literalString? : List Char → Option (List Char × List Char)
  | [] => none
  | '\'' :: rest => some ([], rest)
  | c :: rest =>
      if isPlain c then (literalString? rest).map fun (chars, rest) => (c :: chars, rest) else none

/-- A backslash at the end of a line swallows all space up to the next other character. -/
def continuation? (text : List Char) : Option (List Char) :=
  (newline? (skipBlank text)).map skipSpace

theorem length_of_continuation? {text rest : List Char} (found : continuation? text = some rest) :
    rest.length < text.length := by
  simp only [continuation?, Option.map_eq_some_iff] at found
  obtain ⟨after, ended, same⟩ := found
  have space := length_skipSpace_le after
  have blank : (skipBlank text).length ≤ text.length :=
    (List.dropWhile_suffix isBlank).length_le
  have shorter : after.length < (skipBlank text).length := by
    unfold newline? at ended
    split at ended
    · rename_i starts
      cases ended
      rw [starts]
      exact Nat.lt_succ_self _
    · rename_i starts
      cases ended
      rw [starts, List.length_cons, List.length_cons]
      omega
    · cases ended
  subst same
  omega

/-- A string between triple double quotes. Up to two quotes may stand before the closing ones. -/
def longBasicString? (text : List Char) : Option (List Char × List Char) :=
  match text with
  | [] => none
  | '"' :: '"' :: '"' :: '"' :: '"' :: rest => some (['"', '"'], rest)
  | '"' :: '"' :: '"' :: '"' :: rest => some (['"'], rest)
  | '"' :: '"' :: '"' :: rest => some ([], rest)
  | '\r' :: '\n' :: rest =>
      (longBasicString? rest).map fun (chars, rest) => ('\n' :: chars, rest)
  | '\\' :: rest =>
      match _continued : continuation? rest with
      | some rest => longBasicString? rest
      | none =>
          match _escaped : escape? rest with
          | none => none
          | some (char, rest) =>
              (longBasicString? rest).map fun (chars, rest) => (char :: chars, rest)
  | c :: rest =>
      if isPlain c || c = '\n' then
        (longBasicString? rest).map fun (chars, rest) => (c :: chars, rest)
      else none
termination_by text.length
decreasing_by
  · exact Nat.lt_add_of_pos_right (by decide : 0 < 2)
  · exact Nat.lt_succ_of_lt (length_of_continuation? _continued)
  · exact Nat.lt_succ_of_lt (length_of_escape? _escaped)
  · exact Nat.lt_succ_self _

def longLiteralString? : List Char → Option (List Char × List Char)
  | [] => none
  | '\'' :: '\'' :: '\'' :: '\'' :: '\'' :: rest => some (['\'', '\''], rest)
  | '\'' :: '\'' :: '\'' :: '\'' :: rest => some (['\''], rest)
  | '\'' :: '\'' :: '\'' :: rest => some ([], rest)
  | '\r' :: '\n' :: rest =>
      (longLiteralString? rest).map fun (chars, rest) => ('\n' :: chars, rest)
  | c :: rest =>
      if isPlain c || c = '\n' then
        (longLiteralString? rest).map fun (chars, rest) => (c :: chars, rest)
      else none

/-- A line end right after the opening quotes does not count. -/
def afterOpening (text : List Char) : List Char :=
  (newline? text).getD text

def string? : List Char → Option (String × List Char)
  | '"' :: '"' :: '"' :: rest => ofChars (longBasicString? (afterOpening rest))
  | '\'' :: '\'' :: '\'' :: rest => ofChars (longLiteralString? (afterOpening rest))
  | '"' :: rest => ofChars (basicString? rest)
  | '\'' :: rest => ofChars (literalString? rest)
  | _ => none
where
  ofChars : Option (List Char × List Char) → Option (String × List Char) :=
    Option.map fun (chars, rest) => (String.ofList chars, rest)

/-- Digits with single underscores between them. -/
def digits? (isDigit : Char → Bool) : List Char → Option (List Char)
  | [] => none
  | [c] => if isDigit c then some [c] else none
  | c :: '_' :: rest =>
      if isDigit c then (digits? isDigit rest).map (c :: ·) else none
  | c :: rest =>
      if isDigit c then (digits? isDigit rest).map (c :: ·) else none

def sign : List Char → Bool × List Char
  | '-' :: rest => (true, rest)
  | '+' :: rest => (false, rest)
  | text => (false, text)

def decimal? (text : List Char) : Option Nat := do
  let digits ← digits? Char.isDigit text
  if digits.length > 1 ∧ digits.head? = some '0' then none else some (Json.digitsValue digits)

def radixValue (radix : Nat) (digits : List Char) : Nat :=
  digits.foldl (fun n c => radix * n + (Hex.value? c).getD 0) 0

def isDigitOf (radix : Nat) (c : Char) : Bool :=
  match Hex.value? c with
  | some value => value < radix
  | none => false

def magnitude? : List Char → Option Nat
  | '0' :: 'x' :: rest => (digits? (isDigitOf 16) rest).map (radixValue 16)
  | '0' :: 'o' :: rest => (digits? (isDigitOf 8) rest).map (radixValue 8)
  | '0' :: 'b' :: rest => (digits? (isDigitOf 2) rest).map (radixValue 2)
  | _ => none

/-- Integers are 64 bits wide; only decimal ones may have a sign. -/
def integer? (word : List Char) : Option Document := do
  let value : Int ← match magnitude? word with
    | some n => some (n : Int)
    | none =>
        let (negative, digits) := sign word
        (decimal? digits).map fun n => if negative then -(n : Int) else n
  if Int64.minValue.toInt ≤ value ∧ value ≤ Int64.maxValue.toInt then some (.int value) else none

def exponent? : List Char → Option Int
  | [] => some 0
  | _ :: rest =>
      let (negative, digits) := sign rest
      (digits? Char.isDigit digits).map fun digits =>
        let size : Int := Json.digitsValue digits
        if negative then -size else size

def isExponentMark (c : Char) : Bool :=
  c = 'e' || c = 'E'

/-- A number with a fraction, an exponent or both; one beyond all finite numbers is refused, unless
it is negative. -/
def finite? (word : List Char) : Option Document := do
  let (negative, text) := sign word
  let mantissa := text.takeWhile (!isExponentMark ·)
  let mark := text.dropWhile (!isExponentMark ·)
  let whole := mantissa.takeWhile (· ≠ '.')
  let point := mantissa.dropWhile (· ≠ '.')
  if mark.isEmpty && point.isEmpty then none
  else
    let _ ← decimal? whole
    let wholeDigits ← digits? Char.isDigit whole
    let fraction ← match point with
      | [] => some []
      | _ :: digits => digits? Char.isDigit digits
    let exponent ← exponent? mark
    let value := Number.Double.ofDecimal negative (Json.digitsValue (wholeDigits ++ fraction))
      (exponent - fraction.length)
    if value = .infinite false then none else some (.float value)

def special? (word : List Char) : Option Document :=
  let (negative, name) := sign word
  if name = ['i', 'n', 'f'] then some (.float (.infinite negative))
  else if name = ['n', 'a', 'n'] then some (.float .nan)
  else none

def pair? (low high : Nat) : List Char → Option (Nat × List Char)
  | a :: b :: rest =>
      let n := Json.digitsValue [a, b]
      if a.isDigit && b.isDigit && low ≤ n && n ≤ high then some (n, rest) else none
  | _ => none

def daysIn (year month : Nat) : Nat :=
  if month = 2 then
    if year % 4 = 0 ∧ (year % 100 ≠ 0 ∨ year % 400 = 0) then 29 else 28
  else if month = 4 ∨ month = 6 ∨ month = 9 ∨ month = 11 then 30
  else 31

def date? : List Char → Option (List Char)
  | a :: b :: c :: d :: '-' :: rest =>
      if [a, b, c, d].all Char.isDigit then
        match pair? 1 12 rest with
        | some (month, '-' :: rest) =>
            (pair? 1 (daysIn (Json.digitsValue [a, b, c, d]) month) rest).map Prod.snd
        | _ => none
      else none
  | _ => none

def time? (text : List Char) : Option (List Char) :=
  match pair? 0 23 text with
  | some (_, ':' :: rest) =>
      match pair? 0 59 rest with
      | some (_, ':' :: rest) =>
          match pair? 0 60 rest with
          | some (_, '.' :: rest) =>
              if (rest.takeWhile Char.isDigit).isEmpty then none
              else some (rest.dropWhile Char.isDigit)
          | some (_, rest) => some rest
          | none => none
      | _ => none
  | _ => none

def isOffset : List Char → Bool
  | [] => true
  | ['Z'] => true
  | ['z'] => true
  | sign :: rest =>
      (sign = '+' || sign = '-') && (match pair? 0 23 rest with
        | some (_, ':' :: rest) => (pair? 0 59 rest).map Prod.snd = some []
        | _ => false)

def isTimeOfDay (word : List Char) : Bool :=
  match time? word with
  | some rest => isOffset rest
  | none => false

/-- Whether a word is a date, with or without a time, or a time alone. -/
def isMoment (word : List Char) : Bool :=
  match date? word with
  | some [] => true
  | some (mark :: rest) => (mark = 'T' || mark = 't' || mark = ' ') && isTimeOfDay rest
  | none => time? word = some []

def ofWord? (word : List Char) : Option Document :=
  if word = "true".toList then some (.bool true)
  else if word = "false".toList then some (.bool false)
  else if isMoment word then some (.moment (String.ofList word))
  else
    match special? word with
    | some value => some value
    | none =>
        match finite? word with
        | some value => some value
        | none => integer? word

def isWordChar (c : Char) : Bool :=
  c.isAlphanum || c = '_' || c = '+' || c = '-' || c = '.' || c = ':'

/-- The word that starts here; a date and a time may have a blank between them. -/
def takeWord (text : List Char) : List Char × List Char :=
  let word := text.takeWhile isWordChar
  let rest := text.dropWhile isWordChar
  match rest with
  | ' ' :: c :: more =>
      if date? word = some [] ∧ c.isDigit then
        (word ++ ' ' :: (c :: more).takeWhile isWordChar, (c :: more).dropWhile isWordChar)
      else (word, rest)
  | _ => (word, rest)

end WasmTasks.Toml
