/-!
Text as bytes in UTF-8. Not every list of bytes is a text; one that is none can still be shown, with
its broken parts marked.
-/

namespace WasmTasks

abbrev Bytes := List UInt8

namespace Text.Utf8

def encode (text : String) : Bytes :=
  text.toList.flatMap String.utf8EncodeChar

def decode? (bytes : Bytes) : Option String :=
  String.fromUTF8? bytes.toByteArray

def isText (bytes : Bytes) : Bool :=
  (decode? bytes).isSome

theorem toByteArray_encode (text : String) : (encode text).toByteArray = text.toByteArray := by
  have spelt := String.toByteArray_ofList (l := text.toList)
  rw [String.ofList_toList] at spelt
  exact spelt.symm

theorem toByteArray_injective {first second : Bytes}
    (same : first.toByteArray = second.toByteArray) : first = second := by
  have data := congrArg ByteArray.data same
  rw [List.data_toByteArray, List.data_toByteArray] at data
  exact List.toArray_inj data

/-- A text has one encoding, and what encodes no text is not decoded. -/
theorem decode?_eq_some_iff {bytes : Bytes} {text : String} :
    decode? bytes = some text ↔ encode text = bytes := by
  unfold decode? String.fromUTF8?
  constructor
  · intro decoded
    split at decoded
    · cases decoded
      exact toByteArray_injective (toByteArray_encode _)
    · cases decoded
  · rintro rfl
    simp only [toByteArray_encode]
    exact dif_pos text.isValidUTF8

@[simp] theorem decode?_encode (text : String) : decode? (encode text) = some text :=
  decode?_eq_some_iff.mpr rfl

theorem length_encode (text : String) : (encode text).length = text.utf8ByteSize := by
  rw [← List.size_toByteArray, toByteArray_encode]
  rfl

/-! Bytes that may be no text. -/

/-- A character, or the beginning of one that breaks off. -/
inductive Fragment where
  | char (value : Char)
  | broken (bytes : Bytes)

/-- A character that was begun: its bytes so far, how many are still to come, and the range of the
next one. -/
structure Begun where
  bytes : Bytes
  left : Nat
  low : UInt8
  high : UInt8

/-- The first byte tells how many follow it. It restricts the second one where a number would be
written too long, or be a surrogate or beyond the last code point. -/
def begin? (first : UInt8) : Option Begun :=
  if 0xc2 ≤ first ∧ first ≤ 0xdf then some ⟨[first], 1, 0x80, 0xbf⟩
  else if first = 0xe0 then some ⟨[first], 2, 0xa0, 0xbf⟩
  else if first = 0xed then some ⟨[first], 2, 0x80, 0x9f⟩
  else if 0xe1 ≤ first ∧ first ≤ 0xef then some ⟨[first], 2, 0x80, 0xbf⟩
  else if first = 0xf0 then some ⟨[first], 3, 0x90, 0xbf⟩
  else if 0xf1 ≤ first ∧ first ≤ 0xf3 then some ⟨[first], 3, 0x80, 0xbf⟩
  else if first = 0xf4 then some ⟨[first], 3, 0x80, 0x8f⟩
  else none

/-- The code point that the bytes of a character stand for. -/
def codePoint : Bytes → Nat
  | [] => 0
  | first :: rest =>
      rest.foldl (fun value byte => 64 * value + byte.toNat % 64)
        (first.toNat % 1 <<< (7 - (rest.length + 1)))

/-- Reads on behind a character that was begun, if there is one. -/
def fragments : Option Begun → Bytes → List Fragment
  | none, [] => []
  | some begun, [] => [.broken begun.bytes]
  | none, byte :: rest => start byte rest
  | some begun, byte :: rest =>
      if begun.low ≤ byte ∧ byte ≤ begun.high then
        let bytes := begun.bytes ++ [byte]
        if begun.left = 1 then .char (Char.ofNat (codePoint bytes)) :: fragments none rest
        else fragments (some ⟨bytes, begun.left - 1, 0x80, 0xbf⟩) rest
      else .broken begun.bytes :: start byte rest
where
  start (byte : UInt8) (rest : Bytes) : List Fragment :=
    if byte < 0x80 then .char (Char.ofNat byte.toNat) :: fragments none rest
    else
      match begin? byte with
      | some begun => fragments (some begun) rest
      | none => .broken [byte] :: fragments none rest

/-- The text, with a replacement character for every part that is none. -/
def lossy (bytes : Bytes) : String :=
  String.ofList ((fragments none bytes).map fun
    | .char c => c
    | .broken _ => '\ufffd')

end Text.Utf8

end WasmTasks
