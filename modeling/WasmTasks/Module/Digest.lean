import WasmTasks.Text.Hex

/-!
The content hash of a module file: SipHash with one compression round, three finalization rounds
and a zero key, over the length of the content and the content itself.
-/

namespace WasmTasks.Digest

structure Lanes where
  v0 : UInt64
  v1 : UInt64
  v2 : UInt64
  v3 : UInt64

def rotate (word : UInt64) (count : UInt64) : UInt64 :=
  (word <<< count) ||| (word >>> (64 - count))

namespace Lanes

def initial : Lanes :=
  ⟨0x736f6d6570736575, 0x646f72616e646f6d, 0x6c7967656e657261, 0x7465646279746573⟩

def round (lanes : Lanes) : Lanes :=
  let v0 := lanes.v0 + lanes.v1
  let v1 := rotate lanes.v1 13 ^^^ v0
  let v0 := rotate v0 32
  let v2 := lanes.v2 + lanes.v3
  let v3 := rotate lanes.v3 16 ^^^ v2
  let v0 := v0 + v3
  let v3 := rotate v3 21 ^^^ v0
  let v2 := v2 + v1
  let v1 := rotate v1 17 ^^^ v2
  let v2 := rotate v2 32
  ⟨v0, v1, v2, v3⟩

def absorb (lanes : Lanes) (word : UInt64) : Lanes :=
  let mixed := { lanes with v3 := lanes.v3 ^^^ word }.round
  { mixed with v0 := mixed.v0 ^^^ word }

def finish (lanes : Lanes) : UInt64 :=
  let last := { lanes with v2 := lanes.v2 ^^^ 0xff }.round.round.round
  last.v0 ^^^ last.v1 ^^^ last.v2 ^^^ last.v3

end Lanes

/-- Up to eight bytes as one word, the first byte lowest. -/
def word : List UInt8 → UInt64
  | [] => 0
  | byte :: rest => byte.toUInt64 ||| (word rest <<< 8)

/-- Absorbs all whole words, then the remaining bytes under the lowest byte of the length. -/
def absorbAll (length : Nat) (lanes : Lanes) : List UInt8 → Lanes
  | a :: b :: c :: d :: e :: f :: g :: h :: rest =>
      absorbAll length (lanes.absorb (word [a, b, c, d, e, f, g, h])) rest
  | rest => lanes.absorb (word rest ||| (UInt64.ofNat length <<< 56))

def sipHash (bytes : List UInt8) : UInt64 :=
  (absorbAll bytes.length .initial bytes).finish

def lengthBytes (length : Nat) : List UInt8 :=
  (List.range 8).map fun index => UInt8.ofNat (length >>> (8 * index))

/-- The hash of a file with this content, in sixteen digits. -/
def contentHash (content : List UInt8) : String :=
  String.ofList
    (Text.Hex.ofNatPadded 16 (sipHash (lengthBytes content.length ++ content)).toNat)

end WasmTasks.Digest
