import WasmTasks.Text.Utf8

/-!
Linear memory: a number of pages, the most it may grow to, and a byte at every address. Reads and
writes succeed exactly when their whole range lies below the size.
-/

namespace WasmTasks

def Memory.pageSize : Nat := 65536

/-- The most bytes that one object of the host has. -/
def largestObject : Nat := UInt64.size / 2 - 1

structure Memory where
  pages : Nat
  limit : Nat
  byte : Nat → UInt8
  within : pages ≤ limit
  addressable : limit * Memory.pageSize ≤ largestObject

namespace Memory

/-- A memory that nothing was written to. -/
def blank (pages limit : Nat) (within : pages ≤ limit)
    (addressable : limit * pageSize ≤ largestObject) : Memory :=
  ⟨pages, limit, fun _ => 0, within, addressable⟩

def size (memory : Memory) : Nat :=
  memory.pages * pageSize

/-- Adds pages, unless there would be too many. -/
def grow? (memory : Memory) (pages : Nat) : Option Memory :=
  if within : memory.pages + pages ≤ memory.limit then
    some { memory with pages := memory.pages + pages, within := within }
  else none

theorem size_le_largestObject (memory : Memory) : memory.size ≤ largestObject :=
  Nat.le_trans (Nat.mul_le_mul_right pageSize memory.within) memory.addressable

def fits (memory : Memory) (offset length : Nat) : Bool :=
  offset + length ≤ memory.size

def read? (memory : Memory) (offset length : Nat) : Option (Bytes) :=
  if memory.fits offset length then
    some ((List.range length).map fun index => memory.byte (offset + index))
  else none

/-- The memory with the bytes laid over it from the offset on. -/
def overlay (memory : Memory) (offset : Nat) (bytes : Bytes) : Memory :=
  let written := bytes.toArray
  { memory with
    byte := fun address =>
      if offset ≤ address then (written[address - offset]?).getD (memory.byte address)
      else memory.byte address }

def write? (memory : Memory) (offset : Nat) (bytes : Bytes) : Option Memory :=
  if memory.fits offset bytes.length then some (memory.overlay offset bytes) else none

/-- The sum of `count` bytes from the address on, added to `total`. -/
def sum (memory : Memory) : Nat → Nat → Nat → Nat
  | 0, _, total => total
  | count + 1, address, total =>
      memory.sum count (address + 1) (total + (memory.byte address).toNat)

theorem byte_overlay_of_lt (memory : Memory) {offset address : Nat} (bytes : Bytes)
    (before : address < offset) :
    (memory.overlay offset bytes).byte address = memory.byte address := by
  simp [overlay, Nat.not_le_of_lt before]

theorem byte_overlay_of_le (memory : Memory) {offset address : Nat} (bytes : Bytes)
    (behind : offset + bytes.length ≤ address) :
    (memory.overlay offset bytes).byte address = memory.byte address := by
  have start : offset ≤ address := by omega
  have outside : bytes.length ≤ address - offset := by omega
  simp [overlay, start, outside]

theorem byte_overlay (memory : Memory) {offset index : Nat} (bytes : Bytes)
    (inside : index < bytes.length) :
    (memory.overlay offset bytes).byte (offset + index) = bytes[index] := by
  simp [overlay, inside]

end Memory

end WasmTasks
