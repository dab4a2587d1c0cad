import WasmTasks.Document.Decode

/-!
Points in time, as seconds and nanoseconds since the epoch. Surplus nanoseconds carry into the
seconds, and both the carry and the result must stay within their ranges.
-/

namespace WasmTasks

structure Timestamp where
  seconds : Nat
  nanoseconds : Nat
  deriving DecidableEq, Repr

namespace Timestamp

def encode (time : Timestamp) : Document :=
  .table [("secs_since_epoch", .int time.seconds), ("nanos_since_epoch", .int time.nanoseconds)]

structure Draft where
  seconds : Option Nat
  nanoseconds : Option Nat

def readSeconds (document : Document) : Except ShapeError Nat :=
  (Decoder.integer "u64" 0 (UInt64.size - 1) document).map Int.toNat

def readNanoseconds (document : Document) : Except ShapeError Nat :=
  (Decoder.integer "u32" 0 (UInt32.size - 1) document).map Int.toNat

/-- Unlike in other records an unknown field is refused. -/
def enter (draft : Draft) (entry : String × Document) : Except ShapeError Draft :=
  if entry.1 = "secs_since_epoch" then
    if draft.seconds.isSome then .error (.duplicateField "secs_since_epoch")
    else (readSeconds entry.2).map fun value => { draft with seconds := some value }
  else if entry.1 = "nanos_since_epoch" then
    if draft.nanoseconds.isSome then .error (.duplicateField "nanos_since_epoch")
    else (readNanoseconds entry.2).map fun value => { draft with nanoseconds := some value }
  else .error (.unknownField entry.1 "`secs_since_epoch` or `nanos_since_epoch`")

def enterAll : Draft → List (String × Document) → Except ShapeError Draft
  | draft, [] => .ok draft
  | draft, entry :: rest => do
      let next ← enter draft entry
      enterAll next rest

def carry (seconds nanoseconds : Nat) : Except ShapeError Timestamp :=
  let total := seconds + nanoseconds / 1000000000
  if UInt64.size ≤ total then .error (.refused "overflow deserializing SystemTime epoch offset")
  else .ok ⟨total, nanoseconds % 1000000000⟩

def checkRange (time : Timestamp) : Except ShapeError Timestamp :=
  if Int64.maxValue.toInt < time.seconds then .error (.refused "overflow deserializing SystemTime")
  else .ok time

def ofTable (fields : List (String × Document)) : Except ShapeError Timestamp := do
  let draft ← enterAll ⟨none, none⟩ fields
  match draft.seconds, draft.nanoseconds with
  | none, _ => .error (.missingField "secs_since_epoch")
  | some _, none => .error (.missingField "nanos_since_epoch")
  | some seconds, some nanoseconds => carry seconds nanoseconds

def ofList (dialect : Dialect) : List Document → Except ShapeError Timestamp
  | [] => .error (.tooShort 0 "struct SystemTime")
  | [seconds] => do
      let _ ← readSeconds seconds
      .error (.tooShort 1 "struct SystemTime")
  | first :: second :: rest => do
      let seconds ← readSeconds first
      let nanoseconds ← readNanoseconds second
      let time ← carry seconds nanoseconds
      match dialect, rest with
      | .json, _ :: _ => .error (.tooLong (rest.length + 2))
      | _, _ => pure time

def decode (dialect : Dialect) : Decoder Timestamp
  | .table fields => do checkRange (← ofTable fields)
  | .list items => do checkRange (← ofList dialect items)
  | .sections items => do checkRange (← ofList dialect items)
  | other => .error (.wrongType other.found "struct SystemTime")

end Timestamp

end WasmTasks
