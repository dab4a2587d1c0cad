import WasmTasks.Document.Basic

/-!
Giving documents a type. A record is read from a table, where fields may stand in any order, under
any of their names and next to unknown ones, or from the list of its fields in declaration order.
-/

namespace WasmTasks

inductive ShapeError where
  | missingField (name : String)
  | duplicateField (name : String)
  | wrongType (found : Found) (expected : String)
  | wrongValue (found : Found) (expected : String)
  | tooShort (length : Nat) (expected : String)
  | tooLong (length : Nat)
  | unknownVariant (name expected : String)
  | unknownField (name expected : String)
  | tooManyEntries
  | noEntries
  | refused (reason : String)
  deriving DecidableEq, Repr

namespace ShapeError

def message (dialect : Dialect) : ShapeError → String
  | missingField name => s!"missing field `{name}`"
  | duplicateField name => s!"duplicate field `{name}`"
  | wrongType found expected => s!"invalid type: {found.describe dialect}, expected {expected}"
  | wrongValue found expected => s!"invalid value: {found.describe dialect}, expected {expected}"
  | tooShort length expected => s!"invalid length {length}, expected {expected}"
  | tooLong length => s!"invalid length {length}, expected fewer elements in array"
  | unknownVariant name expected => s!"unknown variant `{name}`, expected `{expected}`"
  | unknownField name expected => s!"unknown field `{name}`, expected {expected}"
  | tooManyEntries => "wanted exactly 1 element, more than 1 element"
  | noEntries => "wanted exactly 1 element, found 0 elements"
  | refused reason => reason

end ShapeError

abbrev Decoder (α : Type) := Document → Except ShapeError α

namespace Decoder

def bool : Decoder Bool
  | .bool value => .ok value
  | other => .error (.wrongType other.found "a boolean")

def text : Decoder String
  | .text value => .ok value
  | other => .error (.wrongType other.found "a string")

def integer (name : String) (low high : Int) : Decoder Int
  | .int value =>
      if low ≤ value ∧ value ≤ high then .ok value
      else .error (.wrongValue (.int value) name)
  | other => .error (.wrongType other.found name)

def int64 : Decoder Int64 := fun document =>
  (integer "i64" Int64.minValue.toInt Int64.maxValue.toInt document).map Int64.ofInt

def uint64 (name : String) : Decoder UInt64 := fun document =>
  (integer name 0 (UInt64.size - 1) document).map fun value => UInt64.ofNat value.toNat

def uint32 : Decoder UInt32 := fun document =>
  (integer "u32" 0 (UInt32.size - 1) document).map fun value => UInt32.ofNat value.toNat

def items (decode : Decoder α) : List Document → Except ShapeError (List α)
  | [] => .ok []
  | head :: rest => do
      let value ← decode head
      let values ← items decode rest
      pure (value :: values)

def list (decode : Decoder α) : Decoder (List α)
  | .list documents => items decode documents
  | .sections documents => items decode documents
  | other => .error (.wrongType other.found "a sequence")

def option (decode : Decoder α) : Decoder (Option α)
  | .null => .ok none
  | other => (decode other).map some

/-- A choice with one alternative, given by its name or as a table with the name as its only key. -/
def unitVariant (dialect : Dialect) (name : String) : Decoder Unit
  | .text value => checkName value
  | .table fields =>
      match dialect, fields with
      | .json, [(key, value)] => do
          checkName key
          match value with
          | .null => pure ()
          | other => .error (.wrongType other.found "unit")
      | .json, _ => .error (.wrongValue .map "map with a single key")
      | .toml, [] => .error .noEntries
      | .toml, [(key, value)] => do
          checkName key
          match value with
          | .list [] => pure ()
          | .list _ => .error (.refused "expected empty table")
          | .sections [] => pure ()
          | .sections _ => .error (.refused "expected empty array")
          | .table [] => pure ()
          | .table _ => .error (.refused "expected empty table")
          | .text _ => .error (.refused "expected table, found string")
          | .int _ => .error (.refused "expected table, found integer")
          | .float _ => .error (.refused "expected table, found float")
          | .bool _ => .error (.refused "expected table, found boolean")
          | .moment _ => .error (.refused "expected table, found datetime")
          | .null => .error (.refused "expected table, found nothing")
      | .toml, _ => .error .tooManyEntries
  | other =>
      match dialect with
      | .json => .error (.wrongType other.found "string or map")
      | .toml => .error (.refused "wanted string or table")
where
  checkName (value : String) : Except ShapeError Unit :=
    if value = name then .ok () else .error (.unknownVariant value name)

end Decoder

/-- One field of a record type: what it is called, and how a document changes the record. -/
structure Field (α : Type) where
  name : String
  aliases : List String
  required : Bool
  read : Document → Except ShapeError (α → α)

namespace Field

def optional (name : String) (aliases : List String) (decode : Decoder β) (set : β → α → α) :
    Field α :=
  ⟨name, aliases, false, fun document => (decode document).map set⟩

def mandatory (name : String) (decode : Decoder β) (set : β → α → α) : Field α :=
  ⟨name, [], true, fun document => (decode document).map set⟩

def answersTo (field : Field α) (name : String) : Bool :=
  field.name = name || field.aliases.contains name

end Field

/-- A record type: fields in declaration order, and the value all of whose fields are omitted. -/
structure RecordType (α : Type) where
  name : String
  fields : List (Field α)
  initial : α

namespace RecordType

structure Draft (α : Type) where
  value : α
  given : List String

variable {α : Type}

/-- Unknown names are ignored; a field given before is refused before its value is looked at. -/
def enter (type : RecordType α) (draft : Draft α) (entry : String × Document) :
    Except ShapeError (Draft α) :=
  match type.fields.find? fun field => field.answersTo entry.1 with
  | none => .ok draft
  | some field =>
      if draft.given.contains field.name then .error (.duplicateField field.name)
      else (field.read entry.2).map fun change =>
        ⟨change draft.value, field.name :: draft.given⟩

def enterAll (type : RecordType α) : Draft α → List (String × Document) →
    Except ShapeError (Draft α)
  | draft, [] => .ok draft
  | draft, entry :: rest => do
      let next ← type.enter draft entry
      type.enterAll next rest

def close (type : RecordType α) (draft : Draft α) : Except ShapeError α :=
  match type.fields.find? fun field => field.required && !draft.given.contains field.name with
  | some field => .error (.missingField field.name)
  | none => .ok draft.value

def ofTable (type : RecordType α) (fields : List (String × Document)) : Except ShapeError α := do
  let draft ← type.enterAll ⟨type.initial, []⟩ fields
  type.close draft

def announce (type : RecordType α) : String :=
  let count := type.fields.length
  let noun := if count = 1 then "element" else "elements"
  s!"struct {type.name} with {count} {noun}"

/-- Reads the fields at their positions; what is left over when the list ends keeps its default. -/
def enterItems (type : RecordType α) :
    α → Nat → List (Field α) → List Document → Except ShapeError (α × List Document)
  | value, _, [], rest => .ok (value, rest)
  | value, position, field :: fields, [] =>
      if field.required then .error (.tooShort position type.announce)
      else type.enterItems value (position + 1) fields []
  | value, position, field :: fields, item :: items => do
      let change ← field.read item
      type.enterItems (change value) (position + 1) fields items

def ofList (dialect : Dialect) (type : RecordType α) (items : List Document) :
    Except ShapeError α := do
  let (value, rest) ← type.enterItems type.initial 0 type.fields items
  match dialect, rest with
  | .json, _ :: _ => .error (.tooLong items.length)
  | _, _ => pure value

/-- A date counts as a table with no known field. -/
def decode (dialect : Dialect) (type : RecordType α) : Decoder α
  | .table fields => type.ofTable fields
  | .moment _ => type.ofTable []
  | .list items => type.ofList dialect items
  | .sections items => type.ofList dialect items
  | other => .error (.wrongType other.found s!"struct {type.name}")

end RecordType

end WasmTasks
