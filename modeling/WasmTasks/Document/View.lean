import WasmTasks.Document.Basic

/-!
Lenient views of documents, for descriptions whose shape is not checked: what is missing or of
another kind reads as nothing, zero, false or empty.
-/

namespace WasmTasks.Document

def get (document : Document) (name : String) : Document :=
  match document with
  | table fields => (fields.lookup name).getD null
  | _ => null

def toFields : Document → List (String × Document)
  | table fields => fields
  | _ => []

def contains (document : Document) (name : String) : Bool :=
  document.toFields.any fun field => field.1 = name

def isNull : Document → Bool
  | null => true
  | _ => false

/-- Whether a field is there and is not null. -/
def has (document : Document) (name : String) : Bool :=
  !(document.get name).isNull

def toText? : Document → Option String
  | text value => some value
  | _ => none

def toText (document : Document) : String :=
  document.toText?.getD ""

def toInt? : Document → Option Int
  | int value => some value
  | _ => none

def toInt (document : Document) : Int :=
  document.toInt?.getD 0

/-- The integer that a number comes to; integers beyond 64 bits are read as floats. -/
def toWhole : Document → Int
  | int value => value
  | float value => value.truncate
  | _ => 0

def toNat (document : Document) : Nat :=
  document.toInt.toNat

def toNat? (document : Document) : Option Nat :=
  document.toInt?.map Int.toNat

def toBool : Document → Bool
  | bool value => value
  | _ => false

def toList : Document → List Document
  | list items => items
  | sections items => items
  | _ => []

end WasmTasks.Document
