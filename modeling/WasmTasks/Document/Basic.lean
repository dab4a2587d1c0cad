import WasmTasks.Number.Decimal
import WasmTasks.Text.Quoted

/-!
Configuration values before they are given a type. Both text notations are read into this one
shape; a date or time is a value of its own, which only one of them can write, and so is a list
whose items each stand under a header of their own.
-/

namespace WasmTasks

inductive Document where
  | null
  | bool (value : Bool)
  | int (value : Int)
  | float (value : Number.Double)
  | text (value : String)
  | moment (spelling : String)
  | list (items : List Document)
  | sections (items : List Document)
  | table (fields : List (String × Document))
  deriving Repr

/-- The notation a value was read from; the two word a few mistakes differently, and only JSON
objects to surplus list items. -/
inductive Dialect where
  | json
  | toml
  deriving DecidableEq, Repr

/-- What stood in the wrong place. -/
inductive Found where
  | null
  | bool (value : Bool)
  | int (value : Int)
  | float (value : Number.Double)
  | text (value : String)
  | sequence
  | map
  deriving DecidableEq, Repr

namespace Found

def describe (dialect : Dialect) : Found → String
  | null => "null"
  | bool value => s!"boolean `{value}`"
  | int value => s!"integer `{value}`"
  | float value =>
      let number := match dialect with
        | .json => value.compact
        | .toml => value.positional
      s!"floating point `{number}`"
  | text value => s!"string {Text.quote value}"
  | sequence => "sequence"
  | map => "map"

end Found

namespace Document

/-- The value as a message names it; a date or time counts as a map. -/
def found : Document → Found
  | null => .null
  | bool value => .bool value
  | int value => .int value
  | float value => .float value
  | text value => .text value
  | moment _ => .map
  | list _ => .sequence
  | sections _ => .sequence
  | table _ => .map

end Document

end WasmTasks
