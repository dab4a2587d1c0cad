/-!
What goes into functions and comes out of them: values of a few types, or a trap. References are
known to the host only by how they are shown.
-/

namespace WasmTasks

inductive ValueType where
  | i32
  | i64
  | f32
  | f64
  | v128
  | reference (name : String)
  deriving DecidableEq, Repr

namespace ValueType

def funcref : ValueType := reference "(ref null func)"

def name : ValueType → String
  | i32 => "i32"
  | i64 => "i64"
  | f32 => "f32"
  | f64 => "f64"
  | v128 => "v128"
  | reference name => name

def isInteger : ValueType → Bool
  | i32 => true
  | i64 => true
  | _ => false

def isFloat : ValueType → Bool
  | f32 => true
  | f64 => true
  | _ => false

end ValueType

inductive Value where
  | i32 (value : Int32)
  | i64 (value : Int64)
  | f32 (bits : Nat)
  | f64 (bits : Nat)
  | v128 (bits : Nat)
  | reference (type shown : String)
  deriving DecidableEq, Repr

namespace Value

def type : Value → ValueType
  | i32 _ => .i32
  | i64 _ => .i64
  | f32 _ => .f32
  | f64 _ => .f64
  | v128 _ => .v128
  | reference type _ => .reference type

/-- An argument as a parameter of the type, if it fits. -/
def ofArgument? (argument : Int64) : ValueType → Option Value
  | .i32 =>
      if Int32.minValue.toInt ≤ argument.toInt ∧ argument.toInt ≤ Int32.maxValue.toInt then
        some (i32 (.ofInt argument.toInt))
      else none
  | .i64 => some (i64 argument)
  | _ => none

def toInt64? : Value → Option Int64
  | i32 value => some value.toInt64
  | i64 value => some value
  | _ => none

def toInt : Value → Int
  | i32 value => value.toInt
  | i64 value => value.toInt
  | _ => 0

def describe : Value → String
  | i32 value => s!"I32({value.toInt})"
  | i64 value => s!"I64({value.toInt})"
  | f32 bits => s!"F32({bits})"
  | f64 bits => s!"F64({bits})"
  | v128 bits => s!"V128({bits})"
  | reference _ shown => shown

end Value

/-- Why guest code broke off. A failed call is told with the message, a failed start with the whole
chain of reasons. -/
structure Trap where
  /-- The name of the trap, unless the code failed in another way. -/
  code : Option String
  message : String
  chain : String
  /-- An interruption is no failure of the code's own: only a checkpoint raises it. -/
  own : code ≠ some "Interrupt"
  deriving DecidableEq, Repr

end WasmTasks
