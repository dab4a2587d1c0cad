import WasmTasks.Guest.Memory
import WasmTasks.Guest.Value

/-!
Guests as the host knows them. A module has imports, exports, a state that its instances begin in,
and maybe a start function. What its code computes is left open; the host learns in which state the
code comes to each of its checkpoints and how it ends.
-/

namespace WasmTasks

structure Import where
  space : String
  name : String
  deriving DecidableEq, Repr

/-- The state of an instance: its memories, and whatever else its code keeps. -/
structure Instance (ν : Type) where
  memories : List Memory
  globals : ν

/-- How code ends: the loop passes and inner calls it made on the way, what it returned or why it
broke off, and the state it leaves. -/
structure Work (ν : Type) where
  passes : Nat
  outcome : Except Trap (List Value)
  state : Instance ν

/-- What code does once it is called: the state in which it comes to each checkpoint, the entry being
the first and every loop pass or inner call another one, and how it ends if it ends. -/
structure Activity (ν : Type) where
  reached : Nat → Instance ν
  ending : Option (Work ν)

namespace Activity

/-- Memories are neither made nor taken away. -/
structure Keeps {ν : Type} (count : Nat) (activity : Activity ν) : Prop where
  reached : ∀ checkpoint, (activity.reached checkpoint).memories.length = count
  ending : ∀ work, activity.ending = some work → work.state.memories.length = count

end Activity

structure Code (ν : Type) where
  run : List Value → Instance ν → Activity ν
  keeps : ∀ args state, (run args state).Keeps state.memories.length

structure Function (ν : Type) where
  params : List ValueType
  results : List ValueType
  code : Code ν
  /-- Arguments of the parameter types lead to values of the result types. -/
  typed : ∀ args state work values, args.map Value.type = params →
    (code.run args state).ending = some work → work.outcome = .ok values →
      values.map Value.type = results

/-- Something that a module exports; what the host does not ask for is left out. -/
inductive Export (ν : Type) where
  | memory (index : Nat)
  | function (function : Function ν)

structure Guest (ν : Type) where
  imports : List Import
  exports : List (String × Export ν)
  initial : Instance ν
  /-- Why no instance can be made although nothing is imported. -/
  obstacle : Option String
  start : Option (Code ν)
  exported : ∀ name index, (name, .memory index) ∈ exports → index < initial.memories.length

namespace Guest

variable {ν : Type}

def empty (globals : ν) : Guest ν :=
  ⟨[], [], ⟨[], globals⟩, none, none, by simp⟩

def function? (guest : Guest ν) (name : String) : Option (Function ν) :=
  guest.exports.findSome? fun
    | (exported, .function function) => if exported = name then some function else none
    | _ => none

/-- The memory the host sees: the one exported as `memory`, else the first exported one. -/
def exportedMemory? (guest : Guest ν) : Option Nat :=
  (guest.exports.findSome? fun
    | (exported, .memory index) => if exported = "memory" then some index else none
    | _ => none) <|>
  guest.exports.findSome? fun
    | (_, .memory index) => some index
    | _ => none

end Guest

end WasmTasks
