import WasmTasks.Engine.Interrupt
import WasmTasks.Fault
import WasmTasks.Module.Machine
import WasmTasks.Protocol.Reply

/-!
Execution contexts: one instantiated module with its private state and its deadline, owned by one
task. The host calls exported functions with integers and reads and writes the exported memory.
-/

namespace WasmTasks

structure Context (ν : Type) where
  id : String
  guest : Guest ν
  state : Instance ν
  deadline : Deadline

namespace Context

variable {μ ν : Type}

/-- Where an instantiation that was interrupted is said to have been. -/
def startFunction : String := "<start>"

/-- Enters code and runs it to its end, with a checkpoint at the entry and at every loop pass or inner
call. Code that is aborted at a checkpoint leaves the state in which it came there. -/
def enter (context : Context ν) (code : Code ν) (args : List Value) (timeline : Timeline) :
    Reply (Context ν × Timeline) (Except (Option Trap) (List Value)) :=
  let activity := code.run args context.state
  match activity.ending with
  | none =>
      match Deadline.spin timeline.settled 0 context.deadline timeline.upcoming with
      | none => .endless
      | some (checkpoint, deadline, timeline) =>
          .answered (.error none)
            ({ context with state := activity.reached checkpoint, deadline := deadline }, timeline)
  | some work =>
      match context.deadline.pass 0 (work.passes + 1) timeline with
      | (some checkpoint, deadline, timeline) =>
          .answered (.error none)
            ({ context with state := activity.reached checkpoint, deadline := deadline }, timeline)
      | (none, deadline, timeline) =>
          .answered (work.outcome.mapError some)
            ({ context with state := work.state, deadline := deadline }, timeline)

/-- Makes a context for a module. The deadline is armed first; a start function runs before the
context exists. -/
def instantiate (machine : Machine μ ν) (id : String) (stored : CachedModule)
    (timeline : Timeline) : Reply Timeline (Except CallError (Context ν)) :=
  match machine.ofCached stored with
  | .error error =>
      .answered (.error (.instantiation (.unusableArtifact error.message))) timeline
  | .ok compiled =>
      let guest := machine.guest compiled.module
      let (signals, timeline) := timeline.next
      let context : Context ν := ⟨id, guest, guest.initial, .arm signals.epoch⟩
      match guest.imports, guest.obstacle, guest.start with
      | first :: _, _, _ =>
          .answered (.error (.instantiation (.unknownImport first.space first.name))) timeline
      | [], some reason, _ => .answered (.error (.instantiation (.described reason))) timeline
      | [], none, none => .answered (.ok context) timeline
      | [], none, some code =>
          match context.enter code [] timeline with
          | .answered (.ok _) (context, timeline) => .answered (.ok context) timeline
          | .answered (.error none) (_, timeline) =>
              .answered (.error (.interrupted startFunction)) timeline
          | .answered (.error (some trap)) (_, timeline) =>
              .answered (.error (.instantiation (.startTrap trap.chain))) timeline
          | .aborted (_, timeline) => .aborted timeline
          | .endless => .endless

/-- The arguments as values of the parameter types, or the first that does not fit. -/
def arguments (index : Nat) : List ValueType → List Int64 → Except SignatureMismatch (List Value)
  | type :: types, argument :: rest =>
      match Value.ofArgument? argument type with
      | some value => do
          let values ← arguments (index + 1) types rest
          pure (value :: values)
      | none =>
          .error (if type = .i32 then .argumentRange index argument
            else .parameterType index type.name)
  | _, _ => .ok []

/-- The integers among results, or the first that is none. -/
def integers : List Value → Except SignatureMismatch (List Int64)
  | [] => .ok []
  | value :: rest =>
      match value.toInt64? with
      | some integer => do
          let integers ← integers rest
          pure (integer :: integers)
      | none => .error (.resultValue value.describe)

/-- The function and its arguments, if guest code can be entered with them. -/
def prepare (context : Context ν) (name : String) (args : List Int64) :
    Except CallError (Function ν × List Value) :=
  match context.guest.function? name with
  | none => .error (.missingFunction name)
  | some function =>
      if function.params.length ≠ args.length then
        .error (.signature name (.arity function.params.length args.length))
      else
        match arguments 0 function.params args with
        | .error mismatch => .error (.signature name mismatch)
        | .ok values => .ok (function, values)

/-- Calls an exported function. Nothing happens to the context unless guest code is entered. -/
def call (context : Context ν) (name : String) (args : List Int64) (timeline : Timeline) :
    Reply (Context ν × Timeline) (Except CallError (List Int64)) :=
  match context.prepare name args with
  | .error error => .answered (.error error) (context, timeline)
  | .ok (function, values) =>
      match context.enter function.code values timeline with
      | .answered (.ok results) state =>
          match integers results with
          | .error mismatch => .answered (.error (.signature name mismatch)) state
          | .ok integers => .answered (.ok integers) state
      | .answered (.error none) state => .answered (.error (.interrupted name)) state
      | .answered (.error (some trap)) state =>
          .answered (.error (.trap name trap.message trap.code)) state
      | .aborted state => .aborted state
      | .endless => .endless

def memory? (context : Context ν) : Option (Nat × Memory) := do
  let index ← context.guest.exportedMemory?
  let memory ← context.state.memories[index]?
  pure (index, memory)

def memorySize? (context : Context ν) : Option Nat :=
  context.memory?.map fun (_, memory) => memory.size

def write (context : Context ν) (offset : Nat) (bytes : Bytes) :
    Except BufferError (Context ν) :=
  match context.memory? with
  | none => .error .missingMemory
  | some (index, memory) =>
      match memory.write? offset bytes with
      | none => .error (.outOfBounds offset bytes.length memory.size)
      | some written =>
          .ok { context with
            state := { context.state with memories := context.state.memories.set index written } }

/-- Room for the bytes is made before they are read; `none` if there can be no object that large. -/
def read (context : Context ν) (offset length : Nat) : Option (Except BufferError Bytes) :=
  match context.memory? with
  | none => some (.error .missingMemory)
  | some (_, memory) =>
      if largestObject < length then none
      else
        match memory.read? offset length with
        | none => some (.error (.outOfBounds offset length memory.size))
        | some bytes => some (.ok bytes)

def describe (context : Context ν) : String :=
  let hasMemory := context.memory?.isSome
  s!"WasmtimeContext \x7b task_id: {Text.quote context.id}, has_memory: {hasMemory}, .. \x7d"

end Context

end WasmTasks
