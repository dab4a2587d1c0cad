import WasmTasks.EventBus
import WasmTasks.Task.Basic

/-!
The tasks of a driver. Every task ever made keeps its reference, whether or not it is registered
under its identifier; an identifier refers to at most one task at a time. Exits are published as
events, and the first stop of each task advances the epoch of the engine they share.
-/

namespace WasmTasks

/-- Names one task for ever. -/
abbrev TaskRef := Nat

structure Registry (ω : Type) where
  tasks : List (Task ω)
  names : List (String × TaskRef)
  bus : EventBus
  epoch : Nat
  deriving Repr

namespace Registry

variable {ω : Type}

def empty : Registry ω := ⟨[], [], .empty, 0⟩

def task? (registry : Registry ω) (ref : TaskRef) : Option (Task ω) :=
  registry.tasks[ref]?

/-- Makes a task, without registering it. -/
def create (registry : Registry ω) (descriptor : TaskDescriptor) (startedAt : Timestamp) :
    TaskRef × Registry ω :=
  (registry.tasks.length,
    { registry with tasks := registry.tasks ++ [.new descriptor startedAt] })

def get? (registry : Registry ω) (id : String) : Option TaskRef :=
  registry.names.lookup id

def lookup (registry : Registry ω) (id : String) : Except DriverError TaskRef :=
  match registry.get? id with
  | none => .error (.notFound id)
  | some ref => .ok ref

def register (registry : Registry ω) (ref : TaskRef) : Except DriverError (Registry ω) :=
  match registry.task? ref with
  | none => .ok registry
  | some task =>
      match registry.get? task.id with
      | some _ => .error (.duplicateTask task.id)
      | none => .ok { registry with names := registry.names ++ [(task.id, ref)] }

def without (registry : Registry ω) (id : String) : List (String × TaskRef) :=
  registry.names.filter fun entry => entry.1 ≠ id

/-- Unregisters a task that has exited or is asked to stop. -/
def remove (registry : Registry ω) (id : String) : Except DriverError (TaskRef × Registry ω) := do
  let ref ← registry.lookup id
  match registry.task? ref with
  | none => .error (.notFound id)
  | some task =>
      if task.isRemovable then pure (ref, { registry with names := registry.without id })
      else .error (.taskRunning id)

/-- Unregisters this very task in any stage; another one under its identifier stays. -/
def discard (registry : Registry ω) (ref : TaskRef) : Bool × Registry ω :=
  match registry.task? ref with
  | none => (false, registry)
  | some task =>
      if registry.get? task.id = some ref then
        (true, { registry with names := registry.without task.id })
      else (false, registry)

def publish (registry : Registry ω) (id message : String) : Registry ω :=
  { registry with bus := registry.bus.publish id message }

def exitMessage (result : ExitResult) : String :=
  s!"Task exited: {result.cause.name} (exit code {result.exitCode})"

/-- Puts a changed task in its place, and tells of its exit and its stop if the change brought them
about. -/
def replace (registry : Registry ω) (ref : TaskRef) (before after : Task ω) : Registry ω :=
  let epoch := registry.epoch + (after.stop.fired - before.stop.fired)
  let changed := { registry with tasks := registry.tasks.set ref after, epoch := epoch }
  match before.exitResult?, after.exitResult? with
  | none, some result => changed.publish after.id (exitMessage result)
  | _, _ => changed

def start (registry : Registry ω) (ref : TaskRef) (work : ω) :
    Except DriverError (Registry ω) :=
  match registry.task? ref with
  | none => .ok registry
  | some task => do
      let started ← task.start work
      pure (registry.replace ref task started)

/-- Stops a task; false if it had exited. -/
def stop (registry : Registry ω) (ref : TaskRef) : Bool × Registry ω :=
  match registry.task? ref with
  | none => (false, registry)
  | some task => (!task.isExited, registry.replace ref task task.requestStop)

/-- Records a result; false if the task had exited. -/
def finish (registry : Registry ω) (ref : TaskRef) (result : ExitResult) : Bool × Registry ω :=
  match registry.task? ref with
  | none => (false, registry)
  | some task => (!task.isExited, registry.replace ref task (task.finish result))

/-- Lets the work of a running task come to its end, if it has one. The work may request the stop of
its own task. -/
def settle (registry : Registry ω) (ref : TaskRef)
    (run : Task ω → ω → Option (ExitResult × StopRequest)) : Registry ω :=
  match registry.task? ref with
  | none => registry
  | some task =>
      match task.stage with
      | .running work =>
          match run task work with
          | none => registry
          | some (result, stop) =>
              registry.replace ref task ({ task with stop := stop }.finish result)
      | _ => registry

def registered (registry : Registry ω) : List (TaskRef × Task ω) :=
  registry.names.filterMap fun (_, ref) => (registry.task? ref).map fun task => (ref, task)

/-- The identifiers in use, in order. -/
def ids (registry : Registry ω) : List String :=
  (registry.names.map Prod.fst).mergeSort fun a b => decide (a ≤ b)

def size (registry : Registry ω) : Nat :=
  registry.names.length

end Registry

end WasmTasks
