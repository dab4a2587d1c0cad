import WasmTasks.Guest.Context
import WasmTasks.Protocol.Execute

/-!
The protocol over guests: a module is instantiated and its context called, while the epoch and the
task's stop request are seen as the timeline shows them.
-/

namespace WasmTasks

/-- A task's guest: its context once there is one, and what is still to be observed. -/
structure GuestRun (ν : Type) where
  context : Option (Context ν)
  timeline : Timeline

namespace GuestRun

variable {μ ν : Type}

def start (timeline : Timeline) : GuestRun ν := ⟨none, timeline⟩

def openContext (machine : Machine μ ν) (id : String) (stored : CachedModule) :
    Session (GuestRun ν) (Except CallError Unit) :=
  fun run =>
    match Context.instantiate machine id stored run.timeline with
    | .answered (.error error) timeline => .answered (.error error) ⟨none, timeline⟩
    | .answered (.ok context) timeline => .answered (.ok ()) ⟨some context, timeline⟩
    | .aborted timeline => .aborted ⟨none, timeline⟩
    | .endless => .endless

def stopRequested (run : GuestRun ν) : Bool × GuestRun ν :=
  (run.timeline.next.1.requested, { run with timeline := run.timeline.next.2 })

def call (function : String) (args : List Int64) :
    Session (GuestRun ν) (Except CallError (List Int64)) := fun run =>
  match run.context with
  | none => .answered (.error (.missingFunction function)) run
  | some context =>
      match context.call function args run.timeline with
      | .answered value (context, timeline) => .answered value ⟨some context, timeline⟩
      | .aborted (context, timeline) => .aborted ⟨some context, timeline⟩
      | .endless => .endless

def write (offset : Nat) (bytes : Bytes) : Session (GuestRun ν) (Except BufferError Unit) :=
  fun run =>
    match run.context with
    | none => .answered (.error .missingMemory) run
    | some context =>
        match context.write offset bytes with
        | .error error => .answered (.error error) run
        | .ok context => .answered (.ok ()) { run with context := some context }

def backend (machine : Machine μ ν) (id : String) (stored : CachedModule) :
    Backend (GuestRun ν) where
  openContext := openContext machine id stored
  stopRequested := stopRequested
  call := call
  write := write

end GuestRun

namespace Protocol

/-- The exit result of a task over its module; `none` if the guest never ends. -/
def executeModule {μ ν : Type} (machine : Machine μ ν) (id : String) (stored : CachedModule)
    (config : TaskConfig) (timeline : Timeline) : Option ExitResult :=
  match execute (GuestRun.backend machine id stored) config (GuestRun.start timeline) with
  | .answered result _ => some result
  | .aborted _ => some (.failed "task execution aborted")
  | .endless => none

end Protocol

end WasmTasks
