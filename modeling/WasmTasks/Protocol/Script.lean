import WasmTasks.Engine.Interrupt
import WasmTasks.Protocol.Execute

/-!
A backend that follows a script. Every operation is logged and has a prescribed outcome: it may
request the stop of its own task, break down, wait for the stop, fail, or answer.
-/

namespace WasmTasks

structure Script.Outcome (ε α : Type) where
  interrupt : Bool
  breakDown : Bool
  block : Bool
  result : Except ε α

structure Script where
  opening : Script.Outcome CallError Unit
  /-- Outcomes of the successive calls of each function; the last one repeats. -/
  calls : List (String × List (Script.Outcome CallError (List Int64)))
  writing : Script.Outcome BufferError Unit

namespace Script

namespace Outcome

def answer (value : α) : Outcome ε α := ⟨false, false, false, .ok value⟩

end Outcome

inductive Event where
  | context
  | call (function : String) (args : List Int64)
  | write (offset : Nat) (bytes : Bytes)
  deriving DecidableEq, Repr

structure State where
  stop : StopRequest
  called : List String
  log : List Event

namespace State

def start (stop : StopRequest) : State := ⟨stop, [], []⟩

def record (state : State) (event : Event) : State :=
  { state with log := state.log ++ [event] }

end State

/-- Plays an outcome. One that blocks fails as an interruption once the stop is requested, and
without a request never ends. -/
def play (outcome : Outcome ε α) (interrupted : ε) : Session State (Except ε α) := fun state =>
  let state := if outcome.interrupt then { state with stop := state.stop.request.2 } else state
  if outcome.breakDown then .aborted state
  else if outcome.block then
    if state.stop.requested then .answered (.error interrupted) state else .endless
  else .answered outcome.result state

def nextOutcome? (script : Script) (function : String) (earlier : Nat) :
    Option (Outcome CallError (List Int64)) := do
  let (_, outcomes) ← script.calls.find? fun entry => entry.1 = function
  match outcomes[earlier]? with
  | some outcome => some outcome
  | none => outcomes.getLast?

def openContext (script : Script) : Session State (Except CallError Unit) := fun state =>
  play script.opening (.interrupted "<start>") (state.record .context)

def call (script : Script) (function : String) (args : List Int64) :
    Session State (Except CallError (List Int64)) := fun state =>
  let earlier := state.called.count function
  let state := { state.record (.call function args) with called := function :: state.called }
  match nextOutcome? script function earlier with
  | none => .answered (.error (.missingFunction function)) state
  | some outcome => play outcome (.interrupted function) state

def write (script : Script) (offset : Nat) (bytes : Bytes) :
    Session State (Except BufferError Unit) := fun state =>
  play script.writing (.allocator (.interrupted "<write>")) (state.record (.write offset bytes))

def backend (script : Script) : Backend State where
  openContext := openContext script
  stopRequested := fun state => (state.stop.requested, state)
  call := call script
  write := write script

inductive Ending where
  | exited (result : ExitResult) (state : State)
  | brokenDown (state : State)
  | waiting

def execute (script : Script) (config : TaskConfig) (stop : StopRequest) : Ending :=
  match Protocol.execute (backend script) config (State.start stop) with
  | .answered result state => .exited result state
  | .aborted state => .brokenDown state
  | .endless => .waiting

end Script

end WasmTasks
