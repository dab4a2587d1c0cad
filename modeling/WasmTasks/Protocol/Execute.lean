import WasmTasks.Config.Task
import WasmTasks.ExitResult
import WasmTasks.Protocol.Reply

/-!
The call protocol every task runs: make a context, stage the input if there is any, call the entry
function, and fold whatever happened into one exit result. It is written against a backend of which
nothing else is known.
-/

namespace WasmTasks

/-- What the protocol asks of an engine and of the task's stop request. -/
structure Backend (σ : Type) where
  openContext : Session σ (Except CallError Unit)
  stopRequested : σ → Bool × σ
  call : String → List Int64 → Session σ (Except CallError (List Int64))
  write : Nat → Bytes → Session σ (Except BufferError Unit)

namespace Protocol

variable {σ : Type}

def checkStop (backend : Backend σ) : Session σ Bool := fun state =>
  let (requested, state) := backend.stopRequested state
  .answered requested state

def allocatorFault : CallError → BufferError
  | .missingFunction function => .missingAllocator function
  | error => .allocator error

def bufferOffset (allocator : String) : List Int64 → Except BufferError Nat
  | [] => .error (.allocator (.signature allocator .noAllocatorValue))
  | offset :: _ =>
      if 0 ≤ offset.toInt then .ok offset.toInt.toNat else .error (.invalidOffset allocator offset)

/-- Has the guest allocate a buffer and writes the input into it; the answer is its offset. -/
def stageInput (backend : Backend σ) (buffer : IoBufferConfig) :
    Session σ (Except BufferError Nat) := do
  match ← backend.call buffer.allocator buffer.args with
  | .error error => pure (.error (allocatorFault error))
  | .ok values =>
      match bufferOffset buffer.allocator values with
      | .error error => pure (.error error)
      | .ok offset =>
          match ← backend.write offset buffer.input with
          | .error error => pure (.error error)
          | .ok _ => pure (.ok offset)

def callEntry (backend : Backend σ) (main : MainConfig) :
    Session σ (Except TaskFault (Option (List Int64))) := do
  match ← backend.call main.entry main.args with
  | .error error => pure (.error (.call error))
  | .ok values => pure (.ok (some values))

/-- The steps of the protocol; the answer is `none` if a stop was noticed between them. -/
def run (backend : Backend σ) (config : TaskConfig) :
    Session σ (Except TaskFault (Option (List Int64))) := do
  match ← backend.openContext with
  | .error error => pure (.error (.call error))
  | .ok _ =>
      if ← checkStop backend then pure (.ok none)
      else if config.ioBuffer.enabled then
        match ← stageInput backend config.ioBuffer with
        | .error error => pure (.error (.buffer error))
        | .ok _ =>
            if ← checkStop backend then pure (.ok none)
            else callEntry backend config.main
      else callEntry backend config.main

/-- A fault counts as a stop if it is an interruption or a stop was requested meanwhile. -/
def classify (backend : Backend σ) :
    Except TaskFault (Option (List Int64)) → Session σ ExitResult
  | .ok (some values) => pure (.completed values)
  | .ok none => pure (.stopped "task stopped before the entry call")
  | .error fault => do
      if fault.isInterrupted then pure (.stopped s!"task stopped: {fault.message}")
      else if ← checkStop backend then pure (.stopped s!"task stopped: {fault.message}")
      else pure (.faulted fault)

def execute (backend : Backend σ) (config : TaskConfig) : Session σ ExitResult := do
  classify backend (← run backend config)

end Protocol

end WasmTasks
