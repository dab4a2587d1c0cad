import WasmTasks.Fault

/-!
The terminal outcome of a task. The exit code follows from the cause, and only a completed task
carries return values.
-/

namespace WasmTasks

inductive ExitCause where
  | completed
  | faulted
  | stopped
  deriving DecidableEq, Repr

namespace ExitCause

def name : ExitCause → String
  | completed => "completed"
  | faulted => "faulted"
  | stopped => "stopped"

/-- A stop counts as termination by signal 15, so its code is 128 + 15. -/
def exitCode : ExitCause → Nat
  | completed => 0
  | faulted => 1
  | stopped => 143

end ExitCause

inductive ExitResult where
  | completed (values : List Int64)
  | failed (reason : String)
  | stopped (reason : String)
  deriving DecidableEq, Repr

namespace ExitResult

def faulted (fault : TaskFault) : ExitResult :=
  failed fault.message

def cause : ExitResult → ExitCause
  | completed _ => .completed
  | failed _ => .faulted
  | stopped _ => .stopped

def exitCode (result : ExitResult) : Nat :=
  result.cause.exitCode

def message : ExitResult → String
  | completed _ => ""
  | failed reason => reason
  | stopped reason => reason

def returnValues : ExitResult → List Int64
  | completed values => values
  | failed _ => []
  | stopped _ => []

def isSuccess (result : ExitResult) : Bool :=
  result.cause = .completed

def isStopped (result : ExitResult) : Bool :=
  result.cause = .stopped

@[simp] theorem exitCode_eq_zero_iff (result : ExitResult) :
    result.exitCode = 0 ↔ result.isSuccess = true := by
  cases result <;> simp [exitCode, cause, ExitCause.exitCode, isSuccess]

end ExitResult

end WasmTasks
