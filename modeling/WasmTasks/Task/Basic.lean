import WasmTasks.Config.Format
import WasmTasks.Engine.Interrupt
import WasmTasks.Error
import WasmTasks.ExitResult

/-!
One unit of work. A task is starting, then running, then exited, and may exit without having run;
the exit result belongs to the last stage, so that one is never seen without the other.
-/

namespace WasmTasks

/-- What a task is doing. A running task carries the work that will give its result. -/
inductive Stage (ω : Type) where
  | starting
  | running (work : ω)
  | exited (result : ExitResult)
  deriving Repr

namespace Stage

variable {ω : Type}

def name : Stage ω → String
  | starting => "starting"
  | running _ => "running"
  | exited _ => "exited"

def label : Stage ω → String
  | starting => "Starting"
  | running _ => "Running"
  | exited _ => "Exited"

def exitResult? : Stage ω → Option ExitResult
  | exited result => some result
  | _ => none

def isExited (stage : Stage ω) : Bool :=
  stage.exitResult?.isSome

end Stage

structure Task (ω : Type) where
  id : String
  config : TaskConfig
  startedAt : Timestamp
  stage : Stage ω
  stop : StopRequest
  deriving Repr

structure TaskStatus where
  id : String
  state : String
  exitResult : Option ExitResult
  deriving DecidableEq, Repr

namespace Task

variable {ω : Type}

def new (descriptor : TaskDescriptor) (startedAt : Timestamp) : Task ω :=
  ⟨descriptor.id, descriptor.config, startedAt, .starting, .none⟩

def exitResult? (task : Task ω) : Option ExitResult :=
  task.stage.exitResult?

def isExited (task : Task ω) : Bool :=
  task.stage.isExited

def status (task : Task ω) : TaskStatus :=
  ⟨task.id, task.stage.name, task.exitResult?⟩

def isRemovable (task : Task ω) : Bool :=
  task.isExited || task.stop.requested

def start (work : ω) (task : Task ω) : Except DriverError (Task ω) :=
  match task.stage with
  | .starting => .ok { task with stage := .running work }
  | .running _ => .error (.invalidState task.id .alreadyRunning)
  | .exited _ => .error (.invalidState task.id .exitedBeforeRunning)

def interrupt (task : Task ω) : Task ω :=
  { task with stop := task.stop.request.2 }

/-- Records the result of a task that has not exited. -/
def finish (result : ExitResult) (task : Task ω) : Task ω :=
  match task.stage with
  | .exited _ => task
  | _ => { task with stage := .exited result }

def stoppedEarly : ExitResult := .stopped "task stopped before it started"

/-- Stops a task: one that has not started exits at once, running work is asked to end. -/
def requestStop (task : Task ω) : Task ω :=
  match task.stage with
  | .starting => task.interrupt.finish stoppedEarly
  | .running _ => task.interrupt
  | .exited _ => task

def describe (task : Task ω) : String :=
  let id := Text.quote task.id
  s!"Task \x7b id: {id}, state: {task.stage.label}, stop_requested: {task.stop.requested}, .. \x7d"

@[simp] theorem start_of_exited {task : Task ω} {result : ExitResult} (work : ω)
    (exited : task.stage = .exited result) :
    task.start work = .error (.invalidState task.id .exitedBeforeRunning) := by
  simp [start, exited]

@[simp] theorem finish_of_exited {task : Task ω} {result : ExitResult} (later : ExitResult)
    (exited : task.stage = .exited result) : task.finish later = task := by
  simp [finish, exited]

@[simp] theorem requestStop_of_exited {task : Task ω} {result : ExitResult}
    (exited : task.stage = .exited result) : task.requestStop = task := by
  simp [requestStop, exited]

end Task

end WasmTasks
