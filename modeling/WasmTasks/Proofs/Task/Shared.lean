import WasmTasks.Proofs.Task.Registry

/-!
A task under concurrent callers. The stage, the completion signal and the event bus are three
places, written one after the other while the stage is locked; whoever needs the lock waits for it,
while waiters, other publishers and a stop that has already seen the task running do not.
-/

namespace WasmTasks

/-- How far the exit of a task has got. -/
inductive Closing where
  | announcing (result : ExitResult)
  | delivering (result : ExitResult)

namespace Closing

def result : Closing → ExitResult
  | announcing result => result
  | delivering result => result

end Closing

inductive Answer (ω : Type) where
  | started (work : ω)
  | refused (error : DriverError)
  | stopped (accepted : Bool)
  | finished (accepted : Bool)
  | status (status : TaskStatus)
  | result (result : Option ExitResult)

namespace Answer

variable {ω : Type}

def started? : Answer ω → Option ω
  | started work => some work
  | _ => none

end Answer

structure SharedTask (ω : Type) where
  task : Task ω
  closing : Option Closing
  completion : Option ExitResult
  bus : EventBus
  /-- Stops that have read a running stage and have yet to interrupt it. -/
  interrupting : Nat
  /-- What each waiter has received. -/
  waiters : List (Option ExitResult)
  answers : List (Answer ω)

/-- The atomic steps: `interrupt` ends a stop, `announce` and `deliver` end an exit, `broadcast` is
someone else's. -/
inductive TaskStep (ω : Type) where
  | start (work : ω)
  | stop
  | interrupt
  | finish (result : ExitResult)
  | announce
  | deliver
  | status
  | exitResult
  | subscribe
  | poll (waiter : Nat)
  | broadcast (event : TaskEvent)

namespace TaskStep

variable {ω : Type}

def broadcast? : TaskStep ω → Option TaskEvent
  | broadcast event => some event
  | _ => none

end TaskStep

namespace SharedTask

variable {ω : Type}

def new (descriptor : TaskDescriptor) (startedAt : Timestamp) (bus : EventBus) : SharedTask ω :=
  ⟨.new descriptor startedAt, none, none, bus, 0, [], []⟩

variable (shared : SharedTask ω)

def exitEvent (result : ExitResult) : TaskEvent :=
  ⟨shared.task.id, Registry.exitMessage result⟩

def answer (answer : Answer ω) : SharedTask ω :=
  { shared with answers := shared.answers ++ [answer] }

def withTask (after : Task ω) : SharedTask ω :=
  { shared with task := after }

/-- Puts a changed task in its place. The lock is kept if the change brought the exit about. -/
def replace (after : Task ω) : SharedTask ω :=
  match shared.task.exitResult?, after.exitResult? with
  | none, some result => { shared.withTask after with closing := some (.announcing result) }
  | _, _ => shared.withTask after

def start (work : ω) : SharedTask ω :=
  match shared.task.start work with
  | .ok started => (shared.answer (.started work)).replace started
  | .error error => shared.answer (.refused error)

def stop : SharedTask ω :=
  match shared.task.stage with
  | .running _ => { shared with interrupting := shared.interrupting + 1 }
  | _ => (shared.answer (.stopped !shared.task.isExited)).replace shared.task.requestStop

def interrupt : SharedTask ω :=
  match shared.interrupting with
  | 0 => shared
  | pending + 1 =>
      { shared.withTask shared.task.interrupt with interrupting := pending }.answer (.stopped true)

def finish (result : ExitResult) : SharedTask ω :=
  (shared.answer (.finished !shared.task.isExited)).replace (shared.task.finish result)

def announce : SharedTask ω :=
  match shared.closing with
  | some (.announcing result) =>
      { shared with
        bus := shared.bus.publish shared.task.id (Registry.exitMessage result)
        closing := some (.delivering result) }
  | _ => shared

def deliver : SharedTask ω :=
  match shared.closing with
  | some (.delivering result) => { shared with completion := some result, closing := none }
  | _ => shared

/-- The stage and the completion signal, each read in its own place. -/
def snapshot : TaskStatus :=
  ⟨shared.task.id, shared.task.stage.name, shared.completion⟩

def subscribe : SharedTask ω :=
  { shared with waiters := shared.waiters ++ [none] }

def poll (waiter : Nat) : SharedTask ω :=
  { shared with waiters := shared.waiters.modify waiter fun received => received <|> shared.completion }

def broadcast (event : TaskEvent) : SharedTask ω :=
  { shared with bus := shared.bus.publish event.id event.message }

/-- Does something with the stage, once its lock is free. -/
def whenFree (after : SharedTask ω) : SharedTask ω :=
  match shared.closing with
  | none => after
  | some _ => shared

def apply : TaskStep ω → SharedTask ω
  | .start work => shared.whenFree (shared.start work)
  | .stop => shared.whenFree shared.stop
  | .interrupt => shared.interrupt
  | .finish result => shared.whenFree (shared.finish result)
  | .announce => shared.announce
  | .deliver => shared.deliver
  | .status => shared.whenFree (shared.answer (.status shared.snapshot))
  | .exitResult => shared.answer (.result shared.completion)
  | .subscribe => shared.subscribe
  | .poll waiter => shared.poll waiter
  | .broadcast event => shared.broadcast event

def run (steps : List (TaskStep ω)) : SharedTask ω :=
  steps.foldl apply shared

def starts : List ω :=
  shared.answers.filterMap Answer.started?

variable {shared}

theorem replace_of_same {after : Task ω} (same : after.exitResult? = shared.task.exitResult?) :
    shared.replace after = shared.withTask after := by
  unfold replace
  rw [same]
  cases shared.task.exitResult? <;> rfl

theorem replace_of_exits {after : Task ω} {result : ExitResult}
    (unfinished : shared.task.exitResult? = none) (exited : after.exitResult? = some result) :
    shared.replace after =
      { shared.withTask after with closing := some (.announcing result) } := by
  simp only [replace, unfinished, exited]

@[simp] theorem interrupting_replace (shared : SharedTask ω) (after : Task ω) :
    (shared.replace after).interrupting = shared.interrupting := by
  unfold replace
  split <;> rfl

@[simp] theorem task_replace (shared : SharedTask ω) (after : Task ω) :
    (shared.replace after).task = after := by
  unfold replace
  split <;> rfl

@[simp] theorem completion_replace (shared : SharedTask ω) (after : Task ω) :
    (shared.replace after).completion = shared.completion := by
  unfold replace
  split <;> rfl

theorem stop_of_running {work : ω} (running : shared.task.stage = .running work) :
    shared.stop = { shared with interrupting := shared.interrupting + 1 } := by
  simp only [stop, running]

theorem stop_of_not_running (running : ∀ work, shared.task.stage ≠ .running work) :
    shared.stop =
      (shared.answer (.stopped !shared.task.isExited)).replace shared.task.requestStop := by
  unfold stop
  split
  · rename_i work stage
    exact absurd stage (running work)
  · rfl

theorem announce_of_free (free : shared.closing = none) : shared.announce = shared := by
  simp only [announce, free]

theorem deliver_of_free (free : shared.closing = none) : shared.deliver = shared := by
  simp only [deliver, free]

theorem interrupt_of_idle (idle : shared.interrupting = 0) : shared.interrupt = shared := by
  simp only [interrupt, idle]

theorem replace_answer (shared : SharedTask ω) (answer : Answer ω) (after : Task ω) :
    (shared.answer answer).replace after = (shared.replace after).answer answer := by
  unfold replace
  dsimp only [SharedTask.answer]
  split <;> rfl

theorem whenFree_of_free {after : SharedTask ω} (free : shared.closing = none) :
    shared.whenFree after = after := by
  simp only [whenFree, free]

/-! Called without anything in between, the steps are the operations of a registry. -/

/-- The registry tells the same of the task as its callers see, and none of them is in the middle
of an exit or of a stop. -/
structure Mirrors (shared : SharedTask ω) (registry : Registry ω) (ref : TaskRef) : Prop where
  task : registry.task? ref = some shared.task
  bus : registry.bus = shared.bus
  completion : shared.completion = shared.task.exitResult?
  free : shared.closing = none
  idle : shared.interrupting = 0

namespace Mirrors

variable {registry : Registry ω} {ref : TaskRef}

theorem answer (mirrors : shared.Mirrors registry ref) (answer : Answer ω) :
    (shared.answer answer).Mirrors registry ref :=
  ⟨mirrors.task, mirrors.bus, mirrors.completion, mirrors.free, mirrors.idle⟩

theorem replace (mirrors : shared.Mirrors registry ref) {after : Task ω}
    (moves : shared.task.stage.Moves after.stage) :
    (shared.replace after).announce.deliver.Mirrors
      (registry.replace ref shared.task after) ref := by
  have task := registry.task?_replace_self ref shared.task after mirrors.task
  obtain same | ⟨result, unfinished, exited⟩ := Task.exit_cases moves
  · have bus := registry.bus_replace_of_same ref shared.task after same
    have free : (shared.withTask after).closing = none := mirrors.free
    rw [replace_of_same same, announce_of_free free, deliver_of_free free]
    exact ⟨task, bus.trans mirrors.bus, mirrors.completion.trans same.symm, free, mirrors.idle⟩
  · have bus := registry.bus_replace_of_exits ref shared.task after unfinished exited
    rw [replace_of_exits unfinished exited]
    refine ⟨task, ?_, exited.symm, rfl, mirrors.idle⟩
    rw [bus, mirrors.bus]
    rfl

theorem run_finish (mirrors : shared.Mirrors registry ref) (result : ExitResult) :
    (shared.run [.finish result, .announce, .deliver]).Mirrors
      (registry.finish ref result).2 ref := by
  have finished := (mirrors.answer (.finished !shared.task.isExited)).replace
    (shared.task.finish_moves result)
  simp only [Registry.finish, mirrors.task, run, List.foldl, apply,
    whenFree_of_free mirrors.free]
  exact finished

theorem run_stop (mirrors : shared.Mirrors registry ref) :
    (shared.run [.stop, .interrupt, .announce, .deliver]).Mirrors (registry.stop ref).2 ref := by
  simp only [Registry.stop, mirrors.task, run, List.foldl, apply,
    whenFree_of_free mirrors.free]
  by_cases running : ∃ work, shared.task.stage = .running work
  · obtain ⟨work, stage⟩ := running
    have requested := (mirrors.answer (.stopped true)).replace
      (show shared.task.stage.Moves shared.task.interrupt.stage from .stays _)
    have kept : (shared.answer (.stopped true)).replace shared.task.interrupt =
        (shared.answer (.stopped true)).withTask shared.task.interrupt :=
      replace_of_same rfl
    have waiting : shared.stop.interrupt =
        (shared.answer (.stopped true)).replace shared.task.interrupt := by
      rw [stop_of_running stage, kept]
      rfl
    rw [waiting, Task.requestStop_of_running stage]
    exact requested
  · have stopped := (mirrors.answer (.stopped !shared.task.isExited)).replace
      shared.task.requestStop_moves
    rw [stop_of_not_running (not_exists.mp running), interrupt_of_idle]
    · exact stopped
    · rw [interrupting_replace]
      exact mirrors.idle

theorem run_start (mirrors : shared.Mirrors registry ref) {work : ω} {started : Registry ω}
    (accepted : registry.start ref work = .ok started) :
    (shared.run [.start work, .announce, .deliver]).Mirrors started ref := by
  obtain ⟨working, attempt, rfl⟩ := registry.start_eq_ok mirrors.task accepted
  simp only [run, List.foldl, apply, whenFree_of_free mirrors.free, start, attempt]
  exact (mirrors.answer (.started work)).replace (Task.start_moves attempt)

end Mirrors

end SharedTask

end WasmTasks
