import WasmTasks.Task.Registry

/-!
The order of the stages. A task goes forward only, and what it exits with stays.
-/

namespace WasmTasks

variable {ω : Type}

namespace Stage

inductive Moves : Stage ω → Stage ω → Prop where
  | stays (stage : Stage ω) : Moves stage stage
  | runs (work : ω) : Moves .starting (.running work)
  | skips (result : ExitResult) : Moves .starting (.exited result)
  | ends (work : ω) (result : ExitResult) : Moves (.running work) (.exited result)

namespace Moves

variable {before after : Stage ω}

theorem eq_of_exited {result : ExitResult} (moves : Moves (.exited result) after) :
    after = .exited result := by
  cases moves
  rfl

theorem eq_of_starting (moves : Moves before .starting) : before = .starting := by
  cases moves
  rfl

theorem exitResult?_eq_some {result : ExitResult} (moves : Moves before after)
    (exited : before.exitResult? = some result) : after.exitResult? = some result := by
  cases moves with
  | stays => exact exited
  | runs work => cases exited
  | skips result => cases exited
  | ends work result => cases exited

end Moves

theorem exitResult?_eq_some_iff {stage : Stage ω} {result : ExitResult} :
    stage.exitResult? = some result ↔ stage = .exited result := by
  cases stage <;> simp [exitResult?]

theorem name_eq_exited_iff (stage : Stage ω) :
    stage.name = "exited" ↔ stage.exitResult?.isSome = true := by
  cases stage <;> simp [name, exitResult?]

end Stage

namespace Task

variable {task : Task ω}

@[simp] theorem stage_interrupt (task : Task ω) : task.interrupt.stage = task.stage := rfl

@[simp] theorem id_interrupt (task : Task ω) : task.interrupt.id = task.id := rfl

@[simp] theorem id_finish (result : ExitResult) (task : Task ω) :
    (task.finish result).id = task.id := by
  unfold finish
  split <;> rfl

@[simp] theorem id_requestStop (task : Task ω) : task.requestStop.id = task.id := by
  unfold requestStop
  split <;> simp

/-- A task is set to work from the first stage only. -/
theorem start_eq_ok_iff {started : Task ω} {work : ω} :
    task.start work = .ok started ↔
      task.stage = .starting ∧ started = { task with stage := .running work } := by
  unfold start
  cases stage : task.stage with
  | starting => simp [eq_comm]
  | running other => simp
  | exited result => simp

theorem stage_finish_of_exitResult? {result : ExitResult} (unfinished : task.exitResult? = none) :
    (task.finish result).stage = .exited result := by
  unfold finish
  split
  · rename_i other exited
    simp [exitResult?, exited, Stage.exitResult?] at unfinished
  · rfl

theorem finish_moves (result : ExitResult) (task : Task ω) :
    task.stage.Moves (task.finish result).stage := by
  cases stage : task.stage with
  | starting =>
      rw [stage_finish_of_exitResult? (by rw [exitResult?, stage]; rfl)]
      exact .skips result
  | running work =>
      rw [stage_finish_of_exitResult? (by rw [exitResult?, stage]; rfl)]
      exact .ends work result
  | exited other =>
      rw [finish_of_exited result stage, stage]
      exact .stays _

theorem requestStop_of_starting (starting : task.stage = .starting) :
    task.requestStop = task.interrupt.finish stoppedEarly := by
  simp [requestStop, starting]

theorem requestStop_of_running {work : ω} (running : task.stage = .running work) :
    task.requestStop = task.interrupt := by
  simp [requestStop, running]

theorem requestStop_moves (task : Task ω) : task.stage.Moves task.requestStop.stage := by
  cases stage : task.stage with
  | starting =>
      rw [requestStop_of_starting stage, ← stage]
      exact finish_moves stoppedEarly task.interrupt
  | running work =>
      rw [requestStop_of_running stage, stage_interrupt, stage]
      exact .stays _
  | exited result =>
      rw [requestStop_of_exited stage, stage]
      exact .stays _

/-- A change of stage either is the exit or keeps what the task exited with, if it has. -/
theorem exit_cases {before after : Task ω} (moves : before.stage.Moves after.stage) :
    after.exitResult? = before.exitResult? ∨
      ∃ result, before.exitResult? = none ∧ after.exitResult? = some result := by
  unfold exitResult?
  cases old : before.stage.exitResult? with
  | none =>
      cases new : after.stage.exitResult? with
      | none => exact .inl rfl
      | some result => exact .inr ⟨result, rfl, rfl⟩
  | some result => exact .inl (moves.exitResult?_eq_some old)

theorem start_moves {started : Task ω} {work : ω} (accepted : task.start work = .ok started) :
    task.stage.Moves started.stage := by
  obtain ⟨starting, rfl⟩ := start_eq_ok_iff.mp accepted
  rw [starting]
  exact .runs work

def isRunning (task : Task ω) : Bool :=
  match task.stage with
  | .running _ => true
  | _ => false

theorem isRunning_iff (task : Task ω) :
    task.isRunning = true ↔ ∃ work, task.stage = .running work := by
  unfold isRunning
  cases task.stage <;> simp

theorem isExited_iff (task : Task ω) :
    task.isExited = true ↔ ∃ result, task.stage = .exited result := by
  unfold isExited Stage.isExited
  cases task.stage <;> simp [Stage.exitResult?]

@[simp] theorem requested_interrupt (task : Task ω) :
    task.interrupt.stop.requested = true :=
  StopRequest.requested_request task.stop

@[simp] theorem stop_finish (result : ExitResult) (task : Task ω) :
    (task.finish result).stop = task.stop := by
  unfold finish
  split <;> rfl

theorem isExited_finish (result : ExitResult) (task : Task ω) :
    (task.finish result).isExited = true := by
  rw [isExited_iff]
  cases before : task.exitResult? with
  | none => exact ⟨result, stage_finish_of_exitResult? before⟩
  | some earlier =>
      have exited := Stage.exitResult?_eq_some_iff.mp before
      exact ⟨earlier, by rwa [finish_of_exited result exited]⟩

theorem isRunning_eq_false_of_isExited {task : Task ω} (exited : task.isExited = true) :
    task.isRunning = false := by
  obtain ⟨result, stage⟩ := task.isExited_iff.mp exited
  simp only [isRunning, stage]

theorem isRunning_finish (result : ExitResult) (task : Task ω) :
    (task.finish result).isRunning = false :=
  isRunning_eq_false_of_isExited (isExited_finish result task)

/-- A stop leaves nothing to do but to interrupt running work. -/
theorem isExited_requestStop {task : Task ω} (idle : task.isRunning = false) :
    task.requestStop.isExited = true := by
  cases stage : task.stage with
  | starting =>
      rw [requestStop_of_starting stage]
      exact isExited_finish stoppedEarly task.interrupt
  | running work => simp [isRunning, stage] at idle
  | exited result =>
      rw [requestStop_of_exited stage, isExited_iff]
      exact ⟨result, stage⟩

theorem isRunning_of_requestStop {task : Task ω} (running : task.requestStop.isRunning = true) :
    task.isRunning = true := by
  cases idle : task.isRunning with
  | true => rfl
  | false =>
      rw [isRunning_eq_false_of_isExited (isExited_requestStop idle)] at running
      cases running

theorem requestStop_of_isRunning {task : Task ω} (running : task.isRunning = true) :
    task.requestStop = task.interrupt := by
  obtain ⟨work, stage⟩ := task.isRunning_iff.mp running
  exact requestStop_of_running stage

theorem isRemovable_requestStop (task : Task ω) : task.requestStop.isRemovable = true := by
  unfold isRemovable
  cases running : task.isRunning with
  | true => rw [requestStop_of_isRunning running, requested_interrupt, Bool.or_true]
  | false => rw [isExited_requestStop running, Bool.true_or]

/-- What may become of a task, whoever acts on it. -/
structure Advances (before after : Task ω) : Prop where
  id : after.id = before.id
  stage : before.stage.Moves after.stage
  requested : before.stop.requested = true → after.stop.requested = true

theorem Advances.refl (task : Task ω) : task.Advances task :=
  ⟨rfl, .stays _, fun requested => requested⟩

theorem interrupt_advances (task : Task ω) : task.Advances task.interrupt :=
  ⟨rfl, .stays _, fun _ => requested_interrupt task⟩

theorem finish_advances (result : ExitResult) (task : Task ω) :
    task.Advances (task.finish result) where
  id := id_finish result task
  stage := finish_moves result task
  requested requested := by rwa [stop_finish]

theorem requestStop_advances (task : Task ω) : task.Advances task.requestStop where
  id := id_requestStop task
  stage := requestStop_moves task
  requested requested := by
    unfold requestStop
    split
    · rw [stop_finish]
      exact requested_interrupt task
    · exact requested_interrupt task
    · exact requested

theorem start_advances {started : Task ω} {work : ω} (accepted : task.start work = .ok started) :
    task.Advances started := by
  have moves := start_moves accepted
  obtain ⟨_, rfl⟩ := start_eq_ok_iff.mp accepted
  exact ⟨rfl, moves, fun requested => requested⟩

namespace Advances

variable {before after : Task ω}

theorem isExited (advances : before.Advances after) (exited : before.isExited = true) :
    after.isExited = true := by
  obtain ⟨result, stage⟩ := before.isExited_iff.mp exited
  have moves := advances.stage
  rw [stage] at moves
  exact after.isExited_iff.mpr ⟨result, moves.eq_of_exited⟩

theorem isRemovable (advances : before.Advances after) (removable : before.isRemovable = true) :
    after.isRemovable = true := by
  rw [Task.isRemovable, Bool.or_eq_true] at removable ⊢
  exact removable.imp advances.isExited advances.requested

end Advances

end Task

end WasmTasks
