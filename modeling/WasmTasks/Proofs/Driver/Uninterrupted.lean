import WasmTasks.Proofs.Driver.Calls

/-!
A call that nobody interrupts. Its steps, taken one after the other, are the operation of the driver.
-/

namespace WasmTasks.Driver

/-- From one point of a call to another, by its own steps only. -/
inductive Alone {σ : Type} (step : Driver → σ → σ × Driver) : σ × Driver → σ × Driver → Prop where
  | refl (state : σ × Driver) : Alone step state state
  | next {phase : σ} {driver : Driver} {last : σ × Driver}
      (rest : Alone step (step driver phase) last) : Alone step (phase, driver) last

namespace Alone

variable {σ : Type} {step : Driver → σ → σ × Driver}

theorem trans {first middle last : σ × Driver} (before : Alone step first middle)
    (after : Alone step middle last) : Alone step first last := by
  induction before with
  | refl => exact after
  | next _ ih => exact .next (ih after)

theorem of_eq {phase next : σ} {driver after : Driver} {last : σ × Driver}
    (stepped : step driver phase = (next, after)) (rest : Alone step (next, after) last) :
    Alone step (phase, driver) last :=
  .next (stepped ▸ rest)

end Alone

variable (driver : Driver)

namespace StartPhase

variable (ref : TaskRef)

theorem alone_release (reason : Withdrawal) :
    Alone (step ref) (stopping reason, driver) (withdrawn reason, driver.release ref) := by
  cases running : driver.tasks.isRunning ref with
  | true =>
      have stopped : (driver.tasks.stop ref).2 = driver.tasks.interrupt ref := by
        rw [Registry.stop_of_running _ running]
      have first : step ref driver (stopping reason) = (interrupting reason, driver) := by
        simp only [step, running, if_true]
      rw [release, stopped]
      exact .of_eq first (.next (.next (.refl _)))
  | false =>
      have first : step ref driver (stopping reason) =
          (discarding reason, driver.withTasks (driver.tasks.stop ref).2) := by
        simp only [step, running, Bool.false_eq_true, if_false]
      exact .of_eq first (.next (.refl _))

theorem alone_fail (error : DriverError) :
    Alone (step ref) (loaded (.error error), driver)
      (withdrawn (.failed error), driver.fail ref error) :=
  .next (alone_release _ ref (.failed error))

/-- Once a module is there the start goes through or is withdrawn. -/
theorem alone_begin {task : Task GuestWork} (found : driver.tasks.task? ref = some task)
    (stored : CachedModule) :
    match driver.begin ref stored with
    | (.ok handle, after) =>
        Alone (step ref) (loaded (.ok stored), driver) (started handle, after)
    | (.error error, after) =>
        Alone (step ref) (loaded (.ok stored), driver) (withdrawn (.failed error), after) := by
  cases attempt : driver.tasks.start ref ⟨stored, driver.signals task⟩ with
  | error error =>
      have first : step ref driver (loaded (.ok stored)) = (stopping (.failed error), driver) := by
        simp only [step, found, attempt]
      simp only [begin, found, attempt]
      exact .of_eq first (alone_release driver ref (.failed error))
  | ok tasks =>
      have first : step ref driver (loaded (.ok stored)) =
          (announcing (handleOf task), driver.withTasks tasks) := by
        simp only [step, found, attempt]
      simp only [begin, found, attempt]
      exact .of_eq first (.next (.refl _))

end StartPhase

namespace StopPhase

variable (id : String)

theorem alone_stopping (ref : TaskRef) :
    Alone (step id) (stopping ref, driver)
      (notifying (driver.tasks.stop ref).1, driver.withTasks (driver.tasks.stop ref).2) := by
  cases running : driver.tasks.isRunning ref with
  | true =>
      have first : step id driver (stopping ref) = (interrupting ref, driver) := by
        simp only [step, running, if_true]
      rw [Registry.stop_of_running _ running]
      exact .of_eq first (.next (.refl _))
  | false =>
      have first : step id driver (stopping ref) =
          (notifying (driver.tasks.stop ref).1, driver.withTasks (driver.tasks.stop ref).2) := by
        simp only [step, running, Bool.false_eq_true, if_false]
      exact .of_eq first (.refl _)

theorem alone_stop :
    ∃ outcome after, Alone (step id) (lookingUp, driver) (done outcome, after) ∧
      driver.stop id = outcome.map fun _ => after := by
  cases looked : driver.tasks.lookup id with
  | error error =>
      have first : step id driver lookingUp = (done (.error error), driver) := by
        simp only [step, looked]
      refine ⟨.error error, driver, .of_eq first (.refl _), ?_⟩
      rw [Driver.stop, looked]
      rfl
  | ok ref =>
      have first : step id driver lookingUp = (stopping ref, driver) := by
        simp only [step, looked]
      have stopped := Alone.of_eq first (alone_stopping driver id ref)
      rw [Driver.stop, looked]
      cases answer : driver.tasks.stop ref with
      | mk accepted tasks =>
          rw [answer] at stopped
          cases accepted with
          | true | false =>
              refine ⟨.ok (), _, stopped.trans (.next (.refl _)), ?_⟩
              simp only [bind, Except.bind, answer]
              rfl

end StopPhase

namespace DestroyPhase

variable (id : String) (force : Bool)

theorem alone_stopping {before after : StopPhase × Driver}
    (stops : Alone (StopPhase.step id) before after) :
    Alone (step id force) (stopping before.1, before.2) (stopping after.1, after.2) := by
  induction stops with
  | refl => exact .refl _
  | @next phase driver last _ ih =>
      cases phase with
      | done outcome => exact ih
      | lookingUp => exact .next ih
      | stopping ref => exact .next ih
      | interrupting ref => exact .next ih
      | notifying accepted => exact .next ih

theorem alone_removing :
    ∃ outcome after, Alone (step id force) (removing, driver) (done outcome, after) ∧
      ((do
        let (_, tasks) ← driver.tasks.remove id
        pure (driver.withTasks tasks)) : Except DriverError Driver) = outcome.map fun _ => after := by
  cases removal : driver.tasks.remove id with
  | error error =>
      have first : step id force driver removing = (done (.error error), driver) := by
        simp only [step, removal]
      exact ⟨.error error, driver, .of_eq first (.refl _), rfl⟩
  | ok removed =>
      have first : step id force driver removing =
          (done (.ok ()), driver.withTasks removed.2) := by
        simp only [step, removal]
      exact ⟨.ok (), _, .of_eq first (.refl _), rfl⟩

theorem alone_destroy :
    ∃ outcome after, Alone (step id force) (lookingUp, driver) (done outcome, after) ∧
      driver.destroy id force = outcome.map fun _ => after := by
  cases looked : driver.tasks.lookup id with
  | error error =>
      have first : step id force driver lookingUp = (done (.error error), driver) := by
        simp only [step, looked]
      refine ⟨.error error, driver, .of_eq first (.refl _), ?_⟩
      rw [destroy, looked]
      rfl
  | ok ref =>
      have first : step id force driver lookingUp = (examining ref, driver) := by
        simp only [step, looked]
      cases exited : (driver.exitResult? ref).isSome with
      | true =>
          have second : step id force driver (examining ref) = (removing, driver) := by
            simp only [step, exited, if_true]
          obtain ⟨outcome, after, removes, same⟩ := alone_removing driver id force
          refine ⟨outcome, after, .of_eq first (.of_eq second removes), ?_⟩
          rw [destroy, looked, ← same]
          simp only [bind, Except.bind, exited, if_true]
          rfl
      | false =>
          cases force with
          | false =>
              have second : step id false driver (examining ref) =
                  (done (.error (.taskRunning id)), driver) := by
                simp only [step, exited, Bool.false_eq_true, if_false]
              refine ⟨.error _, driver, .of_eq first (.of_eq second (.refl _)), ?_⟩
              rw [destroy, looked]
              simp only [bind, Except.bind, exited, Bool.false_eq_true, if_false]
              rfl
          | true =>
              have second : step id true driver (examining ref) = (stopping .lookingUp, driver) := by
                simp only [step, exited, Bool.false_eq_true, if_false, if_true]
              obtain ⟨outcome, stopped, stops, sameStop⟩ := StopPhase.alone_stop driver id
              have within := Alone.of_eq first (.of_eq second (alone_stopping id true stops))
              have result : driver.destroy id true = (do
                  let driver ← driver.stop id
                  let (_, tasks) ← driver.tasks.remove id
                  pure (driver.withTasks tasks)) := by
                rw [destroy, looked]
                simp only [bind, Except.bind, exited, Bool.false_eq_true, if_false, if_true]
              rw [result, sameStop]
              cases outcome with
              | error error =>
                  exact ⟨.error error, stopped, within.trans (.next (.refl _)), rfl⟩
              | ok done =>
                  obtain ⟨outcome, after, removes, same⟩ := alone_removing stopped id true
                  exact ⟨outcome, after, within.trans (.next removes), same⟩

end DestroyPhase

namespace ShutdownPhase

theorem alone_stopping (snapshot remaining : List TaskRef) :
    ∀ driver : Driver, Alone step (stopping snapshot remaining, driver)
      (done snapshot,
        { driver with
          tasks := remaining.foldl (fun tasks ref => (tasks.stop ref).2) driver.tasks
          shutDown := true }) := by
  induction remaining with
  | nil => exact fun driver => .next (.refl _)
  | cons ref others ih =>
      intro driver
      cases running : driver.tasks.isRunning ref with
      | true =>
          have first : step driver (stopping snapshot (ref :: others)) =
              (interrupting snapshot ref others, driver) := by
            simp only [step, running, if_true]
          have stopped : (driver.tasks.stop ref).2 = driver.tasks.interrupt ref := by
            rw [Registry.stop_of_running _ running]
          rw [List.foldl_cons, stopped]
          exact .of_eq first (.next (ih (driver.withTasks (driver.tasks.interrupt ref))))
      | false =>
          have first : step driver (stopping snapshot (ref :: others)) =
              (stopping snapshot others, driver.withTasks (driver.tasks.stop ref).2) := by
            simp only [step, running, Bool.false_eq_true, if_false]
          exact .of_eq first (ih (driver.withTasks (driver.tasks.stop ref).2))

theorem alone_shutdown :
    ∃ snapshot, Alone step (beginning, driver) (done snapshot, driver.shutdown) := by
  refine ⟨driver.tasks.registered.map Prod.fst, .next ?_⟩
  rw [shutdown, ← Registry.foldl_stop_registered]
  exact alone_stopping _ _ driver

end ShutdownPhase

end WasmTasks.Driver
