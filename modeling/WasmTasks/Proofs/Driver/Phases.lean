import WasmTasks.Proofs.Driver.Calls
import WasmTasks.Proofs.Task.Evolution

/-!
What one step of a call keeps for all the others, and what the call itself has achieved when it is
at a step.
-/

namespace WasmTasks.Driver

open Registry (Evolves Keeps Settled Consistent)

variable {driver : Driver} {before after : Registry GuestWork} {starter : Option TaskRef}
  {ref : TaskRef}

namespace StartPhase

/-- A start holds its task back until it runs, and has ended it before it gives the identifier up.
The second step of a stop is never needed, as nobody else sets the task to work. -/
def Holds (tasks : Registry GuestWork) (ref : TaskRef) : StartPhase → Prop
  | loading | loaded _ | stopping _ =>
      ∀ task, tasks.task? ref = some task → task.isRunning = false
  | interrupting _ => False
  | discarding _ => ∀ task, tasks.task? ref = some task → task.isExited = true
  | announcing _ | started _ => ∀ task, tasks.task? ref = some task → task.stage ≠ .starting
  | withdrawn _ =>
      (∀ task, tasks.task? ref = some task → task.isExited = true) ∧
        ∀ id, tasks.get? id ≠ some ref

theorem Holds.evolve {phase : StartPhase} (holds : phase.Holds before ref)
    (evolves : Evolves starter before after) (other : starter ≠ some ref)
    (known : ∃ task, before.task? ref = some task) : phase.Holds after ref := by
  obtain ⟨task, found⟩ := known
  obtain ⟨later, foundLater, advances, runs⟩ := evolves.advances ref task found
  have only : ∀ task, after.task? ref = some task → task = later := by
    intro task foundTask
    rw [foundLater] at foundTask
    cases foundTask
    rfl
  -- only its own start could have set the task to work
  have idle : task.isRunning = false → later.isRunning = false := by
    intro idle
    rw [Bool.eq_false_iff]
    intro running
    rcases runs running with earlier | own
    · rw [idle] at earlier
      cases earlier
    · exact other own
  cases phase with
  | loading | loaded outcome | stopping reason =>
      exact fun task same => only task same ▸ idle (holds _ found)
  | interrupting reason => exact holds
  | discarding reason =>
      exact fun task same => only task same ▸ advances.isExited (holds _ found)
  | announcing handle | started handle =>
      intro task same starting
      have moves := advances.stage
      rw [only task same] at starting
      rw [starting] at moves
      exact holds _ found moves.eq_of_starting
  | withdrawn reason =>
      refine ⟨fun task same => only task same ▸ advances.isExited (holds.1 _ found), ?_⟩
      intro id held
      rcases evolves.registered id ref held with earlier | fresh
      · exact holds.2 id earlier
      · rw [found] at fresh
        cases fresh

theorem step_stopping {reason : Withdrawal} (holds : (stopping reason).Holds driver.tasks ref)
    (known : ∃ task, driver.tasks.task? ref = some task) :
    driver.tasks.isRunning ref = false ∧ (stopping reason).step ref driver =
      (discarding reason, driver.withTasks (driver.tasks.stop ref).2) := by
  obtain ⟨task, found⟩ := known
  have idle : driver.tasks.isRunning ref = false := by
    rw [Registry.isRunning, found, Option.any_some]
    exact holds task found
  refine ⟨idle, ?_⟩
  simp only [step, idle]
  rfl

theorem keeps_discarding {reason : Withdrawal} (holds : (discarding reason).Holds driver.tasks ref)
    (known : ∃ task, driver.tasks.task? ref = some task) :
    Keeps starter driver.tasks (driver.tasks.discard ref).2 := by
  obtain ⟨task, found⟩ := known
  apply Registry.keeps_discard found
  intro task same
  rw [Task.isRemovable, holds task same]
  rfl

variable {phase : StartPhase}

theorem step_keeps (holds : phase.Holds driver.tasks ref)
    (known : ∃ task, driver.tasks.task? ref = some task) :
    Keeps (some ref) driver.tasks (phase.step ref driver).2.tasks := by
  obtain ⟨task, found⟩ := known
  cases phase with
  | loading => exact .refl _
  | loaded outcome =>
      cases outcome with
      | error error => exact Registry.keeps_finish _ _ _
      | ok stored =>
          simp only [step, found]
          cases attempt : driver.tasks.start ref ⟨stored, driver.signals task⟩ with
          | error error => exact .refl _
          | ok tasks => exact Registry.keeps_start found attempt
  | stopping reason =>
      rw [(step_stopping holds ⟨task, found⟩).2]
      exact Registry.keeps_stop _ _
  | interrupting reason => exact Registry.keeps_interrupt _ _
  | discarding reason => exact keeps_discarding holds ⟨task, found⟩
  | announcing handle => exact Registry.keeps_publish _ _ _
  | started handle => exact .refl _
  | withdrawn reason => exact .refl _

theorem step_holds (holds : phase.Holds driver.tasks ref) (consistent : driver.tasks.Consistent)
    (known : ∃ task, driver.tasks.task? ref = some task) :
    (phase.step ref driver).1.Holds (phase.step ref driver).2.tasks ref := by
  obtain ⟨task, found⟩ := known
  cases phase with
  | loading => exact holds
  | loaded outcome =>
      cases outcome with
      | error error =>
          intro later foundLater
          exact Task.isRunning_eq_false_of_isExited (Registry.isExited_of_finish foundLater)
      | ok stored =>
          simp only [step, found]
          cases attempt : driver.tasks.start ref ⟨stored, driver.signals task⟩ with
          | error error => exact holds
          | ok tasks =>
              obtain ⟨running, foundRunning, stage⟩ := Registry.stage_of_start found attempt
              intro later foundLater starting
              rw [show tasks.task? ref = some later from foundLater] at foundRunning
              cases foundRunning
              rw [stage] at starting
              cases starting
  | stopping reason =>
      obtain ⟨idle, stepped⟩ := step_stopping holds ⟨task, found⟩
      rw [stepped]
      exact fun later foundLater => Registry.isExited_of_stop idle foundLater
  | interrupting reason => exact holds.elim
  | discarding reason =>
      refine ⟨?_, Registry.get?_discard_ne consistent found⟩
      intro later foundLater
      rw [step, withTasks, Registry.task?_discard] at foundLater
      exact holds later foundLater
  | announcing handle => exact holds
  | started handle => exact holds
  | withdrawn reason => exact holds

/-- A start unregisters its own task at most. -/
theorem get?_step (phase : StartPhase) (known : ∃ task, driver.tasks.task? ref = some task)
    {id : String} {other : TaskRef} (held : driver.tasks.get? id = some other)
    (distinct : other ≠ ref) : (phase.step ref driver).2.tasks.get? id = some other := by
  obtain ⟨task, found⟩ := known
  cases phase with
  | loading => exact held
  | loaded outcome =>
      cases outcome with
      | error error =>
          rw [step, withTasks, Registry.finish_snd, Registry.get?_change]
          exact held
      | ok stored =>
          simp only [step, found]
          cases attempt : driver.tasks.start ref ⟨stored, driver.signals task⟩ with
          | error error => exact held
          | ok tasks =>
              obtain ⟨working, _, same⟩ := Registry.start_eq_ok _ found attempt
              dsimp only [withTasks]
              rw [same, Registry.get?_replace]
              exact held
  | stopping reason =>
      cases running : driver.tasks.isRunning ref with
      | true =>
          simp only [step, running]
          exact held
      | false =>
          simp only [step, running, Bool.false_eq_true, if_false]
          rw [withTasks, Registry.stop_snd, Registry.get?_change]
          exact held
  | interrupting reason =>
      rw [step, withTasks, Registry.interrupt, Registry.get?_change]
      exact held
  | discarding reason => exact Registry.get?_discard_of_ne found held distinct
  | announcing handle => exact held
  | started handle => exact held
  | withdrawn reason => exact held

end StartPhase

theorem StopPhase.step_keeps (phase : StopPhase) (id : String) (driver : Driver) :
    Keeps starter driver.tasks (phase.step id driver).2.tasks := by
  cases phase with
  | lookingUp =>
      unfold step
      dsimp only
      split <;> exact .refl _
  | stopping ref =>
      unfold step
      dsimp only
      split
      · exact .refl _
      · exact Registry.keeps_stop _ _
  | interrupting ref => exact Registry.keeps_interrupt _ _
  | notifying accepted =>
      cases accepted with
      | true => exact Registry.keeps_publish _ _ _
      | false => exact .refl _
  | done outcome => exact .refl _

theorem DestroyPhase.step_keeps (phase : DestroyPhase) (id : String) (force : Bool)
    (driver : Driver) : Keeps starter driver.tasks (phase.step id force driver).2.tasks := by
  cases phase with
  | lookingUp =>
      unfold step
      dsimp only
      split <;> exact .refl _
  | examining ref =>
      unfold step
      dsimp only
      split
      · exact .refl _
      · split <;> exact .refl _
  | stopping phase =>
      have keeps : Keeps starter driver.tasks (phase.step id driver).2.tasks :=
        phase.step_keeps id driver
      cases phase with
      | done outcome => cases outcome <;> exact .refl _
      | lookingUp => exact keeps
      | stopping ref => exact keeps
      | interrupting ref => exact keeps
      | notifying accepted => exact keeps
  | removing =>
      unfold step
      dsimp only
      cases removal : driver.tasks.remove id with
      | error error => exact .refl _
      | ok removed => exact Registry.keeps_remove removal
  | done outcome => exact .refl _

namespace ShutdownPhase

def pending : ShutdownPhase → List TaskRef
  | stopping _ remaining => remaining
  | interrupting _ ref remaining => ref :: remaining
  | beginning | done _ => []

/-- Every task of the snapshot is settled or has its turn to come. -/
def Holds (tasks : Registry GuestWork) (phase : ShutdownPhase) : Prop :=
  ∀ snapshot, phase.snapshot? = some snapshot → ∀ ref ∈ snapshot,
    (∃ task, tasks.task? ref = some task) ∧ (ref ∈ phase.pending ∨ tasks.Settled ref)

theorem Holds.evolve {phase : ShutdownPhase} (holds : phase.Holds before)
    (evolves : Evolves starter before after) : phase.Holds after := by
  intro snapshot taken ref member
  obtain ⟨known, due⟩ := holds snapshot taken ref member
  obtain ⟨task, found⟩ := known
  obtain ⟨later, foundLater, _⟩ := evolves.advances ref task found
  exact ⟨⟨later, foundLater⟩, due.imp_right fun settled => settled.evolve evolves ⟨task, found⟩⟩

variable {phase : ShutdownPhase}

theorem step_keeps (phase : ShutdownPhase) (driver : Driver) :
    Keeps starter driver.tasks (phase.step driver).2.tasks := by
  cases phase with
  | beginning => exact .refl _
  | stopping snapshot remaining =>
      cases remaining with
      | nil => exact .refl _
      | cons ref remaining =>
          unfold step
          dsimp only
          split
          · exact .refl _
          · exact Registry.keeps_stop _ _
  | interrupting snapshot ref remaining => exact Registry.keeps_interrupt _ _
  | done snapshot => exact .refl _

theorem snapshot?_step {snapshot : List TaskRef} (taken : phase.snapshot? = some snapshot) :
    (phase.step driver).1.snapshot? = some snapshot := by
  cases phase with
  | beginning => cases taken
  | stopping other remaining =>
      cases remaining with
      | nil => exact taken
      | cons ref remaining =>
          unfold step
          dsimp only
          split <;> exact taken
  | interrupting other ref remaining => exact taken
  | done other => exact taken

theorem Holds.next {tasks : Registry GuestWork} {next : ShutdownPhase} {turn : TaskRef}
    (holds : phase.Holds before) (keeps : Keeps none before tasks)
    (same : next.snapshot? = phase.snapshot?) (settled : tasks.Settled turn)
    (left : ∀ ref, ref ∈ phase.pending → ref = turn ∨ ref ∈ next.pending) : next.Holds tasks := by
  intro snapshot taken ref member
  obtain ⟨known, due⟩ := holds.evolve keeps.evolves snapshot (same ▸ taken) ref member
  refine ⟨known, ?_⟩
  rcases due with pending | done
  · rcases left ref pending with own | later
    · rw [own]
      exact .inr settled
    · exact .inl later
  · exact .inr done

theorem step_holds (holds : phase.Holds driver.tasks) :
    (phase.step driver).1.Holds (phase.step driver).2.tasks := by
  cases phase with
  | beginning =>
      intro snapshot taken ref member
      cases taken
      refine ⟨?_, .inl member⟩
      obtain ⟨⟨_, task⟩, registered, rfl⟩ := List.mem_map.mp member
      exact ⟨task, ((Registry.mem_registered _).mp registered).1⟩
  | stopping snapshot remaining =>
      cases remaining with
      | nil => exact holds
      | cons ref remaining =>
          unfold step
          dsimp only
          split
          · exact holds
          · rename_i idle
            have settled : (driver.tasks.stop ref).2.Settled ref := by
              intro task found
              rw [Task.isRemovable, Registry.isExited_of_stop (by simpa using idle) found]
              rfl
            exact holds.next (Registry.keeps_stop _ _) rfl settled fun _ => List.mem_cons.mp
  | interrupting snapshot ref remaining =>
      have settled : (driver.tasks.interrupt ref).Settled ref := by
        intro task found
        rw [Task.isRemovable, Registry.requested_of_interrupt found, Bool.or_true]
      exact holds.next (Registry.keeps_interrupt _ _) rfl settled fun _ => List.mem_cons.mp
  | done snapshot => exact holds

end ShutdownPhase

end WasmTasks.Driver
