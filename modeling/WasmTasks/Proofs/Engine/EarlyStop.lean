import WasmTasks.Module.Described
import WasmTasks.Proofs.Engine.Modules

/-!
A stop that was over before its task began. The deadline is armed ahead of the epoch that this stop
advanced, so guest code that runs before the first look at the flag meets no checkpoint that would
abort it unless something else advances the epoch. Nothing but a start function runs that early.
-/

namespace WasmTasks

namespace World

variable {world : World}

theorem epoch_le_after (world : World) (disturbances : List Disturbance) :
    world.epoch ≤ (world.after disturbances).epoch := by
  induction disturbances generalizing world with
  | nil => exact Nat.le_refl _
  | cons disturbance later ih =>
      exact Nat.le_trans (world.epoch_le_disturb disturbance) (ih (world.disturb disturbance))

theorem returned_after (returned : world.interruption = .returned)
    (disturbances : List Disturbance) : (world.after disturbances).interruption = .returned := by
  induction disturbances generalizing world with
  | nil => exact returned
  | cons disturbance later ih =>
      apply ih
      cases disturbance <;> simp only [disturb, returned]

theorem requested_of_returned (returned : world.interruption = .returned) :
    world.signals.requested = true := by
  simp [signals, returned]

/-- Once its own stop has returned, a task sees the epoch advance only by others. -/
theorem epoch_lt_after_iff (returned : world.interruption = .returned)
    (disturbances : List Disturbance) :
    world.epoch < (world.after disturbances).epoch ↔ .other ∈ disturbances := by
  induction disturbances generalizing world with
  | nil => simp [after]
  | cons disturbance later ih =>
      show world.epoch < ((world.disturb disturbance).after later).epoch ↔ _
      cases disturbance with
      | other =>
          have advanced := (world.disturb .other).epoch_le_after later
          exact iff_of_true advanced List.mem_cons_self
      | request =>
          rw [show world.disturb .request = world by simp only [disturb, returned]]
          simpa using ih returned
      | advance =>
          rw [show world.disturb .advance = world by simp only [disturb, returned]]
          simpa using ih returned

end World

namespace Vigil

/-- Endless code goes on for ever if it started after the stop and nobody else advances the epoch.
-/
theorem spin_eq_none_iff {world : World} (returned : world.interruption = .returned)
    (ahead : List (List Disturbance)) :
    spin (.arm world.epoch) world ahead = none ↔ ∀ now ∈ ahead, Disturbance.other ∉ now := by
  induction ahead generalizing world with
  | nil => simp [spin, Deadline.check, Deadline.arm, World.signals]
  | cons now later ih =>
      have late := World.returned_after returned now
      by_cases passed : Disturbance.other ∈ now
      · have advanced := (World.epoch_lt_after_iff returned now).mpr passed
        have due : ¬ (world.after now).signals.epoch < (Deadline.arm world.epoch).epoch :=
          Nat.not_lt.mpr (Nat.succ_le_of_lt advanced)
        have aborts : (Deadline.arm world.epoch).check (world.after now).signals = none := by
          rw [Deadline.check, if_neg due, if_pos (World.requested_of_returned late)]
        rw [spin, aborts]
        simp [passed]
      · have still : (world.after now).epoch = world.epoch := by
          have kept := mt (World.epoch_lt_after_iff returned now).mp passed
          exact Nat.le_antisymm (Nat.le_of_not_lt kept) (world.epoch_le_after now)
        have passes : (Deadline.arm world.epoch).check (world.after now).signals =
            some (.arm (world.after now).epoch) := by
          simp [Deadline.check, Deadline.arm, World.signals, still]
        rw [spin, passes, Option.map_eq_none_iff, ih late]
        simp [passed]

theorem timeline_requested {world : World} (returned : world.interruption = .returned)
    (deadline : Deadline) (ahead : List (List Disturbance)) :
    (timeline ⟨deadline, world, ahead⟩).All fun signals => signals.requested = true := by
  induction ahead generalizing world with
  | nil =>
      intro signals member
      obtain rfl := List.mem_singleton.mp member
      exact World.requested_of_returned returned
  | cons now later ih =>
      have late := World.returned_after returned now
      exact .cons (World.requested_of_returned late) (ih late)

end Vigil

variable {μ ν : Type}

/-- The guest gets as far as its start function, which does not end. -/
def Guest.StartsForever (guest : Guest ν) : Prop :=
  guest.imports = [] ∧ guest.obstacle = none ∧
    ∃ code, guest.start = some code ∧ (code.run [] guest.initial).ending = none

namespace GuestRun

variable {holds : Signals → Prop} {timeline : Timeline}

theorem openContext_all (machine : Machine μ ν) (id : String) (stored : CachedModule)
    (held : Option (Context ν)) (all : timeline.All holds) :
    (openContext machine id stored ⟨held, timeline⟩).Meets True
      fun _ run => run.timeline.All holds := by
  cases taken : machine.ofCached stored with
  | error error =>
      simp only [openContext, Context.instantiate, taken]
      exact all
  | ok compiled =>
      rw [openContext_eq_finish taken]
      exact Errand.finish_all all.next.2

/-- Nothing but a start function without end keeps a context from being made. -/
theorem openContext_eq_endless_iff {machine : Machine μ ν} {id : String} {stored : CachedModule}
    {held : Option (Context ν)} :
    openContext machine id stored ⟨held, timeline⟩ = .endless ↔
      (∃ compiled, machine.ofCached stored = .ok compiled ∧
        (machine.guest compiled.module).StartsForever) ∧
      Deadline.spin timeline.next.2.settled 0 (.arm timeline.next.1.epoch)
        timeline.next.2.upcoming = none := by
  cases taken : machine.ofCached stored with
  | error error => simp [openContext, Context.instantiate, taken]
  | ok compiled =>
      rw [openContext_eq_finish taken, Errand.finish_eq_endless_iff,
        Context.checkpoints_opening_eq_none_iff, Context.deadline_opening,
        Context.reached_opening]
      simp [Guest.StartsForever]

end GuestRun

namespace Protocol

variable {timeline : Timeline}

theorem executeModule_of_requested (machine : Machine μ ν) (id : String) (stored : CachedModule)
    (config : TaskConfig) (all : timeline.All fun signals => signals.requested = true) :
    (executeModule machine id stored config timeline = none ↔
        GuestRun.openContext machine id stored (.start timeline) = .endless) ∧
      ∀ result, executeModule machine id stored config timeline = some result →
        result.isStopped = true := by
  have kept := GuestRun.openContext_all machine id stored none all
  unfold executeModule execute run
  simp only [Session.bind_apply, GuestRun.backend, GuestRun.start]
  revert kept
  cases GuestRun.openContext machine id stored ⟨none, timeline⟩ with
  | endless => simp
  | aborted after => exact False.elim
  | answered answer after =>
      intro kept
      have requested : after.timeline.next.1.requested = true := kept.next.1
      cases answer with
      | error error =>
          cases interrupted : error.isInterrupted with
          | true =>
              simp [classify, TaskFault.isInterrupted, interrupted, ExitResult.isStopped,
                ExitResult.cause]
          | false =>
              simp [classify, checkStop, GuestRun.stopRequested, TaskFault.isInterrupted,
                interrupted, requested, ExitResult.isStopped, ExitResult.cause]
      | ok opened =>
          simp [classify, checkStop, GuestRun.stopRequested, requested, ExitResult.isStopped,
            ExitResult.cause]

/-- A task that begins after its stop has returned is stopped. Only a start function without end
keeps it from that, if nobody advances the epoch any more once the deadline is armed. -/
theorem executeModule_of_returned (machine : Machine μ ν) (id : String) (stored : CachedModule)
    (config : TaskConfig) {world : World} (returned : world.interruption = .returned)
    (ahead : List (List Disturbance)) :
    let outcome := executeModule machine id stored config
      (Vigil.timeline ⟨.arm world.epoch, world, ahead⟩)
    (outcome = none ↔
      (∃ compiled, machine.ofCached stored = .ok compiled ∧
        (machine.guest compiled.module).StartsForever) ∧
      ∀ now ∈ ahead.tail, Disturbance.other ∉ now) ∧
    ∀ result, outcome = some result → result.cause = .stopped ∧ result.exitCode = 143 := by
  intro outcome
  obtain ⟨endless, stopped⟩ :=
    executeModule_of_requested machine id stored config (Vigil.timeline_requested returned _ ahead)
  have found : (Vigil.observe ⟨.arm world.epoch, world, ahead⟩).ahead = ahead.tail ∧
      (Vigil.observe ⟨.arm world.epoch, world, ahead⟩).world.interruption = .returned := by
    cases ahead with
    | nil => exact ⟨rfl, returned⟩
    | cons now later => exact ⟨rfl, World.returned_after returned now⟩
  refine ⟨endless.trans ?_, ?_⟩
  · rw [GuestRun.start, GuestRun.openContext_eq_endless_iff, Vigil.next_timeline]
    generalize Vigil.observe ⟨.arm world.epoch, world, ahead⟩ = begun at found
    obtain ⟨rest, late⟩ := found
    have seen := Vigil.spin_timeline { begun with deadline := .arm begun.world.epoch } 0
    have spins : Deadline.spin begun.timeline.settled 0 (.arm begun.world.signals.epoch)
        begun.timeline.upcoming = none ↔ ∀ now ∈ ahead.tail, Disturbance.other ∉ now := by
      rw [← rest, ← Vigil.spin_eq_none_iff late]
      exact (iff_of_eq (congrArg (· = none) seen)).trans Option.map_eq_none_iff
    exact and_congr_right' spins
  · intro result ended
    have cause : result.cause = .stopped := of_decide_eq_true (stopped result ended)
    exact ⟨cause, by rw [ExitResult.exitCode, cause]; rfl⟩

/-- Somebody else advances the epoch, and so the start function is aborted after all. -/
theorem executeModule_of_returned_rescued :
    let module : Description := ⟨[], [], some .spin, [⟨some "main", [], [], .nop⟩]⟩
    let machine := Description.machine [([1], module)]
    let stored : CachedModule := ⟨"m.wasm", .wasmtime, Description.mark ++ [1], ""⟩
    let config := (TaskConfig.ofModule "m.wasm").withEntry "main" []
    let world : World := ⟨1, .returned⟩
    let outcome := executeModule machine "task" stored config
      (Vigil.timeline ⟨.arm world.epoch, world, [[], [.other]]⟩)
    world.interruption = .returned ∧ outcome ≠ none ∧
      ∀ result, outcome = some result → result.cause = .stopped ∧ result.exitCode = 143 := by
  intro module machine stored config world outcome
  have returned : world.interruption = .returned := rfl
  obtain ⟨endless, stopped⟩ :=
    executeModule_of_returned machine "task" stored config returned [[], [.other]]
  refine ⟨returned, fun lost => ?_, stopped⟩
  exact (endless.mp lost).2 [.other] List.mem_cons_self List.mem_cons_self

/-- With nobody else to do it, the task is never stopped. -/
theorem executeModule_of_returned_endless :
    let module : Description := ⟨[], [], some .spin, [⟨some "main", [], [], .nop⟩]⟩
    let machine := Description.machine [([1], module)]
    let stored : CachedModule :=
      ⟨"m.wasm", .wasmtime, Description.mark ++ [1], Digest.contentHash [1]⟩
    let config := (TaskConfig.ofModule "m.wasm").withEntry "main" []
    let world : World := ⟨1, .returned⟩
    machine.cachedOf "m.wasm" [1] = .ok stored ∧
      executeModule machine "task" stored config
        (Vigil.timeline ⟨.arm world.epoch, world, []⟩) = none :=
  ⟨rfl, rfl⟩

end Protocol

end WasmTasks
