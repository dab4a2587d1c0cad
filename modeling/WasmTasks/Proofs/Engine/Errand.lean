import WasmTasks.Proofs.Engine.Checkpoints
import WasmTasks.Proofs.Engine.Interruption
import WasmTasks.Protocol.GuestBackend

/-!
What an engine does for a task, set apart from what its checkpoints find. To instantiate a module
and to call a function is to take a number of checkpoints, and then to end in one way if they all
pass and in another if one of them aborts.
-/

namespace WasmTasks

variable {μ ν α β : Type}

/-- Work that is underway: the checkpoints ahead of it, none if there is no end to them, and how many
were reached before; then the answer and the context it ends with if one of them aborts it, or if
all of them pass. -/
structure Errand (ν α : Type) where
  checkpoints : Option Nat
  reached : Nat
  deadline : Deadline
  aborted : Nat → α × Option (Context ν)
  passed : α × Option (Context ν)

namespace Errand

def still (deadline : Deadline) (outcome : α × Option (Context ν)) : Errand ν α :=
  ⟨some 0, 0, deadline, fun _ => outcome, outcome⟩

def map (change : α → β) (errand : Errand ν α) : Errand ν β where
  checkpoints := errand.checkpoints
  reached := errand.reached
  deadline := errand.deadline
  aborted checkpoint := (errand.aborted checkpoint).map change id
  passed := errand.passed.map change id

def renew (errand : Errand ν α) (deadline : Deadline) : Errand ν α :=
  { errand with
    checkpoints := errand.checkpoints.map Nat.pred
    reached := errand.reached + 1
    deadline := deadline }

def conclude (deadline : Deadline) (outcome : α × Option (Context ν)) : α × Option (Context ν) :=
  (outcome.1, outcome.2.map fun context => context.due deadline)

def reply (outcome : α × Option (Context ν)) (timeline : Timeline) : Reply (GuestRun ν) α :=
  .answered outcome.1 ⟨outcome.2, timeline⟩

/-- The rest of the work, with its checkpoints meeting these observations. -/
def finish (errand : Errand ν α) (timeline : Timeline) : Reply (GuestRun ν) α :=
  match errand.checkpoints with
  | none =>
      match Deadline.spin timeline.settled errand.reached errand.deadline timeline.upcoming with
      | none => .endless
      | some (checkpoint, deadline, left) =>
          reply (conclude deadline (errand.aborted checkpoint)) left
  | some count =>
      match errand.deadline.pass errand.reached count timeline with
      | (some checkpoint, deadline, left) =>
          reply (conclude deadline (errand.aborted checkpoint)) left
      | (none, deadline, left) => reply (conclude deadline errand.passed) left

variable {errand : Errand ν α} {timeline : Timeline}

theorem finish_of_passed (done : errand.checkpoints = some 0) :
    errand.finish timeline = reply (conclude errand.deadline errand.passed) timeline := by
  unfold finish
  rw [done]
  rfl

theorem finish_of_aborted (ahead : errand.checkpoints ≠ some 0)
    (aborts : errand.deadline.check timeline.next.1 = none) :
    errand.finish timeline =
      reply (conclude errand.deadline (errand.aborted errand.reached)) timeline.next.2 := by
  unfold finish
  cases left : errand.checkpoints with
  | none => rw [Deadline.spin_of_aborted aborts]
  | some count =>
      cases count with
      | zero => exact absurd left ahead
      | succ count =>
          dsimp only
          rw [Deadline.pass_of_aborted aborts]

theorem finish_of_renewed {renewed : Deadline} (ahead : errand.checkpoints ≠ some 0)
    (passes : errand.deadline.check timeline.next.1 = some renewed) :
    errand.finish timeline = (errand.renew renewed).finish timeline.next.2 := by
  unfold finish renew
  cases left : errand.checkpoints with
  | none =>
      dsimp only
      rw [Deadline.spin_of_renewed passes]
      rfl
  | some count =>
      cases count with
      | zero => exact absurd left ahead
      | succ count =>
          dsimp only
          rw [Deadline.pass_of_renewed passes]
          rfl

theorem finish_all {holds : Signals → Prop} (all : timeline.All holds) :
    (errand.finish timeline).Meets True fun _ run => run.timeline.All holds := by
  unfold finish
  cases errand.checkpoints with
  | none =>
      dsimp only
      cases spun : Deadline.spin timeline.settled errand.reached errand.deadline
        timeline.upcoming with
      | none => trivial
      | some last => exact Deadline.spin_all all spun
  | some count =>
      have kept : (errand.deadline.pass errand.reached count timeline).2.2.All holds :=
        Deadline.pass_all all
      revert kept
      dsimp only
      rcases errand.deadline.pass errand.reached count timeline with
        ⟨_ | checkpoint, deadline, left⟩ <;> exact fun kept => kept

theorem finish_eq_endless_iff :
    errand.finish timeline = .endless ↔
      errand.checkpoints = none ∧
        Deadline.spin timeline.settled errand.reached errand.deadline timeline.upcoming = none := by
  unfold finish
  cases errand.checkpoints with
  | none =>
      dsimp only
      cases Deadline.spin timeline.settled errand.reached errand.deadline timeline.upcoming <;>
        simp [reply]
  | some count =>
      dsimp only
      rcases errand.deadline.pass errand.reached count timeline with
        ⟨_ | checkpoint, deadline, left⟩ <;> simp [reply]

theorem finish_map (change : α → β) :
    (errand.map change).finish timeline = (errand.finish timeline).map change := by
  unfold finish map
  cases errand.checkpoints with
  | none =>
      dsimp only
      cases Deadline.spin timeline.settled errand.reached errand.deadline timeline.upcoming <;> rfl
  | some count =>
      dsimp only
      rcases errand.deadline.pass errand.reached count timeline with
        ⟨_ | checkpoint, deadline, left⟩ <;> rfl

end Errand

namespace Context

/-- What a call does if none of its checkpoints aborts it. -/
def behave (function : String) (args : List Int64) (context : Context ν) :
    Behaviour (Context ν) :=
  match context.prepare function args with
  | .error error => ⟨some 0, fun _ => context, .error error, context⟩
  | .ok (entered, values) =>
      let activity := entered.code.run values context.state
      let reached := fun checkpoint => context.leaving (activity.reached checkpoint)
      match activity.ending with
      | none => ⟨none, reached, .error (.interrupted function), context⟩
      | some work =>
          ⟨some (work.passes + 1), reached, report function (work.outcome.mapError some),
            context.leaving work.state⟩

theorem behave_due (context : Context ν) (deadline : Deadline) (function : String)
    (args : List Int64) :
    (context.due deadline).behave function args =
      ⟨(context.behave function args).checkpoints,
        fun checkpoint => ((context.behave function args).reached checkpoint).due deadline,
        (context.behave function args).answer,
        (context.behave function args).guest.due deadline⟩ := by
  unfold behave
  rw [prepare_due, state_due]
  cases context.prepare function args with
  | error error => rfl
  | ok entered =>
      dsimp only
      cases (entered.1.code.run entered.2 context.state).ending <;> rfl

def calling (context : Context ν) (function : String) (args : List Int64) :
    Errand ν (Except CallError (List Int64)) :=
  let behaviour := context.behave function args
  ⟨behaviour.checkpoints, 0, context.deadline,
    fun checkpoint => (.error (.interrupted function), some (behaviour.reached checkpoint)),
    (behaviour.answer, some behaviour.guest)⟩

/-- What comes of a context whose start function ended. -/
def started (context : Context ν) (work : Work ν) : Except CallError Unit × Option (Context ν) :=
  match work.outcome with
  | .error trap => (.error (.instantiation (.startTrap trap.chain)), none)
  | .ok _ => (.ok (), some (context.leaving work.state))

/-- The work of a start function. -/
def starting (context : Context ν) (code : Code ν) : Errand ν (Except CallError Unit) :=
  let stopped := (.error (.interrupted startFunction), none)
  match (code.run [] context.state).ending with
  | none => ⟨none, 0, context.deadline, fun _ => stopped, stopped⟩
  | some work =>
      ⟨some (work.passes + 1), 0, context.deadline, fun _ => stopped, context.started work⟩

def opening (id : String) (guest : Guest ν) (epoch : Nat) : Errand ν (Except CallError Unit) :=
  let context : Context ν := ⟨id, guest, guest.initial, .arm epoch⟩
  match guest.imports, guest.obstacle, guest.start with
  | first :: _, _, _ =>
      .still context.deadline
        (.error (.instantiation (.unknownImport first.space first.name)), none)
  | [], some reason, _ => .still context.deadline (.error (.instantiation (.described reason)), none)
  | [], none, none => .still context.deadline (.ok (), some context)
  | [], none, some code => context.starting code

@[simp] theorem deadline_starting (context : Context ν) (code : Code ν) :
    (context.starting code).deadline = context.deadline := by
  unfold starting
  cases (code.run [] context.state).ending <;> rfl

@[simp] theorem reached_starting (context : Context ν) (code : Code ν) :
    (context.starting code).reached = 0 := by
  unfold starting
  cases (code.run [] context.state).ending <;> rfl

@[simp] theorem checkpoints_starting_eq_none_iff (context : Context ν) (code : Code ν) :
    (context.starting code).checkpoints = none ↔ (code.run [] context.state).ending = none := by
  unfold starting
  cases (code.run [] context.state).ending <;> simp

/-- No context is made of the guest, or it is made at once, or its start function goes to work. -/
theorem opening_cases (guest : Guest ν) :
    (¬ (guest.imports = [] ∧ guest.obstacle = none) ∧ ∃ fault, ∀ id epoch,
      opening id guest epoch = .still (.arm epoch) (.error (.instantiation fault), none)) ∨
    (guest.start = none ∧ ∀ id epoch, opening id guest epoch =
      .still (.arm epoch) (.ok (), some ⟨id, guest, guest.initial, .arm epoch⟩)) ∨
    ∃ code, guest.imports = [] ∧ guest.obstacle = none ∧ guest.start = some code ∧ ∀ id epoch,
      opening id guest epoch = Context.starting ⟨id, guest, guest.initial, .arm epoch⟩ code := by
  simp only [opening]
  cases imports : guest.imports with
  | cons first others => exact .inl ⟨by simp, _, fun _ _ => rfl⟩
  | nil =>
      cases obstacle : guest.obstacle with
      | some reason => exact .inl ⟨by simp, _, fun _ _ => rfl⟩
      | none =>
          cases start : guest.start with
          | none => exact .inr (.inl ⟨rfl, fun _ _ => rfl⟩)
          | some code => exact .inr (.inr ⟨code, rfl, rfl, rfl, fun _ _ => rfl⟩)

@[simp] theorem deadline_opening (id : String) (guest : Guest ν) (epoch : Nat) :
    (opening id guest epoch).deadline = .arm epoch := by
  obtain ⟨_, _, opens⟩ | ⟨_, opens⟩ | ⟨code, _, _, _, opens⟩ := opening_cases guest
  · rw [opens, Errand.still]
  · rw [opens, Errand.still]
  · rw [opens, deadline_starting]

@[simp] theorem reached_opening (id : String) (guest : Guest ν) (epoch : Nat) :
    (opening id guest epoch).reached = 0 := by
  obtain ⟨_, _, opens⟩ | ⟨_, opens⟩ | ⟨code, _, _, _, opens⟩ := opening_cases guest
  · rw [opens, Errand.still]
  · rw [opens, Errand.still]
  · rw [opens, reached_starting]

/-- Nothing but a start function keeps the making of a context from ending. -/
theorem checkpoints_opening_eq_none_iff (id : String) (guest : Guest ν) (epoch : Nat) :
    (opening id guest epoch).checkpoints = none ↔
      guest.imports = [] ∧ guest.obstacle = none ∧
        ∃ code, guest.start = some code ∧ (code.run [] guest.initial).ending = none := by
  obtain ⟨kept, _, opens⟩ | ⟨start, opens⟩ | ⟨code, imports, obstacle, start, opens⟩ :=
    opening_cases guest
  · rw [opens, Errand.still]
    exact iff_of_false nofun fun ⟨imports, obstacle, _⟩ => kept ⟨imports, obstacle⟩
  · rw [opens, Errand.still, start]
    exact iff_of_false nofun fun ⟨_, _, _, started, _⟩ => nomatch started
  · rw [opens, checkpoints_starting_eq_none_iff]
    simp [imports, obstacle, start]

end Context

namespace GuestRun

theorem call_eq_finish (context : Context ν) (function : String) (args : List Int64)
    (timeline : Timeline) :
    call function args ⟨some context, timeline⟩ =
      (context.calling function args).finish timeline := by
  simp only [call, Context.calling, Context.behave]
  cases prepared : context.prepare function args with
  | error error =>
      simp only [Context.call, prepared]
      rfl
  | ok entered =>
      obtain ⟨entered, values⟩ := entered
      rw [Context.call_of_prepare prepared]
      dsimp only
      -- one checkpoint at the entry and one a loop pass, or no end to them
      cases works : (entered.code.run values context.state).ending with
      | none =>
          rw [context.enter_of_endless works]
          unfold Errand.finish
          dsimp only
          cases Deadline.spin timeline.settled 0 context.deadline timeline.upcoming <;> rfl
      | some work =>
          rw [context.enter_of_work works]
          unfold Errand.finish
          dsimp only
          rcases context.deadline.pass 0 (work.passes + 1) timeline with
            ⟨_ | checkpoint, deadline, left⟩ <;> rfl

theorem openContext_eq_finish {machine : Machine μ ν} {stored : CachedModule}
    {compiled : CompiledModule μ} (usable : machine.ofCached stored = .ok compiled) (id : String)
    (held : Option (Context ν)) (timeline : Timeline) :
    openContext machine id stored ⟨held, timeline⟩ =
      (Context.opening id (machine.guest compiled.module) timeline.next.1.epoch).finish
        timeline.next.2 := by
  simp only [openContext, Context.instantiate, usable, Context.opening]
  cases (machine.guest compiled.module).imports with
  | cons first others => rfl
  | nil =>
      cases (machine.guest compiled.module).obstacle with
      | some reason => rfl
      | none =>
          cases (machine.guest compiled.module).start with
          | none => rfl
          | some code =>
              generalize Deadline.arm timeline.next.1.epoch = armed
              generalize timeline.next.2 = rest
              generalize machine.guest compiled.module = guest
              dsimp only
              cases works : (code.run [] guest.initial).ending with
              | none =>
                  rw [Context.enter_of_endless ⟨id, guest, guest.initial, armed⟩ works]
                  simp only [Errand.finish, Context.starting, works]
                  cases Deadline.spin rest.settled 0 armed rest.upcoming <;> rfl
              | some work =>
                  rw [Context.enter_of_work ⟨id, guest, guest.initial, armed⟩ works]
                  simp only [Errand.finish, Context.starting, Context.started, works]
                  rcases armed.pass 0 (work.passes + 1) rest with ⟨_ | checkpoint, deadline, left⟩
                  · dsimp only
                    cases work.outcome <;> rfl
                  · rfl

end GuestRun

end WasmTasks
