import WasmTasks.Proofs.Engine.Errand
import WasmTasks.Proofs.Protocol.Agreement

/-!
Guest code that nobody stops. Wherever the epoch goes, a checkpoint without a request passes; so the
code does the same on all timelines without one, apart from the deadline that it is left with.
-/

namespace WasmTasks

variable {μ ν α : Type}

/-- Nothing to come finds the stop requested. -/
def Timeline.Calm (timeline : Timeline) : Prop :=
  timeline.All fun signals => signals.requested = false

namespace Deadline

variable {deadline : Deadline} {timeline : Timeline} {first : Nat}

theorem exists_check_of_calm {signals : Signals} (calm : signals.requested = false)
    (deadline : Deadline) : ∃ renewed, deadline.check signals = some renewed := by
  unfold check
  rw [calm]
  split <;> exact ⟨_, rfl⟩

theorem pass_of_calm (calm : timeline.Calm) (count : Nat) :
    (deadline.pass first count timeline).1 = none := by
  induction count generalizing first deadline timeline with
  | zero => rfl
  | succ count ih =>
      obtain ⟨renewed, passes⟩ := exists_check_of_calm calm.next.1 deadline
      rw [pass_of_renewed passes]
      exact ih calm.next.2

theorem spin_of_calm (calm : timeline.Calm) :
    spin timeline.settled first deadline timeline.upcoming = none := by
  obtain ⟨upcoming, settled⟩ := timeline
  induction upcoming generalizing first deadline with
  | nil =>
      obtain ⟨renewed, passes⟩ := exists_check_of_calm calm.next.1 deadline
      rw [spin, show deadline.check settled = some renewed from passes]
  | cons signals later ih =>
      obtain ⟨renewed, passes⟩ := exists_check_of_calm calm.next.1 deadline
      rw [spin, show deadline.check signals = some renewed from passes]
      exact ih calm.next.2

end Deadline

namespace Context

def undated (context : Context ν) : Context ν :=
  context.due ⟨0, 0⟩

theorem cases_of_undated {context other : Option (Context ν)}
    (same : context.map undated = other.map undated) :
    (context = none ∧ other = none) ∨
      ∃ held deadline, context = some held ∧ other = some (held.due deadline) := by
  cases context <;> cases other
  case none.none => exact .inl ⟨rfl, rfl⟩
  case some.some context other =>
    refine .inr ⟨context, other.deadline, rfl, ?_⟩
    obtain ⟨id, guest, state, deadline⟩ := context
    obtain ⟨otherId, otherGuest, otherState, otherDeadline⟩ := other
    cases same
    rfl
  all_goals cases same

theorem write_due (context : Context ν) (deadline : Deadline) (offset : Nat) (bytes : Bytes) :
    (context.due deadline).write offset bytes =
      (context.write offset bytes).map fun written => written.due deadline := by
  unfold write
  rw [memory?_due]
  rcases context.memory? with _ | ⟨index, memory⟩
  · rfl
  · dsimp only
    cases memory.write? offset bytes <;> rfl

theorem caused_write (context : Context ν) (offset : Nat) (bytes : Bytes) :
    Caused False (fun error => (TaskFault.buffer error).isInterrupted)
      (context.write offset bytes) := by
  unfold write
  rcases context.memory? with _ | ⟨index, memory⟩
  · exact Bool.false_ne_true
  · dsimp only
    cases memory.write? offset bytes with
    | none => exact Bool.false_ne_true
    | some written => trivial

theorem caused_report (function : String) (outcome : Except Trap (List Value)) :
    Caused False CallError.isInterrupted (report function (outcome.mapError some)) := by
  cases outcome with
  | error trap => exact Bool.false_ne_true
  | ok results =>
      dsimp only [Except.mapError, report]
      cases integers results with
      | error mismatch => exact Bool.false_ne_true
      | ok values => trivial

/-- Only code without end answers nothing but that it was interrupted. -/
theorem caused_behave (context : Context ν) (function : String) (args : List Int64)
    (ends : (context.behave function args).checkpoints ≠ none) :
    Caused False CallError.isInterrupted (context.behave function args).answer := by
  revert ends
  unfold behave
  cases prepared : context.prepare function args with
  | error error =>
      intro _ interrupted
      unfold prepare at prepared
      repeat' split at prepared
      all_goals cases prepared
      all_goals cases interrupted
  | ok entered =>
      dsimp only
      cases (entered.1.code.run entered.2 context.state).ending with
      | none => exact fun ends => absurd rfl ends
      | some work =>
          intro _
          exact caused_report function work.outcome

theorem caused_opening (id : String) (guest : Guest ν) (epoch : Nat)
    (ends : (opening id guest epoch).checkpoints ≠ none) :
    Caused False CallError.isInterrupted (opening id guest epoch).passed.1 := by
  obtain ⟨_, fault, opens⟩ | ⟨_, opens⟩ | ⟨code, _, _, _, opens⟩ := opening_cases guest
  · rw [opens]
    exact Bool.false_ne_true
  · rw [opens]
    trivial
  · rw [opens] at ends ⊢
    revert ends
    unfold starting
    cases (code.run [] guest.initial).ending with
    | none => exact fun ends => absurd rfl ends
    | some work =>
        dsimp only [started]
        cases work.outcome with
        | error trap => exact fun _ => Bool.false_ne_true
        | ok results => exact fun _ => trivial

end Context

/-- Runs of the same guest in the same state that nobody stops. -/
structure GuestRun.Alike (run other : GuestRun ν) : Prop where
  context : run.context.map Context.undated = other.context.map Context.undated
  calm : run.timeline.Calm
  otherCalm : other.timeline.Calm

namespace Errand

variable {errand other : Errand ν α} {timeline otherTimeline : Timeline} {good : α → Prop}

/-- The work apart from its deadline. -/
def undated (errand : Errand ν α) : Errand ν α where
  checkpoints := errand.checkpoints
  reached := errand.reached
  deadline := ⟨0, 0⟩
  aborted checkpoint := (errand.aborted checkpoint).map id (Option.map Context.undated)
  passed := errand.passed.map id (Option.map Context.undated)

theorem checkpoints_of_undated (same : errand.undated = other.undated) :
    errand.checkpoints = other.checkpoints := by
  show errand.undated.checkpoints = other.undated.checkpoints
  rw [same]

theorem passed_of_undated (same : errand.undated = other.undated) :
    errand.passed.1 = other.passed.1 ∧
      errand.passed.2.map Context.undated = other.passed.2.map Context.undated := by
  have alike : errand.undated.passed = other.undated.passed := by rw [same]
  exact Prod.mk.inj alike

theorem undated_calling (context : Context ν) (deadline : Deadline) (function : String)
    (args : List Int64) :
    (context.calling function args).undated =
      ((context.due deadline).calling function args).undated := by
  unfold Context.calling
  rw [Context.behave_due]
  rfl

theorem undated_opening (id : String) (guest : Guest ν) (epoch otherEpoch : Nat) :
    (Context.opening id guest epoch).undated = (Context.opening id guest otherEpoch).undated := by
  obtain ⟨_, fault, opens⟩ | ⟨_, opens⟩ | ⟨code, _, _, _, opens⟩ := Context.opening_cases guest
  · rw [opens, opens]
    rfl
  · rw [opens, opens]
    rfl
  · rw [opens, opens]
    unfold Context.starting
    dsimp only
    cases (code.run [] guest.initial).ending with
    | none => rfl
    | some work =>
        dsimp only [undated, Context.started]
        cases work.outcome <;> rfl

@[simp] theorem undated_conclude (deadline : Deadline) (outcome : α × Option (Context ν)) :
    (conclude deadline outcome).2.map Context.undated = outcome.2.map Context.undated := by
  rw [conclude, Option.map_map]
  rfl

theorem finish_of_calm {count : Nat} (calm : timeline.Calm)
    (ends : errand.checkpoints = some count) :
    ∃ deadline left, left.Calm ∧
      errand.finish timeline = reply (conclude deadline errand.passed) left := by
  have passed : (errand.deadline.pass errand.reached count timeline).1 = none :=
    Deadline.pass_of_calm calm count
  have kept : (errand.deadline.pass errand.reached count timeline).2.2.Calm :=
    Deadline.pass_all calm
  unfold finish
  rw [ends]
  revert passed kept
  dsimp only
  rcases errand.deadline.pass errand.reached count timeline with ⟨aborted, deadline, left⟩
  rintro rfl kept
  exact ⟨deadline, left, kept, rfl⟩

theorem finish_agrees (same : errand.undated = other.undated)
    (fine : errand.checkpoints ≠ none → good errand.passed.1) (calm : timeline.Calm)
    (otherCalm : otherTimeline.Calm) :
    (errand.finish timeline).Agrees GuestRun.Alike good (other.finish otherTimeline) := by
  have sameCheckpoints := checkpoints_of_undated same
  obtain ⟨sameAnswer, sameContext⟩ := passed_of_undated same
  cases ends : errand.checkpoints with
  | none =>
      rw [finish_eq_endless_iff.mpr ⟨ends, Deadline.spin_of_calm calm⟩,
        finish_eq_endless_iff.mpr ⟨sameCheckpoints ▸ ends, Deadline.spin_of_calm otherCalm⟩]
      trivial
  | some count =>
      obtain ⟨deadline, left, calm, finished⟩ := finish_of_calm calm ends
      obtain ⟨otherDeadline, otherLeft, otherCalm, otherFinished⟩ :=
        finish_of_calm otherCalm (sameCheckpoints ▸ ends)
      rw [finished, otherFinished]
      refine ⟨sameAnswer, fine (by rw [ends]; nofun), ?_, calm, otherCalm⟩
      rwa [undated_conclude, undated_conclude]

end Errand

namespace GuestRun

theorem openContext_agrees (machine : Machine μ ν) (id : String) (stored : CachedModule) :
    Session.Agrees Alike (Caused False CallError.isInterrupted) (openContext machine id stored)
      (openContext machine id stored) := by
  rintro ⟨context, timeline⟩ ⟨otherContext, otherTimeline⟩ ⟨same, calm, otherCalm⟩
  cases taken : machine.ofCached stored with
  | error error =>
      simp only [openContext, Context.instantiate, taken]
      exact ⟨rfl, Bool.false_ne_true, rfl, calm, otherCalm⟩
  | ok compiled =>
      rw [openContext_eq_finish taken, openContext_eq_finish taken]
      exact Errand.finish_agrees (Errand.undated_opening id _ _ _)
        (Context.caused_opening id _ _) calm.next.2 otherCalm.next.2

theorem checkStop_agrees (machine : Machine μ ν) (id : String) (stored : CachedModule) :
    Session.Agrees Alike (fun requested => requested = true → False)
      (Protocol.checkStop (backend machine id stored))
      (Protocol.checkStop (backend machine id stored)) := by
  rintro run other ⟨same, calm, otherCalm⟩
  refine ⟨calm.next.1.trans otherCalm.next.1.symm, ?_, same, calm.next.2, otherCalm.next.2⟩
  exact Bool.eq_false_iff.mp calm.next.1

theorem call_agrees (function : String) (args : List Int64) :
    Session.Agrees Alike (Caused False CallError.isInterrupted)
      (call (ν := ν) function args) (call function args) := by
  rintro ⟨context, timeline⟩ ⟨otherContext, otherTimeline⟩ ⟨same, calm, otherCalm⟩
  obtain ⟨rfl, rfl⟩ | ⟨held, deadline, rfl, rfl⟩ := Context.cases_of_undated same
  · exact ⟨rfl, Bool.false_ne_true, rfl, calm, otherCalm⟩
  · rw [call_eq_finish, call_eq_finish]
    exact Errand.finish_agrees (Errand.undated_calling held deadline function args)
      (held.caused_behave function args) calm otherCalm

theorem write_agrees (offset : Nat) (bytes : Bytes) :
    Session.Agrees Alike (Caused False fun error => (TaskFault.buffer error).isInterrupted)
      (write (ν := ν) offset bytes) (write offset bytes) := by
  rintro ⟨context, timeline⟩ ⟨otherContext, otherTimeline⟩ ⟨same, calm, otherCalm⟩
  obtain ⟨rfl, rfl⟩ | ⟨held, deadline, rfl, rfl⟩ := Context.cases_of_undated same
  · exact ⟨rfl, Bool.false_ne_true, rfl, calm, otherCalm⟩
  · have caused := held.caused_write offset bytes
    revert caused
    simp only [write, Context.write_due]
    cases held.write offset bytes with
    | error error => exact fun caused => ⟨rfl, caused, rfl, calm, otherCalm⟩
    | ok written => exact fun _ => ⟨rfl, trivial, rfl, calm, otherCalm⟩

theorem backend_agrees (machine : Machine μ ν) (id : String) (stored : CachedModule) :
    (backend machine id stored).Agrees Alike False (backend machine id stored) where
  openContext := openContext_agrees machine id stored
  checkStop := checkStop_agrees machine id stored
  call := call_agrees
  write := write_agrees

end GuestRun

/-- Whatever other tasks do to the epoch, a task that nobody stops has one exit result. -/
theorem Protocol.executeModule_of_calm (machine : Machine μ ν) (id : String)
    (stored : CachedModule) (config : TaskConfig) {timeline otherTimeline : Timeline}
    (calm : timeline.Calm) (otherCalm : otherTimeline.Calm) :
    executeModule machine id stored config timeline =
        executeModule machine id stored config otherTimeline ∧
      ∀ result, executeModule machine id stored config timeline = some result →
        result.isStopped = false := by
  have agrees := execute_agrees (GuestRun.backend_agrees machine id stored) config
    (GuestRun.start timeline) (GuestRun.start otherTimeline) ⟨rfl, calm, otherCalm⟩
  revert agrees
  unfold executeModule
  cases execute (GuestRun.backend machine id stored) config (GuestRun.start timeline) <;>
    cases execute (GuestRun.backend machine id stored) config (GuestRun.start otherTimeline) <;>
    intro agrees
  case answered.answered result run other otherRun =>
    obtain ⟨rfl, calm, _⟩ := agrees
    refine ⟨rfl, ?_⟩
    rintro _ ⟨⟩
    exact Bool.eq_false_iff.mpr calm
  case aborted.aborted => exact ⟨rfl, by rintro _ ⟨⟩; rfl⟩
  case endless.endless => exact ⟨rfl, nofun⟩
  all_goals exact agrees.elim

end WasmTasks
