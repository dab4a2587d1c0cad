import WasmTasks.Guest.Context

/-!
Guest code and its checkpoints. Whatever code does, entering it takes a number of checkpoints that
is known beforehand, or checkpoints without end. What they find decides how far the code comes: to
its end, or to one of them.
-/

namespace WasmTasks

namespace Timeline

def All (holds : Signals → Prop) (timeline : Timeline) : Prop :=
  ∀ signals ∈ timeline.settled :: timeline.upcoming, holds signals

variable {holds : Signals → Prop} {timeline : Timeline}

theorem All.next (all : timeline.All holds) :
    holds timeline.next.1 ∧ timeline.next.2.All holds := by
  obtain ⟨upcoming, settled⟩ := timeline
  cases upcoming with
  | nil => exact ⟨all settled List.mem_cons_self, all⟩
  | cons signals later =>
      refine ⟨all signals (List.mem_cons_of_mem _ List.mem_cons_self), ?_⟩
      intro seen member
      obtain rfl | member := List.mem_cons.mp member
      · exact all _ List.mem_cons_self
      · exact all seen (List.mem_cons_of_mem _ (List.mem_cons_of_mem _ member))

theorem All.cons {signals settled : Signals} {upcoming : List Signals} (first : holds signals)
    (later : (Timeline.mk upcoming settled).All holds) :
    (Timeline.mk (signals :: upcoming) settled).All holds := by
  intro seen member
  obtain rfl | member := List.mem_cons.mp member
  · exact later _ List.mem_cons_self
  · obtain rfl | member := List.mem_cons.mp member
    · exact first
    · exact later seen (List.mem_cons_of_mem _ member)

end Timeline

namespace Deadline

variable {holds : Signals → Prop} {deadline renewed : Deadline} {timeline : Timeline}
  {first count : Nat}

theorem pass_of_aborted (aborts : deadline.check timeline.next.1 = none) :
    deadline.pass first (count + 1) timeline = (some first, deadline, timeline.next.2) := by
  rw [pass, aborts]

theorem pass_of_renewed (passes : deadline.check timeline.next.1 = some renewed) :
    deadline.pass first (count + 1) timeline =
      renewed.pass (first + 1) count timeline.next.2 := by
  rw [pass, passes]

theorem spin_of_aborted (aborts : deadline.check timeline.next.1 = none) :
    spin timeline.settled first deadline timeline.upcoming =
      some (first, deadline, timeline.next.2) := by
  obtain ⟨upcoming, settled⟩ := timeline
  cases upcoming with
  | nil =>
      rw [spin, show deadline.check settled = none from aborts]
      rfl
  | cons signals later =>
      rw [spin, show deadline.check signals = none from aborts]
      rfl

/-- Where the observations stay as they are, what follows a checkpoint that passes is no different
from it. -/
theorem spin_of_renewed (passes : deadline.check timeline.next.1 = some renewed) :
    spin timeline.settled first deadline timeline.upcoming =
      spin timeline.next.2.settled (first + 1) renewed timeline.next.2.upcoming := by
  obtain ⟨upcoming, settled⟩ := timeline
  cases upcoming with
  | nil =>
      have again : renewed.check settled = some renewed := check_of_check passes
      rw [spin, show deadline.check settled = some renewed from passes]
      show none = spin settled (first + 1) renewed []
      rw [spin, again]
  | cons signals later =>
      rw [spin, show deadline.check signals = some renewed from passes]
      rfl

theorem pass_all (all : timeline.All holds) :
    (deadline.pass first count timeline).2.2.All holds := by
  induction count generalizing first deadline timeline with
  | zero => exact all
  | succ count ih =>
      cases checked : deadline.check timeline.next.1 with
      | none =>
          rw [pass_of_aborted checked]
          exact all.next.2
      | some renewed =>
          rw [pass_of_renewed checked]
          exact ih all.next.2

theorem spin_all {last : Nat × Deadline × Timeline} (all : timeline.All holds)
    (aborted : spin timeline.settled first deadline timeline.upcoming = some last) :
    last.2.2.All holds := by
  obtain ⟨upcoming, settled⟩ := timeline
  induction upcoming generalizing first deadline with
  | nil =>
      cases checked : deadline.check settled with
      | none =>
          rw [spin, checked] at aborted
          cases aborted
          exact all
      | some renewed =>
          rw [spin, checked] at aborted
          cases aborted
  | cons signals later ih =>
      cases checked : deadline.check signals with
      | none =>
          rw [spin, checked] at aborted
          cases aborted
          exact all.next.2
      | some renewed =>
          rw [spin, checked] at aborted
          exact ih all.next.2 aborted

end Deadline

namespace Context

variable {ν : Type}

/-- The context with another deadline, the only part of it that its checkpoints use. -/
def due (context : Context ν) (deadline : Deadline) : Context ν :=
  { context with deadline := deadline }

@[simp] theorem deadline_due (context : Context ν) (deadline : Deadline) :
    (context.due deadline).deadline = deadline := rfl

@[simp] theorem state_due (context : Context ν) (deadline : Deadline) :
    (context.due deadline).state = context.state := rfl

@[simp] theorem prepare_due (context : Context ν) (deadline : Deadline) :
    (context.due deadline).prepare = context.prepare := rfl

@[simp] theorem memory?_due (context : Context ν) (deadline : Deadline) :
    (context.due deadline).memory? = context.memory? := rfl

/-- The context after its code came to a state. -/
def leaving (context : Context ν) (state : Instance ν) : Context ν :=
  { context with state := state }

variable (context : Context ν) {code : Code ν} {args : List Value}

theorem enter_of_work {work : Work ν} (works : (code.run args context.state).ending = some work)
    (timeline : Timeline) :
    context.enter code args timeline =
      match context.deadline.pass 0 (work.passes + 1) timeline with
      | (some checkpoint, deadline, timeline) =>
          .answered (.error none)
            ((context.leaving ((code.run args context.state).reached checkpoint)).due deadline,
              timeline)
      | (none, deadline, timeline) =>
          .answered (work.outcome.mapError some)
            ((context.leaving work.state).due deadline, timeline) := by
  simp only [enter, works]
  rfl

theorem enter_of_endless (endless : (code.run args context.state).ending = none)
    (timeline : Timeline) :
    context.enter code args timeline =
      match Deadline.spin timeline.settled 0 context.deadline timeline.upcoming with
      | none => .endless
      | some (checkpoint, deadline, timeline) =>
          .answered (.error none)
            ((context.leaving ((code.run args context.state).reached checkpoint)).due deadline,
              timeline) := by
  simp only [enter, endless]
  rfl

/-- Code that was entered did its whole work, or it was aborted at a checkpoint. -/
theorem enter_cases {timeline : Timeline} {outcome : Except (Option Trap) (List Value)}
    {left : Context ν × Timeline}
    (entered : context.enter code args timeline = .answered outcome left) :
    (∃ work deadline,
        (code.run args context.state).ending = some work ∧
        outcome = work.outcome.mapError some ∧
        left.1 = (context.leaving work.state).due deadline) ∨
      ∃ checkpoint deadline,
        outcome = .error none ∧
        left.1 =
          (context.leaving ((code.run args context.state).reached checkpoint)).due deadline := by
  cases works : (code.run args context.state).ending with
  | none =>
      rw [context.enter_of_endless works] at entered
      cases spun : Deadline.spin timeline.settled 0 context.deadline timeline.upcoming <;>
        rw [spun] at entered <;> cases entered
      exact .inr ⟨_, _, rfl, rfl⟩
  | some work =>
      rw [context.enter_of_work works] at entered
      generalize context.deadline.pass 0 (work.passes + 1) timeline = passed at entered
      obtain ⟨_ | checkpoint, deadline, rest⟩ := passed
      · cases entered
        exact .inl ⟨work, deadline, rfl, rfl, rfl⟩
      · cases entered
        exact .inr ⟨checkpoint, deadline, rfl, rfl⟩

/-- What the host makes of the end of guest code. -/
def report (name : String) : Except (Option Trap) (List Value) → Except CallError (List Int64)
  | .ok values => (integers values).mapError (.signature name)
  | .error none => .error (.interrupted name)
  | .error (some trap) => .error (.trap name trap.message trap.code)

theorem call_of_prepare {context : Context ν} {name : String} {args : List Int64}
    {function : Function ν} {values : List Value}
    (prepared : context.prepare name args = .ok (function, values)) (timeline : Timeline) :
    context.call name args timeline =
      (context.enter function.code values timeline).map (report name) := by
  rw [call, prepared]
  dsimp only
  cases context.enter function.code values timeline with
  | answered outcome state =>
      rcases outcome with (_ | trap) | results
      · rfl
      · rfl
      · dsimp only [Reply.map, report]
        cases integers results <;> rfl
  | _ => rfl

end Context

end WasmTasks
