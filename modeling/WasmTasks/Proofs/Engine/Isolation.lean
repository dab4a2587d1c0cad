import WasmTasks.Guest.Body
import WasmTasks.Proofs.Engine.Calm
import WasmTasks.Proofs.Engine.Sharing

/-!
Tasks do not feel each other's stops. A stop makes the deadlines of all tasks come due, but each
finds no request of its own and is renewed; so a task that is not stopped itself goes the same way as
in a run that contains nothing but its own steps.
-/

namespace WasmTasks

variable {μ ν : Type} {machine : Machine μ ν}

namespace Errand

variable {α β : Type} {errand other : Errand ν α}

theorem undated_map (change : α → β) (same : errand.undated = other.undated) :
    (errand.map change).undated = (other.map change).undated :=
  congrArg (Errand.map change) same

theorem undated_renew (same : errand.undated = other.undated) (deadline otherDeadline : Deadline) :
    (errand.renew deadline).undated = (other.renew otherDeadline).undated :=
  congrArg (fun errand : Errand ν α => errand.renew ⟨0, 0⟩) same

end Errand

namespace Demand

theorem undated_undertake {context other : Option (Context ν)}
    (same : context.map Context.undated = other.map Context.undated) (demand : Demand) (id : String)
    (epoch otherEpoch : Nat) :
    (demand.undertake machine id epoch context).undated =
      (demand.undertake machine id otherEpoch other).undated := by
  cases demand with
  | instantiate stored =>
      simp only [undertake]
      cases machine.ofCached stored with
      | error error => rfl
      | ok compiled => exact Errand.undated_map _ (Errand.undated_opening id _ _ _)
  | call function args =>
      obtain ⟨rfl, rfl⟩ | ⟨held, deadline, rfl, rfl⟩ := Context.cases_of_undated same
      · rfl
      · exact Errand.undated_map _ (Errand.undated_calling held deadline function args)
  | write offset bytes =>
      obtain ⟨rfl, rfl⟩ | ⟨held, deadline, rfl, rfl⟩ := Context.cases_of_undated same
      · rfl
      · simp only [undertake, Context.write_due]
        cases held.write offset bytes <;> rfl
  | read offset length =>
      obtain ⟨rfl, rfl⟩ | ⟨held, deadline, rfl, rfl⟩ := Context.cases_of_undated same <;> rfl

theorem uninterrupted_undertake (demand : Demand) (id : String) (epoch : Nat)
    (context : Option (Context ν))
    (ends : (demand.undertake machine id epoch context).checkpoints ≠ none) :
    (demand.undertake machine id epoch context).passed.1.isInterrupted = false := by
  cases demand with
  | instantiate stored =>
      revert ends
      simp only [undertake]
      cases machine.ofCached stored with
      | error error => exact fun _ => rfl
      | ok compiled =>
          intro ends
          have caused := Context.caused_opening id (machine.guest compiled.module) epoch ends
          revert caused
          simp only [Errand.map, Prod.map]
          cases (Context.opening id (machine.guest compiled.module) epoch).passed.1 with
          | error error => exact Bool.eq_false_iff.mpr
          | ok done => exact fun _ => rfl
  | call function args =>
      cases context with
      | none => rfl
      | some context =>
          have caused := context.caused_behave function args ends
          revert caused
          simp only [undertake, Errand.map, Context.calling, Prod.map]
          cases (context.behave function args).answer with
          | error error => exact Bool.eq_false_iff.mpr
          | ok values => exact fun _ => rfl
  | write offset bytes =>
      cases context with
      | none => rfl
      | some context =>
          simp only [undertake]
          cases context.write offset bytes <;> rfl
  | read offset length => cases context <;> rfl

end Demand

def Underway.undated (underway : Underway ν) : Demand × Errand ν Response :=
  (underway.demand, underway.errand.undated)

namespace Tenant

/-- A task that nobody stops, in two runs: the same but for its deadlines. -/
structure Alike (tenant other : Tenant ν) : Prop where
  id : tenant.id = other.id
  idle : tenant.interruption = .idle
  otherIdle : other.interruption = .idle
  context : tenant.context.map Context.undated = other.context.map Context.undated
  underway : tenant.underway.map Underway.undated = other.underway.map Underway.undated
  transcript : tenant.transcript = other.transcript

/-- A task that was not interrupted and will not be. -/
structure Spared (tenant : Tenant ν) : Prop where
  transcript : ∀ entry ∈ tenant.transcript, entry.2.isInterrupted = false
  underway : ∀ underway, tenant.underway = some underway →
    underway.errand.checkpoints ≠ none → underway.errand.passed.1.isInterrupted = false

/-- A task for which it all looked the same. -/
structure SawOnly (signals : Signals) (tenant : Tenant ν) : Prop where
  seen : ∀ earlier ∈ tenant.seen, earlier = signals
  underway : ∀ underway, tenant.underway = some underway →
    ∀ earlier ∈ underway.seen, earlier = signals

variable {tenant other : Tenant ν} {signals otherSignals : Signals}

theorem Alike.demand (alike : tenant.Alike other) (demand : Demand)
    (signals otherSignals : Signals) :
    (tenant.demand machine demand signals).Alike (other.demand machine demand otherSignals) := by
  obtain ⟨id, idle, otherIdle, context, underway, transcript⟩ := alike
  unfold Tenant.demand
  cases found : tenant.underway <;> cases otherFound : other.underway
  case none.none =>
    refine ⟨id, idle, otherIdle, context, ?_, transcript⟩
    have same : (demand.undertake machine tenant.id signals.epoch tenant.context).undated =
        (demand.undertake machine tenant.id otherSignals.epoch other.context).undated :=
      Demand.undated_undertake context demand tenant.id _ _
    dsimp only
    rw [← id]
    cases demand.arms machine <;> exact congrArg (fun undated => some (demand, undated)) same
  case some.some => exact ⟨id, idle, otherIdle, context, underway, transcript⟩
  all_goals
    rw [found, otherFound] at underway
    cases underway

theorem Alike.proceed (alike : tenant.Alike other) (calm : signals.requested = false)
    (otherCalm : otherSignals.requested = false) :
    (tenant.proceed signals).Alike (other.proceed otherSignals) := by
  obtain ⟨id, idle, otherIdle, context, underway, transcript⟩ := alike
  cases found : tenant.underway <;> cases otherFound : other.underway
  case none.none =>
    rw [Tenant.proceed, Tenant.proceed, found, otherFound]
    exact ⟨id, idle, otherIdle, context, underway, transcript⟩
  case some.some work otherWork =>
    rw [found, otherFound] at underway
    obtain ⟨sameDemand, same⟩ := Prod.mk.inj (Option.some.inj underway)
    have checkpoints := Errand.checkpoints_of_undated same
    obtain ⟨answer, after⟩ := Errand.passed_of_undated same
    -- As many checkpoints are left in either run, so both of them are done or neither is.
    by_cases done : work.errand.checkpoints = some 0
    · rw [proceed_of_passed found done, proceed_of_passed otherFound (checkpoints ▸ done)]
      refine ⟨id, idle, otherIdle, ?_, rfl, ?_⟩
      · show Option.map _ (Errand.conclude _ _).2 = Option.map _ (Errand.conclude _ _).2
        rwa [Errand.undated_conclude, Errand.undated_conclude]
      · show _ ++ [(_, _)] = _ ++ [(_, _)]
        rw [transcript, sameDemand]
        exact congrArg (fun answer => other.transcript ++ [(otherWork.demand, answer)]) answer
    · obtain ⟨renewed, passes⟩ := Deadline.exists_check_of_calm calm work.errand.deadline
      obtain ⟨otherRenewed, otherPasses⟩ :=
        Deadline.exists_check_of_calm otherCalm otherWork.errand.deadline
      rw [proceed_of_renewed found done passes,
        proceed_of_renewed otherFound (checkpoints ▸ done) otherPasses]
      refine ⟨id, idle, otherIdle, context, ?_, transcript⟩
      have renewal := Errand.undated_renew same renewed otherRenewed
      exact congrArg some (Prod.ext sameDemand renewal)
  all_goals
    rw [found, otherFound] at underway
    cases underway

theorem Spared.demand (spared : tenant.Spared) (demand : Demand) (signals : Signals) :
    (tenant.demand machine demand signals).Spared := by
  unfold Tenant.demand
  cases found : tenant.underway with
  | some underway => exact spared
  | none =>
      refine ⟨spared.transcript, ?_⟩
      rintro _ ⟨⟩
      cases demand.arms machine <;> exact demand.uninterrupted_undertake tenant.id signals.epoch _

theorem Spared.proceed (spared : tenant.Spared) (calm : signals.requested = false) :
    (tenant.proceed signals).Spared := by
  refine proceed_cases tenant signals ?free ?passed ?aborted ?renewed
  case free => exact fun _ => spared
  case passed =>
    intro underway found done
    refine ⟨?_, by rintro _ ⟨⟩⟩
    intro entry member
    obtain earlier | own := List.mem_append.mp member
    · exact spared.transcript entry earlier
    · rw [List.mem_singleton.mp own]
      exact spared.underway underway found (by rw [done]; nofun)
  case aborted =>
    intro underway found ahead aborts
    obtain ⟨renewed, passes⟩ := Deadline.exists_check_of_calm calm underway.errand.deadline
    rw [passes] at aborts
    cases aborts
  case renewed =>
    intro underway renewed found ahead passes
    refine ⟨spared.transcript, ?_⟩
    rintro _ ⟨⟩ ends
    exact spared.underway underway found (mt (congrArg (Option.map Nat.pred)) ends)

theorem SawOnly.demand (saw : tenant.SawOnly signals) (demand : Demand) :
    (tenant.demand machine demand signals).SawOnly signals := by
  unfold Tenant.demand
  cases found : tenant.underway with
  | some underway => exact saw
  | none =>
      refine ⟨saw.seen, ?_⟩
      rintro _ ⟨⟩
      cases demand.arms machine with
      | true => exact fun earlier own => List.mem_singleton.mp own
      | false => exact nofun

theorem SawOnly.conclude {underway : Underway ν} (saw : tenant.SawOnly signals)
    (seen : ∀ earlier ∈ underway.seen, earlier = signals)
    (outcome : Response × Option (Context ν)) :
    (tenant.conclude underway outcome).SawOnly signals :=
  ⟨fun earlier member => (List.mem_append.mp member).elim (saw.seen earlier) (seen earlier),
    by rintro _ ⟨⟩⟩

theorem SawOnly.proceed (saw : tenant.SawOnly signals) :
    (tenant.proceed signals).SawOnly signals := by
  have looked : ∀ underway, tenant.underway = some underway →
      ∀ earlier ∈ (underway.look signals).seen, earlier = signals := by
    intro underway found earlier member
    obtain before | own := List.mem_append.mp member
    · exact saw.underway underway found earlier before
    · exact List.mem_singleton.mp own
  refine proceed_cases tenant signals ?free ?passed ?aborted ?renewed
  case free => exact fun _ => saw
  case passed => exact fun underway found _ => saw.conclude (saw.underway underway found) _
  case aborted => exact fun underway found _ _ => saw.conclude (looked underway found) _
  case renewed =>
    intro underway renewed found ahead passes
    refine ⟨saw.seen, ?_⟩
    rintro _ ⟨⟩
    exact looked underway found

end Tenant

namespace Engine

variable {ι : Type} {task : ι} {epoch : Nat} {engine shared alone : Engine ι ν}

/-- A task that nobody stops, among others and alone. -/
structure Isolated (task : ι) (epoch : Nat) (shared alone : Engine ι ν) : Prop where
  alike : (shared.tenants task).Alike (alone.tenants task)
  spared : (shared.tenants task).Spared
  unmoved : alone.epoch = epoch
  saw : (alone.tenants task).SawOnly ⟨epoch, false⟩

theorem signals_world (idle : (engine.tenants task).interruption = .idle) :
    (engine.world task).signals = ⟨engine.epoch, false⟩ := by
  simp [world, World.signals, idle]

theorem Isolated.fresh (ids : ι → String) (epoch : Nat) (task : ι) :
    Isolated task epoch (fresh ids epoch : Engine ι ν) (fresh ids epoch) where
  alike := ⟨rfl, rfl, rfl, rfl, rfl, rfl⟩
  spared := ⟨by rintro _ ⟨⟩, by rintro _ ⟨⟩⟩
  unmoved := rfl
  saw := ⟨by rintro _ ⟨⟩, by rintro _ ⟨⟩⟩

variable [DecidableEq ι]

/-- The second half of an interruption does nothing without the first. -/
theorem step_advance_of_idle (idle : (engine.tenants task).interruption = .idle) :
    engine.step machine (task, .advance) = engine := by
  have same : { engine.tenants task with interruption := .idle } = engine.tenants task := by
    rw [← idle]
  simp [step, disturb, world, World.disturb, idle, put, same]

theorem Isolated.own (isolated : Isolated task epoch shared alone) {move : Move}
    (unstopped : move ≠ .request) :
    Isolated task epoch (shared.step machine (task, move)) (alone.step machine (task, move)) := by
  obtain ⟨alike, spared, unmoved, saw⟩ := isolated
  have calm := signals_world alike.idle
  have aloneCalm := signals_world alike.otherIdle
  rw [unmoved] at aloneCalm
  cases move with
  | demand demand =>
      refine ⟨?_, ?_, unmoved, ?_⟩ <;> simp only [step, tenants_put_self]
      · exact alike.demand demand _ _
      · exact spared.demand demand _
      · rw [aloneCalm]
        exact saw.demand demand
  | proceed =>
      refine ⟨?_, ?_, unmoved, ?_⟩ <;> simp only [step, tenants_put_self]
      · exact alike.proceed (by rw [calm]) (by rw [aloneCalm])
      · exact spared.proceed (by rw [calm])
      · rw [aloneCalm]
        exact saw.proceed
  | request => exact absurd rfl unstopped
  | advance =>
      rw [step_advance_of_idle alike.idle, step_advance_of_idle alike.otherIdle]
      exact ⟨alike, spared, unmoved, saw⟩

theorem Isolated.foreign (isolated : Isolated task epoch shared alone) {event : ι × Move}
    (other : task ≠ event.1) : Isolated task epoch (shared.step machine event) alone := by
  obtain ⟨alike, spared, unmoved, saw⟩ := isolated
  refine ⟨?_, ?_, unmoved, saw⟩ <;> rwa [tenants_step_of_ne other]

theorem Isolated.run (isolated : Isolated task epoch shared alone) (events : List (ι × Move))
    (unstopped : (task, .request) ∉ events) :
    Isolated task epoch (shared.run machine events)
      (alone.run machine (events.filter fun event => event.1 = task)) := by
  -- From the front, so that either run goes on from where the event has taken it.
  induction events generalizing shared alone with
  | nil => exact isolated
  | cons event later ih =>
      have rest := fun member => unstopped (List.mem_cons_of_mem event member)
      by_cases own : event.1 = task
      · rw [List.filter_cons_of_pos (by simpa using own)]
        refine ih ?_ rest
        obtain ⟨mover, move⟩ := event
        obtain rfl : mover = task := own
        refine isolated.own ?_
        rintro rfl
        exact unstopped List.mem_cons_self
      · rw [List.filter_cons_of_neg (by simpa using own)]
        exact ih (isolated.foreign (Ne.symm own)) rest

/-- Whatever the tasks of an engine do and whenever the others are stopped, a task that is not is
answered and left as it is alone, where the epoch stands still. No answer is an interruption and no
exit result a stop, and the deadline is renewed at most once for each step of the epoch since it was
armed. -/
theorem run_isolates_unstopped (machine : Machine μ ν) (ids : ι → String) (epoch : Nat)
    (events : List (ι × Move)) (task : ι) (unstopped : (task, .request) ∉ events) :
    let engine : Engine ι ν := .fresh ids epoch
    let shared := engine.run machine events
    let alone := engine.run machine (events.filter fun event => event.1 = task)
    let own := shared.tenants task
    let lone := alone.tenants task
    (alone.epoch = epoch ∧ (∀ signals ∈ lone.seen, signals = ⟨epoch, false⟩) ∧
      Lived machine (ids task) lone.transcript lone.seen lone.context) ∧
    (Lived machine (ids task) own.transcript own.seen own.context ∧
      own.transcript = lone.transcript ∧
      own.context.map Context.undated = lone.context.map Context.undated ∧
      own.underway.map Underway.undated = lone.underway.map Underway.undated) ∧
    (∀ entry ∈ own.transcript, entry.2.isInterrupted = false) ∧
    (∀ context, own.context = some context → context.deadline.checks + own.armed ≤ shared.epoch) ∧
    ∀ stored config timeline,
      (∀ signals ∈ timeline.settled :: timeline.upcoming, ∃ earlier, earlier <+: events ∧
        signals = ((engine.run machine earlier).world task).signals) →
      Protocol.executeModule machine (ids task) stored config timeline =
          Protocol.executeModule machine (ids task) stored config (.constant ⟨epoch, false⟩) ∧
        ∀ result, Protocol.executeModule machine (ids task) stored config timeline = some result →
          result.isStopped = false := by
  intro engine shared alone own lone
  have isolated : Isolated task epoch shared alone :=
    (Isolated.fresh ids epoch task).run events unstopped
  have sound := run_sound machine ids epoch events task
  have aloneSound := run_sound machine ids epoch (events.filter fun event => event.1 = task) task
  have lived := sound.lived
  have aloneLived := aloneSound.lived
  rw [id_run] at lived aloneLived
  refine ⟨⟨isolated.unmoved, isolated.saw.seen, aloneLived⟩,
    ⟨lived, isolated.alike.transcript, isolated.alike.context, isolated.alike.underway⟩,
    isolated.spared.transcript, ?_, ?_⟩
  · intro context held
    obtain ⟨checks, near⟩ := sound.since context held
    exact Nat.lt_succ_iff.mp (Nat.lt_of_lt_of_le checks near)
  · intro stored config timeline moments
    refine Protocol.executeModule_of_calm machine (ids task) stored config ?_ ?_
    · intro signals member
      obtain ⟨earlier, before, rfl⟩ := moments signals member
      have isolated : Isolated task epoch (engine.run machine earlier) _ :=
        (Isolated.fresh ids epoch task).run earlier fun member => unstopped (before.subset member)
      rw [signals_world isolated.alike.idle]
    · intro signals member
      rw [List.mem_singleton.mp member]
      rfl

/-- Code that marks the memory at each of its checkpoints, and once more before it breaks off. -/
def marking : Code Unit where
  run _ state :=
    let marked := fun mark => { state with memories := state.memories.map (·.overlay 0 [mark]) }
    ⟨fun checkpoint => marked (.ofNat checkpoint),
      some ⟨2, .error TrapKind.unreachable.toTrap, marked 7⟩⟩
  keeps _ state := by
    refine ⟨fun checkpoint => List.length_map _, ?_⟩
    rintro work ⟨⟩
    exact List.length_map _

/-- The stop of one task comes while both of them run, and costs the other one renewal. -/
theorem run_isolates_unstopped_renewed :
    let mark : Function Unit := ⟨[], [], marking, by rintro _ _ _ _ _ ⟨⟩ ⟨⟩⟩
    let memory : Memory := .blank 1 1 (Nat.le_refl 1) (by decide)
    let guest : Guest Unit := ⟨[], [("memory", .memory 0), ("mark", .function mark)],
      ⟨[memory], ()⟩, none, none,
      by rintro _ _ (_ | ⟨_, _ | ⟨_, ⟨⟩⟩⟩); exact Nat.zero_lt_one⟩
    let machine : Machine Unit Unit := ⟨fun _ => .ok (), fun _ => .ok [], fun _ => .ok (),
      fun _ => guest⟩
    let stored : CachedModule := ⟨"m.wasm", .wasmtime, [], ""⟩
    let events : List (Bool × Move) :=
      [(true, .demand (.instantiate stored)), (true, .proceed),
        (false, .demand (.instantiate stored)), (false, .proceed),
        (true, .demand (.call "mark" [])), (false, .demand (.call "mark" [])),
        (true, .proceed), (false, .proceed), (false, .request), (false, .advance),
        (false, .proceed), (true, .proceed), (true, .proceed), (true, .proceed),
        (true, .demand (.read 0 1)), (false, .demand (.read 0 1)),
        (true, .proceed), (false, .proceed)]
    let engine := Engine.fresh (fun task => cond task "spared" "stopped") 0
    let shared := engine.run machine events
    let alone := engine.run machine (events.filter fun event => event.1 = true)
    (true, .request) ∉ events ∧ shared.epoch = 1 ∧ alone.epoch = 0 ∧
      (shared.tenants false).transcript =
        [(.instantiate stored, .instantiated (.ok ())),
          (.call "mark" [], .called (.error (.interrupted "mark"))),
          (.read 0 1, .bytes (some (.ok [1])))] ∧
      (shared.tenants true).context.map (fun context => context.deadline.checks) = some 1 ∧
      (alone.tenants true).transcript =
        [(.instantiate stored, .instantiated (.ok ())),
          (.call "mark" [], .called (.error
            (.trap "mark" TrapKind.unreachable.toTrap.message (some TrapKind.unreachable.name)))),
          (.read 0 1, .bytes (some (.ok [7])))] ∧
      (shared.tenants true).transcript = (alone.tenants true).transcript := by
  intro mark memory guest machine stored events engine shared alone
  have unstopped : (true, .request) ∉ events := by decide
  obtain ⟨⟨unmoved, _⟩, ⟨_, same, _⟩, _⟩ :=
    run_isolates_unstopped machine (fun task => cond task "spared" "stopped") 0 events true
      unstopped
  exact ⟨unstopped, rfl, unmoved, rfl, rfl, rfl, same⟩

end Engine

end WasmTasks
