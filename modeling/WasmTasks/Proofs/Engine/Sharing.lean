import Mathlib.Data.List.Induction
import Mathlib.Logic.Function.Basic
import WasmTasks.Proofs.Engine.Errand

/-!
Tasks that share an engine. Each has a context, a stop request and work of its own; all they have in
common is the epoch, which every stop advances. One task moves at a time and by one step: it makes a
demand, its work comes to the next checkpoint, or its interruption makes progress.
-/

namespace WasmTasks

/-- What a task asks of its engine. -/
inductive Demand where
  | instantiate (stored : CachedModule)
  | call (function : String) (args : List Int64)
  | write (offset : Nat) (bytes : Bytes)
  | read (offset length : Nat)
  deriving DecidableEq

inductive Response where
  | instantiated (answer : Except CallError Unit)
  | called (answer : Except CallError (List Int64))
  | written (answer : Except BufferError Unit)
  | bytes (answer : Option (Except BufferError Bytes))

def Response.isInterrupted : Response → Bool
  | instantiated (.error error) => error.isInterrupted
  | called (.error error) => error.isInterrupted
  | _ => false

variable {μ ν : Type}

theorem Context.deadline_write {context written : Context ν} {offset : Nat} {bytes : Bytes}
    (wrote : context.write offset bytes = .ok written) :
    written.deadline = context.deadline := by
  unfold write at wrote
  split at wrote
  · cases wrote
  · split at wrote <;> cases wrote
    rfl

namespace Demand

def perform (machine : Machine μ ν) (id : String) : Demand → Session (GuestRun ν) Response
  | instantiate stored => .instantiated <$> GuestRun.openContext machine id stored
  | call function args => .called <$> GuestRun.call function args
  | write offset bytes => .written <$> GuestRun.write offset bytes
  | read offset length => fun run =>
      match run.context with
      | none => .answered (.bytes (some (.error .missingMemory))) run
      | some context => .answered (.bytes (context.read offset length)) run

/-- Whether a deadline is armed for it, one step ahead of the epoch. -/
def arms (machine : Machine μ ν) : Demand → Bool
  | instantiate stored => (machine.ofCached stored).isOk
  | _ => false

def undertake (machine : Machine μ ν) (id : String) (epoch : Nat) (context : Option (Context ν)) :
    Demand → Errand ν Response
  | instantiate stored =>
      match machine.ofCached stored with
      | .error error =>
          .still (.arm epoch)
            (.instantiated (.error (.instantiation (.unusableArtifact error.message))), none)
      | .ok compiled =>
          (Context.opening id (machine.guest compiled.module) epoch).map .instantiated
  | call function args =>
      match context with
      | none => .still (.arm epoch) (.called (.error (.missingFunction function)), none)
      | some context => (context.calling function args).map .called
  | write offset bytes =>
      match context with
      | none => .still (.arm epoch) (.written (.error .missingMemory), none)
      | some context =>
          match context.write offset bytes with
          | .error error => .still context.deadline (.written (.error error), some context)
          | .ok written => .still context.deadline (.written (.ok ()), some written)
  | read offset length =>
      match context with
      | none => .still (.arm epoch) (.bytes (some (.error .missingMemory)), none)
      | some context =>
          .still context.deadline (.bytes (context.read offset length), some context)

variable {machine : Machine μ ν} {demand : Demand}

theorem exists_of_arms (arms : demand.arms machine = true) :
    ∃ stored compiled, demand = .instantiate stored ∧ machine.ofCached stored = .ok compiled := by
  cases demand with
  | instantiate stored =>
      cases taken : machine.ofCached stored with
      | error error =>
          rw [Demand.arms, taken] at arms
          cases arms
      | ok compiled => exact ⟨stored, compiled, rfl, taken⟩
  | _ => cases arms

theorem perform_of_arms (arms : demand.arms machine = true) (id : String)
    (context : Option (Context ν)) (timeline : Timeline) :
    demand.perform machine id ⟨context, timeline⟩ =
      (demand.undertake machine id timeline.next.1.epoch context).finish timeline.next.2 := by
  obtain ⟨stored, compiled, rfl, taken⟩ := exists_of_arms arms
  rw [perform, Session.map_apply, GuestRun.openContext_eq_finish taken]
  simp only [undertake, taken]
  rw [Errand.finish_map]

theorem perform_of_not_arms (unarmed : demand.arms machine = false) (id : String) (epoch : Nat)
    (context : Option (Context ν)) (timeline : Timeline) :
    demand.perform machine id ⟨context, timeline⟩ =
      (demand.undertake machine id epoch context).finish timeline := by
  cases demand with
  | instantiate stored =>
      cases taken : machine.ofCached stored with
      | error error =>
          rw [perform, Session.map_apply]
          simp only [undertake, GuestRun.openContext, Context.instantiate, taken]
          rfl
      | ok compiled =>
          rw [Demand.arms, taken] at unarmed
          cases unarmed
  | call function args =>
      rw [perform, Session.map_apply]
      cases context with
      | none => rfl
      | some context =>
          rw [GuestRun.call_eq_finish, undertake, Errand.finish_map]
  | write offset bytes =>
      rw [perform, Session.map_apply]
      cases context with
      | none => rfl
      | some context =>
          simp only [undertake, GuestRun.write]
          cases written : context.write offset bytes with
          | error error => rfl
          | ok after =>
              rw [← Context.deadline_write written]
              rfl
  | read offset length => cases context <;> rfl

end Demand

/-- A demand that is not answered yet: what its task has seen since, the work that is left, and the
epoch that the deadline was armed at. -/
structure Underway (ν : Type) where
  demand : Demand
  seen : List Signals
  errand : Errand ν Response
  armed : Nat

namespace Underway

def look (underway : Underway ν) (signals : Signals) : Underway ν :=
  { underway with seen := underway.seen ++ [signals] }

def renew (underway : Underway ν) (deadline : Deadline) : Underway ν :=
  { underway with errand := underway.errand.renew deadline }

end Underway

/-- A task of an engine. It has one demand at a time. What it was answered, what it saw on the way
and when its deadline was armed is written down. -/
structure Tenant (ν : Type) where
  id : String
  interruption : Interruption
  context : Option (Context ν)
  underway : Option (Underway ν)
  transcript : List (Demand × Response)
  seen : List Signals
  armed : Nat

namespace Tenant

def fresh (id : String) : Tenant ν :=
  ⟨id, .idle, none, none, [], [], 0⟩

def demand (machine : Machine μ ν) (tenant : Tenant ν) (demand : Demand) (signals : Signals) :
    Tenant ν :=
  match tenant.underway with
  | some _ => tenant
  | none =>
      let errand := demand.undertake machine tenant.id signals.epoch tenant.context
      let underway : Underway ν :=
        if demand.arms machine then ⟨demand, [signals], errand, signals.epoch⟩
        else ⟨demand, [], errand, tenant.armed⟩
      { tenant with underway := some underway }

def conclude (tenant : Tenant ν) (underway : Underway ν)
    (outcome : Response × Option (Context ν)) : Tenant ν where
  id := tenant.id
  interruption := tenant.interruption
  context := outcome.2
  underway := none
  transcript := tenant.transcript ++ [(underway.demand, outcome.1)]
  seen := tenant.seen ++ underway.seen
  armed := underway.armed

def proceed (tenant : Tenant ν) (signals : Signals) : Tenant ν :=
  match tenant.underway with
  | none => tenant
  | some underway =>
      let errand := underway.errand
      if errand.checkpoints = some 0 then
        tenant.conclude underway (Errand.conclude errand.deadline errand.passed)
      else
        match errand.deadline.check signals with
        | none =>
            tenant.conclude (underway.look signals)
              (Errand.conclude errand.deadline (errand.aborted errand.reached))
        | some renewed => { tenant with underway := some ((underway.look signals).renew renewed) }

variable {tenant : Tenant ν} {signals : Signals} {underway : Underway ν}

theorem proceed_of_passed (found : tenant.underway = some underway)
    (done : underway.errand.checkpoints = some 0) :
    tenant.proceed signals =
      tenant.conclude underway
        (Errand.conclude underway.errand.deadline underway.errand.passed) := by
  simp only [proceed, found, done, if_true]

theorem proceed_of_aborted (found : tenant.underway = some underway)
    (ahead : underway.errand.checkpoints ≠ some 0)
    (aborts : underway.errand.deadline.check signals = none) :
    tenant.proceed signals =
      tenant.conclude (underway.look signals)
        (Errand.conclude underway.errand.deadline
          (underway.errand.aborted underway.errand.reached)) := by
  simp only [proceed, found, if_neg ahead, aborts]

theorem proceed_of_renewed {renewed : Deadline} (found : tenant.underway = some underway)
    (ahead : underway.errand.checkpoints ≠ some 0)
    (passes : underway.errand.deadline.check signals = some renewed) :
    tenant.proceed signals =
      { tenant with underway := some ((underway.look signals).renew renewed) } := by
  simp only [proceed, found, if_neg ahead, passes]

/-- All that a step of the work can come to. -/
@[elab_as_elim]
theorem proceed_cases {motive : Tenant ν → Prop} (tenant : Tenant ν) (signals : Signals)
    (free : tenant.underway = none → motive tenant)
    (passed : ∀ underway, tenant.underway = some underway →
      underway.errand.checkpoints = some 0 →
        motive (tenant.conclude underway
          (Errand.conclude underway.errand.deadline underway.errand.passed)))
    (aborted : ∀ underway, tenant.underway = some underway →
      underway.errand.checkpoints ≠ some 0 →
        underway.errand.deadline.check signals = none →
          motive (tenant.conclude (underway.look signals)
            (Errand.conclude underway.errand.deadline
              (underway.errand.aborted underway.errand.reached))))
    (renewed : ∀ underway renewed, tenant.underway = some underway →
      underway.errand.checkpoints ≠ some 0 →
        underway.errand.deadline.check signals = some renewed →
          motive { tenant with underway := some ((underway.look signals).renew renewed) }) :
    motive (tenant.proceed signals) := by
  cases found : tenant.underway with
  | none =>
      rw [proceed, found]
      exact free found
  | some underway =>
      by_cases done : underway.errand.checkpoints = some 0
      · rw [proceed_of_passed found done]
        exact passed underway found done
      · cases checked : underway.errand.deadline.check signals with
        | none =>
            rw [proceed_of_aborted found done checked]
            exact aborted underway found done checked
        | some deadline =>
            rw [proceed_of_renewed found done checked]
            exact renewed underway deadline found done checked

end Tenant

structure Engine (ι ν : Type) where
  epoch : Nat
  tenants : ι → Tenant ν

/-- A step of one task. An interruption sets the flag first and advances the epoch later. -/
inductive Move where
  | demand (demand : Demand)
  | proceed
  | request
  | advance
  deriving DecidableEq

namespace Engine

variable {ι : Type} [DecidableEq ι]

def fresh (ids : ι → String) (epoch : Nat) : Engine ι ν :=
  ⟨epoch, fun task => .fresh (ids task)⟩

def world (engine : Engine ι ν) (task : ι) : World :=
  ⟨engine.epoch, (engine.tenants task).interruption⟩

def put (engine : Engine ι ν) (task : ι) (tenant : Tenant ν) : Engine ι ν :=
  { engine with tenants := Function.update engine.tenants task tenant }

def disturb (engine : Engine ι ν) (task : ι) (disturbance : Disturbance) : Engine ι ν :=
  let world := (engine.world task).disturb disturbance
  put { engine with epoch := world.epoch } task
    { engine.tenants task with interruption := world.interruption }

def step (machine : Machine μ ν) (engine : Engine ι ν) : ι × Move → Engine ι ν
  | (task, .demand demand) =>
      engine.put task ((engine.tenants task).demand machine demand (engine.world task).signals)
  | (task, .proceed) =>
      engine.put task ((engine.tenants task).proceed (engine.world task).signals)
  | (task, .request) => engine.disturb task .request
  | (task, .advance) => engine.disturb task .advance

def run (machine : Machine μ ν) (engine : Engine ι ν) (events : List (ι × Move)) : Engine ι ν :=
  events.foldl (step machine) engine

end Engine

/-! What the steps come to. -/

/-- The functions that run have given these answers to a task, one after the other, while it saw
these signals, and left this context. -/
inductive Lived (machine : Machine μ ν) (id : String) :
    List (Demand × Response) → List Signals → Option (Context ν) → Prop where
  | fresh : Lived machine id [] [] none
  | next {transcript : List (Demand × Response)} {seen now : List Signals}
      {before after : Option (Context ν)} {demand : Demand} {answer : Response}
      (earlier : Lived machine id transcript seen before)
      (performs : ∀ rest settled, demand.perform machine id ⟨before, ⟨now ++ rest, settled⟩⟩ =
        .answered answer ⟨after, ⟨rest, settled⟩⟩) :
      Lived machine id (transcript ++ [(demand, answer)]) (seen ++ now) after

/-- A deadline that was armed at one epoch and renewed at most once for every later one. -/
structure Deadline.Since (armed epoch : Nat) (deadline : Deadline) : Prop where
  checks : deadline.checks + armed < deadline.epoch
  near : deadline.epoch ≤ epoch + 1

namespace Deadline.Since

variable {deadline renewed : Deadline} {armed epoch later : Nat} {requested : Bool}

theorem arm (epoch : Nat) : Since epoch epoch (.arm epoch) :=
  ⟨by simp [Deadline.arm], Nat.le_refl _⟩

theorem mono (since : deadline.Since armed epoch) (le : epoch ≤ later) :
    deadline.Since armed later :=
  ⟨since.checks, Nat.le_trans since.near (Nat.succ_le_succ le)⟩

theorem renew (since : deadline.Since armed epoch)
    (passes : deadline.check ⟨epoch, requested⟩ = some renewed) : renewed.Since armed epoch := by
  obtain ⟨checks, near⟩ := since
  unfold check at passes
  split at passes
  · cases passes
    exact ⟨checks, near⟩
  · split at passes
    · cases passes
    · rename_i due _
      cases passes
      exact ⟨by dsimp only at due ⊢; omega, Nat.le_refl _⟩

theorem armed_le (since : deadline.Since armed epoch) : armed ≤ epoch := by
  have checks := since.checks
  have near := since.near
  omega

end Deadline.Since

variable {machine : Machine μ ν}

theorem Demand.since_undertake {demand : Demand} {context : Option (Context ν)}
    {armed epoch : Nat} (since : ∀ held, context = some held → held.deadline.Since armed epoch)
    (le : armed ≤ epoch) (unarmed : demand.arms machine = false) (id : String) :
    (demand.undertake machine id epoch context).deadline.Since armed epoch := by
  -- what has no context to take a deadline from carries this one
  have idle : Deadline.Since armed epoch (.arm epoch) :=
    ⟨by simp [Deadline.arm]; omega, Nat.le_refl _⟩
  cases demand with
  | instantiate stored =>
      cases taken : machine.ofCached stored with
      | error error =>
          simp only [undertake, taken]
          exact idle
      | ok compiled =>
          rw [arms, taken] at unarmed
          cases unarmed
  | call function args =>
      cases context with
      | none => exact idle
      | some context => exact since context rfl
  | write offset bytes =>
      cases context with
      | none => exact idle
      | some context =>
          simp only [undertake]
          cases context.write offset bytes <;> exact since context rfl
  | read offset length =>
      cases context with
      | none => exact idle
      | some context => exact since context rfl

theorem Demand.deadline_undertake {demand : Demand} (arms : demand.arms machine = true)
    (id : String) (epoch : Nat) (context : Option (Context ν)) :
    (demand.undertake machine id epoch context).deadline = .arm epoch := by
  obtain ⟨stored, compiled, rfl, taken⟩ := exists_of_arms arms
  simp only [undertake, taken]
  exact Context.deadline_opening id _ epoch

/-- The work that is left is the rest of what the function does, after what was seen. -/
structure Underway.Sound (machine : Machine μ ν) (id : String) (context : Option (Context ν))
    (epoch : Nat) (underway : Underway ν) : Prop where
  performs : ∀ rest settled,
    underway.demand.perform machine id ⟨context, ⟨underway.seen ++ rest, settled⟩⟩ =
      underway.errand.finish ⟨rest, settled⟩
  since : underway.errand.deadline.Since underway.armed epoch

namespace Tenant

structure Sound (machine : Machine μ ν) (epoch : Nat) (tenant : Tenant ν) : Prop where
  lived : Lived machine tenant.id tenant.transcript tenant.seen tenant.context
  since : ∀ context, tenant.context = some context → context.deadline.Since tenant.armed epoch
  armed : tenant.armed ≤ epoch
  underway : ∀ underway, tenant.underway = some underway →
    underway.Sound machine tenant.id tenant.context epoch

namespace Sound

variable {tenant : Tenant ν} {epoch later : Nat} {signals : Signals}

theorem fresh (id : String) (epoch : Nat) : (fresh id).Sound machine epoch where
  lived := .fresh
  since context held := by cases held
  armed := Nat.zero_le epoch
  underway underway found := by cases found

theorem mono (sound : tenant.Sound machine epoch) (le : epoch ≤ later) :
    tenant.Sound machine later where
  lived := sound.lived
  since context held := (sound.since context held).mono le
  armed := Nat.le_trans sound.armed le
  underway underway found :=
    ⟨(sound.underway underway found).performs, (sound.underway underway found).since.mono le⟩

theorem interrupt (sound : tenant.Sound machine epoch) (interruption : Interruption) :
    Sound machine epoch { tenant with interruption := interruption } :=
  ⟨sound.lived, sound.since, sound.armed, sound.underway⟩

theorem demand (sound : tenant.Sound machine signals.epoch) (demand : Demand) :
    (tenant.demand machine demand signals).Sound machine signals.epoch := by
  unfold Tenant.demand
  cases free : tenant.underway with
  | some underway => exact sound
  | none =>
      refine ⟨sound.lived, sound.since, sound.armed, ?_⟩
      rintro _ ⟨⟩
      cases arms : demand.arms machine with
      | true =>
          refine ⟨fun rest settled => Demand.perform_of_arms arms _ _ _, ?_⟩
          rw [if_pos rfl, Demand.deadline_undertake arms]
          exact .arm _
      | false =>
          exact ⟨fun rest settled => Demand.perform_of_not_arms arms _ _ _ _,
            Demand.since_undertake sound.since sound.armed arms _⟩

theorem conclude {underway : Underway ν} {outcome : Response × Option (Context ν)}
    {deadline : Deadline} (sound : tenant.Sound machine epoch)
    (performs : ∀ rest settled,
      underway.demand.perform machine tenant.id ⟨tenant.context, ⟨underway.seen ++ rest, settled⟩⟩ =
        Errand.reply (Errand.conclude deadline outcome) ⟨rest, settled⟩)
    (since : deadline.Since underway.armed epoch) :
    (tenant.conclude underway (Errand.conclude deadline outcome)).Sound machine epoch where
  lived := .next sound.lived performs
  since context held := by
    obtain ⟨before, _, rfl⟩ := Option.map_eq_some_iff.mp held
    exact since
  armed := since.armed_le
  underway underway found := by cases found

/-- What the step looked at is one more observation of the function. -/
theorem performs_look {underway : Underway ν}
    (sound : underway.Sound machine tenant.id tenant.context epoch) (rest : List Signals)
    (settled : Signals) :
    (underway.look signals).demand.perform machine tenant.id
        ⟨tenant.context, ⟨(underway.look signals).seen ++ rest, settled⟩⟩ =
      underway.errand.finish ⟨signals :: rest, settled⟩ := by
  rw [Underway.look, List.append_assoc]
  exact sound.performs (signals :: rest) settled

theorem proceed (sound : tenant.Sound machine signals.epoch) :
    (tenant.proceed signals).Sound machine signals.epoch := by
  refine proceed_cases tenant signals ?free ?passed ?aborted ?renewed
  case free => exact fun _ => sound
  case passed =>
    intro underway found done
    obtain ⟨performs, since⟩ := sound.underway underway found
    refine sound.conclude (fun rest settled => ?_) since
    rw [performs, Errand.finish_of_passed done]
  case aborted =>
    intro underway found ahead aborts
    have work := sound.underway underway found
    refine sound.conclude (fun rest settled => ?_) work.since
    rw [performs_look work]
    exact Errand.finish_of_aborted ahead aborts
  case renewed =>
    intro underway renewed found ahead passes
    have work := sound.underway underway found
    refine ⟨sound.lived, sound.since, sound.armed, ?_⟩
    rintro _ ⟨⟩
    refine ⟨fun rest settled => ?_, work.since.renew passes⟩
    exact (performs_look work rest settled).trans (Errand.finish_of_renewed ahead passes)

end Sound

end Tenant

theorem Tenant.id_demand (tenant : Tenant ν) (demand : Demand) (signals : Signals) :
    (tenant.demand machine demand signals).id = tenant.id := by
  unfold Tenant.demand
  cases tenant.underway <;> rfl

theorem Tenant.id_proceed (tenant : Tenant ν) (signals : Signals) :
    (tenant.proceed signals).id = tenant.id := by
  refine proceed_cases tenant signals ?free ?passed ?aborted ?renewed <;> intros <;> rfl

namespace Engine

variable {ι : Type} [DecidableEq ι] {engine : Engine ι ν} {task : ι}

theorem tenants_put_self (engine : Engine ι ν) (task : ι) (tenant : Tenant ν) :
    (engine.put task tenant).tenants task = tenant :=
  Function.update_self _ _ _

theorem tenants_step_of_ne {event : ι × Move} (other : task ≠ event.1) :
    (engine.step machine event).tenants task = engine.tenants task := by
  obtain ⟨mover, move⟩ := event
  cases move <;> exact Function.update_of_ne other _ _

theorem epoch_le_step (engine : Engine ι ν) (event : ι × Move) :
    engine.epoch ≤ (engine.step machine event).epoch := by
  obtain ⟨mover, move⟩ := event
  cases move with
  | demand demand => exact Nat.le_refl _
  | proceed => exact Nat.le_refl _
  | request => exact (engine.world mover).epoch_le_disturb .request
  | advance => exact (engine.world mover).epoch_le_disturb .advance

theorem id_step (engine : Engine ι ν) (event : ι × Move) (task : ι) :
    ((engine.step machine event).tenants task).id = (engine.tenants task).id := by
  obtain ⟨mover, move⟩ := event
  by_cases own : task = mover
  · subst own
    cases move with
    | demand demand =>
        rw [step, tenants_put_self, Tenant.id_demand]
    | proceed => rw [step, tenants_put_self, Tenant.id_proceed]
    | request => rw [step, disturb, tenants_put_self]
    | advance => rw [step, disturb, tenants_put_self]
  · rw [tenants_step_of_ne own]

theorem step_sound (sound : ∀ task, (engine.tenants task).Sound machine engine.epoch)
    (event : ι × Move) (task : ι) :
    ((engine.step machine event).tenants task).Sound machine (engine.step machine event).epoch := by
  have later : engine.epoch ≤ (engine.step machine event).epoch := epoch_le_step engine event
  by_cases own : task = event.1
  · obtain ⟨mover, move⟩ := event
    obtain rfl : task = mover := own
    have now : (engine.tenants task).Sound machine (engine.world task).signals.epoch := sound task
    cases move with
    | demand demand =>
        rw [step, tenants_put_self]
        exact now.demand demand
    | proceed =>
        rw [step, tenants_put_self]
        exact now.proceed
    | request | advance =>
        rw [step, disturb, tenants_put_self]
        exact ((sound task).interrupt _).mono later
  · rw [tenants_step_of_ne own]
    exact (sound task).mono later

theorem run_sound (machine : Machine μ ν) (ids : ι → String) (epoch : Nat)
    (events : List (ι × Move)) (task : ι) :
    (((fresh ids epoch).run machine events).tenants task).Sound machine
      ((fresh ids epoch).run machine events).epoch := by
  induction events using List.reverseRecOn generalizing task with
  | nil => exact .fresh (ids task) epoch
  | append_singleton earlier event ih =>
      rw [run, List.foldl_append]
      exact step_sound ih event task

theorem id_run (machine : Machine μ ν) (ids : ι → String) (epoch : Nat)
    (events : List (ι × Move)) (task : ι) :
    (((fresh ids epoch).run machine events).tenants task).id = ids task := by
  induction events using List.reverseRecOn with
  | nil => rfl
  | append_singleton earlier event ih =>
      rw [run, List.foldl_append]
      exact (id_step _ event task).trans ih

end Engine

end WasmTasks
