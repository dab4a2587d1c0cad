import WasmTasks.Proofs.Engine.Errand
import WasmTasks.Proofs.Protocol.Forgetting

/-!
Guests as the engine runs them are among those watched. A compiled module without a start function
has a conduct, and watching it is running the module while its observations see the world.
-/

namespace WasmTasks

namespace World

/-- What is requested of the task, for an interruption that is not halfway. -/
def stop (world : World) : StopRequest :=
  ⟨decide (world.interruption ≠ .idle), if world.interruption = .returned then 1 else 0⟩

/-- Both halves of an interruption make one request, and it fires as often as the epoch advances. -/
theorem stop_interrupted {world : World} (whole : world.interruption ≠ .requested) :
    (world.after [.request, .advance]).stop = world.stop.request.2 ∧
      (world.after [.request, .advance]).epoch + world.stop.fired =
        world.epoch + world.stop.request.2.fired := by
  obtain ⟨epoch, interruption⟩ := world
  cases interruption with
  | idle => exact ⟨rfl, rfl⟩
  | requested => exact absurd rfl whole
  | returned => exact ⟨rfl, rfl⟩

end World

namespace Vigil

def upcoming (world : World) : List (List Disturbance) → List Signals
  | [] => []
  | now :: later => (world.after now).signals :: upcoming (world.after now) later

def timeline (vigil : Vigil) : Timeline :=
  ⟨upcoming vigil.world vigil.ahead, vigil.final.signals⟩

@[simp] theorem next_timeline (vigil : Vigil) :
    vigil.timeline.next = (vigil.observe.world.signals, vigil.observe.timeline) := by
  obtain ⟨deadline, world, ahead⟩ := vigil
  cases ahead <;> rfl

@[simp] theorem deadline_observe (vigil : Vigil) : vigil.observe.deadline = vigil.deadline := by
  unfold observe
  split <;> rfl

/-- The checkpoint that aborts is the last of those that were reached. -/
theorem pass_timeline (vigil : Vigil) (first count : Nat) :
    vigil.deadline.pass first count vigil.timeline =
      (if (vigil.pass count).2.1 then some (first + (vigil.pass count).1.length - 1) else none,
        (vigil.pass count).2.2.deadline, (vigil.pass count).2.2.timeline) := by
  induction count generalizing first vigil with
  | zero => rfl
  | succ count ih =>
      rw [Deadline.pass, next_timeline, Vigil.pass, deadline_observe]
      cases vigil.deadline.check vigil.observe.world.signals with
      | none =>
          rw [← vigil.deadline_observe]
          rfl
      | some renewed =>
          refine (ih { vigil.observe with deadline := renewed } (first + 1)).trans ?_
          dsimp only
          rw [List.length_cons, Nat.succ_add_eq_add_succ]

theorem spin_timeline (vigil : Vigil) (first : Nat) :
    Deadline.spin vigil.timeline.settled first vigil.deadline vigil.timeline.upcoming =
      (spin vigil.deadline vigil.world vigil.ahead).map fun (worlds, last) =>
        (first + worlds.length - 1, last.deadline, last.timeline) := by
  obtain ⟨deadline, world, ahead⟩ := vigil
  induction ahead generalizing first deadline world with
  | nil =>
      show Deadline.spin world.signals first deadline [] = _
      rw [Deadline.spin, spin]
      cases deadline.check world.signals <;> rfl
  | cons now later ih =>
      show Deadline.spin _ first deadline (_ :: upcoming (world.after now) later) = _
      rw [Deadline.spin, spin]
      cases deadline.check (world.after now).signals with
      | none => rfl
      | some renewed =>
          refine (ih (first + 1) renewed (world.after now)).trans ?_
          rw [Option.map_map]
          refine congrArg (Option.map · _) (funext fun result => ?_)
          simp only [Function.comp_apply, List.length_cons, Nat.succ_add_eq_add_succ]

end Vigil

variable {μ ν : Type}

namespace Context

/-- How a module without a start function conducts itself. -/
def conduct (id : String) (guest : Guest ν) : Conduct (Context ν) where
  opening :=
    match guest.imports, guest.obstacle with
    | first :: _, _ => .error (.instantiation (.unknownImport first.space first.name))
    | [], some reason => .error (.instantiation (.described reason))
    | [], none => .ok ⟨id, guest, guest.initial, .arm 0⟩
  call := behave
  write := fun offset bytes context => context.write offset bytes

end Context

namespace Watched

def run (watched : Watched (Context ν)) : GuestRun ν :=
  ⟨watched.guest.map fun context => context.due watched.vigil.deadline, watched.vigil.timeline⟩

variable {machine : Machine μ ν} {stored : CachedModule} {compiled : CompiledModule μ}

theorem openContext_forgets (usable : machine.ofCached stored = .ok compiled)
    (unstarted : (machine.guest compiled.module).start = none) (id : String) :
    Session.Forgets run (openContext (Context.conduct id (machine.guest compiled.module)))
      (GuestRun.openContext machine id stored) := by
  intro watched
  unfold GuestRun.openContext Context.instantiate openContext Context.conduct
  simp only [usable, run, Vigil.next_timeline, unstarted]
  cases (machine.guest compiled.module).imports with
  | nil => cases (machine.guest compiled.module).obstacle <;> rfl
  | cons first others => rfl

theorem call_forgets (id : String) (guest : Guest ν) (function : String) (args : List Int64) :
    Session.Forgets run (call (Context.conduct id guest) function args)
      (GuestRun.call function args) := by
  rintro ⟨held, vigil, trail⟩
  cases held with
  | none => rfl
  | some context =>
      simp only [run, Option.map_some, GuestRun.call_eq_finish, call, Context.conduct,
        Errand.finish, Context.calling, Context.behave_due, Context.deadline_due]
      cases (context.behave function args).checkpoints with
      | none =>
          dsimp only
          rw [vigil.spin_timeline]
          cases Vigil.spin vigil.deadline vigil.world vigil.ahead with
          | none => rfl
          | some last =>
              simp only [Option.map_some, Nat.zero_add]
              rfl
      | some count =>
          dsimp only
          rw [vigil.pass_timeline]
          rcases vigil.pass count with ⟨worlds, _ | aborted, last⟩
          · rfl
          · simp only [if_true, Nat.zero_add]
            rfl

theorem write_forgets (id : String) (guest : Guest ν) (offset : Nat) (bytes : Bytes) :
    Session.Forgets run (write (Context.conduct id guest) offset bytes)
      (GuestRun.write offset bytes) := by
  rintro ⟨held, vigil, trail⟩
  cases held with
  | none => rfl
  | some context =>
      simp only [GuestRun.write, run, Option.map_some, Context.write, write, Context.conduct,
        Context.memory?_due]
      cases context.memory? with
      | none => rfl
      | some found =>
          obtain ⟨index, memory⟩ := found
          dsimp only
          cases memory.write? offset bytes <;> rfl

theorem backend_forgets (usable : machine.ofCached stored = .ok compiled)
    (unstarted : (machine.guest compiled.module).start = none) (id : String) :
    (backend (Context.conduct id (machine.guest compiled.module))).Forgets run
      (GuestRun.backend machine id stored) where
  openContext := openContext_forgets usable unstarted id
  stopRequested := by
    intro watched
    show GuestRun.stopRequested watched.run = _
    simp only [GuestRun.stopRequested, run, Vigil.next_timeline, backend, Watched.stopRequested,
      Vigil.deadline_observe]
  call := call_forgets id _
  write := write_forgets id _

/-- Running a module while its observations see the world is watching it. -/
theorem executeModule_eq (usable : machine.ofCached stored = .ok compiled)
    (unstarted : (machine.guest compiled.module).start = none) (id : String) (config : TaskConfig)
    (world : World) (ahead : List (List Disturbance)) :
    Protocol.executeModule machine id stored config
        (Vigil.timeline ⟨.arm world.epoch, world, ahead⟩) =
      match Protocol.execute (backend (Context.conduct id (machine.guest compiled.module))) config
        (start world ahead) with
      | .answered result _ => some result
      | .aborted _ => some (.failed "task execution aborted")
      | .endless => none := by
  unfold Protocol.executeModule
  have same : Protocol.execute (GuestRun.backend machine id stored) config
      (GuestRun.start (Vigil.timeline ⟨.arm world.epoch, world, ahead⟩)) = _ :=
    Protocol.execute_forgets (backend_forgets usable unstarted id) config (start world ahead)
  rw [same]
  cases Protocol.execute (backend (Context.conduct id (machine.guest compiled.module))) config
    (start world ahead) <;> rfl

end Watched

end WasmTasks
