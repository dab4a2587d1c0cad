import WasmTasks.Proofs.Driver.Phases

/-!
A driver under calls that interleave. Whatever their order, running tasks can be found or are asked
to stop, a task that waits to run has a start that answers for it, a start that fails takes back
what it reserved and nothing else, and a shutdown misses no task it has seen.
-/

namespace WasmTasks.Driver

open Registry (Evolves Keeps Settled Consistent Reserves)

theorem reserve_eq (driver : Driver) (now : Nat) (descriptor : TaskDescriptor) :
    ∃ startedAt, driver.reserve now descriptor =
      ((driver.tasks.create descriptor startedAt).2.register
        (driver.tasks.create descriptor startedAt).1).map fun tasks =>
          ((driver.tasks.create descriptor startedAt).1, driver.withTasks tasks) := by
  refine ⟨⟨now / 1000, now % 1000 * 1000000⟩, ?_⟩
  unfold reserve
  dsimp only
  cases (driver.tasks.create descriptor _).2.register
      (driver.tasks.create descriptor ⟨now / 1000, now % 1000 * 1000000⟩).1 <;> rfl

/-- The registration of the new task decides. -/
theorem reserve_cases (driver : Driver) (now : Nat) (descriptor : TaskDescriptor) :
    ∃ startedAt,
      (∃ error, (driver.tasks.create descriptor startedAt).2.register
            (driver.tasks.create descriptor startedAt).1 = .error error ∧
          driver.reserve now descriptor = .error error) ∨
        ∃ tasks, (driver.tasks.create descriptor startedAt).2.register
            (driver.tasks.create descriptor startedAt).1 = .ok tasks ∧
          driver.reserve now descriptor =
            .ok ((driver.tasks.create descriptor startedAt).1, driver.withTasks tasks) := by
  obtain ⟨startedAt, attempts⟩ := driver.reserve_eq now descriptor
  refine ⟨startedAt, ?_⟩
  rw [attempts]
  cases (driver.tasks.create descriptor startedAt).2.register
      (driver.tasks.create descriptor startedAt).1 with
  | error error => exact .inl ⟨error, rfl, rfl⟩
  | ok tasks => exact .inr ⟨tasks, rfl, rfl⟩

theorem reserve_eq_ok {driver reserved : Driver} {now : Nat} {descriptor : TaskDescriptor}
    {ref : TaskRef} (accepted : driver.reserve now descriptor = .ok (ref, reserved)) :
    ∃ task : Task GuestWork, Reserves driver.tasks ref task reserved.tasks ∧
      task.isRunning = false := by
  obtain ⟨_, ⟨_, _, same⟩ | ⟨tasks, registered, same⟩⟩ := driver.reserve_cases now descriptor
  · rw [same] at accepted
    cases accepted
  · rw [same] at accepted
    cases accepted
    exact ⟨_, Registry.reserves_of_register registered, rfl⟩

theorem reserve_eq_error {driver : Driver} {now : Nat} {descriptor : TaskDescriptor}
    {error : DriverError} (refused : driver.reserve now descriptor = .error error) :
    error = .duplicateTask descriptor.id := by
  obtain ⟨_, ⟨_, taken, same⟩ | ⟨_, _, same⟩⟩ := driver.reserve_cases now descriptor
  · rw [same] at refused
    cases refused
    exact Registry.register_eq_error _ (Registry.task?_create_self _ _ _) taken
  · rw [same] at refused
    cases refused

namespace Call

def Holds (tasks : Registry GuestWork) : Call → Prop
  | start ref phase => (∃ task, tasks.task? ref = some task) ∧ phase.Holds tasks ref
  | refused error => ∃ id, error = .duplicateTask id
  | shutdown phase => phase.Holds tasks
  | stop _ _ | destroy _ _ _ => True

variable {driver : Driver} {before after : Registry GuestWork} {starter : Option TaskRef}
  {call : Call}

theorem Holds.evolve (holds : call.Holds before) (evolves : Evolves starter before after)
    (other : starter = none ∨ starter ≠ call.ref?) : call.Holds after := by
  cases call with
  | start ref phase =>
      obtain ⟨⟨task, found⟩, holds⟩ := holds
      obtain ⟨later, foundLater, _⟩ := evolves.advances ref task found
      have apart : starter ≠ some ref := by
        rcases other with nobody | another
        · rw [nobody]
          exact nofun
        · exact another
      exact ⟨⟨later, foundLater⟩, holds.evolve evolves apart ⟨task, found⟩⟩
  | refused error => exact holds
  | stop id phase => trivial
  | destroy id force phase => trivial
  | shutdown phase => exact ShutdownPhase.Holds.evolve holds evolves

theorem Holds.known (holds : call.Holds before) {ref : TaskRef} (own : call.ref? = some ref) :
    ∃ task, before.task? ref = some task := by
  cases call with
  | start other phase =>
      cases own
      exact holds.1
  | _ => cases own

@[simp] theorem ref?_step (call : Call) (driver : Driver) :
    (call.step driver).1.ref? = call.ref? := by
  cases call <;> rfl

theorem step_keeps (holds : call.Holds driver.tasks) :
    Keeps call.ref? driver.tasks (call.step driver).2.tasks := by
  cases call with
  | start ref phase => exact StartPhase.step_keeps holds.2 holds.1
  | refused error => exact .refl _
  | stop id phase => exact phase.step_keeps id driver
  | destroy id force phase => exact phase.step_keeps id force driver
  | shutdown phase => exact phase.step_keeps driver

theorem step_holds (holds : call.Holds driver.tasks) (consistent : driver.tasks.Consistent) :
    (call.step driver).1.Holds (call.step driver).2.tasks := by
  have keeps := step_keeps holds
  cases call with
  | start ref phase =>
      obtain ⟨⟨task, found⟩, holds⟩ := holds
      obtain ⟨later, foundLater, _⟩ := keeps.advances ref task found
      exact ⟨⟨later, foundLater⟩, StartPhase.step_holds holds consistent ⟨task, found⟩⟩
  | refused error => exact holds
  | stop id phase => trivial
  | destroy id force phase => trivial
  | shutdown phase => exact ShutdownPhase.step_holds holds

end Call

namespace Floor

def refs (floor : Floor) : List (Option TaskRef) :=
  floor.calls.map Call.ref?

/-- Every task belongs to one start, and every call has achieved what it should have by now. -/
structure Sound (floor : Floor) : Prop where
  consistent : floor.driver.tasks.Consistent
  holds : ∀ (index : Nat) (call : Call), floor.calls[index]? = some call →
    call.Holds floor.driver.tasks
  owned : ∀ ref task, floor.driver.tasks.task? ref = some task → some ref ∈ floor.refs
  distinct : floor.refs.Pairwise fun earlier later => earlier = none ∨ earlier ≠ later

variable {floor : Floor} {index : Nat} {call : Call}

theorem refs_make (floor : Floor) (call : Call) :
    (floor.make call).refs = floor.refs ++ [call.ref?] :=
  List.map_append

theorem getElem?_make {other : Call} (held : (floor.make call).calls[index]? = some other) :
    floor.calls[index]? = some other ∨ other = call := by
  rw [make, List.getElem?_append] at held
  split at held
  · exact .inl held
  · exact .inr (List.mem_singleton.mp (List.mem_of_getElem? held))

theorem refs_resume {next : Call × Driver} (held : floor.calls[index]? = some call)
    (same : next.1.ref? = call.ref?) : (floor.resume index next).refs = floor.refs := by
  obtain ⟨inside, rfl⟩ := List.getElem?_eq_some_iff.mp held
  rw [refs, resume, List.map_set, same, ← List.getElem_map Call.ref?]
  · exact List.set_getElem_self _
  · rwa [List.length_map]

theorem getElem?_resume {next : Call × Driver} {other : Nat} {found : Call}
    (held : (floor.resume index next).calls[other]? = some found) :
    (other = index ∧ found = next.1) ∨ (other ≠ index ∧ floor.calls[other]? = some found) := by
  by_cases same : index = other
  · refine .inl ⟨same.symm, ?_⟩
    rw [resume, same, List.getElem?_set_self'] at held
    obtain ⟨_, _, equality⟩ := Option.map_eq_some_iff.mp held
    exact equality.symm
  · rw [resume, List.getElem?_set_ne same] at held
    exact .inr ⟨Ne.symm same, held⟩

theorem sound_opening (config : PluginConfig) (cache : Option ModuleCache) :
    (opening config cache).Sound where
  consistent := Registry.consistent_empty
  holds index call held := by
    rw [opening, List.getElem?_nil] at held
    cases held
  owned ref task found := by
    rw [opening, Registry.task?_empty] at found
    cases found
  distinct := .nil

namespace Sound

theorem apart (sound : floor.Sound) {i j : Nat} {first second : Call}
    (heldFirst : floor.calls[i]? = some first) (heldSecond : floor.calls[j]? = some second)
    (different : i ≠ j) : first.ref? = none ∨ first.ref? ≠ second.ref? := by
  obtain ⟨insideFirst, rfl⟩ := List.getElem?_eq_some_iff.mp heldFirst
  obtain ⟨insideSecond, rfl⟩ := List.getElem?_eq_some_iff.mp heldSecond
  have pairs := List.pairwise_iff_getElem.mp (List.pairwise_map.mp sound.distinct)
  rcases Nat.lt_or_gt_of_ne different with before | after
  · exact pairs i j insideFirst insideSecond before
  · rcases pairs j i insideSecond insideFirst after with unowned | other
    · by_cases same : floor.calls[i].ref? = floor.calls[j].ref?
      · exact .inl (same.trans unowned)
      · exact .inr same
    · exact .inr (Ne.symm other)

/-- Something happens to the tasks that is no call's. -/
theorem keep (sound : floor.Sound) {driver : Driver}
    (keeps : Keeps none floor.driver.tasks driver.tasks) :
    Sound { floor with driver := driver } where
  consistent := keeps.consistent sound.consistent
  holds index call held := (sound.holds index call held).evolve keeps.evolves (.inl rfl)
  owned ref task found := by
    cases earlier : floor.driver.tasks.task? ref with
    | some task => exact sound.owned ref task earlier
    | none =>
        rw [keeps.absent ref earlier] at found
        cases found
  distinct := sound.distinct

theorem make (sound : floor.Sound) (holds : call.Holds floor.driver.tasks)
    (unowned : call.ref? = none) : (floor.make call).Sound where
  consistent := sound.consistent
  holds index other held := by
    rcases getElem?_make held with earlier | last
    · exact sound.holds index other earlier
    · rw [last]
      exact holds
  owned ref task found := by
    rw [refs_make]
    exact List.mem_append_left _ (sound.owned ref task found)
  distinct := by
    rw [refs_make, unowned, List.pairwise_append]
    refine ⟨sound.distinct, List.pairwise_singleton _ _, ?_⟩
    intro earlier _ later member
    rw [List.mem_singleton.mp member]
    exact Classical.or_iff_not_imp_left.mpr id

theorem reserve (sound : floor.Sound) {ref : TaskRef} {task : Task GuestWork} {reserved : Driver}
    (reserves : Reserves floor.driver.tasks ref task reserved.tasks)
    (idle : task.isRunning = false) :
    (Floor.make { floor with driver := reserved } (.start ref .loading)).Sound where
  consistent := reserves.consistent sound.consistent
  holds index other held := by
    rcases getElem?_make held with earlier | last
    · exact (sound.holds index other earlier).evolve reserves.evolves (.inl rfl)
    · rw [last]
      refine ⟨⟨task, reserves.made⟩, ?_⟩
      intro other found
      cases reserves.made.symm.trans found
      exact idle
  owned other later found := by
    rw [refs_make]
    by_cases own : other = ref
    · rw [own]
      exact List.mem_append_right _ (List.mem_singleton.mpr rfl)
    · apply List.mem_append_left
      exact sound.owned other later ((reserves.others other own).symm.trans found)
  distinct := by
    rw [refs_make, List.pairwise_append]
    refine ⟨sound.distinct, List.pairwise_singleton _ _, ?_⟩
    intro earlier present later member
    rw [List.mem_singleton.mp member]
    refine .inr fun same => ?_
    obtain ⟨other, there, own⟩ := List.mem_map.mp present
    obtain ⟨index, held⟩ := List.mem_iff_getElem?.mp there
    obtain ⟨_, found⟩ := (sound.holds index other held).known (own.trans same)
    cases reserves.fresh.symm.trans found

theorem resume (sound : floor.Sound) {next : Call × Driver}
    (held : floor.calls[index]? = some call) (same : next.1.ref? = call.ref?)
    (keeps : Keeps call.ref? floor.driver.tasks next.2.tasks)
    (holds : next.1.Holds next.2.tasks) : (floor.resume index next).Sound where
  consistent := keeps.consistent sound.consistent
  holds other found heldOther := by
    rcases getElem?_resume heldOther with ⟨_, own⟩ | ⟨different, there⟩
    · rw [own]
      exact holds
    · exact (sound.holds other found there).evolve keeps.evolves
        (sound.apart held there different.symm)
  owned ref task found := by
    rw [refs_resume held same]
    cases earlier : floor.driver.tasks.task? ref with
    | some task => exact sound.owned ref task earlier
    | none =>
        cases (keeps.absent ref earlier).symm.trans found
  distinct := by
    rw [refs_resume held same]
    exact sound.distinct

end Sound

theorem apply_advance (held : floor.calls[index]? = some call) :
    floor.apply (.advance index) = floor.resume index (call.step floor.driver) := by
  simp only [apply, held]

/-- A start waits until its module is there, or until nobody waits for it any more. -/
theorem apply_waiting {action : Action} (own : action.call? = some index)
    (other : action ≠ .advance index) :
    floor.apply action = floor ∨ ∃ ref phase, floor.calls[index]? = some (.start ref .loading) ∧
      (∀ tasks : Registry GuestWork, StartPhase.loading.Holds tasks ref → phase.Holds tasks ref) ∧
      floor.apply action = floor.resume index (.start ref phase, floor.driver) := by
  cases action with
  | advance call =>
      cases own
      exact absurd rfl other
  | loaded call outcome =>
      cases own
      unfold apply
      dsimp only
      split
      · rename_i ref held
        exact .inr ⟨ref, .loaded outcome, held, fun _ holds => holds, rfl⟩
      · exact .inl rfl
  | abandon call =>
      cases own
      unfold apply
      dsimp only
      split
      · rename_i ref held
        exact .inr ⟨ref, .stopping .abandoned, held, fun _ holds => holds, rfl⟩
      · exact .inl rfl
  | _ => cases own

namespace Sound

theorem advance (sound : floor.Sound) (index : Nat) : (floor.apply (.advance index)).Sound := by
  cases held : floor.calls[index]? with
  | none =>
      simp only [Floor.apply, held]
      exact sound
  | some call =>
      have holds := sound.holds index call held
      rw [apply_advance held]
      exact sound.resume held (call.ref?_step floor.driver) (Call.step_keeps holds)
        (Call.step_holds holds sound.consistent)

theorem wait (sound : floor.Sound) {action : Action} (own : action.call? = some index)
    (other : action ≠ .advance index) : (floor.apply action).Sound := by
  obtain same | ⟨ref, phase, held, holds, same⟩ := floor.apply_waiting own other
  · rw [same]
    exact sound
  · obtain ⟨known, waiting⟩ := sound.holds index _ held
    rw [same]
    exact sound.resume held rfl (.refl _) ⟨known, holds _ waiting⟩

theorem apply (sound : floor.Sound) (action : Action) : (floor.apply action).Sound := by
  cases action with
  | start now descriptor =>
      cases attempt : floor.driver.reserve now descriptor with
      | error error =>
          have holds : Call.Holds floor.driver.tasks (.refused error) :=
            ⟨descriptor.id, reserve_eq_error attempt⟩
          simp only [Floor.apply, attempt]
          exact sound.make holds rfl
      | ok reserved =>
          obtain ⟨task, reserves, idle⟩ := reserve_eq_ok attempt
          simp only [Floor.apply, attempt]
          exact sound.reserve reserves idle
  | stop id => exact sound.make trivial rfl
  | destroy id force => exact sound.make trivial rfl
  | shutdown => exact sound.make nofun rfl
  | advance index => exact sound.advance index
  | loaded index outcome => exact sound.wait rfl nofun
  | abandon index => exact sound.wait rfl nofun
  | finish ref result =>
      unfold Floor.apply
      dsimp only
      split
      · exact sound.keep (Registry.keeps_finish _ _ _)
      · exact sound
  | lookup now path =>
      have same : (floor.driver.lookupModule now path).2.tasks = floor.driver.tasks := by
        unfold lookupModule
        split <;> rfl
      exact sound.keep (same ▸ .refl _)
  | store now stored => exact sound.keep (.refl _)

end Sound

theorem Sound.run (sound : floor.Sound) (actions : List Action) : (floor.run actions).Sound := by
  induction actions generalizing floor with
  | nil => exact sound
  | cons action later ih => exact ih (sound.apply action)

/-! What soundness says of one task. -/

namespace Sound

theorem running (sound : floor.Sound) {ref : TaskRef} {task : Task GuestWork}
    (found : floor.driver.tasks.task? ref = some task) (running : task.isRunning = true) :
    floor.driver.tasks.get? task.id = some ref ∨ task.stop.requested = true := by
  refine (sound.consistent.reachable ref task found).imp_right fun removable => ?_
  rcases Bool.or_eq_true_iff.mp removable with exited | requested
  · rw [Task.isRunning_eq_false_of_isExited exited] at running
    cases running
  · exact requested

theorem starting (sound : floor.Sound) {ref : TaskRef} {task : Task GuestWork}
    (found : floor.driver.tasks.task? ref = some task) (starting : task.stage = .starting) :
    ∃ (index : Nat) (phase : StartPhase),
      floor.calls[index]? = some (.start ref phase) ∧ phase.armed = true := by
  obtain ⟨call, member, own⟩ := List.mem_map.mp (sound.owned ref task found)
  obtain ⟨index, held⟩ := List.mem_iff_getElem?.mp member
  have holds := sound.holds index call held
  have unfinished : task.isExited ≠ true := by
    rw [Task.isExited, Stage.isExited, starting]
    exact nofun
  cases call with
  | start other phase =>
      cases own
      refine ⟨index, phase, held, ?_⟩
      cases phase with
      | announcing handle => exact absurd starting (holds.2 task found)
      | started handle => exact absurd starting (holds.2 task found)
      | withdrawn reason => exact absurd (holds.2.1 task found) unfinished
      | _ => rfl
  | _ => cases own

theorem withdrawn (sound : floor.Sound) {ref : TaskRef} {reason : Withdrawal}
    (held : floor.calls[index]? = some (.start ref (.withdrawn reason))) :
    (∃ task, floor.driver.tasks.task? ref = some task ∧ task.isExited = true) ∧
      ∀ id, floor.driver.tasks.get? id ≠ some ref := by
  obtain ⟨⟨task, found⟩, exited, unregistered⟩ := sound.holds index _ held
  exact ⟨⟨task, found, exited task found⟩, unregistered⟩

/-- No step of a start unregisters the task of another one. -/
theorem registered (sound : floor.Sound) {ref other : TaskRef} {phase : StartPhase}
    (held : floor.calls[index]? = some (.start ref phase)) {action : Action}
    (own : action.call? = some index) {id : String}
    (registered : floor.driver.tasks.get? id = some other) (distinct : other ≠ ref) :
    (floor.apply action).driver.tasks.get? id = some other := by
  by_cases advances : action = .advance index
  · rw [advances, apply_advance held]
    exact phase.get?_step (sound.holds index _ held).1 registered distinct
  · obtain same | ⟨_, _, _, _, same⟩ := floor.apply_waiting own advances
    · rw [same]
      exact registered
    · rw [same]
      exact registered

end Sound

/-! A shutdown keeps to the snapshot it began with. -/

/-- The call is a shutdown at work on this snapshot. -/
def Covers (floor : Floor) (index : Nat) (snapshot : List TaskRef) : Prop :=
  ∃ phase : ShutdownPhase, floor.calls[index]? = some (.shutdown phase) ∧
    phase.snapshot? = some snapshot

theorem Covers.resume {snapshot : List TaskRef} (covers : floor.Covers index snapshot)
    {other : Nat} {next : Call × Driver}
    (held : floor.calls[other]? = some call)
    (same : ∀ phase, call = .shutdown phase → phase.snapshot? = some snapshot →
      ∃ later : ShutdownPhase, next.1 = .shutdown later ∧ later.snapshot? = some snapshot) :
    (floor.resume other next).Covers index snapshot := by
  obtain ⟨phase, there, taken⟩ := covers
  by_cases own : other = index
  · rw [own, there] at held
    cases held
    obtain ⟨later, next, kept⟩ := same phase rfl taken
    refine ⟨later, ?_, kept⟩
    rw [resume, own, List.getElem?_set_self', there, next]
    rfl
  · refine ⟨phase, ?_, taken⟩
    rw [Floor.resume, List.getElem?_set_ne own]
    exact there

theorem Covers.make {snapshot : List TaskRef} (covers : floor.Covers index snapshot)
    (call : Call) : (floor.make call).Covers index snapshot := by
  obtain ⟨phase, there, taken⟩ := covers
  refine ⟨phase, ?_, taken⟩
  rw [Floor.make, List.getElem?_append_left (List.getElem?_eq_some_iff.mp there).1]
  exact there

theorem Covers.wait {snapshot : List TaskRef} (covers : floor.Covers index snapshot)
    {action : Action} {other : Nat} (own : action.call? = some other)
    (waits : action ≠ .advance other) : (floor.apply action).Covers index snapshot := by
  obtain same | ⟨ref, phase, held, _, same⟩ := floor.apply_waiting own waits
  · rw [same]
    exact covers
  · rw [same]
    exact covers.resume held nofun

theorem Covers.apply {snapshot : List TaskRef} (covers : floor.Covers index snapshot)
    (action : Action) : (floor.apply action).Covers index snapshot := by
  cases action with
  | start now descriptor =>
      unfold Floor.apply
      dsimp only
      split
      · exact covers.make _
      · rename_i ref reserved _
        have held : Covers { floor with driver := reserved } index snapshot := covers
        exact held.make _
  | stop id => exact covers.make _
  | destroy id force => exact covers.make _
  | shutdown => exact covers.make _
  | advance other =>
      cases held : floor.calls[other]? with
      | none =>
          simp only [Floor.apply, held]
          exact covers
      | some call =>
          rw [apply_advance held]
          refine covers.resume held ?_
          rintro phase rfl taken
          exact ⟨_, rfl, ShutdownPhase.snapshot?_step taken⟩
  | loaded other outcome => exact covers.wait rfl nofun
  | abandon other => exact covers.wait rfl nofun
  | finish ref result =>
      unfold Floor.apply
      dsimp only
      split <;> exact covers
  | lookup now path => exact covers
  | store now stored => exact covers

theorem Covers.run {snapshot : List TaskRef} (covers : floor.Covers index snapshot)
    (actions : List Action) : (floor.run actions).Covers index snapshot := by
  induction actions generalizing floor with
  | nil => exact covers
  | cons action later ih => exact ih (covers.apply action)

theorem Sound.shutdown (sound : floor.Sound)
    (held : floor.calls[index]? = some (.shutdown .beginning)) {later : List Action}
    {snapshot : List TaskRef} (ended : ((floor.apply (.advance index)).run later).calls[index]? =
      some (.shutdown (.done snapshot))) {id : String} {ref : TaskRef}
    (registered : floor.driver.tasks.get? id = some ref) :
    ∃ task, ((floor.apply (.advance index)).run later).driver.tasks.task? ref = some task ∧
      task.isRemovable = true := by
  obtain ⟨task, found, _⟩ := sound.consistent.named id ref registered
  let refs := floor.driver.tasks.registered.map Prod.fst
  have member : ref ∈ refs := List.mem_map.mpr ⟨(ref, task), (Registry.mem_registered _).mpr
    ⟨found, id, Registry.mem_names_of_get? _ registered⟩, rfl⟩
  have begun : (floor.apply (.advance index)).Covers index refs := by
    refine ⟨.stopping refs refs, ?_, rfl⟩
    rw [apply_advance held, Floor.resume, List.getElem?_set_self', held]
    rfl
  obtain ⟨phase, reached, taken⟩ := begun.run later
  rw [ended] at reached
  cases reached
  have same : snapshot = refs := Option.some.inj taken
  have holds := ((sound.advance index).run later).holds index _ ended
  obtain ⟨⟨after, foundAfter⟩, pending | settled⟩ := holds snapshot rfl ref (same ▸ member)
  · cases pending
  · exact ⟨after, foundAfter, settled after foundAfter⟩

/-- Calls of any number, in any order of their steps, never lose sight of a task. -/
theorem run_keeps_reservations (config : PluginConfig) (cache : Option ModuleCache)
    (actions : List Action) :
    let floor := (opening config cache).run actions
    let tasks := floor.driver.tasks
    (∀ ref task, tasks.task? ref = some task → task.isRunning = true →
        tasks.get? task.id = some ref ∨ task.stop.requested = true) ∧
      (∀ id ref task, tasks.get? id = some ref → tasks.task? ref = some task →
        task.stage = .starting →
          ∃ (index : Nat) (phase : StartPhase),
            floor.calls[index]? = some (.start ref phase) ∧ phase.armed = true) ∧
      (∀ (index : Nat) ref reason,
        floor.calls[index]? = some (.start ref (.withdrawn reason)) →
          (∃ task, tasks.task? ref = some task ∧ task.isExited = true) ∧
            ∀ id, tasks.get? id ≠ some ref) ∧
      (∀ (index : Nat) error, floor.calls[index]? = some (.refused error) →
        ∃ id, error = .duplicateTask id) ∧
      (∀ (index : Nat) ref phase action, floor.calls[index]? = some (.start ref phase) →
        action.call? = some index → ∀ id other, tasks.get? id = some other → other ≠ ref →
          (floor.apply action).driver.tasks.get? id = some other) ∧
      ∀ (index : Nat) later snapshot, floor.calls[index]? = some (.shutdown .beginning) →
        let after := (floor.apply (.advance index)).run later
        after.calls[index]? = some (.shutdown (.done snapshot)) →
          ∀ id ref, tasks.get? id = some ref → ∃ task, after.driver.tasks.task? ref = some task ∧
            (task.isExited = true ∨ task.stop.requested = true) := by
  intro floor tasks
  have sound : floor.Sound := (sound_opening config cache).run actions
  refine ⟨?_, ?_, ?_, ?_, ?_, ?_⟩
  · exact fun ref task found running => sound.running found running
  · exact fun id ref task _ found starting => sound.starting found starting
  · exact fun index ref reason held => sound.withdrawn held
  · exact fun index error held => sound.holds index _ held
  · exact fun index ref phase action held own id other registered distinct =>
      sound.registered held own registered distinct
  · intro index later snapshot held after ended id ref registered
    obtain ⟨task, found, removable⟩ := sound.shutdown held ended registered
    exact ⟨task, found, Bool.or_eq_true_iff.mp removable⟩

end Floor

end WasmTasks.Driver
