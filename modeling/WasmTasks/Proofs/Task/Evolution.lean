import WasmTasks.Proofs.Task.Registry

/-!
What every operation of a registry keeps, whoever calls it. Tasks only advance, no registration is
taken over, and a registration ends only for a task that has exited or is asked to stop; hence a
task that is neither can always be found under its identifier.
-/

namespace WasmTasks.Registry

variable {ω : Type}

/-- The task, if there is one, has exited or is asked to stop. -/
def Settled (registry : Registry ω) (ref : TaskRef) : Prop :=
  ∀ task, registry.task? ref = some task → task.isRemovable = true

/-- What the tasks of others go through. Only `starter` may begin to run. -/
structure Evolves (starter : Option TaskRef) (before after : Registry ω) : Prop where
  advances : ∀ ref task, before.task? ref = some task →
    ∃ later, after.task? ref = some later ∧ task.Advances later ∧
      (later.isRunning = true → task.isRunning = true ∨ starter = some ref)
  registered : ∀ id ref, after.get? id = some ref →
    before.get? id = some ref ∨ before.task? ref = none

/-- The same of an operation that makes no task. -/
structure Keeps (starter : Option TaskRef) (before after : Registry ω) : Prop where
  advances : ∀ ref task, before.task? ref = some task →
    ∃ later, after.task? ref = some later ∧ task.Advances later ∧
      (later.isRunning = true → task.isRunning = true ∨ starter = some ref)
  absent : ∀ ref, before.task? ref = none → after.task? ref = none
  registered : ∀ id ref, after.get? id = some ref → before.get? id = some ref
  unregistered : ∀ id ref, before.get? id = some ref →
    after.get? id = some ref ∨ after.Settled ref

/-- Identifiers refer to tasks of that identifier, and every task is registered, has exited or is
asked to stop. -/
structure Consistent (registry : Registry ω) : Prop where
  named : ∀ id ref, registry.get? id = some ref →
    ∃ task, registry.task? ref = some task ∧ task.id = id
  reachable : ∀ ref task, registry.task? ref = some task →
    registry.get? task.id = some ref ∨ task.isRemovable = true

variable {starter : Option TaskRef} {before after registry : Registry ω} {ref : TaskRef}
  {task : Task ω}

namespace Keeps

theorem evolves (keeps : Keeps starter before after) : Evolves starter before after :=
  ⟨keeps.advances, fun id ref held => .inl (keeps.registered id ref held)⟩

theorem refl (registry : Registry ω) : Keeps starter registry registry where
  advances _ task found := ⟨task, found, .refl task, .inl⟩
  absent _ missing := missing
  registered _ _ held := held
  unregistered _ _ held := .inl held

theorem consistent (keeps : Keeps starter before after) (consistent : before.Consistent) :
    after.Consistent where
  named id ref held := by
    obtain ⟨task, found, same⟩ := consistent.named id ref (keeps.registered id ref held)
    obtain ⟨later, foundLater, advances, _⟩ := keeps.advances ref task found
    exact ⟨later, foundLater, advances.id.trans same⟩
  reachable ref later foundLater := by
    cases found : before.task? ref with
    | none =>
        rw [keeps.absent ref found] at foundLater
        cases foundLater
    | some task =>
        obtain ⟨other, foundOther, advances, _⟩ := keeps.advances ref task found
        rw [foundLater] at foundOther
        cases foundOther
        rw [advances.id]
        rcases consistent.reachable ref task found with held | removable
        · exact (keeps.unregistered task.id ref held).imp_right fun settled =>
            settled later foundLater
        · exact .inr (advances.isRemovable removable)

end Keeps

theorem Settled.evolve (evolves : Evolves starter before after) (settled : before.Settled ref)
    (known : ∃ task, before.task? ref = some task) : after.Settled ref := by
  obtain ⟨task, found⟩ := known
  obtain ⟨later, foundLater, advances, _⟩ := evolves.advances ref task found
  intro other foundOther
  rw [foundLater] at foundOther
  cases foundOther
  exact advances.isRemovable (settled task found)

theorem consistent_empty : (empty : Registry ω).Consistent where
  named id ref held := by
    rw [get?_empty] at held
    cases held
  reachable ref task found := by
    rw [task?_empty] at found
    cases found

/-! Each operation. -/

theorem keeps_publish (registry : Registry ω) (id message : String) :
    Keeps starter registry (registry.publish id message) := by
  have kept : Keeps starter registry registry := .refl registry
  exact ⟨kept.advances, kept.absent, kept.registered, kept.unregistered⟩

theorem keeps_replace (found : registry.task? ref = some task) {later : Task ω}
    (advances : task.Advances later)
    (runs : later.isRunning = true → task.isRunning = true ∨ starter = some ref) :
    Keeps starter registry (registry.replace ref task later) where
  advances other earlier foundEarlier := by
    by_cases same : other = ref
    · subst other
      rw [found] at foundEarlier
      cases foundEarlier
      exact ⟨later, registry.task?_replace_self ref task later found, advances, runs⟩
    · rw [registry.task?_replace_of_ne ref task later same]
      exact ⟨earlier, foundEarlier, .refl earlier, .inl⟩
  absent other missing := by
    have same : other ≠ ref := by
      intro same
      rw [same, found] at missing
      cases missing
    rwa [registry.task?_replace_of_ne ref task later same]
  registered id other held := by rwa [get?_replace] at held
  unregistered id other held := by
    rw [get?_replace]
    exact .inl held

theorem keeps_unregister (id : String)
    (settled : ∀ ref, registry.get? id = some ref → registry.Settled ref) :
    Keeps starter registry (registry.unregister id) where
  advances _ task found := ⟨task, found, .refl task, .inl⟩
  absent _ missing := missing
  registered other ref held := by
    by_cases same : other = id
    · rw [same, get?_unregister_self] at held
      cases held
    · rwa [registry.get?_unregister_of_ne same] at held
  unregistered other ref held := by
    by_cases same : other = id
    · rw [same] at held
      exact .inr (settled ref held)
    · rw [registry.get?_unregister_of_ne same]
      exact .inl held

theorem keeps_change (registry : Registry ω) (ref : TaskRef) {f : Task ω → Task ω}
    (advances : ∀ task : Task ω, task.Advances (f task))
    (runs : ∀ task : Task ω, (f task).isRunning = true → task.isRunning = true) :
    Keeps starter registry (registry.change ref f) := by
  unfold change
  cases found : registry.task? ref with
  | none => exact .refl registry
  | some task => exact keeps_replace found (advances task) fun running => .inl (runs task running)

theorem keeps_stop (registry : Registry ω) (ref : TaskRef) :
    Keeps starter registry (registry.stop ref).2 := by
  rw [stop_snd]
  exact keeps_change registry ref Task.requestStop_advances fun _ => Task.isRunning_of_requestStop

theorem keeps_interrupt (registry : Registry ω) (ref : TaskRef) :
    Keeps starter registry (registry.interrupt ref) :=
  keeps_change registry ref Task.interrupt_advances fun _ running => running

theorem keeps_finish (registry : Registry ω) (ref : TaskRef) (result : ExitResult) :
    Keeps starter registry (registry.finish ref result).2 := by
  rw [finish_snd]
  apply keeps_change registry ref (Task.finish_advances result)
  intro task running
  rw [Task.isRunning_finish] at running
  cases running

theorem keeps_start {work : ω} {started : Registry ω} (found : registry.task? ref = some task)
    (accepted : registry.start ref work = .ok started) : Keeps (some ref) registry started := by
  obtain ⟨working, attempt, rfl⟩ := registry.start_eq_ok found accepted
  exact keeps_replace found (Task.start_advances attempt) fun _ => .inr rfl

theorem keeps_remove {id : String} {removed : TaskRef} {left : Registry ω}
    (accepted : registry.remove id = .ok (removed, left)) : Keeps starter registry left := by
  obtain ⟨held, rfl, task, found, removable⟩ := registry.remove_eq_ok accepted
  apply keeps_unregister id
  intro ref other later known
  rw [held] at other
  cases other
  rw [found] at known
  cases known
  exact removable

theorem keeps_discard (found : registry.task? ref = some task) (exited : registry.Settled ref) :
    Keeps starter registry (registry.discard ref).2 := by
  by_cases own : registry.get? task.id = some ref
  · rw [registry.discard_snd_of_own found own]
    apply keeps_unregister task.id
    intro other held
    rw [own] at held
    cases held
    exact exited
  · rw [registry.discard_snd_of_not_own found own]
    exact .refl registry

/-! What the operations leave of the task they are about. -/

theorem isExited_of_stop (idle : registry.isRunning ref = false)
    (found : (registry.stop ref).2.task? ref = some task) : task.isExited = true := by
  rw [stop_snd, task?_change_self, Option.map_eq_some_iff] at found
  obtain ⟨earlier, foundEarlier, rfl⟩ := found
  rw [isRunning, foundEarlier, Option.any_some] at idle
  exact Task.isExited_requestStop idle

theorem requested_of_interrupt (found : (registry.interrupt ref).task? ref = some task) :
    task.stop.requested = true := by
  rw [interrupt, task?_change_self, Option.map_eq_some_iff] at found
  obtain ⟨earlier, _, rfl⟩ := found
  exact earlier.requested_interrupt

theorem isExited_of_finish {result : ExitResult}
    (found : (registry.finish ref result).2.task? ref = some task) : task.isExited = true := by
  rw [finish_snd, task?_change_self, Option.map_eq_some_iff] at found
  obtain ⟨earlier, _, rfl⟩ := found
  exact earlier.isExited_finish result

theorem stage_of_start {work : ω} {started : Registry ω} (found : registry.task? ref = some task)
    (accepted : registry.start ref work = .ok started) :
    ∃ later, started.task? ref = some later ∧ later.stage = .running work := by
  obtain ⟨working, attempt, rfl⟩ := registry.start_eq_ok found accepted
  obtain ⟨_, rfl⟩ := Task.start_eq_ok_iff.mp attempt
  exact ⟨_, registry.task?_replace_self ref task _ found, rfl⟩

/-- Without its registration a task has none, as it had no other. -/
theorem get?_discard_ne (consistent : registry.Consistent) (found : registry.task? ref = some task)
    (id : String) : (registry.discard ref).2.get? id ≠ some ref := by
  have named : ∀ id, registry.get? id = some ref → task.id = id := by
    intro id held
    obtain ⟨other, foundOther, same⟩ := consistent.named id ref held
    rw [found] at foundOther
    cases foundOther
    exact same
  intro held
  by_cases own : registry.get? task.id = some ref
  · rw [registry.discard_snd_of_own found own] at held
    by_cases same : id = task.id
    · rw [same, get?_unregister_self] at held
      cases held
    · rw [registry.get?_unregister_of_ne same] at held
      exact same (named id held).symm
  · rw [registry.discard_snd_of_not_own found own] at held
    exact own (named id held ▸ held)

/-- A task gives no registration up but its own. -/
theorem get?_discard_of_ne (found : registry.task? ref = some task) {id : String}
    {other : TaskRef} (held : registry.get? id = some other) (distinct : other ≠ ref) :
    (registry.discard ref).2.get? id = some other := by
  by_cases own : registry.get? task.id = some ref
  · have apart : id ≠ task.id := by
      intro same
      rw [same, own] at held
      cases held
      exact distinct rfl
    rw [registry.discard_snd_of_own found own, registry.get?_unregister_of_ne apart]
    exact held
  · rw [registry.discard_snd_of_not_own found own]
    exact held

/-! A new task, registered at once. -/

/-- A registry with a task more, under an identifier that was free. -/
structure Reserves (before : Registry ω) (ref : TaskRef) (task : Task ω) (after : Registry ω) :
    Prop where
  fresh : before.task? ref = none
  made : after.task? ref = some task
  others : ∀ other, other ≠ ref → after.task? other = before.task? other
  free : before.get? task.id = none
  registered : after.get? task.id = some ref
  names : ∀ id, id ≠ task.id → after.get? id = before.get? id

theorem reserves_of_register {descriptor : TaskDescriptor} {startedAt : Timestamp}
    (accepted : (registry.create descriptor startedAt).2.register
      (registry.create descriptor startedAt).1 = .ok after) :
    Reserves registry (registry.create descriptor startedAt).1 (.new descriptor startedAt)
      after := by
  obtain ⟨free, tasks, registered, names⟩ :=
    register_eq_ok _ (registry.task?_create_self descriptor startedAt) accepted
  refine ⟨registry.task?_create_fresh descriptor startedAt, ?_, ?_, free, registered, names⟩
  · rw [task?, tasks]
    exact registry.task?_create_self descriptor startedAt
  · intro other distinct
    rw [task?, tasks]
    exact registry.task?_create_of_ne descriptor startedAt distinct

namespace Reserves

theorem evolves (reserves : Reserves before ref task after) : Evolves none before after where
  advances other earlier found := by
    have distinct : other ≠ ref := by
      intro same
      rw [same, reserves.fresh] at found
      cases found
    rw [reserves.others other distinct]
    exact ⟨earlier, found, .refl earlier, .inl⟩
  registered id other held := by
    by_cases same : id = task.id
    · rw [same, reserves.registered] at held
      cases held
      exact .inr reserves.fresh
    · rw [reserves.names id same] at held
      exact .inl held

theorem consistent (reserves : Reserves before ref task after) (consistent : before.Consistent) :
    after.Consistent where
  named id other held := by
    by_cases same : id = task.id
    · rw [same, reserves.registered] at held
      cases held
      exact ⟨task, reserves.made, same.symm⟩
    · rw [reserves.names id same] at held
      obtain ⟨named, found, own⟩ := consistent.named id other held
      obtain ⟨later, foundLater, advances, _⟩ := reserves.evolves.advances other named found
      exact ⟨later, foundLater, advances.id.trans own⟩
  reachable other later found := by
    by_cases own : other = ref
    · rw [own, reserves.made] at found
      cases found
      rw [own]
      exact .inl reserves.registered
    · rw [reserves.others other own] at found
      -- the identifier was free, so it is not the one of a registered task
      rcases consistent.reachable other later found with held | removable
      · have apart : later.id ≠ task.id := by
          intro same
          rw [same, reserves.free] at held
          cases held
        rw [reserves.names later.id apart]
        exact .inl held
      · exact .inr removable

end Reserves

end WasmTasks.Registry
