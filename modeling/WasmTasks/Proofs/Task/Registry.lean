import WasmTasks.Proofs.Task.Stages

/-!
The operations of a registry, read off the two questions it answers: which task a reference names,
and which reference an identifier refers to.
-/

namespace WasmTasks.Registry

variable {ω : Type} (registry : Registry ω)

@[simp] theorem task?_empty (ref : TaskRef) : (empty : Registry ω).task? ref = none :=
  List.getElem?_nil

@[simp] theorem get?_empty (id : String) : (empty : Registry ω).get? id = none :=
  List.lookup_nil

/-! A task in its place. -/

section Replace

variable (ref : TaskRef) (before after : Task ω)

theorem tasks_replace :
    (registry.replace ref before after).tasks = registry.tasks.set ref after := by
  unfold replace
  dsimp only
  split <;> rfl

theorem names_replace : (registry.replace ref before after).names = registry.names := by
  unfold replace
  dsimp only
  split <;> rfl

@[simp] theorem get?_replace (id : String) :
    (registry.replace ref before after).get? id = registry.get? id := by
  rw [get?, get?, names_replace]

theorem epoch_replace :
    (registry.replace ref before after).epoch =
      registry.epoch + (after.stop.fired - before.stop.fired) := by
  unfold replace
  dsimp only
  split <;> rfl

theorem task?_replace_self {task : Task ω} (found : registry.task? ref = some task) :
    (registry.replace ref before after).task? ref = some after := by
  have inside : ref < registry.tasks.length := (List.getElem?_eq_some_iff.mp found).1
  rw [task?, tasks_replace, List.getElem?_set_self inside]

theorem task?_replace_of_ne {other : TaskRef} (distinct : other ≠ ref) :
    (registry.replace ref before after).task? other = registry.task? other := by
  rw [task?, tasks_replace, List.getElem?_set_ne distinct.symm, task?]

theorem bus_replace_of_exits {result : ExitResult} (unfinished : before.exitResult? = none)
    (exited : after.exitResult? = some result) :
    (registry.replace ref before after).bus =
      registry.bus.publish after.id (exitMessage result) := by
  simp only [replace, unfinished, exited]
  rfl

theorem bus_replace_of_same (same : after.exitResult? = before.exitResult?) :
    (registry.replace ref before after).bus = registry.bus := by
  unfold replace
  rw [same]
  cases before.exitResult? <;> rfl

end Replace

def change (ref : TaskRef) (f : Task ω → Task ω) : Registry ω :=
  match registry.task? ref with
  | none => registry
  | some task => registry.replace ref task (f task)

@[simp] theorem get?_change (ref : TaskRef) (f : Task ω → Task ω) (id : String) :
    (registry.change ref f).get? id = registry.get? id := by
  unfold change
  cases registry.task? ref with
  | none => rfl
  | some task => exact registry.get?_replace ref task (f task) id

theorem task?_change_self (ref : TaskRef) (f : Task ω → Task ω) :
    (registry.change ref f).task? ref = (registry.task? ref).map f := by
  unfold change
  cases found : registry.task? ref with
  | none => exact found
  | some task => exact registry.task?_replace_self ref task (f task) found

theorem stop_snd (ref : TaskRef) : (registry.stop ref).2 = registry.change ref Task.requestStop := by
  unfold stop change
  cases registry.task? ref <;> rfl

theorem finish_snd (ref : TaskRef) (result : ExitResult) :
    (registry.finish ref result).2 = registry.change ref (Task.finish result) := by
  unfold finish change
  cases registry.task? ref <;> rfl

/-! The two steps of a stop. Work under way is seen first and interrupted later. -/

def isRunning (ref : TaskRef) : Bool :=
  (registry.task? ref).any Task.isRunning

def interrupt (ref : TaskRef) : Registry ω :=
  registry.change ref Task.interrupt

theorem stop_of_running {ref : TaskRef} (running : registry.isRunning ref = true) :
    registry.stop ref = (true, registry.interrupt ref) := by
  unfold isRunning at running
  cases found : registry.task? ref with
  | none => simp [found] at running
  | some task =>
      rw [found, Option.any_some] at running
      have unfinished : task.isExited = false := by
        rw [Bool.eq_false_iff]
        intro exited
        rw [Task.isRunning_eq_false_of_isExited exited] at running
        cases running
      simp only [stop, interrupt, change, found, unfinished, Task.requestStop_of_isRunning running]
      rfl

/-! Registrations. -/

def unregister (id : String) : Registry ω :=
  { registry with names := registry.without id }

@[simp] theorem get?_unregister_self (id : String) : (registry.unregister id).get? id = none := by
  rw [get?, unregister, List.lookup_eq_none_iff]
  intro entry member
  have distinct : entry.1 ≠ id := of_decide_eq_true (List.mem_filter.mp member).2
  exact bne_iff_ne.mpr distinct.symm

theorem get?_unregister_of_ne {id other : String} (distinct : other ≠ id) :
    (registry.unregister id).get? other = registry.get? other := by
  rw [get?, get?, unregister, without]
  dsimp only
  induction registry.names with
  | nil => rfl
  | cons entry others ih =>
      rw [List.filter_cons, List.lookup_cons]
      by_cases same : entry.1 = id
      · have apart : (other == entry.1) = false := beq_false_of_ne (by rwa [same])
        rw [if_neg (by simpa using same), apart]
        exact ih
      · rw [if_pos (by simpa using same), List.lookup_cons, ih]

theorem register_eq_ok {registered : Registry ω} {ref : TaskRef} {task : Task ω}
    (found : registry.task? ref = some task) (accepted : registry.register ref = .ok registered) :
    registry.get? task.id = none ∧ registered.tasks = registry.tasks ∧
      registered.get? task.id = some ref ∧
      ∀ id, id ≠ task.id → registered.get? id = registry.get? id := by
  simp only [register, found] at accepted
  cases taken : registry.get? task.id with
  | some other =>
      rw [taken] at accepted
      cases accepted
  | none =>
      rw [taken] at accepted
      cases accepted
      refine ⟨rfl, rfl, ?_, ?_⟩
      · rw [get?, List.lookup_append, show registry.names.lookup task.id = none from taken]
        exact List.lookup_cons_self
      · intro id distinct
        have apart : (id == task.id) = false := beq_false_of_ne distinct
        rw [get?, List.lookup_append, List.lookup_cons, apart]
        exact Option.or_none

theorem register_eq_error {ref : TaskRef} {task : Task ω} {error : DriverError}
    (found : registry.task? ref = some task) (refused : registry.register ref = .error error) :
    error = .duplicateTask task.id := by
  simp only [register, found] at refused
  cases taken : registry.get? task.id with
  | some other =>
      rw [taken] at refused
      cases refused
      rfl
  | none =>
      rw [taken] at refused
      cases refused

theorem lookup_eq_ok_iff (id : String) (ref : TaskRef) :
    registry.lookup id = .ok ref ↔ registry.get? id = some ref := by
  unfold lookup
  cases registry.get? id <;> simp

theorem lookup_of_absent {id : String} (absent : registry.get? id = none) :
    registry.lookup id = .error (.notFound id) := by
  rw [lookup, absent]

theorem lookup_of_held {id : String} {ref : TaskRef} (held : registry.get? id = some ref) :
    registry.lookup id = .ok ref :=
  (registry.lookup_eq_ok_iff id ref).mpr held

theorem remove_of_removable {id : String} {ref : TaskRef} {task : Task ω}
    (held : registry.get? id = some ref) (found : registry.task? ref = some task)
    (removable : task.isRemovable = true) :
    registry.remove id = .ok (ref, registry.unregister id) := by
  rw [remove, lookup_of_held registry held]
  simp only [bind, Except.bind, found, removable, if_true]
  rfl

theorem remove_eq_ok {id : String} {removed : TaskRef} {left : Registry ω}
    (accepted : registry.remove id = .ok (removed, left)) :
    registry.get? id = some removed ∧ left = registry.unregister id ∧
      ∃ task, registry.task? removed = some task ∧ task.isRemovable = true := by
  unfold remove at accepted
  cases looked : registry.lookup id with
  | error error =>
      rw [looked] at accepted
      cases accepted
  | ok ref =>
      rw [looked] at accepted
      simp only [bind, Except.bind] at accepted
      cases found : registry.task? ref with
      | none =>
          rw [found] at accepted
          cases accepted
      | some task =>
          rw [found] at accepted
          dsimp only at accepted
          split at accepted
          · rename_i removable
            cases accepted
            exact ⟨(registry.lookup_eq_ok_iff id removed).mp looked, rfl, task, found, removable⟩
          · cases accepted

theorem discard_snd_of_own {ref : TaskRef} {task : Task ω} (found : registry.task? ref = some task)
    (own : registry.get? task.id = some ref) :
    (registry.discard ref).2 = registry.unregister task.id := by
  simp only [discard, found, if_pos own]
  rfl

theorem discard_snd_of_not_own {ref : TaskRef} {task : Task ω}
    (found : registry.task? ref = some task) (other : registry.get? task.id ≠ some ref) :
    (registry.discard ref).2 = registry := by
  simp only [discard, found, if_neg other]

@[simp] theorem task?_discard (ref other : TaskRef) :
    (registry.discard ref).2.task? other = registry.task? other := by
  unfold discard
  cases registry.task? ref with
  | none => rfl
  | some task =>
      dsimp only
      split <;> rfl

theorem start_eq_ok {ref : TaskRef} {task : Task ω} {work : ω} {started : Registry ω}
    (found : registry.task? ref = some task) (accepted : registry.start ref work = .ok started) :
    ∃ working, task.start work = .ok working ∧ started = registry.replace ref task working := by
  simp only [start, found] at accepted
  cases attempt : task.start work with
  | error error =>
      rw [attempt] at accepted
      cases accepted
  | ok working =>
      rw [attempt] at accepted
      cases accepted
      exact ⟨working, rfl, rfl⟩

theorem mem_registered {ref : TaskRef} {task : Task ω} :
    (ref, task) ∈ registry.registered ↔
      registry.task? ref = some task ∧ ∃ id, (id, ref) ∈ registry.names := by
  rw [registered, List.mem_filterMap]
  constructor
  · rintro ⟨⟨id, other⟩, member, same⟩
    obtain ⟨known, found, equality⟩ := Option.map_eq_some_iff.mp same
    cases equality
    exact ⟨found, id, member⟩
  · rintro ⟨found, id, member⟩
    exact ⟨(id, ref), member, Option.map_eq_some_iff.mpr ⟨task, found, rfl⟩⟩

theorem mem_names_of_get? {id : String} {ref : TaskRef} (held : registry.get? id = some ref) :
    (id, ref) ∈ registry.names := by
  obtain ⟨front, back, names, _⟩ := List.lookup_eq_some_iff.mp held
  rw [names]
  exact List.mem_append_right front List.mem_cons_self

theorem task?_change_eq_none_iff (ref : TaskRef) (f : Task ω → Task ω) (other : TaskRef) :
    (registry.change ref f).task? other = none ↔ registry.task? other = none := by
  by_cases same : other = ref
  · rw [same, task?_change_self, Option.map_eq_none_iff]
  · unfold change
    cases registry.task? ref with
    | none => exact Iff.rfl
    | some task => rw [registry.task?_replace_of_ne ref task (f task) same]

/-- Of a list of references, those that name no task need no stop. The stops before an entry leave
known which ones do. -/
theorem foldl_stop_known (names : List (String × TaskRef)) (current : Registry ω)
    (same : ∀ ref, current.task? ref = none ↔ registry.task? ref = none) :
    ((names.filterMap fun (_, ref) => (registry.task? ref).map fun task => (ref, task)).map
      Prod.fst).foldl (fun tasks ref => (tasks.stop ref).2) current =
      (names.map Prod.snd).foldl (fun tasks ref => (tasks.stop ref).2) current := by
  induction names generalizing current with
  | nil => rfl
  | cons entry others ih =>
      cases found : registry.task? entry.2 with
      | none =>
          have missing := (same entry.2).mpr found
          have kept : (current.stop entry.2).2 = current := by
            rw [stop_snd, change, missing]
          simp only [List.filterMap_cons, found, Option.map_none, List.map_cons, List.foldl_cons,
            kept]
          exact ih current same
      | some task =>
          simp only [List.filterMap_cons, found, Option.map_some, List.map_cons, List.foldl_cons]
          apply ih
          intro ref
          rw [stop_snd, task?_change_eq_none_iff]
          exact same ref

theorem foldl_stop_registered :
    (registry.registered.map Prod.fst).foldl (fun tasks ref => (tasks.stop ref).2) registry =
      (registry.names.map Prod.snd).foldl (fun tasks ref => (tasks.stop ref).2) registry :=
  registry.foldl_stop_known registry.names registry fun _ => Iff.rfl

/-! A new task. -/

section Create

variable (descriptor : TaskDescriptor) (startedAt : Timestamp)

theorem task?_create_self :
    (registry.create descriptor startedAt).2.task? (registry.create descriptor startedAt).1 =
      some (.new descriptor startedAt) :=
  List.getElem?_concat_length

theorem task?_create_of_ne {ref : TaskRef}
    (distinct : ref ≠ (registry.create descriptor startedAt).1) :
    (registry.create descriptor startedAt).2.task? ref = registry.task? ref := by
  have apart : ref ≠ registry.tasks.length := distinct
  rw [task?, task?, create, List.getElem?_append]
  split
  · rfl
  · rename_i outside
    have beyond := Nat.lt_of_le_of_ne (Nat.not_lt.mp outside) apart.symm
    rw [List.getElem?_eq_none (Nat.le_of_lt beyond)]
    exact List.getElem?_eq_none (Nat.sub_pos_of_lt beyond)

theorem task?_create_fresh :
    registry.task? (registry.create descriptor startedAt).1 = none :=
  List.getElem?_eq_none_iff.mpr (Nat.le_refl _)

end Create

end WasmTasks.Registry
