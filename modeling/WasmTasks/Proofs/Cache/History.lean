import WasmTasks.Proofs.Cache.Live

/-!
Histories of runs. A history lists the steps that were made, the latest first, each with the state it
was made in. What a cache must answer and which key it must give up are read off the history alone.
-/

namespace WasmTasks.Cache

namespace Operation

def put? : Operation → Option CachedModule
  | .put stored => some stored
  | _ => none

def Puts (operation : Operation) (path : Path) : Prop :=
  match operation with
  | .put stored => stored.key.Same path
  | _ => False

/-- An explicit removal of the key, or of all keys. -/
def Withdraws (operation : Operation) (path : Path) : Prop :=
  match operation with
  | .remove removed => removed.Same path
  | .clear => True
  | _ => False

end Operation

structure Step where
  before : Clocked
  operation : Operation

namespace Step

def victims (step : Step) : List Path :=
  match step.operation with
  | .put stored => step.before.cache.displaced step.before.now stored
  | _ => []

/-- The key of a put that was not held. -/
def admitted? (step : Step) : Option Path :=
  match step.operation with
  | .put stored =>
      if (step.before.cache.find? stored.key).isSome then none else some stored.key
  | _ => none

/-- The key of a hit or of a replacing put. -/
def used? (step : Step) : Option Path :=
  match step.operation with
  | .put stored =>
      if (step.before.cache.find? stored.key).isSome then some stored.key else none
  | .get path => if (step.before.cache.get step.before.now path).1.isSome then some path else none
  | _ => none

def admits (step : Step) (path : Path) : Bool :=
  step.admitted?.any fun admitted => admitted.Same path

def uses (step : Step) (path : Path) : Bool :=
  step.used?.any fun used => used.Same path

def Evicts (step : Step) (path : Path) : Prop :=
  ∃ victim ∈ step.victims, victim.Same path

def Brings (step : Step) (entry : Entry) : Prop :=
  step.operation = .put entry.stored ∧ entry.insertedAt = step.before.now

structure Spares (step : Step) (path : Path) : Prop where
  notPut : ¬ step.operation.Puts path
  notWithdrawn : ¬ step.operation.Withdraws path
  notEvicted : ¬ step.Evicts path

variable {state : Clocked} {operation : Operation} {path : Path}

theorem brings_put {stored : CachedModule} {entry : Entry} :
    Brings ⟨state, .put stored⟩ entry ↔ entry = ⟨stored, state.now⟩ := by
  cases entry
  simp [Brings, eq_comm]

theorem spares_put {stored : CachedModule} :
    Spares ⟨state, .put stored⟩ path ↔ ¬ stored.key.Same path ∧
      ∀ victim ∈ state.cache.displaced state.now stored, ¬ victim.Same path := by
  constructor
  · rintro ⟨notPut, _, notEvicted⟩
    exact ⟨notPut, fun victim member same => notEvicted ⟨victim, member, same⟩⟩
  · rintro ⟨notPut, notEvicted⟩
    exact ⟨notPut, id, fun ⟨victim, member, same⟩ => notEvicted victim member same⟩

theorem spares_of_not_put (notPut : operation.put? = none) :
    Spares ⟨state, operation⟩ path ↔ ¬ operation.Withdraws path := by
  constructor
  · exact Spares.notWithdrawn
  · intro notWithdrawn
    cases operation with
    | put stored => cases notPut
    | _ => exact ⟨id, notWithdrawn, nofun⟩

theorem not_brings_of_not_put (notPut : operation.put? = none) {entry : Entry} :
    ¬ Brings ⟨state, operation⟩ entry := by
  rintro ⟨isPut, _⟩
  cases isPut
  cases notPut

/-- Only a put brings anything in, and only a put has victims. -/
theorem brings_or_spares_of_not_put (notPut : operation.put? = none) {entry : Entry} {known : Prop} :
    (Brings ⟨state, operation⟩ entry ∨ known ∧ Spares ⟨state, operation⟩ path) ↔
      known ∧ ¬ operation.Withdraws path := by
  rw [or_iff_right (not_brings_of_not_put notPut), spares_of_not_put notPut]

end Step

namespace History

/-- The entry was made by the latest put of its key, which no step since then has taken out. -/
def Stored (past : List Step) (entry : Entry) : Prop :=
  ∃ since step earlier, past = since ++ step :: earlier ∧ step.Brings entry ∧
    ∀ later ∈ since, later.Spares entry.stored.key

def sinceAdmission (past : List Step) (path : Path) : List Step :=
  past.takeWhile fun step => !step.admits path

/-- Hits and replacing puts of the key since its latest admission. -/
def accesses (past : List Step) (path : Path) : Nat :=
  (sinceAdmission past path).countP fun step => step.uses path

/-- The steps since the latest admission of the key. -/
def age (past : List Step) (path : Path) : Nat :=
  (sinceAdmission past path).length

/-- The steps since the latest put or hit of the key. -/
def idle (past : List Step) (path : Path) : Nat :=
  (past.takeWhile fun step => !(step.admits path || step.uses path)).length

end History

namespace Clocked

def live (state : Clocked) : List Entry :=
  state.cache.live state.now

def steps (state : Clocked) : List Operation → List Step
  | [] => []
  | operation :: later => ⟨state, operation⟩ :: (state.apply operation).steps later

def past (state : Clocked) (operations : List Operation) : List Step :=
  (state.steps operations).reverse

variable {state : Clocked} {entry : Entry}

@[simp] theorem past_nil (state : Clocked) : state.past [] = [] := rfl

@[simp] theorem run_concat (state : Clocked) (operations : List Operation) (last : Operation) :
    state.run (operations ++ [last]) = (state.run operations).apply last := by
  simp [run]

theorem steps_concat (state : Clocked) (operations : List Operation) (last : Operation) :
    state.steps (operations ++ [last]) =
      state.steps operations ++ [⟨state.run operations, last⟩] := by
  induction operations generalizing state with
  | nil => rfl
  | cons operation later ih =>
      rw [List.cons_append, steps, ih, steps]
      rfl

@[simp] theorem past_concat (state : Clocked) (operations : List Operation) (last : Operation) :
    state.past (operations ++ [last]) =
      ⟨state.run operations, last⟩ :: state.past operations := by
  simp [past, steps_concat]

/-! What one step does, whatever the operation. -/

theorem lifetime_apply (coherent : state.cache.Coherent) (operation : Operation) :
    (state.apply operation).cache.lifetime = state.cache.lifetime := by
  cases operation with
  | put stored => exact coherent.lifetime_put state.now stored
  | get path => exact state.cache.lifetime_get state.now path
  | remove path =>
      simp only [apply, ModuleCache.remove]
      split <;> rfl
  | contains path => rfl
  | clear => rfl
  | advance milliseconds => rfl
  | reorder order => rfl

theorem now_le_apply (state : Clocked) (operation : Operation) :
    state.now ≤ (state.apply operation).now := by
  cases operation with
  | advance milliseconds => exact Nat.le_add_right _ _
  | _ => exact Nat.le_refl _

/-- A live entry is brought in by the step or was live before it, and lives on. -/
theorem mem_live_apply (coherent : state.cache.Coherent) (operation : Operation) :
    entry ∈ (state.apply operation).live ↔
      (Step.Brings ⟨state, operation⟩ entry ∨
        entry ∈ state.live ∧ Step.Spares ⟨state, operation⟩ entry.stored.key) ∧
      state.cache.isExpired (state.apply operation).now entry = false := by
  cases operation with
  | put stored =>
      rw [Step.brings_put, Step.spares_put]
      exact coherent.mem_live_put
  | get path =>
      rw [Step.brings_or_spares_of_not_put rfl]
      simpa [apply, live, Operation.Withdraws] using coherent.mem_live_get
  | remove path =>
      rw [Step.brings_or_spares_of_not_put rfl]
      simp only [apply, live, Operation.Withdraws]
      rw [ModuleCache.mem_live_remove, ModuleCache.mem_live]
      tauto
  | contains path =>
      rw [Step.brings_or_spares_of_not_put rfl]
      simp [apply, live, Operation.Withdraws]
  | clear =>
      rw [Step.brings_or_spares_of_not_put rfl]
      simp [apply, live, ModuleCache.clear, Operation.Withdraws]
  | advance milliseconds =>
      rw [Step.brings_or_spares_of_not_put rfl]
      simp only [apply, live, ModuleCache.mem_live, Operation.Withdraws, not_false_iff, and_true]
      constructor
      · rintro ⟨member, fresh⟩
        exact ⟨⟨member, ModuleCache.isExpired_of_le (Nat.le_add_right _ _) fresh⟩, fresh⟩
      · rintro ⟨⟨member, _⟩, fresh⟩
        exact ⟨member, fresh⟩
  | reorder order =>
      rw [Step.brings_or_spares_of_not_put rfl]
      have untouched : (state.apply (.reorder order)).live = state.live := rfl
      rw [untouched]
      simp [apply, live, Operation.Withdraws]

end Clocked

end WasmTasks.Cache
