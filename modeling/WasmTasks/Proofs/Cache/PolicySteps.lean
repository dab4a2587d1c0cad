import WasmTasks.Proofs.Cache.History

/-!
What a step of a cache does to its policy: after keys may have left, at most one key is used or
added, and the history says which.
-/

namespace WasmTasks

namespace Cache

namespace Policy

/-- Keys leave, by removal or as victims. -/
inductive Shrinks (policy : Policy) : Policy → Prop where
  | refl : Shrinks policy policy
  | remove {current : Policy} (path : Path) (before : Shrinks policy current) :
      Shrinks policy (current.remove path)
  | evict {current rest : Policy} {victim : Path} (before : Shrinks policy current)
      (chosen : current.evict? = some (victim, rest)) : Shrinks policy rest
  | reorder {current : Policy} (order : List Path) (before : Shrinks policy current) :
      Shrinks policy (current.reorder order)

variable {policy shrunk : Policy}

@[simp] theorem kind_add (policy : Policy) (path : Path) : (policy.add path).kind = policy.kind := by
  cases policy <;> rfl

@[simp] theorem kind_touch (policy : Policy) (path : Path) :
    (policy.touch path).kind = policy.kind := by
  cases policy <;> rfl

@[simp] theorem kind_remove (policy : Policy) (path : Path) :
    (policy.remove path).kind = policy.kind := by
  cases policy <;> rfl

@[simp] theorem kind_reorder (policy : Policy) (order : List Path) :
    (policy.reorder order).kind = policy.kind := by
  cases policy with
  | simple policy =>
      rw [reorder]
      split <;> rfl
  | _ => rfl

theorem kind_of_evict? {rest : Policy} {victim : Path}
    (chosen : policy.evict? = some (victim, rest)) : rest.kind = policy.kind := by
  cases policy <;> simp only [evict?, Option.map_eq_some_iff] at chosen <;>
    obtain ⟨_, _, same⟩ := chosen <;> cases same <;> rfl

theorem Shrinks.kind (shrinks : policy.Shrinks shrunk) : shrunk.kind = policy.kind := by
  induction shrinks with
  | refl => rfl
  | remove path _ ih => rw [kind_remove, ih]
  | evict _ chosen ih => rw [kind_of_evict? chosen, ih]
  | reorder order _ ih => rw [kind_reorder, ih]

end Policy

namespace Step

/-- What the step does to the policy it finds. -/
inductive Moves (step : Step) (policy : Policy) : Policy → Prop where
  | rests {next : Policy} (noneAdmitted : step.admitted? = none) (noneUsed : step.used? = none)
      (shrinks : policy.Shrinks next) : Moves step policy next
  | uses {path : Path} (noneAdmitted : step.admitted? = none) (used : step.used? = some path) :
      Moves step policy (policy.touch path)
  | admits {path : Path} {shrunk : Policy} (admitted : step.admitted? = some path)
      (noneUsed : step.used? = none) (shrinks : policy.Shrinks shrunk)
      (new : path.key ∉ shrunk.keys) : Moves step policy (shrunk.add path)

end Step

end Cache

namespace ModuleCache

open Cache

variable {cache : ModuleCache}

theorem reclaim_shrinks (cache : ModuleCache) (now : Nat) :
    cache.policy.Shrinks (cache.reclaim now).policy := by
  unfold reclaim
  split
  · exact purge_induction (motive := fun current => cache.policy.Shrinks current.policy) now .refl
      fun current path before => before.remove path
  · exact .refl

theorem clear_shrinks (cache : ModuleCache) : cache.policy.Shrinks cache.clear.policy := by
  have each (entries : List Entry) (current : Policy) (before : cache.policy.Shrinks current) :
      cache.policy.Shrinks
        (entries.foldl (fun policy entry => policy.remove entry.stored.key) current) := by
    induction entries generalizing current with
    | nil => exact before
    | cons entry others ih => exact ih _ (before.remove entry.stored.key)
  exact each cache.entries cache.policy .refl

/-- The policy a new key is added to. -/
theorem Coherent.makeRoom_shrinks (coherent : cache.Coherent) (now : Nat) :
    cache.policy.Shrinks (cache.reclaim now).makeRoom.policy := by
  obtain ⟨_, same, _⟩ | ⟨victim, policy, overflows, _, same⟩ := coherent.room_or_overflow now
  · rw [same]
    exact cache.reclaim_shrinks now
  · rw [same, policy_evict]
    exact .evict .refl overflows.chosen

theorem Coherent.notMem_makeRoom (coherent : cache.Coherent) {path : Path}
    (new : path.key ∉ cache.keys) (now : Nat) :
    path.key ∉ (cache.reclaim now).makeRoom.policy.keys := by
  have reclaimed := coherent.reclaim now
  rw [reclaimed.makeRoom.1.mem_policy_iff]
  intro member
  exact new (cache.keys_reclaim_subset now (reclaimed.keys_makeRoom_subset member))

end ModuleCache

namespace Cache.Clocked

open ModuleCache

variable {state : Clocked}

theorem moves_put (coherent : state.cache.Coherent) (stored : CachedModule) :
    Step.Moves ⟨state, .put stored⟩ state.cache.policy (state.apply (.put stored)).cache.policy := by
  simp only [apply]
  by_cases held : stored.key.key ∈ state.cache.keys
  · have found := (state.cache.isSome_find?_iff stored.key).mpr held
    rw [put_of_held held]
    exact .uses (by simp [Step.admitted?, found]) (by simp [Step.used?, found])
  · have absent := (state.cache.find?_eq_none_iff stored.key).mpr held
    rw [put_of_new held]
    exact .admits (by simp [Step.admitted?, absent]) (by simp [Step.used?, absent])
      (coherent.makeRoom_shrinks state.now) (coherent.notMem_makeRoom held state.now)

theorem moves_get (state : Clocked) (path : Path) :
    Step.Moves ⟨state, .get path⟩ state.cache.policy (state.apply (.get path)).cache.policy := by
  simp only [apply]
  obtain ⟨_, same⟩ | ⟨_, _, _, same⟩ | ⟨_, _, _, same⟩ := state.cache.get_cases state.now path
  · rw [same]
    exact .rests rfl (by simp [Step.used?, same]) .refl
  · rw [same]
    exact .rests rfl (by simp [Step.used?, same]) (.remove path .refl)
  · rw [same]
    exact .uses rfl (by simp [Step.used?, same])

theorem moves_apply (coherent : state.cache.Coherent) (operation : Operation) :
    Step.Moves ⟨state, operation⟩ state.cache.policy (state.apply operation).cache.policy := by
  cases operation with
  | put stored => exact moves_put coherent stored
  | get path => exact moves_get state path
  | remove path =>
      simp only [apply, ModuleCache.remove]
      split
      · exact .rests rfl rfl .refl
      · exact .rests rfl rfl (.remove path .refl)
  | contains path => exact .rests rfl rfl .refl
  | clear => exact .rests rfl rfl state.cache.clear_shrinks
  | advance milliseconds => exact .rests rfl rfl .refl
  | reorder order => exact .rests rfl rfl (.reorder order .refl)

theorem kind_apply (coherent : state.cache.Coherent) (operation : Operation) :
    (state.apply operation).cache.policy.kind = state.cache.policy.kind := by
  generalize moved : (state.apply operation).cache.policy = next
  have moves := moves_apply coherent operation
  rw [moved] at moves
  cases moves with
  | rests _ _ shrinks => exact shrinks.kind
  | uses _ _ => exact Policy.kind_touch _ _
  | admits _ _ shrinks _ => rw [Policy.kind_add, shrinks.kind]

theorem kind_run (coherent : state.cache.Coherent) (operations : List Operation) :
    (state.run operations).cache.policy.kind = state.cache.policy.kind := by
  induction operations using List.reverseRecOn with
  | nil => rfl
  | append_singleton earlier operation ih =>
      rw [run_concat, kind_apply (run_coherent earlier state coherent).1, ih]

end Cache.Clocked

end WasmTasks
