import Mathlib
import WasmTasks.Proofs.Cache.PolicyKeys
import WasmTasks.Proofs.Cache.Run

/-!
The entries of a cache and the keys its policy tracks stay in step through every operation. Hence a
full cache always has a victim, the victim is held, and one eviction makes room.
-/

namespace WasmTasks

namespace ModuleCache

open Cache

/-- The paths of the entries, expired or not. -/
def held (cache : ModuleCache) : List Path :=
  cache.entries.map fun entry => entry.stored.key

def keys (cache : ModuleCache) : List (List Component) :=
  Path.keys cache.held

/-- The policy tracks the held keys and no others, every key is held once, and there is room for
all of them. -/
structure Coherent (cache : ModuleCache) : Prop where
  agree : cache.keys.Perm cache.policy.keys
  nodup : cache.keys.Nodup
  bounded : cache.entries.length ≤ cache.capacity
  positive : 0 < cache.capacity

/-- What `put` makes room in: a full cache without its expired entries. -/
def reclaim (cache : ModuleCache) (now : Nat) : ModuleCache :=
  if cache.capacity ≤ cache.entries.length then cache.purge now else cache

/-- The rounds of `makeRoom`, each of which takes out a victim that is held. No rule lets them end
because the policy has no victim. -/
inductive EvictionRounds : ModuleCache → List Path → ModuleCache → Prop where
  | done {cache : ModuleCache} (fits : cache.entries.length < cache.capacity) :
      EvictionRounds cache [] cache
  | evict {cache last : ModuleCache} {victim : Path} {policy : Policy} {victims : List Path}
      (full : cache.capacity ≤ cache.entries.length)
      (chosen : cache.policy.evict? = some (victim, policy))
      (held : (cache.find? victim).isSome = true)
      (later : EvictionRounds (cache.evict victim policy) victims last) :
      EvictionRounds cache (victim :: victims) last

variable {cache : ModuleCache}

theorem length_keys (cache : ModuleCache) : cache.keys.length = cache.entries.length := by
  simp [keys, Path.keys, held]

theorem mem_keys (cache : ModuleCache) (path : Path) :
    path.key ∈ cache.keys ↔ ∃ entry ∈ cache.entries, entry.stored.key.Same path := by
  simp [keys, held, Path.keys, Path.Same]

theorem isSome_find?_iff (cache : ModuleCache) (path : Path) :
    (cache.find? path).isSome = true ↔ path.key ∈ cache.keys := by
  rw [mem_keys]
  simp [find?]

theorem find?_eq_none_iff (cache : ModuleCache) (path : Path) :
    cache.find? path = none ↔ path.key ∉ cache.keys := by
  rw [← isSome_find?_iff, Option.not_isSome_iff_eq_none]

theorem keys_without (nodup : cache.keys.Nodup) (path : Path) :
    Path.keys ((cache.without path).map fun entry => entry.stored.key) =
      cache.keys.erase path.key := by
  rw [keys, ← Path.keys_filter_not_same nodup, held, List.filter_map]
  rfl

theorem length_without_le (cache : ModuleCache) (path : Path) :
    (cache.without path).length ≤ cache.entries.length :=
  List.length_filter_le _ _

/-! What the steps of `put` leave alone. -/

@[simp] theorem capacity_evict (cache : ModuleCache) (victim : Path) (policy : Policy) :
    (cache.evict victim policy).capacity = cache.capacity := by
  unfold evict
  split <;> rfl

theorem keys_evict_subset (cache : ModuleCache) (victim : Path) (policy : Policy) :
    (cache.evict victim policy).keys ⊆ cache.keys := by
  unfold evict
  split
  · exact List.map_subset _ (List.map_subset _ List.filter_sublist.subset)
  · exact List.Subset.refl _

theorem purge_induction {motive : ModuleCache → Prop} (now : Nat) (start : motive cache)
    (step : ∀ current path, motive current → motive (current.expire path)) :
    motive (cache.purge now) := by
  unfold purge
  generalize cache.entries.filter (cache.isExpired now) = expired
  induction expired generalizing cache with
  | nil => exact start
  | cons entry others ih => exact ih (step cache entry.stored.key start)

@[simp] theorem capacity_reclaim (cache : ModuleCache) (now : Nat) :
    (cache.reclaim now).capacity = cache.capacity := by
  unfold reclaim
  split
  · exact purge_induction (motive := fun current => current.capacity = cache.capacity) now rfl
      fun _ _ same => same
  · rfl

theorem evictions_reclaim (cache : ModuleCache) (now : Nat) :
    (cache.reclaim now).counters.evictions = cache.counters.evictions := by
  unfold reclaim
  split
  · exact purge_induction
      (motive := fun current => current.counters.evictions = cache.counters.evictions) now rfl
      fun _ _ same => same
  · rfl

theorem keys_reclaim_subset (cache : ModuleCache) (now : Nat) :
    (cache.reclaim now).keys ⊆ cache.keys := by
  unfold reclaim
  split
  · refine purge_induction (motive := fun current => current.keys ⊆ cache.keys) now
      (List.Subset.refl _) ?_
    intro current path subset
    exact List.Subset.trans (List.map_subset _ (List.map_subset _ List.filter_sublist.subset)) subset
  · exact List.Subset.refl _

theorem new_eq_ok {capacity : Nat} {kind : EvictionKind} {lifetime : Option Nat}
    {allocator : Allocator}
    (made : ModuleCache.new allocator capacity kind lifetime = .ok cache) :
    0 < capacity ∧ lifetime ≠ some 0 ∧
      cache = ⟨capacity, lifetime, .empty kind capacity, [], .zero⟩ := by
  unfold new at made
  split at made
  · cases made
  · rename_i positive
    split at made
    · cases made
    · rename_i endures
      split at made
      · cases made
        exact ⟨Nat.pos_of_ne_zero positive, endures, rfl⟩
      · cases made

theorem makeRoom_of_fits (fits : cache.entries.length < cache.capacity) :
    cache.makeRoom = cache := by
  rw [makeRoom, if_pos fits]

theorem makeRoom_of_chosen (full : cache.capacity ≤ cache.entries.length) {victim : Path}
    {policy : Policy} (chosen : cache.policy.evict? = some (victim, policy)) :
    cache.makeRoom = (cache.evict victim policy).makeRoom := by
  rw [makeRoom, if_neg (Nat.not_lt.mpr full)]
  split
  · rename_i stuck
    rw [chosen] at stuck
    cases stuck
  · rename_i other rest found
    rw [chosen] at found
    cases found
    rfl

theorem capacity_get (cache : ModuleCache) (now : Nat) (path : Path) :
    (cache.get now path).2.capacity = cache.capacity := by
  unfold get
  split
  · rfl
  · split <;> rfl

theorem capacity_remove (cache : ModuleCache) (path : Path) :
    (cache.remove path).2.capacity = cache.capacity := by
  unfold remove
  split <;> rfl

theorem put_of_held {stored : CachedModule} (held : stored.key.key ∈ cache.keys) (now : Nat) :
    cache.put now stored = cache.replace now stored := by
  rw [put, if_pos ((cache.isSome_find?_iff stored.key).mpr held)]

theorem put_of_new {stored : CachedModule} (new : stored.key.key ∉ cache.keys) (now : Nat) :
    cache.put now stored = (cache.reclaim now).makeRoom.insert now stored := by
  rw [put, if_neg]
  · rfl
  · rwa [isSome_find?_iff]

theorem keys_insert (cache : ModuleCache) (now : Nat) (stored : CachedModule) :
    (cache.insert now stored).keys = cache.keys ++ [stored.key.key] := by
  simp [insert, keys, held, Path.keys]

theorem keys_replace (cache : ModuleCache) (now : Nat) (stored : CachedModule) :
    (cache.replace now stored).keys = cache.keys := by
  simp only [replace, keys, held, Path.keys, List.map_map]
  apply List.map_congr_left
  intro entry _
  simp only [Function.comp_apply]
  split
  · rename_i same
    exact same.symm
  · rfl

theorem keys_foldl_remove (entries : List Entry) :
    ∀ policy : Policy, policy.keys.Nodup →
      (∀ key ∈ policy.keys, key ∈ Path.keys (entries.map fun entry => entry.stored.key)) →
      (entries.foldl (fun policy entry => policy.remove entry.stored.key) policy).keys = [] := by
  induction entries with
  | nil =>
      intro policy _ covered
      exact List.eq_nil_iff_forall_not_mem.mpr fun key member => by simpa [Path.keys] using covered key member
  | cons entry others ih =>
      intro policy nodup covered
      have removed := Policy.keys_remove nodup entry.stored.key
      apply ih (policy.remove entry.stored.key)
      · rw [removed]
        exact nodup.erase _
      · intro key member
        rw [removed, nodup.mem_erase_iff] at member
        have found := covered key member.2
        simp only [Path.keys, List.map_cons, List.mem_cons] at found
        exact found.resolve_left member.1

/-! One step at a time. -/

namespace Coherent

theorem policy_nodup (coherent : cache.Coherent) : cache.policy.keys.Nodup :=
  coherent.agree.nodup_iff.mp coherent.nodup

theorem mem_policy_iff (coherent : cache.Coherent) (key : List Component) :
    key ∈ cache.policy.keys ↔ key ∈ cache.keys :=
  coherent.agree.mem_iff.symm

theorem recount (coherent : cache.Coherent) (counters : Counters) :
    Coherent { cache with counters := counters } :=
  ⟨coherent.agree, coherent.nodup, coherent.bounded, coherent.positive⟩

theorem withdraw (coherent : cache.Coherent) (path : Path) :
    Coherent { cache with
      entries := cache.without path
      policy := cache.policy.remove path } where
  agree := by
    rw [keys, held, keys_without coherent.nodup, Policy.keys_remove coherent.policy_nodup]
    exact coherent.agree.erase path.key
  nodup := by
    rw [keys, held, keys_without coherent.nodup]
    exact coherent.nodup.erase path.key
  bounded := Nat.le_trans (cache.length_without_le path) coherent.bounded
  positive := coherent.positive

theorem touch (coherent : cache.Coherent) {path : Path} (held : path.key ∈ cache.keys) :
    Coherent { cache with policy := cache.policy.touch path } where
  agree := by
    have tracked : path.key ∈ cache.policy.keys := (coherent.mem_policy_iff _).mpr held
    exact coherent.agree.trans (Policy.keys_touch_perm coherent.policy_nodup tracked).symm
  nodup := coherent.nodup
  bounded := coherent.bounded
  positive := coherent.positive

theorem expire (coherent : cache.Coherent) (path : Path) : (cache.expire path).Coherent :=
  (coherent.withdraw path).recount _

theorem get (coherent : cache.Coherent) (now : Nat) (path : Path) :
    (cache.get now path).2.Coherent := by
  unfold ModuleCache.get
  cases lookup : cache.find? path with
  | none => exact coherent.recount _
  | some entry =>
      have held : path.key ∈ cache.keys := by
        rw [← isSome_find?_iff, lookup]
        rfl
      dsimp only
      split
      · exact (coherent.expire path).recount _
      · exact (coherent.touch held).recount _

theorem remove (coherent : cache.Coherent) (path : Path) : (cache.remove path).2.Coherent := by
  unfold ModuleCache.remove
  cases cache.find? path with
  | none => exact coherent
  | some entry => exact coherent.withdraw path

theorem purge (coherent : cache.Coherent) (now : Nat) : (cache.purge now).Coherent :=
  purge_induction now coherent fun _ path current => current.expire path

theorem reclaim (coherent : cache.Coherent) (now : Nat) : (cache.reclaim now).Coherent := by
  unfold ModuleCache.reclaim
  split
  · exact coherent.purge now
  · exact coherent

theorem exists_victim (coherent : cache.Coherent)
    (full : cache.capacity ≤ cache.entries.length) :
    ∃ victim policy, cache.policy.evict? = some (victim, policy) ∧
      (cache.find? victim).isSome = true := by
  have nonempty : cache.policy.keys ≠ [] := by
    intro empty
    have lengths := coherent.agree.length_eq
    rw [empty, length_keys, List.length_nil] at lengths
    have := coherent.positive
    omega
  cases chosen : cache.policy.evict? with
  | none => exact absurd ((Policy.evict?_eq_none_iff _).mp chosen) nonempty
  | some choice =>
      obtain ⟨victim, policy⟩ := choice
      have tracked : victim.key ∈ cache.policy.keys :=
        (Policy.keys_evict?_perm coherent.policy_nodup chosen).mem_iff.mpr List.mem_cons_self
      exact ⟨victim, policy, rfl,
        (cache.isSome_find?_iff victim).mpr ((coherent.mem_policy_iff _).mp tracked)⟩

theorem evict (coherent : cache.Coherent) {victim : Path} {policy : Policy}
    (chosen : cache.policy.evict? = some (victim, policy)) :
    (cache.evict victim policy).Coherent ∧
      (cache.evict victim policy).entries.length + 1 = cache.entries.length := by
  have tracked := Policy.keys_evict?_perm coherent.policy_nodup chosen
  have member : victim.key ∈ cache.keys :=
    coherent.agree.mem_iff.mpr (tracked.mem_iff.mpr List.mem_cons_self)
  have remaining : (cache.keys.erase victim.key).Perm policy.keys := by
    have both := (coherent.agree.trans tracked).erase victim.key
    rwa [List.erase_cons_head] at both
  have kept := keys_without coherent.nodup victim
  unfold ModuleCache.evict
  rw [if_pos ((cache.isSome_find?_iff victim).mpr member)]
  refine ⟨⟨?_, ?_, ?_, coherent.positive⟩, ?_⟩
  · rwa [keys, held, kept]
  · rw [keys, held, kept]
    exact coherent.nodup.erase victim.key
  · exact Nat.le_trans (cache.length_without_le victim) coherent.bounded
  · have lengths := congrArg List.length kept
    rw [List.length_erase_of_mem member, length_keys] at lengths
    have positive := List.length_pos_of_mem member
    rw [length_keys] at positive
    simp only [Path.keys, List.length_map] at lengths
    dsimp only
    omega

/-- Either there is room, or one eviction makes it. -/
theorem makeRoom_cases (coherent : cache.Coherent) :
    (cache.entries.length < cache.capacity ∧ cache.makeRoom = cache) ∨
      ∃ victim policy, cache.capacity ≤ cache.entries.length ∧
        cache.policy.evict? = some (victim, policy) ∧ (cache.find? victim).isSome = true ∧
        (cache.evict victim policy).entries.length < cache.capacity ∧
        cache.makeRoom = cache.evict victim policy := by
  by_cases fits : cache.entries.length < cache.capacity
  · exact .inl ⟨fits, makeRoom_of_fits fits⟩
  · have full : cache.capacity ≤ cache.entries.length := Nat.not_lt.mp fits
    obtain ⟨victim, policy, chosen, held⟩ := coherent.exists_victim full
    have shorter := (coherent.evict chosen).2
    have bounded := coherent.bounded
    have room : (cache.evict victim policy).entries.length < cache.capacity := by omega
    refine .inr ⟨victim, policy, full, chosen, held, room, ?_⟩
    rw [makeRoom_of_chosen full chosen]
    exact makeRoom_of_fits (by rwa [capacity_evict])

theorem makeRoom (coherent : cache.Coherent) :
    cache.makeRoom.Coherent ∧ cache.makeRoom.entries.length < cache.makeRoom.capacity := by
  obtain ⟨fits, same⟩ | ⟨victim, policy, _, chosen, _, room, same⟩ := coherent.makeRoom_cases
  · rw [same]
    exact ⟨coherent, fits⟩
  · rw [same, capacity_evict]
    exact ⟨(coherent.evict chosen).1, room⟩

theorem capacity_makeRoom (coherent : cache.Coherent) :
    cache.makeRoom.capacity = cache.capacity := by
  obtain ⟨_, same⟩ | ⟨victim, policy, _, _, _, _, same⟩ := coherent.makeRoom_cases
  · rw [same]
  · rw [same, capacity_evict]

theorem keys_makeRoom_subset (coherent : cache.Coherent) : cache.makeRoom.keys ⊆ cache.keys := by
  obtain ⟨_, same⟩ | ⟨victim, policy, _, _, _, _, same⟩ := coherent.makeRoom_cases
  · rw [same]
    exact List.Subset.refl _
  · rw [same]
    exact cache.keys_evict_subset victim policy

theorem evictionRounds (coherent : cache.Coherent) :
    ∃ victims, EvictionRounds cache victims cache.makeRoom ∧ victims.length ≤ 1 ∧
      cache.makeRoom.counters.evictions = cache.counters.evictions + victims.length := by
  obtain ⟨fits, same⟩ | ⟨victim, policy, full, chosen, held, room, same⟩ :=
    coherent.makeRoom_cases
  · rw [same]
    exact ⟨[], .done fits, Nat.zero_le 1, rfl⟩
  · rw [same]
    refine ⟨[victim], .evict full chosen held (.done ?_), Nat.le_refl 1, ?_⟩
    · rwa [capacity_evict]
    · rw [ModuleCache.evict, if_pos held]
      rfl

theorem insert (coherent : cache.Coherent) {stored : CachedModule}
    (new : stored.key.key ∉ cache.keys) (room : cache.entries.length < cache.capacity)
    (now : Nat) : (cache.insert now stored).Coherent where
  agree := by
    rw [keys_insert]
    have untracked : stored.key.key ∉ cache.policy.keys := by
      rwa [coherent.mem_policy_iff]
    calc
      List.Perm (cache.keys ++ [stored.key.key]) (stored.key.key :: cache.keys) :=
        List.perm_append_singleton _ _
      List.Perm _ (stored.key.key :: cache.policy.keys) := coherent.agree.cons _
      List.Perm _ (cache.policy.add stored.key).keys :=
        (Policy.keys_add_perm coherent.policy_nodup untracked).symm
  nodup := by
    rw [keys_insert, (List.perm_append_singleton _ _).nodup_iff, List.nodup_cons]
    exact ⟨new, coherent.nodup⟩
  bounded := by
    simp only [ModuleCache.insert, List.length_append, List.length_singleton]
    omega
  positive := coherent.positive

theorem replace (coherent : cache.Coherent) {stored : CachedModule}
    (held : stored.key.key ∈ cache.keys) (now : Nat) : (cache.replace now stored).Coherent where
  agree := by
    rw [keys_replace]
    exact (coherent.touch held).agree
  nodup := by
    rw [keys_replace]
    exact coherent.nodup
  bounded := by
    rw [ModuleCache.replace, List.length_map]
    exact coherent.bounded
  positive := coherent.positive

theorem put (coherent : cache.Coherent) (now : Nat) (stored : CachedModule) :
    (cache.put now stored).Coherent := by
  by_cases held : stored.key.key ∈ cache.keys
  · rw [put_of_held held]
    exact coherent.replace held now
  · rw [put_of_new held]
    have reclaimed := coherent.reclaim now
    apply reclaimed.makeRoom.1.insert _ reclaimed.makeRoom.2
    intro member
    exact held (cache.keys_reclaim_subset now (reclaimed.keys_makeRoom_subset member))

theorem capacity_put (coherent : cache.Coherent) (now : Nat) (stored : CachedModule) :
    (cache.put now stored).capacity = cache.capacity := by
  by_cases held : stored.key.key ∈ cache.keys
  · rw [put_of_held held]
    rfl
  · rw [put_of_new held]
    exact (coherent.reclaim now).capacity_makeRoom.trans (cache.capacity_reclaim now)

theorem evictions_put_le (coherent : cache.Coherent) (now : Nat) (stored : CachedModule) :
    (cache.put now stored).counters.evictions ≤ cache.counters.evictions + 1 := by
  by_cases held : stored.key.key ∈ cache.keys
  · rw [put_of_held held]
    exact Nat.le_succ _
  · obtain ⟨victims, _, few, counted⟩ := (coherent.reclaim now).evictionRounds
    rw [put_of_new held]
    calc
      (cache.reclaim now).makeRoom.counters.evictions =
          (cache.reclaim now).counters.evictions + victims.length := counted
      _ ≤ cache.counters.evictions + 1 := by
        rw [evictions_reclaim]
        exact Nat.add_le_add_left few _

theorem clear (coherent : cache.Coherent) : cache.clear.Coherent := by
  have emptied : cache.clear.policy.keys = [] := by
    apply keys_foldl_remove cache.entries cache.policy coherent.policy_nodup
    intro key member
    exact (coherent.mem_policy_iff key).mp member
  refine ⟨?_, List.nodup_nil, Nat.zero_le _, coherent.positive⟩
  rw [emptied]
  exact .refl _

theorem reorder (coherent : cache.Coherent) (order : List Path) :
    Coherent { cache with policy := cache.policy.reorder order } where
  agree := coherent.agree.trans (cache.policy.keys_reorder_perm order).symm
  nodup := coherent.nodup
  bounded := coherent.bounded
  positive := coherent.positive

theorem of_new {capacity : Nat} {kind : EvictionKind} {lifetime : Option Nat}
    {allocator : Allocator}
    (made : ModuleCache.new allocator capacity kind lifetime = .ok cache) :
    cache.Coherent ∧ cache.capacity = capacity := by
  obtain ⟨positive, _, rfl⟩ := new_eq_ok made
  refine ⟨⟨?_, List.nodup_nil, Nat.zero_le _, positive⟩, rfl⟩
  rw [Policy.keys_empty]
  exact .refl _

end Coherent

end ModuleCache

namespace Cache.Clocked

open ModuleCache

theorem apply_coherent {state : Clocked} (coherent : state.cache.Coherent)
    (operation : Operation) :
    (state.apply operation).cache.Coherent ∧
      (state.apply operation).cache.capacity = state.cache.capacity := by
  cases operation with
  | put stored => exact ⟨coherent.put state.now stored, coherent.capacity_put state.now stored⟩
  | get path => exact ⟨coherent.get state.now path, state.cache.capacity_get state.now path⟩
  | remove path => exact ⟨coherent.remove path, state.cache.capacity_remove path⟩
  | contains path => exact ⟨coherent, rfl⟩
  | clear => exact ⟨coherent.clear, rfl⟩
  | advance milliseconds => exact ⟨coherent, rfl⟩
  | reorder order => exact ⟨coherent.reorder order, rfl⟩

theorem run_coherent (operations : List Operation) :
    ∀ state : Clocked, state.cache.Coherent →
      (state.run operations).cache.Coherent ∧
        (state.run operations).cache.capacity = state.cache.capacity := by
  induction operations with
  | nil =>
      intro state coherent
      exact ⟨coherent, rfl⟩
  | cons operation later ih =>
      intro state coherent
      obtain ⟨kept, capacity⟩ := apply_coherent coherent operation
      obtain ⟨last, same⟩ := ih _ kept
      exact ⟨last, same.trans capacity⟩

/-- In every run from a new cache the policy tracks exactly the held keys, each once, and the
entries never exceed the capacity. A put evicts at most once; making room for a new key takes at
most one round, and its victim is held. -/
theorem run_policy_tracks_entries {capacity : Nat} {kind : EvictionKind} {lifetime : Option Nat}
    {fresh : ModuleCache} {allocator : Allocator}
    (made : ModuleCache.new allocator capacity kind lifetime = .ok fresh)
    (start : Nat) (operations : List Operation) :
    let reached := (Clocked.mk fresh start).run operations
    (∀ path : Path,
        (∃ entry ∈ reached.cache.entries, entry.stored.key.Same path) ↔
          ∃ tracked ∈ reached.cache.policy.tracked, tracked.Same path) ∧
      reached.cache.policy.tracked.Pairwise (fun first second => ¬ first.Same second) ∧
      reached.cache.entries.length ≤ capacity ∧
      (∀ stored : CachedModule, (reached.cache.put reached.now stored).counters.evictions ≤
        reached.cache.counters.evictions + 1) ∧
      ∀ stored : CachedModule, reached.cache.find? stored.key = none →
        let roomy := (reached.cache.reclaim reached.now).makeRoom
        reached.cache.put reached.now stored = roomy.insert reached.now stored ∧
          ∃ victims, EvictionRounds (reached.cache.reclaim reached.now) victims roomy ∧
            victims.length ≤ 1 ∧
            roomy.counters.evictions = reached.cache.counters.evictions + victims.length := by
  intro reached
  obtain ⟨freshCoherent, freshCapacity⟩ := Coherent.of_new made
  obtain ⟨coherent, sameCapacity⟩ :=
    run_coherent operations ⟨fresh, start⟩ freshCoherent
  refine ⟨?_, ?_, ?_, coherent.evictions_put_le reached.now, ?_⟩
  · intro path
    rw [← ModuleCache.mem_keys, ← Path.mem_keys]
    exact (coherent.mem_policy_iff path.key).symm
  · exact List.pairwise_map.mp coherent.policy_nodup
  · rw [← freshCapacity, ← sameCapacity]
    exact coherent.bounded
  · intro stored absent
    have new := (find?_eq_none_iff _ _).mp absent
    obtain ⟨victims, rounds, few, counted⟩ := (coherent.reclaim reached.now).evictionRounds
    refine ⟨put_of_new new reached.now, victims, rounds, few, ?_⟩
    rw [counted, evictions_reclaim]

theorem run_policy_tracks_entries_full :
    let named (name : String) : CachedModule := ⟨.ofString name, .wasmtime, [], ""⟩
    let fresh : ModuleCache := ⟨2, some 5, .arc (.empty 2), [], .zero⟩
    let reached := (Clocked.mk fresh 0).run
      [.put (named "a"), .get "a/", .advance 1, .put (named "b")]
    let roomy := (reached.cache.reclaim reached.now).makeRoom
    ModuleCache.new .generous 2 .arc (some 5) = .ok fresh ∧
      reached.cache.find? "c" = none ∧
      reached.cache.entries.length ≤ 2 ∧
      ∃ victims, EvictionRounds (reached.cache.reclaim reached.now) victims roomy ∧
        victims.length ≤ 1 ∧
        roomy.counters.evictions = reached.cache.counters.evictions + victims.length := by
  intro named fresh reached roomy
  have made : ModuleCache.new .generous 2 .arc (some 5) = .ok fresh := rfl
  have absent : reached.cache.find? "c" = none := by cbv
  obtain ⟨_, _, bounded, _, rounds⟩ := run_policy_tracks_entries made 0
    [.put (named "a"), .get "a/", .advance 1, .put (named "b")]
  exact ⟨made, absent, bounded, (rounds (named "c") absent).2⟩

end Cache.Clocked

end WasmTasks
