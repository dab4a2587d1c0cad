import WasmTasks.Proofs.Cache.Warmed

/-!
A cache that has a place for every path it is used with. Its puts take no victim and drop nothing
that has expired, so it holds just the modules it was given and has counted nothing; and a module that
was given is found without loading it until its own lifetime has passed, whatever has become of the
others.
-/

namespace WasmTasks.ModuleCache

open Cache

variable {cache : ModuleCache} {now since : Nat} {stored : CachedModule} {entry : Entry}
  {modules : List CachedModule} {paths : List Path} {path : Path} {clock : Nat → Nat}

/-- The key of the module is held, or a slot is free. -/
def Places (cache : ModuleCache) (stored : CachedModule) : Prop :=
  stored.key.key ∈ cache.keys ∨ cache.entries.length < cache.capacity

theorem Places.put_eq (places : cache.Places stored) (now : Nat) :
    stored.key.key ∈ cache.keys ∧ cache.put now stored = cache.replace now stored ∨
      stored.key.key ∉ cache.keys ∧ cache.put now stored = cache.insert now stored := by
  by_cases held : stored.key.key ∈ cache.keys
  · exact .inl ⟨held, put_of_held held now⟩
  · have room : cache.entries.length < cache.capacity := places.resolve_left held
    refine .inr ⟨held, ?_⟩
    rw [put_of_new held, reclaim, if_neg (Nat.not_le.mpr room), makeRoom_of_fits room]

theorem Places.mem_entries_put (places : cache.Places stored) :
    entry ∈ (cache.put now stored).entries ↔
      entry = ⟨stored, now⟩ ∨ entry ∈ cache.entries ∧ ¬ entry.stored.key.Same stored.key := by
  obtain ⟨held, replaced⟩ | ⟨new, inserted⟩ := places.put_eq now
  · rw [replaced, mem_entries_replace held]
  · have apart : entry ∈ cache.entries → ¬ entry.stored.key.Same stored.key :=
      fun member same => new ((cache.mem_keys stored.key).mpr ⟨entry, member, same⟩)
    rw [inserted, mem_entries_insert, or_comm, and_iff_left_of_imp apart]

theorem Places.counters_put (places : cache.Places stored) (now : Nat) :
    (cache.put now stored).counters = cache.counters := by
  obtain ⟨_, replaced⟩ | ⟨_, inserted⟩ := places.put_eq now
  · rw [replaced]
    rfl
  · rw [inserted]
    rfl

/-- Nothing is held but under these paths, and there is a slot for each of them. -/
structure Ample (paths : List Path) (cache : ModuleCache) : Prop where
  coherent : cache.Coherent
  among : cache.keys ⊆ Path.keys paths
  fits : paths.length ≤ cache.capacity

theorem lifetime_putAll (coherent : cache.Coherent) (clock : Nat → Nat)
    (modules : List CachedModule) : (cache.putAll clock modules).lifetime = cache.lifetime := by
  induction modules generalizing cache clock with
  | nil => rfl
  | cons first rest ih => rw [putAll, ih (coherent.put _ first), coherent.lifetime_put]

namespace Ample

theorem places (ample : cache.Ample paths) (known : stored.key.key ∈ Path.keys paths) :
    cache.Places stored := by
  by_cases held : stored.key.key ∈ cache.keys
  · exact .inl held
  · have others : cache.keys ⊆ (Path.keys paths).erase stored.key.key := by
      intro key member
      have apart : key ≠ stored.key.key := fun same => held (same ▸ member)
      exact (List.mem_erase_of_ne apart).mpr (ample.among member)
    have counted := Clocked.length_entries_le ample.coherent others
    have positive := List.length_pos_of_mem known
    have fits := ample.fits
    rw [List.length_erase_of_mem known] at counted
    simp only [Path.keys, List.length_map] at counted positive
    exact .inr (by omega)

theorem put (ample : cache.Ample paths) (known : stored.key.key ∈ Path.keys paths) (now : Nat) :
    (cache.put now stored).Ample paths where
  coherent := ample.coherent.put now stored
  among := by
    intro key held
    obtain ⟨path, pathMember, rfl⟩ := List.mem_map.mp held
    obtain ⟨entry, member, rfl⟩ := List.mem_map.mp pathMember
    obtain rfl | ⟨earlier, _⟩ := (ample.places known).mem_entries_put.mp member
    · exact known
    · exact ample.among (List.mem_map_of_mem (List.mem_map_of_mem earlier))
  fits := by
    rw [ample.coherent.capacity_put]
    exact ample.fits

theorem get (ample : cache.Ample paths) (now : Nat) (path : Path) :
    (cache.get now path).2.Ample paths where
  coherent := ample.coherent.get now path
  among := by
    intro key held
    obtain ⟨other, pathMember, rfl⟩ := List.mem_map.mp held
    obtain ⟨entry, member, rfl⟩ := List.mem_map.mp pathMember
    have earlier := entries_get_subset cache now path member
    exact ample.among (List.mem_map_of_mem (List.mem_map_of_mem earlier))
  fits := by
    rw [capacity_get]
    exact ample.fits

theorem putAll (ample : cache.Ample paths)
    (known : ∀ stored ∈ modules, stored.key.key ∈ Path.keys paths) (clock : Nat → Nat) :
    (cache.putAll clock modules).Ample paths ∧
      (cache.putAll clock modules).counters = cache.counters := by
  induction modules using List.reverseRecOn with
  | nil => exact ⟨ample, rfl⟩
  | append_singleton earlier last ih =>
      rw [List.forall_mem_append, List.forall_mem_singleton] at known
      obtain ⟨reached, counted⟩ := ih known.1
      rw [putAll_concat, (reached.places known.2).counters_put]
      exact ⟨reached.put known.2 _, counted⟩

theorem only_putAll (ample : cache.Ample paths)
    (known : ∀ stored ∈ modules, stored.key.key ∈ Path.keys paths) (empty : cache.entries = [])
    (clock : Nat → Nat) :
    ∀ entry ∈ (cache.putAll clock modules).entries, entry.stored ∈ modules := by
  induction modules using List.reverseRecOn with
  | nil =>
      rw [ModuleCache.putAll, empty]
      exact List.forall_mem_nil _
  | append_singleton earlier last ih =>
      rw [List.forall_mem_append, List.forall_mem_singleton] at known
      intro entry member
      have reached := (ample.putAll known.1 clock).1
      rw [putAll_concat, (reached.places known.2).mem_entries_put] at member
      obtain rfl | ⟨held, _⟩ := member
      · exact List.mem_append_right _ List.mem_cons_self
      · exact List.mem_append_left _ (ih known.1 entry held)

end Ample

/-- One of these modules is held under the path, since this moment or later. -/
def Keeps (cache : ModuleCache) (since : Nat) (modules : List CachedModule) (path : Path) : Prop :=
  ∃ entry ∈ cache.entries,
    entry.stored.key.Same path ∧ entry.stored ∈ modules ∧ since ≤ entry.insertedAt

namespace Keeps

theorem congr (keeps : cache.Keeps since modules path) {other : Path} (same : path.Same other) :
    cache.Keeps since modules other := by
  obtain ⟨entry, member, own, rest⟩ := keeps
  exact ⟨entry, member, own.trans same, rest⟩

theorem put (keeps : cache.Keeps since modules path) (places : cache.Places stored)
    (reached : since ≤ now) : (cache.put now stored).Keeps since (modules ++ [stored]) path := by
  obtain ⟨entry, member, same, given, held⟩ := keeps
  by_cases again : entry.stored.key.Same stored.key
  · exact ⟨⟨stored, now⟩, places.mem_entries_put.mpr (.inl rfl), again.symm.trans same,
      List.mem_append_right _ List.mem_cons_self, reached⟩
  · exact ⟨entry, places.mem_entries_put.mpr (.inr ⟨member, again⟩), same,
      List.mem_append_left _ given, held⟩

theorem fresh (keeps : cache.Keeps since modules path)
    (young : ∀ span, cache.lifetime = some span → now - since < span) :
    ∃ entry ∈ cache.entries, entry.stored.key.Same path ∧ entry.stored ∈ modules ∧
      since ≤ entry.insertedAt ∧ cache.isExpired now entry = false := by
  obtain ⟨entry, member, same, given, held⟩ := keeps
  refine ⟨entry, member, same, given, held, ?_⟩
  rw [isExpired_eq_false_iff]
  intro span lives
  have passed := young span lives
  omega

/-- A look-up may drop another module, but none that is still young. -/
theorem get (keeps : cache.Keeps since modules path) (coherent : cache.Coherent)
    (young : ∀ span, cache.lifetime = some span → now - since < span) (other : Path) :
    (cache.get now other).2.Keeps since modules path := by
  obtain ⟨entry, member, same, given, held, fresh⟩ := keeps.fresh young
  have stays : entry ∈ (cache.get now other).2.live now :=
    coherent.mem_live_get.mpr (mem_live.mpr ⟨member, fresh⟩)
  exact ⟨entry, (mem_live.mp stays).1, same, given, held⟩

theorem putAll (ample : cache.Ample paths)
    (known : ∀ stored ∈ modules, stored.key.key ∈ Path.keys paths) (steady : Monotone clock)
    {index : Nat} (given : modules[index]? = some stored) :
    (cache.putAll clock modules).Keeps (clock index) modules stored.key := by
  induction modules using List.reverseRecOn with
  | nil => cases given
  | append_singleton earlier last ih =>
      rw [List.forall_mem_append, List.forall_mem_singleton] at known
      have places := (ample.putAll known.1 clock).1.places known.2
      rw [putAll_concat]
      rcases Nat.lt_or_ge index earlier.length with before | behind
      · rw [List.getElem?_append_left before] at given
        exact (ih known.1 given).put places (steady before.le)
      · obtain ⟨same, rfl⟩ : index = earlier.length ∧ last = stored := by
          grind
        rw [same]
        exact ⟨⟨last, clock earlier.length⟩, places.mem_entries_put.mpr (.inl rfl),
          Path.Same.refl _, List.mem_append_right _ List.mem_cons_self, Nat.le_refl _⟩

end Keeps

theorem isSome_find?_putAll (ample : cache.Ample paths)
    (known : ∀ stored ∈ modules, stored.key.key ∈ Path.keys paths) (empty : cache.entries = [])
    (steady : Monotone clock) (path : Path) :
    ((cache.putAll clock modules).find? path).isSome = true ↔
      ∃ stored ∈ modules, stored.key.Same path := by
  rw [isSome_find?_iff, mem_keys]
  constructor
  · intro ⟨entry, member, same⟩
    exact ⟨entry.stored, ample.only_putAll known empty clock entry member, same⟩
  · intro ⟨stored, member, own⟩
    obtain ⟨index, given⟩ := List.mem_iff_getElem?.mp member
    obtain ⟨entry, held, same, _⟩ := Keeps.putAll ample known steady given
    exact ⟨entry, held, same.trans own⟩

/-- Resolving the path is a hit, whatever loading it would give and however long it would take. -/
def Hits (cache : ModuleCache) (now : Nat) (path : Path) (stored : CachedModule) : Prop :=
  ∃ after : ModuleCache,
    after.counters = { cache.counters with hits := cache.counters.hits + 1 } ∧
      ∀ load later, resolveModule load now later (some cache) path = (.ok stored, some after)

theorem hits_of_fresh (found : cache.find? path = some entry)
    (fresh : cache.isExpired now entry = false) : cache.Hits now path entry.stored := by
  refine ⟨{ cache.countHit with policy := cache.policy.touch path }, rfl, fun load later => ?_⟩
  rw [resolveModule, get_of_fresh found fresh]

theorem Keeps.hits (keeps : cache.Keeps since modules path) (nodup : cache.keys.Nodup)
    (young : ∀ span, cache.lifetime = some span → now - since < span) :
    ∃ stored ∈ modules, stored.key.Same path ∧ cache.Hits now path stored := by
  obtain ⟨entry, member, same, given, _, fresh⟩ := keeps.fresh young
  have found := (find?_eq_some_iff nodup).mpr ⟨member, same⟩
  exact ⟨entry.stored, given, same, hits_of_fresh found fresh⟩

end WasmTasks.ModuleCache
