import WasmTasks.Proofs.Cache.Replacement

/-!
Room never hurts. Two least recently used caches of different capacity are taken through one run: the
larger one answers whatever the smaller one answers. The two orders of use need not agree, nor do the
caches purge or evict at the same time; but on the live keys of the smaller cache both histories
agree, and the larger one holds no more live entries beyond those than it has slots beyond the other.
-/

namespace WasmTasks

namespace Cache

namespace Clocked

open ModuleCache History

variable {state small large : Clocked} {past smallPast largePast : List Step} {entry : Entry}

structure Recent (past : List Step) (state : Clocked) : Prop where
  coherent : state.cache.Coherent
  endures : state.cache.lifetime ≠ some 0
  kind : state.cache.policy.kind = .lru
  ranked : state.cache.policy.Ranked past

theorem Recent.apply (recent : Recent past state) (operation : Operation) :
    Recent (⟨state, operation⟩ :: past) (state.apply operation) where
  coherent := (apply_coherent recent.coherent operation).1
  endures := by
    rw [lifetime_apply recent.coherent]
    exact recent.endures
  kind := (kind_apply recent.coherent operation).trans recent.kind
  ranked := recent.ranked.follow (moves_apply recent.coherent operation)

theorem Recent.of_new {capacity : Nat} {lifetime : Option Nat} {fresh : ModuleCache}
    {allocator : Allocator}
    (made : ModuleCache.new allocator capacity .lru lifetime = .ok fresh) (start : Nat) :
    Recent [] ⟨fresh, start⟩ := by
  obtain ⟨_, endures, unused⟩ := new_eq_ok made
  refine ⟨(Coherent.of_new made).1, ?_, ?_, ?_⟩
  · rw [unused]
    exact endures
  · rw [unused]
    rfl
  · rw [unused]
    exact Policy.ranked_empty .lru capacity

def liveSet (state : Clocked) : Finset Entry :=
  state.live.toFinset

@[simp] theorem mem_liveSet : entry ∈ state.liveSet ↔ entry ∈ state.live :=
  List.mem_toFinset

theorem card_liveSet (coherent : state.cache.Coherent) :
    state.liveSet.card = state.live.length :=
  List.toFinset_card_of_nodup ((nodup_entries coherent.nodup).filter _)

theorem card_liveSet_le (coherent : state.cache.Coherent) :
    state.liveSet.card ≤ state.cache.capacity := by
  rw [card_liveSet coherent]
  exact (List.length_filter_le _ _).trans coherent.bounded

theorem hits_remove (cache : ModuleCache) (path : Path) :
    (cache.remove path).2.counters.hits = cache.counters.hits := by
  unfold ModuleCache.remove
  split <;> rfl

theorem live_of_fresh (fresh : ∀ entry ∈ state.cache.entries,
    state.cache.isExpired state.now entry = false) : state.live = state.cache.entries := by
  rw [live, ModuleCache.live, List.filter_eq_self]
  intro entry member
  simp [fresh entry member]

/-- A cache that had to evict is full of live entries afterwards. -/
theorem card_liveSet_of_displaced (recent : Recent past state) {stored : CachedModule}
    (displaces : state.cache.displaced state.now stored ≠ []) :
    (state.apply (.put stored)).liveSet.card = state.cache.capacity := by
  obtain ⟨none, _⟩ | ⟨victim, policy, _, overflows, _, same⟩ :=
    recent.coherent.displaced_cases state.now stored
  · exact absurd none displaces
  · have entries : (state.apply (.put stored)).cache.entries =
        state.cache.without victim ++ [⟨stored, state.now⟩] := by
      rw [← overflows.entries_evict]
      exact congrArg ModuleCache.entries same
    have fresh : ∀ entry ∈ (state.apply (.put stored)).cache.entries,
        (state.apply (.put stored)).cache.isExpired state.now entry = false := by
      rw [isExpired_congr (lifetime_apply recent.coherent _), entries, List.forall_mem_append,
        List.forall_mem_singleton]
      exact ⟨fun entry member => overflows.fresh entry (mem_without.mp member).1,
        isExpired_self recent.endures stored⟩
    have shorter := (recent.coherent.evict overflows.chosen).2
    rw [overflows.entries_evict, overflows.full] at shorter
    rw [card_liveSet (apply_coherent recent.coherent _).1, live_of_fresh fresh, entries,
      List.length_append, List.length_singleton, shorter]

/-! What both histories say of a key that is live in both caches. -/

theorem touches_put (state : Clocked) (stored : CachedModule) (path : Path) :
    (Step.admits ⟨state, .put stored⟩ path || Step.uses ⟨state, .put stored⟩ path) =
      decide (stored.key.Same path) := by
  simp only [Step.admits, Step.uses, Step.admitted?, Step.used?]
  cases (state.cache.find? stored.key).isSome <;> simp

theorem touches_get (coherent : state.cache.Coherent) (member : entry ∈ state.live) (path : Path) :
    (Step.admits ⟨state, .get path⟩ entry.stored.key ||
        Step.uses ⟨state, .get path⟩ entry.stored.key) =
      decide (path.Same entry.stored.key) := by
  simp only [Step.admits, Step.uses, Step.admitted?, Step.used?, Option.any_none, Bool.false_or]
  by_cases same : path.Same entry.stored.key
  · have hit : (state.cache.get state.now path).1.isSome = true :=
      (isSome_get_iff coherent.nodup).mpr ⟨entry, member, same.symm⟩
    simp [hit, same]
  · split <;> simp [same]

theorem touches_eq (smallCoherent : small.cache.Coherent) (largeCoherent : large.cache.Coherent)
    (inSmall : entry ∈ small.live) (inLarge : entry ∈ large.live) (operation : Operation) :
    (Step.admits ⟨small, operation⟩ entry.stored.key ||
        Step.uses ⟨small, operation⟩ entry.stored.key) =
      (Step.admits ⟨large, operation⟩ entry.stored.key ||
        Step.uses ⟨large, operation⟩ entry.stored.key) := by
  cases operation with
  | put stored => rw [touches_put, touches_put]
  | get path => rw [touches_get smallCoherent inSmall, touches_get largeCoherent inLarge]
  | _ => rfl

/-! The relation between the two runs. -/

structure Includes (smallPast : List Step) (small : Clocked) (largePast : List Step)
    (large : Clocked) : Prop where
  smallRecent : Recent smallPast small
  largeRecent : Recent largePast large
  now : large.now = small.now
  lifetime : large.cache.lifetime = small.cache.lifetime
  subset : small.liveSet ⊆ large.liveSet
  idle : ∀ entry ∈ small.live, idle smallPast entry.stored.key = idle largePast entry.stored.key
  surplus : (large.liveSet \ small.liveSet).card ≤ large.cache.capacity - small.cache.capacity
  ordered : small.cache.capacity ≤ large.cache.capacity
  hits : small.cache.counters.hits ≤ large.cache.counters.hits

namespace Includes

variable (includes : Includes smallPast small largePast large)
include includes

theorem live (member : entry ∈ small.live) : entry ∈ large.live :=
  mem_liveSet.mp (includes.subset (mem_liveSet.mpr member))

/-- When the larger cache is full of live entries, so is the smaller one. -/
theorem crowded (full : large.cache.entries.length = large.cache.capacity)
    (fresh : ∀ entry ∈ large.cache.entries, large.cache.isExpired large.now entry = false) :
    small.cache.entries.length = small.cache.capacity ∧
      ∀ entry ∈ small.cache.entries, small.cache.isExpired small.now entry = false := by
  have most : large.liveSet.card = large.cache.capacity := by
    rw [card_liveSet includes.largeRecent.coherent, live_of_fresh fresh, full]
  -- what is live in the larger cache only fits into its additional slots
  have parts := Finset.card_sdiff_add_card_eq_card includes.subset
  have lower : small.cache.capacity ≤ small.live.length := by
    rw [← card_liveSet includes.smallRecent.coherent]
    have := includes.surplus
    have := includes.ordered
    omega
  have bounded := includes.smallRecent.coherent.bounded
  have shorter : small.live.length ≤ small.cache.entries.length := List.length_filter_le _ _
  refine ⟨by omega, fun entry member => ?_⟩
  have same : small.live.length = small.cache.entries.length := by omega
  simpa using List.length_filter_eq_length_iff.mp same entry member

theorem displaces {stored : CachedModule} (displaces : large.cache.displaced large.now stored ≠ []) :
    small.cache.displaced small.now stored ≠ [] := by
  rw [includes.largeRecent.coherent.displaced_ne_nil_iff] at displaces
  obtain ⟨absent, full, fresh⟩ := displaces
  obtain ⟨smallFull, smallFresh⟩ := includes.crowded full fresh
  rw [includes.smallRecent.coherent.displaced_ne_nil_iff]
  refine ⟨?_, smallFull, smallFresh⟩
  rw [find?_eq_none_iff, mem_keys] at absent ⊢
  rintro ⟨entry, member, same⟩
  have known := includes.live (ModuleCache.mem_live.mpr ⟨member, smallFresh entry member⟩)
  exact absent ⟨entry, (ModuleCache.mem_live.mp known).1, same⟩

/-- Of two keys live in both caches, each history finds the victim idle for longer; so an entry that
the smaller cache keeps is not the victim of the larger one. -/
theorem not_victim {victim smallVictim : Path} {policy smallPolicy : Policy}
    (overflows : large.cache.Overflows large.now victim policy)
    (smallOverflows : small.cache.Overflows small.now smallVictim smallPolicy)
    (member : entry ∈ small.live) (kept : ¬ smallVictim.Same entry.stored.key) :
    ¬ victim.Same entry.stored.key := by
  intro same
  obtain ⟨other, otherHeld, otherSame⟩ := (small.cache.mem_keys smallVictim).mp smallOverflows.held
  have otherLive : other ∈ small.live :=
    ModuleCache.mem_live.mpr ⟨otherHeld, smallOverflows.fresh other otherHeld⟩
  have older : History.idle smallPast entry.stored.key <
      History.idle smallPast other.stored.key := by
    rw [idle_congr otherSame]
    exact includes.smallRecent.coherent.idle_lt_victim includes.smallRecent.kind
      includes.smallRecent.ranked smallOverflows.chosen entry (ModuleCache.mem_live.mp member).1
      fun own => kept own.symm
  have newer : History.idle largePast other.stored.key <
      History.idle largePast entry.stored.key := by
    rw [← idle_congr same]
    exact includes.largeRecent.coherent.idle_lt_victim includes.largeRecent.kind
      includes.largeRecent.ranked overflows.chosen other
      (ModuleCache.mem_live.mp (includes.live otherLive)).1
      fun own => kept (otherSame.symm.trans (own.trans same))
  rw [← includes.idle entry member, ← includes.idle other otherLive] at newer
  omega

theorem spares {operation : Operation} (member : entry ∈ small.live)
    (spares : Step.Spares ⟨small, operation⟩ entry.stored.key) :
    Step.Spares ⟨large, operation⟩ entry.stored.key := by
  refine ⟨spares.notPut, spares.notWithdrawn, ?_⟩
  rintro ⟨victim, evicted, same⟩
  cases operation with
  | put stored =>
      change victim ∈ large.cache.displaced large.now stored at evicted
      have some : large.cache.displaced large.now stored ≠ [] := List.ne_nil_of_mem evicted
      obtain ⟨none, _⟩ | ⟨largeVictim, _, _, overflows, only, _⟩ :=
        includes.largeRecent.coherent.displaced_cases large.now stored
      · exact some none
      obtain ⟨none, _⟩ | ⟨smallVictim, _, _, smallOverflows, smallOnly, _⟩ :=
        includes.smallRecent.coherent.displaced_cases small.now stored
      · exact includes.displaces some none
      rw [only, List.mem_singleton] at evicted
      subst evicted
      refine includes.not_victim overflows smallOverflows member ?_ same
      refine (Step.spares_put.mp spares).2 smallVictim ?_
      rw [smallOnly]
      exact List.mem_singleton_self _
  | _ => cases evicted

theorem now_apply (operation : Operation) :
    (large.apply operation).now = (small.apply operation).now := by
  cases operation with
  | advance milliseconds => exact congrArg (· + milliseconds) includes.now
  | _ => exact includes.now

theorem isExpired : large.cache.isExpired = small.cache.isExpired :=
  isExpired_congr includes.lifetime

theorem subset_apply (operation : Operation) :
    (small.apply operation).liveSet ⊆ (large.apply operation).liveSet := by
  intro entry member
  rw [mem_liveSet, mem_live_apply includes.smallRecent.coherent] at member
  rw [mem_liveSet, mem_live_apply includes.largeRecent.coherent, includes.isExpired,
    includes.now_apply]
  obtain ⟨⟨isPut, time⟩ | ⟨known, spares⟩, fresh⟩ := member
  · exact ⟨.inl ⟨isPut, time.trans includes.now.symm⟩, fresh⟩
  · exact ⟨.inr ⟨includes.live known, includes.spares known spares⟩, fresh⟩

/-- If the smaller cache evicts nothing, then what is live in the larger one only was so before. -/
theorem sdiff_apply_subset {operation : Operation}
    (quiet : Step.victims ⟨small, operation⟩ = []) :
    (large.apply operation).liveSet \ (small.apply operation).liveSet ⊆
      large.liveSet \ small.liveSet := by
  intro entry member
  obtain ⟨inLarge, notSmall⟩ := Finset.mem_sdiff.mp member
  rw [mem_liveSet, mem_live_apply includes.largeRecent.coherent, includes.isExpired,
    includes.now_apply] at inLarge
  rw [mem_liveSet, mem_live_apply includes.smallRecent.coherent] at notSmall
  obtain ⟨⟨isPut, time⟩ | ⟨known, spares⟩, fresh⟩ := inLarge
  · exact absurd ⟨.inl ⟨isPut, time.trans includes.now⟩, fresh⟩ notSmall
  · refine Finset.mem_sdiff.mpr ⟨mem_liveSet.mpr known, fun shared => notSmall ⟨.inr ?_, fresh⟩⟩
    refine ⟨mem_liveSet.mp shared, spares.notPut, spares.notWithdrawn, ?_⟩
    rintro ⟨victim, evicted, _⟩
    rw [quiet] at evicted
    cases evicted

theorem surplus_apply (operation : Operation) :
    ((large.apply operation).liveSet \ (small.apply operation).liveSet).card ≤
      large.cache.capacity - small.cache.capacity := by
  by_cases quiet : Step.victims ⟨small, operation⟩ = []
  · exact (Finset.card_le_card (includes.sdiff_apply_subset quiet)).trans includes.surplus
  · cases operation with
    | put stored =>
        -- after an eviction the smaller cache is full of live entries, all of which the larger one
        -- has as well
        have full := card_liveSet_of_displaced includes.smallRecent quiet
        have kept := apply_coherent includes.largeRecent.coherent (.put stored)
        have bounded := card_liveSet_le kept.1
        have parts := Finset.card_sdiff_add_card_eq_card (includes.subset_apply (.put stored))
        rw [kept.2] at bounded
        omega
    | _ => exact absurd rfl quiet

theorem idle_apply (operation : Operation) : ∀ entry ∈ (small.apply operation).live,
    History.idle (⟨small, operation⟩ :: smallPast) entry.stored.key =
      History.idle (⟨large, operation⟩ :: largePast) entry.stored.key := by
  intro entry member
  rw [mem_live_apply includes.smallRecent.coherent] at member
  obtain ⟨⟨isPut, _⟩ | ⟨known, _⟩, _⟩ := member
  · obtain rfl : operation = .put entry.stored := isPut
    simp [idle_cons, touches_put, Path.Same.refl]
  · rw [idle_cons, idle_cons, includes.idle entry known,
      touches_eq includes.smallRecent.coherent includes.largeRecent.coherent known
        (includes.live known)]

theorem hits_get (path : Path) :
    (small.cache.get small.now path).2.counters.hits ≤
      (large.cache.get large.now path).2.counters.hits := by
  rw [(lookups_get small.cache small.now path).1, (lookups_get large.cache large.now path).1]
  have hits := includes.hits
  by_cases hit : (small.cache.get small.now path).1.isSome = true
  · obtain ⟨entry, member, same⟩ :=
      (isSome_get_iff includes.smallRecent.coherent.nodup).mp hit
    have largeHit : (large.cache.get large.now path).1.isSome = true :=
      (isSome_get_iff includes.largeRecent.coherent.nodup).mpr
        ⟨entry, includes.live member, same⟩
    rw [if_pos hit, if_pos largeHit]
    omega
  · rw [if_neg hit]
    exact Nat.le_add_right_of_le hits

theorem hits_apply (operation : Operation) :
    (small.apply operation).cache.counters.hits ≤ (large.apply operation).cache.counters.hits := by
  cases operation with
  | put stored =>
      simp only [Clocked.apply]
      rw [includes.smallRecent.coherent.hits_put, includes.largeRecent.coherent.hits_put]
      exact includes.hits
  | get path => exact includes.hits_get path
  | remove path =>
      simp only [Clocked.apply, hits_remove]
      exact includes.hits
  | _ => exact includes.hits

theorem apply (operation : Operation) :
    Includes (⟨small, operation⟩ :: smallPast) (small.apply operation)
      (⟨large, operation⟩ :: largePast) (large.apply operation) where
  smallRecent := includes.smallRecent.apply operation
  largeRecent := includes.largeRecent.apply operation
  now := includes.now_apply operation
  lifetime := by
    rw [lifetime_apply includes.smallRecent.coherent, lifetime_apply includes.largeRecent.coherent]
    exact includes.lifetime
  subset := includes.subset_apply operation
  idle := includes.idle_apply operation
  surplus := by
    rw [(apply_coherent includes.smallRecent.coherent operation).2,
      (apply_coherent includes.largeRecent.coherent operation).2]
    exact includes.surplus_apply operation
  ordered := by
    rw [(apply_coherent includes.smallRecent.coherent operation).2,
      (apply_coherent includes.largeRecent.coherent operation).2]
    exact includes.ordered
  hits := includes.hits_apply operation

end Includes

theorem Includes.run (includes : Includes [] small [] large) (operations : List Operation) :
    Includes (small.past operations) (small.run operations)
      (large.past operations) (large.run operations) := by
  induction operations using List.reverseRecOn with
  | nil => exact includes
  | append_singleton earlier operation ih =>
      rw [run_concat, run_concat, past_concat, past_concat]
      exact ih.apply operation

theorem Includes.of_new {small large : Nat} (fits : small ≤ large) {lifetime : Option Nat}
    {little big : ModuleCache} {allocator : Allocator}
    (littleMade : ModuleCache.new allocator small .lru lifetime = .ok little)
    (bigMade : ModuleCache.new allocator large .lru lifetime = .ok big) (start : Nat) :
    Includes [] ⟨little, start⟩ [] ⟨big, start⟩ := by
  have littleRecent := Recent.of_new littleMade start
  have bigRecent := Recent.of_new bigMade start
  obtain ⟨_, _, rfl⟩ := new_eq_ok littleMade
  obtain ⟨_, _, rfl⟩ := new_eq_ok bigMade
  exact ⟨littleRecent, bigRecent, rfl, rfl, Finset.Subset.refl _, fun _ _ => rfl,
    Nat.zero_le _, fits, Nat.le_refl _⟩

/-- Whatever a least recently used cache of one capacity holds after any run, a cache of a greater
capacity holds after the same run, and it had as many hits. -/
theorem run_lru_larger_includes_smaller {small large : Nat} (fits : small ≤ large)
    {lifetime : Option Nat} {little big : ModuleCache}
    {allocator : Allocator}
    (littleMade : ModuleCache.new allocator small .lru lifetime = .ok little)
    (bigMade : ModuleCache.new allocator large .lru lifetime = .ok big) (start : Nat)
    (operations : List Operation) :
    let first := (Clocked.mk little start).run operations
    let second := (Clocked.mk big start).run operations
    (∀ path, first.cache.contains first.now path = true →
        second.cache.contains second.now path = true ∧
          ∃ stored, (first.cache.get first.now path).1 = some stored ∧
            (second.cache.get second.now path).1 = some stored) ∧
      first.cache.counters.hits ≤ second.cache.counters.hits := by
  intro first second
  have includes := (Includes.of_new fits littleMade bigMade start).run operations
  refine ⟨?_, includes.hits⟩
  intro path holds
  have firstNodup := includes.smallRecent.coherent.nodup
  have secondNodup := includes.largeRecent.coherent.nodup
  obtain ⟨entry, member, same⟩ := (contains_iff firstNodup).mp holds
  have shared := includes.live member
  exact ⟨(contains_iff secondNodup).mpr ⟨entry, shared, same⟩, entry.stored,
    (get_eq_some_iff firstNodup).mpr ⟨entry, member, same, rfl⟩,
    (get_eq_some_iff secondNodup).mpr ⟨entry, shared, same, rfl⟩⟩

/-- The first cache misses the module that the second one hits, and so their orders of use differ. -/
theorem run_lru_larger_includes_smaller_held :
    let named (name : String) : CachedModule := ⟨.ofString name, .wasmtime, [], ""⟩
    let little : ModuleCache := ⟨1, some 9, .lru .empty, [], .zero⟩
    let big : ModuleCache := ⟨2, some 9, .lru .empty, [], .zero⟩
    let operations := [.put (named "a"), .put (named "b"), .get "a", .put (named "c"), .advance 1]
    let first := (Clocked.mk little 0).run operations
    let second := (Clocked.mk big 0).run operations
    1 ≤ 2 ∧ ModuleCache.new .generous 1 .lru (some 9) = .ok little ∧
      ModuleCache.new .generous 2 .lru (some 9) = .ok big ∧
      first.cache.contains first.now "c" = true ∧ second.cache.contains second.now "c" = true ∧
      first.cache.counters.hits ≤ second.cache.counters.hits := by
  intro named little big operations first second
  have littleMade : ModuleCache.new .generous 1 .lru (some 9) = .ok little := rfl
  have bigMade : ModuleCache.new .generous 2 .lru (some 9) = .ok big := rfl
  have holds : first.cache.contains first.now "c" = true := by cbv
  obtain ⟨included, hits⟩ :=
    run_lru_larger_includes_smaller (by decide) littleMade bigMade 0 operations
  exact ⟨by decide, littleMade, bigMade, holds, (included "c" holds).1, hits⟩

end Clocked

end Cache

end WasmTasks
