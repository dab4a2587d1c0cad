import WasmTasks.Proofs.Cache.Coherence

/-!
Live entries. A cache answers from them alone, and each operation changes them in one way: a put
brings one in and takes the old one under its key and the victims out, a removal takes one out, and
time takes out what has expired. Expired entries come and go without an effect on them.
-/

namespace WasmTasks

namespace ModuleCache

open Cache

def victims (cache : ModuleCache) : List Path :=
  if cache.entries.length < cache.capacity then []
  else
    match _chosen : cache.policy.evict? with
    | none => []
    | some (victim, policy) => victim :: (cache.evict victim policy).victims
termination_by cache.policy.tracked.length
decreasing_by
  rw [policy_evict]
  exact Policy.length_tracked_evict? _chosen

/-- The victims of a put. -/
def displaced (cache : ModuleCache) (now : Nat) (stored : CachedModule) : List Path :=
  if (cache.find? stored.key).isSome then [] else (cache.reclaim now).victims

def live (cache : ModuleCache) (now : Nat) : List Entry :=
  cache.entries.filter fun entry => !cache.isExpired now entry

variable {cache : ModuleCache} {now : Nat} {entry : Entry} {path : Path}

@[simp] theorem mem_live :
    entry ∈ cache.live now ↔ entry ∈ cache.entries ∧ cache.isExpired now entry = false := by
  simp [live]

theorem isExpired_eq_false_iff :
    cache.isExpired now entry = false ↔
      ∀ span, cache.lifetime = some span → now - entry.insertedAt < span := by
  unfold isExpired
  cases cache.lifetime with
  | none => simp
  | some lifetime => simp

theorem isExpired_congr {other : ModuleCache} (same : other.lifetime = cache.lifetime) :
    other.isExpired = cache.isExpired := by
  funext now entry
  rw [isExpired, isExpired, same]

theorem isExpired_of_le {later : Nat} (le : now ≤ later)
    (fresh : cache.isExpired later entry = false) : cache.isExpired now entry = false := by
  rw [isExpired_eq_false_iff] at fresh ⊢
  intro span lifetime
  have := fresh span lifetime
  omega

theorem sub_self_lt_of_endures {lifetime : Option Nat} (endures : lifetime ≠ some 0) (now : Nat) :
    ∀ span, lifetime = some span → now - now < span := by
  rintro span rfl
  rw [Nat.sub_self]
  exact Nat.pos_of_ne_zero fun zero => endures (zero ▸ rfl)

theorem isExpired_self (endures : cache.lifetime ≠ some 0) (stored : CachedModule) :
    cache.isExpired now ⟨stored, now⟩ = false :=
  isExpired_eq_false_iff.mpr (sub_self_lt_of_endures endures now)

/-! Keys name entries. -/

theorem eq_of_same (nodup : cache.keys.Nodup) {first second : Entry}
    (firstHeld : first ∈ cache.entries) (secondHeld : second ∈ cache.entries)
    (same : first.stored.key.Same second.stored.key) : first = second := by
  rw [keys, held, Path.keys, List.map_map] at nodup
  exact List.inj_on_of_nodup_map nodup firstHeld secondHeld same

theorem nodup_entries (nodup : cache.keys.Nodup) : cache.entries.Nodup := by
  rw [keys, held, Path.keys, List.map_map] at nodup
  exact nodup.of_map

theorem find?_eq_some_iff (nodup : cache.keys.Nodup) :
    cache.find? path = some entry ↔ entry ∈ cache.entries ∧ entry.stored.key.Same path := by
  constructor
  · intro found
    exact ⟨List.mem_of_find?_eq_some found, by simpa using List.find?_some found⟩
  · rintro ⟨member, same⟩
    have known : (cache.find? path).isSome = true :=
      (cache.isSome_find?_iff path).mpr ((cache.mem_keys path).mpr ⟨entry, member, same⟩)
    obtain ⟨other, found⟩ := Option.isSome_iff_exists.mp known
    have otherSame : other.stored.key.Same path := by simpa using List.find?_some found
    rw [found, eq_of_same nodup (List.mem_of_find?_eq_some found) member
      (otherSame.trans same.symm)]

theorem get_of_absent (absent : cache.find? path = none) :
    cache.get now path = (none, cache.countMiss) := by
  rw [get, absent]

theorem get_of_expired (found : cache.find? path = some entry)
    (expired : cache.isExpired now entry = true) :
    cache.get now path = (none, (cache.expire path).countMiss) := by
  rw [get, found]
  exact if_pos expired

theorem get_of_fresh (found : cache.find? path = some entry)
    (fresh : cache.isExpired now entry = false) :
    cache.get now path =
      (some entry.stored, { cache.countHit with policy := cache.policy.touch path }) := by
  rw [get, found]
  exact if_neg (Bool.eq_false_iff.mp fresh)

/-- All that a lookup can do. -/
theorem get_cases (cache : ModuleCache) (now : Nat) (path : Path) :
    (cache.find? path = none ∧ cache.get now path = (none, cache.countMiss)) ∨
      (∃ entry, cache.find? path = some entry ∧ cache.isExpired now entry = true ∧
        cache.get now path = (none, (cache.expire path).countMiss)) ∨
      ∃ entry, cache.find? path = some entry ∧ cache.isExpired now entry = false ∧
        cache.get now path =
          (some entry.stored, { cache.countHit with policy := cache.policy.touch path }) := by
  cases found : cache.find? path with
  | none => exact .inl ⟨rfl, get_of_absent found⟩
  | some entry =>
      cases expired : cache.isExpired now entry with
      | true => exact .inr (.inl ⟨entry, rfl, expired, get_of_expired found expired⟩)
      | false => exact .inr (.inr ⟨entry, rfl, expired, get_of_fresh found expired⟩)

theorem get_of_missed (missed : (cache.get now path).1 = none) :
    (cache.find? path = none ∧ cache.get now path = (none, cache.countMiss)) ∨
      ∃ entry, cache.find? path = some entry ∧ cache.isExpired now entry = true ∧
        cache.get now path = (none, (cache.expire path).countMiss) := by
  obtain absent | expired | ⟨entry, _, _, same⟩ := cache.get_cases now path
  · exact .inl absent
  · exact .inr expired
  · rw [same] at missed
    cases missed

theorem get_of_hit {stored : CachedModule} (hit : (cache.get now path).1 = some stored) :
    ∃ entry, cache.find? path = some entry ∧ cache.isExpired now entry = false ∧
      entry.stored = stored ∧
      (cache.get now path).2 = { cache.countHit with policy := cache.policy.touch path } := by
  obtain ⟨_, same⟩ | ⟨_, _, _, same⟩ | ⟨entry, found, fresh, same⟩ := cache.get_cases now path
  · rw [same] at hit
    cases hit
  · rw [same] at hit
    cases hit
  · rw [same, Option.some.injEq] at hit
    rw [same]
    exact ⟨entry, found, fresh, hit, rfl⟩

/-- What neither the counting nor an expiry nor a use shows, a lookup does not show. -/
theorem get_keeps {α : Type} (observe : ModuleCache → α)
    (counted : ∀ current : ModuleCache, observe current.countMiss = observe current)
    (expiry : ∀ current path, observe (current.expire path) = observe current)
    (used : ∀ current : ModuleCache, ∀ policy,
      observe { current.countHit with policy := policy } = observe current)
    (cache : ModuleCache) (now : Nat) (path : Path) :
    observe (cache.get now path).2 = observe cache := by
  unfold get
  split
  · exact counted cache
  · split
    · exact (counted _).trans (expiry cache path)
    · exact used cache _

theorem lifetime_get (cache : ModuleCache) (now : Nat) (path : Path) :
    (cache.get now path).2.lifetime = cache.lifetime :=
  get_keeps ModuleCache.lifetime (fun _ => rfl) (fun _ _ => rfl) (fun _ _ => rfl) cache now path

theorem evictions_get (cache : ModuleCache) (now : Nat) (path : Path) :
    (cache.get now path).2.counters.evictions = cache.counters.evictions :=
  get_keeps (fun current => current.counters.evictions) (fun _ => rfl) (fun _ _ => rfl)
    (fun _ _ => rfl) cache now path

theorem lookups_get (cache : ModuleCache) (now : Nat) (path : Path) :
    (cache.get now path).2.counters.hits =
        cache.counters.hits + (if (cache.get now path).1.isSome then 1 else 0) ∧
      (cache.get now path).2.counters.hits + (cache.get now path).2.counters.misses =
        cache.counters.hits + cache.counters.misses + 1 := by
  obtain ⟨_, same⟩ | ⟨_, _, _, same⟩ | ⟨_, _, _, same⟩ := cache.get_cases now path
  · rw [same]
    exact ⟨rfl, rfl⟩
  · rw [same]
    exact ⟨rfl, rfl⟩
  · rw [same]
    exact ⟨rfl, Nat.add_right_comm _ _ _⟩

theorem contains_iff (nodup : cache.keys.Nodup) :
    cache.contains now path = true ↔
      ∃ entry ∈ cache.live now, entry.stored.key.Same path := by
  unfold contains
  constructor
  · intro answer
    cases found : cache.find? path with
    | none => simp [found] at answer
    | some entry =>
        obtain ⟨member, same⟩ := (find?_eq_some_iff nodup).mp found
        exact ⟨entry, mem_live.mpr ⟨member, by simpa [found] using answer⟩, same⟩
  · rintro ⟨entry, member, same⟩
    obtain ⟨member, fresh⟩ := mem_live.mp member
    rw [(find?_eq_some_iff nodup).mpr ⟨member, same⟩]
    simp [fresh]

theorem get_eq_some_iff (nodup : cache.keys.Nodup) {stored : CachedModule} :
    (cache.get now path).1 = some stored ↔
      ∃ entry ∈ cache.live now, entry.stored.key.Same path ∧ entry.stored = stored := by
  constructor
  · intro answer
    obtain ⟨entry, found, fresh, own, _⟩ := get_of_hit answer
    obtain ⟨member, same⟩ := (find?_eq_some_iff nodup).mp found
    exact ⟨entry, mem_live.mpr ⟨member, fresh⟩, same, own⟩
  · rintro ⟨entry, member, same, rfl⟩
    obtain ⟨member, fresh⟩ := mem_live.mp member
    rw [get_of_fresh ((find?_eq_some_iff nodup).mpr ⟨member, same⟩) fresh]

theorem isSome_get_iff (nodup : cache.keys.Nodup) :
    (cache.get now path).1.isSome = true ↔
      ∃ entry ∈ cache.live now, entry.stored.key.Same path := by
  simp only [Option.isSome_iff_exists, get_eq_some_iff nodup]
  constructor
  · rintro ⟨_, entry, member, same, _⟩
    exact ⟨entry, member, same⟩
  · rintro ⟨entry, member, same⟩
    exact ⟨entry.stored, entry, member, same, rfl⟩

/-! What happens to single entries. -/

theorem mem_without : entry ∈ cache.without path ↔
    entry ∈ cache.entries ∧ ¬ entry.stored.key.Same path := by
  simp [without]

theorem mem_entries_insert {stored : CachedModule} :
    entry ∈ (cache.insert now stored).entries ↔ entry ∈ cache.entries ∨ entry = ⟨stored, now⟩ := by
  simp [insert]

theorem mem_entries_replace {stored : CachedModule} (held : stored.key.key ∈ cache.keys) :
    entry ∈ (cache.replace now stored).entries ↔
      entry = ⟨stored, now⟩ ∨ entry ∈ cache.entries ∧ ¬ entry.stored.key.Same stored.key := by
  obtain ⟨old, oldHeld, oldSame⟩ := (cache.mem_keys stored.key).mp held
  simp only [replace, List.mem_map]
  constructor
  · rintro ⟨other, member, rfl⟩
    split
    · exact .inl rfl
    · rename_i different
      exact .inr ⟨member, different⟩
  · rintro (rfl | ⟨member, different⟩)
    · exact ⟨old, oldHeld, if_pos oldSame⟩
    · exact ⟨entry, member, if_neg different⟩

theorem entries_foldl_expire (expired : List Entry) (cache : ModuleCache) :
    (expired.foldl (fun current entry => current.expire entry.stored.key) cache).entries =
      cache.entries.filter fun entry =>
        expired.all fun other => ¬ entry.stored.key.Same other.stored.key := by
  induction expired generalizing cache with
  | nil => simp
  | cons other others ih =>
      rw [List.foldl_cons, ih, expire, without, List.filter_filter]
      apply List.filter_congr
      intro entry _
      simp [Bool.and_comm]

theorem entries_purge (nodup : cache.keys.Nodup) (now : Nat) :
    (cache.purge now).entries = cache.live now := by
  rw [purge, entries_foldl_expire, live]
  apply List.filter_congr
  intro entry member
  cases expired : cache.isExpired now entry with
  | true =>
      rw [Bool.not_true, List.all_eq_false]
      exact ⟨entry, List.mem_filter.mpr ⟨member, expired⟩, by simp [Path.Same]⟩
  | false =>
      rw [Bool.not_false, List.all_eq_true]
      intro other otherExpired
      obtain ⟨otherMember, otherExpired⟩ := List.mem_filter.mp otherExpired
      simp only [decide_eq_true_eq]
      intro same
      rw [eq_of_same nodup member otherMember same, otherExpired] at expired
      cases expired

@[simp] theorem lifetime_evict (cache : ModuleCache) (victim : Path) (policy : Policy) :
    (cache.evict victim policy).lifetime = cache.lifetime := by
  unfold evict
  split <;> rfl

@[simp] theorem hits_evict (cache : ModuleCache) (victim : Path) (policy : Policy) :
    (cache.evict victim policy).counters.hits = cache.counters.hits := by
  unfold evict
  split <;> rfl

@[simp] theorem misses_evict (cache : ModuleCache) (victim : Path) (policy : Policy) :
    (cache.evict victim policy).counters.misses = cache.counters.misses := by
  unfold evict
  split <;> rfl

theorem purge_keeps {α : Type} (observe : ModuleCache → α)
    (expiry : ∀ current path, observe (current.expire path) = observe current)
    (cache : ModuleCache) (now : Nat) : observe (cache.purge now) = observe cache :=
  purge_induction (motive := fun current => observe current = observe cache) now rfl
    fun current path same => (expiry current path).trans same

theorem reclaim_keeps {α : Type} (observe : ModuleCache → α)
    (expiry : ∀ current path, observe (current.expire path) = observe current)
    (cache : ModuleCache) (now : Nat) : observe (cache.reclaim now) = observe cache := by
  unfold reclaim
  split
  · exact purge_keeps observe expiry cache now
  · rfl

theorem capacity_purge (cache : ModuleCache) (now : Nat) :
    (cache.purge now).capacity = cache.capacity :=
  purge_keeps ModuleCache.capacity (fun _ _ => rfl) cache now

@[simp] theorem lifetime_purge (cache : ModuleCache) (now : Nat) :
    (cache.purge now).lifetime = cache.lifetime :=
  purge_keeps ModuleCache.lifetime (fun _ _ => rfl) cache now

@[simp] theorem lifetime_reclaim (cache : ModuleCache) (now : Nat) :
    (cache.reclaim now).lifetime = cache.lifetime :=
  reclaim_keeps ModuleCache.lifetime (fun _ _ => rfl) cache now

theorem live_purge (nodup : cache.keys.Nodup) (now : Nat) :
    (cache.purge now).live now = cache.live now := by
  rw [live, isExpired_congr (cache.lifetime_purge now), entries_purge nodup, live,
    List.filter_filter]
  simp

theorem live_reclaim (nodup : cache.keys.Nodup) (now : Nat) :
    (cache.reclaim now).live now = cache.live now := by
  unfold reclaim
  split
  · exact live_purge nodup now
  · rfl

theorem purge_of_fresh (fresh : ∀ entry ∈ cache.entries, cache.isExpired now entry = false) :
    cache.purge now = cache := by
  have nothing : cache.entries.filter (cache.isExpired now) = [] := by
    rw [List.filter_eq_nil_iff]
    intro entry member
    simp [fresh entry member]
  rw [purge, nothing, List.foldl_nil]

theorem reclaim_of_fresh (fresh : ∀ entry ∈ cache.entries, cache.isExpired now entry = false) :
    cache.reclaim now = cache := by
  rw [reclaim, purge_of_fresh fresh, ite_self]

/-! When there are victims. -/

theorem victims_of_fits (fits : cache.entries.length < cache.capacity) : cache.victims = [] := by
  rw [victims, if_pos fits]

theorem victims_of_chosen (full : cache.capacity ≤ cache.entries.length) {victim : Path}
    {policy : Policy} (chosen : cache.policy.evict? = some (victim, policy)) :
    cache.victims = victim :: (cache.evict victim policy).victims := by
  rw [victims, if_neg (Nat.not_lt.mpr full)]
  split
  · rename_i stuck
    rw [chosen] at stuck
    cases stuck
  · rename_i other rest found
    rw [chosen] at found
    cases found
    rfl

/-- Every slot holds a live entry, and the policy gives one of them up. -/
structure Overflows (cache : ModuleCache) (now : Nat) (victim : Path) (policy : Policy) : Prop where
  full : cache.entries.length = cache.capacity
  fresh : ∀ entry ∈ cache.entries, cache.isExpired now entry = false
  chosen : cache.policy.evict? = some (victim, policy)
  held : victim.key ∈ cache.keys

namespace Coherent

theorem fresh_of_reclaim_full (coherent : cache.Coherent)
    (full : cache.capacity ≤ (cache.reclaim now).entries.length) :
    ∀ entry ∈ cache.entries, cache.isExpired now entry = false := by
  have bounded := coherent.bounded
  unfold ModuleCache.reclaim at full
  split at full
  · rw [entries_purge coherent.nodup] at full
    have shorter : (cache.live now).length ≤ cache.entries.length := List.length_filter_le _ _
    have same : (cache.live now).length = cache.entries.length := by omega
    intro entry member
    simpa using List.length_filter_eq_length_iff.mp same entry member
  · contradiction

/-- Room is there or is made by a purge, or there is exactly one victim. -/
theorem room_or_overflow (coherent : cache.Coherent) (now : Nat) :
    ((cache.reclaim now).victims = [] ∧ (cache.reclaim now).makeRoom = cache.reclaim now ∧
        (cache.entries.length < cache.capacity ∨
          ∃ entry ∈ cache.entries, cache.isExpired now entry = true)) ∨
      ∃ victim policy, cache.Overflows now victim policy ∧
        (cache.reclaim now).victims = [victim] ∧
        (cache.reclaim now).makeRoom = cache.evict victim policy := by
  obtain ⟨fits, same⟩ | ⟨victim, policy, full, chosen, held, room, same⟩ :=
    (coherent.reclaim now).makeRoom_cases
  · refine .inl ⟨victims_of_fits fits, same, ?_⟩
    by_contra neither
    push Not at neither
    have fresh : ∀ entry ∈ cache.entries, cache.isExpired now entry = false := by
      simpa using neither.2
    rw [reclaim_of_fresh fresh] at fits
    omega
  · rw [capacity_reclaim] at full
    have fresh := coherent.fresh_of_reclaim_full full
    rw [reclaim_of_fresh fresh] at full chosen held room same ⊢
    have none : (cache.evict victim policy).victims = [] :=
      victims_of_fits (by rwa [capacity_evict])
    refine .inr ⟨victim, policy, ⟨?_, fresh, chosen, ?_⟩, ?_, same⟩
    · exact Nat.le_antisymm coherent.bounded full
    · rwa [← isSome_find?_iff]
    · rw [victims_of_chosen full chosen, none]

end Coherent

theorem Overflows.entries_evict {victim : Path} {policy : Policy}
    (overflows : cache.Overflows now victim policy) :
    (cache.evict victim policy).entries = cache.without victim := by
  rw [evict, if_pos ((cache.isSome_find?_iff victim).mpr overflows.held)]

theorem Overflows.evictions_evict {victim : Path} {policy : Policy}
    (overflows : cache.Overflows now victim policy) :
    (cache.evict victim policy).counters.evictions = cache.counters.evictions + 1 := by
  rw [evict, if_pos ((cache.isSome_find?_iff victim).mpr overflows.held)]

variable {stored : CachedModule}

theorem displaced_of_held (held : stored.key.key ∈ cache.keys) :
    cache.displaced now stored = [] := by
  rw [displaced, if_pos ((cache.isSome_find?_iff stored.key).mpr held)]

theorem displaced_of_new (new : stored.key.key ∉ cache.keys) :
    cache.displaced now stored = (cache.reclaim now).victims := by
  rw [displaced, if_neg]
  rwa [isSome_find?_iff]

/-- A put displaces nothing, or it finds the cache full of live entries under other keys and takes
exactly one of them out. -/
theorem Coherent.displaced_cases (coherent : cache.Coherent) (now : Nat) (stored : CachedModule) :
    (cache.displaced now stored = [] ∧
        (cache.put now stored).counters.evictions = cache.counters.evictions ∧
        ¬ (cache.find? stored.key = none ∧ cache.entries.length = cache.capacity ∧
          ∀ entry ∈ cache.entries, cache.isExpired now entry = false)) ∨
      ∃ victim policy, cache.find? stored.key = none ∧ cache.Overflows now victim policy ∧
        cache.displaced now stored = [victim] ∧
        cache.put now stored = (cache.evict victim policy).insert now stored := by
  by_cases held : stored.key.key ∈ cache.keys
  · refine .inl ⟨displaced_of_held held, ?_, ?_⟩
    · rw [put_of_held held]
      rfl
    · rintro ⟨absent, _⟩
      exact (cache.find?_eq_none_iff stored.key).mp absent held
  · rw [displaced_of_new held, put_of_new held]
    obtain ⟨none, same, room⟩ | ⟨victim, policy, overflows, only, same⟩ :=
      coherent.room_or_overflow now
    · refine .inl ⟨none, ?_, ?_⟩
      · rw [same]
        exact cache.evictions_reclaim now
      · rintro ⟨_, full, fresh⟩
        obtain fits | ⟨entry, member, expired⟩ := room
        · omega
        · rw [fresh entry member] at expired
          cases expired
    · rw [same]
      exact .inr ⟨victim, policy, (cache.find?_eq_none_iff _).mpr held, overflows, only, rfl⟩

theorem Coherent.displaced_ne_nil_iff (coherent : cache.Coherent) (now : Nat)
    (stored : CachedModule) :
    cache.displaced now stored ≠ [] ↔
      cache.find? stored.key = none ∧ cache.entries.length = cache.capacity ∧
        ∀ entry ∈ cache.entries, cache.isExpired now entry = false := by
  obtain ⟨none, _, room⟩ | ⟨victim, policy, absent, overflows, only, _⟩ :=
    coherent.displaced_cases now stored
  · exact iff_of_false (fun displaces => displaces none) room
  · rw [only]
    exact iff_of_true (List.cons_ne_nil _ _) ⟨absent, overflows.full, overflows.fresh⟩

namespace Coherent

/-- What neither an expiry nor an eviction nor the storing itself shows, a put does not show. -/
theorem put_keeps {α : Type} (coherent : cache.Coherent) (observe : ModuleCache → α)
    (expiry : ∀ current path, observe (current.expire path) = observe current)
    (eviction : ∀ current victim policy, observe (current.evict victim policy) = observe current)
    (insertion : ∀ current, observe (current.insert now stored) = observe current)
    (replacement : observe (cache.replace now stored) = observe cache) :
    observe (cache.put now stored) = observe cache := by
  by_cases held : stored.key.key ∈ cache.keys
  · rw [put_of_held held]
    exact replacement
  · rw [put_of_new held, insertion]
    obtain ⟨_, same, _⟩ | ⟨victim, policy, _, _, same⟩ := coherent.room_or_overflow now
    · rw [same]
      exact reclaim_keeps observe expiry cache now
    · rw [same]
      exact eviction cache victim policy

theorem lifetime_put (coherent : cache.Coherent) (now : Nat) (stored : CachedModule) :
    (cache.put now stored).lifetime = cache.lifetime :=
  coherent.put_keeps ModuleCache.lifetime (fun _ _ => rfl) lifetime_evict (fun _ => rfl) rfl

theorem hits_put (coherent : cache.Coherent) (now : Nat) (stored : CachedModule) :
    (cache.put now stored).counters.hits = cache.counters.hits :=
  coherent.put_keeps (fun current => current.counters.hits) (fun _ _ => rfl) hits_evict
    (fun _ => rfl) rfl

theorem misses_put (coherent : cache.Coherent) (now : Nat) (stored : CachedModule) :
    (cache.put now stored).counters.misses = cache.counters.misses :=
  coherent.put_keeps (fun current => current.counters.misses) (fun _ _ => rfl) misses_evict
    (fun _ => rfl) rfl

/-! How each operation changes the live entries. -/

theorem mem_live_put (coherent : cache.Coherent) :
    entry ∈ (cache.put now stored).live now ↔
      (entry = ⟨stored, now⟩ ∨ entry ∈ cache.live now ∧ ¬ stored.key.Same entry.stored.key ∧
        ∀ victim ∈ cache.displaced now stored, ¬ victim.Same entry.stored.key) ∧
      cache.isExpired now entry = false := by
  rw [mem_live, isExpired_congr (coherent.lifetime_put now stored)]
  refine and_congr_left fun fresh => ?_
  have liveIff : entry ∈ cache.live now ↔ entry ∈ cache.entries := by simp [fresh]
  by_cases held : stored.key.key ∈ cache.keys
  · rw [put_of_held held, mem_entries_replace held, displaced_of_held held, liveIff]
    simp [Path.Same, eq_comm]
  · have different : entry ∈ cache.live now → ¬ stored.key.Same entry.stored.key := by
      intro member same
      exact held ((cache.mem_keys stored.key).mpr ⟨entry, (liveIff.mp member), same.symm⟩)
    rw [put_of_new held, mem_entries_insert, displaced_of_new held, or_comm]
    refine or_congr_right ?_
    obtain ⟨none, same, _⟩ | ⟨victim, policy, overflows, only, same⟩ :=
      coherent.room_or_overflow now
    · have reclaimed : entry ∈ (cache.reclaim now).entries ↔ entry ∈ cache.live now := by
        rw [← live_reclaim coherent.nodup, mem_live, isExpired_congr (cache.lifetime_reclaim now)]
        simp [fresh]
      rw [same, none, reclaimed]
      simpa using different
    · rw [same, only, overflows.entries_evict, mem_without, ← liveIff]
      simp only [List.mem_singleton, forall_eq, Path.Same, eq_comm (a := victim.key)]
      exact and_congr_right fun member => (and_iff_right (different member)).symm

theorem mem_live_get (coherent : cache.Coherent) :
    entry ∈ (cache.get now path).2.live now ↔ entry ∈ cache.live now := by
  obtain ⟨_, same⟩ | ⟨looked, found, expired, same⟩ | ⟨_, _, _, same⟩ := cache.get_cases now path
  · rw [same]
    exact Iff.rfl
  · rw [same]
    change entry ∈ (cache.expire path).live now ↔ _
    have lifetime : (cache.expire path).lifetime = cache.lifetime := rfl
    rw [mem_live, mem_live, isExpired_congr lifetime]
    refine and_congr_left fun fresh => ?_
    change entry ∈ cache.without path ↔ _
    rw [mem_without, and_iff_left_iff_imp]
    intro member alike
    have own := (find?_eq_some_iff coherent.nodup).mpr ⟨member, alike⟩
    rw [found, Option.some.injEq] at own
    rw [own, fresh] at expired
    cases expired
  · rw [same]
    exact Iff.rfl

end Coherent

theorem mem_live_remove :
    entry ∈ (cache.remove path).2.live now ↔
      entry ∈ cache.live now ∧ ¬ path.Same entry.stored.key := by
  have symmetric : path.Same entry.stored.key ↔ entry.stored.key.Same path :=
    ⟨Path.Same.symm, Path.Same.symm⟩
  rw [symmetric]
  unfold remove
  cases found : cache.find? path with
  | none =>
      rw [mem_live, iff_self_and]
      rintro ⟨member, _⟩ same
      exact (cache.find?_eq_none_iff path).mp found ((cache.mem_keys path).mpr ⟨entry, member, same⟩)
  | some taken =>
      change entry ∈ (cache.without path).filter _ ↔ _
      rw [List.mem_filter, mem_without, mem_live]
      simp only [Bool.not_eq_true']
      exact and_right_comm

end ModuleCache

end WasmTasks
