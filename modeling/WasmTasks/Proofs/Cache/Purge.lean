import WasmTasks.Proofs.Cache.History

/-!
Purging early or late. To forget one key commutes with every use and every addition of another one,
in each of the representations. So it does not matter when expired entries are dropped: a cache that
is purged before a lookup or an insertion and one that is purged after it are the same, and a lookup
that finds nothing leaves the order of the victims as it is.
-/

namespace WasmTasks

namespace Cache

variable {a b : Path}

theorem any_filter_apart (paths : List Path) (apart : ¬ b.Same a) :
    (paths.filter fun entry => ¬ entry.Same a).any (fun entry => entry.Same b) =
      paths.any fun entry => entry.Same b := by
  rw [List.any_filter]
  congr 1
  funext entry
  by_cases same : entry.Same b
  · have away : ¬ entry.Same a := fun other => apart (same.symm.trans other)
    simp [same, away]
  · simp [same]

namespace Lfu

theorem remove_congr (policy : Lfu) (same : a.Same b) : policy.remove a = policy.remove b := by
  simp only [remove, decide_not, Path.decide_same_congr same]

theorem remove_comm (policy : Lfu) (a b : Path) :
    (policy.remove a).remove b = (policy.remove b).remove a := by
  simp only [remove, List.filter_filter, Bool.and_comm]

theorem touch_remove (policy : Lfu) (a b : Path) :
    (policy.touch b).remove a = (policy.remove a).touch b := by
  simp only [touch, remove, List.filter_map, mk.injEq, and_true]
  apply congrArg (List.map _)
  apply List.filter_congr
  intro entry _
  simp only [Function.comp_apply]
  split <;> rfl

theorem add_remove (policy : Lfu) (apart : ¬ b.Same a) :
    (policy.add b).remove a = (policy.remove a).add b := by
  have known : (policy.remove a).entries.any (fun entry => entry.path.Same b) =
      policy.entries.any fun entry => entry.path.Same b := by
    have paths := any_filter_apart policy.tracked apart
    rwa [tracked, List.filter_map, List.any_map, List.any_map] at paths
  have serial : (policy.remove a).nextSerial = policy.nextSerial := rfl
  rw [add, add, known, serial]
  cases policy.entries.any fun entry => entry.path.Same b with
  | true =>
      simp only [if_true, remove, List.filter_map, mk.injEq, and_true]
      apply congrArg (List.map _)
      apply List.filter_congr
      intro entry _
      simp only [Function.comp_apply]
      split <;> rfl
  | false => simp [remove, apart]

end Lfu

namespace Lru

theorem remove_congr (policy : Lru) (same : a.Same b) : policy.remove a = policy.remove b := by
  simp only [remove, decide_not, Path.decide_same_congr same]

theorem remove_comm (policy : Lru) (a b : Path) :
    (policy.remove a).remove b = (policy.remove b).remove a := by
  simp only [remove, List.filter_filter, Bool.and_comm]

theorem touch_remove (policy : Lru) (apart : ¬ b.Same a) :
    (policy.touch b).remove a = (policy.remove a).touch b := by
  rw [touch, touch, remove_comm policy a b, remove, List.filter_append]
  simp [apart, remove]

end Lru

namespace Arc

variable {list : List Path}

theorem drop_congr (list : List Path) (same : a.Same b) : drop list a = drop list b := by
  simp only [drop, Path.decide_same_congr same]

theorem drop_comm (list : List Path) (a b : Path) :
    drop (drop list a) b = drop (drop list b) a := by
  by_cases same : a.Same b
  · rw [drop_congr list same, drop_congr _ same]
  · apply List.eraseP_comm
    intro entry _
    by_cases left : entry.Same a
    · right
      simpa using fun right => same (left.symm.trans right)
    · left
      simpa using left

theorem drop_concat (apart : ¬ b.Same a) : drop (list ++ [b]) a = drop list a ++ [b] := by
  rw [drop, List.eraseP_append]
  split
  · rfl
  · rename_i absent
    have untouched : drop list a = list :=
      List.eraseP_of_forall_not (by simpa [List.any_eq_true] using absent)
    rw [untouched, List.eraseP_of_forall_not (by simpa using apart)]

theorem holds_drop (apart : ¬ b.Same a) : holds (drop list b) a = holds list a := by
  rw [Bool.eq_iff_iff, holds_iff, holds_iff, keys_drop]
  exact List.mem_erase_of_ne fun same => apart same.symm

theorem holds_concat (apart : ¬ b.Same a) : holds (list ++ [b]) a = holds list a := by
  simp [holds, apart]

theorem holds_congr (list : List Path) (same : a.Same b) : holds list a = holds list b := by
  simp only [holds, Path.decide_same_congr same]

theorem remove_congr (policy : Arc) (same : a.Same b) : policy.remove a = policy.remove b := by
  simp only [remove, holds_congr _ same, drop_congr _ same]

theorem remove_comm (policy : Arc) (a b : Path) :
    (policy.remove a).remove b = (policy.remove b).remove a := by
  by_cases same : b.Same a
  · rw [policy.remove_congr same, Arc.remove_congr _ same]
  · have other : ¬ a.Same b := fun reverse => same reverse.symm
    unfold remove
    cases first : holds policy.recent a <;> cases second : holds policy.recent b <;>
      simp [first, second, holds_drop same, holds_drop other, drop_comm _ a b]

theorem touch_remove (policy : Arc) (apart : ¬ b.Same a) :
    (policy.touch b).remove a = (policy.remove a).touch b := by
  have other : ¬ a.Same b := fun reverse => apart reverse.symm
  unfold touch remove
  cases used : holds policy.recent b <;> cases forgotten : holds policy.recent a <;>
    cases frequent : holds policy.frequent b <;>
    simp [used, forgotten, frequent, holds_drop apart, holds_drop other, drop_concat apart,
      drop_comm _ a b]

theorem add_remove (policy : Arc) (apart : ¬ b.Same a) :
    (policy.add b).remove a = (policy.remove a).add b := by
  unfold add remove
  cases recent : holds policy.recentGhosts b <;> cases frequent : holds policy.frequentGhosts b <;>
    cases forgotten : holds policy.recent a <;>
    simp [recent, frequent, forgotten, holds_concat apart, drop_concat apart]

end Arc

namespace Simple

theorem remove_congr (policy : Simple) (same : a.Same b) :
    policy.remove a = policy.remove b := by
  simp only [remove, decide_not, Path.decide_same_congr same]

theorem remove_comm (policy : Simple) (a b : Path) :
    (policy.remove a).remove b = (policy.remove b).remove a := by
  simp only [remove, List.filter_filter, Bool.and_comm]

theorem add_remove (policy : Simple) (apart : ¬ b.Same a) :
    (policy.add b).remove a = (policy.remove a).add b := by
  have known : (policy.remove a).keys.any (fun entry => entry.Same b) =
      policy.keys.any fun entry => entry.Same b := any_filter_apart policy.keys apart
  rw [add, add, known]
  cases policy.keys.any fun entry => entry.Same b with
  | true => rfl
  | false => simp [remove, apart]

end Simple

namespace Policy

theorem remove_congr (policy : Policy) (same : a.Same b) : policy.remove a = policy.remove b := by
  cases policy with
  | lfu policy => exact congrArg lfu (policy.remove_congr same)
  | lru policy => exact congrArg lru (policy.remove_congr same)
  | arc policy => exact congrArg arc (policy.remove_congr same)
  | simple policy => exact congrArg simple (policy.remove_congr same)

theorem remove_comm (policy : Policy) (a b : Path) :
    (policy.remove a).remove b = (policy.remove b).remove a := by
  cases policy with
  | lfu policy => exact congrArg lfu (policy.remove_comm a b)
  | lru policy => exact congrArg lru (policy.remove_comm a b)
  | arc policy => exact congrArg arc (policy.remove_comm a b)
  | simple policy => exact congrArg simple (policy.remove_comm a b)

theorem touch_remove (policy : Policy) (apart : ¬ b.Same a) :
    (policy.touch b).remove a = (policy.remove a).touch b := by
  cases policy with
  | lfu policy => exact congrArg lfu (policy.touch_remove a b)
  | lru policy => exact congrArg lru (policy.touch_remove apart)
  | arc policy => exact congrArg arc (policy.touch_remove apart)
  | simple policy => rfl

theorem add_remove (policy : Policy) (apart : ¬ b.Same a) :
    (policy.add b).remove a = (policy.remove a).add b := by
  cases policy with
  | lfu policy => exact congrArg lfu (policy.add_remove apart)
  | lru policy => exact congrArg lru (policy.touch_remove apart)
  | arc policy => exact congrArg arc (policy.add_remove apart)
  | simple policy => exact congrArg simple (policy.add_remove apart)

theorem drain_of_evict? {policy rest : Policy} {victim : Path}
    (chosen : policy.evict? = some (victim, rest)) : policy.drain.1 = victim :: rest.drain.1 := by
  rw [drain]
  split
  · rename_i stuck
    rw [chosen] at stuck
    cases stuck
  · rename_i other last found
    rw [chosen] at found
    cases found
    rfl

end Policy

end Cache

namespace ModuleCache

open Cache

variable {cache : ModuleCache} {now later : Nat} {path other : Path} {entry : Entry}

theorem without_congr (cache : ModuleCache) (same : path.Same other) :
    cache.without path = cache.without other := by
  simp only [without, decide_not, Path.decide_same_congr same]

theorem expire_congr (cache : ModuleCache) (same : path.Same other) :
    cache.expire path = cache.expire other := by
  rw [expire, expire, without_congr cache same, Policy.remove_congr cache.policy same]

theorem expire_comm (cache : ModuleCache) (path other : Path) :
    (cache.expire path).expire other = (cache.expire other).expire path := by
  simp only [expire, without, Policy.remove_comm cache.policy path other, List.filter_filter,
    Bool.and_comm]

theorem foldl_expire_perm {first second : List Entry} (permuted : first.Perm second)
    (cache : ModuleCache) :
    first.foldl (fun current entry => current.expire entry.stored.key) cache =
      second.foldl (fun current entry => current.expire entry.stored.key) cache :=
  permuted.foldl_eq' (fun _ _ _ _ current => expire_comm current _ _) cache

theorem mem_find? (found : cache.find? path = some entry) :
    entry ∈ cache.entries ∧ entry.stored.key.Same path :=
  ⟨List.mem_of_find?_eq_some found, by simpa using List.find?_some found⟩

theorem perm_cons_without (nodup : cache.keys.Nodup) (found : cache.find? path = some entry) :
    cache.entries.Perm (entry :: cache.without path) := by
  obtain ⟨member, same⟩ := mem_find? found
  have away : entry ∉ cache.without path := fun rest => (mem_without.mp rest).2 same
  have rest : (cache.without path).Nodup := (nodup_entries nodup).filter _
  rw [List.perm_ext_iff_of_nodup (nodup_entries nodup) (List.nodup_cons.mpr ⟨away, rest⟩)]
  intro other
  rw [List.mem_cons, mem_without]
  constructor
  · intro otherMember
    by_cases otherSame : other.stored.key.Same path
    · exact .inl (eq_of_same nodup otherMember member (otherSame.trans same.symm))
    · exact .inr ⟨otherMember, otherSame⟩
  · rintro (rfl | ⟨otherMember, _⟩)
    · exact member
    · exact otherMember

/-- What has expired may as well leave before the purge. -/
theorem purge_expire (nodup : cache.keys.Nodup) (found : cache.find? path = some entry)
    (expired : cache.isExpired later entry = true) :
    (cache.expire path).purge later = cache.purge later := by
  have same : (cache.expire path).isExpired = cache.isExpired := isExpired_congr rfl
  have left : cache.entries.filter (cache.isExpired later) |>.Perm
      (entry :: (cache.without path).filter (cache.isExpired later)) := by
    have parts := (perm_cons_without nodup found).filter (cache.isExpired later)
    rwa [List.filter_cons_of_pos expired] at parts
  unfold purge
  rw [foldl_expire_perm left, List.foldl_cons, expire_congr cache (mem_find? found).2, same]
  rfl

/-- A change that expiries do not interfere with may come before or after them. -/
theorem foldl_expire_comm (change : ModuleCache → ModuleCache) (expired : List Entry)
    (apart : ∀ current, ∀ entry ∈ expired,
      (change current).expire entry.stored.key = change (current.expire entry.stored.key))
    (cache : ModuleCache) :
    expired.foldl (fun current entry => current.expire entry.stored.key) (change cache) =
      change (expired.foldl (fun current entry => current.expire entry.stored.key) cache) := by
  induction expired generalizing cache with
  | nil => rfl
  | cons entry others ih =>
      rw [List.foldl_cons, List.foldl_cons, apart cache entry List.mem_cons_self]
      exact ih (fun current other member => apart current other (List.mem_cons_of_mem _ member)) _

theorem purge_change (change : ModuleCache → ModuleCache) {now : Nat}
    (expired : (change cache).entries.filter ((change cache).isExpired now) =
      cache.entries.filter (cache.isExpired now))
    (apart : ∀ current, ∀ entry ∈ cache.entries, cache.isExpired now entry = true →
      (change current).expire entry.stored.key = change (current.expire entry.stored.key)) :
    (change cache).purge now = change (cache.purge now) := by
  unfold purge
  rw [expired]
  apply foldl_expire_comm
  intro current entry member
  obtain ⟨held, gone⟩ := List.mem_filter.mp member
  exact apart current entry held gone

theorem purge_purge (nodup : cache.keys.Nodup) (le : now ≤ later) :
    (cache.purge now).purge later = cache.purge later := by
  have first : (cache.entries.filter (cache.isExpired later)).filter (cache.isExpired now) =
      cache.entries.filter (cache.isExpired now) := by
    rw [List.filter_filter]
    apply List.filter_congr
    intro entry _
    cases fresh : cache.isExpired later entry with
    | true => rw [Bool.and_true]
    | false => rw [Bool.and_false, isExpired_of_le le fresh]
  have parts := List.filter_append_perm (cache.isExpired now)
    (cache.entries.filter (cache.isExpired later))
  rw [first, List.filter_comm] at parts
  have same : (cache.purge now).isExpired = cache.isExpired := isExpired_congr (by simp)
  have both : (cache.purge now).purge later = (cache.entries.filter (cache.isExpired now) ++
      (cache.live now).filter (cache.isExpired later)).foldl
        (fun current entry => current.expire entry.stored.key) cache := by
    rw [List.foldl_append, purge, same, entries_purge nodup]
    rfl
  rw [both]
  exact foldl_expire_perm parts cache

theorem purge_countMiss (cache : ModuleCache) (now : Nat) :
    cache.countMiss.purge now = (cache.purge now).countMiss :=
  purge_change countMiss rfl fun _ _ _ _ => rfl

def use (path : Path) (cache : ModuleCache) : ModuleCache :=
  { cache.countHit with policy := cache.policy.touch path }

theorem purge_use (apart : ∀ entry ∈ cache.entries, cache.isExpired now entry = true →
    ¬ path.Same entry.stored.key) : (cache.use path).purge now = (cache.purge now).use path := by
  refine purge_change (use path) rfl fun current entry member expired => ?_
  have commutes := current.policy.touch_remove (apart entry member expired)
  simp only [use, expire, commutes, countHit, without]

theorem purge_insert {stored : CachedModule}
    (fresh : cache.isExpired now ⟨stored, now⟩ = false)
    (new : stored.key.key ∉ cache.keys) :
    (cache.insert now stored).purge now = (cache.purge now).insert now stored := by
  refine purge_change (fun current => current.insert now stored) ?_ ?_
  · have same : (cache.insert now stored).isExpired = cache.isExpired := isExpired_congr rfl
    rw [same, insert, List.filter_append, List.filter_cons_of_neg, List.filter_nil, List.append_nil]
    simp [fresh]
  · intro current entry member _
    have apart : ¬ stored.key.Same entry.stored.key := fun same =>
      new ((cache.mem_keys stored.key).mpr ⟨entry, member, same.symm⟩)
    have commutes := current.policy.add_remove apart
    simp only [insert, expire, commutes, without, List.filter_append]
    simp [apart]

/-! Lookups and stores before and after a purge. -/

theorem Coherent.find?_purge_eq_some_iff (coherent : cache.Coherent) :
    (cache.purge now).find? path = some entry ↔
      cache.find? path = some entry ∧ cache.isExpired now entry = false := by
  rw [find?_eq_some_iff (coherent.purge now).nodup, find?_eq_some_iff coherent.nodup,
    entries_purge coherent.nodup, mem_live, and_right_comm]

theorem Coherent.find?_purge_eq_none (coherent : cache.Coherent)
    (gone : ∀ entry, cache.find? path = some entry → cache.isExpired now entry = true) :
    (cache.purge now).find? path = none := by
  rw [Option.eq_none_iff_forall_ne_some]
  intro entry found
  obtain ⟨known, fresh⟩ := coherent.find?_purge_eq_some_iff.mp found
  rw [gone entry known] at fresh
  cases fresh

theorem Coherent.get_purge (coherent : cache.Coherent) (now : Nat) (path : Path) :
    (cache.purge now).get now path =
      ((cache.get now path).1, (cache.get now path).2.purge now) := by
  cases found : cache.find? path with
  | none =>
      have absent : (cache.purge now).find? path = none :=
        coherent.find?_purge_eq_none fun entry known => by simp [found] at known
      rw [get_of_absent found, get_of_absent absent, purge_countMiss]
  | some entry =>
      cases expired : cache.isExpired now entry with
      | true =>
          have absent : (cache.purge now).find? path = none :=
            coherent.find?_purge_eq_none fun other known => by
              rw [found, Option.some.injEq] at known
              rwa [← known]
          rw [get_of_expired found expired, get_of_absent absent, purge_countMiss,
            purge_expire coherent.nodup found expired]
      | false =>
          have kept := coherent.find?_purge_eq_some_iff.mpr ⟨found, expired⟩
          have fresh : (cache.purge now).isExpired now entry = false := by
            rwa [isExpired_congr (lifetime_purge cache now)]
          rw [get_of_fresh found expired, get_of_fresh kept fresh]
          refine Prod.ext rfl (purge_use ?_).symm
          intro other member gone same
          obtain ⟨held, own⟩ := mem_find? found
          rw [eq_of_same coherent.nodup member held (same.symm.trans own.symm), expired] at gone
          cases gone

theorem entries_get_subset (cache : ModuleCache) (now : Nat) (path : Path) :
    (cache.get now path).2.entries ⊆ cache.entries := by
  unfold get
  split
  · exact List.Subset.refl _
  · split
    · exact List.filter_subset_self _
    · exact List.Subset.refl _

theorem entries_remove_subset (cache : ModuleCache) (path : Path) :
    (cache.remove path).2.entries ⊆ cache.entries := by
  unfold remove
  split
  · exact List.Subset.refl _
  · exact List.filter_subset_self _

theorem Coherent.entries_makeRoom_subset (coherent : cache.Coherent) :
    cache.makeRoom.entries ⊆ cache.entries := by
  obtain ⟨_, same⟩ | ⟨victim, policy, _, _, held, _, same⟩ := coherent.makeRoom_cases
  · rw [same]
    exact List.Subset.refl _
  · rw [same, ModuleCache.evict, if_pos held]
    exact List.filter_subset_self _

theorem fresh_purge (nodup : cache.keys.Nodup) :
    ∀ entry ∈ (cache.purge now).entries, (cache.purge now).isExpired now entry = false := by
  intro entry member
  rw [entries_purge nodup, mem_live] at member
  rw [isExpired_congr (lifetime_purge cache now)]
  exact member.2

theorem entries_purge_subset (nodup : cache.keys.Nodup) (now : Nat) :
    (cache.purge now).entries ⊆ cache.entries := by
  rw [entries_purge nodup]
  exact List.filter_subset_self _

theorem Coherent.mem_entries_put (coherent : cache.Coherent) {stored : CachedModule}
    (member : entry ∈ (cache.put now stored).entries) :
    entry = ⟨stored, now⟩ ∨ entry ∈ cache.entries ∧ ¬ entry.stored.key.Same stored.key := by
  by_cases held : stored.key.key ∈ cache.keys
  · rw [put_of_held held] at member
    exact (mem_entries_replace held).mp member
  · rw [put_of_new held, mem_entries_insert, or_comm] at member
    refine member.imp_right fun kept => ?_
    have earlier : entry ∈ (cache.reclaim now).entries :=
      (coherent.reclaim now).entries_makeRoom_subset kept
    have known : entry ∈ cache.entries := by
      unfold ModuleCache.reclaim at earlier
      split at earlier
      · exact entries_purge_subset coherent.nodup now earlier
      · exact earlier
    exact ⟨known, fun same => held ((cache.mem_keys stored.key).mpr ⟨entry, known, same⟩)⟩

theorem Coherent.purge_put_of_fresh (coherent : cache.Coherent)
    (endures : cache.lifetime ≠ some 0) {stored : CachedModule}
    (fresh : ∀ entry ∈ cache.entries, cache.isExpired now entry = false) :
    (cache.put now stored).purge now = cache.put now stored := by
  apply purge_of_fresh
  intro entry member
  rw [isExpired_congr (coherent.lifetime_put now stored)]
  obtain rfl | ⟨held, _⟩ := coherent.mem_entries_put member
  · exact isExpired_self endures stored
  · exact fresh entry held

/-- A new key finds the same room before a purge as after it. -/
theorem Coherent.put_purge (coherent : cache.Coherent) (endures : cache.lifetime ≠ some 0)
    {stored : CachedModule} (new : stored.key.key ∉ cache.keys) :
    (cache.purge now).put now stored = (cache.put now stored).purge now := by
  have purged := coherent.purge now
  have fresh : ∀ entry ∈ (cache.purge now).entries, (cache.purge now).isExpired now entry = false :=
    fresh_purge coherent.nodup
  have stillNew : stored.key.key ∉ (cache.purge now).keys := by
    rw [mem_keys] at new ⊢
    rintro ⟨entry, member, same⟩
    exact new ⟨entry, entries_purge_subset coherent.nodup now member, same⟩
  have purgedPut : (cache.purge now).put now stored =
      (cache.purge now).makeRoom.insert now stored := by
    rw [put_of_new stillNew, reclaim_of_fresh fresh]
  by_cases full : cache.capacity ≤ cache.entries.length
  · -- the put itself purges
    have same : cache.put now stored = (cache.purge now).put now stored := by
      rw [purgedPut, put_of_new new, ModuleCache.reclaim, if_pos full]
    have stillEndures : (cache.purge now).lifetime ≠ some 0 := by rwa [lifetime_purge]
    rw [same, purged.purge_put_of_fresh stillEndures fresh]
  · have fits : cache.entries.length < cache.capacity := Nat.not_le.mp full
    have roomy : (cache.purge now).entries.length < (cache.purge now).capacity := by
      rw [entries_purge coherent.nodup, capacity_purge]
      exact Nat.lt_of_le_of_lt (List.length_filter_le _ _) fits
    rw [purgedPut, makeRoom_of_fits roomy, put_of_new new, ModuleCache.reclaim, if_neg full,
      makeRoom_of_fits fits, purge_insert (isExpired_self endures stored) new]

/-! Lookups that miss. -/

theorem entries_get_of_missed (missed : (cache.get now path).1 = none) :
    (cache.get now path).2.entries = cache.without path := by
  obtain ⟨absent, same⟩ | ⟨entry, _, _, same⟩ := get_of_missed missed
  · rw [same]
    refine (List.filter_eq_self.mpr fun entry member => ?_).symm
    simpa using List.find?_eq_none.mp absent entry member
  · rw [same]
    rfl

theorem notMem_of_missed (missed : (cache.get now path).1 = none) :
    path.key ∉ (cache.get now path).2.keys := by
  rw [mem_keys, entries_get_of_missed missed]
  rintro ⟨entry, member, same⟩
  exact (mem_without.mp member).2 same

theorem contains_get_of_missed (missed : (cache.get now path).1 = none) (later : Nat) :
    (cache.get now path).2.contains later path = false := by
  rw [contains, (find?_eq_none_iff _ path).mpr (notMem_of_missed missed)]

/-! Victims and the purge. -/

/-- The keys in the order in which they would be evicted. A put chooses no victim while it finds an
expired entry, so these are gone before the policy is asked. -/
def victimOrder (cache : ModuleCache) (now : Nat) : List Path :=
  (cache.purge now).policy.drain.1

/-- The victim of a put comes first in the order. -/
theorem Coherent.displaced_prefix_victimOrder (coherent : cache.Coherent) (now : Nat)
    (stored : CachedModule) : cache.displaced now stored <+: cache.victimOrder now := by
  obtain ⟨none, _, _⟩ | ⟨victim, policy, _, overflows, only, _⟩ :=
    coherent.displaced_cases now stored
  · rw [none]
    exact List.nil_prefix
  · rw [only, victimOrder, purge_of_fresh overflows.fresh, Policy.drain_of_evict? overflows.chosen]
    exact ⟨_, rfl⟩

theorem Coherent.purge_get_of_missed (coherent : cache.Coherent)
    (missed : (cache.get now path).1 = none) (le : now ≤ later) :
    (cache.get now path).2.purge later = (cache.purge later).countMiss := by
  obtain ⟨_, same⟩ | ⟨entry, found, expired, same⟩ := get_of_missed missed
  · rw [same, purge_countMiss]
  · have still : cache.isExpired later entry = true := by
      by_contra fresh
      rw [isExpired_of_le le (Bool.eq_false_iff.mpr fresh)] at expired
      cases expired
    rw [same, purge_countMiss, purge_expire coherent.nodup found still]

theorem Coherent.victimOrder_get_of_missed (coherent : cache.Coherent)
    (missed : (cache.get now path).1 = none) (le : now ≤ later) :
    (cache.get now path).2.victimOrder later = cache.victimOrder later := by
  rw [victimOrder, coherent.purge_get_of_missed missed le]
  rfl

end ModuleCache

end WasmTasks
