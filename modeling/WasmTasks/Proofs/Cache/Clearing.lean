import WasmTasks.Proofs.Cache.Balance
import WasmTasks.Proofs.Cache.Likeness
import WasmTasks.Proofs.Cache.Presence

/-!
Cleared caches. A clear takes the keys out of the policy one by one; what counts and recency leave
behind ranks nothing, so that a cleared cache goes on as a new one does and counts what it counts.
-/

namespace WasmTasks

namespace Cache

instance : Add Counters where
  add counters more :=
    ⟨counters.hits + more.hits, counters.misses + more.misses,
      counters.evictions + more.evictions, counters.expirations + more.expirations⟩

namespace Counters

theorem add_zero (counters : Counters) : counters + zero = counters := rfl

theorem zero_add (counters : Counters) : zero + counters = counters := by
  change Counters.mk _ _ _ _ = counters
  simp [zero]

theorem add_assoc (counters more last : Counters) :
    counters + more + last = counters + (more + last) := by
  change Counters.mk (_ + _ + _) (_ + _ + _) (_ + _ + _) (_ + _ + _) = _
  simp only [Nat.add_assoc]
  rfl

end Counters

end Cache

namespace ModuleCache

open Cache

variable {cache : ModuleCache} {now : Nat} {path : Path} {stored : CachedModule}

def lookupCount (cache : ModuleCache) (now : Nat) (path : Path) : Counters :=
  match cache.find? path with
  | none => ⟨0, 1, 0, 0⟩
  | some entry => if cache.isExpired now entry then ⟨0, 1, 0, 1⟩ else ⟨1, 0, 0, 0⟩

/-- The expired entries that reclaiming room takes out. -/
def reclaimed (cache : ModuleCache) (now : Nat) : List Entry :=
  if cache.capacity ≤ cache.entries.length then cache.entries.filter (cache.isExpired now) else []

def putCount (cache : ModuleCache) (now : Nat) (stored : CachedModule) : Counters :=
  if (cache.find? stored.key).isSome then .zero
  else ⟨0, 0, (cache.displaced now stored).length, (cache.reclaimed now).length⟩

theorem counters_purge (cache : ModuleCache) (now : Nat) :
    (cache.purge now).counters =
      cache.counters + ⟨0, 0, 0, (cache.entries.filter (cache.isExpired now)).length⟩ := by
  unfold purge
  generalize cache.entries.filter (cache.isExpired now) = expired
  induction expired generalizing cache with
  | nil => rfl
  | cons entry others ih =>
      rw [List.foldl_cons, ih, List.length_cons, Nat.add_comm others.length]
      exact Counters.add_assoc cache.counters ⟨0, 0, 0, 1⟩ ⟨0, 0, 0, others.length⟩

theorem counters_reclaim (cache : ModuleCache) (now : Nat) :
    (cache.reclaim now).counters = cache.counters + ⟨0, 0, 0, (cache.reclaimed now).length⟩ := by
  unfold reclaim reclaimed
  split
  · exact cache.counters_purge now
  · rfl

theorem Overflows.counters_evict {victim : Path} {policy : Policy}
    (overflows : cache.Overflows now victim policy) :
    (cache.evict victim policy).counters = cache.counters + ⟨0, 0, 1, 0⟩ := by
  rw [evict, if_pos ((cache.isSome_find?_iff victim).mpr overflows.held)]
  rfl

theorem Overflows.reclaimed_eq_nil {victim : Path} {policy : Policy}
    (overflows : cache.Overflows now victim policy) : cache.reclaimed now = [] := by
  have none : cache.entries.filter (cache.isExpired now) = [] := by
    rw [List.filter_eq_nil_iff]
    intro entry member
    rw [overflows.fresh entry member]
    exact Bool.false_ne_true
  rw [reclaimed, none, ite_self]

theorem counters_get (cache : ModuleCache) (now : Nat) (path : Path) :
    (cache.get now path).2.counters = cache.counters + cache.lookupCount now path := by
  unfold lookupCount
  cases found : cache.find? path with
  | none =>
      rw [get_of_absent found]
      rfl
  | some entry =>
      dsimp only
      cases expired : cache.isExpired now entry with
      | true =>
          rw [get_of_expired found expired, if_pos rfl]
          rfl
      | false =>
          rw [get_of_fresh found expired, if_neg Bool.false_ne_true]
          rfl

theorem Coherent.counters_put (coherent : cache.Coherent) (now : Nat) (stored : CachedModule) :
    (cache.put now stored).counters = cache.counters + cache.putCount now stored := by
  unfold putCount
  by_cases held : stored.key.key ∈ cache.keys
  · rw [put_of_held held, if_pos ((cache.isSome_find?_iff stored.key).mpr held)]
    rfl
  · rw [put_of_new held, if_neg ((cache.isSome_find?_iff stored.key).not.mpr held),
      displaced_of_new held]
    -- expired entries are counted one way and the policy's victim another, and never both
    obtain ⟨none, same, _⟩ | ⟨victim, policy, overflows, only, same⟩ :=
      coherent.room_or_overflow now
    · rw [none, same]
      exact cache.counters_reclaim now
    · rw [only, same, overflows.reclaimed_eq_nil]
      exact overflows.counters_evict

namespace Mirrors

variable {other : ModuleCache}

theorem lookupCount (mirrors : cache.Mirrors other) (now : Nat) (path : Path) :
    cache.lookupCount now path = other.lookupCount now path := by
  rw [ModuleCache.lookupCount, ModuleCache.lookupCount, mirrors.find?, mirrors.isExpired]

theorem length_reclaimed (mirrors : cache.Mirrors other) (now : Nat) :
    (cache.reclaimed now).length = (other.reclaimed now).length := by
  rw [reclaimed, reclaimed, mirrors.capacity, mirrors.entries.length_eq]
  split
  · exact (mirrors.expired_perm now).length_eq
  · rfl

end Mirrors

theorem Alike.putCount {other : ModuleCache} (alike : cache.Alike other) (now : Nat)
    (stored : CachedModule) : cache.putCount now stored = other.putCount now stored := by
  have victims := congrArg List.length (alike.displaced now stored)
  rw [Path.keys, Path.keys, List.length_map, List.length_map] at victims
  rw [ModuleCache.putCount, ModuleCache.putCount, alike.find?, victims, alike.length_reclaimed]

end ModuleCache

namespace Cache

def Step.counted (step : Step) : Counters :=
  match step.operation with
  | .get path => step.before.cache.lookupCount step.before.now path
  | .put stored => step.before.cache.putCount step.before.now stored
  | _ => .zero

end Cache

namespace Cache.Clocked

open ModuleCache

variable {state other : Clocked}

theorem counters_apply (coherent : state.cache.Coherent) (operation : Operation) :
    (state.apply operation).cache.counters =
      state.cache.counters + Step.counted ⟨state, operation⟩ := by
  cases operation with
  | put stored => exact coherent.counters_put state.now stored
  | get path => exact state.cache.counters_get state.now path
  | remove path => exact state.cache.lookups_remove path
  | _ => rfl

namespace Alike

theorem counted (alike : state.Alike other) (operation : Operation) :
    Step.counted ⟨state, operation⟩ = Step.counted ⟨other, operation⟩ := by
  obtain ⟨cache, now⟩ := state
  obtain ⟨other, later⟩ := other
  obtain ⟨alike, same⟩ := alike
  cases same
  cases operation with
  | put stored => exact alike.putCount now stored
  | get path => exact alike.lookupCount now path
  | _ => rfl

theorem run (alike : state.Alike other) (operations : List Operation) :
    (state.run operations).Alike (other.run operations) := by
  induction operations generalizing state other with
  | nil => exact alike
  | cons operation later ih => exact ih (alike.apply operation)

theorem counters_run (alike : state.Alike other) (operations : List Operation) :
    ∃ counted, (state.run operations).cache.counters = state.cache.counters + counted ∧
      (other.run operations).cache.counters = other.cache.counters + counted := by
  induction operations using List.reverseRecOn with
  | nil => exact ⟨.zero, rfl, rfl⟩
  | append_singleton earlier operation ih =>
      obtain ⟨counted, own, others⟩ := ih
      have reached := alike.run earlier
      refine ⟨counted + Step.counted ⟨state.run earlier, operation⟩, ?_, ?_⟩
      · rw [run_concat, counters_apply reached.cache.coherent, own, Counters.add_assoc]
      · rw [run_concat, counters_apply reached.cache.otherCoherent, others,
          ← reached.counted operation, Counters.add_assoc]

end Alike

end Cache.Clocked

namespace Cache

/-! What is left of a policy once its keys are gone. -/

theorem Lfu.alike_of_empty {policy other : Lfu} (none : policy.entries = [])
    (otherNone : other.entries = []) : policy.Alike other := by
  obtain ⟨_, serial⟩ := policy
  obtain ⟨_, otherSerial⟩ := other
  cases none
  cases otherNone
  exact ⟨⟨.nil, nofun⟩, ⟨.nil, nofun⟩, .nil⟩

namespace Policy

/-- Counts and recency rank no key but those that are tracked. -/
theorem alike_empty_of_untracked {policy : Policy}
    (forgetful : policy.kind = .lfu ∨ policy.kind = .lru) (untracked : policy.keys = [])
    (capacity : Nat) : policy.Alike (empty policy.kind capacity) := by
  have none : policy.tracked = [] := List.map_eq_nil_iff.mp untracked
  cases policy with
  | lfu policy => exact .lfu (Lfu.alike_of_empty (List.map_eq_nil_iff.mp none) rfl)
  | lru policy =>
      obtain ⟨order⟩ := policy
      cases none
      exact .lru _
  | _ =>
      obtain wrong | wrong := forgetful
      · cases wrong
      · cases wrong

end Policy

end Cache

namespace Cache.Clocked

open ModuleCache

/-- After a clear in any reachable state of a cache that counts accesses or orders them, every later
run gives the same answers and victims, and ends with the same number of entries, as the same run of
a new cache. Its counters are what they were at the clear and what the new cache counts. -/
theorem run_cleared_as_new {capacity : Nat} {kind : EvictionKind} {lifetime : Option Nat}
    {fresh : ModuleCache} {allocator : Allocator}
    (made : ModuleCache.new allocator capacity kind lifetime = .ok fresh)
    (forgetful : kind = .lfu ∨ kind = .lru) (start : Nat) (operations later : List Operation) :
    let reached := (Clocked.mk fresh start).run operations
    let cleared := reached.apply .clear
    let renewed := Clocked.mk fresh reached.now
    cleared.observations later = renewed.observations later ∧
      (cleared.run later).cache.entries.length = (renewed.run later).cache.entries.length ∧
      (cleared.run later).cache.counters =
        reached.cache.counters + (renewed.run later).cache.counters := by
  intro reached cleared renewed
  have freshCoherent : fresh.Coherent := (Coherent.of_new made).1
  obtain ⟨_, _, unused⟩ := new_eq_ok made
  obtain ⟨coherent, sameCapacity⟩ := run_coherent operations ⟨fresh, start⟩ freshCoherent
  have clearedCoherent : cleared.cache.Coherent := coherent.clear
  have sameKind : cleared.cache.policy.kind = kind := by
    rw [kind_apply coherent, kind_run freshCoherent, unused, Policy.kind_empty]
  have sameLifetime : cleared.cache.lifetime = fresh.lifetime :=
    lifetime_run freshCoherent operations
  have untracked : cleared.cache.policy.keys = [] :=
    List.perm_nil.mp clearedCoherent.agree.symm
  have policies : cleared.cache.policy.Alike fresh.policy := by
    have ranked := Policy.alike_empty_of_untracked (sameKind.symm ▸ forgetful) untracked capacity
    rw [sameKind] at ranked
    rwa [unused]
  have alike : cleared.Alike renewed := by
    have none : fresh.entries = [] := congrArg ModuleCache.entries unused
    exact ⟨⟨⟨clearedCoherent, freshCoherent, sameCapacity, sameLifetime, .of_eq none.symm⟩,
      policies⟩, rfl⟩
  refine ⟨alike.observations later, (alike.run later).cache.entries.length_eq, ?_⟩
  obtain ⟨counted, own, others⟩ := alike.counters_run later
  have noneYet : renewed.cache.counters = .zero := congrArg ModuleCache.counters unused
  rw [own, others, noneYet, Counters.zero_add]
  rfl

/-- The clear leaves the next serial behind, and the put of `z` a tie of two keys. -/
theorem run_cleared_as_new_tie :
    let named (name : String) : CachedModule := ⟨.ofString name, .wasmtime, [], ""⟩
    let fresh : ModuleCache := ⟨2, some 5, .lfu .empty, [], .zero⟩
    let reached := (Clocked.mk fresh 0).run [.put (named "a"), .get "a", .put (named "b")]
    let cleared := reached.apply .clear
    let later := [.put (named "y"), .put (named "x"), .put (named "z"), .get "y"]
    ModuleCache.new .generous 2 .lfu (some 5) = .ok fresh ∧
      cleared.cache.policy.tracked = [] ∧ reached.cache.counters = ⟨1, 0, 0, 0⟩ ∧
      cleared.observations later = (Clocked.mk fresh 0).observations later ∧
      (cleared.run later).cache.counters = ⟨1, 1, 1, 0⟩ := by
  intro named fresh reached cleared later
  have made : ModuleCache.new .generous 2 .lfu (some 5) = .ok fresh := rfl
  have untracked : cleared.cache.policy.tracked = [] := by cbv
  have before : reached.cache.counters = ⟨1, 0, 0, 0⟩ := by cbv
  have alone : ((Clocked.mk fresh 0).run later).cache.counters = ⟨0, 1, 1, 0⟩ := by cbv
  obtain ⟨same, _, counters⟩ := run_cleared_as_new made (.inl rfl) 0
    [.put (named "a"), .get "a", .put (named "b")] later
  refine ⟨made, untracked, before, same, counters.trans ?_⟩
  change reached.cache.counters + ((Clocked.mk fresh 0).run later).cache.counters = _
  rw [before, alone]
  rfl

end Cache.Clocked

end WasmTasks
