import WasmTasks.Proofs.Cache.PolicyLikeness

/-!
Caches that cannot be told apart. What a caller sees of a step is the answer and the victims. Two
caches with the same entries, in whatever order they are stored, and with policies that rank their
keys alike show the same in every run.
-/

namespace WasmTasks

namespace Cache

/-! What is seen of a run. -/

inductive Answer where
  | nothing
  | module (found : Option CachedModule)
  | presence (held : Bool)

structure Observation where
  answer : Answer
  victims : List (List Component)

namespace Step

def answer (step : Step) : Answer :=
  match step.operation with
  | .get path => .module (step.before.cache.get step.before.now path).1
  | .remove path => .module (step.before.cache.remove path).1
  | .contains path => .presence (step.before.cache.contains step.before.now path)
  | _ => .nothing

def observed (step : Step) : Observation :=
  ⟨step.answer, Path.keys step.victims⟩

end Step

def Clocked.observations (state : Clocked) (operations : List Operation) : List Observation :=
  (state.steps operations).map Step.observed

end Cache

namespace ModuleCache

open Cache

variable {cache other : ModuleCache} {now : Nat} {path : Path}

theorem policy_purge (cache : ModuleCache) (now : Nat) :
    (cache.purge now).policy = cache.policy.forget (cache.entries.filter (cache.isExpired now)) := by
  unfold purge
  generalize cache.entries.filter (cache.isExpired now) = expired
  induction expired generalizing cache with
  | nil => rfl
  | cons entry rest ih => exact ih (cache.expire entry.stored.key)

theorem entries_get_of_hit {stored : CachedModule}
    (hit : (cache.get now path).1 = some stored) :
    (cache.get now path).2.entries = cache.entries := by
  obtain ⟨_, _, _, _, used⟩ := get_of_hit hit
  rw [used]
  rfl

theorem without_of_absent (absent : cache.find? path = none) :
    cache.without path = cache.entries := by
  refine List.filter_eq_self.mpr fun entry member => ?_
  simpa using List.find?_eq_none.mp absent entry member

theorem entries_remove (cache : ModuleCache) (path : Path) :
    (cache.remove path).2.entries = cache.without path := by
  rw [remove]
  cases found : cache.find? path with
  | none => exact (without_of_absent found).symm
  | some entry => rfl

theorem lifetime_remove (cache : ModuleCache) (path : Path) :
    (cache.remove path).2.lifetime = cache.lifetime := by
  rw [remove]
  cases cache.find? path <;> rfl

theorem entries_reclaim (coherent : cache.Coherent) (now : Nat) :
    (cache.reclaim now).entries =
      if cache.capacity ≤ cache.entries.length then cache.live now else cache.entries := by
  rw [reclaim]
  split
  · exact entries_purge coherent.nodup now
  · rfl

theorem policy_reclaim (cache : ModuleCache) (now : Nat) :
    (cache.reclaim now).policy =
      if cache.capacity ≤ cache.entries.length then
        cache.policy.forget (cache.entries.filter (cache.isExpired now))
      else cache.policy := by
  rw [reclaim]
  split
  · exact cache.policy_purge now
  · rfl

/-! A new key is tracked neither once room was reclaimed nor after an eviction. -/

theorem Coherent.notMem_reclaim (coherent : cache.Coherent) (new : path.key ∉ cache.keys)
    (now : Nat) : path.key ∉ (cache.reclaim now).policy.keys := by
  rw [(coherent.reclaim now).mem_policy_iff]
  exact fun member => new (cache.keys_reclaim_subset now member)

theorem Coherent.notMem_of_evict? (coherent : cache.Coherent) (new : path.key ∉ cache.keys)
    {victim : Path} {policy : Policy} (chosen : cache.policy.evict? = some (victim, policy)) :
    path.key ∉ policy.keys := by
  intro member
  rw [← coherent.mem_policy_iff] at new
  have kept := Policy.keys_evict?_perm coherent.policy_nodup chosen
  exact new (kept.mem_iff.mpr (List.mem_cons_of_mem _ member))

theorem policy_insert_evict (cache : ModuleCache) (victim : Path) (policy : Policy) (now : Nat)
    (stored : CachedModule) :
    ((cache.evict victim policy).insert now stored).policy = policy.add stored.key := by
  rw [insert, policy_evict]

/-- Two coherent caches with the same entries. -/
structure Mirrors (cache other : ModuleCache) : Prop where
  coherent : cache.Coherent
  otherCoherent : other.Coherent
  capacity : cache.capacity = other.capacity
  lifetime : cache.lifetime = other.lifetime
  entries : cache.entries.Perm other.entries

namespace Mirrors

variable {stored : CachedModule} {policy otherPolicy : Policy}

theorem isExpired (mirrors : cache.Mirrors other) : cache.isExpired = other.isExpired :=
  isExpired_congr mirrors.lifetime

theorem mem_keys_iff (mirrors : cache.Mirrors other) (key : List Component) :
    key ∈ cache.keys ↔ key ∈ other.keys :=
  ((mirrors.entries.map _).map _).mem_iff

theorem find? (mirrors : cache.Mirrors other) (path : Path) :
    cache.find? path = other.find? path := by
  apply Option.ext
  intro entry
  rw [find?_eq_some_iff mirrors.coherent.nodup, find?_eq_some_iff mirrors.otherCoherent.nodup,
    mirrors.entries.mem_iff]

theorem contains (mirrors : cache.Mirrors other) (now : Nat) (path : Path) :
    cache.contains now path = other.contains now path := by
  rw [ModuleCache.contains, ModuleCache.contains, mirrors.find?, mirrors.isExpired]

theorem answer_get (mirrors : cache.Mirrors other) (now : Nat) (path : Path) :
    (cache.get now path).1 = (other.get now path).1 := by
  rw [ModuleCache.get, ModuleCache.get, mirrors.find?, mirrors.isExpired]
  cases other.find? path with
  | none => rfl
  | some entry =>
      dsimp only
      split <;> rfl

theorem answer_remove (mirrors : cache.Mirrors other) (path : Path) :
    (cache.remove path).1 = (other.remove path).1 := by
  rw [ModuleCache.remove, ModuleCache.remove, mirrors.find?]
  cases other.find? path <;> rfl

theorem expired_perm (mirrors : cache.Mirrors other) (now : Nat) :
    (cache.entries.filter (cache.isExpired now)).Perm
      (other.entries.filter (other.isExpired now)) := by
  rw [mirrors.isExpired]
  exact mirrors.entries.filter _

theorem get (mirrors : cache.Mirrors other) (now : Nat) (path : Path) :
    (cache.get now path).2.Mirrors (other.get now path).2 where
  coherent := mirrors.coherent.get now path
  otherCoherent := mirrors.otherCoherent.get now path
  capacity := by
    rw [capacity_get, capacity_get, mirrors.capacity]
  lifetime := by
    rw [lifetime_get, lifetime_get, mirrors.lifetime]
  entries := by
    have agree := mirrors.answer_get now path
    cases answer : (cache.get now path).1 with
    | none =>
        rw [entries_get_of_missed answer, entries_get_of_missed (agree ▸ answer)]
        exact mirrors.entries.filter _
    | some stored =>
        rw [entries_get_of_hit answer, entries_get_of_hit (agree ▸ answer)]
        exact mirrors.entries

theorem remove (mirrors : cache.Mirrors other) (path : Path) :
    (cache.remove path).2.Mirrors (other.remove path).2 where
  coherent := mirrors.coherent.remove path
  otherCoherent := mirrors.otherCoherent.remove path
  capacity := by
    rw [capacity_remove, capacity_remove, mirrors.capacity]
  lifetime := by
    rw [lifetime_remove, lifetime_remove, mirrors.lifetime]
  entries := by
    rw [entries_remove, entries_remove]
    exact mirrors.entries.filter _

theorem clear (mirrors : cache.Mirrors other) : cache.clear.Mirrors other.clear :=
  ⟨mirrors.coherent.clear, mirrors.otherCoherent.clear, mirrors.capacity, mirrors.lifetime, .refl []⟩

theorem reorder (mirrors : cache.Mirrors other) (order : List Path) :
    Mirrors { cache with policy := cache.policy.reorder order }
      { other with policy := other.policy.reorder order } :=
  ⟨mirrors.coherent.reorder order, mirrors.otherCoherent.reorder order, mirrors.capacity,
    mirrors.lifetime, mirrors.entries⟩

/-- Both caches replace an entry, or both find or reclaim room for a new one, or both evict. -/
theorem put_cases (mirrors : cache.Mirrors other) (now : Nat) (stored : CachedModule) :
    (stored.key.key ∈ cache.keys ∧
        cache.put now stored = cache.replace now stored ∧
        other.put now stored = other.replace now stored ∧
        cache.displaced now stored = [] ∧ other.displaced now stored = []) ∨
      (stored.key.key ∉ cache.keys ∧
        cache.put now stored = (cache.reclaim now).insert now stored ∧
        other.put now stored = (other.reclaim now).insert now stored ∧
        cache.displaced now stored = [] ∧ other.displaced now stored = []) ∨
      stored.key.key ∉ cache.keys ∧ ∃ victim policy otherVictim otherPolicy,
        cache.Overflows now victim policy ∧ other.Overflows now otherVictim otherPolicy ∧
        cache.put now stored = (cache.evict victim policy).insert now stored ∧
        other.put now stored = (other.evict otherVictim otherPolicy).insert now stored ∧
        cache.displaced now stored = [victim] ∧ other.displaced now stored = [otherVictim] := by
  by_cases held : stored.key.key ∈ cache.keys
  · have otherHeld := (mirrors.mem_keys_iff _).mp held
    exact .inl ⟨held, put_of_held held now, put_of_held otherHeld now, displaced_of_held held,
      displaced_of_held otherHeld⟩
  · have otherNew := (mirrors.mem_keys_iff _).not.mp held
    have overflowing : (cache.entries.length = cache.capacity ∧
          ∀ entry ∈ cache.entries, cache.isExpired now entry = false) ↔
        other.entries.length = other.capacity ∧
          ∀ entry ∈ other.entries, other.isExpired now entry = false := by
      simp only [mirrors.isExpired, mirrors.capacity, mirrors.entries.length_eq,
        mirrors.entries.mem_iff]
    rw [put_of_new held, put_of_new otherNew, displaced_of_new held, displaced_of_new otherNew]
    -- the same entries fill both caches, so the mixed cases are impossible
    obtain ⟨none, same, room⟩ | ⟨victim, policy, overflows, only, same⟩ :=
      mirrors.coherent.room_or_overflow now
    · obtain ⟨otherNone, otherSame, _⟩ | ⟨_, _, otherOverflows, _⟩ :=
        mirrors.otherCoherent.room_or_overflow now
      · exact .inr (.inl ⟨held, by rw [same], by rw [otherSame], none, otherNone⟩)
      · obtain ⟨full, fresh⟩ := overflowing.mpr ⟨otherOverflows.full, otherOverflows.fresh⟩
        obtain fits | ⟨entry, member, expired⟩ := room
        · omega
        · rw [fresh entry member] at expired
          cases expired
    · obtain ⟨_, _, room⟩ | ⟨otherVictim, otherPolicy, otherOverflows, otherOnly, otherSame⟩ :=
        mirrors.otherCoherent.room_or_overflow now
      · obtain ⟨full, fresh⟩ := overflowing.mp ⟨overflows.full, overflows.fresh⟩
        obtain fits | ⟨entry, member, expired⟩ := room
        · omega
        · rw [fresh entry member] at expired
          cases expired
      · exact .inr (.inr ⟨held, victim, policy, otherVictim, otherPolicy, overflows,
          otherOverflows, by rw [same], by rw [otherSame], only, otherOnly⟩)

/-- The caches go on with the same entries if the same key has to leave. -/
theorem put (mirrors : cache.Mirrors other)
    (victims : Path.keys (cache.displaced now stored) = Path.keys (other.displaced now stored)) :
    (cache.put now stored).Mirrors (other.put now stored) where
  coherent := mirrors.coherent.put now stored
  otherCoherent := mirrors.otherCoherent.put now stored
  capacity := by
    rw [mirrors.coherent.capacity_put, mirrors.otherCoherent.capacity_put, mirrors.capacity]
  lifetime := by
    rw [mirrors.coherent.lifetime_put, mirrors.otherCoherent.lifetime_put, mirrors.lifetime]
  entries := by
    obtain ⟨_, same, otherSame, _⟩ | ⟨_, same, otherSame, _⟩ |
      ⟨_, _, _, _, _, overflows, otherOverflows, same, otherSame, only, otherOnly⟩ :=
      mirrors.put_cases now stored
    · rw [same, otherSame]
      exact mirrors.entries.map _
    · rw [same, otherSame]
      refine List.Perm.append_right _ ?_
      rw [entries_reclaim mirrors.coherent, entries_reclaim mirrors.otherCoherent,
        mirrors.capacity, mirrors.entries.length_eq]
      split
      · rw [live, live, mirrors.isExpired]
        exact mirrors.entries.filter _
      · exact mirrors.entries
    · rw [only, otherOnly] at victims
      have alike := List.singleton_injective victims
      rw [same, otherSame]
      refine List.Perm.append_right _ ?_
      rw [overflows.entries_evict, otherOverflows.entries_evict, other.without_congr alike.symm]
      exact mirrors.entries.filter _

end Mirrors

/-- Two caches that no run tells apart. -/
structure Alike (cache other : ModuleCache) : Prop extends Mirrors cache other where
  policy : cache.policy.Alike other.policy

namespace Alike

variable {stored : CachedModule}

theorem get (alike : cache.Alike other) (now : Nat) (path : Path) :
    (cache.get now path).2.Alike (other.get now path).2 := by
  refine ⟨alike.toMirrors.get now path, ?_⟩
  have agree := alike.find? path
  cases found : cache.find? path with
  | none =>
      rw [get_of_absent found, get_of_absent (agree ▸ found)]
      exact alike.policy
  | some entry =>
      cases expired : cache.isExpired now entry with
      | true =>
          rw [get_of_expired found expired,
            get_of_expired (agree ▸ found) (alike.isExpired ▸ expired)]
          exact alike.policy.remove (.refl path)
      | false =>
          rw [get_of_fresh found expired, get_of_fresh (agree ▸ found) (alike.isExpired ▸ expired)]
          exact alike.policy.touch path

theorem remove (alike : cache.Alike other) (path : Path) :
    (cache.remove path).2.Alike (other.remove path).2 := by
  refine ⟨alike.toMirrors.remove path, ?_⟩
  rw [ModuleCache.remove, ModuleCache.remove, ← alike.find?]
  cases cache.find? path with
  | none => exact alike.policy
  | some entry => exact alike.policy.remove (.refl path)

theorem clear (alike : cache.Alike other) : cache.clear.Alike other.clear := by
  refine ⟨alike.toMirrors.clear, ?_⟩
  change (cache.policy.forget cache.entries).Alike (other.policy.forget other.entries)
  rw [← Policy.forget_perm alike.entries]
  exact alike.policy.forget cache.entries

theorem policy_reclaim (alike : cache.Alike other) (now : Nat) :
    (cache.reclaim now).policy.Alike (other.reclaim now).policy := by
  rw [ModuleCache.policy_reclaim, ModuleCache.policy_reclaim, alike.capacity,
    alike.entries.length_eq, ← Policy.forget_perm (alike.expired_perm now)]
  split
  · exact alike.policy.forget _
  · exact alike.policy

theorem displaced (alike : cache.Alike other) (now : Nat) (stored : CachedModule) :
    Path.keys (cache.displaced now stored) = Path.keys (other.displaced now stored) := by
  obtain ⟨_, _, _, none, otherNone⟩ | ⟨_, _, _, none, otherNone⟩ |
    ⟨_, victim, _, _, _, overflows, otherOverflows, _, _, only, otherOnly⟩ :=
    alike.put_cases now stored
  · rw [none, otherNone]
  · rw [none, otherNone]
  · obtain ⟨_, _, chosen, same, _⟩ := alike.policy.evict? overflows.chosen
    rw [otherOverflows.chosen] at chosen
    cases chosen
    rw [only, otherOnly]
    exact congrArg (fun key => [key]) same

theorem put (alike : cache.Alike other) (now : Nat) (stored : CachedModule) :
    (cache.put now stored).Alike (other.put now stored) := by
  refine ⟨alike.toMirrors.put (alike.displaced now stored), ?_⟩
  obtain ⟨_, same, otherSame, _⟩ | ⟨new, same, otherSame, _⟩ |
    ⟨new, victim, policy, _, _, overflows, otherOverflows, same, otherSame, _⟩ :=
    alike.put_cases now stored
  · rw [same, otherSame]
    exact alike.policy.touch stored.key
  · rw [same, otherSame]
    exact (alike.policy_reclaim now).add (alike.coherent.notMem_reclaim new now)
  · obtain ⟨_, _, chosen, _, rests⟩ := alike.policy.evict? overflows.chosen
    rw [otherOverflows.chosen] at chosen
    cases chosen
    rw [same, otherSame, policy_insert_evict, policy_insert_evict]
    exact rests.add (alike.coherent.notMem_of_evict? new overflows.chosen)

end Alike

end ModuleCache

namespace Cache.Clocked

open ModuleCache

structure Alike (state other : Clocked) : Prop where
  cache : state.cache.Alike other.cache
  now : state.now = other.now

variable {state other : Clocked}

theorem Alike.apply (alike : state.Alike other) (operation : Operation) :
    (state.apply operation).Alike (other.apply operation) := by
  obtain ⟨cache, now⟩ := state
  obtain ⟨other, later⟩ := other
  obtain ⟨alike, same⟩ := alike
  cases same
  refine ⟨?_, ?_⟩
  · cases operation with
    | put stored => exact alike.put now stored
    | get path => exact alike.get now path
    | remove path => exact alike.remove path
    | contains path => exact alike
    | clear => exact alike.clear
    | advance milliseconds => exact alike
    | reorder order => exact ⟨alike.toMirrors.reorder order, alike.policy.reorder order⟩
  · cases operation <;> rfl

theorem observed_of_mirrors {cache other : ModuleCache} (mirrors : cache.Mirrors other) {now : Nat}
    {operation : Operation} (victims : Path.keys (Step.victims ⟨⟨cache, now⟩, operation⟩) =
      Path.keys (Step.victims ⟨⟨other, now⟩, operation⟩)) :
    Step.observed ⟨⟨cache, now⟩, operation⟩ = Step.observed ⟨⟨other, now⟩, operation⟩ := by
  have answers : Step.answer ⟨⟨cache, now⟩, operation⟩ =
      Step.answer ⟨⟨other, now⟩, operation⟩ := by
    cases operation with
    | get path => exact congrArg Answer.module (mirrors.answer_get now path)
    | remove path => exact congrArg Answer.module (mirrors.answer_remove path)
    | contains path => exact congrArg Answer.presence (mirrors.contains now path)
    | _ => rfl
  rw [Step.observed, Step.observed, answers, victims]

theorem Alike.observed (alike : state.Alike other) (operation : Operation) :
    Step.observed ⟨state, operation⟩ = Step.observed ⟨other, operation⟩ := by
  obtain ⟨cache, now⟩ := state
  obtain ⟨other, later⟩ := other
  obtain ⟨alike, same⟩ := alike
  cases same
  apply observed_of_mirrors alike.toMirrors
  cases operation with
  | put stored => exact alike.displaced now stored
  | _ => rfl

theorem Alike.observations (alike : state.Alike other) (operations : List Operation) :
    state.observations operations = other.observations operations := by
  induction operations generalizing state other with
  | nil => rfl
  | cons operation later ih =>
      exact congrArg₂ List.cons (alike.observed operation) (ih (alike.apply operation))

end Cache.Clocked

end WasmTasks
