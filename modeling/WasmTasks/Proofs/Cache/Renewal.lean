import WasmTasks.Proofs.Cache.Likeness
import WasmTasks.Proofs.Cache.PolicyApart

/-!
Storing a module over an expired one. The entry is new in every respect, but to the policy the key is
one that it tracks already, and the store is one more use of it: it keeps its access count, or becomes
a frequent key. Had the entry been dropped first, the key would be admitted afresh. The two caches are
alike but for that key, and so they stay until they have to choose a victim while they hold it.
-/

namespace WasmTasks

namespace ModuleCache

open Cache

variable {cache other : ModuleCache} {now : Nat} {path used : Path} {stored : CachedModule}

/-- Two caches with the same entries whose policies are alike except for one key that is held. -/
structure AlikeBut (path : Path) (cache other : ModuleCache) : Prop
    extends Mirrors cache other where
  held : path.key ∈ cache.keys
  policy : cache.policy.AlikeBut path other.policy

namespace AlikeBut

theorem leave (but : cache.AlikeBut path other) {next otherNext : ModuleCache}
    (mirrors : next.Mirrors otherNext) (entries : next.entries = cache.without used)
    (policy : next.policy = cache.policy.remove used)
    (otherPolicy : otherNext.policy = other.policy.remove used) :
    next.Alike otherNext ∨ next.AlikeBut path otherNext := by
  by_cases same : used.Same path
  · refine .inl ⟨mirrors, ?_⟩
    rw [policy, otherPolicy]
    exact but.policy.alike same
  · refine .inr ⟨mirrors, ?_, ?_⟩
    · rw [keys, ModuleCache.held, entries, keys_without but.coherent.nodup]
      exact (List.mem_erase_of_ne fun own => same own.symm).mpr but.held
    · rw [policy, otherPolicy]
      exact but.policy.remove used

theorem get (but : cache.AlikeBut path other) (now : Nat) (used : Path) :
    (cache.get now used).2.Alike (other.get now used).2 ∨
      (cache.get now used).2.AlikeBut path (other.get now used).2 := by
  have mirrors := but.toMirrors.get now used
  have agree := but.find? used
  cases found : cache.find? used with
  | none =>
      rw [get_of_absent found, get_of_absent (agree ▸ found)] at mirrors ⊢
      exact .inr ⟨mirrors, but.held, but.policy⟩
  | some entry =>
      cases expired : cache.isExpired now entry with
      | true =>
          rw [get_of_expired found expired,
            get_of_expired (agree ▸ found) (but.isExpired ▸ expired)] at mirrors ⊢
          exact but.leave mirrors rfl rfl rfl
      | false =>
          rw [get_of_fresh found expired,
            get_of_fresh (agree ▸ found) (but.isExpired ▸ expired)] at mirrors ⊢
          exact .inr ⟨mirrors, but.held, but.policy.touch but.coherent.policy_nodup
            but.otherCoherent.policy_nodup used⟩

theorem remove (but : cache.AlikeBut path other) (gone : Path) :
    (cache.remove gone).2.Alike (other.remove gone).2 ∨
      (cache.remove gone).2.AlikeBut path (other.remove gone).2 := by
  have mirrors := but.toMirrors.remove gone
  rw [ModuleCache.remove, ModuleCache.remove, ← but.find?] at mirrors ⊢
  cases found : cache.find? gone with
  | none => exact .inr but
  | some entry =>
      rw [found] at mirrors
      exact but.leave mirrors rfl rfl rfl

theorem clear (but : cache.AlikeBut path other) : cache.clear.Alike other.clear := by
  obtain ⟨entry, member, same⟩ := (cache.mem_keys path).mp but.held
  refine ⟨but.toMirrors.clear, ?_⟩
  change (cache.policy.forget cache.entries).Alike (other.policy.forget other.entries)
  rw [← Policy.forget_perm but.entries]
  exact but.policy.forget_of_mem member same

theorem reclaim (but : cache.AlikeBut path other) (now : Nat) :
    (cache.reclaim now).policy.Alike (other.reclaim now).policy ∨
      path.key ∈ (cache.reclaim now).keys ∧
        (cache.reclaim now).policy.AlikeBut path (other.reclaim now).policy := by
  rw [keys, ModuleCache.held, entries_reclaim but.coherent, policy_reclaim, policy_reclaim,
    but.capacity, but.entries.length_eq, ← Policy.forget_perm (but.expired_perm now)]
  obtain ⟨entry, member, same⟩ := (cache.mem_keys path).mp but.held
  split
  · cases expired : cache.isExpired now entry with
    | true => exact .inl (but.policy.forget_of_mem (List.mem_filter.mpr ⟨member, expired⟩) same)
    | false =>
        refine .inr ⟨?_, but.policy.forget _⟩
        have live : entry ∈ cache.live now := mem_live.mpr ⟨member, expired⟩
        exact (Path.mem_keys _ path).mpr ⟨_, List.mem_map_of_mem live, same⟩
  · exact .inr ⟨but.held, but.policy⟩

/-! The three ways of a store. -/

theorem replace (but : cache.AlikeBut path other)
    (mirrors : (cache.replace now stored).Mirrors (other.replace now stored)) :
    (cache.replace now stored).AlikeBut path (other.replace now stored) := by
  refine ⟨mirrors, ?_, ?_⟩
  · rw [keys_replace]
    exact but.held
  · exact but.policy.touch but.coherent.policy_nodup but.otherCoherent.policy_nodup stored.key

/-- The key itself may be among what leaves to make room. -/
theorem insert_reclaim (but : cache.AlikeBut path other) (new : stored.key.key ∉ cache.keys)
    (mirrors : ((cache.reclaim now).insert now stored).Mirrors
      ((other.reclaim now).insert now stored)) :
    ((cache.reclaim now).insert now stored).Alike ((other.reclaim now).insert now stored) ∨
      ((cache.reclaim now).insert now stored).AlikeBut path
        ((other.reclaim now).insert now stored) := by
  have untracked := but.coherent.notMem_reclaim new now
  obtain alike | ⟨held, kept⟩ := but.reclaim now
  · exact .inl ⟨mirrors, alike.add untracked⟩
  · have apart : ¬ stored.key.Same path := fun own => new (own ▸ but.held)
    have otherNew := (but.mem_keys_iff _).not.mp new
    refine .inr ⟨mirrors, ?_,
      kept.add apart untracked (but.otherCoherent.notMem_reclaim otherNew now)⟩
    rw [keys_insert]
    exact List.mem_append_left _ held

/-- The policies may not give up the same key. -/
theorem insert_evict (but : cache.AlikeBut path other) (new : stored.key.key ∉ cache.keys)
    {victim otherVictim : Path} {policy otherPolicy : Policy}
    (overflows : cache.Overflows now victim policy)
    (otherOverflows : other.Overflows now otherVictim otherPolicy)
    (mirrors : victim.Same otherVictim → ((cache.evict victim policy).insert now stored).Mirrors
      ((other.evict otherVictim otherPolicy).insert now stored)) :
    (victim.Same otherVictim ∧
      (((cache.evict victim policy).insert now stored).Alike
          ((other.evict otherVictim otherPolicy).insert now stored) ∨
        ((cache.evict victim policy).insert now stored).AlikeBut path
          ((other.evict otherVictim otherPolicy).insert now stored))) ∨
      Policy.Parts path victim otherVictim cache.policy other.policy := by
  have otherNew := (but.mem_keys_iff _).not.mp new
  have otherHeld := (but.otherCoherent.mem_policy_iff _).mpr ((but.mem_keys_iff _).mp but.held)
  have untracked := but.coherent.notMem_of_evict? new overflows.chosen
  have otherUntracked := but.otherCoherent.notMem_of_evict? otherNew otherOverflows.chosen
  obtain ⟨agree, apart, rests⟩ | ⟨agree, _, rests⟩ | parts :=
    but.policy.evict? but.coherent.policy_nodup but.otherCoherent.policy_nodup otherHeld
      overflows.chosen otherOverflows.chosen
  · refine .inl ⟨agree, .inr ⟨mirrors agree, ?_, ?_⟩⟩
    · rw [keys_insert, keys, ModuleCache.held, overflows.entries_evict,
        keys_without but.coherent.nodup]
      refine List.mem_append_left _ ((List.mem_erase_of_ne ?_).mpr but.held)
      exact fun own => apart own.symm
    · rw [policy_insert_evict, policy_insert_evict]
      exact rests.add (fun own => new (own ▸ but.held)) untracked otherUntracked
  · refine .inl ⟨agree, .inl ⟨mirrors agree, ?_⟩⟩
    rw [policy_insert_evict, policy_insert_evict]
    exact rests.add untracked
  · exact .inr parts

/-- A store keeps the caches alike but for the key, or entirely, or else it chooses victims that tell
them apart. -/
theorem put (but : cache.AlikeBut path other) (now : Nat) (stored : CachedModule) :
    (Path.keys (cache.displaced now stored) = Path.keys (other.displaced now stored) ∧
        ((cache.put now stored).Alike (other.put now stored) ∨
          (cache.put now stored).AlikeBut path (other.put now stored))) ∨
      ∃ victim otherVictim, cache.displaced now stored = [victim] ∧
        other.displaced now stored = [otherVictim] ∧
        Policy.Parts path victim otherVictim cache.policy other.policy := by
  have mirrors (agree : Path.keys (cache.displaced now stored) =
      Path.keys (other.displaced now stored)) : (cache.put now stored).Mirrors (other.put now stored) :=
    but.toMirrors.put agree
  obtain ⟨_, same, otherSame, none, otherNone⟩ | ⟨new, same, otherSame, none, otherNone⟩ |
    ⟨new, victim, policy, otherVictim, otherPolicy, overflows, otherOverflows, same, otherSame,
      only, otherOnly⟩ := but.put_cases now stored
  · rw [same, otherSame, none, otherNone] at mirrors ⊢
    exact .inl ⟨rfl, .inr (but.replace (mirrors rfl))⟩
  · rw [same, otherSame, none, otherNone] at mirrors ⊢
    exact .inl ⟨rfl, but.insert_reclaim new (mirrors rfl)⟩
  · rw [same, otherSame, only, otherOnly] at mirrors ⊢
    have victims (agree : victim.Same otherVictim) : Path.keys [victim] = Path.keys [otherVictim] :=
      congrArg (fun key => [key]) agree
    obtain ⟨agree, related⟩ | parts :=
      but.insert_evict new overflows otherOverflows fun agree => mirrors (victims agree)
    · exact .inl ⟨victims agree, related⟩
    · exact .inr ⟨victim, otherVictim, rfl, rfl, parts⟩

end AlikeBut

end ModuleCache

namespace Cache.Clocked

open ModuleCache

variable {state other : Clocked} {path : Path}

structure AlikeBut (path : Path) (state other : Clocked) : Prop where
  cache : state.cache.AlikeBut path other.cache
  now : state.now = other.now

/-- The states go on alike, entirely or but for the key, and show the same; or a store chooses victims
that tell them apart. -/
theorem AlikeBut.apply (but : state.AlikeBut path other) (operation : Operation) :
    (Step.observed ⟨state, operation⟩ = Step.observed ⟨other, operation⟩ ∧
        ((state.apply operation).Alike (other.apply operation) ∨
          (state.apply operation).AlikeBut path (other.apply operation))) ∨
      ∃ stored victim otherVictim, operation = .put stored ∧
        state.cache.displaced state.now stored = [victim] ∧
        other.cache.displaced other.now stored = [otherVictim] ∧
        Policy.Parts path victim otherVictim state.cache.policy other.cache.policy := by
  obtain ⟨cache, now⟩ := state
  obtain ⟨other, later⟩ := other
  obtain ⟨but, same⟩ := but
  cases same
  have clock {next otherNext : ModuleCache} {now : Nat}
      (related : next.Alike otherNext ∨ next.AlikeBut path otherNext) :
      Clocked.Alike ⟨next, now⟩ ⟨otherNext, now⟩ ∨
        Clocked.AlikeBut path ⟨next, now⟩ ⟨otherNext, now⟩ :=
    related.imp (⟨·, rfl⟩) (⟨·, rfl⟩)
  cases operation with
  | put stored =>
      obtain ⟨victims, related⟩ | ⟨victim, otherVictim, only, otherOnly, parts⟩ :=
        but.put now stored
      · exact .inl ⟨observed_of_mirrors but.toMirrors victims, clock related⟩
      · exact .inr ⟨stored, victim, otherVictim, rfl, only, otherOnly, parts⟩
  | get used => exact .inl ⟨observed_of_mirrors but.toMirrors rfl, clock (but.get now used)⟩
  | remove gone => exact .inl ⟨observed_of_mirrors but.toMirrors rfl, clock (but.remove gone)⟩
  | contains path => exact .inl ⟨observed_of_mirrors but.toMirrors rfl, clock (.inr but)⟩
  | clear => exact .inl ⟨observed_of_mirrors but.toMirrors rfl, clock (.inl but.clear)⟩
  | advance milliseconds =>
      exact .inl ⟨observed_of_mirrors but.toMirrors rfl, clock (.inr but)⟩
  | reorder order =>
      have reordered := but.policy.reorder order
      exact .inl ⟨observed_of_mirrors but.toMirrors rfl,
        clock (.inr ⟨but.toMirrors.reorder order, but.held, reordered⟩)⟩

/-- The states show the same throughout a run, or up to the first store whose victims tell them apart
while the key is held. -/
theorem AlikeBut.observations (but : state.AlikeBut path other) (operations : List Operation) :
    state.observations operations = other.observations operations ∨
      ∃ before stored after victim otherVictim, operations = before ++ .put stored :: after ∧
        state.observations before = other.observations before ∧
        path.key ∈ (state.run before).cache.keys ∧ path.key ∈ (other.run before).cache.keys ∧
        (state.run before).cache.displaced (state.run before).now stored = [victim] ∧
        (other.run before).cache.displaced (other.run before).now stored = [otherVictim] ∧
        Policy.Parts path victim otherVictim (state.run before).cache.policy
          (other.run before).cache.policy := by
  induction operations generalizing state other with
  | nil => exact .inl rfl
  | cons operation later ih =>
      obtain ⟨observed, alike | next⟩ | ⟨stored, victim, otherVictim, rfl, only, otherOnly, parts⟩ :=
        but.apply operation
      · exact .inl (congrArg₂ List.cons observed (alike.observations later))
      · obtain same | ⟨before, stored, after, victim, otherVictim, rfl, same, rest⟩ := ih next
        · exact .inl (congrArg₂ List.cons observed same)
        · exact .inr ⟨operation :: before, stored, after, victim, otherVictim, rfl,
            congrArg₂ List.cons observed same, rest⟩
      · exact .inr ⟨[], stored, later, victim, otherVictim, rfl, rfl, but.cache.held,
          (but.cache.mem_keys_iff _).mp but.cache.held, only, otherOnly, parts⟩

end Cache.Clocked

/-! The store over an expired entry. -/

namespace ModuleCache

open Cache

variable {cache : ModuleCache} {now : Nat} {stored : CachedModule} {entry : Entry}

/-- What was dropped leaves room, and so nothing else happens when it is stored again. -/
theorem Coherent.put_get_of_expired (coherent : cache.Coherent)
    (found : cache.find? stored.key = some entry) (expired : cache.isExpired now entry = true) :
    (cache.get now stored.key).2.put now stored =
      ((cache.expire stored.key).countMiss).insert now stored := by
  have missed : (cache.get now stored.key).1 = none := by
    rw [get_of_expired found expired]
  have new := notMem_of_missed missed
  have left : (cache.get now stored.key).2.entries = cache.without stored.key :=
    entries_get_of_missed missed
  have shorter := (perm_cons_without coherent.nodup found).length_eq
  have fits : (cache.get now stored.key).2.entries.length <
      (cache.get now stored.key).2.capacity := by
    rw [left, capacity_get]
    have bounded := coherent.bounded
    rw [List.length_cons] at shorter
    omega
  rw [put_of_new new, ModuleCache.reclaim, if_neg (Nat.not_le.mpr fits), makeRoom_of_fits fits,
    get_of_expired found expired]

theorem Coherent.mirrors_renewed (coherent : cache.Coherent)
    (found : cache.find? stored.key = some entry) (expired : cache.isExpired now entry = true) :
    (cache.put now stored).Mirrors ((cache.get now stored.key).2.put now stored) where
  coherent := coherent.put now stored
  otherCoherent := (coherent.get now stored.key).put now stored
  capacity := by
    rw [coherent.capacity_put, (coherent.get now stored.key).capacity_put, capacity_get]
  lifetime := by
    rw [coherent.lifetime_put, (coherent.get now stored.key).lifetime_put, lifetime_get]
  entries := by
    have held := (mem_keys cache stored.key).mpr ⟨entry, mem_find? found⟩
    have first := nodup_entries (coherent.put now stored).nodup
    have second := nodup_entries ((coherent.get now stored.key).put now stored).nodup
    rw [List.perm_ext_iff_of_nodup first second]
    intro other
    rw [put_of_held held, coherent.put_get_of_expired found expired, mem_entries_replace held,
      mem_entries_insert, or_comm]
    exact or_congr_left mem_without.symm

end ModuleCache

namespace Cache.Clocked

open ModuleCache

/-- Storing a module over an expired one, and dropping the expired one before: both caches hold the
same entries, and a least recently used cache shows no difference ever after. To the policy the first
store is a use of the key and the second one its admission. Hence the caches of the other two kinds
show the same until a store finds the key held and chooses a victim: if accesses are counted, only
the second cache gives up the key; an adaptive one makes another choice, or takes the key from
another of its lists. -/
theorem put_of_expired_is_use {capacity : Nat} {kind : EvictionKind} {lifetime : Option Nat}
    {fresh : ModuleCache} {allocator : Allocator}
    (made : ModuleCache.new allocator capacity kind lifetime = .ok fresh)
    (start : Nat) (operations : List Operation) (stored : CachedModule) :
    let reached := (Clocked.mk fresh start).run operations
    let replaced := reached.apply (.put stored)
    let renewed := (reached.apply (.get stored.key)).apply (.put stored)
    ∀ entry, reached.cache.find? stored.key = some entry →
      reached.cache.isExpired reached.now entry = true →
      (∀ path, replaced.cache.find? path = renewed.cache.find? path) ∧
        replaced.cache.policy = reached.cache.policy.touch stored.key ∧
        renewed.cache.policy = (reached.cache.policy.remove stored.key).add stored.key ∧
        (kind = .lru → ∀ later, replaced.observations later = renewed.observations later) ∧
        (kind = .lfu ∨ kind = .arc → ∀ later,
          replaced.observations later = renewed.observations later ∨
            ∃ before next after victim otherVictim, later = before ++ .put next :: after ∧
              replaced.observations before = renewed.observations before ∧
              stored.key.key ∈ (replaced.run before).cache.keys ∧
              stored.key.key ∈ (renewed.run before).cache.keys ∧
              (replaced.run before).cache.displaced (replaced.run before).now next = [victim] ∧
              (renewed.run before).cache.displaced (renewed.run before).now next =
                [otherVictim] ∧
              (replaced.run before).cache.kind = kind ∧
              Policy.Parts stored.key victim otherVictim (replaced.run before).cache.policy
                (renewed.run before).cache.policy) := by
  intro reached replaced renewed entry found expired
  obtain ⟨_, _, unused⟩ := new_eq_ok made
  have freshCoherent : fresh.Coherent := (Coherent.of_new made).1
  have coherent : reached.cache.Coherent := (run_coherent operations ⟨fresh, start⟩ freshCoherent).1
  have held := (mem_keys reached.cache stored.key).mpr ⟨entry, mem_find? found⟩
  have tracked := (coherent.mem_policy_iff _).mpr held
  have mirrors : replaced.cache.Mirrors renewed.cache := coherent.mirrors_renewed found expired
  have sameKind : reached.cache.policy.kind = kind := by
    rw [kind_run freshCoherent, unused, Policy.kind_empty]
  have ranked : reached.cache.policy.Ranked ((Clocked.mk fresh start).past operations) := by
    refine ranked_run freshCoherent ?_ operations
    rw [unused]
    exact Policy.ranked_empty kind capacity
  have touched : replaced.cache.policy = reached.cache.policy.touch stored.key :=
    congrArg ModuleCache.policy (put_of_held held reached.now)
  have admitted : renewed.cache.policy = (reached.cache.policy.remove stored.key).add stored.key :=
    congrArg ModuleCache.policy (coherent.put_get_of_expired found expired)
  refine ⟨mirrors.find?, touched, admitted, ?_, ?_⟩
  · intro lru
    have alike : replaced.cache.policy.Alike renewed.cache.policy := by
      rw [touched, admitted]
      cases current : reached.cache.policy with
      | lru policy =>
          simp only [Policy.touch, Policy.remove, Policy.add, policy.touch_eq_add]
          exact .lru _
      | _ =>
          rw [current, lru] at sameKind
          cases sameKind
    exact Alike.observations ⟨⟨mirrors, alike⟩, rfl⟩
  · intro counts later
    have but : replaced.cache.policy.AlikeBut stored.key renewed.cache.policy := by
      rw [touched, admitted]
      obtain rfl | rfl := counts
      · cases current : reached.cache.policy with
        | lfu policy =>
            rw [current] at ranked
            exact .lfu (Lfu.touch_alikeBut_add (Lfu.Ranked.ordered_serials ranked) stored.key)
        | _ =>
            rw [current] at sameKind
            cases sameKind
      · have adapts : reached.cache.policy.Adapts capacity :=
          @adapts_run _ ⟨fresh, start⟩ freshCoherent (adapts_of_new made) operations
        obtain ⟨policy, adaptive, _, wellFormed⟩ := adapts
        rw [adaptive] at tracked ⊢
        exact .arc (Arc.touch_alikeBut_add wellFormed tracked)
    have kept : stored.key.key ∈ replaced.cache.keys := by
      change stored.key.key ∈ (reached.cache.put reached.now stored).keys
      rw [put_of_held held, keys_replace]
      exact held
    have related : replaced.AlikeBut stored.key renewed := ⟨⟨mirrors, kept, but⟩, rfl⟩
    refine (related.observations later).imp_right ?_
    rintro ⟨before, next, after, victim, otherVictim, split, same, first, second, only, otherOnly,
      parts⟩
    refine ⟨before, next, after, victim, otherVictim, split, same, first, second, only, otherOnly,
      ?_, parts⟩
    rw [ModuleCache.kind, kind_run mirrors.coherent, touched, Policy.kind_touch, sameKind]

theorem put_of_expired_is_use_recent :
    let named (name : String) : CachedModule := ⟨.ofString name, .wasmtime, [], ""⟩
    let fresh : ModuleCache := ⟨2, some 5, .lru .empty, [], .zero⟩
    let reached := (Clocked.mk fresh 0).run [.put (named "a"), .advance 5]
    let later := [.put (named "b"), .put (named "c"), .contains "a"]
    ModuleCache.new .generous 2 .lru (some 5) = .ok fresh ∧
      reached.cache.find? "a" = some ⟨named "a", 0⟩ ∧
      reached.cache.isExpired reached.now ⟨named "a", 0⟩ = true ∧
      (reached.apply (.put (named "a"))).observations later =
        ((reached.apply (.get "a")).apply (.put (named "a"))).observations later := by
  intro named fresh reached later
  have made : ModuleCache.new .generous 2 .lru (some 5) = .ok fresh := rfl
  have found : reached.cache.find? "a" = some ⟨named "a", 0⟩ := by cbv
  have expired : reached.cache.isExpired reached.now ⟨named "a", 0⟩ = true := by cbv
  obtain ⟨_, _, _, recent, _⟩ := put_of_expired_is_use made 0 [.put (named "a"), .advance 5]
    (named "a") ⟨named "a", 0⟩ found expired
  exact ⟨made, found, expired, recent rfl later⟩

/-- The key that was stored over keeps its slot, the one that was dropped before gives it up. -/
theorem put_of_expired_shows :
    let named (name : String) : CachedModule := ⟨.ofString name, .wasmtime, [], ""⟩
    let counting : ModuleCache := ⟨2, some 5, .lfu .empty, [], .zero⟩
    let adaptive : ModuleCache := ⟨2, some 5, .arc (.empty 2), [], .zero⟩
    let reached (fresh : ModuleCache) := (Clocked.mk fresh 0).run [.put (named "a"), .advance 5]
    let replaced (fresh : ModuleCache) := (reached fresh).apply (.put (named "a"))
    let renewed (fresh : ModuleCache) :=
      ((reached fresh).apply (.get "a")).apply (.put (named "a"))
    let later := [.put (named "b"), .put (named "c"), .contains "a"]
    ModuleCache.new .generous 2 .lfu (some 5) = .ok counting ∧
      ModuleCache.new .generous 2 .arc (some 5) = .ok adaptive ∧
      (replaced counting).observations later ≠ (renewed counting).observations later ∧
      (replaced adaptive).observations later ≠ (renewed adaptive).observations later := by
  intro named counting adaptive reached replaced renewed later
  let last (state : Clocked) := (state.observations later).getLast?.map Observation.answer
  have kept : last (replaced counting) = some (.presence true) := by
    dsimp only [last, replaced, reached]
    cbv
  have lost : last (renewed counting) = some (.presence false) := by
    dsimp only [last, renewed, reached]
    cbv
  have adaptiveKept : last (replaced adaptive) = some (.presence true) := by
    dsimp only [last, replaced, reached]
    cbv
  have adaptiveLost : last (renewed adaptive) = some (.presence false) := by
    dsimp only [last, renewed, reached]
    cbv
  refine ⟨rfl, rfl, fun same => ?_, fun same => ?_⟩
  · have both : last (replaced counting) = last (renewed counting) :=
      congrArg (fun seen => seen.getLast?.map Observation.answer) same
    rw [kept, lost] at both
    cases both
  · have both : last (replaced adaptive) = last (renewed adaptive) :=
      congrArg (fun seen => seen.getLast?.map Observation.answer) same
    rw [adaptiveKept, adaptiveLost] at both
    cases both

end Cache.Clocked

end WasmTasks
