import WasmTasks.Proofs.Cache.Adaptive
import WasmTasks.Proofs.Cache.Presence

/-!
Scans through adaptive replacement. Modules that come one after the other and each only once are
recent keys for as long as they are held, and as soon as the recent keys are more than the target
they give way to each other. So a scan displaces few frequent keys, however long it is.
-/

namespace WasmTasks

namespace Cache

/-- Modules put one after the other, each some time after the one before. -/
def Operation.scan (arrivals : List (Nat × CachedModule)) : List Operation :=
  arrivals.flatMap fun (pause, stored) => [.advance pause, .put stored]

namespace Arc

/-- What a scan has left of a policy after it displaced some of the frequent keys. For each of them
there is one more recent key than at first. -/
structure Withstands (before : Arc) (displaced : List Path) (after : Arc) : Prop where
  target : after.target = before.target
  frequent : before.frequent = displaced ++ after.frequent
  grown : displaced.length + before.recent.length ≤ after.recent.length
  few : displaced.length ≤ before.target + 1 - before.recent.length

variable {before after rest : Arc} {displaced : List Path} {path victim : Path}

theorem add_of_unknown (unknown : path.key ∉ Path.keys after.known) :
    after.add path = { after with recent := after.recent ++ [path] } := by
  rw [keys_known, ghosts, Path.keys_append, List.mem_append, List.mem_append] at unknown
  push Not at unknown
  have notRecent : ¬ holds after.recentGhosts path = true := by
    rw [holds_iff]
    exact unknown.2.1
  have notFrequent : ¬ holds after.frequentGhosts path = true := by
    rw [holds_iff]
    exact unknown.2.2
  rw [add, if_neg notRecent, if_neg notFrequent]

theorem keys_known_add_perm (unknown : path.key ∉ Path.keys after.known) :
    (Path.keys (after.add path).known).Perm (path.key :: Path.keys after.known) := by
  have forgotten : path.key ∉ Path.keys after.ghosts := by
    rw [keys_known, List.mem_append] at unknown
    exact fun member => unknown (.inr member)
  rw [keys_known, keys_known, keys_ghosts_add, List.erase_of_not_mem forgotten]
  exact (after.keys_add_perm path).append_right _

theorem keys_known_evict?_subset (chosen : after.evict? = some (victim, rest)) :
    Path.keys rest.known ⊆ Path.keys after.known :=
  List.map_subset _ (known_evict?_subperm chosen).subset

namespace Withstands

theorem refl (before : Arc) : before.Withstands [] before :=
  ⟨rfl, rfl, Nat.le_of_eq (Nat.zero_add _), Nat.zero_le _⟩

theorem add (withstands : before.Withstands displaced after)
    (unknown : path.key ∉ Path.keys after.known) :
    before.Withstands displaced (after.add path) := by
  rw [add_of_unknown unknown]
  refine ⟨withstands.target, withstands.frequent, ?_, withstands.few⟩
  rw [List.length_append]
  exact withstands.grown.trans (Nat.le_add_right _ _)

/-- The new key takes the place of a recent key, or of a frequent one while there are not more
recent keys than the target. -/
theorem evict_add (withstands : before.Withstands displaced after)
    (chosen : after.evict? = some (victim, rest)) (unknown : path.key ∉ Path.keys rest.known) :
    ∃ displaced, before.Withstands displaced (rest.add path) := by
  obtain ⟨target, frequent, grown, few⟩ := withstands
  rw [add_of_unknown unknown]
  obtain ⟨recent, oldest, rfl, _⟩ | ⟨others, oldest, rfl, within⟩ := evict?_cases chosen
  · refine ⟨displaced, target, frequent, ?_, few⟩
    rw [oldest] at grown
    simpa [demoteRecent] using grown
  · refine ⟨displaced ++ [victim], target, ?_, ?_, ?_⟩
    · rw [frequent, oldest, List.append_assoc]
      rfl
    · simp only [demoteFrequent, List.length_append, List.length_singleton]
      omega
    · rw [target] at within
      rw [List.length_append, List.length_singleton]
      omega

end Withstands

end Arc

end Cache

namespace ModuleCache

open Cache

variable {cache : ModuleCache}

theorem isExpired_of_lasting (lasting : cache.lifetime = none) (now : Nat) (entry : Entry) :
    cache.isExpired now entry = false := by
  rw [isExpired_eq_false_iff, lasting]
  exact nofun

/-- Where nothing expires, a new key is added next to the others or in place of a victim. -/
theorem Coherent.policy_put_of_lasting (coherent : cache.Coherent)
    (lasting : cache.lifetime = none) (now : Nat) {stored : CachedModule}
    (new : stored.key.key ∉ cache.keys) :
    (cache.put now stored).policy = cache.policy.add stored.key ∨
      ∃ victim rest, cache.policy.evict? = some (victim, rest) ∧
        (cache.put now stored).policy = rest.add stored.key := by
  rw [put_of_new new]
  obtain ⟨_, same, _⟩ | ⟨victim, rest, overflows, _, same⟩ := coherent.room_or_overflow now
  · rw [reclaim_of_fresh fun entry _ => isExpired_of_lasting lasting now entry] at same ⊢
    rw [same]
    exact .inl rfl
  · refine .inr ⟨victim, rest, overflows.chosen, ?_⟩
    rw [same, ModuleCache.insert, policy_evict]

end ModuleCache

namespace Cache.Clocked

open ModuleCache

variable {state : Clocked} {before after : Arc} {displaced : List Path}

theorem scan_cons (state : Clocked) (pause : Nat) (stored : CachedModule)
    (later : List (Nat × CachedModule)) :
    state.run (Operation.scan ((pause, stored) :: later)) =
      ((state.apply (.advance pause)).apply (.put stored)).run (Operation.scan later) := rfl

/-- One arrival: its key is known afterwards, and no other key has become known. -/
theorem put_withstood (coherent : state.cache.Coherent) (lasting : state.cache.lifetime = none)
    (adaptive : state.cache.policy = .arc after) (withstands : before.Withstands displaced after)
    {stored : CachedModule} (unknown : stored.key.key ∉ Path.keys after.known) :
    ∃ next displaced, (state.apply (.put stored)).cache.policy = .arc next ∧
      before.Withstands displaced next ∧
      Path.keys next.known ⊆ stored.key.key :: Path.keys after.known := by
  have new : stored.key.key ∉ state.cache.keys := by
    rw [← coherent.mem_policy_iff, adaptive]
    rw [Arc.keys_known, List.mem_append] at unknown
    exact fun member => unknown (.inl member)
  simp only [apply]
  obtain same | ⟨victim, rest, chosen, same⟩ :=
    coherent.policy_put_of_lasting lasting state.now new
  · rw [same, adaptive]
    exact ⟨_, _, rfl, withstands.add unknown, (Arc.keys_known_add_perm unknown).subset⟩
  · rw [adaptive] at chosen
    obtain ⟨⟨oldest, left⟩, found, known⟩ := Option.map_eq_some_iff.mp chosen
    cases known
    have fewer := Arc.keys_known_evict?_subset found
    have unknown : stored.key.key ∉ Path.keys left.known := fun member => unknown (fewer member)
    obtain ⟨displaced, withstands⟩ := withstands.evict_add found unknown
    rw [same]
    refine ⟨_, displaced, rfl, withstands, ?_⟩
    exact List.Subset.trans (Arc.keys_known_add_perm unknown).subset
      (List.cons_subset_cons _ fewer)

theorem scan_withstood (arrivals : List (Nat × CachedModule)) :
    ∀ (state : Clocked) (after : Arc) (displaced : List Path), state.cache.Coherent →
      state.cache.lifetime = none → state.cache.policy = .arc after →
      before.Withstands displaced after →
      (arrivals.Pairwise fun first second => ¬ first.2.key.Same second.2.key) →
      (∀ arrival ∈ arrivals, arrival.2.key.key ∉ Path.keys after.known) →
      ∃ last displaced, (state.run (Operation.scan arrivals)).cache.policy = .arc last ∧
        before.Withstands displaced last := by
  induction arrivals with
  | nil =>
      intro state after displaced _ _ adaptive withstands _ _
      exact ⟨after, displaced, adaptive, withstands⟩
  | cons arrival later ih =>
      obtain ⟨pause, stored⟩ := arrival
      intro state after displaced coherent lasting adaptive withstands distinct unknown
      obtain ⟨apart, distinct⟩ := List.pairwise_cons.mp distinct
      have paused : (state.apply (.advance pause)).cache.Coherent := coherent
      obtain ⟨next, displaced, adaptive, withstands, known⟩ :=
        put_withstood paused lasting adaptive withstands (unknown _ List.mem_cons_self)
      rw [scan_cons]
      refine ih _ next displaced (apply_coherent paused (.put stored)).1 ?_ adaptive withstands
        distinct ?_
      · rw [lifetime_apply paused (.put stored)]
        exact lasting
      · intro arrival member found
        obtain same | earlier := List.mem_cons.mp (known found)
        · exact apart arrival member same.symm
        · exact unknown arrival (List.mem_cons_of_mem _ member) earlier

/-- A scan leaves the target of adaptive replacement where it is. Of the frequent keys it displaces
at most one more than the target exceeds the recent ones by, so only one where the target is zero.
-/
theorem scan_spares_frequent {capacity : Nat} {fresh : ModuleCache}
    {allocator : Allocator}
    (made : ModuleCache.new allocator capacity .arc none = .ok fresh) (start : Nat)
    (operations : List Operation) {policy : Arc}
    (adaptive : ((Clocked.mk fresh start).run operations).cache.policy = .arc policy)
    (arrivals : List (Nat × CachedModule))
    (distinct : arrivals.Pairwise fun first second => ¬ first.2.key.Same second.2.key)
    (unknown : ∀ arrival ∈ arrivals,
      ∀ path ∈ policy.recent ++ policy.frequent ++ (policy.recentGhosts ++ policy.frequentGhosts),
        ¬ path.Same arrival.2.key) :
    let scanned := ((Clocked.mk fresh start).run operations).run (Operation.scan arrivals)
    let lost := policy.frequent.filter fun path => (scanned.cache.find? path).isNone
    (∃ last : Arc, scanned.cache.policy = .arc last ∧ last.target = policy.target) ∧
      lost.length ≤ policy.target + 1 - policy.recent.length ∧
      (policy.target = 0 → lost.length ≤ 1) := by
  intro scanned lost
  obtain ⟨positive, _, rfl⟩ := new_eq_ok made
  have freshCoherent := (Coherent.of_new made).1
  have coherent := (run_coherent operations ⟨_, start⟩ freshCoherent).1
  have lasting := @lifetime_run ⟨_, start⟩ freshCoherent operations
  have strange : ∀ arrival ∈ arrivals, arrival.2.key.key ∉ Path.keys policy.known := by
    intro arrival member known
    obtain ⟨path, held, same⟩ := (Path.mem_keys _ _).mp known
    exact unknown arrival member path held same
  obtain ⟨last, displaced, scannedAdaptive, withstands⟩ :=
    scan_withstood arrivals _ policy [] coherent lasting adaptive (.refl policy) distinct strange
  have spared : ∀ path ∈ last.frequent, ¬ (scanned.cache.find? path).isNone = true := by
    intro path member
    have scannedCoherent := (run_coherent (Operation.scan arrivals) _ coherent).1
    have tracked : path.key ∈ scanned.cache.policy.keys := by
      rw [scannedAdaptive]
      exact List.mem_map_of_mem (List.mem_append_right _ member)
    rw [Option.isNone_iff_eq_none, find?_eq_none_iff, not_not]
    exact (scannedCoherent.mem_policy_iff _).mp tracked
  have few : lost.length ≤ policy.target + 1 - policy.recent.length := by
    calc
      lost.length = (displaced.filter fun path => (scanned.cache.find? path).isNone).length := by
        simp only [lost]
        rw [withstands.frequent, List.filter_append, List.filter_eq_nil_iff.mpr spared,
          List.append_nil]
      _ ≤ displaced.length := List.length_filter_le _ _
      _ ≤ policy.target + 1 - policy.recent.length := withstands.few
  refine ⟨⟨last, scannedAdaptive, withstands.target⟩, few, ?_⟩
  intro low
  omega

/-- Two modules were used twice; of three that pass by, the first one displaces the older of them. -/
theorem scan_spares_frequent_full :
    let named (name : String) : CachedModule := ⟨.ofString name, .wasmtime, [], ""⟩
    let fresh : ModuleCache := ⟨2, none, .arc (.empty 2), [], .zero⟩
    let used := (Clocked.mk fresh 0).run
      [.put (named "a"), .get "a", .put (named "b"), .get "b"]
    let arrivals := [(0, named "c"), (3, named "d"), (1, named "e")]
    let scanned := used.run (Operation.scan arrivals)
    ModuleCache.new .generous 2 .arc none = .ok fresh ∧
      used.cache.policy = .arc ⟨2, 0, [], ["a", "b"], [], []⟩ ∧
      (arrivals.Pairwise fun first second => ¬ first.2.key.Same second.2.key) ∧
      (∀ arrival ∈ arrivals, ∀ path ∈ (["a", "b"] : List Path), ¬ path.Same arrival.2.key) ∧
      ((["a", "b"] : List Path).filter fun path =>
        (scanned.cache.find? path).isNone).length ≤ 1 := by
  intro named fresh used arrivals scanned
  have made : ModuleCache.new .generous 2 .arc none = .ok fresh := rfl
  have lists : used.cache.policy = .arc ⟨2, 0, [], ["a", "b"], [], []⟩ := by cbv
  have distinct : arrivals.Pairwise fun first second => ¬ first.2.key.Same second.2.key :=
    of_decide_eq_true (by cbv)
  have unknown : ∀ arrival ∈ arrivals, ∀ path ∈ (["a", "b"] : List Path),
      ¬ path.Same arrival.2.key :=
    of_decide_eq_true (by cbv)
  exact ⟨made, lists, distinct, unknown,
    (scan_spares_frequent made 0 _ lists arrivals distinct unknown).2.2 rfl⟩

end Cache.Clocked

end WasmTasks
