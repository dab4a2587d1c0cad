import WasmTasks.Proofs.Cache.PolicySteps

/-!
The four lists of adaptive replacement. A key that is held is no ghost, because a returning ghost is
taken out of its list and a cache adds no key that it holds already. So every key is known once, and
the target and the ghosts of either list stay within the capacity.
-/

namespace WasmTasks

namespace Cache

namespace Arc

def ghosts (policy : Arc) : List Path :=
  policy.recentGhosts ++ policy.frequentGhosts

/-- The held keys and those that are remembered. -/
def known (policy : Arc) : List Path :=
  policy.tracked ++ policy.ghosts

structure Bounded (policy : Arc) : Prop where
  recentGhosts : policy.recentGhosts.length ≤ policy.capacity
  frequentGhosts : policy.frequentGhosts.length ≤ policy.capacity
  target : policy.target ≤ policy.capacity

/-- Every key is known once, as recent, as frequent or as a ghost of either kind. -/
structure WellFormed (policy : Arc) : Prop extends Bounded policy where
  nodup : (Path.keys policy.known).Nodup

variable {policy rest : Arc} {path victim : Path}

theorem keys_known (policy : Arc) :
    Path.keys policy.known = Path.keys policy.tracked ++ Path.keys policy.ghosts :=
  Path.keys_append policy.tracked policy.ghosts

theorem drop_sublist (paths : List Path) (path : Path) : (drop paths path).Sublist paths :=
  List.eraseP_sublist

theorem trim_sublist (capacity : Nat) (paths : List Path) : (trim capacity paths).Sublist paths :=
  List.drop_sublist _ _

theorem length_trim_le (capacity : Nat) (paths : List Path) :
    (trim capacity paths).length ≤ capacity := by
  rw [trim, List.length_drop]
  omega

/-! What the operations leave alone, and what they do to the ghosts. -/

@[simp] theorem capacity_add (policy : Arc) (path : Path) :
    (policy.add path).capacity = policy.capacity := by
  unfold add
  split
  · rfl
  · split <;> rfl

@[simp] theorem capacity_touch (policy : Arc) (path : Path) :
    (policy.touch path).capacity = policy.capacity := by
  unfold touch
  split
  · rfl
  · split <;> rfl

@[simp] theorem capacity_remove (policy : Arc) (path : Path) :
    (policy.remove path).capacity = policy.capacity := by
  unfold remove
  split <;> rfl

@[simp] theorem ghosts_remove (policy : Arc) (path : Path) :
    (policy.remove path).ghosts = policy.ghosts := by
  unfold remove
  split <;> rfl

theorem touch_of_untracked (untracked : path.key ∉ Path.keys policy.tracked) :
    policy.touch path = policy := by
  rw [keys_tracked, List.mem_append, not_or] at untracked
  have notRecent : ¬ holds policy.recent path = true := by
    rw [holds_iff]
    exact untracked.1
  have notFrequent : ¬ holds policy.frequent path = true := by
    rw [holds_iff]
    exact untracked.2
  rw [touch, if_neg notRecent, if_neg notFrequent]

@[simp] theorem ghosts_touch (policy : Arc) (path : Path) :
    (policy.touch path).ghosts = policy.ghosts := by
  unfold touch
  split
  · rfl
  · split <;> rfl

theorem keys_ghosts_add (policy : Arc) (path : Path) :
    Path.keys (policy.add path).ghosts = (Path.keys policy.ghosts).erase path.key := by
  have both : Path.keys policy.ghosts =
      Path.keys policy.recentGhosts ++ Path.keys policy.frequentGhosts :=
    Path.keys_append policy.recentGhosts policy.frequentGhosts
  unfold add
  split
  · rename_i recent
    rw [holds_iff] at recent
    rw [both, List.erase_append_left _ recent, ← keys_drop]
    exact Path.keys_append _ _
  · rename_i notRecent
    rw [holds_iff] at notRecent
    split
    · rw [both, List.erase_append_right _ notRecent, ← keys_drop]
      exact Path.keys_append _ _
    · rename_i notFrequent
      rw [holds_iff] at notFrequent
      have forgotten : path.key ∉ Path.keys policy.ghosts := by
        rw [both, List.mem_append]
        exact not_or.mpr ⟨notRecent, notFrequent⟩
      rw [List.erase_of_not_mem forgotten]
      rfl

/-- A victim leaves as the newest ghost of its list, or is the oldest of the list the other keys
come from. -/
theorem evict?_cases (chosen : policy.evict? = some (victim, rest)) :
    (∃ recent, policy.recent = victim :: recent ∧ rest = policy.demoteRecent victim recent ∧
        (policy.target < policy.recent.length ∨ policy.frequent = [])) ∨
      ∃ frequent, policy.frequent = victim :: frequent ∧
        rest = policy.demoteFrequent victim frequent ∧ policy.recent.length ≤ policy.target := by
  unfold evict? at chosen
  split at chosen
  · cases chosen
  · rename_i noRecent frequent
    cases chosen
    exact .inr ⟨_, frequent, rfl, by simp [noRecent]⟩
  · rename_i recent noFrequent
    cases chosen
    exact .inl ⟨_, recent, rfl, .inr noFrequent⟩
  · rename_i recent frequent
    split at chosen
    · rename_i above
      cases chosen
      exact .inl ⟨_, recent, rfl, .inl (by rwa [recent])⟩
    · rename_i within
      cases chosen
      exact .inr ⟨_, frequent, rfl, by rw [recent]; exact Nat.not_lt.mp within⟩

theorem capacity_of_evict? (chosen : policy.evict? = some (victim, rest)) :
    rest.capacity = policy.capacity := by
  obtain ⟨recent, _, rfl, _⟩ | ⟨frequent, _, rfl, _⟩ := evict?_cases chosen <;> rfl

theorem ghosts_evict?_subperm (chosen : policy.evict? = some (victim, rest)) :
    rest.ghosts.Subperm (victim :: policy.ghosts) := by
  obtain ⟨recent, _, rfl, _⟩ | ⟨frequent, _, rfl, _⟩ := evict?_cases chosen
  · have trimmed : (policy.demoteRecent victim recent).ghosts.Sublist
        ((policy.recentGhosts ++ [victim]) ++ policy.frequentGhosts) :=
      (trim_sublist _ _).append (trim_sublist _ _)
    refine trimmed.subperm.trans ?_
    rw [List.append_assoc]
    exact List.perm_middle.subperm
  · have trimmed : (policy.demoteFrequent victim frequent).ghosts.Sublist
        (policy.recentGhosts ++ (policy.frequentGhosts ++ [victim])) :=
      (trim_sublist _ _).append (trim_sublist _ _)
    refine trimmed.subperm.trans ?_
    rw [← List.append_assoc]
    exact (List.perm_append_singleton _ _).subperm

theorem known_evict?_subperm (chosen : policy.evict? = some (victim, rest)) :
    rest.known.Subperm policy.known := by
  have remembered : rest.known.Subperm (rest.tracked ++ victim :: policy.ghosts) :=
    (List.subperm_append_left _).mpr (ghosts_evict?_subperm chosen)
  have moved : (rest.tracked ++ victim :: policy.ghosts).Perm policy.known :=
    List.perm_middle.trans ((tracked_evict?_perm chosen).symm.append_right _)
  exact remembered.trans moved.subperm

/-! The steps of a policy. -/

namespace Bounded

theorem remove (bounded : policy.Bounded) (path : Path) : (policy.remove path).Bounded := by
  unfold Arc.remove
  split <;> exact ⟨bounded.recentGhosts, bounded.frequentGhosts, bounded.target⟩

theorem touch (bounded : policy.Bounded) (path : Path) : (policy.touch path).Bounded := by
  unfold Arc.touch
  split
  · exact ⟨bounded.recentGhosts, bounded.frequentGhosts, bounded.target⟩
  · split <;> exact ⟨bounded.recentGhosts, bounded.frequentGhosts, bounded.target⟩

theorem add (bounded : policy.Bounded) (path : Path) : (policy.add path).Bounded := by
  obtain ⟨recentGhosts, frequentGhosts, target⟩ := bounded
  have shorter (ghosts : List Path) : (drop ghosts path).length ≤ ghosts.length :=
    (drop_sublist ghosts path).length_le
  unfold Arc.add
  split
  · exact ⟨(shorter _).trans recentGhosts, frequentGhosts, Nat.min_le_right _ _⟩
  · split
    · exact ⟨recentGhosts, (shorter _).trans frequentGhosts, (Nat.sub_le _ _).trans target⟩
    · exact ⟨recentGhosts, frequentGhosts, target⟩

theorem of_evict? (bounded : policy.Bounded) (chosen : policy.evict? = some (victim, rest)) :
    rest.Bounded := by
  obtain ⟨recent, _, rfl, _⟩ | ⟨frequent, _, rfl, _⟩ := evict?_cases chosen <;>
    exact ⟨length_trim_le _ _, length_trim_le _ _, bounded.target⟩

end Bounded

namespace WellFormed

theorem empty (capacity : Nat) : (Arc.empty capacity).WellFormed :=
  ⟨⟨Nat.zero_le _, Nat.zero_le _, Nat.zero_le _⟩, List.nodup_nil⟩

theorem remove (wellFormed : policy.WellFormed) (path : Path) :
    (policy.remove path).WellFormed := by
  refine ⟨wellFormed.toBounded.remove path, ?_⟩
  have nodup := wellFormed.nodup
  rw [keys_known] at nodup
  rw [keys_known, keys_remove, ghosts_remove]
  exact nodup.sublist (List.erase_sublist.append_right _)

theorem touch (wellFormed : policy.WellFormed) (path : Path) :
    (policy.touch path).WellFormed := by
  by_cases held : path.key ∈ Path.keys policy.tracked
  · refine ⟨wellFormed.toBounded.touch path, ?_⟩
    have nodup := wellFormed.nodup
    rw [keys_known] at nodup
    rw [keys_known, ghosts_touch]
    exact ((keys_touch_perm held).append_right _).nodup_iff.mpr nodup
  · rwa [touch_of_untracked held]

theorem add (wellFormed : policy.WellFormed) {path : Path}
    (new : path.key ∉ Path.keys policy.tracked) : (policy.add path).WellFormed := by
  refine ⟨wellFormed.toBounded.add path, ?_⟩
  have nodup := wellFormed.nodup
  rw [keys_known] at nodup
  have forgotten : path.key ∉ (Path.keys policy.ghosts).erase path.key := fun member =>
    ((nodup.of_append_right).mem_erase_iff.mp member).1 rfl
  rw [keys_known, keys_ghosts_add, ((policy.keys_add_perm path).append_right _).nodup_iff,
    List.cons_append, List.nodup_cons, List.mem_append]
  exact ⟨not_or.mpr ⟨new, forgotten⟩, nodup.sublist (List.erase_sublist.append_left _)⟩

theorem of_evict? (wellFormed : policy.WellFormed)
    (chosen : policy.evict? = some (victim, rest)) : rest.WellFormed := by
  refine ⟨wellFormed.toBounded.of_evict? chosen, ?_⟩
  obtain ⟨known, permuted, sublist⟩ := known_evict?_subperm chosen
  have nodup : (Path.keys known).Nodup := wellFormed.nodup.sublist (sublist.map Path.key)
  exact (permuted.map Path.key).nodup_iff.mp nodup

end WellFormed

end Arc

namespace Policy

def Adapts (capacity : Nat) (policy : Policy) : Prop :=
  ∃ adaptive : Arc, policy = .arc adaptive ∧ adaptive.capacity = capacity ∧ adaptive.WellFormed

namespace Adapts

variable {capacity : Nat} {policy shrunk : Policy}

theorem remove (adapts : policy.Adapts capacity) (path : Path) :
    (policy.remove path).Adapts capacity := by
  obtain ⟨adaptive, rfl, sized, wellFormed⟩ := adapts
  exact ⟨_, rfl, (adaptive.capacity_remove path).trans sized, wellFormed.remove path⟩

theorem touch (adapts : policy.Adapts capacity) (path : Path) :
    (policy.touch path).Adapts capacity := by
  obtain ⟨adaptive, rfl, sized, wellFormed⟩ := adapts
  exact ⟨_, rfl, (adaptive.capacity_touch path).trans sized, wellFormed.touch path⟩

theorem add (adapts : policy.Adapts capacity) {path : Path} (new : path.key ∉ policy.keys) :
    (policy.add path).Adapts capacity := by
  obtain ⟨adaptive, rfl, sized, wellFormed⟩ := adapts
  exact ⟨_, rfl, (adaptive.capacity_add path).trans sized, wellFormed.add new⟩

theorem of_evict? (adapts : policy.Adapts capacity) {rest : Policy} {victim : Path}
    (chosen : policy.evict? = some (victim, rest)) : rest.Adapts capacity := by
  obtain ⟨adaptive, rfl, sized, wellFormed⟩ := adapts
  obtain ⟨⟨oldest, left⟩, found, same⟩ := Option.map_eq_some_iff.mp chosen
  cases same
  exact ⟨left, rfl, (Arc.capacity_of_evict? found).trans sized, wellFormed.of_evict? found⟩

theorem shrink (adapts : policy.Adapts capacity) (shrinks : policy.Shrinks shrunk) :
    shrunk.Adapts capacity := by
  induction shrinks with
  | refl => exact adapts
  | remove path _ ih => exact ih.remove path
  | evict _ chosen ih => exact ih.of_evict? chosen
  | reorder order _ ih =>
      obtain ⟨adaptive, rfl, kept⟩ := ih
      exact ⟨adaptive, rfl, kept⟩

theorem follow {step : Step} {next : Policy} (adapts : policy.Adapts capacity)
    (moves : step.Moves policy next) : next.Adapts capacity := by
  cases moves with
  | rests _ _ shrinks => exact adapts.shrink shrinks
  | uses _ _ => exact adapts.touch _
  | admits _ _ shrinks new => exact (adapts.shrink shrinks).add new

end Adapts

end Policy

namespace Clocked

open ModuleCache

theorem adapts_run {capacity : Nat} {state : Clocked} (coherent : state.cache.Coherent)
    (adapts : state.cache.policy.Adapts capacity) (operations : List Operation) :
    (state.run operations).cache.policy.Adapts capacity := by
  induction operations using List.reverseRecOn with
  | nil => exact adapts
  | append_singleton earlier operation ih =>
      rw [run_concat]
      exact ih.follow (moves_apply (run_coherent earlier state coherent).1 operation)

theorem adapts_of_new {capacity : Nat} {lifetime : Option Nat} {fresh : ModuleCache}
    {allocator : Allocator}
    (made : ModuleCache.new allocator capacity .arc lifetime = .ok fresh) :
    fresh.policy.Adapts capacity := by
  obtain ⟨positive, _, rfl⟩ := new_eq_ok made
  exact ⟨_, rfl, Nat.max_eq_left positive, .empty capacity⟩

/-- In every run from a new cache with adaptive replacement no path is in two of the four lists or
twice in one of them, the first two lists are the held keys, and the lengths of the lists and the
target stay within the capacity. -/
theorem run_keeps_lists_apart {capacity : Nat} {lifetime : Option Nat} {fresh : ModuleCache}
    {allocator : Allocator}
    (made : ModuleCache.new allocator capacity .arc lifetime = .ok fresh) (start : Nat)
    (operations : List Operation) :
    let reached := (Clocked.mk fresh start).run operations
    ∃ policy : Arc, reached.cache.policy = .arc policy ∧
      (policy.recent ++ policy.frequent ++ (policy.recentGhosts ++ policy.frequentGhosts)).Pairwise
        (fun first second => ¬ first.Same second) ∧
      (∀ path : Path, (∃ entry ∈ reached.cache.entries, entry.stored.key.Same path) ↔
        ∃ held ∈ policy.recent ++ policy.frequent, held.Same path) ∧
      policy.recent.length + policy.frequent.length ≤ capacity ∧
      policy.recentGhosts.length ≤ capacity ∧ policy.frequentGhosts.length ≤ capacity ∧
      policy.target ≤ capacity := by
  intro reached
  obtain ⟨freshCoherent, freshCapacity⟩ := Coherent.of_new made
  obtain ⟨coherent, sameCapacity⟩ := run_coherent operations ⟨fresh, start⟩ freshCoherent
  obtain ⟨policy, adaptive, sized, wellFormed⟩ :=
    @adapts_run _ ⟨fresh, start⟩ freshCoherent (adapts_of_new made) operations
  have agree : reached.cache.keys.Perm (Path.keys (policy.recent ++ policy.frequent)) := by
    have agree := coherent.agree
    rwa [adaptive] at agree
  refine ⟨policy, adaptive, List.pairwise_map.mp wellFormed.nodup, ?_, ?_, ?_, ?_, ?_⟩
  · intro path
    rw [← ModuleCache.mem_keys, ← Path.mem_keys]
    exact agree.mem_iff
  · have lengths := agree.length_eq
    rw [length_keys, Path.keys, List.length_map, List.length_append] at lengths
    rw [← lengths, ← freshCapacity, ← sameCapacity]
    exact coherent.bounded
  · rw [← sized]
    exact wellFormed.recentGhosts
  · rw [← sized]
    exact wellFormed.frequentGhosts
  · rw [← sized]
    exact wellFormed.target

theorem run_keeps_lists_apart_ghosts :
    let named (name : String) : CachedModule := ⟨.ofString name, .wasmtime, [], ""⟩
    let fresh : ModuleCache := ⟨2, none, .arc (.empty 2), [], .zero⟩
    let reached := (Clocked.mk fresh 0).run
      [.put (named "a"), .get "a", .put (named "b"), .put (named "c"), .put (named "b"),
        .put (named "d")]
    ModuleCache.new .generous 2 .arc none = .ok fresh ∧
      reached.cache.policy = .arc ⟨2, 1, ["d"], ["b"], ["c"], ["a"]⟩ ∧
      (["d", "b", "c", "a"] : List Path).Pairwise
        fun first second => ¬ first.Same second := by
  intro named fresh reached
  have made : ModuleCache.new .generous 2 .arc none = .ok fresh := rfl
  have lists : reached.cache.policy = .arc ⟨2, 1, ["d"], ["b"], ["c"], ["a"]⟩ := by cbv
  obtain ⟨policy, adaptive, apart, _⟩ := run_keeps_lists_apart made 0
    [.put (named "a"), .get "a", .put (named "b"), .put (named "c"), .put (named "b"),
      .put (named "d")]
  cases lists.symm.trans adaptive
  exact ⟨made, lists, apart⟩

end Clocked

end Cache

end WasmTasks
