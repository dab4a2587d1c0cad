import WasmTasks.Proofs.Cache.Run

/-!
What every replacement policy does to the keys it tracks, their spelling aside. A use keeps the
keys, an addition and a removal change them by one key, and a victim is one of them.
-/

namespace WasmTasks

namespace Path

theorem decide_same_congr {path other : Path} (same : path.Same other) (key : Path) :
    decide (key.Same path) = decide (key.Same other) :=
  decide_eq_decide.mpr ⟨fun own => own.trans same, fun own => own.trans same.symm⟩

def keys (paths : List Path) : List (List Component) :=
  paths.map key

theorem mem_keys (paths : List Path) (path : Path) :
    path.key ∈ keys paths ↔ ∃ entry ∈ paths, entry.Same path := by
  simp [keys, Same]

theorem keys_append (front back : List Path) : keys (front ++ back) = keys front ++ keys back :=
  List.map_append

theorem keys_filter_not_same {paths : List Path} (nodup : (keys paths).Nodup) (path : Path) :
    keys (paths.filter fun entry => ¬ entry.Same path) = (keys paths).erase path.key := by
  rw [List.Nodup.erase_eq_filter nodup, keys, keys, List.filter_map]
  apply congrArg (List.map key)
  apply List.filter_congr
  intro entry _
  by_cases same : entry.key = path.key <;> simp [Same, same]

end Path

namespace Cache

/-! Each representation on its own. -/

namespace Lfu

theorem entries_add_of_notMem {policy : Lfu} {path : Path}
    (absent : path.key ∉ Path.keys policy.tracked) :
    (policy.add path).entries = policy.entries ++ [⟨path, 0, policy.nextSerial⟩] := by
  have untracked : policy.entries.any (fun entry => entry.path.Same path) = false := by
    rw [Bool.eq_false_iff]
    intro found
    obtain ⟨entry, member, same⟩ := List.any_eq_true.mp found
    exact absent ((Path.mem_keys _ path).mpr
      ⟨entry.path, List.mem_map_of_mem member, of_decide_eq_true same⟩)
  simp [add, untracked]

theorem keys_add_of_notMem {policy : Lfu} {path : Path}
    (absent : path.key ∉ Path.keys policy.tracked) :
    Path.keys (policy.add path).tracked = Path.keys policy.tracked ++ [path.key] := by
  simp [tracked, entries_add_of_notMem absent, Path.keys]

theorem keys_touch (policy : Lfu) (path : Path) :
    Path.keys (policy.touch path).tracked = Path.keys policy.tracked := by
  simp only [touch, tracked, List.map_map]
  apply congrArg Path.keys
  apply List.map_congr_left
  intro entry _
  simp only [Function.comp_apply]
  split <;> rfl

theorem keys_remove {policy : Lfu} (nodup : (Path.keys policy.tracked).Nodup) (path : Path) :
    Path.keys (policy.remove path).tracked = (Path.keys policy.tracked).erase path.key := by
  rw [← Path.keys_filter_not_same nodup path]
  apply congrArg Path.keys
  simp only [remove, tracked, List.filter_map]
  rfl

theorem least?_eq_none_iff (entries : List Entry) : least? entries = none ↔ entries = [] := by
  cases entries with
  | nil => simp [least?]
  | cons entry rest =>
      simp only [least?]
      split
      · simp
      · split <;> simp

end Lfu

namespace Lru

theorem keys_remove {policy : Lru} (nodup : (Path.keys policy.tracked).Nodup) (path : Path) :
    Path.keys (policy.remove path).tracked = (Path.keys policy.tracked).erase path.key :=
  Path.keys_filter_not_same nodup path

theorem keys_touch {policy : Lru} (nodup : (Path.keys policy.tracked).Nodup) (path : Path) :
    Path.keys (policy.touch path).tracked =
      (Path.keys policy.tracked).erase path.key ++ [path.key] := by
  rw [← keys_remove nodup path]
  exact Path.keys_append (policy.remove path).order [path]

theorem keys_add_of_notMem {policy : Lru} {path : Path}
    (nodup : (Path.keys policy.tracked).Nodup) (absent : path.key ∉ Path.keys policy.tracked) :
    Path.keys (policy.add path).tracked = Path.keys policy.tracked ++ [path.key] := by
  rw [add, keys_touch nodup, List.erase_of_not_mem absent]

end Lru

namespace Arc

theorem holds_iff (paths : List Path) (path : Path) :
    holds paths path = true ↔ path.key ∈ Path.keys paths := by
  simp [holds, Path.mem_keys]

theorem keys_drop (paths : List Path) (path : Path) :
    Path.keys (drop paths path) = (Path.keys paths).erase path.key := by
  rw [List.erase_eq_eraseP', Path.keys, Path.keys, List.eraseP_map]
  apply congrArg (List.map Path.key)
  apply congrArg (fun test => List.eraseP test paths)
  funext entry
  by_cases same : entry.key = path.key <;> simp [Path.Same, same]

theorem keys_tracked (policy : Arc) :
    Path.keys policy.tracked = Path.keys policy.recent ++ Path.keys policy.frequent :=
  Path.keys_append policy.recent policy.frequent

theorem keys_add_perm (policy : Arc) (path : Path) :
    (Path.keys (policy.add path).tracked).Perm (path.key :: Path.keys policy.tracked) := by
  have asFrequent : (Path.keys (policy.recent ++ (policy.frequent ++ [path]))).Perm
      (path.key :: Path.keys policy.tracked) := by
    rw [← List.append_assoc, Path.keys_append]
    exact List.perm_append_singleton _ _
  have asRecent : (Path.keys ((policy.recent ++ [path]) ++ policy.frequent)).Perm
      (path.key :: Path.keys policy.tracked) := by
    rw [Path.keys_append, Path.keys_append, keys_tracked]
    exact (List.perm_append_singleton _ _).append_right _
  unfold add
  split
  · exact asFrequent
  · split
    · exact asFrequent
    · exact asRecent

theorem keys_remove (policy : Arc) (path : Path) :
    Path.keys (policy.remove path).tracked = (Path.keys policy.tracked).erase path.key := by
  unfold remove
  split
  · rename_i recent
    rw [holds_iff] at recent
    rw [keys_tracked, keys_tracked, List.erase_append_left _ recent, keys_drop]
  · rename_i notRecent
    rw [holds_iff] at notRecent
    rw [keys_tracked, keys_tracked, List.erase_append_right _ notRecent, keys_drop]

theorem tracked_touch {policy : Arc} {path : Path} (held : path.key ∈ Path.keys policy.tracked) :
    (policy.touch path).tracked = (policy.remove path).tracked ++ [path] := by
  unfold touch remove
  split
  · simp [tracked]
  · rename_i notRecent
    have frequent : holds policy.frequent path = true := by
      rw [holds_iff] at notRecent ⊢
      rw [keys_tracked, List.mem_append] at held
      exact held.resolve_left notRecent
    simp [frequent, tracked]

theorem keys_touch_perm {policy : Arc} {path : Path}
    (held : path.key ∈ Path.keys policy.tracked) :
    (Path.keys (policy.touch path).tracked).Perm (Path.keys policy.tracked) := by
  rw [tracked_touch held, Path.keys_append, keys_remove]
  exact (List.perm_append_singleton _ _).trans (List.perm_cons_erase held).symm

theorem evict?_eq_none_iff (policy : Arc) : policy.evict? = none ↔ policy.tracked = [] := by
  unfold evict?
  split <;> simp_all [tracked]
  split <;> simp

theorem tracked_evict?_perm {policy rest : Arc} {victim : Path}
    (chosen : policy.evict? = some (victim, rest)) :
    policy.tracked.Perm (victim :: rest.tracked) := by
  unfold evict? at chosen
  split at chosen
  · cases chosen
  · rename_i recentEquation frequentEquation
    cases chosen
    simp [tracked, demoteFrequent, recentEquation, frequentEquation]
  · rename_i recentEquation frequentEquation
    cases chosen
    simp [tracked, demoteRecent, recentEquation, frequentEquation]
  · rename_i recentEquation frequentEquation
    split at chosen
    · cases chosen
      simp [tracked, demoteRecent, recentEquation, frequentEquation]
    · cases chosen
      simp only [tracked, demoteFrequent, recentEquation, frequentEquation]
      exact List.perm_middle

end Arc

namespace Simple

theorem keys_add_of_notMem {policy : Simple} {path : Path}
    (absent : path.key ∉ Path.keys policy.tracked) :
    Path.keys (policy.add path).tracked = Path.keys policy.tracked ++ [path.key] := by
  have untracked : policy.keys.any (fun entry => entry.Same path) = false := by
    rw [Bool.eq_false_iff]
    intro found
    apply absent
    simpa [Path.mem_keys, tracked] using found
  simp [add, untracked, tracked, Path.keys]

theorem keys_remove {policy : Simple} (nodup : (Path.keys policy.tracked).Nodup) (path : Path) :
    Path.keys (policy.remove path).tracked = (Path.keys policy.tracked).erase path.key :=
  Path.keys_filter_not_same nodup path

end Simple

/-! The contract all of them meet. -/

namespace Policy

def keys (policy : Policy) : List (List Component) :=
  Path.keys policy.tracked

variable {policy : Policy}

@[simp] theorem keys_empty (kind : EvictionKind) (capacity : Nat) :
    (empty kind capacity).keys = [] := by
  cases kind <;> rfl

theorem keys_add_perm {path : Path} (nodup : policy.keys.Nodup) (absent : path.key ∉ policy.keys) :
    (policy.add path).keys.Perm (path.key :: policy.keys) := by
  cases policy with
  | lfu policy =>
      rw [keys, add, tracked, Lfu.keys_add_of_notMem absent]
      exact List.perm_append_singleton _ _
  | lru policy =>
      rw [keys, add, tracked, Lru.keys_add_of_notMem nodup absent]
      exact List.perm_append_singleton _ _
  | arc policy => exact policy.keys_add_perm path
  | simple policy =>
      rw [keys, add, tracked, Simple.keys_add_of_notMem absent]
      exact List.perm_append_singleton _ _

theorem keys_touch_perm {path : Path} (nodup : policy.keys.Nodup) (held : path.key ∈ policy.keys) :
    (policy.touch path).keys.Perm policy.keys := by
  cases policy with
  | lfu policy => exact .of_eq (policy.keys_touch path)
  | lru policy =>
      rw [keys, touch, tracked, Lru.keys_touch nodup path]
      exact (List.perm_append_singleton _ _).trans (List.perm_cons_erase held).symm
  | arc policy => exact Arc.keys_touch_perm held
  | simple policy => exact .refl _

theorem keys_remove (nodup : policy.keys.Nodup) (path : Path) :
    (policy.remove path).keys = policy.keys.erase path.key := by
  cases policy with
  | lfu policy => exact Lfu.keys_remove nodup path
  | lru policy => exact Lru.keys_remove nodup path
  | arc policy => exact policy.keys_remove path
  | simple policy => exact Simple.keys_remove nodup path

theorem keys_reorder_perm (policy : Policy) (order : List Path) :
    (policy.reorder order).keys.Perm policy.keys := by
  cases policy with
  | simple policy =>
      rw [reorder]
      split
      · rename_i permuted
        exact permuted.map Path.key
      · exact .refl _
  | _ => exact .refl _

theorem evict?_eq_none_iff (policy : Policy) : policy.evict? = none ↔ policy.keys = [] := by
  cases policy with
  | lfu policy =>
      simp [evict?, keys, Path.keys, tracked, Lfu.evict?, Lfu.tracked, Lfu.least?_eq_none_iff]
  | lru policy =>
      obtain ⟨order⟩ := policy
      cases order <;> simp [evict?, keys, Path.keys, tracked, Lru.evict?, Lru.tracked]
  | arc policy => simp [evict?, keys, Path.keys, tracked, Arc.evict?_eq_none_iff]
  | simple policy =>
      obtain ⟨order⟩ := policy
      cases order <;> simp [evict?, keys, Path.keys, tracked, Simple.evict?, Simple.tracked]

theorem keys_evict?_perm {rest : Policy} {victim : Path} (nodup : policy.keys.Nodup)
    (chosen : policy.evict? = some (victim, rest)) :
    policy.keys.Perm (victim.key :: rest.keys) := by
  cases policy with
  | lfu policy =>
      simp only [evict?, Lfu.evict?, Option.map_map, Option.map_eq_some_iff,
        Function.comp_apply, Prod.mk.injEq] at chosen
      obtain ⟨entry, least, rfl, rfl⟩ := chosen
      have held : entry.path.key ∈ (lfu policy).keys :=
        List.mem_map_of_mem (List.mem_map_of_mem (Lfu.mem_of_least? least))
      have left : (lfu (policy.remove entry.path)).keys = (lfu policy).keys.erase entry.path.key :=
        Lfu.keys_remove nodup entry.path
      rw [left]
      exact List.perm_cons_erase held
  | lru policy =>
      obtain ⟨order⟩ := policy
      cases order with
      | nil => simp [evict?, Lru.evict?] at chosen
      | cons oldest others =>
          simp only [evict?, Lru.evict?, Option.map_some, Option.some.injEq] at chosen
          cases chosen
          exact .refl _
  | arc policy =>
      simp only [evict?, Option.map_eq_some_iff] at chosen
      obtain ⟨⟨oldest, left⟩, found, same⟩ := chosen
      cases same
      exact (Arc.tracked_evict?_perm found).map Path.key
  | simple policy =>
      obtain ⟨order⟩ := policy
      cases order with
      | nil => simp [evict?, Simple.evict?] at chosen
      | cons first others =>
          simp only [evict?, Simple.evict?, Option.map_some, Option.some.injEq] at chosen
          cases chosen
          exact .refl _

end Policy

end Cache

end WasmTasks
