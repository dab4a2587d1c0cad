import WasmTasks.Proofs.Cache.Purge
import WasmTasks.Proofs.Cache.Replacement

/-!
Policies that rank their keys alike. They track the same keys and choose the same victims, now and
after the same additions, uses and removals. The serials of two policies that count accesses may
differ where they order the keys in the same way.
-/

namespace WasmTasks

namespace Cache

/-! Access counts in the order of admission. -/

namespace Lfu

/-- The entries stand in the order of their serials, and the next serial is greater. -/
structure Ordered (policy : Lfu) : Prop where
  growing : policy.entries.Pairwise fun earlier later => earlier.serial < later.serial
  issued : ∀ entry ∈ policy.entries, entry.serial < policy.nextSerial

structure Entry.Alike (entry other : Entry) : Prop where
  path : entry.path.Same other.path
  accesses : entry.accesses = other.accesses

/-- The same keys with the same counts, admitted in the same order. -/
structure Alike (policy other : Lfu) : Prop where
  ordered : policy.Ordered
  otherOrdered : other.Ordered
  entries : List.Forall₂ Entry.Alike policy.entries other.entries

variable {policy other rest : Lfu} {path victim : Path} {entries others : List Entry}

theorem Ranked.ordered_serials {past : List Step} (ranked : policy.Ranked past) :
    policy.Ordered where
  growing := ranked.ordered.imp fun precedes => precedes.serial
  issued := ranked.issued

namespace Ordered

theorem remove (ordered : policy.Ordered) (path : Path) : (policy.remove path).Ordered where
  growing := ordered.growing.sublist List.filter_sublist
  issued := fun entry member => ordered.issued entry (List.mem_of_mem_filter member)

theorem touch (ordered : policy.Ordered) (path : Path) : (policy.touch path).Ordered where
  growing := by
    refine List.pairwise_map.mpr (ordered.growing.imp fun {earlier later} before => ?_)
    split <;> split <;> exact before
  issued := by
    intro entry member
    obtain ⟨old, oldMember, rfl⟩ := List.mem_map.mp member
    have issued := ordered.issued old oldMember
    split <;> exact issued

theorem add (ordered : policy.Ordered) (new : path.key ∉ Path.keys policy.tracked) :
    (policy.add path).Ordered := by
  have appended := entries_add_of_notMem new
  constructor
  · rw [appended, List.pairwise_append]
    refine ⟨ordered.growing, List.pairwise_singleton _ _, ?_⟩
    intro entry member last lastMember
    obtain rfl := List.mem_singleton.mp lastMember
    exact ordered.issued entry member
  · rw [appended, List.forall_mem_append, List.forall_mem_singleton]
    exact ⟨fun entry member => Nat.lt_succ_of_lt (ordered.issued entry member), Nat.lt_succ_self _⟩

end Ordered

theorem Entry.Alike.refl (entry : Entry) : entry.Alike entry :=
  ⟨Path.Same.refl entry.path, rfl⟩

theorem keys_of_alike (alike : List.Forall₂ Entry.Alike entries others) :
    Path.keys (entries.map Entry.path) = Path.keys (others.map Entry.path) := by
  induction alike with
  | nil => rfl
  | cons first _ ih =>
      rw [List.map_cons, List.map_cons]
      exact congrArg₂ List.cons first.path ih

theorem before_head {head : Entry} {best : Entry} (later : head.serial < best.serial) :
    best.before head = decide (best.accesses < head.accesses) := by
  have notEarlier : ¬ best.serial < head.serial := Nat.lt_asymm later
  simp [Entry.before, notEarlier]

theorem least?_alike (alike : List.Forall₂ Entry.Alike entries others)
    (growing : entries.Pairwise fun earlier later => earlier.serial < later.serial)
    (otherGrowing : others.Pairwise fun earlier later => earlier.serial < later.serial) :
    Option.Rel Entry.Alike (least? entries) (least? others) := by
  induction alike with
  | nil => exact .none
  | @cons head otherHead rest otherRest first _ ih =>
      rw [List.pairwise_cons] at growing otherGrowing
      have tails := ih growing.2 otherGrowing.2
      simp only [least?]
      cases found : least? rest with
      | none =>
          rw [found] at tails
          generalize least? otherRest = otherBest at tails ⊢
          cases tails
          exact .some first
      | some best =>
          cases otherFound : least? otherRest with
          | none =>
              rw [found, otherFound] at tails
              cases tails
          | some otherBest =>
              rw [found, otherFound] at tails
              cases tails with
              | some same =>
                  dsimp only
                  -- the serials differ in the two lists, but in both the head has the smaller one
                  rw [before_head (growing.1 best (mem_of_least? found)),
                    before_head (otherGrowing.1 otherBest (mem_of_least? otherFound)),
                    same.accesses, first.accesses]
                  split
                  · exact .some same
                  · exact .some first

namespace Alike

theorem symm (alike : policy.Alike other) : other.Alike policy where
  ordered := alike.otherOrdered
  otherOrdered := alike.ordered
  entries := alike.entries.flip.imp fun _ _ same => ⟨same.path.symm, same.accesses.symm⟩

theorem remove (alike : policy.Alike other) {path otherPath : Path} (same : path.Same otherPath) :
    (policy.remove path).Alike (other.remove otherPath) where
  ordered := alike.ordered.remove path
  otherOrdered := alike.otherOrdered.remove otherPath
  entries := by
    rw [← remove_congr other same]
    have kept := alike.entries
    simp only [Lfu.remove]
    generalize policy.entries = entries at kept ⊢
    generalize other.entries = others at kept ⊢
    induction kept with
    | nil => exact .nil
    | @cons head otherHead rest otherRest first _ ih =>
        have decided : head.path.Same path ↔ otherHead.path.Same path :=
          ⟨first.path.symm.trans, first.path.trans⟩
        by_cases gone : head.path.Same path
        · rw [List.filter_cons_of_neg (by simpa using gone),
            List.filter_cons_of_neg (by simpa using decided.mp gone)]
          exact ih
        · rw [List.filter_cons_of_pos (by simpa using gone),
            List.filter_cons_of_pos (by simpa using decided.not.mp gone)]
          exact .cons first ih

theorem touch (alike : policy.Alike other) (path : Path) :
    (policy.touch path).Alike (other.touch path) where
  ordered := alike.ordered.touch path
  otherOrdered := alike.otherOrdered.touch path
  entries := by
    simp only [Lfu.touch, List.forall₂_map_left_iff, List.forall₂_map_right_iff]
    refine alike.entries.imp fun entry otherEntry same => ?_
    have decided : entry.path.Same path ↔ otherEntry.path.Same path :=
      ⟨same.path.symm.trans, same.path.trans⟩
    by_cases used : entry.path.Same path
    · rw [if_pos used, if_pos (decided.mp used)]
      exact ⟨same.path, congrArg (· + 1) same.accesses⟩
    · rw [if_neg used, if_neg (decided.not.mp used)]
      exact same

theorem add (alike : policy.Alike other) (new : path.key ∉ Path.keys policy.tracked) :
    (policy.add path).Alike (other.add path) := by
  have otherNew : path.key ∉ Path.keys other.tracked := by
    rwa [tracked, ← keys_of_alike alike.entries]
  refine ⟨alike.ordered.add new, alike.otherOrdered.add otherNew, ?_⟩
  rw [entries_add_of_notMem new, entries_add_of_notMem otherNew]
  exact List.rel_append alike.entries (.cons ⟨Path.Same.refl path, rfl⟩ .nil)

theorem evict? (alike : policy.Alike other) (chosen : policy.evict? = some (victim, rest)) :
    ∃ otherVictim otherRest, other.evict? = some (otherVictim, otherRest) ∧
      victim.Same otherVictim ∧ rest.Alike otherRest := by
  obtain ⟨least, found, same⟩ := Option.map_eq_some_iff.mp chosen
  cases same
  have both := least?_alike alike.entries alike.ordered.growing alike.otherOrdered.growing
  rw [found] at both
  cases otherFound : least? other.entries with
  | none =>
      rw [otherFound] at both
      cases both
  | some otherLeast =>
      rw [otherFound] at both
      cases both with
      | some same =>
          refine ⟨otherLeast.path, other.remove otherLeast.path, ?_, same.path, alike.remove same.path⟩
          rw [Lfu.evict?, otherFound]
          rfl

end Alike

end Lfu

/-! Policies of any kind. -/

namespace Policy

inductive Alike : Policy → Policy → Prop where
  | lfu {policy other : Lfu} (alike : policy.Alike other) : Alike (.lfu policy) (.lfu other)
  | lru (policy : Lru) : Alike (.lru policy) (.lru policy)
  | arc (policy : Arc) : Alike (.arc policy) (.arc policy)
  | simple (policy : Simple) : Alike (.simple policy) (.simple policy)

variable {policy other rest : Policy} {path otherPath victim : Path} {past : List Step}

namespace Alike

theorem touch (alike : policy.Alike other) (path : Path) :
    (policy.touch path).Alike (other.touch path) := by
  cases alike with
  | lfu alike => exact .lfu (alike.touch path)
  | lru policy => exact .lru _
  | arc policy => exact .arc _
  | simple policy => exact .simple _

theorem add (alike : policy.Alike other) (new : path.key ∉ policy.keys) :
    (policy.add path).Alike (other.add path) := by
  cases alike with
  | lfu alike => exact .lfu (alike.add new)
  | lru policy => exact .lru _
  | arc policy => exact .arc _
  | simple policy => exact .simple _

theorem remove (alike : policy.Alike other) (same : path.Same otherPath) :
    (policy.remove path).Alike (other.remove otherPath) := by
  rw [other.remove_congr same.symm]
  cases alike with
  | lfu alike => exact .lfu (alike.remove (.refl path))
  | lru policy => exact .lru _
  | arc policy => exact .arc _
  | simple policy => exact .simple _

theorem reorder (alike : policy.Alike other) (order : List Path) :
    (policy.reorder order).Alike (other.reorder order) := by
  cases alike with
  | lfu alike => exact .lfu alike
  | lru policy => exact .lru policy
  | arc policy => exact .arc policy
  | simple policy =>
      simp only [Policy.reorder]
      split <;> exact .simple _

theorem evict? (alike : policy.Alike other) (chosen : policy.evict? = some (victim, rest)) :
    ∃ otherVictim otherRest, other.evict? = some (otherVictim, otherRest) ∧
      victim.Same otherVictim ∧ rest.Alike otherRest := by
  cases alike with
  | lfu alike =>
      obtain ⟨⟨_, left⟩, found, parts⟩ := Option.map_eq_some_iff.mp chosen
      cases parts
      obtain ⟨otherVictim, otherLeft, otherFound, victims, rests⟩ := alike.evict? found
      exact ⟨otherVictim, .lfu otherLeft, by rw [Policy.evict?, otherFound]; rfl, victims, .lfu rests⟩
  | lru policy =>
      obtain ⟨⟨_, left⟩, found, parts⟩ := Option.map_eq_some_iff.mp chosen
      cases parts
      exact ⟨victim, _, chosen, .refl victim, .lru left⟩
  | arc policy =>
      obtain ⟨⟨_, left⟩, found, parts⟩ := Option.map_eq_some_iff.mp chosen
      cases parts
      exact ⟨victim, _, chosen, .refl victim, .arc left⟩
  | simple policy =>
      obtain ⟨⟨_, left⟩, found, parts⟩ := Option.map_eq_some_iff.mp chosen
      cases parts
      exact ⟨victim, _, chosen, .refl victim, .simple left⟩

end Alike

def forget (policy : Policy) (entries : List Entry) : Policy :=
  entries.foldl (fun current entry => current.remove entry.stored.key) policy

theorem forget_perm {entries others : List Entry} (perm : entries.Perm others) (policy : Policy) :
    policy.forget entries = policy.forget others :=
  perm.foldl_eq' (fun _ _ _ _ current => remove_comm current _ _) policy

theorem Alike.forget (alike : policy.Alike other) (entries : List Entry) :
    (policy.forget entries).Alike (other.forget entries) := by
  induction entries generalizing policy other with
  | nil => exact alike
  | cons entry rest ih => exact ih (alike.remove (.refl entry.stored.key))

end Policy

end Cache

end WasmTasks
