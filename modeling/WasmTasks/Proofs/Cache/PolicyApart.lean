import WasmTasks.Proofs.Cache.PolicyLikeness
import WasmTasks.Proofs.Cache.Scan

/-!
Policies that are alike but for one key: what they track besides it they rank alike, and they become
alike when it leaves. If accesses are counted the key has fewer of them in the second policy, and so
the victims differ only when the second policy gives up the key and the first one does not. Adaptive
policies may have the key in different lists, whose lengths count when a victim is chosen; if they
give it up from the same list, nothing distinguishes them any more.
-/

namespace WasmTasks

namespace Cache

namespace Arc

variable {policy other rest : Arc} {path used victim : Path} {list : List Path}

theorem drop_concat_self (absent : path.key ∉ Path.keys list) (same : used.Same path) :
    drop (list ++ [used]) path = list := by
  rw [drop, List.eraseP_append_right]
  · simp [same]
  · intro entry member
    have different : ¬ entry.Same path := fun own =>
      absent ((Path.mem_keys list path).mpr ⟨entry, member, own⟩)
    simpa using different

theorem notMem_drop (nodup : (Path.keys list).Nodup) (path : Path) :
    path.key ∉ Path.keys (drop list path) := by
  rw [keys_drop]
  exact fun member => (nodup.mem_erase_iff.mp member).1 rfl

theorem holds_eq_false_iff (list : List Path) (path : Path) :
    holds list path = false ↔ path.key ∉ Path.keys list := by
  rw [← Bool.not_eq_true, holds_iff]

/-- A key that is forgotten may as well have been used before. -/
theorem remove_touch_self (nodup : (Path.keys policy.tracked).Nodup) (same : used.Same path) :
    (policy.touch used).remove path = policy.remove path := by
  rw [keys_tracked, List.nodup_append] at nodup
  obtain ⟨recentNodup, frequentNodup, apart⟩ := nodup
  rw [touch, remove, remove, holds_congr _ same, drop_congr _ same]
  cases recent : holds policy.recent path with
  | true =>
      rw [holds_iff] at recent
      have gone : holds (drop policy.recent path) path = false :=
        (holds_eq_false_iff _ _).mpr (notMem_drop recentNodup path)
      have elsewhere : path.key ∉ Path.keys policy.frequent := fun member =>
        apart _ recent _ member rfl
      simp [gone, drop_concat_self elsewhere same]
  | false =>
      cases frequent : holds policy.frequent path with
      | true =>
          have gone := notMem_drop frequentNodup path
          simp [recent, holds_congr _ same, drop_congr _ same, frequent,
            drop_concat_self gone same]
      | false => simp [recent, holds_congr _ same, frequent]

theorem remove_add_self (unknown : path.key ∉ Path.keys policy.known) (same : used.Same path) :
    (policy.add used).remove path = policy := by
  have absent : path.key ∉ Path.keys policy.recent := by
    rw [keys_known, keys_tracked, List.mem_append, List.mem_append] at unknown
    exact fun member => unknown (.inl (.inl member))
  have held : holds (policy.recent ++ [used]) path = true := by
    simp [holds, same]
  rw [add_of_unknown (same ▸ unknown), remove, if_pos held, drop_concat_self absent same]

theorem notMem_known_remove (wellFormed : policy.WellFormed)
    (held : path.key ∈ Path.keys policy.tracked) :
    path.key ∉ Path.keys (policy.remove path).known := by
  have nodup := wellFormed.nodup
  rw [keys_known, List.nodup_append] at nodup
  obtain ⟨once, _, apart⟩ := nodup
  rw [keys_known, ghosts_remove, keys_remove, List.mem_append, not_or]
  exact ⟨fun member => (once.mem_erase_iff.mp member).1 rfl, fun member => apart _ held _ member rfl⟩

def yield (policy : Arc) (victim : Path) : Arc :=
  if holds policy.recent victim then policy.demoteRecent victim (drop policy.recent victim)
  else policy.demoteFrequent victim (drop policy.frequent victim)

/-- A key that is forgotten after an eviction may as well have been forgotten before. -/
theorem remove_of_evict? (nodup : (Path.keys policy.tracked).Nodup)
    (chosen : policy.evict? = some (victim, rest)) (apart : ¬ victim.Same path) :
    rest.remove path = (policy.remove path).yield victim := by
  rw [keys_tracked, List.nodup_append] at nodup
  have own (others : List Path) : holds (victim :: others) victim = true := by
    simp [holds, Path.Same.refl]
  have front (others : List Path) : holds (victim :: others) path = holds others path := by
    simp [holds, apart]
  have taken (others : List Path) : drop (victim :: others) victim = others := by
    simp [drop, Path.Same.refl]
  have kept (others : List Path) : drop (victim :: others) path = victim :: drop others path := by
    simp [drop, apart]
  obtain ⟨recent, oldest, rfl, _⟩ | ⟨frequent, oldest, rfl, _⟩ := evict?_cases chosen
  · rw [remove, remove, yield, oldest, front, demoteRecent]
    cases holds recent path with
    | true => simp [own, taken, kept, demoteRecent]
    | false => simp [own, taken, demoteRecent]
  · have elsewhere : ¬ holds policy.recent victim = true := by
      rw [holds_iff]
      intro member
      rw [oldest] at nodup
      exact nodup.2.2 _ member _ List.mem_cons_self rfl
    have away : ¬ path.Same victim := fun same => apart same.symm
    rw [remove, remove, yield, demoteFrequent]
    cases recent : holds policy.recent path with
    | true => simp [oldest, elsewhere, holds_drop away, taken, demoteFrequent]
    | false => simp [oldest, elsewhere, taken, kept, demoteFrequent]

theorem mem_remove_of_evict? (chosen : policy.evict? = some (victim, rest))
    (apart : ¬ victim.Same path) : victim ∈ (policy.remove path).tracked := by
  have member : victim ∈ policy.recent ++ policy.frequent :=
    (tracked_evict?_perm chosen).mem_iff.mpr List.mem_cons_self
  have kept {list : List Path} (held : victim ∈ list) : victim ∈ drop list path :=
    (List.mem_eraseP_of_neg (by simpa using apart)).mpr held
  rw [List.mem_append] at member
  rw [remove, tracked]
  split
  · exact List.mem_append.mpr (member.imp_left kept)
  · exact List.mem_append.mpr (member.imp_right kept)

/-- Adaptive policies that are the same without one key, which is spelt alike in both. -/
structure AlikeBut (path : Path) (policy other : Arc) : Prop where
  rest : policy.remove path = other.remove path
  spelt : ∀ own ∈ policy.tracked, ∀ rival ∈ other.tracked, own.Same path → rival.Same path →
    own = rival

/-- The key is recent in one policy and frequent in the other. -/
def Splits (path : Path) (policy other : Arc) : Prop :=
  path.key ∈ Path.keys policy.recent ∧ path.key ∈ Path.keys other.frequent ∨
    path.key ∈ Path.keys policy.frequent ∧ path.key ∈ Path.keys other.recent

theorem tracked_remove_sublist (policy : Arc) (path : Path) :
    (policy.remove path).tracked.Sublist policy.tracked := by
  unfold remove
  split
  · exact List.eraseP_sublist.append_right _
  · exact List.eraseP_sublist.append_left _

theorem eq_or_mem_of_mem_touch {entry : Path} (nodup : (Path.keys policy.tracked).Nodup)
    (member : entry ∈ (policy.touch used).tracked) :
    entry = used ∨ entry ∈ policy.tracked ∧ ¬ entry.Same used := by
  by_cases held : used.key ∈ Path.keys policy.tracked
  · rw [tracked_touch held, List.mem_append, List.mem_singleton] at member
    refine member.symm.imp_right fun old =>
      ⟨(policy.tracked_remove_sublist used).subset old, fun same => ?_⟩
    have kept : used.key ∈ Path.keys (policy.remove used).tracked :=
      (Path.mem_keys _ used).mpr ⟨entry, old, same⟩
    rw [keys_remove] at kept
    exact (nodup.mem_erase_iff.mp kept).1 rfl
  · rw [touch_of_untracked held] at member
    exact .inr ⟨member, fun same => held ((Path.mem_keys _ used).mpr ⟨entry, member, same⟩)⟩

theorem eq_or_mem_of_mem_add {entry : Path} (member : entry ∈ (policy.add used).tracked) :
    entry = used ∨ entry ∈ policy.tracked := by
  unfold add at member
  simp only [tracked] at member ⊢
  split at member
  · simp_all; tauto
  · split at member <;> simp_all <;> tauto

namespace AlikeBut

theorem remove (but : policy.AlikeBut path other) (gone : Path) :
    (policy.remove gone).AlikeBut path (other.remove gone) where
  rest := by rw [remove_comm, but.rest, remove_comm]
  spelt := fun own member rival rivalMember =>
    but.spelt own ((policy.tracked_remove_sublist gone).subset member) rival
      ((other.tracked_remove_sublist gone).subset rivalMember)

theorem touch (but : policy.AlikeBut path other) (nodup : (Path.keys policy.tracked).Nodup)
    (otherNodup : (Path.keys other.tracked).Nodup) (used : Path) :
    (policy.touch used).AlikeBut path (other.touch used) where
  rest := by
    by_cases same : used.Same path
    · rw [remove_touch_self nodup same, but.rest, remove_touch_self otherNodup same]
    · rw [touch_remove _ same, but.rest, touch_remove _ same]
  spelt := by
    intro own member rival rivalMember ownSame rivalSame
    obtain rfl | ⟨old, apart⟩ := eq_or_mem_of_mem_touch nodup member <;>
      obtain rfl | ⟨rivalOld, rivalApart⟩ := eq_or_mem_of_mem_touch otherNodup rivalMember
    · rfl
    · exact absurd (rivalSame.trans ownSame.symm) rivalApart
    · exact absurd (ownSame.trans rivalSame.symm) apart
    · exact but.spelt own old rival rivalOld ownSame rivalSame

theorem add (but : policy.AlikeBut path other) (apart : ¬ used.Same path) :
    (policy.add used).AlikeBut path (other.add used) where
  rest := by rw [add_remove _ apart, but.rest, add_remove _ apart]
  spelt := by
    intro own member rival rivalMember ownSame rivalSame
    have old {policy : Arc} {entry : Path} (member : entry ∈ (policy.add used).tracked)
        (same : entry.Same path) : entry ∈ policy.tracked :=
      (eq_or_mem_of_mem_add member).resolve_left fun new => apart (new ▸ same)
    exact but.spelt own (old member ownSame) rival (old rivalMember rivalSame) ownSame rivalSame

/-- Another key that both policies give up leaves them alike but for the first one. -/
theorem of_evict?_apart (but : policy.AlikeBut path other)
    (nodup : (Path.keys policy.tracked).Nodup) (otherNodup : (Path.keys other.tracked).Nodup)
    (chosen : policy.evict? = some (victim, rest))
    (otherChosen : other.evict? = some (otherVictim, otherRest))
    (same : victim.Same otherVictim) (apart : ¬ victim.Same path) :
    rest.AlikeBut path otherRest := by
  have otherApart : ¬ otherVictim.Same path := fun own => apart (same.trans own)
  have left {policy rest : Arc} {victim entry : Path}
      (chosen : policy.evict? = some (victim, rest)) (member : entry ∈ rest.tracked) :
      entry ∈ policy.tracked :=
    (tracked_evict?_perm chosen).mem_iff.mpr (List.mem_cons_of_mem victim member)
  -- the victim stands in the lists that the policies have in common, so its spelling agrees
  have member := mem_remove_of_evict? chosen apart
  have otherMember := mem_remove_of_evict? otherChosen otherApart
  rw [← but.rest] at otherMember
  have once : (Path.keys (policy.remove path).tracked).Nodup := by
    rw [keys_remove]
    exact nodup.erase _
  have equal := List.inj_on_of_nodup_map once member otherMember same
  refine ⟨?_, fun own member rival rivalMember =>
    but.spelt own (left chosen member) rival (left otherChosen rivalMember)⟩
  rw [remove_of_evict? nodup chosen apart, but.rest, equal,
    remove_of_evict? otherNodup otherChosen otherApart]

/-- The key itself leaves no difference behind, unless it stood in different lists. -/
theorem eq_or_splits_of_evict? (but : policy.AlikeBut path other)
    (nodup : (Path.keys policy.tracked).Nodup) (otherNodup : (Path.keys other.tracked).Nodup)
    (chosen : policy.evict? = some (victim, rest))
    (otherChosen : other.evict? = some (otherVictim, otherRest))
    (own : victim.Same path) (otherOwn : otherVictim.Same path) :
    rest = otherRest ∨ Splits path policy other := by
  have equal : victim = otherVictim :=
    but.spelt victim ((tracked_evict?_perm chosen).mem_iff.mpr List.mem_cons_self) otherVictim
      ((tracked_evict?_perm otherChosen).mem_iff.mpr List.mem_cons_self) own otherOwn
  subst equal
  have front {list back : List Path} (oldest : list = victim :: back) :
      holds list path = true ∧ drop list path = back ∧ path.key ∈ Path.keys list := by
    subst oldest
    exact ⟨by simp [holds, own], by simp [drop, own], own ▸ List.mem_cons_self⟩
  have elsewhere {policy : Arc} {back : List Path} (nodup : (Path.keys policy.tracked).Nodup)
      (oldest : policy.frequent = victim :: back) : holds policy.recent path = false := by
    rw [keys_tracked, List.nodup_append] at nodup
    rw [holds_eq_false_iff]
    exact fun recent => nodup.2.2 _ recent _ (front oldest).2.2 rfl
  have both := but.rest
  obtain ⟨recent, oldest, rfl, _⟩ | ⟨frequent, oldest, rfl, _⟩ := evict?_cases chosen <;>
    obtain ⟨others, otherOldest, rfl, _⟩ | ⟨others, otherOldest, rfl, _⟩ :=
      evict?_cases otherChosen
  · left
    obtain ⟨held, left, _⟩ := front oldest
    obtain ⟨otherHeld, otherLeft, _⟩ := front otherOldest
    rw [Arc.remove, Arc.remove, if_pos held, if_pos otherHeld, left, otherLeft] at both
    simp_all [demoteRecent]
  · exact .inr (.inl ⟨(front oldest).2.2, (front otherOldest).2.2⟩)
  · exact .inr (.inr ⟨(front oldest).2.2, (front otherOldest).2.2⟩)
  · left
    obtain ⟨_, left, _⟩ := front oldest
    obtain ⟨_, otherLeft, _⟩ := front otherOldest
    rw [Arc.remove, Arc.remove, elsewhere nodup oldest, elsewhere otherNodup otherOldest, left,
      otherLeft] at both
    simp_all [demoteFrequent]

end AlikeBut

end Arc

namespace Lfu

variable {policy other rest otherRest : Lfu} {path used victim otherVictim : Path}

theorem remove_touch_self (policy : Lfu) (same : used.Same path) :
    (policy.touch used).remove path = policy.remove path := by
  have unused : (policy.remove path).entries.map (fun entry =>
      if entry.path.Same used then { entry with accesses := entry.accesses + 1 } else entry) =
      (policy.remove path).entries := by
    refine (List.map_congr_left fun entry member => if_neg fun own => ?_).trans (List.map_id _)
    have different : ¬ entry.path.Same path := by simpa using (List.mem_filter.mp member).2
    exact different (own.trans same)
  rw [touch_remove, touch, unused]

theorem remove_add_self (ordered : policy.Ordered) (new : path.key ∉ Path.keys policy.tracked)
    (same : used.Same path) : ((policy.add used).remove path).Alike policy := by
  have usedNew : used.key ∉ Path.keys policy.tracked := same ▸ new
  have entries : ((policy.add used).remove path).entries = policy.entries := by
    rw [remove, entries_add_of_notMem usedNew, List.filter_append, List.filter_cons_of_neg,
      List.filter_nil, List.append_nil, List.filter_eq_self]
    · intro entry member
      have different : ¬ entry.path.Same path := fun own =>
        new ((Path.mem_keys _ path).mpr ⟨entry.path, List.mem_map_of_mem member, own⟩)
      simpa using different
    · simpa using same
  refine ⟨(ordered.add usedNew).remove path, ordered, ?_⟩
  rw [entries]
  exact List.forall₂_same.mpr fun entry _ => Entry.Alike.refl entry

theorem least?_filter {entries : List Entry} {least : Entry} {keep : Entry → Bool}
    (found : least? entries = some least) (kept : keep least = true) :
    least? (entries.filter keep) = some least := by
  induction entries generalizing least with
  | nil => cases found
  | cons head others ih =>
      simp only [least?] at found
      cases known : least? others with
      | none =>
          rw [known] at found
          cases found
          rw [(least?_eq_none_iff others).mp known, List.filter_cons_of_pos kept]
          rfl
      | some best =>
          rw [known] at found
          cases first : best.before head with
          | true =>
              simp only [first, if_true] at found
              cases found
              have rest := ih known kept
              cases headKept : keep head with
              | true => simp [headKept, least?, rest, first]
              | false => simp [headKept, rest]
          | false =>
              simp only [first, Bool.false_eq_true, if_false] at found
              cases found
              rw [List.filter_cons_of_pos kept, least?]
              cases rest : least? (others.filter keep) with
              | none => rfl
              | some next =>
                  -- what is least among fewer entries was behind `best`, and so it is behind the head
                  have member := List.mem_of_mem_filter (mem_of_least? rest)
                  have behind := not_before_least? known next member
                  have notFirst : next.before head = false := by
                    rw [Entry.before_eq_false_iff] at first behind ⊢
                    omega
                  simp [notFirst]

/-- Alike except for one key, which has fewer accesses in the second policy. -/
structure AlikeBut (path : Path) (policy other : Lfu) : Prop where
  ordered : policy.Ordered
  otherOrdered : other.Ordered
  rest : List.Forall₂ Entry.Alike (policy.remove path).entries (other.remove path).entries
  outranks : ∀ entry ∈ policy.entries, ∀ rival ∈ other.entries, entry.path.Same path →
    rival.path.Same path → rival.accesses < entry.accesses

namespace AlikeBut

theorem alike (but : policy.AlikeBut path other) :
    (policy.remove path).Alike (other.remove path) :=
  ⟨but.ordered.remove path, but.otherOrdered.remove path, but.rest⟩

theorem remove (but : policy.AlikeBut path other) {gone otherGone : Path}
    (same : gone.Same otherGone) : (policy.remove gone).AlikeBut path (other.remove otherGone) where
  ordered := but.ordered.remove gone
  otherOrdered := but.otherOrdered.remove otherGone
  rest := by
    rw [remove_comm, remove_comm other]
    exact (but.alike.remove same).entries
  outranks := fun entry member rival rivalMember =>
    but.outranks entry (List.mem_of_mem_filter member) rival (List.mem_of_mem_filter rivalMember)

theorem touch (but : policy.AlikeBut path other) (used : Path) :
    (policy.touch used).AlikeBut path (other.touch used) where
  ordered := but.ordered.touch used
  otherOrdered := but.otherOrdered.touch used
  rest := by
    rw [touch_remove, touch_remove]
    exact (but.alike.touch used).entries
  outranks := by
    intro entry member rival rivalMember own rivalOwn
    obtain ⟨old, oldMember, rfl⟩ := List.mem_map.mp member
    obtain ⟨oldRival, oldRivalMember, rfl⟩ := List.mem_map.mp rivalMember
    have unmoved (entry : Entry) : (if entry.path.Same used then
        { entry with accesses := entry.accesses + 1 } else entry).path = entry.path := by
      split <;> rfl
    rw [unmoved] at own rivalOwn
    have less := but.outranks old oldMember oldRival oldRivalMember own rivalOwn
    -- a use of the key counts in both policies
    have both : old.path.Same used ↔ oldRival.path.Same used :=
      ⟨(rivalOwn.trans own.symm).trans, (own.trans rivalOwn.symm).trans⟩
    by_cases same : old.path.Same used
    · rw [if_pos same, if_pos (both.mp same)]
      exact Nat.succ_lt_succ less
    · rw [if_neg same, if_neg (both.not.mp same)]
      exact less

theorem add (but : policy.AlikeBut path other) (apart : ¬ used.Same path)
    (new : used.key ∉ Path.keys policy.tracked) (otherNew : used.key ∉ Path.keys other.tracked) :
    (policy.add used).AlikeBut path (other.add used) where
  ordered := but.ordered.add new
  otherOrdered := but.otherOrdered.add otherNew
  rest := by
    rw [add_remove _ apart, add_remove _ apart]
    refine (but.alike.add fun member => new ?_).entries
    exact (List.filter_sublist.map _).map _ |>.subset member
  outranks := by
    rw [entries_add_of_notMem new, entries_add_of_notMem otherNew]
    intro entry member rival rivalMember own rivalOwn
    have old {entries : List Entry} {serial : Nat} {entry : Entry}
        (member : entry ∈ entries ++ [⟨used, 0, serial⟩]) (own : entry.path.Same path) :
        entry ∈ entries := by
      refine (List.mem_append.mp member).resolve_right fun added => apart ?_
      rwa [List.mem_singleton.mp added] at own
    exact but.outranks entry (old member own) rival (old rivalMember rivalOwn) own rivalOwn

theorem victims (but : policy.AlikeBut path other) (held : path.key ∈ Path.keys other.tracked)
    (chosen : policy.evict? = some (victim, rest))
    (otherChosen : other.evict? = some (otherVictim, otherRest)) :
    victim.Same otherVictim ∨ ¬ victim.Same path ∧ otherVictim.Same path := by
  obtain ⟨least, found, parts⟩ := Option.map_eq_some_iff.mp chosen
  cases parts
  obtain ⟨otherLeast, otherFound, parts⟩ := Option.map_eq_some_iff.mp otherChosen
  cases parts
  by_cases otherOwn : otherLeast.path.Same path
  · by_cases own : least.path.Same path
    · exact .inl (own.trans otherOwn.symm)
    · exact .inr ⟨own, otherOwn⟩
  · left
    have otherKept : least? (other.remove path).entries = some otherLeast :=
      least?_filter otherFound (by simpa using otherOwn)
    have both := least?_alike but.rest (but.ordered.remove path).growing
      (but.otherOrdered.remove path).growing
    rw [otherKept] at both
    cases kept : least? (policy.remove path).entries with
    | none =>
        rw [kept] at both
        cases both
    | some next =>
        rw [kept] at both
        cases both with
        | some same =>
            by_cases own : least.path.Same path
            · -- the key would have to be the least although it outranks its rival
              obtain ⟨_, tracked, rivalOwn⟩ := (Path.mem_keys _ path).mp held
              obtain ⟨rival, rivalMember, rfl⟩ := List.mem_map.mp tracked
              have outranks :=
                but.outranks least (mem_of_least? found) rival rivalMember own rivalOwn
              have behind := not_before_least? otherFound rival rivalMember
              have nextBehind := not_before_least? found next
                (List.mem_of_mem_filter (mem_of_least? kept))
              have equal := same.accesses
              rw [Entry.before_eq_false_iff] at behind nextBehind
              omega
            · have still : least? (policy.remove path).entries = some least :=
                least?_filter found (by simpa using own)
              rw [kept, Option.some.injEq] at still
              rw [← still]
              exact same.path

end AlikeBut

end Lfu

namespace Policy

variable {path used : Path} {policy other rest otherRest : Policy} {victim otherVictim : Path}

/-- Alike except for one key that both policies track. -/
inductive AlikeBut (path : Path) : Policy → Policy → Prop where
  | lfu {policy other : Lfu} (but : policy.AlikeBut path other) :
      AlikeBut path (.lfu policy) (.lfu other)
  | arc {policy other : Arc} (but : policy.AlikeBut path other) :
      AlikeBut path (.arc policy) (.arc other)

/-- The choice of a victim tells the policies apart: only the second one that counts accesses gives
up the key, or two adaptive ones give up different keys, or the key itself from different lists. -/
inductive Parts (path victim otherVictim : Path) : Policy → Policy → Prop where
  | counting {policy other : Lfu} (kept : ¬ victim.Same path) (given : otherVictim.Same path) :
      Parts path victim otherVictim (.lfu policy) (.lfu other)
  | different {policy other : Arc} (apart : ¬ victim.Same otherVictim) :
      Parts path victim otherVictim (.arc policy) (.arc other)
  | lists {policy other : Arc} (given : victim.Same path) (otherGiven : otherVictim.Same path)
      (splits : Arc.Splits path policy other) :
      Parts path victim otherVictim (.arc policy) (.arc other)

namespace AlikeBut

/-- Without the key nothing distinguishes the policies. -/
theorem alike (but : policy.AlikeBut path other) (same : used.Same path) :
    (policy.remove used).Alike (other.remove used) := by
  rw [remove_congr policy same, remove_congr other same]
  cases but with
  | lfu but => exact .lfu but.alike
  | @arc policy other but =>
      change (Policy.arc (policy.remove path)).Alike (.arc (other.remove path))
      rw [but.rest]
      exact .arc _

theorem remove (but : policy.AlikeBut path other) (gone : Path) :
    (policy.remove gone).AlikeBut path (other.remove gone) := by
  cases but with
  | lfu but => exact .lfu (but.remove (.refl gone))
  | arc but => exact .arc (but.remove gone)

theorem touch (but : policy.AlikeBut path other) (nodup : policy.keys.Nodup)
    (otherNodup : other.keys.Nodup) (used : Path) :
    (policy.touch used).AlikeBut path (other.touch used) := by
  cases but with
  | lfu but => exact .lfu (but.touch used)
  | arc but => exact .arc (but.touch nodup otherNodup used)

theorem add (but : policy.AlikeBut path other) (apart : ¬ used.Same path)
    (new : used.key ∉ policy.keys) (otherNew : used.key ∉ other.keys) :
    (policy.add used).AlikeBut path (other.add used) := by
  cases but with
  | lfu but => exact .lfu (but.add apart new otherNew)
  | arc but => exact .arc (but.add apart)

theorem reorder (but : policy.AlikeBut path other) (order : List Path) :
    (policy.reorder order).AlikeBut path (other.reorder order) := by
  cases but with
  | lfu but => exact .lfu but
  | arc but => exact .arc but

/-- The same other key leaves, or the key itself leaves both policies and takes the difference with
it, or the victims tell the policies apart. -/
theorem evict? (but : policy.AlikeBut path other) (nodup : policy.keys.Nodup)
    (otherNodup : other.keys.Nodup) (held : path.key ∈ other.keys)
    (chosen : policy.evict? = some (victim, rest))
    (otherChosen : other.evict? = some (otherVictim, otherRest)) :
    (victim.Same otherVictim ∧ ¬ victim.Same path ∧ rest.AlikeBut path otherRest) ∨
      (victim.Same otherVictim ∧ victim.Same path ∧ rest.Alike otherRest) ∨
      Parts path victim otherVictim policy other := by
  cases but with
  | lfu but =>
      obtain ⟨⟨_, left⟩, found, parts⟩ := Option.map_eq_some_iff.mp chosen
      cases parts
      obtain ⟨⟨_, otherLeft⟩, otherFound, parts⟩ := Option.map_eq_some_iff.mp otherChosen
      cases parts
      obtain same | ⟨kept, given⟩ := but.victims held found otherFound
      · obtain ⟨least, _, parts⟩ := Option.map_eq_some_iff.mp found
        cases parts
        obtain ⟨otherLeast, _, parts⟩ := Option.map_eq_some_iff.mp otherFound
        cases parts
        by_cases own : least.path.Same path
        · refine .inr (.inl ⟨same, own, .lfu ?_⟩)
          rw [Lfu.remove_congr _ own, Lfu.remove_congr _ (same.symm.trans own)]
          exact but.alike
        · exact .inl ⟨same, own, .lfu (but.remove same)⟩
      · exact .inr (.inr (.counting kept given))
  | @arc policy other but =>
      obtain ⟨⟨_, left⟩, found, parts⟩ := Option.map_eq_some_iff.mp chosen
      cases parts
      obtain ⟨⟨_, otherLeft⟩, otherFound, parts⟩ := Option.map_eq_some_iff.mp otherChosen
      cases parts
      by_cases same : victim.Same otherVictim
      · by_cases own : victim.Same path
        · have otherOwn := same.symm.trans own
          obtain equal | splits :=
            but.eq_or_splits_of_evict? nodup otherNodup found otherFound own otherOwn
          · subst equal
            exact .inr (.inl ⟨same, own, .arc left⟩)
          · exact .inr (.inr (.lists own otherOwn splits))
        · exact .inl ⟨same, own, .arc (but.of_evict?_apart nodup otherNodup found otherFound same own)⟩
      · exact .inr (.inr (.different same))

theorem forget (but : policy.AlikeBut path other) (entries : List Entry) :
    (policy.forget entries).AlikeBut path (other.forget entries) := by
  induction entries generalizing policy other with
  | nil => exact but
  | cons entry rest ih => exact ih (but.remove entry.stored.key)

theorem forget_of_mem (but : policy.AlikeBut path other) {entries : List Entry} {entry : Entry}
    (member : entry ∈ entries) (same : entry.stored.key.Same path) :
    (policy.forget entries).Alike (other.forget entries) := by
  have front := List.perm_cons_erase member
  rw [forget_perm front, forget_perm front]
  exact (but.alike same).forget _

end AlikeBut

end Policy

/-! The key used, and the key dropped and added. -/

theorem Lfu.notMem_remove (policy : Lfu) (path : Path) :
    path.key ∉ Path.keys (policy.remove path).tracked := by
  intro member
  obtain ⟨_, tracked, same⟩ := (Path.mem_keys _ path).mp member
  obtain ⟨entry, kept, rfl⟩ := List.mem_map.mp tracked
  have different : ¬ entry.path.Same path := by simpa using (List.mem_filter.mp kept).2
  exact different same

/-- A use leaves a key with more accesses than a new admission. -/
theorem Lfu.touch_alikeBut_add {policy : Lfu} (ordered : policy.Ordered) (path : Path) :
    (policy.touch path).AlikeBut path ((policy.remove path).add path) where
  ordered := ordered.touch path
  otherOrdered := (ordered.remove path).add (policy.notMem_remove path)
  rest := by
    rw [remove_touch_self policy (.refl path)]
    exact (remove_add_self (ordered.remove path) (policy.notMem_remove path) (.refl path)).symm.entries
  outranks := by
    rw [entries_add_of_notMem (policy.notMem_remove path)]
    intro entry member rival rivalMember own rivalOwn
    obtain ⟨old, _, rfl⟩ := List.mem_map.mp member
    obtain kept | added := List.mem_append.mp rivalMember
    · have different : ¬ rival.path.Same path := by simpa using (List.mem_filter.mp kept).2
      exact absurd rivalOwn different
    · obtain rfl := List.mem_singleton.mp added
      by_cases same : old.path.Same path
      · rw [if_pos same]
        exact Nat.succ_pos _
      · rw [if_neg same] at own
        exact absurd own same

theorem Lru.touch_eq_add (policy : Lru) (path : Path) :
    policy.touch path = (policy.remove path).add path := by
  simp [touch, add, remove, List.filter_filter]

theorem Arc.touch_alikeBut_add {policy : Arc} (wellFormed : policy.WellFormed) {path : Path}
    (held : path.key ∈ Path.keys policy.tracked) :
    (policy.touch path).AlikeBut path ((policy.remove path).add path) := by
  have nodup := wellFormed.nodup
  rw [keys_known, List.nodup_append] at nodup
  have unknown := notMem_known_remove wellFormed held
  refine ⟨?_, ?_⟩
  · rw [remove_touch_self nodup.1 (.refl path), remove_add_self unknown (.refl path)]
  · -- either policy has it as it was spelt just now
    intro own member rival rivalMember same rivalSame
    obtain rfl | ⟨_, apart⟩ := eq_or_mem_of_mem_touch nodup.1 member
    · refine ((eq_or_mem_of_mem_add rivalMember).resolve_right fun old => unknown ?_).symm
      rw [keys_known]
      exact List.mem_append_left _ ((Path.mem_keys _ _).mpr ⟨rival, old, rivalSame⟩)
    · exact absurd same apart

end Cache

end WasmTasks
