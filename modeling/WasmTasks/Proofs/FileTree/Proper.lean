import WasmTasks.Proofs.FileTree.Names

/-!
What every tree of files has: the entries of a directory have different names, and names that an
entry can have. Writing and deleting keep this.
-/

namespace WasmTasks

namespace FileTree

open WasmTasks.Path

mutual

def ProperNode : Node → Prop
  | .directory entries => ProperEntries entries
  | _ => True

/-- The entries have different names that entries can have, and so it is inside of them. -/
def ProperEntries : List (Bytes × Node) → Prop
  | [] => True
  | (name, node) :: rest =>
      (EntryName name ∧ ProperNode node) ∧ (∀ entry ∈ rest, entry.1 ≠ name) ∧ ProperEntries rest

end

structure Proper (tree : FileTree) : Prop where
  entries : ProperEntries tree.entries
  home : ∀ name ∈ tree.home.names, EntryName name

variable {tree : FileTree} {name : Bytes} {names : List Bytes} {node : Node}
  {entries : List (Bytes × Node)}

theorem properEntries_iff : ProperEntries entries ↔
    (entries.map Prod.fst).Nodup ∧ ∀ entry ∈ entries, EntryName entry.1 ∧ ProperNode entry.2 := by
  induction entries with
  | nil => simp [ProperEntries]
  | cons entry rest ih =>
      simp only [ProperEntries, ih, List.map_cons, List.nodup_cons, List.mem_map, not_exists,
        not_and, List.forall_mem_cons]
      tauto

theorem ProperEntries.below {below : List (Bytes × Node)} (proper : ProperEntries entries)
    (found : entriesBelow? names entries = some below) : ProperEntries below := by
  induction names generalizing entries with
  | nil =>
      cases found
      exact proper
  | cons name names ih =>
      simp only [entriesBelow?] at found
      split at found
      · rename_i inner known
        exact ih ((properEntries_iff.mp proper).2 _ (mem_of_lookup known)).2 found
      · cases found

theorem Proper.at (proper : tree.Proper) {location : Location}
    (found : tree.entriesAt? location = some entries) : ProperEntries entries :=
  proper.entries.below found

theorem lookup_of_mem {entry : Bytes × Node} (distinct : (entries.map Prod.fst).Nodup)
    (member : entry ∈ entries) : entries.lookup entry.1 = some entry.2 := by
  obtain ⟨front, back, rfl⟩ := List.append_of_mem member
  refine List.lookup_eq_some_iff.mpr ⟨front, back, rfl, fun other before => ?_⟩
  rw [List.map_append, List.map_cons, List.nodup_append] at distinct
  have apart := distinct.2.2 other.1 (List.mem_map_of_mem before) entry.1 List.mem_cons_self
  simpa using fun same => apart same.symm

theorem entriesBelow?_concat {inner below : List (Bytes × Node)}
    (found : entriesBelow? names entries = some inner)
    (held : inner.lookup name = some (.directory below)) :
    entriesBelow? (names ++ [name]) entries = some below := by
  induction names generalizing entries with
  | nil =>
      cases found
      simp [entriesBelow?, held]
  | cons first rest ih =>
      simp only [entriesBelow?, List.cons_append] at found ⊢
      split at found
      · exact ih found
      · cases found

/-! Writing and deleting. -/

theorem map_fst_assign_of_mem (node : Node) (held : name ∈ entries.map Prod.fst) :
    (assign name node entries).map Prod.fst = entries.map Prod.fst := by
  have known : entries.any (fun entry => entry.1 = name) = true := by
    simpa [List.any_eq_true] using held
  rw [assign, if_pos known, List.map_map]
  apply List.map_congr_left
  intro entry _
  simp only [Function.comp_apply]
  split
  · rename_i same
    exact same.symm
  · rfl

theorem map_fst_assign_of_not_mem (node : Node) (fresh : name ∉ entries.map Prod.fst) :
    (assign name node entries).map Prod.fst = entries.map Prod.fst ++ [name] := by
  have unknown : ¬ entries.any (fun entry => entry.1 = name) = true := by
    simpa [List.any_eq_true] using fresh
  rw [assign, if_neg unknown, List.map_append]
  rfl

theorem mem_assign {entry : Bytes × Node} (member : entry ∈ assign name node entries) :
    entry = (name, node) ∨ entry ∈ entries := by
  unfold assign at member
  split at member
  · obtain ⟨old, held, rfl⟩ := List.mem_map.mp member
    split
    · exact .inl rfl
    · exact .inr held
  · rcases List.mem_append.mp member with held | new
    · exact .inr held
    · exact .inl (List.mem_singleton.mp new)

theorem ProperEntries.assign (proper : ProperEntries entries) (named : EntryName name)
    (inside : ProperNode node) : ProperEntries (assign name node entries) := by
  obtain ⟨distinct, each⟩ := properEntries_iff.mp proper
  refine properEntries_iff.mpr ⟨?_, fun entry member => ?_⟩
  · by_cases held : name ∈ entries.map Prod.fst
    · rw [map_fst_assign_of_mem node held]
      exact distinct
    · rw [map_fst_assign_of_not_mem node held]
      exact List.concat_eq_append ▸ distinct.concat held
  · rcases mem_assign member with rfl | held
    · exact ⟨named, inside⟩
    · exact each entry held

theorem ProperEntries.inner (proper : ProperEntries entries) (name : Bytes) :
    ProperEntries
      (match entries.lookup name with | some (.directory inner) => inner | _ => []) := by
  split
  · rename_i inner known
    exact ((properEntries_iff.mp proper).2 _ (mem_of_lookup known)).2
  · trivial

theorem ProperEntries.placeBelow (proper : ProperEntries entries)
    (named : ∀ name ∈ names, EntryName name) (inside : ProperNode node) :
    ProperEntries (placeBelow node names entries) := by
  fun_induction FileTree.placeBelow node names entries with
  | case1 => exact proper
  | case2 name entries => exact proper.assign (named name List.mem_cons_self) inside
  | case3 name names entries nonempty inner ih =>
      have deeper := ih (proper.inner name) fun name member => named name (.tail _ member)
      exact proper.assign (named name List.mem_cons_self) deeper

theorem ProperEntries.removeBelow (proper : ProperEntries entries)
    (named : ∀ name ∈ names, EntryName name) : ProperEntries (removeBelow names entries) := by
  fun_induction FileTree.removeBelow names entries with
  | case1 => exact proper
  | case2 name entries =>
      obtain ⟨distinct, each⟩ := properEntries_iff.mp proper
      have fewer : ((entries.filter fun entry => entry.1 ≠ name).map Prod.fst).Nodup :=
        distinct.sublist (List.filter_sublist.map _)
      exact properEntries_iff.mpr
        ⟨fewer, fun entry member => each entry (List.mem_of_mem_filter member)⟩
  | case3 name names entries nonempty inner known ih =>
      have below := ((properEntries_iff.mp proper).2 _ (mem_of_lookup known)).2
      exact proper.assign (named name List.mem_cons_self)
        (ih below fun name member => named name (.tail _ member))
  | case4 => exact proper

theorem entryName_child {here : Location} (named : ∀ name ∈ here.names, EntryName name)
    (entry : EntryName name) : ∀ other ∈ (here.child name).names, EntryName other := by
  intro other member
  rcases List.mem_append.mp member with above | last
  · exact named other above
  · rw [List.mem_singleton.mp last]
    exact entry

theorem entryName_startOf {here : Location} (named : ∀ name ∈ here.names, EntryName name)
    (spelling : Bytes) : ∀ name ∈ (startOf here spelling).names, EntryName name := by
  unfold startOf
  split
  · exact fun _ member => absurd member List.not_mem_nil
  · exact named

theorem entryName_of_piece {piece : Bytes} (significant : ¬ (piece = [] ∨ piece = [dot]))
    (down : ¬ piece = [dot, dot]) (slashless : slash ∉ piece) : EntryName piece :=
  ⟨fun empty => significant (.inl empty), fun current => significant (.inr current), down,
    slashless⟩

theorem entryName_of_destination {here : Location} {followLast : Bool} {links : Nat}
    {pieces : List Bytes} (named : ∀ name ∈ here.names, EntryName name)
    (slashless : ∀ piece ∈ pieces, slash ∉ piece) :
    ∀ name ∈ (tree.destination followLast links here pieces).names, EntryName name := by
  fun_induction destination tree followLast links here pieces with
  | case1 => exact named
  | case2 links here piece rest vanishes ih => exact ih named (List.forall_mem_cons.mp slashless).2
  | case3 links here rest significant ih =>
      have above : ∀ name ∈ here.parent.names, EntryName name := fun name member =>
        named name (List.mem_of_mem_dropLast member)
      exact ih above (List.forall_mem_cons.mp slashless).2
  | case4 links here piece rest significant down target link last =>
      exact entryName_child named (entryName_of_piece significant down (slashless _ (.head _)))
  | case5 here piece rest significant down target link goesOn =>
      exact entryName_child named (entryName_of_piece significant down (slashless _ (.head _)))
  | case6 here piece rest significant down target link goesOn links ih =>
      refine ih (entryName_startOf named target) fun next member => ?_
      rcases List.mem_append.mp member with inTarget | after
      · exact slash_notMem_piece (inTarget : next ∈ (Path.mk target).pieces)
      · exact (List.forall_mem_cons.mp slashless).2 next after
  | case7 links here piece rest significant down other ih =>
      have deeper := entryName_child named
        (entryName_of_piece significant down (slashless _ (.head _)))
      exact ih deeper (List.forall_mem_cons.mp slashless).2

theorem Proper.placeOf (proper : tree.Proper) (followLast : Bool) (path : Path) :
    ∀ name ∈ (tree.placeOf followLast path).names, EntryName name :=
  entryName_of_destination (entryName_startOf proper.home _) fun _ member =>
    slash_notMem_piece member

theorem Proper.write (proper : tree.Proper) (path : Path) (inside : ProperNode node) :
    (tree.write path node).Proper := by
  have put : ∀ followLast,
      (FileTree.write.put tree (tree.placeOf followLast path) node).Proper := fun followLast =>
    ⟨proper.entries.placeBelow (proper.placeOf followLast path) inside, proper.home⟩
  unfold FileTree.write
  split
  · dsimp only
    split
    · exact proper
    · exact put true
  · exact put true
  · exact put false

theorem Proper.delete (proper : tree.Proper) (path : Path) : (tree.delete path).Proper :=
  ⟨proper.entries.removeBelow (proper.placeOf false path), proper.home⟩

theorem proper_empty {home : Location} (named : ∀ name ∈ home.names, EntryName name) :
    (empty home).Proper :=
  ⟨ProperEntries.placeBelow trivial named trivial, named⟩

/-- A tree that writes and deletions made out of an empty one. -/
inductive Written : FileTree → Prop
  | empty {home : Location} : (∀ name ∈ home.names, EntryName name) → Written (empty home)
  | write {tree : FileTree} {path : Path} {node : Node} :
      Written tree → ProperNode node → Written (tree.write path node)
  | delete {tree : FileTree} {path : Path} : Written tree → Written (tree.delete path)

theorem Written.proper (written : Written tree) : tree.Proper := by
  induction written with
  | empty named => exact proper_empty named
  | write _ inside ih => exact ih.write _ inside
  | delete _ ih => exact ih.delete _

end FileTree

end WasmTasks
