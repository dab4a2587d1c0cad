import WasmTasks.FileTree.Scan
import WasmTasks.Proofs.FileTree.Spelling

/-!
The path of an entry in a directory: it has the components of the directory and the entry's name
after them, and the name alone decides whether it is the path of a module file.
-/

namespace WasmTasks

namespace Path

/-- A name that an entry of a directory can have. -/
structure EntryName (name : Bytes) : Prop where
  nonempty : name ≠ []
  notCurrent : name ≠ [dot]
  notParent : name ≠ [dot, dot]
  slashless : slash ∉ name

instance (name : Bytes) : Decidable (EntryName name) :=
  decidable_of_iff (name ≠ [] ∧ name ≠ [dot] ∧ name ≠ [dot, dot] ∧ slash ∉ name)
    ⟨fun ⟨nonempty, notCurrent, notParent, slashless⟩ =>
        ⟨nonempty, notCurrent, notParent, slashless⟩,
      fun entry => ⟨entry.nonempty, entry.notCurrent, entry.notParent, entry.slashless⟩⟩

theorem EntryName.significant {name : Bytes} (entry : EntryName name) :
    ¬ (name = [] ∨ name = [dot]) :=
  fun vanishes => vanishes.elim entry.nonempty entry.notCurrent

theorem pieces_append (front back : Bytes) :
    (Path.mk (front ++ slash :: back)).pieces = (Path.mk front).pieces ++ (Path.mk back).pieces :=
  List.splitOn_append_cons_self front back

theorem pieces_of_noSlash {bytes : Bytes} (noSlash : slash ∉ bytes) :
    (Path.mk bytes).pieces = [bytes] :=
  List.splitOn_eq_singleton noSlash

theorem separator_notMem_part {mark : UInt8} {bytes part : Bytes}
    (member : part ∈ bytes.splitOn mark) : mark ∉ part := by
  induction bytes generalizing part with
  | nil => simp_all
  | cons head rest ih =>
      rw [List.splitOn_cons_eq_if_modifyHead] at member
      split at member
      · rcases List.mem_cons.mp member with rfl | later
        · exact List.not_mem_nil
        · exact ih later
      · rename_i kept
        obtain ⟨first, others, parts⟩ := List.exists_cons_of_ne_nil (List.splitOn_ne_nil mark rest)
        rw [parts] at ih member
        rcases List.mem_cons.mp member with rfl | later
        · have other : mark ≠ head := fun same => kept (beq_iff_eq.mpr same.symm)
          exact List.not_mem_cons_of_ne_of_not_mem other (ih List.mem_cons_self)
        · exact ih (.tail _ later)

theorem slash_notMem_piece {path : Path} {piece : Bytes} (member : piece ∈ path.pieces) :
    slash ∉ piece :=
  separator_notMem_part member

theorem isAbsolute_append {front : Bytes} (nonempty : front ≠ []) (back : Bytes) :
    (Path.mk (front ++ back)).isAbsolute = (Path.mk front).isAbsolute := by
  simp only [isAbsolute, List.head?_append_of_ne_nil front nonempty]

variable {dir : Path} {name : Bytes}

theorem exists_child_eq (nonempty : dir.spelling ≠ []) (name : Bytes) :
    ∃ front, (dir.child name).spelling = front ++ slash :: name ∧
      (dir.spelling = front ∨ dir.spelling = front ++ [slash]) := by
  rw [child, if_neg nonempty]
  split
  · rename_i ends
    obtain ⟨front, spelt⟩ := List.getLast?_eq_some_iff.mp ends
    exact ⟨front, by simp [spelt], .inr spelt⟩
  · exact ⟨dir.spelling, rfl, .inl rfl⟩

theorem child_spelling_ne_empty (dir : Path) (entry : EntryName name) :
    (dir.child name).spelling ≠ [] := by
  unfold child
  split
  · exact entry.nonempty
  · split <;> simp [entry.nonempty]

theorem isAbsolute_child (nonempty : dir.spelling ≠ []) (name : Bytes) :
    (dir.child name).isAbsolute = dir.isAbsolute := by
  rw [child, if_neg nonempty]
  split
  · exact isAbsolute_append nonempty name
  · exact isAbsolute_append nonempty (slash :: name)

theorem pieces_child (nonempty : dir.spelling ≠ []) (entry : EntryName name) :
    ∃ front, front ≠ [] ∧ (dir.child name).pieces = front ++ [name] ∧
      (dir.pieces = front ∨ dir.pieces = front ++ [[]]) := by
  obtain ⟨front, spelt, ends⟩ := exists_child_eq nonempty name
  have named : (dir.child name).pieces = (Path.mk front).pieces ++ [name] := by
    rw [← pieces_of_noSlash entry.slashless, ← pieces_append, ← spelt]
  refine ⟨(Path.mk front).pieces, List.splitOn_ne_nil slash front, named, ?_⟩
  rcases ends with same | slashed
  · exact .inl (by rw [← same])
  · have last := pieces_append front []
    rw [← slashed, pieces_of_noSlash List.not_mem_nil] at last
    exact .inr last

theorem key_child (nonempty : dir.spelling ≠ []) (entry : EntryName name) :
    (dir.child name).key = dir.key ++ [.name name] := by
  obtain ⟨front, begun, named, spelt⟩ := pieces_child nonempty entry
  have stays : [name].filter (fun piece => ¬ Vanishes piece) = [name] :=
    List.filter_cons_of_pos (decide_eq_true entry.significant)
  have gone : [([] : Bytes)].filter (fun piece => ¬ Vanishes piece) = [] := rfl
  have significant : (dir.child name).significant = dir.significant ++ [name] := by
    unfold Path.significant
    rw [named, List.filter_append, stays]
    rcases spelt with same | slashed
    · rw [same]
    · rw [slashed, List.filter_append, gone, List.append_nil]
  have heads : (dir.child name).pieces.head? = dir.pieces.head? := by
    rw [named, List.head?_append_of_ne_nil _ begun]
    rcases spelt with same | slashed
    · rw [same]
    · rw [slashed, List.head?_append_of_ne_nil _ begun]
  have component : Path.component name = .name name := if_neg entry.notParent
  unfold key
  rw [filterMap_pieces, filterMap_pieces, isAbsolute_child nonempty, heads, significant,
    List.map_append, List.map_singleton, component]
  split
  · rfl
  · split <;> rfl

theorem fileName?_child (nonempty : dir.spelling ≠ []) (entry : EntryName name) :
    (dir.child name).fileName? = some name := by
  simp [fileName?, key_child nonempty entry]

theorem splitOn_dot_append (stem : Bytes) {suffix : Bytes} (dotless : dot ∉ suffix) :
    (stem ++ dot :: suffix).splitOn dot = stem.splitOn dot ++ [suffix] := by
  rw [List.splitOn_append_cons_self, List.splitOn_eq_singleton dotless]

theorem exists_suffix_of_dot {bytes : Bytes} (dotted : dot ∈ bytes) :
    ∃ stem suffix, bytes = stem ++ dot :: suffix ∧ dot ∉ suffix := by
  obtain ⟨after, before, parts, fresh⟩ :=
    List.eq_append_cons_of_mem (List.mem_reverse.mpr dotted)
  refine ⟨before.reverse, after.reverse, ?_, by simpa using fresh⟩
  rw [← List.reverse_inj, parts]
  simp

theorem splitOn_dot_eq_empty_iff {bytes : Bytes} : bytes.splitOn dot = [[]] ↔ bytes = [] := by
  by_cases dotted : dot ∈ bytes
  · obtain ⟨stem, suffix, rfl, dotless⟩ := exists_suffix_of_dot dotted
    simp [splitOn_dot_append stem dotless, List.append_eq_cons_iff]
  · simp [List.splitOn_eq_singleton dotted]

section Extension

variable {stem suffix : Bytes}

theorem extension?_of_dotless {path : Path} (named : path.fileName? = some name)
    (dotless : dot ∉ name) : path.extension? = none := by
  simp [extension?, named, List.splitOn_eq_singleton dotless]

theorem extension?_of_suffix {path : Path} (named : path.fileName? = some (stem ++ dot :: suffix))
    (dotless : dot ∉ suffix) : path.extension? = if stem = [] then none else some suffix := by
  have parts : ((stem ++ dot :: suffix).splitOn dot).reverse =
      suffix :: (stem.splitOn dot).reverse := by
    rw [splitOn_dot_append stem dotless, List.reverse_concat]
  simp only [extension?, named, Option.bind_eq_bind, Option.bind_some, parts]
  by_cases empty : stem = []
  · rw [splitOn_dot_eq_empty_iff.mpr empty, if_pos empty]
    rfl
  · obtain ⟨last, others, split⟩ :=
      List.exists_cons_of_ne_nil (List.reverse_ne_nil_iff.mpr (List.splitOn_ne_nil dot stem))
    have other : ¬ (last = [] ∧ others = []) := by
      rintro ⟨rfl, rfl⟩
      exact empty (splitOn_dot_eq_empty_iff.mp (by simpa using congrArg List.reverse split))
    rw [if_neg empty, split]
    split <;> simp_all

/-- A module file's name is a stem, which is not empty, and the extension after a dot. -/
theorem isModuleFile_iff {path : Path} (named : path.fileName? = some name) :
    FileTree.isModuleFile path = true ↔
      ∃ stem, stem ≠ [] ∧ name = stem ++ Text.Utf8.encode ".wasm" := by
  have wasm : Text.Utf8.encode ".wasm" = dot :: FileTree.moduleExtension := rfl
  rw [FileTree.isModuleFile, decide_eq_true_iff]
  constructor
  · intro extension
    by_cases dotted : dot ∈ name
    · obtain ⟨stem, suffix, rfl, dotless⟩ := exists_suffix_of_dot dotted
      rw [extension?_of_suffix named dotless] at extension
      split at extension
      · cases extension
      · rename_i nonempty
        cases extension
        exact ⟨stem, nonempty, rfl⟩
    · rw [extension?_of_dotless named dotted] at extension
      cases extension
  · rintro ⟨stem, nonempty, rfl⟩
    rw [wasm] at named
    rw [extension?_of_suffix named (by decide), if_neg nonempty]

end Extension

/-! Spellings with slashes at the end. -/

theorem pieces_slashes (bytes : Bytes) (count : ℕ) :
    (Path.mk (bytes ++ List.replicate count slash)).pieces =
      (Path.mk bytes).pieces ++ List.replicate count [] := by
  induction count with
  | zero => simp
  | succ count ih =>
      have longer := pieces_append (bytes ++ List.replicate count slash) []
      rw [pieces_of_noSlash List.not_mem_nil, ih] at longer
      rw [List.replicate_succ', ← List.append_assoc, longer, List.append_assoc,
        ← List.replicate_succ']

theorem length_child_ge (dir : Path) (name : Bytes) :
    dir.spelling.length + name.length ≤ (dir.child name).spelling.length := by
  unfold child
  split
  · rename_i empty
    simp [empty]
  · split <;> simp

end Path

/-! A path is followed piece by piece. -/

namespace FileTree

open WasmTasks.Path

variable {tree : FileTree} {links : ℕ} {here : Location} {piece : Bytes} {rest : List Bytes}
  {entries : List (Bytes × Node)}

theorem follow_nil (placed : tree.entriesAt? here = some entries) :
    tree.follow links here [] = .ok (.directory here entries) := by
  rw [follow, placed]

theorem follow_parent :
    tree.follow links here ([dot, dot] :: rest) = tree.follow links here.parent rest := by
  rw [follow, if_neg (by decide), if_pos rfl]

theorem follow_empty (tree : FileTree) (links : ℕ) (here : Location) (count : ℕ) :
    tree.follow links here (List.replicate count []) = tree.follow links here [] := by
  induction count with
  | zero => rfl
  | succ count ih =>
      rw [← ih, List.replicate_succ]
      conv_lhs => rw [follow, if_pos (.inl rfl)]

theorem follow_directory (named : EntryName piece) (short : piece.length ≤ longestName)
    (held : ((tree.entriesAt? here).getD []).lookup piece = some (.directory entries)) :
    tree.follow links here (piece :: rest) = tree.follow links (here.child piece) rest := by
  rw [follow, if_neg named.significant, if_neg named.notParent, if_neg (Nat.not_lt.mpr short), held]

theorem follow_link {target : Bytes} (named : EntryName piece)
    (short : piece.length ≤ longestName)
    (held : ((tree.entriesAt? here).getD []).lookup piece = some (.link target)) :
    tree.follow (links + 1) here (piece :: rest) =
      tree.follow links (startOf here target) ((Path.mk target).pieces ++ rest) := by
  rw [follow, if_neg named.significant, if_neg named.notParent, if_neg (Nat.not_lt.mpr short), held]
  rfl

theorem locate_eq_follow {path : Path} (clean : 0 ∉ path.spelling)
    (nonempty : path.spelling ≠ []) (short : path.spelling.length < longestPath) :
    tree.locate path = tree.follow mostLinks (startOf tree.home path.spelling) path.pieces := by
  rw [locate, if_neg clean, if_neg nonempty, if_neg (Nat.not_le.mpr short)]

end FileTree

end WasmTasks
