import Mathlib
import WasmTasks.FileTree.Basic

/-!
Spellings of one path. They differ in the pieces that vanish, and a file that is read through one of
them is read through every other one, unless the system refuses it: because it goes on after the
name of the file, or because it is too long.
-/

namespace WasmTasks

namespace Path

/-- A piece that does not count as a component. -/
def Vanishes (piece : Bytes) : Prop :=
  piece = [] ∨ piece = [dot]

instance (piece : Bytes) : Decidable (Vanishes piece) :=
  inferInstanceAs (Decidable (_ ∨ _))

def significant (path : Path) : List Bytes :=
  path.pieces.filter fun piece => ¬ Vanishes piece

/-- The second list is the first one without some of the pieces that vanish. -/
inductive Trims : List Bytes → List Bytes → Prop where
  | nil : Trims [] []
  | keep (piece : Bytes) {pieces trimmed : List Bytes} (later : Trims pieces trimmed) :
      Trims (piece :: pieces) (piece :: trimmed)
  | drop {piece : Bytes} {pieces trimmed : List Bytes} (vanishes : Vanishes piece)
      (later : Trims pieces trimmed) : Trims (piece :: pieces) trimmed

/-- The last piece vanishes, as it does after a slash at the end. -/
def EndsAsDirectory (pieces : List Bytes) : Prop :=
  ∃ piece, pieces.getLast? = some piece ∧ Vanishes piece

/-- Why a spelling may be refused though another spelling of the path is not. -/
inductive Misspelt (path : Path) : FileError → Prop where
  | goesOn (ends : EndsAsDirectory path.pieces) : Misspelt path .notADirectory
  | tooLong (long : FileTree.longestPath ≤ path.spelling.length) : Misspelt path .nameTooLong

/-! The bytes of a path and its pieces. -/

/-- Every byte but the separator is in the parts. -/
theorem exists_mem_splitOn {mark byte : UInt8} (apart : byte ≠ mark) (bytes : Bytes) :
    (∃ part ∈ bytes.splitOn mark, byte ∈ part) ↔ byte ∈ bytes := by
  induction bytes with
  | nil => simp
  | cons head rest ih =>
      rw [List.splitOn_cons_eq_if_modifyHead]
      split
      · rename_i splits
        have other : byte ≠ head := fun same => apart (same.trans (eq_of_beq splits))
        simpa [other] using ih
      · obtain ⟨first, others, parts⟩ := List.exists_cons_of_ne_nil (List.splitOn_ne_nil mark rest)
        rw [parts] at ih ⊢
        simp only [List.modifyHead_cons, List.mem_cons, exists_eq_or_imp] at ih ⊢
        rw [← ih, or_assoc]

theorem mem_spelling_iff {byte : UInt8} (apart : byte ≠ slash) (path : Path) :
    byte ∈ path.spelling ↔ ∃ piece ∈ path.pieces, byte ∈ piece :=
  (exists_mem_splitOn apart path.spelling).symm

/-! A key tells whether a path is absolute, and its significant pieces. -/

def component (piece : Bytes) : Component :=
  if piece = [dot, dot] then .parent else .name piece

theorem component_injective : Function.Injective component := by
  intro first second same
  unfold component at same
  split at same <;> split at same <;> simp_all

theorem filterMap_pieces (path : Path) :
    (path.pieces.filterMap fun piece =>
      if piece = [] ∨ piece = [dot] then none
      else if piece = [dot, dot] then some .parent
      else some (.name piece)) = path.significant.map component := by
  unfold significant
  induction path.pieces with
  | nil => rfl
  | cons piece rest ih =>
      by_cases vanishes : Vanishes piece
      · rw [List.filter_cons_of_neg (by simpa using vanishes), ← ih]
        exact List.filterMap_cons_none (if_pos vanishes)
      · rw [List.filter_cons_of_pos (by simpa using vanishes), List.map_cons, ← ih]
        apply List.filterMap_cons_some
        have significant : ¬ (piece = [] ∨ piece = [dot]) := vanishes
        rw [component, if_neg significant]
        split <;> rfl

theorem root_mem_key_iff (path : Path) : .root ∈ path.key ↔ path.isAbsolute = true := by
  have named : Component.root ∉ path.significant.map component := by
    simp only [List.mem_map, not_exists, not_and, component]
    intro piece _
    split <;> simp
  unfold key
  rw [filterMap_pieces]
  split
  · rename_i absolute
    simp [absolute]
  · rename_i relative
    split <;> simp_all

theorem filter_key (path : Path) :
    path.key.filter (fun component => component ≠ .root ∧ component ≠ .current) =
      path.significant.map component := by
  have named : (path.significant.map component).filter
      (fun component => component ≠ .root ∧ component ≠ .current) =
      path.significant.map component := by
    rw [List.filter_eq_self]
    intro found member
    obtain ⟨piece, _, rfl⟩ := List.mem_map.mp member
    unfold component
    split <;> simp
  unfold key
  rw [filterMap_pieces]
  split
  · simpa using named
  · split
    · simpa using named
    · exact named

variable {path other : Path}

theorem Same.isAbsolute (same : path.Same other) : path.isAbsolute = other.isAbsolute := by
  rw [Bool.eq_iff_iff, ← root_mem_key_iff, ← root_mem_key_iff, same]

theorem Same.significant (same : path.Same other) : path.significant = other.significant := by
  have named : path.significant.map component = other.significant.map component := by
    rw [← filter_key, ← filter_key, same]
  exact component_injective.list_map named

/-! The end of a list of pieces. -/

namespace EndsAsDirectory

variable {rest : List Bytes}

theorem cons (ends : EndsAsDirectory rest) (piece : Bytes) : EndsAsDirectory (piece :: rest) := by
  obtain ⟨last, found, vanishes⟩ := ends
  exact ⟨last, by simp [List.getLast?_cons, found], vanishes⟩

theorem of_append {front : List Bytes} (ends : EndsAsDirectory (front ++ rest))
    (nonempty : rest ≠ []) : EndsAsDirectory rest := by
  obtain ⟨last, found, vanishes⟩ := ends
  rw [List.getLast?_append_of_ne_nil _ nonempty] at found
  exact ⟨last, found, vanishes⟩

theorem of_forall (nonempty : rest ≠ []) (all : ∀ piece ∈ rest, Vanishes piece) :
    EndsAsDirectory rest :=
  ⟨rest.getLast nonempty, List.getLast?_eq_some_getLast nonempty, all _ (List.getLast_mem nonempty)⟩

end EndsAsDirectory

/-! Trimmed lists of pieces. -/

namespace Trims

variable {pieces trimmed : List Bytes}

theorem append (front : List Bytes) (trims : Trims pieces trimmed) :
    Trims (front ++ pieces) (front ++ trimmed) := by
  induction front with
  | nil => exact trims
  | cons piece rest ih => exact .keep piece ih

theorem significant (path : Path) : Trims path.pieces path.significant := by
  unfold Path.significant
  induction path.pieces with
  | nil => exact .nil
  | cons piece rest ih =>
      by_cases vanishes : Vanishes piece
      · rw [List.filter_cons_of_neg (by simpa using vanishes)]
        exact .drop vanishes ih
      · rw [List.filter_cons_of_pos (by simpa using vanishes)]
        exact .keep piece ih

theorem cons_of_significant {piece : Bytes} (significant : ¬ Vanishes piece)
    (trims : Trims (piece :: pieces) trimmed) :
    ∃ later, trimmed = piece :: later ∧ Trims pieces later := by
  cases trims with
  | keep piece later => exact ⟨_, rfl, later⟩
  | drop vanishes later => exact absurd vanishes significant

theorem eq_nil (trims : Trims [] trimmed) : trimmed = [] := by
  cases trims
  rfl

theorem vanishes_of_nil (trims : Trims pieces []) : ∀ piece ∈ pieces, Vanishes piece := by
  induction pieces with
  | nil => nofun
  | cons piece rest ih =>
      cases trims with
      | drop vanishes later => exact List.forall_mem_cons.mpr ⟨vanishes, ih later⟩

end Trims

end Path

namespace FileTree

open WasmTasks.Path

variable {tree : FileTree} {links : Nat} {here : Location} {pieces trimmed : List Bytes}
  {target : Target}

/-- Pieces that vanish make a difference only after the name of something that is no directory. -/
theorem follow_trimmed (trims : Trims pieces trimmed) :
    tree.follow links here pieces = tree.follow links here trimmed ∨
      tree.follow links here pieces = .error .notADirectory ∧ EndsAsDirectory pieces := by
  -- a link puts its target in front of both lists, so the induction is on the walk and not on them
  fun_induction follow tree links here pieces generalizing trimmed with
  | case1 links here entries known | case2 links here known =>
      rw [trims.eq_nil, follow, known]
      exact .inl rfl
  | case3 links here piece rest vanishes ih =>
      cases trims with
      | keep _ less =>
          rw [follow, if_pos vanishes]
          exact (ih less).imp_right (And.imp_right fun ends => ends.cons piece)
      | drop _ less => exact (ih less).imp_right (And.imp_right fun ends => ends.cons piece)
  | case4 links here rest significant ih =>
      obtain ⟨later, rfl, less⟩ := trims.cons_of_significant significant
      rw [follow, if_neg significant, if_pos rfl]
      exact (ih less).imp_right (And.imp_right fun ends => ends.cons [dot, dot])
  | case5 links here piece rest significant down long =>
      obtain ⟨later, rfl, less⟩ := trims.cons_of_significant significant
      rw [follow, if_neg significant, if_neg down, if_pos long]
      exact .inl rfl
  | case6 links here piece rest significant down short known
  | case12 here piece rest significant down short target known =>
      obtain ⟨later, rfl, less⟩ := trims.cons_of_significant significant
      rw [follow, if_neg significant, if_neg down, if_neg short, known]
      exact .inl rfl
  | case7 links here piece rest significant down short entries known ih =>
      obtain ⟨later, rfl, less⟩ := trims.cons_of_significant significant
      rw [follow, if_neg significant, if_neg down, if_neg short, known]
      exact (ih less).imp_right (And.imp_right fun ends => ends.cons piece)
  | case8 links here piece significant down short content known
  | case10 links here piece significant down short content known =>
      obtain ⟨later, rfl, less⟩ := trims.cons_of_significant significant
      rw [follow, if_neg significant, if_neg down, if_neg short, known, less.eq_nil]
      exact .inl rfl
  | case9 links here piece rest significant down short content known more
  | case11 links here piece rest significant down short content known more =>
      -- what follows the name may all vanish, and is refused nevertheless
      obtain ⟨later, rfl, less⟩ := trims.cons_of_significant significant
      rw [follow, if_neg significant, if_neg down, if_neg short, known]
      by_cases gone : later = []
      · subst gone
        exact .inr ⟨rfl, (EndsAsDirectory.of_forall more less.vanishes_of_nil).cons piece⟩
      · exact .inl (if_neg gone).symm
  | case13 here piece rest significant down short target known links ih =>
      obtain ⟨later, rfl, less⟩ := trims.cons_of_significant significant
      rw [follow, if_neg significant, if_neg down, if_neg short, known]
      by_cases last : rest = []
      · -- then the end is the link's own, and both lists have it
        subst last
        rw [less.eq_nil]
        exact .inl rfl
      · exact (ih (less.append _)).imp_right
          (And.imp_right fun ends => (ends.of_append last).cons piece)

theorem locate_eq_ok {path : Path} (located : tree.locate path = .ok target) :
    0 ∉ path.spelling ∧
      tree.follow mostLinks (startOf tree.home path.spelling) path.pieces = .ok target := by
  unfold locate at located
  split at located
  · cases located
  · rename_i clean
    split at located
    · cases located
    · split at located
      · cases located
      · exact ⟨clean, located⟩

theorem follow_significant {path : Path}
    (found : tree.follow links here path.pieces = .ok target) :
    tree.follow links here path.significant = .ok target := by
  obtain same | ⟨refused, _⟩ := tree.follow_trimmed (Trims.significant path)
  · rw [← same, found]
  · rw [refused] at found
    cases found

variable {path other : Path}

/-- Bytes other than slashes are in the pieces, and a piece with a NUL does not vanish. -/
theorem nul_of_same (same : path.Same other) (nul : 0 ∈ path.spelling) : 0 ∈ other.spelling := by
  rw [mem_spelling_iff (by decide)] at nul ⊢
  obtain ⟨piece, member, holds⟩ := nul
  have stays : ¬ Vanishes piece := by
    rintro (rfl | rfl)
    · cases holds
    · exact absurd holds (by decide)
  have kept : piece ∈ path.significant := List.mem_filter.mpr ⟨member, by simpa using stays⟩
  rw [same.significant] at kept
  exact ⟨piece, (List.mem_filter.mp kept).1, holds⟩

theorem startOf_of_same (same : path.Same other) (here : Location) :
    startOf here path.spelling = startOf here other.spelling := by
  have absolute : (path.spelling.head? = some slash) ↔ other.spelling.head? = some slash := by
    have both := same.isAbsolute
    simpa only [isAbsolute, decide_eq_decide] using both
  simp only [startOf, absolute]

def content? : Target → Option Bytes
  | .file content => some content
  | .pipe content => some content
  | .directory _ _ => none

variable {content : Bytes}

theorem read_eq_ok_iff : tree.read path = .ok content ↔
    ∃ target, tree.locate path = .ok target ∧ content? target = some content := by
  unfold read
  cases tree.locate path with
  | error error => simp
  | ok target => cases target <;> simp [content?]

theorem read_of_refused {error : FileError} (refused : tree.locate path = .error error) :
    tree.read path = .error error := by
  rw [read, refused]

theorem spelling_ne_empty (reached : tree.follow links here path.significant = .ok target)
    (held : content? target = some content) : path.spelling ≠ [] := by
  intro empty
  have nothing : path.significant = [] := by
    rw [significant, pieces, empty]
    rfl
  rw [nothing, follow] at reached
  split at reached
  · cases reached
    cases held
  · cases reached

theorem locate_of_same (same : other.Same path) (located : tree.locate other = .ok target)
    (held : content? target = some content) :
    tree.locate path = .ok target ∨
      ∃ refusal, tree.locate path = .error refusal ∧ Misspelt path refusal := by
  obtain ⟨clean, found⟩ := locate_eq_ok located
  have reached := follow_significant found
  rw [startOf_of_same same, same.significant] at reached
  have noNul : 0 ∉ path.spelling := fun nul => clean (nul_of_same same.symm nul)
  rw [locate, if_neg noNul, if_neg (spelling_ne_empty reached held)]
  split
  · rename_i long
    exact .inr ⟨.nameTooLong, rfl, .tooLong long⟩
  · obtain goesOn | ⟨refused, ends⟩ := tree.follow_trimmed (Trims.significant path)
    · exact .inl (goesOn.trans reached)
    · exact .inr ⟨.notADirectory, refused, .goesOn ends⟩

theorem read_of_same (same : other.Same path) (found : tree.read other = .ok content) :
    tree.read path = .ok content ∨
      ∃ refusal, tree.read path = .error refusal ∧ Misspelt path refusal := by
  obtain ⟨target, located, held⟩ := read_eq_ok_iff.mp found
  obtain reached | ⟨refusal, refused, misspelt⟩ := locate_of_same same located held
  · exact .inl (read_eq_ok_iff.mpr ⟨target, reached, held⟩)
  · exact .inr ⟨refusal, read_of_refused refused, misspelt⟩

end FileTree

end WasmTasks
