import WasmTasks.FileTree.Scan
import WasmTasks.Proofs.FileTree.Spelling

/-!
The order of paths. Components are ordered by their rank, and names among themselves by their bytes;
paths are ordered by their components from the front. This is a linear order on the components of
paths, and so the sorted list of the modules that a scan finds is in path order throughout.
-/

namespace WasmTasks

instance Byte.linearOrder : LinearOrder UInt8 where
  le_refl _ := UInt8.le_refl _
  le_trans _ _ _ := UInt8.le_trans
  le_antisymm _ _ := UInt8.le_antisymm
  le_total := UInt8.le_total
  lt_iff_le_not_ge _ _ := by
    rw [UInt8.not_le]
    exact ⟨fun less => ⟨UInt8.le_of_lt less, less⟩, And.right⟩
  toDecidableLE := inferInstance
  toDecidableLT := inferInstance
  toDecidableEq := inferInstance

namespace Component

/-- The rank and, for a name, the bytes. -/
def place : Component → ℕ ×ₗ Bytes
  | name bytes => toLex (rank (name bytes), bytes)
  | other => toLex (rank other, [])

theorem place_injective : Function.Injective place := by
  intro a b same
  cases a <;> cases b <;> simp_all [place, rank]

instance : LinearOrder Component :=
  LinearOrder.lift' place place_injective

theorem less_iff_lt (a b : Component) : a.less b = true ↔ a < b := by
  change a.less b = true ↔ a.place < b.place
  cases a <;> cases b <;> simp [less, place, rank, Prod.Lex.toLex_lt_toLex]

end Component

namespace Path

theorem lessKey_iff_lt (front back : List Component) : lessKey front back = true ↔ front < back := by
  induction front generalizing back with
  | nil => cases back <;> simp [lessKey]
  | cons first others ih =>
      cases back with
      | nil => simp [lessKey]
      | cons other rest =>
          rw [lessKey, List.cons_lt_cons_iff, Bool.or_eq_true, Bool.and_eq_true, ih,
            Component.less_iff_lt, decide_eq_true_iff]

theorem less_iff_lt (p q : Path) : p.less q = true ↔ p.key < q.key :=
  lessKey_iff_lt p.key q.key

theorem not_less_iff_le (p q : Path) : (!q.less p) = true ↔ p.key ≤ q.key := by
  rw [Bool.not_eq_true', ← Bool.not_eq_true, less_iff_lt, not_lt]

/-- Path order: nothing stands before what precedes it. -/
def Ordered (paths : List Path) : Prop :=
  paths.Pairwise fun earlier later => ¬ later.less earlier = true

theorem ordered_mergeSort (paths : List Path) :
    Ordered (paths.mergeSort fun p q => !q.less p) := by
  have sorted : (paths.mergeSort fun p q => !q.less p).Pairwise
      fun earlier later => (!later.less earlier) = true := by
    apply List.pairwise_mergeSort
    · intro a b c first second
      rw [not_less_iff_le] at first second ⊢
      exact first.trans second
    · intro a b
      rw [Bool.or_eq_true, not_less_iff_le, not_less_iff_le]
      exact le_total _ _
  simpa [Ordered] using sorted

end Path

namespace FileTree

variable {tree : FileTree} {dir : Path} {paths : List Path}

theorem discover_ordered (found : tree.discover dir = .ok paths) : Path.Ordered paths := by
  rw [discover] at found
  split at found
  · split at found
    · cases found
    · cases found
      exact Path.ordered_mergeSort _
  · cases found

/-! A directory of module files. -/

theorem walk_of_files (tree : FileTree) (ancestors : Ancestors) (dir : Path) (here : Location)
    (files : List (Bytes × Bytes)) :
    tree.walk ancestors dir here (files.map fun file => (file.1, .file file.2)) =
      .ok (files.map fun file => dir.child file.1) := by
  induction files with
  | nil => rw [List.map_nil, walk, List.map_nil]
  | cons file rest ih =>
      rw [List.map_cons, walk, ih]
      rfl

/-- Module files that stand in path order are listed as they stand. -/
theorem discover_of_files {location : Location} {files : List (Bytes × Bytes)}
    (located : tree.locate dir =
      .ok (.directory location (files.map fun file => (file.1, .file file.2))))
    (modules : ∀ file ∈ files, isModuleFile (dir.child file.1) = true)
    (ordered : Path.Ordered (files.map fun file => dir.child file.1)) :
    tree.discover dir = .ok (files.map fun file => dir.child file.1) := by
  have kept : (files.map fun file => dir.child file.1).filter isModuleFile =
      files.map fun file => dir.child file.1 := by
    rw [List.filter_eq_self, List.forall_mem_map]
    exact modules
  have sorted : (files.map fun file => dir.child file.1).mergeSort (fun p q => !q.less p) =
      files.map fun file => dir.child file.1 :=
    List.mergeSort_of_pairwise (by simpa [Path.Ordered] using ordered)
  rw [discover, located]
  simp only [walk_of_files, kept, sorted]

end FileTree

end WasmTasks
