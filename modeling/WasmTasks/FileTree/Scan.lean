import WasmTasks.Error
import WasmTasks.FileTree.Basic

/-!
Finding the modules below a directory. The walk follows links and visits every entry once per path;
a link back to a directory the walk is inside of ends it with an error, as does a link that leads
nowhere or a directory whose path is too long to open. The modules found are listed in path order.
-/

namespace WasmTasks

inductive ScanFault where
  | io (path : Path) (error : FileError)
  | loop (path ancestor : Path)
  deriving DecidableEq, Repr

namespace ScanFault

def message : ScanFault → String
  | io path error => s!"IO error for operation on {path}: {error.message}"
  | loop path ancestor => s!"File system loop found: {path} points to an ancestor {ancestor}"

end ScanFault

namespace FileTree

/-- The directories a walk is inside of, the innermost first, each with the path it was reached by.
-/
abbrev Ancestors := List (Location × Path)

def unvisited (tree : FileTree) (ancestors : Ancestors) : Nat :=
  (tree.locations.filter fun location => ¬ location ∈ ancestors.map Prod.fst).length

theorem unvisited_cons_le (tree : FileTree) (visit : Location × Path) (ancestors : Ancestors) :
    tree.unvisited (visit :: ancestors) ≤ tree.unvisited ancestors := by
  unfold unvisited
  rw [← List.countP_eq_length_filter, ← List.countP_eq_length_filter]
  refine List.countP_mono_left fun location _ absent => ?_
  have both := of_decide_eq_true absent
  simp only [List.map_cons, List.mem_cons, not_or] at both
  exact decide_eq_true both.2

theorem unvisited_cons_lt {tree : FileTree} {location : Location} {ancestors : Ancestors}
    (path : Path) (held : location ∈ tree.locations)
    (fresh : ancestors.find? (fun visit => visit.1 = location) = none) :
    tree.unvisited ((location, path) :: ancestors) < tree.unvisited ancestors := by
  have absent : location ∉ ancestors.map Prod.fst := by
    intro known
    obtain ⟨visit, member, same⟩ := List.mem_map.mp known
    have := List.find?_eq_none.mp fresh visit member
    simp [same] at this
  unfold unvisited
  have shrink : tree.locations.filter
      (fun other => ¬ other ∈ ((location, path) :: ancestors).map Prod.fst) =
      (tree.locations.filter fun other => ¬ other ∈ ancestors.map Prod.fst).filter
        fun other => ¬ other = location := by
    rw [List.filter_filter]
    apply List.filter_congr
    intro other _
    rw [List.map_cons, ← Bool.decide_and]
    exact decide_eq_decide.mpr (by simp only [List.mem_cons, not_or])
  rw [shrink]
  exact List.length_filter_lt_length_iff_exists.mpr
    ⟨location, List.mem_filter.mpr ⟨held, by simpa using absent⟩, by simp⟩

/-- Paths found one after the other; the first fault counts. -/
def append (first second : Except ScanFault (List Path)) : Except ScanFault (List Path) := do
  let found ← first
  let others ← second
  pure (found ++ others)

/-- The paths of all files below a directory with these entries. -/
def walk (tree : FileTree) (ancestors : Ancestors) (dir : Path) (here : Location) :
    List (Bytes × Node) → Except ScanFault (List Path)
  | [] => .ok []
  | (name, node) :: rest =>
      let path := dir.child name
      append
        (match node with
          | .file _ => .ok [path]
          | .pipe _ => .ok []
          | .directory entries =>
              if longestPath ≤ path.spelling.length then .error (.io path .nameTooLong)
              else tree.walk ((here.child name, path) :: ancestors) path (here.child name) entries
          | .link _ =>
              match _located : tree.locate path with
              | .error error => .error (.io path error)
              | .ok (.file _) => .ok [path]
              | .ok (.pipe _) => .ok []
              | .ok (.directory location entries) =>
                  match _known : ancestors.find? fun visit => visit.1 = location with
                  | some (_, ancestor) => .error (.loop path ancestor)
                  | none => tree.walk ((location, path) :: ancestors) path location entries)
        (tree.walk ancestors dir here rest)
termination_by entries => (tree.unvisited ancestors, sizeOf entries)
decreasing_by
  · rcases Nat.lt_or_eq_of_le (tree.unvisited_cons_le (here.child name, dir.child name) ancestors)
      with fewer | same
    · exact Prod.Lex.left _ _ fewer
    · rw [same]
      apply Prod.Lex.right
      simp only [List.cons.sizeOf_spec, Prod.mk.sizeOf_spec, Node.directory.sizeOf_spec]
      omega
  · exact Prod.Lex.left _ _
      (unvisited_cons_lt _ (mem_locations_of_entriesAt? (entriesAt?_of_locate _located)) _known)
  · apply Prod.Lex.right
    simp only [List.cons.sizeOf_spec]
    omega

def moduleExtension : Bytes := Text.Utf8.encode "wasm"

def isModuleFile (path : Path) : Bool :=
  path.extension? = some moduleExtension

/-- The module files below a directory, in path order. -/
def discover (tree : FileTree) (dir : Path) : Except DriverError (List Path) :=
  match tree.locate dir with
  | .ok (.directory location entries) =>
      match tree.walk [(location, dir)] dir location entries with
      | .error fault => .error (.configuration (.unscannable dir fault.message))
      | .ok paths => .ok ((paths.filter isModuleFile).mergeSort fun p q => !q.less p)
  | _ => .error (.configuration (.notADirectory dir))

end FileTree

end WasmTasks
