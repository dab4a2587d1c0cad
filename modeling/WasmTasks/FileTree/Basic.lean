import WasmTasks.Path

/-!
The files a driver works on: a tree of directories, files, pipes and symbolic links below the root,
and the working directory, from which relative paths start. The root is its own parent. Names and
the targets of links are bytes, as paths are.
-/

namespace WasmTasks

inductive Node where
  | file (content : Bytes)
  | pipe (content : Bytes)
  | link (target : Bytes)
  | directory (entries : List (Bytes × Node))

inductive FileError where
  | notFound
  | notADirectory
  | isADirectory
  | tooManyLinks
  | nameTooLong
  | nulInName
  | notUtf8
  deriving DecidableEq, Repr

namespace FileError

def message : FileError → String
  | notFound => "No such file or directory (os error 2)"
  | notADirectory => "Not a directory (os error 20)"
  | isADirectory => "Is a directory (os error 21)"
  | tooManyLinks => "Too many levels of symbolic links (os error 40)"
  | nameTooLong => "File name too long (os error 36)"
  | nulInName => "file name contained an unexpected NUL byte"
  | notUtf8 => "stream did not contain valid UTF-8"

end FileError

/-- The identity of a directory: how it is reached from the root without links. -/
structure Location where
  names : List Bytes
  deriving DecidableEq, Repr

namespace Location

def root : Location := ⟨[]⟩

def parent (location : Location) : Location :=
  ⟨location.names.dropLast⟩

def child (name : Bytes) (location : Location) : Location :=
  ⟨location.names ++ [name]⟩

end Location

/-- What a path leads to once every link is followed. -/
inductive Target where
  | file (content : Bytes)
  | pipe (content : Bytes)
  | directory (location : Location) (entries : List (Bytes × Node))

structure FileTree where
  entries : List (Bytes × Node)
  home : Location

namespace FileTree

def entriesBelow? : List Bytes → List (Bytes × Node) → Option (List (Bytes × Node))
  | [], entries => some entries
  | name :: names, entries =>
      match entries.lookup name with
      | some (.directory inner) => entriesBelow? names inner
      | _ => none

def entriesAt? (tree : FileTree) (location : Location) : Option (List (Bytes × Node)) :=
  entriesBelow? location.names tree.entries

def longestName : Nat := 255

def longestPath : Nat := 4096

def mostLinks : Nat := 40

/-- The directory that a path or a link's target starts from, if it stands in `here`. -/
def startOf (here : Location) (spelling : Bytes) : Location :=
  if spelling.head? = some Path.slash then .root else here

/-- Follows the pieces of a path from a directory on. A link is replaced by its target's pieces;
after a piece that is no directory nothing may follow, not even an empty piece. -/
def follow (tree : FileTree) (links : Nat) (here : Location) :
    List Bytes → Except FileError Target
  | [] =>
      match tree.entriesAt? here with
      | some entries => .ok (.directory here entries)
      | none => .error .notFound
  | piece :: rest =>
      if piece = [] ∨ piece = [Path.dot] then tree.follow links here rest
      else if piece = [Path.dot, Path.dot] then tree.follow links here.parent rest
      else if longestName < piece.length then .error .nameTooLong
      else
        match ((tree.entriesAt? here).getD []).lookup piece with
        | none => .error .notFound
        | some (.directory _) => tree.follow links (here.child piece) rest
        | some (.file content) => if rest = [] then .ok (.file content) else .error .notADirectory
        | some (.pipe content) => if rest = [] then .ok (.pipe content) else .error .notADirectory
        | some (.link target) =>
            match links with
            | 0 => .error .tooManyLinks
            | links + 1 =>
                tree.follow links (startOf here target) (target.splitOn Path.slash ++ rest)
termination_by pieces => (links, pieces.length)

def locate (tree : FileTree) (path : Path) : Except FileError Target :=
  if 0 ∈ path.spelling then .error .nulInName
  else if path.spelling = [] then .error .notFound
  else if longestPath ≤ path.spelling.length then .error .nameTooLong
  else tree.follow mostLinks (startOf tree.home path.spelling) path.pieces

def isDirectory (tree : FileTree) (path : Path) : Bool :=
  match tree.locate path with
  | .ok (.directory _ _) => true
  | _ => false

/-- The content of a file, or of a pipe once someone writes it. -/
def read (tree : FileTree) (path : Path) : Except FileError Bytes :=
  match tree.locate path with
  | .error error => .error error
  | .ok (.file content) => .ok content
  | .ok (.pipe content) => .ok content
  | .ok (.directory _ _) => .error .isADirectory

def readText (tree : FileTree) (path : Path) : Except FileError String := do
  let content ← tree.read path
  match Text.Utf8.decode? content with
  | some text => pure text
  | none => .error .notUtf8

/-- Reading a pipe takes until someone writes it. -/
def isPipe (tree : FileTree) (path : Path) : Bool :=
  match tree.locate path with
  | .ok (.pipe _) => true
  | _ => false

def assign (name : Bytes) (node : Node) (entries : List (Bytes × Node)) : List (Bytes × Node) :=
  if entries.any (fun entry => entry.1 = name) then
    entries.map fun entry => if entry.1 = name then (name, node) else entry
  else entries ++ [(name, node)]

/-- Puts a node under the names, making directories on the way. -/
def placeBelow (node : Node) : List Bytes → List (Bytes × Node) → List (Bytes × Node)
  | [], entries => entries
  | [name], entries => assign name node entries
  | name :: names, entries =>
      let inner := match entries.lookup name with
        | some (.directory inner) => inner
        | _ => []
      assign name (.directory (placeBelow node names inner)) entries

def removeBelow : List Bytes → List (Bytes × Node) → List (Bytes × Node)
  | [], entries => entries
  | [name], entries => entries.filter fun entry => entry.1 ≠ name
  | name :: names, entries =>
      match entries.lookup name with
      | some (.directory inner) => assign name (.directory (removeBelow names inner)) entries
      | _ => entries

/-- Where an entry is kept that the pieces of a path name. Links on the way are followed, the last
one only if asked for; what is not there yet counts as a directory still to be made. -/
def destination (tree : FileTree) (followLast : Bool) (links : Nat) (here : Location) :
    List Bytes → Location
  | [] => here
  | piece :: rest =>
      if piece = [] ∨ piece = [Path.dot] then tree.destination followLast links here rest
      else if piece = [Path.dot, Path.dot] then tree.destination followLast links here.parent rest
      else
        match ((tree.entriesAt? here).getD []).lookup piece with
        | some (.link target) =>
            if rest = [] ∧ !followLast then here.child piece
            else
              match links with
              | 0 => here.child piece
              | links + 1 =>
                  tree.destination followLast links (startOf here target)
                    (target.splitOn Path.slash ++ rest)
        | _ => tree.destination followLast links (here.child piece) rest
termination_by pieces => (links, pieces.length)

def placeOf (tree : FileTree) (followLast : Bool) (path : Path) : Location :=
  tree.destination followLast mostLinks (startOf tree.home path.spelling) path.pieces

/-- Files and directories are written through a link; writing a directory that is there changes
nothing. -/
def write (tree : FileTree) (path : Path) (node : Node) : FileTree :=
  match node with
  | .directory _ =>
      let place := tree.placeOf true path
      if (tree.entriesAt? place).isSome then tree else put place node
  | .file _ => put (tree.placeOf true path) node
  | _ => put (tree.placeOf false path) node
where
  put (place : Location) (node : Node) : FileTree :=
    { tree with entries := placeBelow node place.names tree.entries }

/-- Removes an entry, of a link the link itself. -/
def delete (tree : FileTree) (path : Path) : FileTree :=
  { tree with entries := removeBelow (tree.placeOf false path).names tree.entries }

/-- A tree with nothing in it but its working directory. -/
def empty (home : Location) : FileTree :=
  ⟨placeBelow (.directory []) home.names [], home⟩

mutual

def nodeLocations : Node → List (List Bytes)
  | .directory entries => [] :: entryLocations entries
  | _ => []

def entryLocations : List (Bytes × Node) → List (List Bytes)
  | [] => []
  | (name, node) :: rest => (nodeLocations node).map (name :: ·) ++ entryLocations rest

end

def locations (tree : FileTree) : List Location :=
  ([] :: entryLocations tree.entries).map Location.mk

theorem mem_entryLocations {name : Bytes} {node : Node} {entries : List (Bytes × Node)}
    (held : (name, node) ∈ entries) {names : List Bytes} (below : names ∈ nodeLocations node) :
    name :: names ∈ entryLocations entries := by
  induction entries with
  | nil => cases held
  | cons head rest ih =>
      obtain ⟨other, first⟩ := head
      simp only [entryLocations, List.mem_append, List.mem_map]
      rcases List.mem_cons.mp held with same | later
      · cases same
        exact .inl ⟨names, below, rfl⟩
      · exact .inr (ih later)

theorem mem_of_lookup {name : Bytes} {node : Node} {entries : List (Bytes × Node)}
    (found : entries.lookup name = some node) : (name, node) ∈ entries := by
  induction entries with
  | nil => simp at found
  | cons head rest ih =>
      obtain ⟨other, first⟩ := head
      rw [List.lookup_cons] at found
      split at found
      · rename_i same
        cases found
        simp only [beq_iff_eq] at same
        exact same ▸ List.mem_cons_self
      · exact List.mem_cons_of_mem _ (ih found)

theorem mem_locations_of_entriesBelow? {names : List Bytes}
    {entries inner : List (Bytes × Node)} (found : entriesBelow? names entries = some inner) :
    names ∈ [] :: entryLocations entries := by
  induction names generalizing entries with
  | nil => exact List.mem_cons_self
  | cons name names ih =>
      simp only [entriesBelow?] at found
      split at found
      · rename_i below known
        exact List.mem_cons_of_mem _ (mem_entryLocations (mem_of_lookup known) (ih found))
      · cases found

theorem mem_locations_of_entriesAt? {tree : FileTree} {location : Location}
    {entries : List (Bytes × Node)} (found : tree.entriesAt? location = some entries) :
    location ∈ tree.locations :=
  List.mem_map_of_mem (mem_locations_of_entriesBelow? found)

theorem entriesAt?_of_follow {tree : FileTree} {links : Nat} {here location : Location}
    {pieces : List Bytes} {entries : List (Bytes × Node)}
    (found : tree.follow links here pieces = .ok (.directory location entries)) :
    tree.entriesAt? location = some entries := by
  fun_induction follow tree links here pieces <;> simp_all

theorem entriesAt?_of_locate {tree : FileTree} {path : Path} {location : Location}
    {entries : List (Bytes × Node)}
    (found : tree.locate path = .ok (.directory location entries)) :
    tree.entriesAt? location = some entries := by
  unfold locate at found
  split at found
  · cases found
  · split at found
    · cases found
    · split at found
      · cases found
      · exact entriesAt?_of_follow found

end FileTree

end WasmTasks
