import WasmTasks.Text.Quoted

/-!
File paths. A path is any list of bytes, text or not. It keeps the spelling it was written with, and
two spellings name the same path when they have the same components: repeated and trailing slashes
and inner `.` components do not count.
-/

namespace WasmTasks

/-- One step of a path; `current` stands only at the front of a relative path. -/
inductive Component where
  | root
  | current
  | parent
  | name (bytes : Bytes)
  deriving DecidableEq, Repr

namespace Component

def rank : Component → Nat
  | root => 0
  | current => 1
  | parent => 2
  | name _ => 3

/-- Names follow every other component and are ordered by their bytes. -/
def less : Component → Component → Bool
  | name a, name b => decide (a < b)
  | a, b => decide (a.rank < b.rank)

end Component

structure Path where
  spelling : Bytes
  deriving DecidableEq, Repr, Inhabited

namespace Path

def slash : UInt8 := 0x2f

def dot : UInt8 := 0x2e

def ofString (text : String) : Path :=
  ⟨Text.Utf8.encode text⟩

instance : Coe String Path := ⟨ofString⟩

instance : ToString Path := ⟨fun path => Text.Utf8.lossy path.spelling⟩

/-- The path as it is listed for debugging. -/
def quote (path : Path) : String :=
  Text.quoteBytes path.spelling

def text? (path : Path) : Option String :=
  Text.Utf8.decode? path.spelling

/-- What stands between slashes, empty pieces included. -/
def pieces (path : Path) : List Bytes :=
  path.spelling.splitOn slash

def isAbsolute (path : Path) : Bool :=
  path.spelling.head? = some slash

/-- Empty pieces and `.` vanish, and a `.` in front of a relative path is kept. -/
def key (path : Path) : List Component :=
  let named := path.pieces.filterMap fun piece =>
    if piece = [] ∨ piece = [dot] then none
    else if piece = [dot, dot] then some .parent
    else some (.name piece)
  if path.isAbsolute then .root :: named
  else if path.pieces.head? = some [dot] then .current :: named
  else named

/-- Two spellings of one path. -/
def Same (p q : Path) : Prop :=
  p.key = q.key

instance (p q : Path) : Decidable (Same p q) :=
  inferInstanceAs (Decidable (p.key = q.key))

theorem Same.refl (p : Path) : Same p p := rfl

theorem Same.symm {p q : Path} (same : Same p q) : Same q p := Eq.symm same

theorem Same.trans {p q r : Path} (left : Same p q) (right : Same q r) : Same p r :=
  Eq.trans left right

def lessKey : List Component → List Component → Bool
  | [], [] => false
  | [], _ :: _ => true
  | _ :: _, [] => false
  | a :: as, b :: bs => a.less b || (a = b && lessKey as bs)

def less (p q : Path) : Bool :=
  lessKey p.key q.key

def fileName? (path : Path) : Option Bytes :=
  match path.key.getLast? with
  | some (.name bytes) => some bytes
  | _ => none

/-- What follows the last dot of the file name, unless the dot is its first byte. -/
def extension? (path : Path) : Option Bytes := do
  let name ← path.fileName?
  match (name.splitOn dot).reverse with
  | [] => none
  | [_] => none
  | [_, []] => none
  | last :: _ => some last

def child (dir : Path) (name : Bytes) : Path :=
  if dir.spelling = [] then ⟨name⟩
  else if dir.spelling.getLast? = some slash then ⟨dir.spelling ++ name⟩
  else ⟨dir.spelling ++ slash :: name⟩

end Path

end WasmTasks
