import WasmTasks.Document.Toml.Scalar

/-!
TOML keys and values. Tables under construction remember how they came about, because a table may
be extended only in the way it was begun.
-/

namespace WasmTasks.Toml

/-- A value, an open table, or the tables of one array in reverse order. -/
inductive Item where
  | value (document : Document)
  | table (implicit dotted : Bool) (items : List (String × Item))
  | tables (reversed : List (List (String × Item)))

/-- A table under construction: whether only its subtables or its dotted keys made it. -/
structure Table where
  implicit : Bool
  dotted : Bool
  items : List (String × Item)

namespace Table

def empty : Table := ⟨false, false, []⟩

def assign (name : String) (item : Item) (items : List (String × Item)) : List (String × Item) :=
  if items.any (fun entry => entry.1 = name) then
    items.map fun entry => if entry.1 = name then (name, item) else entry
  else items ++ [(name, item)]

/-- Changes the table that a list of names leads to, making tables on the way. A path of dotted
keys does not enter a table that has been written out, and neither kind of path enters a value. -/
def update (dotted : Bool) (change : Table → Option Table) :
    List String → Table → Option Table
  | [], table => change table
  | name :: names, table =>
      match table.items.lookup name with
      | none => do
          let inner ← update dotted change names ⟨true, dotted, []⟩
          pure { table with
            items := assign name (.table inner.implicit inner.dotted inner.items) table.items }
      | some (.value _) => none
      | some (.tables []) => none
      | some (.tables (last :: earlier)) => do
          let inner ← update dotted change names ⟨false, false, last⟩
          pure { table with items := assign name (.tables (inner.items :: earlier)) table.items }
      | some (.table implicit isDotted items) =>
          if dotted && !implicit then none
          else do
            let inner ← update dotted change names ⟨implicit, isDotted, items⟩
            pure { table with
              items := assign name (.table inner.implicit inner.dotted inner.items) table.items }

/-- Adds a value under a key. The table it lands in must have been made the way the key is
written, and hold no such name. -/
def insert (path : List String) (name : String) (value : Document) (table : Table) :
    Option Table :=
  update true
    (fun target =>
      if target.dotted = path.isEmpty then none
      else if target.items.any (fun entry => entry.1 = name) then none
      else some { target with items := target.items ++ [(name, .value value)] })
    path table

end Table

mutual

def Item.close : Item → Document
  | .value document => document
  | .table _ _ items => .table (closeItems items)
  | .tables reversed => .sections (closeTables reversed [])

def closeItems : List (String × Item) → List (String × Document)
  | [] => []
  | (name, item) :: rest => (name, item.close) :: closeItems rest

def closeTables : List (List (String × Item)) → List Document → List Document
  | [], closed => closed
  | items :: rest, closed => closeTables rest (.table (closeItems items) :: closed)

end

/-- Keys and values may not be nested as deep as this. -/
def depthLimit : Nat := 80

def isKeyChar (c : Char) : Bool :=
  c.isAlphanum || c = '_' || c = '-'

def keyPart? (text : List Char) : Option (String × List Char) :=
  match text with
  | '"' :: rest => (basicString? rest).map fun (chars, rest) => (String.ofList chars, rest)
  | '\'' :: rest => (literalString? rest).map fun (chars, rest) => (String.ofList chars, rest)
  | _ =>
      let word := text.takeWhile isKeyChar
      if word.isEmpty then none else some (String.ofList word, text.dropWhile isKeyChar)

def keyParts? : Nat → List Char → Option (List String × List Char)
  | 0, _ => none
  | fuel + 1, text => do
      let (part, rest) ← keyPart? (skipBlank text)
      match skipBlank rest with
      | '.' :: rest =>
          let (parts, rest) ← keyParts? fuel rest
          pure (part :: parts, rest)
      | rest => pure ([part], rest)

def key? (text : List Char) : Option ((List String × String) × List Char) := do
  let (parts, rest) ← keyParts? depthLimit text
  if parts.length < depthLimit then
    let name ← parts.getLast?
    pure ((parts.dropLast, name), rest)
  else none

def skipComment (text : List Char) : List Char :=
  match text with
  | '#' :: rest => rest.dropWhile isPlain
  | _ => text

def skipLines : Nat → List Char → List Char
  | 0, text => text
  | fuel + 1, text =>
      match skipSpace text with
      | '#' :: rest => skipLines fuel (rest.dropWhile isPlain)
      | rest => rest

mutual

/-- The value that starts here. The fuel bounds the values still to come, and the depth the
nesting. -/
def value? : Nat → Nat → List Char → Option (Document × List Char)
  | 0, _, _ => none
  | fuel + 1, depth, text =>
      match text with
      | '[' :: rest =>
          if depth + 1 < depthLimit then items? fuel (depth + 1) [] rest else none
      | '\x7b' :: rest =>
          if depth + 1 < depthLimit then
            match skipBlank rest with
            | '\x7d' :: rest => some (.table [], rest)
            | rest => pairs? fuel (depth + 1) .empty rest
          else none
      | '"' :: _ => (string? text).map fun (value, rest) => (.text value, rest)
      | '\'' :: _ => (string? text).map fun (value, rest) => (.text value, rest)
      | _ =>
          let (word, rest) := takeWord text
          (ofWord? word).map fun value => (value, rest)

def items? : Nat → Nat → List Document → List Char → Option (Document × List Char)
  | 0, _, _, _ => none
  | fuel + 1, depth, read, text =>
      match skipLines text.length text with
      | ']' :: rest => some (.list read.reverse, rest)
      | start => do
          let (value, rest) ← value? fuel depth start
          match skipLines rest.length rest with
          | ',' :: rest => items? fuel depth (value :: read) rest
          | ']' :: rest => pure (.list (value :: read).reverse, rest)
          | _ => none

def pairs? : Nat → Nat → Table → List Char → Option (Document × List Char)
  | 0, _, _, _ => none
  | fuel + 1, depth, table, text => do
      let ((path, name), rest) ← key? text
      match rest with
      | '=' :: rest =>
          let (value, rest) ← value? fuel depth (skipBlank rest)
          let table ← table.insert path name value
          match skipBlank rest with
          | ',' :: rest => pairs? fuel depth table rest
          | '\x7d' :: rest => pure (.table (closeItems table.items), rest)
          | _ => none
      | _ => none

end

end WasmTasks.Toml
