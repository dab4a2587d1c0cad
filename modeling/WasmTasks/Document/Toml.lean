import WasmTasks.Document.Toml.Value

/-!
TOML text. A document is a sequence of lines: fields of the current table, and headers that begin a
new one. A table is complete when the next header comes, and then takes its place in the document.
-/

namespace WasmTasks.Toml

/-- A document being read: what is complete, and the table that the last header began. -/
structure Reading where
  root : Table
  /-- Where the current table belongs; nothing for the fields before the first header. -/
  path : Option (List String × String)
  isArray : Bool
  current : Table

namespace Reading

def start : Reading := ⟨.empty, none, false, .empty⟩

def finish (reading : Reading) : Option Table :=
  match reading.path with
  | none => some reading.current
  | some (path, name) =>
      Table.update false
        (fun parent =>
          if reading.isArray then
            match parent.items.lookup name with
            | none =>
                some { parent with
                  items := parent.items ++ [(name, .tables [reading.current.items])] }
            | some (.tables earlier) =>
                some { parent with
                  items := Table.assign name (.tables (reading.current.items :: earlier))
                    parent.items }
            | some _ => none
          else
            some { parent with
              items := Table.assign name
                (.table reading.current.implicit reading.current.dotted reading.current.items)
                parent.items })
        path reading.root

def find? (name : String) : List String → List (String × Item) → Option Item
  | [], items => items.lookup name
  | first :: path, items =>
      match items.lookup first with
      | some (.table _ _ inner) => find? name path inner
      | some (.tables (last :: _)) => find? name path last
      | _ => none

/-- Begins a table. A table that only its subtables made may still be written out, and moves to the
end of its parent; any other may not. -/
def beginTable (reading : Reading) (path : List String) (name : String) : Option Reading := do
  let root ← reading.finish
  match find? name path root.items with
  | none =>
      let root ← Table.update false some path root
      pure ⟨root, some (path, name), false, .empty⟩
  | some (.table true false items) =>
      let root ← Table.update false
        (fun parent => some { parent with items := parent.items.filter fun entry => entry.1 ≠ name })
        path root
      pure ⟨root, some (path, name), false, ⟨false, false, items⟩⟩
  | some _ => none

def beginArrayTable (reading : Reading) (path : List String) (name : String) : Option Reading := do
  let root ← reading.finish
  let root ← Table.update false
    (fun parent =>
      match parent.items.lookup name with
      | none => some parent
      | some (.tables _) => some parent
      | some _ => none)
    path root
  pure ⟨root, some (path, name), true, .empty⟩

def insert (reading : Reading) (path : List String) (name : String) (value : Document) :
    Option Reading :=
  (reading.current.insert path name value).map fun current => { reading with current := current }

/-- The text after a header's or a field's line, which may end in a comment. -/
def endLine? (text : List Char) : Option (List Char) :=
  match skipComment (skipBlank text) with
  | [] => some []
  | rest => newline? rest

def line? (reading : Reading) (text : List Char) : Option (Reading × List Char) :=
  match skipBlank text with
  | '[' :: '[' :: rest => do
      let ((path, name), rest) ← key? rest
      match rest with
      | ']' :: ']' :: rest =>
          let rest ← endLine? rest
          let reading ← reading.beginArrayTable path name
          pure (reading, rest)
      | _ => none
  | '[' :: rest => do
      let ((path, name), rest) ← key? rest
      match rest with
      | ']' :: rest =>
          let rest ← endLine? rest
          let reading ← reading.beginTable path name
          pure (reading, rest)
      | _ => none
  | [] => some (reading, [])
  | start =>
      if start.head? = some '#' ∨ (newline? start).isSome then
        (endLine? start).map fun rest => (reading, rest)
      else do
        let ((path, name), rest) ← key? start
        match rest with
        | '=' :: rest =>
            let (value, rest) ← value? (rest.length + 1) 0 (skipBlank rest)
            let rest ← endLine? rest
            let reading ← reading.insert path name value
            pure (reading, rest)
        | _ => none

/-- Reads the lines of a text, of which there are at most as many as characters. -/
def lines? : Nat → Reading → List Char → Option Reading
  | _, reading, [] => some reading
  | 0, _, _ => none
  | fuel + 1, reading, text => do
      let (reading, rest) ← reading.line? text
      lines? fuel reading rest

end Reading

/-- Reads a text; a byte order mark in front of it does not count. -/
def read? (text : String) : Option Document := do
  let chars := text.toList
  let chars := if chars.head? = some '\ufeff' then chars.tail else chars
  let reading ← Reading.lines? chars.length .start chars
  let root ← reading.finish
  pure (.table (closeItems root.items))

end WasmTasks.Toml
