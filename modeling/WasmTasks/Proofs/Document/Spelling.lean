import Mathlib.Data.List.Find
import WasmTasks.Proofs.Document.Records

/-!
The spellings of a record. A document is respelt when its fields change places, go by another of
their names, stand beside unknown ones, or are given although the record would have the same value
without them, and when the values of its first fields are listed instead. All this may happen to
the records inside a record as well, and no reader of records can tell.
-/

namespace WasmTasks

variable {α β : Type} {dialect : Dialect}

/-- The values of the field are records of this type. -/
structure Field.Holds (dialect : Dialect) (field : Field α) (inner : RecordType β) : Prop where
  regular : inner.Regular
  reads : ∃ set : β → α → α, field.read = fun document => (inner.decode dialect document).map set

namespace Field

variable {inner : RecordType β} {name : String} {set : β → α → α}

theorem holds_optional {aliases : List String} (regular : inner.Regular) :
    (optional name aliases (inner.decode dialect) set).Holds dialect inner :=
  ⟨regular, set, rfl⟩

theorem holds_mandatory (regular : inner.Regular) :
    (mandatory name (inner.decode dialect) set).Holds dialect inner :=
  ⟨regular, set, rfl⟩

theorem Holds.read_congr {field : Field α} (holds : field.Holds dialect inner)
    {document other : Document}
    (alike : ∀ value, inner.decode dialect document = .ok value ↔
      inner.decode dialect other = .ok value) (change : α → α) :
    field.read document = .ok change ↔ field.read other = .ok change := by
  obtain ⟨set, reads⟩ := holds.reads
  simp only [reads, Except.map_eq_ok, alike]

theorem Holds.read_ne_ok {field : Field α} (holds : field.Holds dialect inner)
    {document : Document} (refused : ∀ value, inner.decode dialect document ≠ .ok value)
    (change : α → α) : field.read document ≠ .ok change := by
  obtain ⟨set, reads⟩ := holds.reads
  simp only [reads, ne_eq, Except.map_eq_ok, not_exists, not_and]
  exact fun value read => absurd read (refused value)

end Field

namespace RecordType

/-- Under this name the record holds a record of its own. -/
def Nests (dialect : Dialect) (type : RecordType α) (name : String) (inner : RecordType β) : Prop :=
  ∃ field ∈ type.fields, name ∈ field.names ∧ field.Holds dialect inner

/-- The document gives the field the value that the record has where the field is omitted. -/
def ReadsDefault (type : RecordType α) (field : Field α) (document : Document) : Prop :=
  ∃ change, field.read document = .ok change ∧ change type.initial = type.initial

/-- The table gives each field its default, in the order of their declaration. -/
def WritesDefaults (type : RecordType α) (document : Document) : Prop :=
  ∃ entries, document = .table entries ∧
    List.Forall₂ (fun field entry => entry.1 = field.name ∧ type.ReadsDefault field entry.2)
      type.fields entries

/-- Two spellings of one record. A permutation brings any entry of a table to the front, where the
other changes are made, or all of them into the order of declaration, in which they are listed. -/
inductive Respells (dialect : Dialect) : {α : Type} → RecordType α → Document → Document → Prop
  | refl {α : Type} {type : RecordType α} (document : Document) :
      Respells dialect type document document
  | symm {α : Type} {type : RecordType α} {document other : Document} :
      Respells dialect type document other → Respells dialect type other document
  | trans {α : Type} {type : RecordType α} {document other last : Document} :
      Respells dialect type document other → Respells dialect type other last →
      Respells dialect type document last
  | permute {α : Type} {type : RecordType α} {entries others : List (String × Document)} :
      entries.Perm others → Respells dialect type (.table entries) (.table others)
  | insert {α : Type} {type : RecordType α} {name : String} {document : Document}
      {entries : List (String × Document)} :
      (∀ field ∈ type.fields, name ∉ field.names) →
      Respells dialect type (.table entries) (.table ((name, document) :: entries))
  | rename {α : Type} {type : RecordType α} {field : Field α} {name other : String}
      {document : Document} {entries : List (String × Document)} :
      field ∈ type.fields → name ∈ field.names → other ∈ field.names →
      Respells dialect type (.table ((name, document) :: entries))
        (.table ((other, document) :: entries))
  | writeOut {α : Type} {type : RecordType α} {field : Field α} {name : String}
      {document : Document} {entries : List (String × Document)} :
      field ∈ type.fields → name ∈ field.names → field.required = false →
      type.ReadsDefault field document → (∀ entry ∈ entries, entry.1 ∉ field.names) →
      Respells dialect type (.table entries) (.table ((name, document) :: entries))
  | list {α : Type} {type : RecordType α} {entries : List (String × Document)} :
      List.Forall₂ (fun field entry => entry.1 ∈ field.names)
        (type.fields.take entries.length) entries →
      Respells dialect type (.table entries) (.list (entries.map Prod.snd))
  | within {α β : Type} {type : RecordType α} {inner : RecordType β} {name : String}
      {document other : Document} {entries : List (String × Document)} :
      type.Nests dialect name inner → Respells dialect inner document other →
      Respells dialect type (.table ((name, document) :: entries))
        (.table ((name, other) :: entries))
  | withinItem {α β : Type} {type : RecordType α} {inner : RecordType β} {field : Field α}
      {document other : Document} {before after : List Document} :
      type.fields[before.length]? = some field → field.Holds dialect inner →
      Respells dialect inner document other →
      Respells dialect type (.list (before ++ document :: after))
        (.list (before ++ other :: after))

/-- A table that stands for a record, at any depth, gives one of its fields twice. -/
inductive Doubles (dialect : Dialect) : {α : Type} → RecordType α → Document → Prop
  | here {α : Type} {type : RecordType α} {field : Field α}
      {entries : List (String × Document)} :
      field ∈ type.fields → 1 < entries.countP (fun entry => entry.1 ∈ field.names) →
      Doubles dialect type (.table entries)
  | within {α β : Type} {type : RecordType α} {inner : RecordType β} {name : String}
      {document : Document} {entries : List (String × Document)} :
      type.Nests dialect name inner → (name, document) ∈ entries →
      Doubles dialect inner document → Doubles dialect type (.table entries)
  | withinItem {α β : Type} {type : RecordType α} {inner : RecordType β} {field : Field α}
      {position : Nat} {document : Document} {items : List Document} :
      type.fields[position]? = some field → items[position]? = some document →
      field.Holds dialect inner → Doubles dialect inner document →
      Doubles dialect type (.list items)

variable {type : RecordType α} {field : Field α} {name other : String} {document : Document}
  {draft later : Draft α} {entries others : List (String × Document)} {value last : α}

/-! Tables. -/

theorem enter_of_unknown (unknown : ∀ field ∈ type.fields, name ∉ field.names) :
    type.enter draft (name, document) = .ok draft := by
  refine enter_eq_ok_iff.mpr (.inl ⟨List.find?_eq_none.mpr fun field member answers => ?_, rfl⟩)
  exact unknown field member (Field.answersTo_iff.mp answers)

theorem Regular.enter_of_known (regular : type.Regular) (member : field ∈ type.fields)
    (named : name ∈ field.names) :
    type.enter draft (name, document) =
      if draft.given.contains field.name then .error (.duplicateField field.name)
      else (field.read document).map fun change =>
        ⟨change draft.value, field.name :: draft.given⟩ := by
  simp only [enter, regular.find?_answersTo member (Field.answersTo_iff.mpr named)]

theorem Regular.enter_iff_of_known (regular : type.Regular) (member : field ∈ type.fields)
    (named : name ∈ field.names) :
    type.enter draft (name, document) = .ok later ↔
      field.name ∉ draft.given ∧ ∃ change, field.read document = .ok change ∧
        ⟨change draft.value, field.name :: draft.given⟩ = later := by
  rw [regular.enter_of_known member named]
  by_cases given : field.name ∈ draft.given <;> simp [given, Except.map_eq_ok]

theorem Regular.eq_of_name (regular : type.Regular) {first second : Field α}
    (member : first ∈ type.fields) (other : second ∈ type.fields)
    (same : first.name = second.name) : first = second :=
  List.inj_on_of_nodup_map regular.nodup_name member other same

theorem ofTable_cons (entry : String × Document) :
    type.ofTable (entry :: entries) =
      (type.enter ⟨type.initial, []⟩ entry >>= (type.enterAll · entries)) >>= type.close :=
  rfl

theorem ofTable_insert (unknown : ∀ field ∈ type.fields, name ∉ field.names) :
    type.ofTable ((name, document) :: entries) = type.ofTable entries := by
  rw [ofTable_cons, enter_of_unknown unknown]
  rfl

theorem Regular.ofTable_rename (regular : type.Regular) (member : field ∈ type.fields)
    (named : name ∈ field.names) (renamed : other ∈ field.names) :
    type.ofTable ((name, document) :: entries) = type.ofTable ((other, document) :: entries) := by
  rw [ofTable_cons, ofTable_cons, regular.enter_of_known member named,
    regular.enter_of_known member renamed]

theorem Regular.ofTable_congr (regular : type.Regular) (member : field ∈ type.fields)
    (named : name ∈ field.names) {changed : Document}
    (alike : ∀ change, field.read document = .ok change ↔ field.read changed = .ok change) :
    type.ofTable ((name, document) :: entries) = .ok value ↔
      type.ofTable ((name, changed) :: entries) = .ok value := by
  simp [ofTable_cons, regular.enter_of_known member named, Except.bind_eq_ok, Except.map_eq_ok,
    alike]

theorem Regular.enter_beside (regular : type.Regular) (member : field ∈ type.fields)
    {given : List String} {entry : String × Document} (apart : entry.1 ∉ field.names) :
    type.enter ⟨value, given ++ [field.name]⟩ entry =
      (type.enter ⟨value, given⟩ entry).map fun draft =>
        ⟨draft.value, draft.given ++ [field.name]⟩ := by
  unfold enter
  cases found : type.fields.find? (·.answersTo entry.1) with
  | none => rfl
  | some first =>
      have differ : first.name ≠ field.name := by
        intro same
        have answers := List.find?_some found
        rw [regular.eq_of_name (List.mem_of_find?_eq_some found) member same] at answers
        exact apart (Field.answersTo_iff.mp answers)
      by_cases before : first.name ∈ given
      · simp [before, Except.map]
      · simp only [List.contains_eq_mem, List.mem_append, before, List.mem_singleton, differ]
        cases first.read entry.2 <;> simp [Except.map]

theorem Regular.enterAll_beside (regular : type.Regular) (member : field ∈ type.fields)
    (apart : ∀ entry ∈ entries, entry.1 ∉ field.names) {given : List String} :
    type.enterAll ⟨value, given ++ [field.name]⟩ entries =
      (type.enterAll ⟨value, given⟩ entries).map fun draft =>
        ⟨draft.value, draft.given ++ [field.name]⟩ := by
  induction entries generalizing value given with
  | nil => rfl
  | cons entry entries ih =>
      have others : ∀ entry ∈ entries, entry.1 ∉ field.names :=
        fun entry member => apart entry (.tail _ member)
      rw [enterAll, enterAll, regular.enter_beside member (apart entry List.mem_cons_self)]
      cases type.enter ⟨value, given⟩ entry with
      | error error => rfl
      | ok next => exact ih others

theorem Regular.close_beside (regular : type.Regular) (member : field ∈ type.fields)
    (omissible : field.required = false) {given : List String} :
    type.close ⟨value, given ++ [field.name]⟩ = type.close ⟨value, given⟩ := by
  have alike : ∀ first ∈ type.fields,
      (first.required && !(given ++ [field.name]).contains first.name) =
        (first.required && !given.contains first.name) := by
    intro first listed
    by_cases same : first.name = field.name
    · rw [regular.eq_of_name listed member same, omissible]
      rfl
    · simp [same]
  rw [close, close, List.find?_congr alike]

theorem Regular.ofTable_writeOut (regular : type.Regular) (member : field ∈ type.fields)
    (named : name ∈ field.names) (omissible : field.required = false)
    (standard : type.ReadsDefault field document)
    (omitted : ∀ entry ∈ entries, entry.1 ∉ field.names) :
    type.ofTable ((name, document) :: entries) = type.ofTable entries := by
  obtain ⟨change, read, unchanged⟩ := standard
  have entered : type.enter ⟨type.initial, []⟩ (name, document) =
      .ok ⟨type.initial, [] ++ [field.name]⟩ := by
    simp [regular.enter_of_known member named, read, unchanged, Except.map]
  have beside : type.enterAll ⟨type.initial, [] ++ [field.name]⟩ entries =
      (type.enterAll ⟨type.initial, []⟩ entries).map fun draft =>
        ⟨draft.value, draft.given ++ [field.name]⟩ :=
    regular.enterAll_beside member omitted
  calc type.ofTable ((name, document) :: entries)
      = type.enterAll ⟨type.initial, [] ++ [field.name]⟩ entries >>= type.close := by
        rw [ofTable_cons, entered]
        rfl
    _ = type.ofTable entries := by
        rw [beside, ofTable]
        cases type.enterAll ⟨type.initial, []⟩ entries with
        | error error => rfl
        | ok draft => exact regular.close_beside member omissible

theorem given_subset_of_enter {entry : String × Document}
    (entered : type.enter draft entry = .ok later) : draft.given ⊆ later.given := by
  rcases enter_eq_ok_iff.mp entered with ⟨-, rfl⟩ | ⟨field, change, -, -, -, rfl⟩
  · exact List.Subset.refl _
  · exact List.subset_cons_self _ _

theorem given_subset_of_enterAll (entered : type.enterAll draft entries = .ok later) :
    draft.given ⊆ later.given := by
  induction entries generalizing draft with
  | nil => cases entered; exact List.Subset.refl _
  | cons entry entries ih =>
      obtain ⟨next, first, rest⟩ := enterAll_cons.mp entered
      exact List.Subset.trans (given_subset_of_enter first) (ih rest)

theorem Regular.countP_of_enterAll (regular : type.Regular) (member : field ∈ type.fields)
    (entered : type.enterAll draft entries = .ok later) :
    (field.name ∈ draft.given → entries.countP (fun entry => entry.1 ∈ field.names) = 0) ∧
      entries.countP (fun entry => entry.1 ∈ field.names) ≤ 1 := by
  induction entries generalizing draft with
  | nil => simp
  | cons entry entries ih =>
      obtain ⟨next, first, rest⟩ := enterAll_cons.mp entered
      by_cases named : entry.1 ∈ field.names
      · obtain ⟨new, change, -, rfl⟩ := (regular.enter_iff_of_known member named).mp first
        have none := (ih rest).1 List.mem_cons_self
        rw [List.countP_cons_of_pos (by simpa using named), none]
        exact ⟨fun given => absurd given new, Nat.le_refl _⟩
      · rw [List.countP_cons_of_neg (by simpa using named)]
        exact ⟨fun given => (ih rest).1 (given_subset_of_enter first given), (ih rest).2⟩

theorem Regular.exists_read_of_enterAll (regular : type.Regular) (member : field ∈ type.fields)
    (named : name ∈ field.names) (entered : type.enterAll draft entries = .ok later)
    (given : (name, document) ∈ entries) : ∃ change, field.read document = .ok change := by
  induction entries generalizing draft with
  | nil => cases given
  | cons entry entries ih =>
      obtain ⟨next, first, rest⟩ := enterAll_cons.mp entered
      rcases List.mem_cons.mp given with rfl | given
      · obtain ⟨-, change, read, -⟩ := (regular.enter_iff_of_known member named).mp first
        exact ⟨change, read⟩
      · exact ih rest given

/-! Lists. -/

theorem enterItems_nil {fields : List (Field α)} {position : Nat} {rest : List Document} :
    type.enterItems value position fields [] = .ok (last, rest) ↔
      (∀ field ∈ fields, field.required = false) ∧ value = last ∧ rest = [] := by
  induction fields generalizing position with
  | nil => simp [enterItems]
  | cons field fields ih =>
      cases required : field.required with
      | true => simp [enterItems, required]
      | false => simp [enterItems, required, ih]

theorem enterItems_cons {fields : List (Field α)} {position : Nat} {items rest : List Document} :
    type.enterItems value position (field :: fields) (document :: items) = .ok (last, rest) ↔
      ∃ change, field.read document = .ok change ∧
        type.enterItems (change value) (position + 1) fields items = .ok (last, rest) :=
  Except.bind_eq_ok

theorem ofList_eq_ok_iff {items : List Document} :
    type.ofList dialect items = .ok value ↔
      ∃ rest, type.enterItems type.initial 0 type.fields items = .ok (value, rest) ∧
        (dialect = .json → rest = []) := by
  unfold ofList
  rw [Except.bind_eq_ok]
  constructor
  · rintro ⟨⟨last, rest⟩, entered, closed⟩
    cases dialect <;> cases rest <;> cases closed <;> exact ⟨_, entered, by simp⟩
  · rintro ⟨rest, entered, exhausted⟩
    refine ⟨(value, rest), entered, ?_⟩
    cases dialect with
    | json => rw [exhausted rfl]; rfl
    | toml => rfl

/-- The draft takes up the entries, and then none of these fields is missing. -/
def Completes (type : RecordType α) (fields : List (Field α)) (draft : Draft α)
    (entries : List (String × Document)) (value : α) : Prop :=
  ∃ complete, type.enterAll draft entries = .ok complete ∧
    (∀ field ∈ fields, field.required = true → field.name ∈ complete.given) ∧
    complete.value = value

theorem ofTable_iff_completes :
    type.ofTable entries = .ok value ↔
      type.Completes type.fields ⟨type.initial, []⟩ entries value := by
  simp only [ofTable_eq_ok_iff, close_eq_ok_iff, Completes]

theorem completes_nil {fields : List (Field α)} {given : List String}
    (fresh : ∀ field ∈ fields, field.name ∉ given) :
    type.Completes fields ⟨value, given⟩ [] last ↔
      (∀ field ∈ fields, field.required = false) ∧ value = last := by
  have omissible : (∀ field ∈ fields, field.required = true → field.name ∈ given) ↔
      ∀ field ∈ fields, field.required = false := by
    refine forall₂_congr fun field member => ?_
    simp [fresh field member]
  simp only [Completes, enterAll, Except.ok.injEq, exists_eq_left', omissible]

theorem Regular.completes_cons (regular : type.Regular) (member : field ∈ type.fields)
    (named : name ∈ field.names) {fields : List (Field α)} {given : List String}
    (new : field.name ∉ given) :
    type.Completes (field :: fields) ⟨value, given⟩ ((name, document) :: entries) last ↔
      ∃ change, field.read document = .ok change ∧
        type.Completes fields ⟨change value, field.name :: given⟩ entries last := by
  simp only [Completes, enterAll_cons, regular.enter_iff_of_known member named]
  constructor
  · rintro ⟨draft, ⟨_, ⟨-, change, read, rfl⟩, entered⟩, complete, rfl⟩
    exact ⟨change, read, draft, entered, fun next member => complete next (.tail _ member), rfl⟩
  · rintro ⟨change, read, draft, entered, complete, rfl⟩
    refine ⟨draft, ⟨_, ⟨new, change, read, rfl⟩, entered⟩, fun next member => ?_, rfl⟩
    rcases List.mem_cons.mp member with rfl | member
    · exact fun _ => given_subset_of_enterAll entered List.mem_cons_self
    · exact complete next member

theorem Regular.enterItems_iff (regular : type.Regular) :
    ∀ {fields : List (Field α)} {entries : List (String × Document)} {position : Nat} {value : α}
      {given : List String} {rest : List Document},
      (∀ field ∈ fields, field ∈ type.fields) → (fields.map (·.name)).Nodup →
      (∀ field ∈ fields, field.name ∉ given) →
      List.Forall₂ (fun field entry => entry.1 ∈ field.names) (fields.take entries.length) entries →
      (type.enterItems value position fields (entries.map Prod.snd) = .ok (last, rest) ↔
        type.Completes fields ⟨value, given⟩ entries last ∧ rest = [])
  | fields, [], position, value, given, rest, _, _, fresh, _ => by
      rw [List.map_nil, enterItems_nil, completes_nil fresh, and_assoc]
  | [], _ :: _, _, _, _, _, _, _, _, listed => by cases listed
  | field :: fields, (name, document) :: entries, position, value, given, rest, members, distinct,
      fresh, listed => by
      obtain ⟨named, listed⟩ := List.forall₂_cons.mp listed
      have step (change : α → α) :
          type.enterItems (change value) (position + 1) fields (entries.map Prod.snd) =
              .ok (last, rest) ↔
            type.Completes fields ⟨change value, field.name :: given⟩ entries last ∧ rest = [] :=
        regular.enterItems_iff (fun next member => members next (.tail _ member))
          (List.nodup_cons.mp distinct).2 (fresh_tail distinct fresh) listed
      rw [List.map_cons, enterItems_cons, regular.completes_cons (members field (.head _)) named
        (fresh field (.head _))]
      simp only [step, ← and_assoc, exists_and_right]

theorem Regular.ofTable_iff_ofList (regular : type.Regular) (dialect : Dialect)
    (listed : List.Forall₂ (fun field entry => entry.1 ∈ field.names)
      (type.fields.take entries.length) entries) :
    type.ofTable entries = .ok value ↔
      type.ofList dialect (entries.map Prod.snd) = .ok value := by
  have items {rest : List Document} :
      type.enterItems type.initial 0 type.fields (entries.map Prod.snd) = .ok (value, rest) ↔
        type.Completes type.fields ⟨type.initial, []⟩ entries value ∧ rest = [] :=
    regular.enterItems_iff (fun _ member => member) regular.nodup_name
      (fun _ _ => List.not_mem_nil) listed
  rw [ofTable_iff_completes, ofList_eq_ok_iff]
  simp only [items]
  constructor
  · exact fun completes => ⟨[], ⟨completes, rfl⟩, fun _ => rfl⟩
  · exact fun ⟨_, ⟨completes, _⟩, _⟩ => completes

theorem enterItems_congr {fields : List (Field α)} {position : Nat}
    {before after rest : List Document} {changed : Document}
    (here : fields[before.length]? = some field)
    (alike : ∀ change, field.read document = .ok change ↔ field.read changed = .ok change) :
    type.enterItems value position fields (before ++ document :: after) = .ok (last, rest) ↔
      type.enterItems value position fields (before ++ changed :: after) = .ok (last, rest) := by
  induction before generalizing fields position value with
  | nil =>
      cases fields with
      | nil => cases here
      | cons first fields =>
          obtain rfl : first = field := by simpa using here
          simp only [List.nil_append, enterItems_cons, alike]
  | cons item before ih =>
      cases fields with
      | nil => cases here
      | cons first fields =>
          have there : fields[before.length]? = some field := by simpa using here
          simp only [List.cons_append, enterItems_cons, ih there]

theorem ofList_congr {before after : List Document} {changed : Document}
    (here : type.fields[before.length]? = some field)
    (alike : ∀ change, field.read document = .ok change ↔ field.read changed = .ok change) :
    type.ofList dialect (before ++ document :: after) = .ok value ↔
      type.ofList dialect (before ++ changed :: after) = .ok value := by
  simp only [ofList_eq_ok_iff, enterItems_congr here alike]

theorem exists_read_of_enterItems :
    ∀ {fields : List (Field α)} {items rest : List Document} {position index : Nat} {value : α},
      fields[index]? = some field → items[index]? = some document →
      type.enterItems value position fields items = .ok (last, rest) →
      ∃ change, field.read document = .ok change
  | [], _, _, _, _, _, here, _, _ => nomatch here
  | _ :: _, [], _, _, _, _, _, given, _ => nomatch given
  | _ :: _, _ :: _, _, _, 0, _, here, given, entered => by
      cases here
      cases given
      obtain ⟨change, read, -⟩ := enterItems_cons.mp entered
      exact ⟨change, read⟩
  | _ :: fields, _ :: items, _, _, index + 1, _, here, given, entered => by
      have there : fields[index]? = some field := here
      have kept : items[index]? = some document := given
      obtain ⟨change, -, entered⟩ := enterItems_cons.mp entered
      exact exists_read_of_enterItems there kept entered

/-! Both. -/

/-- Spellings of one record are read as the same value, or are both refused. -/
theorem Respells.decode_iff {α : Type} {type : RecordType α} {document other : Document}
    (respelt : type.Respells dialect document other) (regular : type.Regular) (value : α) :
    type.decode dialect document = .ok value ↔ type.decode dialect other = .ok value := by
  induction respelt with
  | refl => rfl
  | symm _ ih => exact (ih regular value).symm
  | trans _ _ first second => exact (first regular value).trans (second regular value)
  | permute order => exact ⟨ofTable_perm regular order, ofTable_perm regular order.symm⟩
  | insert unknown => rw [decode, decode, ofTable_insert unknown]
  | rename member named renamed =>
      rw [decode, decode, regular.ofTable_rename member named renamed]
  | writeOut member named omissible standard omitted =>
      rw [decode, decode, regular.ofTable_writeOut member named omissible standard omitted]
  | list listed => exact regular.ofTable_iff_ofList dialect listed
  | within nests _ ih =>
      obtain ⟨field, member, named, holds⟩ := nests
      exact regular.ofTable_congr member named (holds.read_congr (ih holds.regular))
  | withinItem here holds _ ih => exact ofList_congr here (holds.read_congr (ih holds.regular))

theorem Doubles.decode_ne_ok {α : Type} {type : RecordType α} {document : Document}
    (doubled : type.Doubles dialect document) (regular : type.Regular) (value : α) :
    type.decode dialect document ≠ .ok value := by
  induction doubled with
  | here member twice =>
      intro read
      obtain ⟨draft, entered, -⟩ := ofTable_eq_ok_iff.mp read
      exact absurd (regular.countP_of_enterAll member entered).2 (Nat.not_le.mpr twice)
  | within nests given _ ih =>
      intro read
      obtain ⟨field, member, named, holds⟩ := nests
      obtain ⟨draft, entered, -⟩ := ofTable_eq_ok_iff.mp read
      obtain ⟨change, read⟩ := regular.exists_read_of_enterAll member named entered given
      exact holds.read_ne_ok (ih holds.regular) change read
  | withinItem here given holds _ ih =>
      intro read
      obtain ⟨rest, entered, -⟩ := ofList_eq_ok_iff.mp read
      obtain ⟨change, read⟩ := exists_read_of_enterItems here given entered
      exact holds.read_ne_ok (ih holds.regular) change read

/-- A document is read for what it gives, however it is spelt, and never if it gives a field
twice. -/
structure Tolerates (dialect : Dialect) (type : RecordType α) : Prop where
  respelt : ∀ {document other}, type.Respells dialect document other → ∀ value,
    type.decode dialect document = .ok value ↔ type.decode dialect other = .ok value
  doubled : ∀ {document}, type.Doubles dialect document → ∀ value,
    type.decode dialect document ≠ .ok value

theorem Regular.tolerates (regular : type.Regular) : type.Tolerates dialect :=
  ⟨fun respelt => respelt.decode_iff regular, fun doubled => doubled.decode_ne_ok regular⟩

end RecordType

end WasmTasks
