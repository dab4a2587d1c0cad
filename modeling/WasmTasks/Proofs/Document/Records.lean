import Mathlib.Data.List.Nodup
import Mathlib.Data.List.Pairwise
import WasmTasks.Document.Decode

/-!
What reading a record from a table owes to the order of its fields: nothing, as long as each name
belongs to one field and different fields change different parts of the record.
-/

namespace WasmTasks

variable {α β γ : Type}

theorem Except.map_eq_ok {ε : Type} {result : Except ε α} {change : α → β} {value : β} :
    result.map change = .ok value ↔ ∃ inner, result = .ok inner ∧ change inner = value := by
  cases result <;> simp [Except.map]

theorem Except.bind_eq_ok {ε : Type} {result : Except ε α} {next : α → Except ε β} {value : β} :
    result >>= next = .ok value ↔ ∃ inner, result = .ok inner ∧ next inner = .ok value := by
  cases result <;> simp [bind, Except.bind]

namespace Document

mutual

/-- The fields of a document's tables in other orders, at any depth of tables within tables. -/
inductive Reorders : Document → Document → Prop
  | same (document : Document) : Reorders document document
  | table {fields changed others : List (String × Document)} :
      ReordersFields fields changed → changed.Perm others → Reorders (.table fields) (.table others)

inductive ReordersFields : List (String × Document) → List (String × Document) → Prop
  | nil : ReordersFields [] []
  | cons {name : String} {document other : Document} {fields changed : List (String × Document)} :
      Reorders document other → ReordersFields fields changed →
      ReordersFields ((name, document) :: fields) ((name, other) :: changed)

end

theorem ReordersFields.refl : ∀ fields, ReordersFields fields fields
  | [] => .nil
  | (_, document) :: fields => .cons (.same document) (.refl fields)

theorem Reorders.eq_of_scalar {document other : Document}
    (scalar : ∀ fields, document ≠ .table fields) (reordered : document.Reorders other) :
    other = document := by
  cases reordered with
  | same => rfl
  | table => exact absurd rfl (scalar _)

end Document

/-- The document is read as this value, in whatever order its tables give their fields. -/
def Decoder.ReadsAs (decode : Decoder α) (document : Document) (value : α) : Prop :=
  ∀ other, document.Reorders other → decode other = .ok value

theorem Decoder.readsAs_of_scalar {decode : Decoder α} {document : Document} {value : α}
    (scalar : ∀ fields, document ≠ .table fields) (reads : decode document = .ok value) :
    decode.ReadsAs document value := fun _ reordered =>
  reordered.eq_of_scalar scalar ▸ reads

namespace Field

def names (field : Field α) : List String := field.name :: field.aliases

theorem answersTo_iff {field : Field α} {name : String} :
    field.answersTo name = true ↔ name ∈ field.names := by
  simp [answersTo, names, eq_comm (a := name)]

instance : Std.Symm fun first second : Field α => first.names.Disjoint second.names where
  symm _ _ apart := fun _ right left => apart left right

/-- What the two fields read can be put into a record in either order. -/
def Commutes (first second : Field α) : Prop :=
  ∀ {document other : Document} {change further : α → α},
    first.read document = .ok change → second.read other = .ok further →
    ∀ value, further (change value) = change (further value)

instance : Std.Symm (Commutes (α := α)) where
  symm _ _ commutes _ _ _ _ read further value := (commutes further read value).symm

theorem commutes_of_sets {name other : String} {aliases others : List String}
    {required demanded : Bool} {decode : Decoder β} {parse : Decoder γ} {set : β → α → α}
    {put : γ → α → α} (apart : ∀ a b value, put b (set a value) = set a (put b value)) :
    Commutes ⟨name, aliases, required, fun document => (decode document).map set⟩
      ⟨other, others, demanded, fun document => (parse document).map put⟩ := by
  intro document other change further read reads value
  obtain ⟨a, -, rfl⟩ := Except.map_eq_ok.mp read
  obtain ⟨b, -, rfl⟩ := Except.map_eq_ok.mp reads
  exact apart a b value

def ReadsAs (field : Field α) (document : Document) (change : α → α) : Prop :=
  ∀ other, document.Reorders other → field.read other = .ok change

section

variable {name : String} {aliases : List String} {decode : Decoder β} {set : β → α → α}
  {document : Document} {value : β}

theorem readsAs_optional (reads : decode.ReadsAs document value) :
    (optional name aliases decode set).ReadsAs document (set value) := fun other reordered => by
  simp [optional, reads other reordered, Except.map]

theorem readsAs_mandatory (reads : decode.ReadsAs document value) :
    (mandatory name decode set).ReadsAs document (set value) := fun other reordered => by
  simp [mandatory, reads other reordered, Except.map]

end

end Field

namespace RecordType

/-- Each name belongs to one field, and each field has a part of the record to itself. -/
structure Regular (type : RecordType α) : Prop where
  distinct : (type.fields.flatMap Field.names).Nodup
  independent : type.fields.Pairwise Field.Commutes

structure Draft.Like (draft other : Draft α) : Prop where
  value : draft.value = other.value
  given : draft.given.Perm other.given

variable {type : RecordType α} {draft later other : Draft α}
  {entries others : List (String × Document)} {value : α}

theorem Draft.Like.rfl : draft.Like draft := ⟨by rfl, .refl _⟩

theorem Draft.Like.trans {last : Draft α} (like : draft.Like later) (next : later.Like last) :
    draft.Like last :=
  ⟨like.value.trans next.value, like.given.trans next.given⟩

/-- An entry is ignored, or changes the one field it names, which was not given before. -/
theorem enter_eq_ok_iff {entry : String × Document} :
    type.enter draft entry = .ok later ↔
      (type.fields.find? (·.answersTo entry.1) = none ∧ later = draft) ∨
      ∃ field change, type.fields.find? (·.answersTo entry.1) = some field ∧
        field.name ∉ draft.given ∧ field.read entry.2 = .ok change ∧
        later = ⟨change draft.value, field.name :: draft.given⟩ := by
  unfold enter
  cases type.fields.find? (·.answersTo entry.1) with
  | none => simp [eq_comm]
  | some field =>
      by_cases given : field.name ∈ draft.given
      · simp [given]
      · simp only [given, List.contains_eq_mem, decide_false, Bool.false_eq_true, if_false,
          Except.map_eq_ok]
        simp [given, eq_comm (a := later)]

theorem enterAll_cons {entry : String × Document} :
    type.enterAll draft (entry :: entries) = .ok later ↔
      ∃ next, type.enter draft entry = .ok next ∧ type.enterAll next entries = .ok later :=
  Except.bind_eq_ok

theorem enter_like {entry : String × Document} (like : draft.Like other)
    (entered : type.enter draft entry = .ok later) :
    ∃ last, type.enter other entry = .ok last ∧ later.Like last := by
  rcases enter_eq_ok_iff.mp entered with ⟨unknown, rfl⟩ | ⟨field, change, found, new, read, rfl⟩
  · exact ⟨other, enter_eq_ok_iff.mpr (.inl ⟨unknown, rfl⟩), like⟩
  · have absent : field.name ∉ other.given := fun given => new (like.given.mem_iff.mpr given)
    exact ⟨_, enter_eq_ok_iff.mpr (.inr ⟨field, change, found, absent, read, rfl⟩),
      congrArg change like.value, like.given.cons _⟩

theorem enterAll_like (like : draft.Like other)
    (entered : type.enterAll draft entries = .ok later) :
    ∃ last, type.enterAll other entries = .ok last ∧ later.Like last := by
  induction entries generalizing draft other with
  | nil => cases entered; exact ⟨other, rfl, like⟩
  | cons entry entries ih =>
      obtain ⟨next, first, rest⟩ := enterAll_cons.mp entered
      obtain ⟨step, stepped, same⟩ := enter_like like first
      obtain ⟨last, run, close⟩ := ih same rest
      exact ⟨last, enterAll_cons.mpr ⟨step, stepped, run⟩, close⟩

/-- Two entries can be taken in either order: they are about different fields, or one would be
refused as a duplicate. -/
theorem enter_swap (regular : type.Regular) {first second : String × Document} {next : Draft α}
    (entered : type.enter draft first = .ok next) (after : type.enter next second = .ok later) :
    ∃ between last, type.enter draft second = .ok between ∧
      type.enter between first = .ok last ∧ later.Like last := by
  rcases enter_eq_ok_iff.mp entered with ⟨unknown, rfl⟩ | ⟨field, change, found, new, read, rfl⟩
  · exact ⟨later, later, after, enter_eq_ok_iff.mpr (.inl ⟨unknown, rfl⟩), .rfl⟩
  rcases enter_eq_ok_iff.mp after with ⟨unknown, rfl⟩ | ⟨next, further, found', new', read', rfl⟩
  · exact ⟨draft, _, enter_eq_ok_iff.mpr (.inl ⟨unknown, rfl⟩), entered, .rfl⟩
  -- a field that is given twice is refused, so the second entry is for another field
  obtain ⟨apart, fresh⟩ : next.name ≠ field.name ∧ next.name ∉ draft.given := by
    simpa using new'
  have differ : field ≠ next := fun same => apart (by rw [same])
  have commutes : field.Commutes next := regular.independent.forall
    (List.mem_of_find?_eq_some found) (List.mem_of_find?_eq_some found') differ
  refine ⟨⟨further draft.value, next.name :: draft.given⟩,
    ⟨change (further draft.value), field.name :: next.name :: draft.given⟩,
    enter_eq_ok_iff.mpr (.inr ⟨next, further, found', fresh, read', rfl⟩),
    enter_eq_ok_iff.mpr (.inr ⟨field, change, found, ?_, read, rfl⟩),
    commutes read read' draft.value, .swap ..⟩
  simpa using ⟨apart.symm, new⟩

theorem enterAll_perm (regular : type.Regular) (order : entries.Perm others) :
    ∀ {draft later}, type.enterAll draft entries = .ok later →
      ∃ last, type.enterAll draft others = .ok last ∧ later.Like last := by
  induction order with
  | nil => exact fun entered => ⟨_, entered, .rfl⟩
  | cons entry order ih =>
      intro draft later entered
      obtain ⟨next, first, rest⟩ := enterAll_cons.mp entered
      obtain ⟨last, run, like⟩ := ih rest
      exact ⟨last, enterAll_cons.mpr ⟨next, first, run⟩, like⟩
  | swap first second rest =>
      intro draft later entered
      obtain ⟨next, one, entered⟩ := enterAll_cons.mp entered
      obtain ⟨after, two, entered⟩ := enterAll_cons.mp entered
      obtain ⟨between, reached, two, one, like⟩ := enter_swap regular one two
      obtain ⟨last, run, same⟩ := enterAll_like like entered
      exact ⟨last, enterAll_cons.mpr ⟨between, two, enterAll_cons.mpr ⟨reached, one, run⟩⟩, same⟩
  | trans order further ih step =>
      intro draft later entered
      obtain ⟨middle, run, like⟩ := ih entered
      obtain ⟨last, run, next⟩ := step run
      exact ⟨last, run, like.trans next⟩

theorem close_eq_ok_iff :
    type.close draft = .ok value ↔
      (∀ field ∈ type.fields, field.required = true → field.name ∈ draft.given) ∧
        draft.value = value := by
  unfold close
  cases missed : type.fields.find?
      fun field => field.required && !draft.given.contains field.name with
  | none => simpa using fun _ => by simpa using missed
  | some field =>
      have := List.mem_of_find?_eq_some missed
      have := List.find?_some missed
      simp only [reduceCtorEq, false_iff]
      grind

theorem ofTable_eq_ok_iff :
    type.ofTable entries = .ok value ↔
      ∃ draft, type.enterAll ⟨type.initial, []⟩ entries = .ok draft ∧
        type.close draft = .ok value :=
  Except.bind_eq_ok

theorem ofTable_perm (regular : type.Regular) (order : entries.Perm others)
    (read : type.ofTable entries = .ok value) : type.ofTable others = .ok value := by
  obtain ⟨draft, entered, closed⟩ := ofTable_eq_ok_iff.mp read
  obtain ⟨last, run, like⟩ := enterAll_perm regular order entered
  obtain ⟨complete, rfl⟩ := close_eq_ok_iff.mp closed
  refine ofTable_eq_ok_iff.mpr ⟨last, run, close_eq_ok_iff.mpr ⟨?_, like.value.symm⟩⟩
  exact fun field member required => like.given.mem_iff.mp (complete field member required)

theorem Regular.apart (regular : type.Regular) :
    type.fields.Pairwise fun first second => first.names.Disjoint second.names :=
  (List.nodup_flatMap.mp regular.distinct).2

theorem Regular.nodup_name (regular : type.Regular) : (type.fields.map (·.name)).Nodup :=
  List.pairwise_map.mpr <| regular.apart.imp fun disjoint same =>
    disjoint List.mem_cons_self (by simp [Field.names, same])

theorem Regular.find?_answersTo (regular : type.Regular) {field : Field α} {name : String}
    (member : field ∈ type.fields) (answers : field.answersTo name = true) :
    type.fields.find? (·.answersTo name) = some field := by
  cases found : type.fields.find? (·.answersTo name) with
  | none => exact absurd answers (List.find?_eq_none.mp found field member)
  | some first =>
      by_contra differ
      have differ : first ≠ field := fun same => differ (congrArg some same)
      have disjoint := regular.apart.forall (List.mem_of_find?_eq_some found) member differ
      exact disjoint (Field.answersTo_iff.mp (by simpa using List.find?_some found))
        (Field.answersTo_iff.mp answers)

/-- The entries give the fields one by one, under any of their names, and lead from one value of
the record to another. -/
inductive Gives : List (Field α) → List (String × Document) → α → α → Prop
  | nil {value : α} : Gives [] [] value value
  | cons {field : Field α} {fields : List (Field α)} {name : String} {document : Document}
      {entries : List (String × Document)} {change : α → α} {value last : α} :
      field.answersTo name = true → field.ReadsAs document change →
      Gives fields entries (change value) last →
      Gives (field :: fields) ((name, document) :: entries) value last

theorem fresh_tail {field : Field α} {fields : List (Field α)} {given : List String}
    (distinct : ((field :: fields).map (·.name)).Nodup)
    (fresh : ∀ next ∈ field :: fields, next.name ∉ given) :
    ∀ next ∈ fields, next.name ∉ field.name :: given := by
  intro next member again
  rcases List.mem_cons.mp again with same | before
  · exact (List.nodup_cons.mp distinct).1 (List.mem_map.mpr ⟨next, member, same⟩)
  · exact fresh next (.tail _ member) before

/-- The fields given so far are those before `fields`, so none of `fields` is a duplicate. -/
theorem enterAll_of_gives (regular : type.Regular) {fields : List (Field α)} {last : α}
    (gives : Gives fields entries value last) :
    ∀ {others given}, Document.ReordersFields entries others →
      (∀ field ∈ fields, field ∈ type.fields) → (fields.map (·.name)).Nodup →
      (∀ field ∈ fields, field.name ∉ given) →
      type.enterAll ⟨value, given⟩ others = .ok ⟨last, (fields.map (·.name)).reverse ++ given⟩ := by
  induction gives with
  | nil => intro others given reordered _ _ _; cases reordered; rfl
  | @cons field fields name document entries change value last answers reads _ ih =>
      intro others given reordered members distinct fresh
      cases reordered with
      | cons swapped rest =>
          have entered : type.enter ⟨value, given⟩ (name, _) =
              .ok ⟨change value, field.name :: given⟩ :=
            enter_eq_ok_iff.mpr (.inr ⟨field, change,
              regular.find?_answersTo (members field List.mem_cons_self) answers,
              fresh field List.mem_cons_self, reads _ swapped, rfl⟩)
          have run := ih rest (fun next member => members next (.tail _ member))
            (List.nodup_cons.mp distinct).2 (fresh_tail distinct fresh)
          simpa using enterAll_cons.mpr ⟨_, entered, run⟩

theorem readsAs_of_gives (regular : type.Regular) (dialect : Dialect)
    (gives : Gives type.fields entries type.initial value) :
    Decoder.ReadsAs (type.decode dialect) (.table entries) value := by
  have reads : ∀ others, Document.ReordersFields entries others →
      type.ofTable others = .ok value := by
    intro others reordered
    have fresh : ∀ field ∈ type.fields, field.name ∉ ([] : List String) :=
      fun _ _ => List.not_mem_nil
    have run := enterAll_of_gives regular gives reordered (fun _ member => member)
      regular.nodup_name fresh
    refine ofTable_eq_ok_iff.mpr ⟨_, run, close_eq_ok_iff.mpr ⟨fun field member _ => ?_, rfl⟩⟩
    simpa using ⟨field, member, rfl⟩
  intro other reordered
  cases reordered with
  | same => exact reads entries (.refl entries)
  | table changed order => exact ofTable_perm regular order (reads _ changed)

end RecordType

end WasmTasks
