import WasmTasks.Proofs.FileTree.Names
import WasmTasks.Proofs.FileTree.Order

/-!
The walk below a directory, as a relation between the directories it is in: what it opens, what it
finds there, and what stops it. It comes to finitely many directories, a scan reports a fault if
and only if the walk meets one, and otherwise it lists the files that the walk finds.
-/

namespace WasmTasks

namespace FileTree

/-- A directory that a walk is in, with the directories around it, the innermost first. -/
structure Visit where
  above : Ancestors
  path : Path
  here : Location
  entries : List (Bytes × Node)

namespace Visit

def ancestors (visit : Visit) : Ancestors :=
  (visit.here, visit.path) :: visit.above

def inner (visit : Visit) (name : Bytes) (entries : List (Bytes × Node)) : Visit :=
  ⟨visit.ancestors, visit.path.child name, visit.here.child name, entries⟩

def linked (visit : Visit) (name : Bytes) (location : Location)
    (entries : List (Bytes × Node)) : Visit :=
  ⟨visit.ancestors, visit.path.child name, location, entries⟩

end Visit

variable {tree : FileTree} {visit next : Visit} {entry : Bytes × Node}

/-- The entry is a directory that the walk goes into, itself or through a link. -/
inductive Opens (tree : FileTree) (visit : Visit) : Bytes × Node → Visit → Prop
  | directory {name : Bytes} {entries : List (Bytes × Node)} :
      (visit.path.child name).spelling.length < longestPath →
      Opens tree visit (name, .directory entries) (visit.inner name entries)
  | link {name target : Bytes} {location : Location} {entries : List (Bytes × Node)} :
      tree.locate (visit.path.child name) = .ok (.directory location entries) →
      (∀ ancestor ∈ visit.ancestors, ancestor.1 ≠ location) →
      Opens tree visit (name, .link target) (visit.linked name location entries)

/-- The entry is a regular file, itself or through a link. -/
inductive Shows (tree : FileTree) (visit : Visit) : Bytes × Node → Path → Prop
  | file {name : Bytes} {content : Bytes} :
      Shows tree visit (name, .file content) (visit.path.child name)
  | link {name target : Bytes} {content : Bytes} :
      tree.locate (visit.path.child name) = .ok (.file content) →
      Shows tree visit (name, .link target) (visit.path.child name)

/-- The entry stops the walk. -/
inductive Obstructs (tree : FileTree) (visit : Visit) : Bytes × Node → ScanFault → Prop
  | unresolved {name target : Bytes} {error : FileError} :
      tree.locate (visit.path.child name) = .error error →
      Obstructs tree visit (name, .link target) (.io (visit.path.child name) error)
  | loop {name target : Bytes} {location known : Location} {ancestor : Path}
      {entries : List (Bytes × Node)} :
      tree.locate (visit.path.child name) = .ok (.directory location entries) →
      visit.ancestors.find? (fun other => other.1 = location) = some (known, ancestor) →
      Obstructs tree visit (name, .link target) (.loop (visit.path.child name) ancestor)
  | tooLong {name : Bytes} {entries : List (Bytes × Node)} :
      longestPath ≤ (visit.path.child name).spelling.length →
      Obstructs tree visit (name, .directory entries) (.io (visit.path.child name) .nameTooLong)

/-- From the one directory the walk goes directly into the other. -/
def GoesInto (tree : FileTree) (visit next : Visit) : Prop :=
  ∃ entry ∈ visit.entries, Opens tree visit entry next

/-- From the one directory the walk comes to the other. -/
def ComesTo (tree : FileTree) : Visit → Visit → Prop :=
  Relation.ReflTransGen (GoesInto tree)

/-! The walk ends: a link goes into a directory it is not inside of yet, and a directory's entries
are smaller than those it stands among. -/

theorem locate_mem_locations {path : Path} {location : Location} {entries : List (Bytes × Node)}
    (located : tree.locate path = .ok (.directory location entries)) : location ∈ tree.locations :=
  mem_locations_of_entriesAt? (entriesAt?_of_locate located)

theorem find?_eq_none_of_fresh {ancestors : Ancestors} {location : Location}
    (fresh : ∀ ancestor ∈ ancestors, ancestor.1 ≠ location) :
    ancestors.find? (fun other => other.1 = location) = none :=
  List.find?_eq_none.mpr fun ancestor member => by simpa using fresh ancestor member

theorem goesInto_wellFounded (tree : FileTree) :
    WellFounded (Function.swap (GoesInto tree)) := by
  let rank (visit : Visit) := (tree.unvisited visit.ancestors, sizeOf visit.entries)
  refine Subrelation.wf (r := InvImage (Prod.Lex (· < ·) (· < ·)) rank) ?_
    (InvImage.wf rank (WellFounded.prod_lex wellFounded_lt wellFounded_lt))
  rintro next visit ⟨entry, member, opens⟩
  cases opens with
  | @directory name entries short =>
      have smaller : sizeOf entries < sizeOf visit.entries := by
        have := List.sizeOf_lt_of_mem member
        simp only [Prod.mk.sizeOf_spec, Node.directory.sizeOf_spec] at this
        omega
      -- only links are compared with the ancestors: below a link upwards, a plain directory can be
      -- one of them again, and then the count of unvisited places stays and the entries get fewer
      rcases Nat.lt_or_eq_of_le (tree.unvisited_cons_le
        (visit.here.child name, visit.path.child name) visit.ancestors) with fewer | same
      · exact Prod.Lex.left _ _ fewer
      · exact Prod.lex_def.mpr (.inr ⟨same, smaller⟩)
  | link located fresh =>
      exact Prod.Lex.left _ _ (unvisited_cons_lt _ (locate_mem_locations located)
        (find?_eq_none_of_fresh fresh))

theorem Opens.unique {other : Visit} (opens : Opens tree visit entry next)
    (again : Opens tree visit entry other) : next = other := by
  cases opens <;> cases again <;> simp_all [Visit.linked]

theorem finite_goesInto (tree : FileTree) (visit : Visit) :
    {next | GoesInto tree visit next}.Finite := by
  have each : {next | GoesInto tree visit next} =
      ⋃ entry ∈ {entry | entry ∈ visit.entries}, {next | Opens tree visit entry next} := by
    ext next
    simp [GoesInto]
  rw [each]
  refine (List.finite_toSet visit.entries).biUnion fun entry _ => Set.Subsingleton.finite ?_
  exact fun next opens other again => opens.unique again

/-- A walk comes to finitely many directories. -/
theorem finite_comesTo (tree : FileTree) (visit : Visit) :
    {later | ComesTo tree visit later}.Finite := by
  induction visit using (goesInto_wellFounded tree).induction with
  | _ visit ih =>
      have split : {later | ComesTo tree visit later} =
          {visit} ∪
            ⋃ next ∈ {next | GoesInto tree visit next}, {later | ComesTo tree next later} := by
        ext later
        simp only [ComesTo, Set.mem_union, Set.mem_singleton_iff, Set.mem_ofPred_eq, Set.mem_iUnion,
          exists_prop]
        rw [Relation.ReflTransGen.cases_head_iff, eq_comm]
      rw [split]
      exact (Set.finite_singleton visit).union ((finite_goesInto tree visit).biUnion ih)

/-! What the walk sees at the entries of the directories it comes to. -/

section Below

variable {α : Type} {sees : Visit → Bytes × Node → α → Prop} {value : α}

/-- At an entry of some directory that the walk comes to, it sees the value. -/
def Below (tree : FileTree) (sees : Visit → Bytes × Node → α → Prop) (visit : Visit)
    (value : α) : Prop :=
  ∃ later, ComesTo tree visit later ∧ ∃ entry ∈ later.entries, sees later entry value

/-- The value is seen at this entry, or below the directory that it opens. -/
def Through (tree : FileTree) (sees : Visit → Bytes × Node → α → Prop) (visit : Visit)
    (entry : Bytes × Node) (value : α) : Prop :=
  sees visit entry value ∨ ∃ next, Opens tree visit entry next ∧ Below tree sees next value

theorem below_iff : Below tree sees visit value ↔
    ∃ entry ∈ visit.entries, Through tree sees visit entry value := by
  constructor
  · rintro ⟨later, path, seen⟩
    rcases path.cases_head with rfl | ⟨next, ⟨entry, member, opens⟩, path⟩
    · obtain ⟨entry, member, seen⟩ := seen
      exact ⟨entry, member, .inl seen⟩
    · exact ⟨entry, member, .inr ⟨next, opens, later, path, seen⟩⟩
  · rintro ⟨entry, member, seen | ⟨next, opens, later, path, seen⟩⟩
    · exact ⟨visit, .refl, entry, member, seen⟩
    · exact ⟨later, .head ⟨entry, member, opens⟩ path, seen⟩

theorem through_of_opens (opens : Opens tree visit entry next)
    (unseen : ¬ sees visit entry value) :
    Through tree sees visit entry value ↔ Below tree sees next value := by
  constructor
  · rintro (seen | ⟨other, again, below⟩)
    · exact absurd seen unseen
    · exact opens.unique again ▸ below
  · exact fun below => .inr ⟨next, opens, below⟩

theorem through_of_closed (closed : ∀ next, ¬ Opens tree visit entry next) :
    Through tree sees visit entry value ↔ sees visit entry value :=
  ⟨fun through => through.elim id fun ⟨next, opens, _⟩ => absurd opens (closed next), .inl⟩

end Below

theorem Opens.not_shows {path : Path} (opens : Opens tree visit entry next) :
    ¬ Shows tree visit entry path := by
  intro found
  cases opens <;> cases found
  simp_all

theorem Opens.not_obstructs {fault : ScanFault} (opens : Opens tree visit entry next) :
    ¬ Obstructs tree visit entry fault := by
  intro stopped
  cases opens with
  | directory short =>
      cases stopped with
      | tooLong long => omega
  | link located fresh =>
      cases stopped with
      | unresolved unresolved => simp [located] at unresolved
      | loop again known =>
          rw [located] at again
          cases again
          rw [find?_eq_none_of_fresh fresh] at known
          cases known

/-! What a scan reports. -/

/-- The report is about one of the faults, or else there is no fault and it lists the files. -/
def Reports (report : Except ScanFault (List Path)) (faults : ScanFault → Prop)
    (files : Path → Prop) : Prop :=
  match report with
  | .error fault => faults fault
  | .ok paths => (∀ fault, ¬ faults fault) ∧ ∀ path, path ∈ paths ↔ files path

theorem Reports.append {first second : Except ScanFault (List Path)}
    {faults others : ScanFault → Prop} {files more : Path → Prop}
    (front : Reports first faults files) (back : Reports second others more) :
    Reports (append first second) (fun fault => faults fault ∨ others fault)
      (fun path => files path ∨ more path) := by
  cases first with
  | error fault => exact .inl front
  | ok found =>
      cases second with
      | error fault => exact .inr back
      | ok rest =>
          refine ⟨fun fault met => met.elim (front.1 fault) (back.1 fault), fun path => ?_⟩
          rw [List.mem_append, front.2, back.2]

theorem Reports.congr {report : Except ScanFault (List Path)} {faults others : ScanFault → Prop}
    {files more : Path → Prop} (reports : Reports report faults files)
    (sameFaults : ∀ fault, faults fault ↔ others fault)
    (sameFiles : ∀ path, files path ↔ more path) :
    Reports report others more := by
  have faulty : faults = others := funext fun fault => propext (sameFaults fault)
  have listed : files = more := funext fun path => propext (sameFiles path)
  exact faulty ▸ listed ▸ reports

def Visit.scan (tree : FileTree) (visit : Visit) (entries : List (Bytes × Node)) :
    Except ScanFault (List Path) :=
  tree.walk visit.ancestors visit.path visit.here entries

theorem append_nil (report : Except ScanFault (List Path)) : append report (.ok []) = report := by
  cases report with
  | error fault => rfl
  | ok paths => exact congrArg Except.ok (List.append_nil paths)

theorem scan_nil : visit.scan tree [] = .ok [] := by
  rw [Visit.scan, walk]

theorem scan_cons (entry : Bytes × Node) (entries : List (Bytes × Node)) :
    visit.scan tree (entry :: entries) =
      append (visit.scan tree [entry]) (visit.scan tree entries) := by
  obtain ⟨name, node⟩ := entry
  cases node <;> simp only [Visit.scan, walk, append_nil]

theorem scan_directory (name : Bytes) (entries : List (Bytes × Node)) :
    visit.scan tree [(name, .directory entries)] =
      if longestPath ≤ (visit.path.child name).spelling.length then
        .error (.io (visit.path.child name) .nameTooLong)
      else (visit.inner name entries).scan tree entries := by
  rw [Visit.scan, walk, walk, append_nil]
  rfl

theorem scan_link (name target : Bytes) :
    visit.scan tree [(name, .link target)] =
      match tree.locate (visit.path.child name) with
      | .error error => .error (.io (visit.path.child name) error)
      | .ok (.file _) => .ok [visit.path.child name]
      | .ok (.pipe _) => .ok []
      | .ok (.directory location entries) =>
          match visit.ancestors.find? fun other => other.1 = location with
          | some (_, ancestor) => .error (.loop (visit.path.child name) ancestor)
          | none => (visit.linked name location entries).scan tree entries := by
  rw [Visit.scan, walk, walk, append_nil]
  split <;> simp only [*]
  split <;> simp only [*]
  rfl

theorem scan_of_opens (opens : Opens tree visit entry next) :
    visit.scan tree [entry] = next.scan tree next.entries := by
  cases opens with
  | directory short =>
      rw [scan_directory, if_neg (Nat.not_le.mpr short)]
      rfl
  | link located fresh =>
      rw [scan_link, located]
      simp only [find?_eq_none_of_fresh fresh]
      rfl

theorem scan_of_shows {path : Path} (found : Shows tree visit entry path) :
    visit.scan tree [entry] = .ok [path] := by
  cases found with
  | file =>
      rw [Visit.scan, walk, walk, append_nil]
  | link located =>
      rw [scan_link, located]

theorem scan_of_obstructs {fault : ScanFault} (stopped : Obstructs tree visit entry fault) :
    visit.scan tree [entry] = .error fault := by
  cases stopped with
  | unresolved unresolved => rw [scan_link, unresolved]
  | loop located known =>
      rw [scan_link, located]
      simp only [known]
  | tooLong long => rw [scan_directory, if_pos long]

/-- An entry that is none of this, a pipe itself or through a link, is passed over. -/
theorem entry_cases (tree : FileTree) (visit : Visit) (entry : Bytes × Node) :
    (∃ next, Opens tree visit entry next) ∨ (∃ path, Shows tree visit entry path) ∨
      (∃ fault, Obstructs tree visit entry fault) ∨
      visit.scan tree [entry] = .ok [] ∧ (∀ next, ¬ Opens tree visit entry next) := by
  obtain ⟨name, node⟩ := entry
  cases node with
  | file content => exact .inr (.inl ⟨_, .file⟩)
  | pipe content =>
      refine .inr (.inr (.inr ⟨?_, nofun⟩))
      rw [Visit.scan, walk, walk, append_nil]
  | directory entries =>
      rcases Nat.lt_or_ge (visit.path.child name).spelling.length longestPath with
        short | long
      · exact .inl ⟨_, .directory short⟩
      · exact .inr (.inr (.inl ⟨_, .tooLong long⟩))
  | link target =>
      cases located : tree.locate (visit.path.child name) with
      | error error => exact .inr (.inr (.inl ⟨_, .unresolved located⟩))
      | ok found =>
          cases found with
          | file content => exact .inr (.inl ⟨_, .link located⟩)
          | pipe content =>
              refine .inr (.inr (.inr ⟨by rw [scan_link, located], ?_⟩))
              intro next opens
              cases opens with
              | link directory _ => rw [located] at directory; cases directory
          | directory location entries =>
              cases known : visit.ancestors.find? fun other => other.1 = location with
              | none =>
                  refine .inl ⟨_, .link located fun ancestor member => ?_⟩
                  simpa using List.find?_eq_none.mp known ancestor member
              | some ancestor => exact .inr (.inr (.inl ⟨_, .loop located known⟩))

/-- A scan from this directory on reports what the walk sees from there on. -/
def Truthful (tree : FileTree) (visit : Visit) : Prop :=
  Reports (visit.scan tree visit.entries) (Below tree (Obstructs tree) visit)
    (Below tree (Shows tree) visit)

theorem reports_entry (inner : ∀ next, GoesInto tree visit next → Truthful tree next)
    (member : entry ∈ visit.entries) :
    Reports (visit.scan tree [entry]) (Through tree (Obstructs tree) visit entry)
      (Through tree (Shows tree) visit entry) := by
  rcases entry_cases tree visit entry with
    ⟨next, opens⟩ | ⟨path, found⟩ | ⟨fault, stopped⟩ | ⟨passed, closed⟩
  · rw [scan_of_opens opens]
    exact (inner next ⟨entry, member, opens⟩).congr
      (fun fault => (through_of_opens opens opens.not_obstructs).symm)
      (fun path => (through_of_opens opens opens.not_shows).symm)
  · have closed : ∀ next, ¬ Opens tree visit entry next := fun next opens => opens.not_shows found
    rw [scan_of_shows found]
    refine ⟨fun fault met => ?_, fun other => ?_⟩
    · have stopped := scan_of_obstructs ((through_of_closed closed).mp met)
      rw [scan_of_shows found] at stopped
      cases stopped
    · rw [through_of_closed closed, List.mem_singleton]
      constructor
      · exact fun same => same ▸ found
      · intro also
        have listed := scan_of_shows also
        rw [scan_of_shows found] at listed
        cases listed
        rfl
  · -- what stops the walk at the entry is the whole report
    rw [scan_of_obstructs stopped]
    exact .inl stopped
  · rw [passed]
    refine ⟨fun fault met => ?_, fun path => ?_⟩
    · have stopped := scan_of_obstructs ((through_of_closed closed).mp met)
      rw [passed] at stopped
      cases stopped
    · rw [through_of_closed closed, iff_false_left List.not_mem_nil]
      intro found
      have listed := scan_of_shows found
      rw [passed] at listed
      cases listed

theorem reports_entries (inner : ∀ next, GoesInto tree visit next → Truthful tree next)
    {entries : List (Bytes × Node)} (members : entries ⊆ visit.entries) :
    Reports (visit.scan tree entries)
      (fun fault => ∃ entry ∈ entries, Through tree (Obstructs tree) visit entry fault)
      (fun path => ∃ entry ∈ entries, Through tree (Shows tree) visit entry path) := by
  induction entries with
  | nil =>
      rw [scan_nil]
      simp [Reports]
  | cons entry rest ih =>
      obtain ⟨member, members⟩ := List.cons_subset.mp members
      rw [scan_cons]
      exact ((reports_entry inner member).append (ih members)).congr (by simp) (by simp)

theorem truthful (tree : FileTree) (visit : Visit) : Truthful tree visit := by
  -- a report on a directory takes in those on the directories that the walk goes into from it
  induction visit using (goesInto_wellFounded tree).induction with
  | _ visit ih =>
      exact (reports_entries ih (List.Subset.refl _)).congr (fun _ => below_iff.symm)
        fun _ => below_iff.symm

end FileTree

end WasmTasks
