import WasmTasks.Proofs.FileTree.Proper
import WasmTasks.Proofs.FileTree.Walk

/-!
The modules below a directory. A scan fails if and only if it is not of a directory or the walk is
stopped; otherwise it lists the module files that the walk finds, each once, in path order.
-/

namespace WasmTasks

namespace FileTree

open WasmTasks.Path Text

variable {tree : FileTree} {visit next later : Visit} {entry : Bytes × Node} {path : Path}

/-! A walk knows where it is, and the components of a path tell which entries led to it. -/

structure Visit.Sound (tree : FileTree) (visit : Visit) : Prop where
  placed : tree.entriesAt? visit.here = some visit.entries
  path : visit.path.spelling ≠ []

theorem Visit.Sound.entryName (proper : tree.Proper) (sound : visit.Sound tree)
    (member : entry ∈ visit.entries) : EntryName entry.1 :=
  ((properEntries_iff.mp (proper.at sound.placed)).2 entry member).1

theorem Visit.Sound.nodup_names (proper : tree.Proper) (sound : visit.Sound tree) :
    (visit.entries.map Prod.fst).Nodup :=
  (properEntries_iff.mp (proper.at sound.placed)).1

theorem Opens.sound (proper : tree.Proper) (sound : visit.Sound tree)
    (member : entry ∈ visit.entries) (opens : Opens tree visit entry next) :
    next.Sound tree := by
  have named := sound.entryName proper member
  cases opens with
  | directory short =>
      have held := lookup_of_mem (sound.nodup_names proper) member
      exact ⟨entriesBelow?_concat sound.placed held, child_spelling_ne_empty _ named⟩
  | link located fresh =>
      exact ⟨entriesAt?_of_locate located, child_spelling_ne_empty _ named⟩

theorem Opens.path_eq (opens : Opens tree visit entry next) :
    next.path = visit.path.child entry.1 := by
  cases opens <;> rfl

theorem Shows.path_eq (found : Shows tree visit entry path) : path = visit.path.child entry.1 := by
  cases found <;> rfl

theorem ComesTo.sound (proper : tree.Proper) (comes : ComesTo tree visit later)
    (sound : visit.Sound tree) : later.Sound tree := by
  induction comes with
  | refl => exact sound
  | tail _ goes ih =>
      obtain ⟨entry, member, opens⟩ := goes
      exact opens.sound proper ih member

theorem ComesTo.key_prefix (proper : tree.Proper) (comes : ComesTo tree visit later)
    (sound : visit.Sound tree) : visit.path.key <+: later.path.key := by
  induction comes with
  | refl => exact List.prefix_refl _
  | @tail later next before goes ih =>
      obtain ⟨entry, member, opens⟩ := goes
      have there : later.Sound tree := ComesTo.sound proper before sound
      rw [opens.path_eq, key_child there.path (there.entryName proper member)]
      exact ih.trans (List.prefix_append _ _)

theorem Below.key_prefix (proper : tree.Proper) (sound : visit.Sound tree)
    (found : Below tree (Shows tree) visit path) : visit.path.key <+: path.key := by
  obtain ⟨later, comes, entry, member, shown⟩ := found
  have there := comes.sound proper sound
  rw [shown.path_eq, key_child there.path (there.entryName proper member)]
  exact (comes.key_prefix proper sound).trans (List.prefix_append _ _)

theorem Through.key_prefix (proper : tree.Proper) (sound : visit.Sound tree)
    (member : entry ∈ visit.entries) (through : Through tree (Shows tree) visit entry path) :
    visit.path.key ++ [.name entry.1] <+: path.key := by
  rw [← key_child sound.path (sound.entryName proper member)]
  rcases through with shown | ⟨next, opens, found⟩
  · rw [shown.path_eq]
  · rw [← opens.path_eq]
    exact found.key_prefix proper (opens.sound proper sound member)

theorem Through.entry_unique (proper : tree.Proper) (sound : visit.Sound tree)
    {other : Bytes × Node} {another : Path} (member : entry ∈ visit.entries)
    (held : other ∈ visit.entries) (through : Through tree (Shows tree) visit entry path)
    (again : Through tree (Shows tree) visit other another) (same : path.key = another.key) :
    entry.1 = other.1 := by
  have left := through.key_prefix proper sound member
  have right := again.key_prefix proper sound held
  rw [same] at left
  have equal := List.prefix_of_prefix_length_le left right (by simp)
  simpa using equal

theorem append_eq_ok {first second : Except ScanFault (List Path)} {paths : List Path} :
    append first second = .ok paths ↔
      ∃ found others, first = .ok found ∧ second = .ok others ∧ found ++ others = paths := by
  cases first <;> cases second <;> simp [append, bind, Except.bind, pure, Except.pure]

theorem nodup_scan_entry (inner : ∀ next, GoesInto tree visit next → ∀ paths,
      next.scan tree next.entries = .ok paths → (paths.map Path.key).Nodup)
    (member : entry ∈ visit.entries) {paths : List Path}
    (scanned : visit.scan tree [entry] = .ok paths) : (paths.map Path.key).Nodup := by
  rcases entry_cases tree visit entry with
    ⟨next, opens⟩ | ⟨path, found⟩ | ⟨fault, stopped⟩ | ⟨passed, _⟩
  · rw [scan_of_opens opens] at scanned
    exact inner next ⟨entry, member, opens⟩ paths scanned
  · rw [scan_of_shows found] at scanned
    cases scanned
    exact List.nodup_singleton _
  · rw [scan_of_obstructs stopped] at scanned
    cases scanned
  · rw [passed] at scanned
    cases scanned
    exact List.nodup_nil

theorem nodup_scan_entries (proper : tree.Proper) (sound : visit.Sound tree)
    (inner : ∀ next, GoesInto tree visit next → ∀ paths,
      next.scan tree next.entries = .ok paths → (paths.map Path.key).Nodup)
    {entries : List (Bytes × Node)} (among : entries.Sublist visit.entries) {paths : List Path}
    (scanned : visit.scan tree entries = .ok paths) : (paths.map Path.key).Nodup := by
  have truth : ∀ next, GoesInto tree visit next → Truthful tree next :=
    fun next _ => truthful tree next
  induction entries generalizing paths with
  | nil =>
      rw [scan_nil] at scanned
      cases scanned
      exact List.nodup_nil
  | cons entry rest ih =>
      have member : entry ∈ visit.entries := among.subset List.mem_cons_self
      have later : rest.Sublist visit.entries := (List.sublist_cons_self entry rest).trans among
      rw [scan_cons, append_eq_ok] at scanned
      obtain ⟨found, others, first, second, rfl⟩ := scanned
      rw [List.map_append, List.nodup_append]
      refine ⟨nodup_scan_entry inner member first, ih later second, ?_⟩
      rintro _ here _ there rfl
      obtain ⟨path, listed, same⟩ := List.mem_map.mp here
      obtain ⟨another, also, equal⟩ := List.mem_map.mp there
      -- what is found through different entries differs in the component after this directory's
      have front := reports_entry truth member
      rw [first] at front
      have back := reports_entries truth later.subset
      rw [second] at back
      obtain ⟨other, held, again⟩ := (back.2 another).mp also
      have name := Through.entry_unique proper sound member (later.subset held)
        ((front.2 path).mp listed) again (same.trans equal.symm)
      have distinct := (sound.nodup_names proper).sublist (among.map Prod.fst)
      exact (List.nodup_cons.mp distinct).1 (List.mem_map.mpr ⟨other, held, name.symm⟩)

theorem nodup_scan (proper : tree.Proper) (visit : Visit) (sound : visit.Sound tree)
    {paths : List Path} (scanned : visit.scan tree visit.entries = .ok paths) :
    (paths.map Path.key).Nodup := by
  induction visit using (goesInto_wellFounded tree).induction generalizing paths with
  | _ visit ih =>
      have inner : ∀ next, GoesInto tree visit next → ∀ paths,
          next.scan tree next.entries = .ok paths → (paths.map Path.key).Nodup := by
        intro next goes paths
        obtain ⟨entry, member, opens⟩ := id goes
        exact ih next goes (opens.sound proper sound member)
      exact nodup_scan_entries proper sound inner (List.Sublist.refl _) scanned

theorem pairwise_less_mergeSort {paths : List Path} (distinct : (paths.map Path.key).Nodup) :
    (paths.mergeSort fun p q => !q.less p).Pairwise
      fun earlier later => earlier.less later = true := by
  have apart : (paths.mergeSort fun p q => !q.less p).Pairwise
      fun earlier later => earlier.key ≠ later.key :=
    List.pairwise_map.mp (((List.mergeSort_perm paths _).map Path.key).nodup_iff.mpr distinct)
  refine ((ordered_mergeSort paths).and apart).imp ?_
  rintro earlier later ⟨ordered, differ⟩
  rw [less_iff_lt] at ordered ⊢
  exact lt_of_le_of_ne (not_lt.mp ordered) differ

/-! The walk below a directory. -/

def Visits (tree : FileTree) (dir : Path) (visit : Visit) : Prop :=
  ∃ location entries, tree.locate dir = .ok (.directory location entries) ∧
    ComesTo tree ⟨[], dir, location, entries⟩ visit

section Located

variable {dir : Path} {location : Location} {entries : List (Bytes × Node)}

theorem visits_iff (located : tree.locate dir = .ok (.directory location entries)) :
    tree.Visits dir visit ↔ ComesTo tree ⟨[], dir, location, entries⟩ visit := by
  refine ⟨?_, fun comes => ⟨location, entries, located, comes⟩⟩
  rintro ⟨other, others, again, comes⟩
  rw [located] at again
  cases again
  exact comes

theorem exists_visits_iff {α : Type} {sees : Visit → Bytes × Node → α → Prop} {value : α}
    (located : tree.locate dir = .ok (.directory location entries)) :
    (∃ visit, tree.Visits dir visit ∧ ∃ entry ∈ visit.entries, sees visit entry value) ↔
      Below tree sees ⟨[], dir, location, entries⟩ value := by
  simp only [visits_iff located, Below]

theorem finite_visits (tree : FileTree) (dir : Path) : {visit | tree.Visits dir visit}.Finite := by
  by_cases located : ∃ location entries, tree.locate dir = .ok (.directory location entries)
  · obtain ⟨location, entries, located⟩ := located
    simpa only [visits_iff located] using finite_comesTo tree ⟨[], dir, location, entries⟩
  · refine Set.finite_empty.subset ?_
    rintro visit ⟨location, entries, found, _⟩
    exact located ⟨location, entries, found⟩

theorem isDirectory_iff : tree.isDirectory dir = true ↔
    ∃ location entries, tree.locate dir = .ok (.directory location entries) := by
  unfold isDirectory
  split
  · rename_i location entries located
    simp [located]
  · rename_i other
    simpa using fun location entries located => other location entries located

theorem discover_of_refused (refused : ¬ tree.isDirectory dir) :
    tree.discover dir = .error (.configuration (.notADirectory dir)) := by
  rw [isDirectory_iff] at refused
  unfold discover
  split
  · rename_i location entries located
    exact absurd ⟨location, entries, located⟩ refused
  · rfl

theorem discover_of_located (located : tree.locate dir = .ok (.directory location entries)) :
    tree.discover dir =
      match (Visit.mk [] dir location entries).scan tree entries with
      | .error fault => .error (.configuration (.unscannable dir fault.message))
      | .ok paths => .ok ((paths.filter isModuleFile).mergeSort fun p q => !q.less p) := by
  rw [discover, located]
  rfl

theorem spelling_ne_empty_of_located {target : Target} (located : tree.locate dir = .ok target) :
    dir.spelling ≠ [] := by
  intro empty
  rw [locate, if_pos empty] at located
  split at located <;> cases located

theorem discover_eq_ok {paths : List Path} (found : tree.discover dir = .ok paths) :
    ∃ location entries scanned, tree.locate dir = .ok (.directory location entries) ∧
      (Visit.mk [] dir location entries).scan tree entries = .ok scanned ∧
      (scanned.filter isModuleFile).mergeSort (fun p q => !q.less p) = paths := by
  unfold discover at found
  split at found
  · rename_i location entries located
    split at found
    · cases found
    · rename_i scanned reported
      cases found
      exact ⟨location, entries, scanned, located, reported, rfl⟩
  · cases found

theorem sound_start (located : tree.locate dir = .ok (.directory location entries)) :
    (Visit.mk [] dir location entries).Sound tree :=
  ⟨entriesAt?_of_locate located, spelling_ne_empty_of_located located⟩

theorem Visits.sound (proper : tree.Proper) (visits : tree.Visits dir visit) :
    visit.Sound tree := by
  obtain ⟨location, entries, located, comes⟩ := visits
  exact comes.sound proper (sound_start located)

theorem discover_error_iff (dir : Path) : (∃ error, tree.discover dir = .error error) ↔
    ¬ tree.isDirectory dir ∨ ∃ fault visit, tree.Visits dir visit ∧
      ∃ entry ∈ visit.entries, Obstructs tree visit entry fault := by
  by_cases directory : tree.isDirectory dir
  · obtain ⟨location, entries, located⟩ := isDirectory_iff.mp directory
    have truth := truthful tree ⟨[], dir, location, entries⟩
    unfold Truthful at truth
    simp only [discover_of_located located, exists_visits_iff located, directory, not_true,
      false_or]
    cases scanned : (Visit.mk [] dir location entries).scan tree entries with
    | error fault =>
        rw [scanned] at truth
        exact ⟨fun _ => ⟨fault, truth⟩, fun _ => ⟨_, rfl⟩⟩
    | ok found =>
        rw [scanned] at truth
        exact ⟨nofun, fun ⟨fault, met⟩ => absurd met (truth.1 fault)⟩
  · rw [discover_of_refused directory]
    simp [directory]

theorem isModuleFile_of_shows (proper : tree.Proper) (sound : visit.Sound tree)
    (member : entry ∈ visit.entries) (shown : Shows tree visit entry path) :
    isModuleFile path = true ↔ ∃ stem, stem ≠ [] ∧ entry.1 = stem ++ Utf8.encode ".wasm" := by
  have named := fileName?_child sound.path (sound.entryName proper member)
  exact isModuleFile_iff (shown.path_eq ▸ named)

theorem mem_discover_iff (proper : tree.Proper) {paths : List Path}
    (found : tree.discover dir = .ok paths) :
    path ∈ paths ↔ ∃ visit, tree.Visits dir visit ∧ ∃ entry ∈ visit.entries,
      Shows tree visit entry path ∧ ∃ stem, stem ≠ [] ∧ entry.1 = stem ++ Utf8.encode ".wasm" := by
  obtain ⟨location, entries, scanned, located, reported, rfl⟩ := discover_eq_ok found
  have truth := truthful tree ⟨[], dir, location, entries⟩
  unfold Truthful at truth
  rw [reported] at truth
  rw [List.mem_mergeSort, List.mem_filter, truth.2, ← exists_visits_iff located]
  constructor
  · rintro ⟨⟨visit, visits, entry, member, shown⟩, extension⟩
    have sound := Visits.sound proper visits
    exact ⟨visit, visits, entry, member, shown,
      (isModuleFile_of_shows proper sound member shown).mp extension⟩
  · rintro ⟨visit, visits, entry, member, shown, named⟩
    have sound := Visits.sound proper visits
    exact ⟨⟨visit, visits, entry, member, shown⟩,
      (isModuleFile_of_shows proper sound member shown).mpr named⟩

theorem pairwise_discover (proper : tree.Proper) {paths : List Path}
    (found : tree.discover dir = .ok paths) :
    paths.Pairwise fun earlier later => earlier.less later = true := by
  obtain ⟨location, entries, scanned, located, reported, rfl⟩ := discover_eq_ok found
  have distinct := nodup_scan proper _ (sound_start located) reported
  exact pairwise_less_mergeSort (distinct.sublist (List.filter_sublist.map Path.key))

end Located

/-- A scan finds the modules of a directory unless the walk is stopped. -/
theorem discover_finds_modules (proper : tree.Proper) (dir : Path) :
    {visit | tree.Visits dir visit}.Finite ∧
    ((∃ error, tree.discover dir = .error error) ↔
      ¬ tree.isDirectory dir ∨ ∃ fault visit, tree.Visits dir visit ∧
        ∃ entry ∈ visit.entries, Obstructs tree visit entry fault) ∧
    ∀ paths, tree.discover dir = .ok paths →
      (∀ path, path ∈ paths ↔ ∃ visit, tree.Visits dir visit ∧ ∃ entry ∈ visit.entries,
        Shows tree visit entry path ∧ ∃ stem, stem ≠ [] ∧ entry.1 = stem ++ Utf8.encode ".wasm") ∧
      paths.Pairwise fun earlier later => earlier.less later = true :=
  ⟨finite_visits tree dir, discover_error_iff dir, fun _ found =>
    ⟨fun _ => mem_discover_iff proper found, pairwise_discover proper found⟩⟩

theorem locate_linked (content : Bytes) :
    locate ⟨[(Utf8.encode "m", .directory [(Utf8.encode "more", .link (Utf8.encode "../lib")),
          (Utf8.encode "a.wasm", .file content)]),
        (Utf8.encode "lib", .directory [(Utf8.encode "b.wasm", .file content)])], .root⟩ "m/more" =
      .ok (.directory ⟨[Utf8.encode "lib"]⟩ [(Utf8.encode "b.wasm", .file content)]) := by
  have pieces : (Path.ofString "m/more").pieces = [Utf8.encode "m", Utf8.encode "more"] := by decide
  have target : (Path.mk (Utf8.encode "../lib")).pieces ++ [] =
      [Utf8.encode "..", Utf8.encode "lib"] := by decide
  have parent : Utf8.encode ".." = [dot, dot] := by decide
  have start : startOf .root (Path.ofString "m/more").spelling = .root := ite_self _
  have inside : startOf (Location.root.child (Utf8.encode "m")) (Utf8.encode "../lib") =
      Location.root.child (Utf8.encode "m") := if_neg (by decide)
  rw [locate_eq_follow (by decide) (by decide) (by decide), pieces, start,
    follow_directory (by decide) (by decide) rfl, mostLinks,
    follow_link (by decide) (by decide) rfl, inside, target, parent, follow_parent,
    follow_directory (by decide) (by decide) rfl]
  exact follow_nil rfl

theorem discover_finds_modules_linked :
    let entries := [(Utf8.encode "more", .link (Utf8.encode "../lib")),
      (Utf8.encode "a.wasm", .file [])]
    let lib := [(Utf8.encode "b.wasm", .file [])]
    let tree : FileTree :=
      ⟨[(Utf8.encode "m", .directory entries), (Utf8.encode "lib", .directory lib)], .root⟩
    tree.Proper ∧ ∃ paths, tree.discover "m" = .ok paths ∧
      Path.ofString "m/more/b.wasm" ∈ paths := by
  intro entries lib tree
  have proper : tree.Proper := by
    refine ⟨?_, fun _ member => absurd member List.not_mem_nil⟩
    simp only [tree, entries, lib, ProperEntries, ProperNode]
    decide
  have located : tree.locate "m" = .ok (.directory ⟨[Utf8.encode "m"]⟩ entries) := by cbv
  have linked : tree.locate "m/more" = .ok (.directory ⟨[Utf8.encode "lib"]⟩ lib) :=
    locate_linked []
  have apart : Utf8.encode "m" ≠ Utf8.encode "lib" := by decide
  have child : Path.child "m" (Utf8.encode "more") = "m/more" := by decide
  have file : Path.child "m/more" (Utf8.encode "b.wasm") = "m/more/b.wasm" := by decide
  let start : Visit := ⟨[], "m", ⟨[Utf8.encode "m"]⟩, entries⟩
  let next := start.linked (Utf8.encode "more") ⟨[Utf8.encode "lib"]⟩ lib
  have opens : Opens tree start (Utf8.encode "more", .link (Utf8.encode "../lib")) next :=
    .link (by rw [← linked, ← child]) (by simp [start, Visit.ancestors, apart])
  have found := discover_of_located located
  have scanned : start.scan tree entries =
      .ok [(Path.ofString "m/more").child (Utf8.encode "b.wasm"),
        (Path.ofString "m").child (Utf8.encode "a.wasm")] := by
    rw [scan_cons, scan_of_opens opens, scan_of_shows .file]
    have inner : next.scan tree next.entries = .ok [next.path.child (Utf8.encode "b.wasm")] :=
      scan_of_shows .file
    rw [inner, ← child]
    rfl
  rw [scanned] at found
  refine ⟨proper, _, found, ?_⟩
  rw [((discover_finds_modules proper "m").2.2 _ found).1]
  refine ⟨next, ?_, (Utf8.encode "b.wasm", .file []), List.mem_cons_self, ?_, Utf8.encode "b",
    by decide, by decide⟩
  · exact (visits_iff located).mpr (.single ⟨_, List.mem_cons_self, opens⟩)
  · rw [← file, ← child]
    exact .file

/-- A scan of a directory that can be opened, with no link below it, fails when the path of a
directory in it is too long. -/
theorem discover_refuses_long_directory :
    let inner := [(Utf8.encode "sub", .directory [])]
    let tree : FileTree := ⟨[(Utf8.encode "mods", .directory inner)], .root⟩
    let dir : Path := ⟨Utf8.encode "mods" ++ List.replicate 4091 slash⟩
    tree.Proper ∧ tree.isDirectory dir = true ∧
      (∀ visit, tree.Visits dir visit → ∀ name target, (name, .link target) ∉ visit.entries) ∧
      ∃ error, tree.discover dir = .error error := by
  intro inner tree dir
  have proper : tree.Proper := by
    refine ⟨?_, fun _ member => absurd member List.not_mem_nil⟩
    simp only [tree, inner, ProperEntries, ProperNode]
    decide
  have size : dir.spelling.length = 4095 := by
    rw [List.length_append, List.length_replicate]
    rfl
  have pieces : dir.pieces = Utf8.encode "mods" :: List.replicate 4091 [] := by
    rw [pieces_slashes, pieces_of_noSlash (by decide)]
    rfl
  have located : tree.locate dir = .ok (.directory ⟨[Utf8.encode "mods"]⟩ inner) := by
    have clean : 0 ∉ dir.spelling := by
      rw [List.mem_append, List.mem_replicate]
      decide
    have start : startOf tree.home dir.spelling = .root := ite_self _
    rw [locate_eq_follow clean (List.append_ne_nil_of_left_ne_nil (by decide) _)
        (by rw [size]; decide), start, pieces,
      follow_directory (by decide) (by decide) rfl, follow_empty]
    exact follow_nil rfl
  have long : longestPath ≤ (dir.child (Utf8.encode "sub")).spelling.length := by
    have longer := length_child_ge dir (Utf8.encode "sub")
    have three : (Utf8.encode "sub").length = 3 := by decide
    rw [size, three] at longer
    exact Nat.le_trans (by decide) longer
  have only : ∀ visit, tree.Visits dir visit →
      visit = ⟨[], dir, ⟨[Utf8.encode "mods"]⟩, inner⟩ := by
    intro visit visits
    rcases ((visits_iff located).mp visits).cases_head with same | ⟨next, ⟨entry, member, opens⟩, _⟩
    · exact same.symm
    · rw [List.mem_singleton.mp member] at opens
      cases opens with
      | directory short => exact absurd short (Nat.not_lt.mpr long)
  refine ⟨proper, isDirectory_iff.mpr ⟨_, _, located⟩, fun visit visits name target => ?_, ?_⟩
  · rw [only visit visits]
    simp [inner]
  · have stopped : Obstructs tree ⟨[], dir, ⟨[Utf8.encode "mods"]⟩, inner⟩
        (Utf8.encode "sub", .directory []) (.io (dir.child (Utf8.encode "sub")) .nameTooLong) :=
      .tooLong long
    exact (discover_error_iff dir).mpr (.inr ⟨_, _, (visits_iff located).mpr .refl, _,
      List.mem_singleton_self _, stopped⟩)

end FileTree

end WasmTasks
