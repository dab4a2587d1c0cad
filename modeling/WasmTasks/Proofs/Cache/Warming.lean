import WasmTasks.Proofs.Cache.Inclusion
import WasmTasks.Proofs.Cache.Resolving
import WasmTasks.Proofs.FileTree.Order

/-!
Warming a cache. The modules of a directory are loaded in path order and put one after the other, up
to the first that fails to load; what was put before it stays. The puts go through the policy like
any other, so a warmed module is kept as long as no later one takes it for its victim. That cannot
happen in a least recently used cache, or where there is room beside the entries held before.
-/

namespace WasmTasks

namespace Loader

variable {load other : Loader} {paths : List Path} {modules : List CachedModule}

def Makes (load : Loader) (paths : List Path) (modules : List CachedModule) : Prop :=
  List.Forall₂ (fun path stored => load path = .ok stored) paths modules

theorem makes_or_stops (load : Loader) (paths : List Path) :
    (∃ modules, load.Makes paths modules) ∨
      ∃ before failing later modules error, paths = before ++ failing :: later ∧
        load.Makes before modules ∧ load failing = .error error := by
  induction paths with
  | nil => exact .inl ⟨[], .nil⟩
  | cons path rest ih =>
      cases attempted : load path with
      | error error => exact .inr ⟨[], path, rest, [], error, rfl, .nil, attempted⟩
      | ok stored =>
          obtain ⟨modules, made⟩ | ⟨before, failing, later, modules, error, same, made, failed⟩ := ih
          · exact .inl ⟨stored :: modules, .cons attempted made⟩
          · exact .inr ⟨path :: before, failing, later, stored :: modules, error,
              congrArg (path :: ·) same, .cons attempted made, failed⟩

theorem Makes.congr (made : load.Makes paths modules)
    (agrees : ∀ path ∈ paths, other path = load path) : other.Makes paths modules := by
  induction made with
  | nil => exact .nil
  | cons loaded _ ih =>
      rw [List.forall_mem_cons] at agrees
      exact .cons (agrees.1.trans loaded) (ih agrees.2)

end Loader

namespace KeyedLoader

theorem map_key_of_makes (loader : KeyedLoader) {paths : List Path} {modules : List CachedModule}
    (made : Loader.Makes loader.load paths modules) : modules.map CachedModule.key = paths := by
  induction made with
  | nil => rfl
  | cons loaded _ ih => rw [List.map_cons, loader.keyed loaded, ih]

end KeyedLoader

namespace ModuleCache

open Cache

variable {cache after : ModuleCache} {clock : Nat → Nat} {load : Loader} {paths : List Path}
  {modules : List CachedModule} {found : Except DriverError (List Path)}

/-- The modules put in turn, each at what the clock shows then. -/
def putAll : (clock : Nat → Nat) → List CachedModule → ModuleCache → ModuleCache
  | _, [], cache => cache
  | clock, stored :: rest, cache =>
      putAll (fun reading => clock (reading + 1)) rest (cache.put (clock 0) stored)

theorem putAll_concat (clock : Nat → Nat) (modules : List CachedModule) (last : CachedModule)
    (cache : ModuleCache) :
    putAll clock (modules ++ [last]) cache =
      (putAll clock modules cache).put (clock modules.length) last := by
  induction modules generalizing clock cache with
  | nil => rfl
  | cons first rest ih =>
      rw [List.cons_append, putAll, ih]
      rfl

theorem loadAll_of_makes (made : load.Makes paths modules) (cache : ModuleCache)
    (clock : Nat → Nat) :
    loadAll load clock cache paths = (.ok (), cache.putAll clock modules) := by
  induction made generalizing clock cache with
  | nil => rfl
  | cons loaded _ ih =>
      rw [loadAll, loaded]
      exact ih _ _

theorem loadAll_of_stops {before later : List Path} {failing : Path} {error : DriverError}
    (made : load.Makes before modules) (failed : load failing = .error error)
    (cache : ModuleCache) (clock : Nat → Nat) :
    loadAll load clock cache (before ++ failing :: later) =
      (.error error, cache.putAll clock modules) := by
  induction made generalizing clock cache with
  | nil =>
      rw [List.nil_append, loadAll, failed]
      rfl
  | cons loaded _ ih =>
      rw [List.cons_append, loadAll, loaded]
      exact ih _ _

/-- How a warm-up fails: the paths that it tries to load, the error, and the cache it leaves. -/
inductive WarmingFails (load : Loader) (clock : Nat → Nat) (cache : ModuleCache)
    (found : Except DriverError (List Path)) :
    List Path → DriverError → ModuleCache → Prop where
  | unscanned {error : DriverError} (refused : found = .error error) :
      WarmingFails load clock cache found [] error cache
  | crowded {paths : List Path} (scanned : found = .ok paths)
      (exceeds : cache.capacity < paths.length) :
      WarmingFails load clock cache found []
        (.configuration (.tooManyModules cache.capacity paths.length)) cache
  | unloaded {before later : List Path} {failing : Path} {modules : List CachedModule}
      {error : DriverError} (scanned : found = .ok (before ++ failing :: later))
      (fits : (before ++ failing :: later).length ≤ cache.capacity)
      (made : load.Makes before modules) (failed : load failing = .error error) :
      WarmingFails load clock cache found (before ++ [failing]) error (cache.putAll clock modules)

theorem warm_of_crowded (exceeds : cache.capacity < paths.length) :
    cache.warm load (.ok paths) clock =
      (.error (.configuration (.tooManyModules cache.capacity paths.length)), cache) :=
  if_pos exceeds

theorem warm_of_makes (fits : paths.length ≤ cache.capacity) (made : load.Makes paths modules) :
    cache.warm load (.ok paths) clock = (.ok paths.length, cache.putAll clock modules) := by
  rw [warm, if_neg (Nat.not_lt.mpr fits), loadAll_of_makes made]

theorem WarmingFails.warm_eq {tried : List Path} {error : DriverError}
    (fails : WarmingFails load clock cache found tried error after) :
    cache.warm load found clock = (.error error, after) := by
  cases fails with
  | unscanned refused =>
      rw [refused]
      rfl
  | crowded scanned exceeds =>
      rw [scanned]
      exact warm_of_crowded exceeds
  | unloaded scanned fits made failed =>
      rw [scanned, warm, if_neg (Nat.not_lt.mpr fits), loadAll_of_stops made failed]

/-- Only what is tried to be loaded matters. -/
theorem WarmingFails.congr {tried : List Path} {error : DriverError} {other : Loader}
    (fails : WarmingFails load clock cache found tried error after)
    (agrees : ∀ path ∈ tried, other path = load path) :
    WarmingFails other clock cache found tried error after := by
  cases fails with
  | unscanned refused => exact .unscanned refused
  | crowded scanned exceeds => exact .crowded scanned exceeds
  | unloaded scanned fits made failed =>
      rw [List.forall_mem_append, List.forall_mem_singleton] at agrees
      exact .unloaded scanned fits (made.congr agrees.1) (agrees.2.trans failed)

/-- A warm-up puts every module that was found, or it fails. -/
theorem warm_cases (load : Loader) (found : Except DriverError (List Path)) (clock : Nat → Nat)
    (cache : ModuleCache) :
    (∃ paths modules, found = .ok paths ∧ paths.length ≤ cache.capacity ∧
        load.Makes paths modules ∧
        cache.warm load found clock = (.ok paths.length, cache.putAll clock modules)) ∨
      ∃ tried error after, WarmingFails load clock cache found tried error after := by
  cases found with
  | error error => exact .inr ⟨[], error, cache, .unscanned rfl⟩
  | ok paths =>
      by_cases exceeds : cache.capacity < paths.length
      · exact .inr ⟨[], _, cache, .crowded rfl exceeds⟩
      · have fits := Nat.not_lt.mp exceeds
        obtain ⟨modules, made⟩ | ⟨before, failing, later, modules, error, same, made, failed⟩ :=
          load.makes_or_stops paths
        · exact .inl ⟨paths, modules, rfl, fits, made, warm_of_makes fits made⟩
        · subst same
          exact .inr ⟨before ++ [failing], error, _, .unloaded rfl fits made failed⟩

theorem warm_eq_error_iff {error : DriverError} :
    cache.warm load found clock = (.error error, after) ↔
      ∃ tried, WarmingFails load clock cache found tried error after := by
  constructor
  · intro answer
    obtain ⟨_, _, _, _, _, same⟩ | ⟨tried, other, left, fails⟩ := warm_cases load found clock cache
    · rw [same] at answer
      cases answer
    · rw [fails.warm_eq] at answer
      cases answer
      exact ⟨tried, fails⟩
  · intro ⟨_, fails⟩
    exact fails.warm_eq

theorem warm_eq_ok_iff {count : Nat} :
    cache.warm load found clock = (.ok count, after) ↔
      ∃ paths modules, found = .ok paths ∧ paths.length ≤ cache.capacity ∧
        load.Makes paths modules ∧ count = paths.length ∧ after = cache.putAll clock modules := by
  constructor
  · intro answer
    obtain ⟨paths, modules, scanned, fits, made, same⟩ | ⟨_, _, _, fails⟩ :=
      warm_cases load found clock cache
    · rw [same] at answer
      cases answer
      exact ⟨paths, modules, scanned, fits, made, rfl, rfl⟩
    · rw [fails.warm_eq] at answer
      cases answer
  · intro ⟨paths, modules, scanned, fits, made, counted, left⟩
    rw [scanned, counted, left]
    exact warm_of_makes fits made

/-- A warm-up that fails either could not list the modules or found more of them than fit in, and
then it loads nothing and leaves the cache as it was; or it failed to load one of them, the ones
before it in path order were put, and the ones after it were not loaded. -/
theorem warm_stops_at_first_failure (tree : FileTree) (dir : Path) (clock : Nat → Nat)
    (cache : ModuleCache) :
    let found := tree.discover dir
    (∀ paths, found = .ok paths → Path.Ordered paths) ∧
      (∀ (load : Loader) error after, cache.warm load found clock = (.error error, after) ↔
        ∃ tried, WarmingFails load clock cache found tried error after) ∧
      ∀ (load other : Loader) tried error after,
        WarmingFails load clock cache found tried error after →
        (∀ path ∈ tried, other path = load path) →
        cache.warm other found clock = (.error error, after) := by
  intro found
  refine ⟨?_, ?_, ?_⟩
  · intro paths scanned
    exact FileTree.discover_ordered scanned
  · intro load error after
    exact warm_eq_error_iff
  · intro load other tried error after fails agrees
    exact (fails.congr agrees).warm_eq

/-- The second of three files is empty, so the first module is stored and the third one is not
loaded. -/
theorem warm_stops_at_first_failure_middle :
    let files := [(Text.Utf8.encode "a.wasm", .file Description.shortest),
      (Text.Utf8.encode "b.wasm", .file []),
      (Text.Utf8.encode "c.wasm", .file Description.shortest)]
    let tree : FileTree := ⟨[(Text.Utf8.encode "m", .directory files)], .root⟩
    let load := (Description.machine []).loadModule tree
    let cache : ModuleCache := ⟨3, some 5, .lru .empty, [], .zero⟩
    let clock := fun reading => reading + 7
    ∃ after, cache.warm load (tree.discover "m") clock = (.error (.load "m/b.wasm" .empty), after) ∧
      after.entries = [⟨Description.shortestAt "m/a.wasm", 7⟩] := by
  intro files tree load cache clock
  have located : tree.locate "m" = .ok (.directory ⟨[Text.Utf8.encode "m"]⟩ files) := by cbv
  have scanned : tree.discover "m" = .ok ["m/a.wasm", "m/b.wasm", "m/c.wasm"] := by
    let contents := [(Text.Utf8.encode "a.wasm", Description.shortest),
      (Text.Utf8.encode "b.wasm", []), (Text.Utf8.encode "c.wasm", Description.shortest)]
    have children : contents.map (fun file => Path.child "m" file.1) =
        [.ofString "m/a.wasm", .ofString "m/b.wasm", .ofString "m/c.wasm"] := rfl
    rw [← children]
    apply FileTree.discover_of_files located
    · simp only [contents, List.forall_mem_cons]
      decide
    · simp only [children, Path.Ordered, List.pairwise_cons]
      decide
  have first : load "m/a.wasm" = .ok (Description.shortestAt "m/a.wasm") :=
    Description.loadModule_shortest (by cbv)
  have second : load "m/b.wasm" = .error (.load "m/b.wasm" .empty) := by
    have empty : tree.read "m/b.wasm" = .ok [] := by cbv
    change (Description.machine []).loadModule tree "m/b.wasm" = _
    rw [Machine.loadModule, empty]
    rfl
  have fails : WarmingFails load clock cache (tree.discover "m")
      ([.ofString "m/a.wasm"] ++ [.ofString "m/b.wasm"]) _ _ :=
    .unloaded scanned (Nat.le_refl 3) (.cons first .nil) second
  obtain ⟨_, warmed, _⟩ := warm_stops_at_first_failure tree "m" clock cache
  exact ⟨_, (warmed load _ _).mpr ⟨_, fails⟩, by cbv⟩

end ModuleCache

end WasmTasks
