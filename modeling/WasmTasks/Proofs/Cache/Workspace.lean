import WasmTasks.FileTree.Scan
import WasmTasks.Proofs.Cache.Presence
import WasmTasks.Proofs.Cache.Resolving

/-!
A cache over files that change. What resolving and warming load is recorded beside a run, each load
with the files it was made from. Every entry is the last load of its key; so an answer from the cache
is never older than that load, and never older than a lifetime.
-/

namespace WasmTasks

variable {μ ν : Type} {machine : Machine μ ν}

/-- Files, and a cache for the modules among them. -/
structure Workspace extends Cache.Clocked where
  tree : FileTree

structure Load (machine : Machine μ ν) where
  tree : FileTree
  path : Path
  time : Nat
  module : CachedModule
  succeeded : machine.loadModule tree path = .ok module

namespace Load

theorem key (load : Load machine) : load.module.key = load.path :=
  (machine.loader load.tree).keyed load.succeeded

/-- The last load of a path, under any spelling; the loads are listed with the last one in front. -/
def latest? (past : List (Load machine)) (path : Path) : Option (Load machine) :=
  past.find? fun load => load.path.Same path

variable {past : List (Load machine)} {load : Load machine} {path other : Path}

theorem latest?_congr (past : List (Load machine)) (same : path.Same other) :
    latest? past path = latest? past other := by
  simp only [latest?, Path.decide_same_congr same]

theorem latest?_cons_of_same (same : load.path.Same path) :
    latest? (load :: past) path = some load :=
  List.find?_cons_of_pos (by simpa using same)

theorem latest?_cons_of_apart (apart : ¬ load.path.Same path) :
    latest? (load :: past) path = latest? past path :=
  List.find?_cons_of_neg (by simpa using apart)

end Load

namespace Machine

variable {tree : FileTree} {time : Nat} {path : Path}

def loadAt? (machine : Machine μ ν) (tree : FileTree) (time : Nat) (path : Path) :
    Option (Load machine) :=
  match succeeded : machine.loadModule tree path with
  | .error _ => none
  | .ok module => some ⟨tree, path, time, module, succeeded⟩

/-- The loads in order, up to the first that fails; the last one stands in front. -/
def loadsAlong (machine : Machine μ ν) (tree : FileTree) (time : Nat) :
    List Path → List (Load machine)
  | [] => []
  | path :: rest =>
      match machine.loadAt? tree time path with
      | none => []
      | some load => machine.loadsAlong tree time rest ++ [load]

theorem loadAt?_of_failed {error : DriverError}
    (failed : machine.loadModule tree path = .error error) :
    machine.loadAt? tree time path = none := by
  unfold loadAt?
  split
  · rfl
  · rename_i loaded
    rw [failed] at loaded
    cases loaded

theorem loadAt?_of_loaded {module : CachedModule}
    (loaded : machine.loadModule tree path = .ok module) :
    machine.loadAt? tree time path = some ⟨tree, path, time, module, loaded⟩ := by
  unfold loadAt?
  split
  · rename_i failed
    rw [failed] at loaded
    cases loaded
  · rename_i other same
    have equal : other = module := Except.ok.inj (same.symm.trans loaded)
    subst equal
    rfl

end Machine

namespace Workspace

open Cache

/-- What is done to the files or with the cache, and the time that passes. The order in which a
simple policy takes its keys up may change at any moment. -/
inductive Action where
  | resolve (path : Path)
  | warm (dir : Path)
  | remove (path : Path)
  | write (path : Path) (node : Node)
  | delete (path : Path)
  | advance (milliseconds : Nat)
  | reorder (order : List Path)

def apply (machine : Machine μ ν) (state : Workspace) : Action → Workspace
  | .resolve path =>
      { state with toClocked := (state.toClocked.resolve (machine.loadModule state.tree) path).2 }
  | .warm dir =>
      let found := state.tree.discover dir
      let warmed := state.cache.warm (machine.loadModule state.tree) found fun _ => state.now
      { state with cache := warmed.2 }
  | .remove path => { state with toClocked := state.toClocked.apply (.remove path) }
  | .write path node => { state with tree := state.tree.write path node }
  | .delete path => { state with tree := state.tree.delete path }
  | .advance milliseconds =>
      { state with toClocked := state.toClocked.apply (.advance milliseconds) }
  | .reorder order => { state with toClocked := state.toClocked.apply (.reorder order) }

def run (machine : Machine μ ν) (state : Workspace) (actions : List Action) : Workspace :=
  actions.foldl (apply machine) state

/-- The loads that an action makes, the last one in front. A path is loaded when it is not found in
the cache, and a directory's modules when they can be listed and fit in. -/
def loadsOf (machine : Machine μ ν) (state : Workspace) : Action → List (Load machine)
  | .resolve path =>
      match (state.cache.get state.now path).1 with
      | some _ => []
      | none => (machine.loadAt? state.tree state.now path).toList
  | .warm dir =>
      match state.tree.discover dir with
      | .error _ => []
      | .ok paths =>
          if state.cache.capacity < paths.length then []
          else machine.loadsAlong state.tree state.now paths
  | _ => []

def loads (machine : Machine μ ν) (state : Workspace) : List Action → List (Load machine)
  | [] => []
  | first :: later => (state.apply machine first).loads machine later ++ state.loadsOf machine first

variable {state : Workspace}

@[simp] theorem run_concat (machine : Machine μ ν) (state : Workspace) (actions : List Action)
    (last : Action) :
    state.run machine (actions ++ [last]) = (state.run machine actions).apply machine last := by
  simp [run]

theorem loads_concat (machine : Machine μ ν) (state : Workspace) (actions : List Action)
    (last : Action) :
    state.loads machine (actions ++ [last]) =
      (state.run machine actions).loadsOf machine last ++ state.loads machine actions := by
  induction actions generalizing state with
  | nil => simp [loads, run]
  | cons first later ih =>
      rw [List.cons_append, loads, ih, loads, List.append_assoc]
      rfl

end Workspace

namespace Cache.Clocked

open ModuleCache

variable {lifetime : Option Nat} {past : List (Load machine)} {state : Clocked}

/-- Every entry is the last load of its key. -/
structure Recorded (lifetime : Option Nat) (past : List (Load machine)) (state : Clocked) :
    Prop where
  coherent : state.cache.Coherent
  lifetime : state.cache.lifetime = lifetime
  entries : ∀ entry ∈ state.cache.entries, ∃ load, Load.latest? past entry.stored.key = some load ∧
    load.module = entry.stored ∧ load.time = entry.insertedAt
  times : ∀ load ∈ past, load.time ≤ state.now

namespace Recorded

theorem of_new {capacity : Nat} {kind : EvictionKind} {lifetime : Option Nat}
    {fresh : ModuleCache} {allocator : Allocator}
    (made : ModuleCache.new allocator capacity kind lifetime = .ok fresh) (start : Nat) :
    Recorded lifetime ([] : List (Load machine)) ⟨fresh, start⟩ := by
  have coherent := (Coherent.of_new made).1
  obtain ⟨_, _, rfl⟩ := new_eq_ok made
  exact ⟨coherent, rfl, nofun, nofun⟩

/-- Entries that leave and time that passes need no record. -/
theorem shrink (recorded : Recorded lifetime past state) {next : Clocked}
    (coherent : next.cache.Coherent) (same : next.cache.lifetime = state.cache.lifetime)
    (fewer : next.cache.entries ⊆ state.cache.entries) (le : state.now ≤ next.now) :
    Recorded lifetime past next :=
  ⟨coherent, same.trans recorded.lifetime,
    fun entry member => recorded.entries entry (fewer member),
    fun load member => (recorded.times load member).trans le⟩

theorem store (recorded : Recorded lifetime past state) (load : Load machine)
    (time : load.time = state.now) :
    Recorded lifetime (load :: past) (state.stored load.module) where
  coherent := recorded.coherent.put state.now load.module
  lifetime := (recorded.coherent.lifetime_put state.now load.module).trans recorded.lifetime
  entries := by
    intro entry member
    obtain rfl | ⟨held, apart⟩ := recorded.coherent.mem_entries_put member
    · have own : load.path.Same load.module.key := by
        rw [load.key]
        exact Path.Same.refl _
      exact ⟨load, Load.latest?_cons_of_same own, rfl, time⟩
    · have other : ¬ load.path.Same entry.stored.key := by
        rw [← load.key]
        exact fun same => apart same.symm
      rw [Load.latest?_cons_of_apart other]
      exact recorded.entries entry held
  times := by
    intro other member
    rcases List.mem_cons.mp member with rfl | earlier
    · exact time.le
    · exact recorded.times other earlier

theorem looked (recorded : Recorded lifetime past state) (path : Path) :
    Recorded lifetime past (state.looked path) :=
  recorded.shrink (recorded.coherent.get state.now path) (state.cache.lifetime_get state.now path)
    (entries_get_subset state.cache state.now path) (Nat.le_refl _)

theorem loadAll (tree : FileTree) (paths : List Path) {past : List (Load machine)}
    {state : Clocked} (recorded : Recorded lifetime past state) :
    Recorded lifetime (machine.loadsAlong tree state.now paths ++ past)
      { state with
        cache := (ModuleCache.loadAll (machine.loadModule tree) (fun _ => state.now) state.cache
          paths).2 } := by
  induction paths generalizing past state with
  | nil => exact recorded
  | cons path rest ih =>
      cases attempted : machine.loadModule tree path with
      | error error =>
          simpa [Machine.loadsAlong, Machine.loadAt?_of_failed attempted, ModuleCache.loadAll,
            attempted] using recorded
      | ok module =>
          have next := ih (recorded.store ⟨tree, path, state.now, module, attempted⟩ rfl)
          simpa [Machine.loadsAlong, Machine.loadAt?_of_loaded attempted, ModuleCache.loadAll,
            attempted, stored] using next

end Recorded

end Cache.Clocked

namespace Workspace

open Cache ModuleCache Clocked

variable {lifetime : Option Nat} {past : List (Load machine)} {state : Workspace}

theorem loadsOf_of_hit {path : Path} {module : CachedModule}
    (hit : (state.cache.get state.now path).1 = some module) :
    state.loadsOf machine (.resolve path) = [] := by
  rw [loadsOf, hit]

theorem loadsOf_of_missed {path : Path} (missed : (state.cache.get state.now path).1 = none) :
    state.loadsOf machine (.resolve path) = (machine.loadAt? state.tree state.now path).toList := by
  rw [loadsOf, missed]

theorem recorded_resolve (recorded : Recorded lifetime past state.toClocked) (path : Path) :
    Recorded lifetime (state.loadsOf machine (.resolve path) ++ past)
      (state.resolve (machine.loadModule state.tree) path).2 := by
  have looked := recorded.looked path
  obtain ⟨module, hit, same⟩ | ⟨missed, ⟨error, failed, same⟩ | ⟨module, loaded, same⟩⟩ :=
    resolve_cases (machine.loadModule state.tree) state.toClocked path
  · rw [same, loadsOf_of_hit hit]
    exact looked
  · rw [same, loadsOf_of_missed missed, Machine.loadAt?_of_failed failed]
    exact looked
  · rw [same, loadsOf_of_missed missed, Machine.loadAt?_of_loaded loaded]
    exact looked.store ⟨state.tree, path, state.now, module, loaded⟩ rfl

theorem recorded_warm (recorded : Recorded lifetime past state.toClocked) (dir : Path) :
    Recorded lifetime (state.loadsOf machine (.warm dir) ++ past)
      (state.apply machine (.warm dir)).toClocked := by
  simp only [loadsOf, Workspace.apply, warm]
  cases state.tree.discover dir with
  | error error => exact recorded
  | ok paths =>
      by_cases crowded : state.cache.capacity < paths.length
      · simp only [crowded, if_true]
        exact recorded
      · simp only [crowded, if_false]
        have warmed := Recorded.loadAll state.tree paths recorded
        cases answer : ModuleCache.loadAll (machine.loadModule state.tree) (fun _ => state.now)
            state.cache paths with
        | mk done cache =>
            rw [answer] at warmed
            cases done with
            | error error => exact warmed
            | ok done => exact warmed

theorem recorded_apply (recorded : Recorded lifetime past state.toClocked) (action : Action) :
    Recorded lifetime (state.loadsOf machine action ++ past)
      (state.apply machine action).toClocked := by
  cases action with
  | resolve path => exact recorded_resolve recorded path
  | warm dir => exact recorded_warm recorded dir
  | remove path =>
      exact recorded.shrink (recorded.coherent.remove path)
        (Clocked.lifetime_apply recorded.coherent (.remove path))
        (entries_remove_subset state.cache path) (Nat.le_refl _)
  | write path node => exact recorded
  | delete path => exact recorded
  | advance milliseconds =>
      exact recorded.shrink recorded.coherent rfl (List.Subset.refl _) (Nat.le_add_right _ _)
  | reorder order =>
      exact recorded.shrink (recorded.coherent.reorder order) rfl (List.Subset.refl _)
        (Nat.le_refl _)

theorem recorded_run (recorded : Recorded lifetime ([] : List (Load machine)) state.toClocked)
    (actions : List Action) :
    Recorded lifetime (state.loads machine actions) (state.run machine actions).toClocked := by
  induction actions using List.reverseRecOn with
  | nil => exact recorded
  | append_singleton earlier action ih =>
      rw [run_concat, loads_concat]
      exact recorded_apply ih action

/-! The answers of one resolution. -/

theorem resolved_of_hit (recorded : Recorded lifetime past state.toClocked) {path : Path}
    {module : CachedModule} (hit : (state.cache.get state.now path).1 = some module) :
    (∃ load, Load.latest? past path = some load ∧ load.module = module ∧
      ∀ span, lifetime = some span → state.now - load.time < span) ∧
    (state.toClocked.looked path).cache.contains state.now path = true := by
  obtain ⟨entry, live, same, stored⟩ := (get_eq_some_iff recorded.coherent.nodup).mp hit
  constructor
  · obtain ⟨held, fresh⟩ := mem_live.mp live
    obtain ⟨load, latest, loaded, time⟩ := recorded.entries entry held
    refine ⟨load, (Load.latest?_congr past same).symm.trans latest, loaded.trans stored, ?_⟩
    rw [time, ← recorded.lifetime]
    exact isExpired_eq_false_iff.mp fresh
  · rw [Clocked.looked, contains_get_of_hit hit]
    exact (contains_iff recorded.coherent.nodup).mpr ⟨entry, live, same⟩

theorem contains_of_loaded (recorded : Recorded lifetime past state.toClocked)
    (endures : lifetime ≠ some 0) {path : Path} {module : CachedModule}
    (loaded : machine.loadModule state.tree path = .ok module) :
    ((state.toClocked.looked path).stored module).cache.contains state.now path = true := by
  have looked := recorded.looked path
  rw [← (machine.loader state.tree).keyed loaded] at looked ⊢
  rw [← looked.lifetime] at endures
  exact (looked.coherent.contains_put_iff module state.now).mpr
    (sub_self_lt_of_endures endures state.now)

theorem resolved_of_ok (recorded : Recorded lifetime past state.toClocked)
    (endures : lifetime ≠ some 0) {path : Path} {module : CachedModule}
    (answer : (state.resolve (machine.loadModule state.tree) path).1 = .ok module) :
    (∃ load, Load.latest? (state.loadsOf machine (.resolve path) ++ past) path = some load ∧
      load.module = module ∧ ∀ span, lifetime = some span → state.now - load.time < span) ∧
    (state.resolve (machine.loadModule state.tree) path).2.cache.contains state.now path = true := by
  obtain ⟨found, hit, same⟩ | ⟨missed, ⟨error, failed, same⟩ | ⟨found, loaded, same⟩⟩ :=
    resolve_cases (machine.loadModule state.tree) state.toClocked path
  · rw [same] at answer ⊢
    cases answer
    rw [loadsOf_of_hit hit]
    exact resolved_of_hit recorded hit
  · rw [same] at answer
    cases answer
  · rw [same] at answer ⊢
    cases answer
    refine ⟨⟨⟨state.tree, path, state.now, module, loaded⟩, ?_, rfl, ?_⟩,
      contains_of_loaded recorded endures loaded⟩
    · rw [loadsOf_of_missed missed, Machine.loadAt?_of_loaded loaded]
      exact Load.latest?_cons_of_same (Path.Same.refl path)
    · exact sub_self_lt_of_endures endures state.now

theorem resolved_of_error {path : Path} {error : DriverError}
    (answer : (state.resolve (machine.loadModule state.tree) path).1 = .error error) :
    machine.loadModule state.tree path = .error error ∧
      (state.cache.get state.now path).1 = none ∧
      (state.resolve (machine.loadModule state.tree) path).2 = state.toClocked.looked path := by
  obtain ⟨found, hit, same⟩ | ⟨missed, ⟨other, failed, same⟩ | ⟨found, loaded, same⟩⟩ :=
    resolve_cases (machine.loadModule state.tree) state.toClocked path
  · rw [same] at answer
    cases answer
  · rw [same] at answer ⊢
    cases answer
    exact ⟨failed, missed, rfl⟩
  · rw [same] at answer
    cases answer

theorem apply_resolve_unused {capacity now : Nat} (room : 0 < capacity) {tree : FileTree}
    {path : Path} {module : CachedModule} (loaded : machine.loadModule tree path = .ok module) :
    Workspace.apply machine ⟨⟨⟨capacity, lifetime, .lru .empty, [], .zero⟩, now⟩, tree⟩
        (.resolve path) =
      ⟨⟨⟨capacity, lifetime, .lru ⟨[path]⟩, [⟨module, now⟩], ⟨0, 1, 0, 0⟩⟩, now⟩, tree⟩ := by
  let missed : ModuleCache := ⟨capacity, lifetime, .lru .empty, [], ⟨0, 1, 0, 0⟩⟩
  have new : module.key.key ∉ missed.keys := List.not_mem_nil
  have fits : missed.entries.length < missed.capacity := room
  have stored : missed.put now module =
      ⟨capacity, lifetime, .lru ⟨[path]⟩, [⟨module, now⟩], ⟨0, 1, 0, 0⟩⟩ := by
    rw [put_of_new new, ModuleCache.reclaim, if_neg (Nat.not_le.mpr fits), makeRoom_of_fits fits,
      ← (machine.loader tree).keyed loaded]
    rfl
  rw [Workspace.apply, resolve_of_loaded rfl loaded]
  exact congrArg (fun cache => Workspace.mk ⟨cache, now⟩ tree) stored

/-- Through every run, however the files change: a resolved module is the one made by the latest
load of its path, less than a lifetime ago, from the content that the file had then, and its path is
live afterwards. A resolution fails only because the load of the path fails at that time; then the
path is not live, no other entry has left, and those that are live will be evicted in the same order
as before. -/
theorem run_resolves_latest_load {capacity : Nat} {kind : EvictionKind} {lifetime : Option Nat}
    {fresh : ModuleCache} {allocator : Allocator}
    (made : ModuleCache.new allocator capacity kind lifetime = .ok fresh) (machine : Machine μ ν)
    (start : Nat) (tree : FileTree) (actions : List Action) (path : Path) :
    let initial : Workspace := ⟨⟨fresh, start⟩, tree⟩
    let before := initial.run machine actions
    let after := before.apply machine (.resolve path)
    let answer := (resolveModule (machine.loadModule before.tree) before.now before.now
      (some before.cache) path).1
    (∀ module, answer = .ok module →
      ∃ load content,
        Load.latest? (initial.loads machine (actions ++ [.resolve path])) path = some load ∧
        load.module = module ∧ load.tree.read load.path = .ok content ∧
        machine.cachedOf load.path content = .ok module ∧
        module.contentHash = Digest.contentHash content ∧ load.time ≤ before.now ∧
        (∀ span, lifetime = some span → before.now - load.time < span) ∧
        after.cache.contains after.now path = true) ∧
    ∀ error, answer = .error error →
      machine.loadModule before.tree path = .error error ∧
        after.cache.contains after.now path = false ∧
        after.cache.entries = before.cache.without path ∧
        (∀ later, before.now ≤ later →
          after.cache.victimOrder later = before.cache.victimOrder later) ∧
        after.cache.counters.evictions = before.cache.counters.evictions := by
  intro initial before after answer
  have recorded : Recorded lifetime (initial.loads machine actions) before.toClocked :=
    recorded_run (Recorded.of_new made start) actions
  have endures : lifetime ≠ some 0 := (new_eq_ok made).2.1
  have coherent := recorded.coherent
  simp only [answer, resolveModule_eq]
  refine ⟨fun module answered => ?_, fun error answered => ?_⟩
  · obtain ⟨⟨load, latest, rfl, young⟩, live⟩ := resolved_of_ok recorded endures answered
    rw [← loads_concat] at latest
    obtain ⟨content, read, cached⟩ := Machine.loadModule_eq_ok_iff.mp load.succeeded
    have next := recorded_apply recorded (.resolve path)
    rw [← loads_concat] at next
    have earlier := next.times load (List.mem_of_find?_eq_some latest)
    exact ⟨load, content, latest, rfl, read, cached, Machine.contentHash_of_cachedOf cached, earlier,
      young, live⟩
  · obtain ⟨failed, missed, same⟩ := resolved_of_error answered
    have cache : after.cache = (before.cache.get before.now path).2 := congrArg Clocked.cache same
    have now : after.now = before.now := rfl
    rw [cache, now]
    refine ⟨failed, ?_, entries_get_of_missed missed, ?_, ?_⟩
    · exact contains_get_of_missed missed before.now
    · exact fun later le => coherent.victimOrder_get_of_missed missed le
    · exact evictions_get before.cache before.now path

/-- The file is spoilt after its module was cached: four milliseconds later the module is still
found, and one more later it is neither found nor loaded. -/
theorem run_resolves_latest_load_spoilt :
    let machine := Description.machine []
    let path : Path := "a"
    let fresh : ModuleCache := ⟨1, some 5, .lru .empty, [], .zero⟩
    let tree : FileTree := ⟨[(path.spelling, .file Description.shortest)], .root⟩
    let initial : Workspace := ⟨⟨fresh, 0⟩, tree⟩
    let spoilt := [.resolve path, .write path (.file []), .advance 4]
    let late := spoilt ++ [.advance 1]
    ModuleCache.new .generous 1 .lru (some 5) = .ok fresh ∧
      (∃ load, Load.latest? (initial.loads machine (spoilt ++ [.resolve path])) path = some load ∧
        load.module = Description.shortestAt path) ∧
      ((initial.run machine late).apply machine (.resolve path)).cache.entries = [] := by
  intro machine path fresh tree initial spoilt late
  have made : ModuleCache.new .generous 1 .lru (some 5) = .ok fresh := rfl
  have read : tree.read path = .ok Description.shortest := by cbv
  have loaded := Description.loadModule_shortest read
  let module := Description.shortestAt path
  let cache : ModuleCache := ⟨1, some 5, .lru ⟨[path]⟩, [⟨module, 0⟩], ⟨0, 1, 0, 0⟩⟩
  have first : initial.apply machine (.resolve path) = ⟨⟨cache, 0⟩, tree⟩ :=
    apply_resolve_unused Nat.one_pos loaded
  let rest := tree.write path (.file [])
  have early : initial.run machine spoilt = ⟨⟨cache, 4⟩, rest⟩ := by
    rw [run, List.foldl_cons, first]
    rfl
  have later : initial.run machine late = ⟨⟨cache, 5⟩, rest⟩ := by
    rw [run_concat, early]
    rfl
  have own : module.key.Same path := Path.Same.refl path
  have held : cache.find? path = some ⟨module, 0⟩ := by
    simp [ModuleCache.find?, cache, own]
  have hit : (cache.get 4 path).1 = some module := congrArg Prod.fst (get_of_fresh held rfl)
  have missed : (cache.get 5 path).1 = none := congrArg Prod.fst (get_of_expired held rfl)
  have alone : cache.without path = [] := by
    simp [ModuleCache.without, cache, own]
  have failed : machine.loadModule rest path = .error (.load path .empty) := by
    have empty : rest.read path = .ok [] := by cbv
    rw [Machine.loadModule, empty]
    rfl
  obtain ⟨answered, _⟩ := run_resolves_latest_load made machine 0 tree spoilt path
  obtain ⟨_, refused⟩ := run_resolves_latest_load made machine 0 tree late path
  rw [early] at answered
  rw [later] at refused
  have found : (Clocked.resolve (machine.loadModule rest) ⟨cache, 4⟩ path).1 = .ok module := by
    rw [resolve_of_hit hit]
  have lost : (Clocked.resolve (machine.loadModule rest) ⟨cache, 5⟩ path).1 =
      .error (.load path .empty) := by
    rw [resolve_of_failed missed failed]
  refine ⟨made, ?_, ?_⟩
  · obtain ⟨load, _, latest, same, _⟩ := answered module found
    exact ⟨load, latest, same⟩
  · obtain ⟨_, _, entries, _⟩ := refused (.load path .empty) lost
    rw [later, entries, alone]

end Workspace

end WasmTasks
