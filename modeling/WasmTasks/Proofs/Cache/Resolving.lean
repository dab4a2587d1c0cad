import WasmTasks.Module.Described
import WasmTasks.Module.Load
import WasmTasks.Proofs.Cache.Purge

/-!
Modules resolved through a cache. A resolution is a hit, or a miss whose load succeeds and is stored,
or a miss whose load fails and stores nothing.
-/

namespace WasmTasks

/-- A loader whose modules have the path they were loaded from as their key. -/
structure KeyedLoader where
  load : Loader
  keyed : ∀ {path stored}, load path = .ok stored → stored.key = path

namespace Machine

variable {μ ν : Type} {machine : Machine μ ν} {path : Path} {content : Bytes}
  {stored : CachedModule}

/-- A file gives a module when it is not empty, is compiled and can be kept. -/
theorem cachedOf_eq_ok_iff :
    machine.cachedOf path content = .ok stored ↔ content ≠ [] ∧
      ∃ module artifact, machine.compile content = .ok module ∧
        machine.serialize module = .ok artifact ∧
        stored = ⟨path, .wasmtime, artifact, Digest.contentHash content⟩ := by
  unfold cachedOf ofBytes toCached
  by_cases empty : content = []
  · simp [empty]
  · cases compiled : machine.compile content with
    | error diagnostic => simp [empty]
    | ok module =>
        cases serialized : machine.serialize module with
        | error reason => simp [empty, serialized]
        | ok artifact => simp [empty, serialized, eq_comm]

theorem contentHash_of_cachedOf (cached : machine.cachedOf path content = .ok stored) :
    stored.contentHash = Digest.contentHash content := by
  obtain ⟨_, _, _, _, _, rfl⟩ := cachedOf_eq_ok_iff.mp cached
  rfl

theorem loadModule_eq_ok_iff {tree : FileTree} :
    machine.loadModule tree path = .ok stored ↔
      ∃ content, tree.read path = .ok content ∧ machine.cachedOf path content = .ok stored := by
  unfold loadModule
  cases tree.read path <;> simp

def loader (machine : Machine μ ν) (tree : FileTree) : KeyedLoader where
  load := machine.loadModule tree
  keyed := by
    intro path stored loaded
    obtain ⟨_, _, cached⟩ := loadModule_eq_ok_iff.mp loaded
    obtain ⟨_, _, _, _, _, rfl⟩ := cachedOf_eq_ok_iff.mp cached
    rfl

end Machine

/-! The shortest module. -/

namespace Description

def shortest : Bytes := BinaryModule.magic ++ BinaryModule.version

/-- The shortest module as it is kept. -/
def shortestAt (path : Path) : CachedModule :=
  ⟨path, .wasmtime, mark ++ shortest, Digest.contentHash shortest⟩

theorem loadModule_shortest {tree : FileTree} {path : Path}
    (read : tree.read path = .ok shortest) :
    (machine []).loadModule tree path = .ok (shortestAt path) :=
  Machine.loadModule_eq_ok_iff.mpr ⟨shortest, read, Machine.cachedOf_eq_ok_iff.mpr
    ⟨by decide, ⟨shortest, .empty .zero⟩, mark ++ shortest, rfl, rfl, rfl⟩⟩

end Description

namespace Cache.Clocked

open ModuleCache

variable {load : Loader} {state : Clocked} {path : Path}

def resolve (load : Loader) (state : Clocked) (path : Path) :
    Except DriverError CachedModule × Clocked :=
  let (answer, cache) := resolveModule load state.now state.now (some state.cache) path
  (answer, { state with cache := cache.getD state.cache })

def looked (state : Clocked) (path : Path) : Clocked :=
  { state with cache := (state.cache.get state.now path).2 }

def stored (state : Clocked) (module : CachedModule) : Clocked :=
  { state with cache := state.cache.put state.now module }

theorem resolve_of_hit {module : CachedModule}
    (hit : (state.cache.get state.now path).1 = some module) :
    state.resolve load path = (.ok module, state.looked path) := by
  simp only [resolve, resolveModule, looked]
  generalize state.cache.get state.now path = answer at hit ⊢
  obtain ⟨found, cache⟩ := answer
  cases hit
  rfl

theorem resolve_of_failed (missed : (state.cache.get state.now path).1 = none)
    {error : DriverError} (failed : load path = .error error) :
    state.resolve load path = (.error error, state.looked path) := by
  simp only [resolve, resolveModule, looked, failed]
  generalize state.cache.get state.now path = answer at missed ⊢
  obtain ⟨found, cache⟩ := answer
  cases missed
  rfl

theorem resolve_of_loaded (missed : (state.cache.get state.now path).1 = none)
    {module : CachedModule} (loaded : load path = .ok module) :
    state.resolve load path = (.ok module, (state.looked path).stored module) := by
  simp only [resolve, resolveModule, looked, stored, loaded]
  generalize state.cache.get state.now path = answer at missed ⊢
  obtain ⟨found, cache⟩ := answer
  cases missed
  rfl

theorem resolve_cases (load : Loader) (state : Clocked) (path : Path) :
    (∃ module, (state.cache.get state.now path).1 = some module ∧
        state.resolve load path = (.ok module, state.looked path)) ∨
      (state.cache.get state.now path).1 = none ∧
        ((∃ error, load path = .error error ∧
            state.resolve load path = (.error error, state.looked path)) ∨
          ∃ module, load path = .ok module ∧
            state.resolve load path = (.ok module, (state.looked path).stored module)) := by
  cases found : (state.cache.get state.now path).1 with
  | some module => exact .inl ⟨module, rfl, resolve_of_hit found⟩
  | none =>
      refine .inr ⟨rfl, ?_⟩
      cases loaded : load path with
      | error error => exact .inl ⟨error, rfl, resolve_of_failed found loaded⟩
      | ok module => exact .inr ⟨module, rfl, resolve_of_loaded found loaded⟩

theorem resolveModule_eq (load : Loader) (state : Clocked) (path : Path) :
    resolveModule load state.now state.now (some state.cache) path =
      ((state.resolve load path).1, some (state.resolve load path).2.cache) := by
  simp only [resolve, resolveModule]
  cases state.cache.get state.now path with
  | mk found cache =>
      cases found with
      | some module => rfl
      | none =>
          cases load path with
          | error error => rfl
          | ok module => rfl

/-- What neither a lookup nor a store gives up, a resolution keeps. -/
theorem resolve_keeps {motive : Clocked → Prop} (load : Loader) {state : Clocked} (path : Path)
    (looked : motive (state.looked path))
    (stored : ∀ module, motive ((state.looked path).stored module)) :
    motive (state.resolve load path).2 := by
  obtain ⟨_, _, same⟩ | ⟨_, ⟨_, _, same⟩ | ⟨module, _, same⟩⟩ := resolve_cases load state path
  · rwa [same]
  · rwa [same]
  · rw [same]
    exact stored module

theorem coherent_resolve (load : Loader) {state : Clocked} (coherent : state.cache.Coherent)
    (path : Path) : (state.resolve load path).2.cache.Coherent :=
  have looked := coherent.get state.now path
  resolve_keeps (motive := fun next => next.cache.Coherent) load path looked
    fun module => looked.put state.now module

theorem lifetime_resolve (load : Loader) {state : Clocked} (coherent : state.cache.Coherent)
    (path : Path) : (state.resolve load path).2.cache.lifetime = state.cache.lifetime := by
  have looked := state.cache.lifetime_get state.now path
  exact resolve_keeps (motive := fun next => next.cache.lifetime = state.cache.lifetime) load path
    looked fun module => ((coherent.get state.now path).lifetime_put state.now module).trans looked

end Cache.Clocked

end WasmTasks
