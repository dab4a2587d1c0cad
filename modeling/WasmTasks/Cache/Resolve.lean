import WasmTasks.Cache.Basic

/-!
Modules through the cache: a module is loaded when it is not held, and a directory's modules can be
loaded ahead of use. The loader is a parameter, so that nothing here depends on where modules are.
-/

namespace WasmTasks

abbrev Loader := Path → Except DriverError CachedModule

/-- The held module, or else the loaded one, which is then held. Without a cache every call loads.
Loading takes time, so the module is stored later than it was looked up. -/
def resolveModule (load : Loader) (now later : Nat) (cache : Option ModuleCache) (path : Path) :
    Except DriverError CachedModule × Option ModuleCache :=
  match cache with
  | none => (load path, none)
  | some cache =>
      match cache.get now path with
      | (some stored, cache) => (.ok stored, some cache)
      | (none, cache) =>
          match load path with
          | .error error => (.error error, some cache)
          | .ok stored => (.ok stored, some (cache.put later stored))

namespace ModuleCache

/-- Loads and stores modules in order; the first that fails to load ends it. The clock is read for
each module that is stored, the first time at zero. -/
def loadAll (load : Loader) :
    (clock : Nat → Nat) → ModuleCache → List Path → Except DriverError Unit × ModuleCache
  | _, cache, [] => (.ok (), cache)
  | clock, cache, path :: rest =>
      match load path with
      | .error error => (.error error, cache)
      | .ok stored =>
          loadAll load (fun reading => clock (reading + 1)) (cache.put (clock 0) stored) rest

/-- Loads the modules that were found in a directory, unless there are more than fit. The answer is
their number. -/
def warm (load : Loader) (discovered : Except DriverError (List Path))
    (clock : Nat → Nat) (cache : ModuleCache) : Except DriverError Nat × ModuleCache :=
  match discovered with
  | .error error => (.error error, cache)
  | .ok paths =>
      if cache.capacity < paths.length then
        (.error (.configuration (.tooManyModules cache.capacity paths.length)), cache)
      else
        match loadAll load clock cache paths with
        | (.error error, cache) => (.error error, cache)
        | (.ok _, cache) => (.ok paths.length, cache)

end ModuleCache

end WasmTasks
