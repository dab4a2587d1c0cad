import WasmTasks.Config.EvictionKind

/-!
The configuration of the whole driver: the engine, and the size, strategy, expiration and warm-up
of the module cache.
-/

namespace WasmTasks

inductive BackendKind where
  | wasmtime
  deriving DecidableEq, Repr, Inhabited

namespace BackendKind

def name : BackendKind → String
  | wasmtime => "wasmtime"

def label : BackendKind → String
  | wasmtime => "Wasmtime"

end BackendKind

structure EngineConfig where
  backend : BackendKind
  optimize : Bool
  deriving DecidableEq, Repr

structure ExpirationConfig where
  enabled : Bool
  /-- Seconds an entry lives. -/
  lifetime : UInt64
  deriving DecidableEq, Repr

structure PreCacheConfig where
  enabled : Bool
  modulesDirectory : Option Path
  deriving DecidableEq, Repr

structure CacheConfig where
  enabled : Bool
  kind : EvictionKind
  size : UInt64
  expiration : ExpirationConfig
  preCache : PreCacheConfig
  deriving DecidableEq, Repr

structure PluginConfig where
  engine : EngineConfig
  cache : CacheConfig
  deriving DecidableEq, Repr

namespace EngineConfig

def standard : EngineConfig := ⟨.wasmtime, true⟩

def describeEngine (config : EngineConfig) : String :=
  s!"WasmEngine \x7b backend: {config.backend.label}, optimize: {config.optimize}, .. \x7d"

def describeBackend (config : EngineConfig) : String :=
  s!"WasmtimeBackend \x7b engine: {config.describeEngine}, .. \x7d"

end EngineConfig

namespace ExpirationConfig

def standard : ExpirationConfig := ⟨true, 600⟩

end ExpirationConfig

namespace PreCacheConfig

def standard : PreCacheConfig := ⟨false, none⟩

end PreCacheConfig

namespace CacheConfig

def standard : CacheConfig := ⟨true, .lfu, 5, .standard, .standard⟩

/-- Seconds an entry lives, if entries expire. -/
def lifetime? (config : CacheConfig) : Option UInt64 :=
  if config.expiration.enabled then some config.expiration.lifetime else none

end CacheConfig

namespace PluginConfig

def standard : PluginConfig := ⟨.standard, .standard⟩

/-- The constraints between values, in the order in which they are reported. -/
def validate (config : PluginConfig) : Except DriverError Unit :=
  let cache := config.cache
  if cache.size = 0 then .error (.configuration .zeroCacheSize)
  else if cache.expiration.enabled ∧ cache.expiration.lifetime = 0 then
    .error (.configuration .zeroConfiguredLifetime)
  else if cache.preCache.enabled ∧ cache.preCache.modulesDirectory = none then
    .error (.configuration .missingModulesDirectory)
  else .ok ()

end PluginConfig

end WasmTasks
