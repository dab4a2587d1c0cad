import WasmTasks.Config.Plugin
import WasmTasks.Config.Task
import WasmTasks.Config.Timestamp

/-!
The written form of every configuration: the names of its fields, and what an omitted field stands
for. Each type has a decoder and an encoder over documents, and the encoder writes every field.
Documents hold text, so what contains a path that is no text cannot be encoded.
-/

namespace WasmTasks

open Decoder RecordType

/-- Why a value has no document. -/
inductive EncodeError where
  | pathNotText
  deriving DecidableEq, Repr

def EncodeError.message : EncodeError → String
  | pathNotText => "path contains invalid UTF-8 characters"

def BackendKind.decode (dialect : Dialect) : Decoder BackendKind := fun document =>
  (unitVariant dialect BackendKind.wasmtime.name document).map fun _ => .wasmtime

def EvictionKind.decode : Decoder EvictionKind := fun document => do
  let value ← Decoder.text document
  match EvictionKind.ofName? value with
  | .ok kind => pure kind
  | .error error => .error (.refused error.message)

namespace Path

def decode : Decoder Path
  | .text value => .ok (ofString value)
  | other => .error (.wrongType other.found "path string")

def encode (path : Path) : Except EncodeError Document :=
  match path.text? with
  | some text => .ok (.text text)
  | none => .error .pathNotText

def encodeOption : Option Path → Except EncodeError Document
  | none => .ok .null
  | some path => path.encode

end Path

namespace EngineConfig

def record (dialect : Dialect) : RecordType EngineConfig where
  name := "EngineConfig"
  initial := standard
  fields := [
    .optional "backend" [] (BackendKind.decode dialect)
      fun value config => { config with backend := value },
    .optional "optimize" [] Decoder.bool fun value config => { config with optimize := value }]

def decode (dialect : Dialect) : Decoder EngineConfig :=
  (record dialect).decode dialect

def encode (config : EngineConfig) : Document :=
  .table [("backend", .text config.backend.name), ("optimize", .bool config.optimize)]

end EngineConfig

namespace ExpirationConfig

def record : RecordType ExpirationConfig where
  name := "ExpirationConfig"
  initial := standard
  fields := [
    .optional "enabled" [] Decoder.bool fun value config => { config with enabled := value },
    .optional "entryTTL" ["entry_ttl"] (Decoder.uint64 "u64")
      fun value config => { config with lifetime := value }]

def decode (dialect : Dialect) : Decoder ExpirationConfig :=
  record.decode dialect

def encode (config : ExpirationConfig) : Document :=
  .table [("enabled", .bool config.enabled), ("entryTTL", .int config.lifetime.toNat)]

end ExpirationConfig

namespace PreCacheConfig

def record : RecordType PreCacheConfig where
  name := "PreCacheConfig"
  initial := standard
  fields := [
    .optional "enabled" [] Decoder.bool fun value config => { config with enabled := value },
    .optional "modulesDir" [] (Decoder.option Path.decode)
      fun value config => { config with modulesDirectory := value }]

def decode (dialect : Dialect) : Decoder PreCacheConfig :=
  record.decode dialect

def encode (config : PreCacheConfig) : Except EncodeError Document := do
  let directory ← Path.encodeOption config.modulesDirectory
  pure (.table [("enabled", .bool config.enabled), ("modulesDir", directory)])

end PreCacheConfig

namespace CacheConfig

def record (dialect : Dialect) : RecordType CacheConfig where
  name := "CacheConfig"
  initial := standard
  fields := [
    .optional "enabled" [] Decoder.bool fun value config => { config with enabled := value },
    .optional "type" [] EvictionKind.decode fun value config => { config with kind := value },
    .optional "size" [] (Decoder.uint64 "usize") fun value config => { config with size := value },
    .optional "expiration" [] (ExpirationConfig.decode dialect)
      fun value config => { config with expiration := value },
    .optional "preCache" [] (PreCacheConfig.decode dialect)
      fun value config => { config with preCache := value }]

def decode (dialect : Dialect) : Decoder CacheConfig :=
  (record dialect).decode dialect

def encode (config : CacheConfig) : Except EncodeError Document := do
  let preCache ← config.preCache.encode
  pure (.table [
    ("enabled", .bool config.enabled),
    ("type", .text config.kind.name),
    ("size", .int config.size.toNat),
    ("expiration", config.expiration.encode),
    ("preCache", preCache)])

end CacheConfig

namespace PluginConfig

def record (dialect : Dialect) : RecordType PluginConfig where
  name := "PluginConfig"
  initial := standard
  fields := [
    .optional "engine" [] (EngineConfig.decode dialect)
      fun value config => { config with engine := value },
    .optional "cache" [] (CacheConfig.decode dialect)
      fun value config => { config with cache := value }]

def decode (dialect : Dialect) : Decoder PluginConfig :=
  (record dialect).decode dialect

def encode (config : PluginConfig) : Except EncodeError Document := do
  let cache ← config.cache.encode
  pure (.table [("engine", config.engine.encode), ("cache", cache)])

end PluginConfig

def encodeArgs (args : List Int64) : Document :=
  .list (args.map fun value => .int value.toInt)

namespace IoBufferConfig

def record : RecordType IoBufferConfig where
  name := "IoBufferConfig"
  initial := standard
  fields := [
    .optional "enabled" [] Decoder.bool fun value config => { config with enabled := value },
    .optional "size" [] Decoder.uint32 fun value config => { config with size := value },
    .optional "inputValue" [] Decoder.text fun value config => { config with inputValue := value },
    .optional "allocatorFunctionName" ["IOBufFuncName"] Decoder.text
      fun value config => { config with allocator := value },
    .optional "args" [] (Decoder.list Decoder.int64)
      fun value config => { config with args := value }]

def decode (dialect : Dialect) : Decoder IoBufferConfig :=
  record.decode dialect

def encode (config : IoBufferConfig) : Document :=
  .table [
    ("enabled", .bool config.enabled),
    ("size", .int config.size.toNat),
    ("inputValue", .text config.inputValue),
    ("allocatorFunctionName", .text config.allocator),
    ("args", encodeArgs config.args)]

end IoBufferConfig

namespace MainConfig

def record : RecordType MainConfig where
  name := "MainConfig"
  initial := standard
  fields := [
    .optional "entryFunctionName" ["mainFuncName"] Decoder.text
      fun value config => { config with entry := value },
    .optional "args" [] (Decoder.list Decoder.int64)
      fun value config => { config with args := value }]

def decode (dialect : Dialect) : Decoder MainConfig :=
  record.decode dialect

def encode (config : MainConfig) : Document :=
  .table [("entryFunctionName", .text config.entry), ("args", encodeArgs config.args)]

end MainConfig

namespace TaskConfig

def record (dialect : Dialect) : RecordType TaskConfig where
  name := "TaskConfig"
  initial := ofModule ⟨[]⟩
  fields := [
    .mandatory "modulePath" Path.decode fun value config => { config with modulePath := value },
    .optional "ioBuffer" [] (IoBufferConfig.decode dialect)
      fun value config => { config with ioBuffer := value },
    .optional "main" [] (MainConfig.decode dialect)
      fun value config => { config with main := value }]

def decode (dialect : Dialect) : Decoder TaskConfig :=
  (record dialect).decode dialect

def encode (config : TaskConfig) : Except EncodeError Document := do
  let modulePath ← config.modulePath.encode
  pure (.table [
    ("modulePath", modulePath),
    ("ioBuffer", config.ioBuffer.encode),
    ("main", config.main.encode)])

end TaskConfig

namespace TaskDescriptor

def record (dialect : Dialect) : RecordType TaskDescriptor where
  name := "TaskDescriptor"
  initial := ⟨"", .ofModule ⟨[]⟩⟩
  fields := [
    .mandatory "id" Decoder.text fun value descriptor => { descriptor with id := value },
    .mandatory "config" (TaskConfig.decode dialect)
      fun value descriptor => { descriptor with config := value }]

def decode (dialect : Dialect) : Decoder TaskDescriptor :=
  (record dialect).decode dialect

def encode (descriptor : TaskDescriptor) : Except EncodeError Document := do
  let config ← descriptor.config.encode
  pure (.table [("id", .text descriptor.id), ("config", config)])

end TaskDescriptor

/-- What the orchestrator keeps of a task it started. -/
structure TaskHandle where
  version : UInt32
  id : String
  startedAt : Timestamp
  config : TaskConfig
  deriving DecidableEq, Repr

namespace TaskHandle

/-- Layout of the handles written by this driver. -/
def currentVersion : UInt32 := 1

def record (dialect : Dialect) : RecordType TaskHandle where
  name := "TaskHandle"
  initial := ⟨0, "", ⟨0, 0⟩, .ofModule ⟨[]⟩⟩
  fields := [
    .mandatory "version" Decoder.uint32 fun value handle => { handle with version := value },
    .mandatory "task_id" Decoder.text fun value handle => { handle with id := value },
    .mandatory "started_at" (Timestamp.decode dialect)
      fun value handle => { handle with startedAt := value },
    .mandatory "config" (TaskConfig.decode dialect)
      fun value handle => { handle with config := value }]

def decode (dialect : Dialect) : Decoder TaskHandle :=
  (record dialect).decode dialect

def encode (handle : TaskHandle) : Except EncodeError Document := do
  let config ← handle.config.encode
  pure (.table [
    ("version", .int handle.version.toNat),
    ("task_id", .text handle.id),
    ("started_at", handle.startedAt.encode),
    ("config", config)])

end TaskHandle

end WasmTasks
