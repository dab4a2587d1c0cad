import WasmTasks.Path
import WasmTasks.Text.Quoted

/-!
Errors of the driver itself, as causes. `DriverError.message` words them for the orchestrator;
`isNotFound`, `isStateError` and `isFatal` sort them by what the caller can do about them.
-/

namespace WasmTasks

inductive ConfigFile where
  | plugin
  | task
  deriving DecidableEq, Repr

namespace ConfigFile

def noun : ConfigFile → String
  | plugin => "config"
  | task => "task config"

def fileNoun : ConfigFile → String
  | plugin => "config file"
  | task => "task config"

end ConfigFile

/-- Why a configuration text gives no configuration: it breaks the grammar, or its values have the
wrong shape. -/
inductive ParseFault where
  | malformed
  | mismatch (detail : String)
  deriving DecidableEq, Repr

namespace ParseFault

def detail : ParseFault → String
  | malformed => ""
  | mismatch detail => detail

end ParseFault

inductive ConfigurationFault where
  | unreadable (file : ConfigFile) (path : Path) (reason : String)
  | unparsable (file : ConfigFile) (fault : ParseFault)
  | zeroCacheSize
  | zeroConfiguredLifetime
  | zeroLifetime
  | missingModulesDirectory
  | unsetModulesDirectory
  | unknownEviction (value : String)
  | notADirectory (path : Path)
  | unscannable (path : Path) (reason : String)
  | tooManyModules (capacity found : Nat)
  | zeroStatsInterval
  | described (reason : String)
  deriving DecidableEq, Repr

namespace ConfigurationFault

def message : ConfigurationFault → String
  | unreadable file path reason => s!"failed to read {file.fileNoun} '{path}': {reason}"
  | unparsable file fault => s!"failed to parse {file.noun}: {fault.detail}"
  | zeroCacheSize => "cache size must be > 0, but specified 0"
  | zeroConfiguredLifetime => "cache entry time-to-live must be > 0, but specified 0"
  | zeroLifetime => "cache entry time-to-live must be > 0 when expiration is enabled"
  | missingModulesDirectory => "cache pre-cache is enabled but modulesDir is not specified"
  | unsetModulesDirectory => "cache.preCache.modulesDir must be set"
  | unknownEviction value =>
      "unexpected cache type specified, expected types: [lfu, lru, arc, simple], but specified "
        ++ value
  | notADirectory path => s!"modules directory {path} does not exist or is not a directory"
  | unscannable path reason => s!"unable to scan modules directory {path}: {reason}"
  | tooManyModules capacity found =>
      s!"cache size ({capacity}) must not be less than number of pre-cached modules ({found})"
  | zeroStatsInterval => "stats interval must be > 0"
  | described reason => reason

end ConfigurationFault

inductive LoadFault where
  | unreadable (reason : String)
  | empty
  | uncompilable (diagnostic : String)
  | unserializable (reason : String)
  | undecodable (reason : String)
  | described (reason : String)
  deriving DecidableEq, Repr

namespace LoadFault

def message : LoadFault → String
  | unreadable reason => s!"unable to read file: {reason}"
  | empty => "Invalid Wasm: file is empty"
  | uncompilable diagnostic => s!"Module compilation failed: {diagnostic}"
  | unserializable reason => s!"unable to serialize module: {reason}"
  | undecodable reason => s!"unable to deserialize module: {reason}"
  | described reason => reason

end LoadFault

inductive StateConflict where
  | exitedBeforeRunning
  | alreadyRunning
  | described (reason : String)
  deriving DecidableEq, Repr

namespace StateConflict

def message : StateConflict → String
  | exitedBeforeRunning => "task exited before it started running"
  | alreadyRunning => "task is already running"
  | described reason => reason

end StateConflict

inductive DriverError where
  | configuration (fault : ConfigurationFault)
  | load (path : Path) (fault : LoadFault)
  | notFound (id : String)
  | duplicateTask (id : String)
  | taskRunning (id : String)
  | invalidState (id : String) (conflict : StateConflict)
  | unsupported (operation : String)
  | io (reason : String)
  deriving DecidableEq, Repr

namespace DriverError

def kind : DriverError → String
  | configuration _ => "Configuration"
  | load _ _ => "Load"
  | notFound _ => "NotFound"
  | duplicateTask _ => "DuplicateTask"
  | taskRunning _ => "TaskRunning"
  | invalidState _ _ => "InvalidState"
  | unsupported _ => "Unsupported"
  | io _ => "Io"

def message : DriverError → String
  | configuration fault => s!"Invalid configuration: {fault.message}"
  | load path fault => s!"Unable to load WASM module ({path}): {fault.message}"
  | notFound id => s!"Task not found: {id}"
  | duplicateTask id => s!"Task with ID {Text.quote id} already started"
  | taskRunning id => s!"Cannot destroy running task {Text.quote id}"
  | invalidState id conflict => s!"Invalid state for task {Text.quote id}: {conflict.message}"
  | unsupported operation => s!"This driver does not support {operation}"
  | io reason => s!"IO error: {reason}"

def isNotFound : DriverError → Bool
  | notFound _ => true
  | _ => false

/-- A conflict with a task's state that the caller can recover from. -/
def isStateError : DriverError → Bool
  | duplicateTask _ => true
  | taskRunning _ => true
  | invalidState _ _ => true
  | _ => false

/-- An error that must keep the driver from starting. -/
def isFatal : DriverError → Bool
  | configuration _ => true
  | load _ _ => true
  | _ => false

end DriverError

/-- Why a call gives no result: it returns an error, or it does not return at all, because its thread
panics or the whole process is aborted. -/
inductive Failure where
  | refused (error : DriverError)
  | aborted
  deriving DecidableEq, Repr

end WasmTasks
