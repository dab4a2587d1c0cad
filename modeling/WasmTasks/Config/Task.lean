import WasmTasks.Path
import WasmTasks.Text.Utf8

/-!
The configuration of one task: its module, how its input is staged in guest memory, and the entry
function that does its work.
-/

namespace WasmTasks

structure IoBufferConfig where
  enabled : Bool
  /-- Informational: a write is bounded by guest memory, not by this. -/
  size : UInt32
  inputValue : String
  allocator : String
  args : List Int64
  deriving DecidableEq, Repr

structure MainConfig where
  entry : String
  args : List Int64
  deriving DecidableEq, Repr

structure TaskConfig where
  modulePath : Path
  ioBuffer : IoBufferConfig
  main : MainConfig
  deriving DecidableEq, Repr

/-- A configuration bound to the identifier the orchestrator chose. -/
structure TaskDescriptor where
  id : String
  config : TaskConfig
  deriving DecidableEq, Repr

namespace IoBufferConfig

def standard : IoBufferConfig := ⟨false, 4096, "", "alloc", []⟩

def input (config : IoBufferConfig) : Bytes :=
  Text.Utf8.encode config.inputValue

end IoBufferConfig

namespace MainConfig

def standard : MainConfig := ⟨"handle_buffer", []⟩

end MainConfig

namespace TaskConfig

def ofModule (path : Path) : TaskConfig := ⟨path, .standard, .standard⟩

def withEntry (config : TaskConfig) (entry : String) (args : List Int64) : TaskConfig :=
  { config with main := ⟨entry, args⟩ }

def withInput (config : TaskConfig) (value : String) : TaskConfig :=
  { config with ioBuffer := { config.ioBuffer with enabled := true, inputValue := value } }

end TaskConfig

end WasmTasks
