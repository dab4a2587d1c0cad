/-!
What can go wrong inside one task: while calling a guest function, and while staging input into
guest memory. Each failure is a cause; its wording is fixed by one `message` function per type.
-/

namespace WasmTasks

inductive SignatureMismatch where
  | arity (expected given : Nat)
  | argumentRange (index : Nat) (argument : Int64)
  | parameterType (index : Nat) (type : String)
  | resultValue (value : String)
  | noAllocatorValue
  | described (reason : String)
  deriving DecidableEq, Repr

namespace SignatureMismatch

def message : SignatureMismatch → String
  | arity expected given => s!"expected {expected} arguments, got {given}"
  | argumentRange index argument =>
      s!"argument {index} ({argument.toInt}) does not fit parameter type i32"
  | parameterType index type => s!"parameter {index} has unsupported type {type}"
  | resultValue value => s!"unsupported result value {value}"
  | noAllocatorValue => "allocator returned no value"
  | described reason => reason

end SignatureMismatch

inductive InstantiationFault where
  | unknownImport (space name : String)
  | startTrap (chain : String)
  | unusableArtifact (reason : String)
  | described (reason : String)
  deriving DecidableEq, Repr

namespace InstantiationFault

def message : InstantiationFault → String
  | unknownImport space name => s!"unknown import: `{space}::{name}` has not been defined"
  | startTrap chain => chain
  | unusableArtifact reason => reason
  | described reason => reason

end InstantiationFault

inductive CallError where
  | missingFunction (function : String)
  | signature (function : String) (mismatch : SignatureMismatch)
  | instantiation (fault : InstantiationFault)
  | trap (function description : String) (code : Option String)
  | interrupted (function : String)
  deriving DecidableEq, Repr

namespace CallError

def message : CallError → String
  | missingFunction function => s!"function '{function}' not found"
  | signature function mismatch => s!"function '{function}' signature mismatch: {mismatch.message}"
  | instantiation fault => s!"instantiation failed: {fault.message}"
  | trap function description _ => s!"function '{function}' trapped: {description}"
  | interrupted function => s!"function '{function}' interrupted"

def isInterrupted : CallError → Bool
  | interrupted _ => true
  | _ => false

end CallError

inductive BufferError where
  | missingAllocator (function : String)
  | invalidOffset (function : String) (offset : Int64)
  | missingMemory
  | outOfBounds (offset length memorySize : Nat)
  | allocator (error : CallError)
  deriving DecidableEq, Repr

namespace BufferError

def message : BufferError → String
  | missingAllocator function => s!"allocator function '{function}' not found"
  | invalidOffset function offset =>
      s!"allocator function '{function}' returned invalid offset {offset.toInt}"
  | missingMemory => "module does not export a memory"
  | outOfBounds offset length memorySize =>
      s!"write of {length} bytes at offset {offset} exceeds guest memory of {memorySize} bytes"
  | allocator error => s!"allocator call failed: {error.message}"

end BufferError

inductive TaskFault where
  | buffer (error : BufferError)
  | call (error : CallError)
  deriving DecidableEq, Repr

namespace TaskFault

def message : TaskFault → String
  | buffer error => s!"Buffer error: {error.message}"
  | call error => s!"Call error: {error.message}"

/-- An interruption counts also when it ended the allocator call. -/
def isInterrupted : TaskFault → Bool
  | call error => error.isInterrupted
  | buffer (.allocator error) => error.isInterrupted
  | buffer _ => false

end TaskFault

end WasmTasks
