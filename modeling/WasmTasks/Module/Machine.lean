import WasmTasks.Cache.Basic
import WasmTasks.Guest.Basic
import WasmTasks.Module.Digest

/-!
The compiler and the runtime, known only by what they are asked. Modules are compiled from the bytes
of a file, and kept in the cache as artifacts from which the machine takes them up again.
-/

namespace WasmTasks

/-- Refusals come with a reason in words. -/
structure Machine (μ ν : Type) where
  compile : Bytes → Except String μ
  serialize : μ → Except String Bytes
  deserialize : Bytes → Except String μ
  guest : μ → Guest ν

structure CompiledModule (μ : Type) where
  module : μ
  /-- The hash of the file that the module was compiled from. -/
  contentHash : String

namespace CompiledModule

def describe {μ : Type} (compiled : CompiledModule μ) : String :=
  s!"CompiledModule \x7b content_hash: {Text.quote compiled.contentHash}, .. \x7d"

end CompiledModule

namespace Machine

variable {μ ν : Type} (machine : Machine μ ν)

def ofBytes (content : Bytes) : Except LoadFault (CompiledModule μ) :=
  if content = [] then .error .empty
  else
    match machine.compile content with
    | .error diagnostic => .error (.uncompilable diagnostic)
    | .ok module => .ok ⟨module, Digest.contentHash content⟩

def toCached (path : Path) (compiled : CompiledModule μ) : Except DriverError CachedModule :=
  match machine.serialize compiled.module with
  | .error reason => .error (.load path (.unserializable reason))
  | .ok artifact => .ok ⟨path, .wasmtime, artifact, compiled.contentHash⟩

def ofCached (cached : CachedModule) : Except DriverError (CompiledModule μ) :=
  match machine.deserialize cached.artifact with
  | .error reason => .error (.load cached.key (.undecodable reason))
  | .ok module => .ok ⟨module, cached.contentHash⟩

/-- The module of a file with this content. -/
def cachedOf (path : Path) (content : Bytes) : Except DriverError CachedModule :=
  match machine.ofBytes content with
  | .error fault => .error (.load path fault)
  | .ok compiled => machine.toCached path compiled

end Machine

end WasmTasks
