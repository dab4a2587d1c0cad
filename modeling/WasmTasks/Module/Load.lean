import WasmTasks.Cache.Resolve
import WasmTasks.FileTree.Basic
import WasmTasks.Module.Machine

/-!
Modules from files.
-/

namespace WasmTasks.Machine

variable {μ ν : Type}

def loadModule (machine : Machine μ ν) (tree : FileTree) : Loader := fun path =>
  match tree.read path with
  | .error error => .error (.load path (.unreadable error.message))
  | .ok content => machine.cachedOf path content

end WasmTasks.Machine
