import WasmTasks.Error

/-!
The names of the cache replacement strategies.
-/

namespace WasmTasks

inductive EvictionKind where
  | lfu
  | lru
  | arc
  | simple
  deriving DecidableEq, Repr, Inhabited

namespace EvictionKind

def name : EvictionKind → String
  | lfu => "lfu"
  | lru => "lru"
  | arc => "arc"
  | simple => "simple"

/-- The name of the constructor, as values are listed for debugging. -/
def label : EvictionKind → String
  | lfu => "Lfu"
  | lru => "Lru"
  | arc => "Arc"
  | simple => "Simple"

def ofName? (value : String) : Except DriverError EvictionKind :=
  if value = "lfu" then .ok lfu
  else if value = "lru" then .ok lru
  else if value = "arc" then .ok arc
  else if value = "simple" then .ok simple
  else .error (.configuration (.unknownEviction value))

@[simp] theorem ofName?_name (kind : EvictionKind) : ofName? kind.name = .ok kind := by
  cases kind <;> rfl

end EvictionKind

end WasmTasks
