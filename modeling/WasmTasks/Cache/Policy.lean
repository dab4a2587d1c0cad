import WasmTasks.Cache.Policy.Arc
import WasmTasks.Cache.Policy.Lfu
import WasmTasks.Cache.Policy.Lru
import WasmTasks.Cache.Policy.Simple
import WasmTasks.Config.EvictionKind

/-!
A replacement policy follows the keys of a cache and chooses which one makes room. It holds keys
only: `add` starts to track one, `touch` records a use, `remove` forgets one that left for
another reason, and `evict?` chooses a victim.
-/

namespace WasmTasks.Cache

inductive Policy where
  | lfu (policy : Lfu)
  | lru (policy : Lru)
  | arc (policy : Arc)
  | simple (policy : Simple)
  deriving Repr

namespace Policy

def empty (kind : EvictionKind) (capacity : Nat) : Policy :=
  match kind with
  | .lfu => lfu .empty
  | .lru => lru .empty
  | .arc => arc (.empty capacity)
  | .simple => simple .empty

def kind : Policy → EvictionKind
  | lfu _ => .lfu
  | lru _ => .lru
  | arc _ => .arc
  | simple _ => .simple

def tracked : Policy → List Path
  | lfu policy => policy.tracked
  | lru policy => policy.tracked
  | arc policy => policy.tracked
  | simple policy => policy.tracked

def add (path : Path) : Policy → Policy
  | lfu policy => lfu (policy.add path)
  | lru policy => lru (policy.add path)
  | arc policy => arc (policy.add path)
  | simple policy => simple (policy.add path)

def touch (path : Path) : Policy → Policy
  | lfu policy => lfu (policy.touch path)
  | lru policy => lru (policy.touch path)
  | arc policy => arc (policy.touch path)
  | simple policy => simple policy

def remove (path : Path) : Policy → Policy
  | lfu policy => lfu (policy.remove path)
  | lru policy => lru (policy.remove path)
  | arc policy => arc (policy.remove path)
  | simple policy => simple (policy.remove path)

def evict? : Policy → Option (Path × Policy)
  | lfu policy => policy.evict?.map fun (victim, rest) => (victim, lfu rest)
  | lru policy => policy.evict?.map fun (victim, rest) => (victim, lru rest)
  | arc policy => policy.evict?.map fun (victim, rest) => (victim, arc rest)
  | simple policy => policy.evict?.map fun (victim, rest) => (victim, simple rest)

def target? : Policy → Option Nat
  | arc policy => some policy.target
  | _ => none

theorem length_tracked_evict? {policy rest : Policy} {victim : Path}
    (evicted : policy.evict? = some (victim, rest)) :
    rest.tracked.length < policy.tracked.length := by
  cases policy <;> simp only [evict?, Option.map_eq_some_iff] at evicted <;>
    obtain ⟨⟨chosen, left⟩, found, same⟩ := evicted <;> cases same <;> simp only [tracked]
  · exact Lfu.length_tracked_evict? found
  · exact Lru.length_tracked_evict? found
  · exact Arc.length_tracked_evict? found
  · exact Simple.length_tracked_evict? found

@[simp] theorem kind_empty (kind : EvictionKind) (capacity : Nat) :
    (empty kind capacity).kind = kind := by
  cases kind <;> rfl

def drain (policy : Policy) : List Path × Policy :=
  match _found : policy.evict? with
  | none => ([], policy)
  | some (victim, rest) =>
      let (victims, last) := rest.drain
      (victim :: victims, last)
termination_by policy.tracked.length
decreasing_by exact length_tracked_evict? _found

end Policy

end WasmTasks.Cache
