import WasmTasks.Path

/-!
Least recently used: the victim is the key admitted or touched longest ago.
-/

namespace WasmTasks.Cache

/-- The least recently used key stands in front. -/
structure Lru where
  order : List Path
  deriving Repr

namespace Lru

def empty : Lru := ⟨[]⟩

def tracked (policy : Lru) : List Path := policy.order

def remove (policy : Lru) (path : Path) : Lru :=
  ⟨policy.order.filter fun entry => ¬ entry.Same path⟩

/-- The key moves to the back in its new spelling. -/
def touch (policy : Lru) (path : Path) : Lru :=
  ⟨(policy.remove path).order ++ [path]⟩

def add (policy : Lru) (path : Path) : Lru :=
  policy.touch path

def evict? (policy : Lru) : Option (Path × Lru) :=
  match policy.order with
  | [] => none
  | victim :: rest => some (victim, ⟨rest⟩)

theorem length_tracked_evict? {policy rest : Lru} {victim : Path}
    (evicted : policy.evict? = some (victim, rest)) :
    rest.tracked.length < policy.tracked.length := by
  obtain ⟨order⟩ := policy
  cases order with
  | nil => simp [evict?] at evicted
  | cons head tail =>
      simp only [evict?, Option.some.injEq, Prod.mk.injEq] at evicted
      obtain ⟨rfl, rfl⟩ := evicted
      simp [tracked]

end Lru

end WasmTasks.Cache
