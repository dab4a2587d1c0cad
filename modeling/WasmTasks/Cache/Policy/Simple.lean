import WasmTasks.Path

/-!
A set of keys without an order of use: some tracked key is the victim.
-/

namespace WasmTasks.Cache

structure Simple where
  keys : List Path
  deriving Repr

namespace Simple

def empty : Simple := ⟨[]⟩

def tracked (policy : Simple) : List Path := policy.keys

/-- A key that is tracked already keeps its spelling. -/
def add (policy : Simple) (path : Path) : Simple :=
  if policy.keys.any (fun entry => entry.Same path) then policy
  else ⟨policy.keys ++ [path]⟩

def remove (policy : Simple) (path : Path) : Simple :=
  ⟨policy.keys.filter fun entry => ¬ entry.Same path⟩

def evict? (policy : Simple) : Option (Path × Simple) :=
  match policy.keys with
  | [] => none
  | victim :: rest => some (victim, ⟨rest⟩)

theorem length_tracked_evict? {policy rest : Simple} {victim : Path}
    (evicted : policy.evict? = some (victim, rest)) :
    rest.tracked.length < policy.tracked.length := by
  obtain ⟨keys⟩ := policy
  cases keys with
  | nil => simp [evict?] at evicted
  | cons head tail =>
      simp only [evict?, Option.some.injEq, Prod.mk.injEq] at evicted
      obtain ⟨rfl, rfl⟩ := evicted
      simp [tracked]

end Simple

end WasmTasks.Cache
