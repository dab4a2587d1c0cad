import WasmTasks.Cache.Basic

/-!
Runs of a cache: any operations in any order, with time passing between them. A simple policy has
no order of its own, so which of its keys stands in front may change at any moment.
-/

namespace WasmTasks.Cache

namespace Policy

/-- The simple policy takes its keys up in another order; the other policies have a fixed one. -/
def reorder (order : List Path) : Policy → Policy
  | simple policy => if order.Perm policy.keys then simple ⟨order⟩ else simple policy
  | policy => policy

end Policy

inductive Operation where
  | put (stored : CachedModule)
  | get (path : Path)
  | remove (path : Path)
  | contains (path : Path)
  | clear
  | advance (milliseconds : Nat)
  | reorder (order : List Path)

/-- A cache and the time it is used at. -/
structure Clocked where
  cache : ModuleCache
  now : Nat

namespace Clocked

def apply (state : Clocked) : Operation → Clocked
  | .put stored => { state with cache := state.cache.put state.now stored }
  | .get path => { state with cache := (state.cache.get state.now path).2 }
  | .remove path => { state with cache := (state.cache.remove path).2 }
  | .contains _ => state
  | .clear => { state with cache := state.cache.clear }
  | .advance milliseconds => { state with now := state.now + milliseconds }
  | .reorder order =>
      { state with cache := { state.cache with policy := state.cache.policy.reorder order } }

def run (state : Clocked) (operations : List Operation) : Clocked :=
  operations.foldl apply state

end Clocked

end WasmTasks.Cache
