import WasmTasks.Path

/-!
Least frequently used: the victim is the key with the fewest accesses, and of those the one
admitted first.
-/

namespace WasmTasks.Cache

structure Lfu.Entry where
  path : Path
  accesses : Nat
  serial : Nat
  deriving DecidableEq, Repr

structure Lfu where
  entries : List Lfu.Entry
  nextSerial : Nat
  deriving Repr

namespace Lfu

namespace Entry

/-- Fewer accesses first, then the earlier admission. -/
def before (a b : Entry) : Bool :=
  a.accesses < b.accesses || (a.accesses = b.accesses && a.serial < b.serial)

end Entry

def empty : Lfu := ⟨[], 0⟩

def tracked (policy : Lfu) : List Path :=
  policy.entries.map Entry.path

/-- A key that is tracked already starts over and keeps its spelling. -/
def add (policy : Lfu) (path : Path) : Lfu :=
  let entries :=
    if policy.entries.any (fun entry => entry.path.Same path) then
      policy.entries.map fun entry =>
        if entry.path.Same path then { entry with accesses := 0, serial := policy.nextSerial }
        else entry
    else policy.entries ++ [⟨path, 0, policy.nextSerial⟩]
  ⟨entries, policy.nextSerial + 1⟩

def touch (policy : Lfu) (path : Path) : Lfu :=
  { policy with
    entries := policy.entries.map fun entry =>
      if entry.path.Same path then { entry with accesses := entry.accesses + 1 } else entry }

def remove (policy : Lfu) (path : Path) : Lfu :=
  { policy with entries := policy.entries.filter fun entry => ¬ entry.path.Same path }

def least? : List Entry → Option Entry
  | [] => none
  | entry :: rest =>
      match least? rest with
      | none => some entry
      | some best => if best.before entry then some best else some entry

theorem mem_of_least? {entries : List Entry} {entry : Entry}
    (found : least? entries = some entry) : entry ∈ entries := by
  induction entries generalizing entry with
  | nil => simp [least?] at found
  | cons head rest ih =>
      simp only [least?] at found
      split at found
      · simp_all
      · rename_i best known
        split at found
        · cases found; exact List.mem_cons_of_mem _ (ih known)
        · cases found; exact List.mem_cons_self

def evict? (policy : Lfu) : Option (Path × Lfu) :=
  (least? policy.entries).map fun entry => (entry.path, policy.remove entry.path)

theorem length_tracked_evict? {policy rest : Lfu} {victim : Path}
    (evicted : policy.evict? = some (victim, rest)) :
    rest.tracked.length < policy.tracked.length := by
  simp only [evict?, Option.map_eq_some_iff] at evicted
  obtain ⟨entry, found, same⟩ := evicted
  cases same
  simp only [tracked, List.length_map, remove]
  exact List.length_filter_lt_length_iff_exists.mpr
    ⟨entry, mem_of_least? found, by simp [Path.Same]⟩

end Lfu

end WasmTasks.Cache
