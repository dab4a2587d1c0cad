import WasmTasks.Path

/-!
Adaptive replacement. Held keys are recent (seen once) or frequent (seen again); keys that were
evicted are remembered as ghosts of the list they left, and the return of a ghost moves the target
length of the recent list toward the side it came from.
-/

namespace WasmTasks.Cache

/-- In every list the oldest key stands in front. -/
structure Arc where
  capacity : Nat
  target : Nat
  recent : List Path
  frequent : List Path
  recentGhosts : List Path
  frequentGhosts : List Path
  deriving Repr

namespace Arc

/-- A capacity of zero counts as one. -/
def empty (capacity : Nat) : Arc :=
  ⟨max capacity 1, 0, [], [], [], []⟩

def tracked (policy : Arc) : List Path :=
  policy.recent ++ policy.frequent

def holds (list : List Path) (path : Path) : Bool :=
  list.any fun entry => entry.Same path

def drop (list : List Path) (path : Path) : List Path :=
  list.eraseP fun entry => entry.Same path

/-- How far the target moves for a ghost, given the lengths of the ghost's list, without it, and of
the other one. -/
def shift (own other : Nat) : Nat :=
  max (other / max own 1) 1

/-- A ghost returns as a frequent key, any other key is recent. -/
def add (policy : Arc) (path : Path) : Arc :=
  if holds policy.recentGhosts path then
    let ghosts := drop policy.recentGhosts path
    { policy with
      recentGhosts := ghosts
      target := min (policy.target + shift ghosts.length policy.frequentGhosts.length)
        policy.capacity
      frequent := policy.frequent ++ [path] }
  else if holds policy.frequentGhosts path then
    let ghosts := drop policy.frequentGhosts path
    { policy with
      frequentGhosts := ghosts
      target := policy.target - shift ghosts.length policy.recentGhosts.length
      frequent := policy.frequent ++ [path] }
  else { policy with recent := policy.recent ++ [path] }

/-- A held key becomes the newest frequent one. -/
def touch (policy : Arc) (path : Path) : Arc :=
  if holds policy.recent path then
    { policy with
      recent := drop policy.recent path
      frequent := policy.frequent ++ [path] }
  else if holds policy.frequent path then
    { policy with frequent := drop policy.frequent path ++ [path] }
  else policy

/-- Ghosts are forgotten; a key leaves without becoming one. -/
def remove (policy : Arc) (path : Path) : Arc :=
  if holds policy.recent path then { policy with recent := drop policy.recent path }
  else { policy with frequent := drop policy.frequent path }

def trim (capacity : Nat) (ghosts : List Path) : List Path :=
  ghosts.drop (ghosts.length - capacity)

def demoteRecent (policy : Arc) (victim : Path) (rest : List Path) : Arc :=
  { policy with
    recent := rest
    recentGhosts := trim policy.capacity (policy.recentGhosts ++ [victim])
    frequentGhosts := trim policy.capacity policy.frequentGhosts }

def demoteFrequent (policy : Arc) (victim : Path) (rest : List Path) : Arc :=
  { policy with
    frequent := rest
    recentGhosts := trim policy.capacity policy.recentGhosts
    frequentGhosts := trim policy.capacity (policy.frequentGhosts ++ [victim]) }

/-- The victim is the oldest recent key while there are more of them than the target, or while
there is no frequent key; otherwise it is the oldest frequent key. -/
def evict? (policy : Arc) : Option (Path × Arc) :=
  match policy.recent, policy.frequent with
  | [], [] => none
  | [], victim :: rest => some (victim, policy.demoteFrequent victim rest)
  | victim :: rest, [] => some (victim, policy.demoteRecent victim rest)
  | oldestRecent :: recent, oldestFrequent :: frequent =>
      if policy.target < recent.length + 1 then
        some (oldestRecent, policy.demoteRecent oldestRecent recent)
      else some (oldestFrequent, policy.demoteFrequent oldestFrequent frequent)

theorem length_tracked_evict? {policy rest : Arc} {victim : Path}
    (evicted : policy.evict? = some (victim, rest)) :
    rest.tracked.length < policy.tracked.length := by
  unfold evict? at evicted
  split at evicted
  · simp at evicted
  all_goals
    (try split at evicted)
    all_goals
      simp only [Option.some.injEq, Prod.mk.injEq] at evicted
      obtain ⟨_, rfl⟩ := evicted
      simp_all [tracked, demoteFrequent, demoteRecent]

end Arc

end WasmTasks.Cache
