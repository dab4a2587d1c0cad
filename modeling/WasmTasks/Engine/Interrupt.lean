/-!
Stopping guest code. A task has a stop request, an engine has an epoch that every stop advances, and
running code consults both at its checkpoints once its deadline has come. A checkpoint that meets no
request only moves the deadline on, so the stops of other tasks do no harm.
-/

namespace WasmTasks

/-- A request to stop one task, and how often it advanced the epoch. -/
structure StopRequest where
  requested : Bool
  fired : Nat
  deriving DecidableEq, Repr

namespace StopRequest

def none : StopRequest := ⟨false, 0⟩

/-- Requests the stop; only the first request has an effect, and answers true. -/
def request (stop : StopRequest) : Bool × StopRequest :=
  if stop.requested then (false, stop) else (true, ⟨true, stop.fired + 1⟩)

def describe (stop : StopRequest) : String :=
  s!"InterruptHandle \x7b requested: {stop.requested}, .. \x7d"

@[simp] theorem requested_request (stop : StopRequest) : stop.request.2.requested = true := by
  unfold request
  split <;> simp_all

end StopRequest

/-- What a checkpoint sees: the epoch of the engine and whether the task is to stop. -/
structure Signals where
  epoch : Nat
  requested : Bool
  deriving DecidableEq, Repr

/-- What the successive observations of one task see; the last one stays. -/
structure Timeline where
  upcoming : List Signals
  settled : Signals
  deriving DecidableEq, Repr

namespace Timeline

def constant (signals : Signals) : Timeline := ⟨[], signals⟩

def next (timeline : Timeline) : Signals × Timeline :=
  match timeline.upcoming with
  | [] => (timeline.settled, timeline)
  | signals :: rest => (signals, ⟨rest, timeline.settled⟩)

end Timeline

/-- The epoch at which a checkpoint looks for a stop request, and how often it found none. -/
structure Deadline where
  epoch : Nat
  checks : Nat
  deriving DecidableEq, Repr

namespace Deadline

def arm (epoch : Nat) : Deadline := ⟨epoch + 1, 0⟩

/-- One checkpoint; `none` means that the code is aborted. -/
def check (deadline : Deadline) (signals : Signals) : Option Deadline :=
  if signals.epoch < deadline.epoch then some deadline
  else if signals.requested then none
  else some ⟨signals.epoch + 1, deadline.checks + 1⟩

/-- A number of checkpoints in a row, and which of them aborted the code, if one did. They are
numbered from `first` on. -/
def pass (first : Nat) : Nat → Deadline → Timeline → Option Nat × Deadline × Timeline
  | 0, deadline, timeline => (none, deadline, timeline)
  | count + 1, deadline, timeline =>
      match deadline.check timeline.next.1 with
      | none => (some first, deadline, timeline.next.2)
      | some renewed => pass (first + 1) count renewed timeline.next.2

/-- Checkpoints without end; `none` if none of them ever aborts the code. -/
def spin (settled : Signals) (first : Nat) :
    Deadline → List Signals → Option (Nat × Deadline × Timeline)
  | deadline, [] =>
      match deadline.check settled with
      | none => some (first, deadline, ⟨[], settled⟩)
      | some _ => none
  | deadline, signals :: rest =>
      match deadline.check signals with
      | none => some (first, deadline, ⟨rest, settled⟩)
      | some renewed => spin settled (first + 1) renewed rest

/-- A checkpoint that passes leaves the deadline in the future. -/
theorem lt_epoch_of_check {deadline renewed : Deadline} {signals : Signals}
    (passed : deadline.check signals = some renewed) : signals.epoch < renewed.epoch := by
  unfold check at passed
  split at passed
  · cases passed; assumption
  · split at passed
    · cases passed
    · cases passed; exact Nat.lt_succ_self _

theorem check_of_check {deadline renewed : Deadline} {signals : Signals}
    (passed : deadline.check signals = some renewed) : renewed.check signals = some renewed := by
  simp [check, lt_epoch_of_check passed]

end Deadline

end WasmTasks
