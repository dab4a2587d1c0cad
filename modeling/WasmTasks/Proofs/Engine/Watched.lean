import WasmTasks.Engine.Interrupt
import WasmTasks.Protocol.Execute

/-!
Execution in a world that does not stand still. Between any two steps of a task that look at its
stop request or at the epoch, its own interruption may make progress and other tasks may advance the
epoch. What a guest does is left open; what it meets at its checkpoints is written down.
-/

namespace WasmTasks

/-- What may happen between two steps. An interruption sets the flag and advances the epoch later;
only the first one of a task does either. -/
inductive Disturbance where
  | request
  | advance
  | other

inductive Interruption where
  | idle
  | requested
  | returned
  deriving DecidableEq

structure World where
  epoch : Nat
  interruption : Interruption

namespace World

def disturb (world : World) : Disturbance → World
  | .request =>
      match world.interruption with
      | .idle => { world with interruption := .requested }
      | _ => world
  | .advance =>
      match world.interruption with
      | .requested => ⟨world.epoch + 1, .returned⟩
      | _ => world
  | .other => { world with epoch := world.epoch + 1 }

def after (world : World) (disturbances : List Disturbance) : World :=
  disturbances.foldl disturb world

def signals (world : World) : Signals :=
  ⟨world.epoch, decide (world.interruption ≠ .idle)⟩

end World

/-- A deadline in the world, and what is still to happen before each of the next steps. -/
structure Vigil where
  deadline : Deadline
  world : World
  ahead : List (List Disturbance)

namespace Vigil

def observe (vigil : Vigil) : Vigil :=
  match vigil.ahead with
  | [] => vigil
  | now :: later => { vigil with world := vigil.world.after now, ahead := later }

def arm (vigil : Vigil) : Vigil :=
  { vigil.observe with deadline := .arm vigil.observe.world.epoch }

/-- A number of checkpoints: the worlds they were reached in, and whether the last one aborted. -/
def pass : Nat → Vigil → List World × Bool × Vigil
  | 0, vigil => ([], false, vigil)
  | count + 1, vigil =>
      match vigil.observe.deadline.check vigil.observe.world.signals with
      | none => ([vigil.observe.world], true, vigil.observe)
      | some renewed =>
          let (worlds, aborted, last) := pass count { vigil.observe with deadline := renewed }
          (vigil.observe.world :: worlds, aborted, last)

/-- Checkpoints without end; `none` if none of them ever aborts. -/
def spin (deadline : Deadline) (world : World) :
    List (List Disturbance) → Option (List World × Vigil)
  | [] =>
      match deadline.check world.signals with
      | none => some ([world], ⟨deadline, world, []⟩)
      | some _ => none
  | now :: later =>
      match deadline.check (world.after now).signals with
      | none => some ([world.after now], ⟨deadline, world.after now, later⟩)
      | some renewed =>
          (spin renewed (world.after now) later).map fun (worlds, last) =>
            (world.after now :: worlds, last)

def final (vigil : Vigil) : World :=
  vigil.ahead.foldl World.after vigil.world

end Vigil

/-- A call of a guest: the checkpoints on its way, none for one that has no end, the guest as it
comes to each of them, and what comes of the call if none of them aborts it. -/
structure Behaviour (γ : Type) where
  checkpoints : Option Nat
  reached : Nat → γ
  answer : Except CallError (List Int64)
  guest : γ

/-- A guest that runs nothing when it is opened. -/
structure Conduct (γ : Type) where
  opening : Except CallError γ
  call : String → List Int64 → γ → Behaviour γ
  write : Nat → Bytes → γ → Except BufferError γ

inductive Sighting where
  | armed (world : World)
  | looked (world : World)
  | called (function : String) (checkpoints : List World) (answer : Except CallError (List Int64))

structure Watched (γ : Type) where
  guest : Option γ
  vigil : Vigil
  trail : List Sighting

namespace Watched

variable {γ : Type}

def start (world : World) (ahead : List (List Disturbance)) : Watched γ :=
  ⟨none, ⟨.arm world.epoch, world, ahead⟩, []⟩

def openContext (conduct : Conduct γ) : Session (Watched γ) (Except CallError Unit) := fun watched =>
  let vigil := watched.vigil.arm
  let trail := watched.trail ++ [.armed vigil.world]
  match conduct.opening with
  | .error error => .answered (.error error) ⟨none, vigil, trail⟩
  | .ok guest => .answered (.ok ()) ⟨some guest, vigil, trail⟩

def stopRequested (watched : Watched γ) : Bool × Watched γ :=
  let vigil := watched.vigil.observe
  (vigil.world.signals.requested,
    { watched with vigil := vigil, trail := watched.trail ++ [.looked vigil.world] })

/-- What is left of a call that ended at this point of the world. -/
def conclude (watched : Watched γ) (function : String) (guest : γ) (vigil : Vigil)
    (checkpoints : List World) (answer : Except CallError (List Int64)) :
    Reply (Watched γ) (Except CallError (List Int64)) :=
  .answered answer
    ⟨some guest, vigil, watched.trail ++ [.called function checkpoints answer]⟩

def call (conduct : Conduct γ) (function : String) (args : List Int64) :
    Session (Watched γ) (Except CallError (List Int64)) := fun watched =>
  match watched.guest with
  | none => .answered (.error (.missingFunction function)) watched
  | some guest =>
      let behaviour := conduct.call function args guest
      match behaviour.checkpoints with
      | none =>
          match Vigil.spin watched.vigil.deadline watched.vigil.world watched.vigil.ahead with
          | none => .endless
          | some (worlds, vigil) =>
              watched.conclude function (behaviour.reached (worlds.length - 1)) vigil worlds
                (.error (.interrupted function))
      | some count =>
          match watched.vigil.pass count with
          | (worlds, true, vigil) =>
              watched.conclude function (behaviour.reached (worlds.length - 1)) vigil worlds
                (.error (.interrupted function))
          | (worlds, false, vigil) =>
              watched.conclude function behaviour.guest vigil worlds behaviour.answer

def write (conduct : Conduct γ) (offset : Nat) (bytes : Bytes) :
    Session (Watched γ) (Except BufferError Unit) := fun watched =>
  match watched.guest with
  | none => .answered (.error .missingMemory) watched
  | some guest =>
      match conduct.write offset bytes guest with
      | .error error => .answered (.error error) watched
      | .ok guest => .answered (.ok ()) { watched with guest := some guest }

def backend (conduct : Conduct γ) : Backend (Watched γ) where
  openContext := openContext conduct
  stopRequested := stopRequested
  call := call conduct
  write := write conduct

end Watched

end WasmTasks
