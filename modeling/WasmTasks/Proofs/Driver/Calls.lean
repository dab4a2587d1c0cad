import WasmTasks.Driver.Basic
import WasmTasks.Proofs.Task.Registry

/-!
Calls of a driver in flight. Each call is at one of its steps, and between two of them any other
call may take as many of its own; a call that waits for a module may also be dropped, and running
work may end at any time.
-/

namespace WasmTasks.Driver

/-- Why a task that was reserved does not come to run. -/
inductive Withdrawal where
  | failed (error : DriverError)
  | abandoned

/-- A start after its reservation. From `stopping` to `discarding` the reservation is given up. -/
inductive StartPhase where
  | loading
  | loaded (outcome : Except DriverError CachedModule)
  | stopping (reason : Withdrawal)
  | interrupting (reason : Withdrawal)
  | discarding (reason : Withdrawal)
  | announcing (handle : TaskHandle)
  | started (handle : TaskHandle)
  | withdrawn (reason : Withdrawal)

namespace StartPhase

/-- Whether the reservation still stands or is being given up. -/
def armed : StartPhase → Bool
  | loading | loaded _ | stopping _ | interrupting _ | discarding _ => true
  | announcing _ | started _ | withdrawn _ => false

def step (ref : TaskRef) (driver : Driver) : StartPhase → StartPhase × Driver
  | loading => (loading, driver)
  | loaded (.error error) =>
      (stopping (.failed error),
        driver.withTasks (driver.tasks.finish ref (.failed error.message)).2)
  | loaded (.ok stored) =>
      match driver.tasks.task? ref with
      | none => (loaded (.ok stored), driver)
      | some task =>
          match driver.tasks.start ref ⟨stored, driver.signals task⟩ with
          | .error error => (stopping (.failed error), driver)
          | .ok tasks => (announcing (handleOf task), driver.withTasks tasks)
  | stopping reason =>
      if driver.tasks.isRunning ref then (interrupting reason, driver)
      else (discarding reason, driver.withTasks (driver.tasks.stop ref).2)
  | interrupting reason => (discarding reason, driver.withTasks (driver.tasks.interrupt ref))
  | discarding reason => (withdrawn reason, driver.withTasks (driver.tasks.discard ref).2)
  | announcing handle =>
      (started handle, driver.withTasks (driver.tasks.publish handle.id "Task started"))
  | started handle => (started handle, driver)
  | withdrawn reason => (withdrawn reason, driver)

end StartPhase

inductive StopPhase where
  | lookingUp
  | stopping (ref : TaskRef)
  | interrupting (ref : TaskRef)
  | notifying (accepted : Bool)
  | done (outcome : Except DriverError Unit)

namespace StopPhase

def step (id : String) (driver : Driver) : StopPhase → StopPhase × Driver
  | lookingUp =>
      match driver.tasks.lookup id with
      | .error error => (done (.error error), driver)
      | .ok ref => (stopping ref, driver)
  | stopping ref =>
      if driver.tasks.isRunning ref then (interrupting ref, driver)
      else (notifying (driver.tasks.stop ref).1, driver.withTasks (driver.tasks.stop ref).2)
  | interrupting ref => (notifying true, driver.withTasks (driver.tasks.interrupt ref))
  | notifying true =>
      (done (.ok ()), driver.withTasks (driver.tasks.publish id "Task stop requested"))
  | notifying false => (done (.ok ()), driver)
  | done outcome => (done outcome, driver)

end StopPhase

/-- A forced destruction looks the task up a second time to stop it. -/
inductive DestroyPhase where
  | lookingUp
  | examining (ref : TaskRef)
  | stopping (phase : StopPhase)
  | removing
  | done (outcome : Except DriverError Unit)

namespace DestroyPhase

def step (id : String) (force : Bool) (driver : Driver) : DestroyPhase → DestroyPhase × Driver
  | lookingUp =>
      match driver.tasks.lookup id with
      | .error error => (done (.error error), driver)
      | .ok ref => (examining ref, driver)
  | examining ref =>
      if (driver.exitResult? ref).isSome then (removing, driver)
      else if force then (stopping .lookingUp, driver)
      else (done (.error (.taskRunning id)), driver)
  | stopping (.done (.ok _)) => (removing, driver)
  | stopping (.done (.error error)) => (done (.error error), driver)
  | stopping phase => (stopping (phase.step id driver).1, (phase.step id driver).2)
  | removing =>
      match driver.tasks.remove id with
      | .error error => (done (.error error), driver)
      | .ok (_, tasks) => (done (.ok ()), driver.withTasks tasks)
  | done outcome => (done outcome, driver)

end DestroyPhase

/-- `snapshot` are the references registered when the shutdown began. -/
inductive ShutdownPhase where
  | beginning
  | stopping (snapshot remaining : List TaskRef)
  | interrupting (snapshot : List TaskRef) (ref : TaskRef) (remaining : List TaskRef)
  | done (snapshot : List TaskRef)

namespace ShutdownPhase

def snapshot? : ShutdownPhase → Option (List TaskRef)
  | beginning => none
  | stopping snapshot _ | interrupting snapshot _ _ | done snapshot => some snapshot

def step (driver : Driver) : ShutdownPhase → ShutdownPhase × Driver
  | beginning =>
      let refs := driver.tasks.registered.map Prod.fst
      (stopping refs refs, driver)
  | stopping snapshot [] => (done snapshot, { driver with shutDown := true })
  | stopping snapshot (ref :: remaining) =>
      if driver.tasks.isRunning ref then (interrupting snapshot ref remaining, driver)
      else (stopping snapshot remaining, driver.withTasks (driver.tasks.stop ref).2)
  | interrupting snapshot ref remaining =>
      (stopping snapshot remaining, driver.withTasks (driver.tasks.interrupt ref))
  | done snapshot => (done snapshot, driver)

end ShutdownPhase

inductive Call where
  | start (ref : TaskRef) (phase : StartPhase)
  | refused (error : DriverError)
  | stop (id : String) (phase : StopPhase)
  | destroy (id : String) (force : Bool) (phase : DestroyPhase)
  | shutdown (phase : ShutdownPhase)

namespace Call

def ref? : Call → Option TaskRef
  | start ref _ => some ref
  | _ => none

def step (driver : Driver) : Call → Call × Driver
  | start ref phase => (start ref (phase.step ref driver).1, (phase.step ref driver).2)
  | refused error => (refused error, driver)
  | stop id phase => (stop id (phase.step id driver).1, (phase.step id driver).2)
  | destroy id force phase =>
      (destroy id force (phase.step id force driver).1, (phase.step id force driver).2)
  | shutdown phase => (shutdown (phase.step driver).1, (phase.step driver).2)

end Call

/-- A driver with every call that was ever made of it. -/
structure Floor where
  driver : Driver
  calls : List Call

/-- The first four make a call, `advance` takes a step of one. -/
inductive Action where
  | start (now : Nat) (descriptor : TaskDescriptor)
  | stop (id : String)
  | destroy (id : String) (force : Bool)
  | shutdown
  | advance (call : Nat)
  | loaded (call : Nat) (outcome : Except DriverError CachedModule)
  | abandon (call : Nat)
  | finish (ref : TaskRef) (result : ExitResult)
  | lookup (now : Nat) (path : Path)
  | store (now : Nat) (stored : CachedModule)

namespace Action

def call? : Action → Option Nat
  | advance call | loaded call _ | abandon call => some call
  | _ => none

end Action

namespace Floor

def opening (config : PluginConfig) (cache : Option ModuleCache) : Floor :=
  ⟨⟨config, cache, .empty, false⟩, []⟩

variable (floor : Floor)

def make (call : Call) : Floor :=
  { floor with calls := floor.calls ++ [call] }

def resume (index : Nat) (next : Call × Driver) : Floor :=
  ⟨next.2, floor.calls.set index next.1⟩

def apply : Action → Floor
  | .start now descriptor =>
      match floor.driver.reserve now descriptor with
      | .error error => floor.make (.refused error)
      | .ok (ref, reserved) => { floor with driver := reserved }.make (.start ref .loading)
  | .stop id => floor.make (.stop id .lookingUp)
  | .destroy id force => floor.make (.destroy id force .lookingUp)
  | .shutdown => floor.make (.shutdown .beginning)
  | .advance index =>
      match floor.calls[index]? with
      | none => floor
      | some call => floor.resume index (call.step floor.driver)
  | .loaded index outcome =>
      match floor.calls[index]? with
      | some (.start ref .loading) =>
          floor.resume index (.start ref (.loaded outcome), floor.driver)
      | _ => floor
  | .abandon index =>
      match floor.calls[index]? with
      | some (.start ref .loading) =>
          floor.resume index (.start ref (.stopping .abandoned), floor.driver)
      | _ => floor
  | .finish ref result =>
      if floor.driver.tasks.isRunning ref then
        { floor with
          driver := floor.driver.withTasks (floor.driver.tasks.finish ref result).2 }
      else floor
  | .lookup now path => { floor with driver := (floor.driver.lookupModule now path).2 }
  | .store now stored => { floor with driver := floor.driver.storeModule now stored }

def run (actions : List Action) : Floor :=
  actions.foldl apply floor

end Floor

end WasmTasks.Driver
