import WasmTasks.Cache.Resolve
import WasmTasks.Protocol.GuestBackend
import WasmTasks.Task.Registry

/-!
The task driver. It starts tasks from modules, resolved through the cache, and lets the orchestrator
wait for them, stop, inspect and destroy them. A start reserves the identifier before the module is
loaded, and gives the reservation up if the task does not come to run; its steps are separate
functions, because others may act between them.
-/

namespace WasmTasks

/-- The work of a running task: its module, and what it saw when it was set to work. -/
structure GuestWork where
  stored : CachedModule
  armed : Signals
  deriving Repr

structure Driver where
  config : PluginConfig
  cache : Option ModuleCache
  tasks : Registry GuestWork
  shutDown : Bool

namespace Driver

/-- Makes a driver, with a warm cache if the configuration asks for one. -/
def new (allocator : Allocator) (load : Loader)
    (discover : Path → Except DriverError (List Path)) (clock : Nat → Nat)
    (config : PluginConfig) : Except Failure Driver := do
  config.validate.mapError .refused
  let cache ← ModuleCache.ofConfig allocator config.cache
  let cache ← match cache, config.cache.preCache.enabled with
    | some cache, true =>
        match config.cache.preCache.modulesDirectory with
        | none => .error (.refused (.configuration .unsetModulesDirectory))
        | some dir =>
            match cache.warm load (discover dir) clock with
            | (.error error, _) => .error (.refused error)
            | (.ok _, warmed) => pure (some warmed)
    | cache, _ => pure cache
  pure ⟨config, cache, .empty, false⟩

variable (driver : Driver)

def withTasks (tasks : Registry GuestWork) : Driver :=
  { driver with tasks := tasks }

/-! ### Starting a task, step by step -/

def reserve (now : Nat) (descriptor : TaskDescriptor) : Except DriverError (TaskRef × Driver) := do
  let (ref, tasks) :=
    driver.tasks.create descriptor ⟨now / 1000, now % 1000 * 1000000⟩
  let tasks ← tasks.register ref
  pure (ref, driver.withTasks tasks)

def lookupModule (now : Nat) (path : Path) : Option CachedModule × Driver :=
  match driver.cache with
  | none => (none, driver)
  | some cache =>
      let (found, cache) := cache.get now path
      (found, { driver with cache := some cache })

def storeModule (now : Nat) (stored : CachedModule) : Driver :=
  { driver with cache := driver.cache.map fun cache => cache.put now stored }

/-- Gives a reservation up: the task exits and is unregistered. -/
def release (ref : TaskRef) : Driver :=
  driver.withTasks (((driver.tasks.stop ref).2.discard ref).2)

def fail (ref : TaskRef) (error : DriverError) : Driver :=
  (driver.withTasks (driver.tasks.finish ref (.failed error.message)).2).release ref

def signals (task : Task GuestWork) : Signals :=
  ⟨driver.tasks.epoch, task.stop.requested⟩

def handleOf (task : Task GuestWork) : TaskHandle :=
  ⟨TaskHandle.currentVersion, task.id, task.startedAt, task.config⟩

def begin (ref : TaskRef) (stored : CachedModule) : Except DriverError TaskHandle × Driver :=
  match driver.tasks.task? ref with
  | none => (.error (.notFound ""), driver)
  | some task =>
      match driver.tasks.start ref ⟨stored, driver.signals task⟩ with
      | .error error => (.error error, driver.release ref)
      | .ok tasks =>
          (.ok (handleOf task), driver.withTasks (tasks.publish task.id "Task started"))

/-- Goes on with the module once it is known whether it could be loaded. -/
def complete (now : Nat) (ref : TaskRef) :
    Except DriverError CachedModule → Except DriverError TaskHandle × Driver
  | .error error => (.error error, driver.fail ref error)
  | .ok stored => (driver.storeModule now stored).begin ref stored

/-- Starts a task without anything happening in between, except that time passes while the module
is loaded. -/
def start (load : Loader) (now later : Nat) (descriptor : TaskDescriptor) :
    Except DriverError TaskHandle × Driver :=
  match driver.reserve now descriptor with
  | .error error => (.error error, driver)
  | .ok (ref, reserved) =>
      match reserved.lookupModule now descriptor.config.modulePath with
      | (some stored, looked) => looked.begin ref stored
      | (none, looked) => looked.complete later ref (load descriptor.config.modulePath)

/-! ### Waiting -/

/-- Lets the work of a task come to its end, if it has one. -/
def settle {μ ν : Type} (machine : Machine μ ν) (ref : TaskRef) : Driver :=
  driver.withTasks (driver.tasks.settle ref fun task work =>
    (Protocol.executeModule machine task.id work.stored task.config
      ⟨[work.armed], driver.signals task⟩).map fun result => (result, task.stop))

def exitResult? (ref : TaskRef) : Option ExitResult :=
  (driver.tasks.task? ref).bind Task.exitResult?

def join {μ ν : Type} (machine : Machine μ ν) (ref : TaskRef) : Option ExitResult × Driver :=
  let settled := driver.settle machine ref
  (settled.exitResult? ref, settled)

/-- What a wait for a task receives. The wait ends without a result if it is cancelled, or if the
driver is shut down while the task has not exited. -/
def receive {μ ν : Type} (machine : Machine μ ν) (ref : TaskRef) (cancelled : Bool) :
    Option ExitResult × Driver :=
  if cancelled then (none, driver)
  else if driver.shutDown then (driver.exitResult? ref, driver)
  else driver.join machine ref

/-! ### Acting on a task -/

def stop (id : String) : Except DriverError Driver := do
  let ref ← driver.tasks.lookup id
  match driver.tasks.stop ref with
  | (true, tasks) => pure (driver.withTasks (tasks.publish id "Task stop requested"))
  | (false, tasks) => pure (driver.withTasks tasks)

/-- Unregisters a task. One that has not exited is stopped first, if that is forced. -/
def destroy (id : String) (force : Bool) : Except DriverError Driver := do
  let ref ← driver.tasks.lookup id
  let driver ←
    if (driver.exitResult? ref).isSome then pure driver
    else if force then driver.stop id
    else .error (.taskRunning id)
  let (_, tasks) ← driver.tasks.remove id
  pure (driver.withTasks tasks)

def inspect (id : String) : Except DriverError TaskStatus := do
  let ref ← driver.tasks.lookup id
  match driver.tasks.task? ref with
  | none => .error (.notFound id)
  | some task => pure task.status

/-- Signals cannot be delivered. -/
def signal (id : String) : Except DriverError Unit := do
  let _ ← driver.tasks.lookup id
  .error (.unsupported "SignalTask")

/-- Commands cannot be run inside a task, known or not. -/
def exec (_driver : Driver) (_id : String) : Except DriverError Unit :=
  .error (.unsupported "ExecTask")

/-- Nothing outlives the driver, so there is nothing to take up again. -/
def recover (driver : Driver) (_handle : TaskHandle) : Driver := driver

/-- Whether a new stream of resource samples is open; the samples themselves are empty. -/
def statsStream (id : String) (interval : Nat) (cancelled : Bool) : Except DriverError Bool := do
  let _ ← driver.tasks.lookup id
  if interval = 0 then .error (.configuration .zeroStatsInterval)
  else pure (!cancelled && !driver.shutDown)

def shutdown : Driver :=
  let refs := driver.tasks.names.map Prod.snd
  let tasks := refs.foldl (fun tasks ref => (tasks.stop ref).2) driver.tasks
  { driver with tasks := tasks, shutDown := true }

def cacheStats : Option Cache.Stats :=
  driver.cache.map ModuleCache.stats

def describe : String :=
  let cache := match driver.cache with
    | none => "None"
    | some cache => s!"Some({cache.describe})"
  s!"WasmDriver \x7b backend: {driver.config.engine.backend.label}, cache: {cache}, "
    ++ s!"tasks: {driver.tasks.size}, .. \x7d"

end Driver

end WasmTasks
