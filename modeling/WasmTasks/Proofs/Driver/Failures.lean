import Mathlib
import WasmTasks.Module.Described
import WasmTasks.Module.Load
import WasmTasks.Proofs.Driver.Reservation
import WasmTasks.Proofs.Driver.Uninterrupted

/-!
Requests that fail. A request that is refused leaves the driver as it was, whatever steps it took
until then; a start whose module could not be loaded leaves the registrations as they were, and the
identifier is free for another attempt.
-/

namespace WasmTasks

namespace Driver

namespace Alone

variable {σ : Type} {step : Driver → σ → σ × Driver} {first last other : σ × Driver}

theorem eq_of_ended (alone : Alone step first last) (ended : step first.2 first.1 = first) :
    last = first := by
  induction alone with
  | refl => rfl
  | next _ ih =>
      dsimp only at ended
      rw [ended] at ih
      exact ih ended

/-- A call ends in one way only. -/
theorem unique (one : Alone step first last) (two : Alone step first other)
    (ended : step last.2 last.1 = last) (endedOther : step other.2 other.1 = other) :
    last = other := by
  induction one with
  | refl => exact (two.eq_of_ended ended).symm
  | next rest ih =>
      cases two with
      | refl => exact (Alone.next rest).eq_of_ended endedOther
      | next again => exact ih again ended

end Alone

variable {driver : Driver} {id : String} {ref : TaskRef}

namespace StopPhase

theorem alone_of_absent (absent : driver.tasks.get? id = none) :
    Alone (step id) (lookingUp, driver) (done (.error (.notFound id)), driver) := by
  have first : step id driver lookingUp = (done (.error (.notFound id)), driver) := by
    simp only [step, Registry.lookup_of_absent _ absent]
  exact .of_eq first (.refl _)

theorem alone_of_held (held : driver.tasks.get? id = some ref)
    (known : ∃ task, driver.tasks.task? ref = some task) :
    ∃ after, Alone (step id) (lookingUp, driver) (done (.ok ()), after) ∧
      after.tasks.get? id = some ref ∧
      ∃ task, after.tasks.task? ref = some task ∧ task.isRemovable = true := by
  have first : step id driver lookingUp = (stopping ref, driver) := by
    simp only [step, Registry.lookup_of_held _ held]
  have stopped := Alone.of_eq first (alone_stopping driver id ref)
  have kept : (driver.tasks.stop ref).2.get? id = some ref := by
    rw [Registry.stop_snd, Registry.get?_change, held]
  have removable : ∃ task, (driver.tasks.stop ref).2.task? ref = some task ∧
      task.isRemovable = true := by
    obtain ⟨task, found⟩ := known
    refine ⟨_, ?_, task.isRemovable_requestStop⟩
    rw [Registry.stop_snd, Registry.task?_change_self, found, Option.map_some]
  cases accepted : (driver.tasks.stop ref).1 with
  | true | false =>
      rw [accepted] at stopped
      exact ⟨_, stopped.trans (.next (.refl _)), kept, removable⟩

end StopPhase

namespace DestroyPhase

variable {force : Bool}

theorem alone_of_absent (absent : driver.tasks.get? id = none) :
    Alone (step id force) (lookingUp, driver) (done (.error (.notFound id)), driver) := by
  have first : step id force driver lookingUp = (done (.error (.notFound id)), driver) := by
    simp only [step, Registry.lookup_of_absent _ absent]
  exact .of_eq first (.refl _)

theorem step_of_held (held : driver.tasks.get? id = some ref) :
    step id force driver lookingUp = (examining ref, driver) := by
  simp only [step, Registry.lookup_of_held _ held]

theorem alone_of_unfinished (held : driver.tasks.get? id = some ref)
    (unfinished : driver.exitResult? ref = none) :
    Alone (step id false) (lookingUp, driver) (done (.error (.taskRunning id)), driver) := by
  have second : step id false driver (examining ref) =
      (done (.error (.taskRunning id)), driver) := by
    simp [step, unfinished]
  exact .of_eq (step_of_held held) (.of_eq second (.refl _))

theorem alone_of_removable {task : Task GuestWork} (held : driver.tasks.get? id = some ref)
    (found : driver.tasks.task? ref = some task) (removable : task.isRemovable = true) :
    Alone (step id force) (removing, driver)
      (done (.ok ()), driver.withTasks (driver.tasks.unregister id)) := by
  have last : step id force driver removing =
      (done (.ok ()), driver.withTasks (driver.tasks.unregister id)) := by
    simp only [step, Registry.remove_of_removable _ held found removable]
  exact .of_eq last (.refl _)

theorem alone_of_held (held : driver.tasks.get? id = some ref)
    (known : ∃ task, driver.tasks.task? ref = some task)
    (allowed : force = true ∨ (driver.exitResult? ref).isSome = true) :
    ∃ after, Alone (step id force) (lookingUp, driver) (done (.ok ()), after) := by
  cases exited : (driver.exitResult? ref).isSome with
  | true =>
      have second : step id force driver (examining ref) = (removing, driver) := by
        simp only [step, exited, if_true]
      obtain ⟨task, found⟩ := known
      have removable : task.isRemovable = true := by
        rw [exitResult?, found] at exited
        exact Bool.or_eq_true_iff.mpr (.inl exited)
      have removes := Alone.of_eq second (alone_of_removable held found removable)
      exact ⟨_, .of_eq (step_of_held held) removes⟩
  | false =>
      obtain rfl : force = true := allowed.resolve_right (by simp [exited])
      have second : step id true driver (examining ref) = (stopping .lookingUp, driver) := by
        simp only [step, exited, Bool.false_eq_true, if_false, if_true]
      obtain ⟨stopped, stops, kept, task, found, removable⟩ := StopPhase.alone_of_held held known
      have within := Alone.of_eq (step_of_held held) (.of_eq second (alone_stopping id true stops))
      exact ⟨_, within.trans (.next (alone_of_removable kept found removable))⟩

end DestroyPhase

end Driver

/-! A start that takes its reservation back. -/

namespace Registry

variable {ω : Type} {before current : Registry ω} {task : Task ω}

structure Appends (before : Registry ω) (task : Task ω) (current : Registry ω) : Prop where
  tasks : current.tasks = before.tasks ++ [task]
  names : current.names = before.names ++ [(task.id, before.tasks.length)]
  epoch : current.epoch = before.epoch

/-- The registrations and the tasks of before, and perhaps tasks that are registered no more. -/
structure Restores (before after : Registry ω) : Prop where
  names : after.names = before.names
  tasks : before.tasks <+: after.tasks
  epoch : after.epoch = before.epoch

theorem fst_ne_of_absent {registry : Registry ω} {id : String} (absent : registry.get? id = none) :
    ∀ entry ∈ registry.names, entry.1 ≠ id := by
  intro entry member same
  have distinct := List.lookup_eq_none_iff.mp absent entry member
  simp [same] at distinct

theorem Restores.get? {after : Registry ω} (restores : Restores before after) (id : String) :
    after.get? id = before.get? id := by
  rw [Registry.get?, Registry.get?, restores.names]

theorem Restores.registered {after : Registry ω} (restores : Restores before after)
    (consistent : before.Consistent) (id : String) :
    (after.get? id).bind after.task? = (before.get? id).bind before.task? := by
  rw [restores.get?]
  cases held : before.get? id with
  | none => rfl
  | some ref =>
      obtain ⟨task, found, _⟩ := consistent.named id ref held
      obtain ⟨more, extended⟩ := restores.tasks
      have kept : after.task? ref = some task := by
        rw [task?, ← extended]
        exact List.getElem?_append_left (List.getElem?_eq_some_iff.mp found).1 ▸ found
      rw [Option.bind_some, Option.bind_some, kept, found]

namespace Appends

theorem found (appends : Appends before task current) :
    current.task? before.tasks.length = some task := by
  rw [task?, appends.tasks]
  exact List.getElem?_concat_length

theorem change (appends : Appends before task current) {f : Task ω → Task ω}
    (id : (f task).id = task.id) (fired : (f task).stop.fired = task.stop.fired) :
    Appends before (f task) (current.change before.tasks.length f) := by
  have changed : current.change before.tasks.length f =
      current.replace before.tasks.length task (f task) := by
    simp only [Registry.change, appends.found]
  rw [changed]
  refine ⟨?_, ?_, ?_⟩
  · rw [tasks_replace, appends.tasks, List.set_append_right _ _ (Nat.le_refl _), Nat.sub_self]
    rfl
  · rw [names_replace, appends.names, id]
  · rw [epoch_replace, fired, Nat.sub_self, Nat.add_zero, appends.epoch]

/-- To discard the last task is to restore what was there before it. -/
theorem restores (appends : Appends before task current) (free : before.get? task.id = none) :
    Restores before (current.discard before.tasks.length).2 := by
  have own : current.get? task.id = some before.tasks.length := by
    rw [get?, appends.names, List.lookup_append, show before.names.lookup task.id = none from free]
    exact List.lookup_cons_self
  have kept : before.names.filter (fun entry => entry.1 ≠ task.id) = before.names := by
    rw [List.filter_eq_self]
    exact fun entry member => decide_eq_true (fst_ne_of_absent free entry member)
  rw [discard_snd_of_own _ appends.found own]
  refine ⟨?_, ?_, appends.epoch⟩
  · rw [unregister, without, appends.names, List.filter_append, kept, List.filter_cons_of_neg]
    · exact List.append_nil _
    · simp
  · exact ⟨[task], appends.tasks.symm⟩

end Appends

end Registry

namespace Driver

open Registry (Appends Restores)

variable {μ ν : Type} {machine : Machine μ ν} {driver : Driver} {load : Loader} {now later : Nat}
  {descriptor : TaskDescriptor}

theorem reserve_of_held {ref : TaskRef} (held : driver.tasks.get? descriptor.id = some ref) :
    driver.reserve now descriptor = .error (.duplicateTask descriptor.id) := by
  obtain ⟨startedAt, reserves⟩ := driver.reserve_eq now descriptor
  have taken : (driver.tasks.create descriptor startedAt).2.get?
      (Task.new (ω := GuestWork) descriptor startedAt).id = some ref := held
  rw [reserves, Registry.register, Registry.task?_create_self]
  simp only [taken]
  rfl

theorem reserve_of_free (now : Nat) (free : driver.tasks.get? descriptor.id = none) :
    ∃ startedAt reserved,
      driver.reserve now descriptor = .ok (driver.tasks.tasks.length, reserved) ∧
        Appends driver.tasks (.new descriptor startedAt) reserved.tasks := by
  obtain ⟨startedAt, reserves⟩ := driver.reserve_eq now descriptor
  have unused : (driver.tasks.create descriptor startedAt).2.get?
      (Task.new (ω := GuestWork) descriptor startedAt).id = none := free
  rw [Registry.register, Registry.task?_create_self] at reserves
  simp only [unused] at reserves
  exact ⟨startedAt, _, reserves, rfl, rfl, rfl⟩

theorem start_of_held {ref : TaskRef} (held : driver.tasks.get? descriptor.id = some ref) :
    driver.start load now later descriptor = (.error (.duplicateTask descriptor.id), driver) := by
  rw [start, reserve_of_held held]

theorem begin_of_starting {ref : TaskRef} {task : Task GuestWork}
    (found : driver.tasks.task? ref = some task) (starting : task.stage = .starting)
    (stored : CachedModule) : ∃ handle, (driver.begin ref stored).1 = .ok handle := by
  have accepted : task.start ⟨stored, driver.signals task⟩ =
      .ok { task with stage := .running ⟨stored, driver.signals task⟩ } :=
    Task.start_eq_ok_iff.mpr ⟨starting, rfl⟩
  refine ⟨handleOf task, ?_⟩
  simp only [begin, Registry.start, found, accepted]
  rfl

@[simp] theorem tasks_lookupModule (driver : Driver) (now : Nat) (path : Path) :
    (driver.lookupModule now path).2.tasks = driver.tasks := by
  unfold lookupModule
  split <;> rfl

/-- A start that fails takes its task back. The task has exited by then, so its stop is none. -/
theorem restores_fail {before : Registry GuestWork} {task : Task GuestWork}
    (appends : Appends before task driver.tasks) (free : before.get? task.id = none)
    (error : DriverError) : Restores before (driver.fail before.tasks.length error).tasks := by
  have finished := appends.change (f := Task.finish (.failed error.message))
    (Task.id_finish _ _) (by rw [Task.stop_finish])
  obtain ⟨result, exited⟩ := (Task.isExited_iff _).mp
    (Task.isExited_finish (.failed error.message) task)
  have spent := Task.requestStop_of_exited exited
  have stopped := finished.change (f := Task.requestStop) (by rw [spent]) (by rw [spent])
  rw [spent] at stopped
  have restores := stopped.restores (by rwa [Task.id_finish])
  rw [← Registry.finish_snd, ← Registry.stop_snd] at restores
  exact restores

/-- With its identifier free, a start fails only if the module has to be loaded and cannot be. -/
theorem start_of_free (load : Loader) (now later : Nat)
    (free : driver.tasks.get? descriptor.id = none) :
    (∃ handle, (driver.start load now later descriptor).1 = .ok handle) ∨
      ∃ error, load descriptor.config.modulePath = .error error ∧
        (driver.start load now later descriptor).1 = .error error ∧
        Restores driver.tasks (driver.start load now later descriptor).2.tasks := by
  obtain ⟨startedAt, reserved, reserves, appends⟩ := reserve_of_free now free
  have tasks := reserved.tasks_lookupModule now descriptor.config.modulePath
  rw [start, reserves]
  dsimp only
  cases looked : reserved.lookupModule now descriptor.config.modulePath with
  | mk cached after =>
      rw [looked] at tasks
      have found := tasks ▸ appends.found
      cases cached with
      | some stored => exact .inl (begin_of_starting found rfl stored)
      | none =>
          cases loaded : load descriptor.config.modulePath with
          | ok stored =>
              have kept : (after.storeModule later stored).tasks.task? driver.tasks.tasks.length =
                  some (.new descriptor startedAt) := found
              exact .inl (begin_of_starting kept rfl stored)
          | error error => exact .inr ⟨error, rfl, rfl, restores_fail (tasks ▸ appends) free error⟩

theorem start_of_loads (now later : Nat) {stored : CachedModule}
    (free : driver.tasks.get? descriptor.id = none)
    (loads : load descriptor.config.modulePath = .ok stored) :
    ∃ handle, (driver.start load now later descriptor).1 = .ok handle := by
  rcases start_of_free load now later free with started | ⟨error, failed, _⟩
  · exact started
  · rw [loads] at failed
    cases failed

/-! Requests of every kind. -/

/-- A wait for a registered task, and what it does to the task meanwhile. -/
def wait (machine : Machine μ ν) (driver : Driver) (id : String) (cancelled : Bool) :
    Except DriverError Unit × Driver :=
  match driver.tasks.lookup id with
  | .error error => (.error error, driver)
  | .ok ref => (.ok (), (driver.receive machine ref cancelled).2)

inductive Request where
  | start (now later : Nat) (descriptor : TaskDescriptor)
  | stop (id : String)
  | destroy (id : String) (force : Bool)
  | inspect (id : String)
  | wait (id : String) (cancelled : Bool)
  | stats (id : String) (interval : Nat) (cancelled : Bool)
  | signal (id : String)
  | exec (id : String)

namespace Request

def id? : Request → Option String
  | stop id | destroy id _ | inspect id | wait id _ | stats id _ _ | signal id => some id
  | start _ _ _ | exec _ => none

/-- How a request ends when nothing happens in between. -/
def Ends (machine : Machine μ ν) (load : Loader) (driver : Driver)
    (last : Except DriverError Unit × Driver) : Request → Prop
  | start now later descriptor =>
      last = ((driver.start load now later descriptor).1.map fun _ => (),
        (driver.start load now later descriptor).2)
  | stop id => Alone (StopPhase.step id) (.lookingUp, driver) (.done last.1, last.2)
  | destroy id force =>
      Alone (DestroyPhase.step id force) (.lookingUp, driver) (.done last.1, last.2)
  | inspect id => last = ((driver.inspect id).map fun _ => (), driver)
  | wait id cancelled => last = driver.wait machine id cancelled
  | stats id interval cancelled =>
      last = ((driver.statsStream id interval cancelled).map fun _ => (), driver)
  | signal id => last = (driver.signal id, driver)
  | exec id => last = (driver.exec id, driver)

end Request

/-- Why a request is turned down by the registrations as they are. -/
inductive Refuses (driver : Driver) : Request → DriverError → Prop where
  | taken {now later : Nat} {descriptor : TaskDescriptor} {ref : TaskRef}
      (held : driver.tasks.get? descriptor.id = some ref) :
      Refuses driver (.start now later descriptor) (.duplicateTask descriptor.id)
  | unknown {request : Request} {id : String} (named : request.id? = some id)
      (absent : driver.tasks.get? id = none) : Refuses driver request (.notFound id)
  | unfinished {id : String} {ref : TaskRef} (held : driver.tasks.get? id = some ref)
      (unfinished : driver.exitResult? ref = none) :
      Refuses driver (.destroy id false) (.taskRunning id)
  | zeroInterval {id : String} {ref : TaskRef} {cancelled : Bool}
      (held : driver.tasks.get? id = some ref) :
      Refuses driver (.stats id 0 cancelled) (.configuration .zeroStatsInterval)
  | undeliverable {id : String} {ref : TaskRef} (held : driver.tasks.get? id = some ref) :
      Refuses driver (.signal id) (.unsupported "SignalTask")
  | inexecutable {id : String} : Refuses driver (.exec id) (.unsupported "ExecTask")

/-- A start that has to load its module and cannot. -/
structure Misses (load : Loader) (driver : Driver) (request : Request) (error : DriverError)
    (after : Driver) : Prop where
  start : ∃ now later descriptor, request = .start now later descriptor ∧
    driver.tasks.get? descriptor.id = none ∧ load descriptor.config.modulePath = .error error
  restores : Restores driver.tasks after.tasks

variable {request : Request}

namespace Request.Ends

variable {last other : Except DriverError Unit × Driver}

theorem unique (one : request.Ends machine load driver last)
    (two : request.Ends machine load driver other) : other = last := by
  cases request with
  | stop id =>
      obtain ⟨phases, drivers⟩ := Prod.mk.inj (Alone.unique one two rfl rfl)
      exact Prod.ext (StopPhase.done.inj phases).symm drivers.symm
  | destroy id force =>
      obtain ⟨phases, drivers⟩ := Prod.mk.inj (Alone.unique one two rfl rfl)
      exact Prod.ext (DestroyPhase.done.inj phases).symm drivers.symm
  | start now later descriptor => exact two.trans one.symm
  | inspect id => exact two.trans one.symm
  | wait id cancelled => exact two.trans one.symm
  | stats id interval cancelled => exact two.trans one.symm
  | signal id => exact two.trans one.symm
  | exec id => exact two.trans one.symm

end Request.Ends

theorem ends_of_absent {id : String} (named : request.id? = some id)
    (absent : driver.tasks.get? id = none) :
    request.Ends machine load driver (.error (.notFound id), driver) := by
  have missing := Registry.lookup_of_absent _ absent
  cases request with
  | start now later descriptor => cases named
  | exec other => cases named
  | stop other =>
      cases named
      exact StopPhase.alone_of_absent absent
  | destroy other force =>
      cases named
      exact DestroyPhase.alone_of_absent absent
  | inspect other =>
      cases named
      rw [Request.Ends, Driver.inspect, missing]
      rfl
  | wait other cancelled =>
      cases named
      rw [Request.Ends, Driver.wait, missing]
  | stats other interval cancelled =>
      cases named
      rw [Request.Ends, statsStream, missing]
      rfl
  | signal other =>
      cases named
      rw [Request.Ends, Driver.signal, missing]
      rfl

/-- A refusal leaves everything as it was. -/
theorem Refuses.ends {error : DriverError} (refuses : driver.Refuses request error) :
    request.Ends machine load driver (.error error, driver) := by
  cases refuses with
  | taken held =>
      rw [Request.Ends, start_of_held held]
      rfl
  | unknown named absent => exact ends_of_absent named absent
  | unfinished held unfinished => exact DestroyPhase.alone_of_unfinished held unfinished
  | zeroInterval held =>
      rw [Request.Ends, statsStream, Registry.lookup_of_held _ held]
      rfl
  | undeliverable held =>
      rw [Request.Ends, Driver.signal, Registry.lookup_of_held _ held]
      rfl
  | inexecutable => rfl

/-- A request that is not refused succeeds, unless it is a start whose module is not to be had. -/
theorem refuses_or_ends (machine : Machine μ ν) (load : Loader)
    (consistent : driver.tasks.Consistent) (request : Request) :
    (∃ error, driver.Refuses request error) ∨
      (∃ after, request.Ends machine load driver (.ok (), after)) ∨
      ∃ error after, request.Ends machine load driver (.error error, after) ∧
        driver.Misses load request error after := by
  by_cases known : ∃ id, request.id? = some id ∧ driver.tasks.get? id = none
  · obtain ⟨id, named, absent⟩ := known
    exact .inl ⟨_, .unknown named absent⟩
  -- from here on, whatever the request names is registered
  have found : ∀ id, request.id? = some id →
      ∃ ref task, driver.tasks.get? id = some ref ∧ driver.tasks.task? ref = some task := by
    intro id named
    cases held : driver.tasks.get? id with
    | none => exact absurd ⟨id, named, held⟩ known
    | some ref =>
        obtain ⟨task, found, _⟩ := consistent.named id ref held
        exact ⟨ref, task, rfl, found⟩
  cases request with
  | start now later descriptor =>
      cases held : driver.tasks.get? descriptor.id with
      | some ref => exact .inl ⟨_, .taken held⟩
      | none =>
          rcases start_of_free load now later held with
            ⟨handle, started⟩ | ⟨error, failed, answered, restores⟩
          · refine .inr (.inl ⟨(driver.start load now later descriptor).2, ?_⟩)
            rw [Request.Ends, started]
            rfl
          · refine .inr (.inr ⟨error, _, ?_, ⟨now, later, descriptor, rfl, held, failed⟩, restores⟩)
            rw [Request.Ends, answered]
            rfl
  | stop id =>
      obtain ⟨ref, task, held, present⟩ := found id rfl
      obtain ⟨after, stops, _⟩ := StopPhase.alone_of_held held ⟨task, present⟩
      exact .inr (.inl ⟨after, stops⟩)
  | destroy id force =>
      obtain ⟨ref, task, held, present⟩ := found id rfl
      by_cases allowed : force = true ∨ (driver.exitResult? ref).isSome = true
      · exact .inr (.inl (DestroyPhase.alone_of_held held ⟨task, present⟩ allowed))
      · obtain ⟨unforced, unfinished⟩ := not_or.mp allowed
        obtain rfl : force = false := Bool.eq_false_iff.mpr unforced
        exact .inl ⟨_, .unfinished held (by simpa using unfinished)⟩
  | inspect id =>
      obtain ⟨ref, task, held, present⟩ := found id rfl
      refine .inr (.inl ⟨driver, ?_⟩)
      rw [Request.Ends, Driver.inspect, Registry.lookup_of_held _ held]
      simp only [bind, Except.bind, present]
      rfl
  | wait id cancelled =>
      obtain ⟨ref, task, held, present⟩ := found id rfl
      refine .inr (.inl ⟨(driver.receive machine ref cancelled).2, ?_⟩)
      rw [Request.Ends, Driver.wait, Registry.lookup_of_held _ held]
  | stats id interval cancelled =>
      obtain ⟨ref, task, held, present⟩ := found id rfl
      cases interval with
      | zero => exact .inl ⟨_, .zeroInterval held⟩
      | succ interval =>
          refine .inr (.inl ⟨driver, ?_⟩)
          rw [Request.Ends, statsStream, Registry.lookup_of_held _ held]
          rfl
  | signal id =>
      obtain ⟨ref, task, held, present⟩ := found id rfl
      exact .inl ⟨_, .undeliverable held⟩
  | exec id => exact .inl ⟨_, .inexecutable⟩

end Driver

namespace Machine

variable {μ ν : Type} {machine : Machine μ ν} {path : Path} {error : DriverError}

theorem cachedOf_eq_error {content : Bytes} (failed : machine.cachedOf path content = .error error) :
    ∃ fault, error = .load path fault := by
  unfold cachedOf at failed
  split at failed
  · cases failed
    exact ⟨_, rfl⟩
  · unfold toCached at failed
    split at failed <;> cases failed
    exact ⟨_, rfl⟩

theorem loadModule_eq_error {tree : FileTree}
    (failed : machine.loadModule tree path = .error error) : ∃ fault, error = .load path fault := by
  unfold loadModule at failed
  split at failed
  · cases failed
    exact ⟨_, rfl⟩
  · exact cachedOf_eq_error failed

end Machine

namespace Driver

/-- Whatever has happened to a driver, a request of it ends in one way; what it refuses changes
nothing, and a start whose module is missing leaves the registrations as they were. -/
theorem failed_requests_change_nothing {μ ν : Type} (machine : Machine μ ν) (config : PluginConfig)
    (cache : Option ModuleCache) (actions : List Action) (tree : FileTree) :
    let driver := ((Floor.opening config cache).run actions).driver
    let load := machine.loadModule tree
    (∀ request : Request, ∃ last, request.Ends machine load driver last ∧
        ∀ other, request.Ends machine load driver other → other = last) ∧
      (∀ request error, driver.Refuses request error →
        request.Ends machine load driver (.error error, driver)) ∧
      ∀ (request : Request) error after, request.Ends machine load driver (.error error, after) →
        (driver.Refuses request error ∧ after = driver) ∨
          driver.Misses load request error after ∧
            (∀ id, error ≠ .duplicateTask id) ∧
            (∀ id, (after.tasks.get? id).bind after.tasks.task? =
              (driver.tasks.get? id).bind driver.tasks.task?) ∧
            ∀ now later descriptor, request = .start now later descriptor →
              ∀ (again : Loader) now later retry stored, retry.id = descriptor.id →
                again retry.config.modulePath = .ok stored →
                  ∃ handle, (after.start again now later retry).1 = .ok handle := by
  intro driver load
  have consistent : driver.tasks.Consistent :=
    ((Floor.sound_opening config cache).run actions).consistent
  refine ⟨?_, fun request error refuses => refuses.ends, ?_⟩
  · intro request
    rcases refuses_or_ends machine load consistent request with
      ⟨error, refuses⟩ | ⟨after, ends⟩ | ⟨error, after, ends, _⟩
    · exact ⟨_, refuses.ends, fun other ends => refuses.ends.unique ends⟩
    · exact ⟨_, ends, fun other again => ends.unique again⟩
    · exact ⟨_, ends, fun other again => ends.unique again⟩
  · intro request error after ends
    rcases refuses_or_ends machine load consistent request with
      ⟨refused, refuses⟩ | ⟨other, succeeds⟩ | ⟨reason, other, fails, misses⟩
    · cases refuses.ends.unique ends
      exact .inl ⟨refuses, rfl⟩
    · cases succeeds.unique ends
    · cases fails.unique ends
      refine .inr ⟨misses, ?_, misses.restores.registered consistent, ?_⟩
      · intro id same
        obtain ⟨_, _, _, _, _, failed⟩ := misses.start
        obtain ⟨fault, unloaded⟩ := Machine.loadModule_eq_error failed
        rw [same] at unloaded
        cases unloaded
      · intro _ _ descriptor own again now later retry stored named loads
        obtain ⟨_, _, _, start, free, _⟩ := misses.start
        cases own.symm.trans start
        refine start_of_loads now later ?_ loads
        rw [misses.restores.get?, named, free]

/-- One task is registered, and the module of another one is an empty file. -/
theorem failed_requests_change_nothing_empty :
    let machine := Description.machine []
    let descriptor : TaskDescriptor := ⟨"first", .ofModule "a"⟩
    let other : TaskDescriptor := ⟨"other", .ofModule "a"⟩
    let driver := ((Floor.opening .standard none).run [.start 0 descriptor]).driver
    let load := machine.loadModule ⟨[(Text.Utf8.encode "a", .file [])], .root⟩
    let after := (driver.start load 1 2 other).2
    (Request.destroy "first" false).Ends machine load driver
        (.error (.taskRunning "first"), driver) ∧
      (Request.start 1 2 other).Ends machine load driver (.error (.load "a" .empty), after) ∧
      driver.tasks.Restores after.tasks ∧
      ∃ handle, (after.start (fun path => .ok ⟨path, .wasmtime, [], ""⟩) 3 4 other).1 =
        .ok handle := by
  intro machine descriptor other driver load after
  let tree : FileTree := ⟨[(Text.Utf8.encode "a", .file [])], .root⟩
  have read : tree.read "a" = .ok [] := by cbv
  have failed : load other.config.modulePath = .error (.load "a" .empty) := by
    change machine.loadModule tree "a" = _
    rw [Machine.loadModule, read]
    rfl
  have ends : (Request.start 1 2 other).Ends machine load driver
      (.error (.load "a" .empty), after) := by
    have started : driver.start load 1 2 other =
        complete _ 2 1 (load other.config.modulePath) := rfl
    have answered : (driver.start load 1 2 other).1 = .error (.load "a" .empty) := by
      rw [started, failed]
      rfl
    rw [Request.Ends, answered]
    rfl
  obtain ⟨_, refused, failures⟩ :=
    failed_requests_change_nothing machine .standard none [.start 0 descriptor] tree
  have held : driver.tasks.get? "first" = some 0 := rfl
  refine ⟨refused _ _ (.unfinished held rfl), ends, ?_⟩
  rcases failures _ _ _ ends with ⟨refuses, _⟩ | ⟨misses, _, _, retries⟩
  · cases refuses
  · exact ⟨misses.restores, retries _ _ _ rfl _ 3 4 other _ rfl rfl⟩

end Driver

end WasmTasks
