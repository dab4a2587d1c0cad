import WasmTasks.Proofs.Task.Shared

/-!
A task exits once, whoever is first to end it. Its stage, its completion signal and the bus tell of
the same exit, and every waiter and every snapshot agrees with them.
-/

namespace WasmTasks

variable {ω : Type}

namespace Answer

/-- What was answered still holds when the completion signal is this. -/
def Agrees (completion : Option ExitResult) : Answer ω → Prop
  | .status shown =>
      (shown.state = "exited" ↔ shown.exitResult.isSome = true) ∧
        ∀ result, shown.exitResult = some result → completion = some result
  | .result shown => ∀ result, shown = some result → completion = some result
  | _ => True

theorem Agrees.mono {earlier later : Option ExitResult} {answer : Answer ω}
    (agrees : answer.Agrees earlier)
    (kept : ∀ result, earlier = some result → later = some result) : answer.Agrees later := by
  cases answer with
  | status shown => exact ⟨agrees.1, fun result same => kept result (agrees.2 result same)⟩
  | result shown => exact fun result same => kept result (agrees result same)
  | started work => trivial
  | refused error => trivial
  | stopped accepted => trivial
  | finished accepted => trivial

end Answer

namespace SharedTask

/-- What the completion signal is due to show. -/
def delivered? (shared : SharedTask ω) : Option ExitResult :=
  match shared.closing with
  | none => shared.task.exitResult?
  | some _ => none

/-- What the bus is due to have told. -/
def announced? (shared : SharedTask ω) : Option ExitResult :=
  match shared.closing with
  | some (.announcing _) => none
  | _ => shared.task.exitResult?

def announcements (shared : SharedTask ω) : List TaskEvent :=
  (shared.announced?.map shared.exitEvent).toList

/-- The places tell of one exit. `others` are the events that do not come from the task. -/
structure Orderly (others : List TaskEvent) (shared : SharedTask ω) : Prop where
  closing : ∀ closing, shared.closing = some closing →
    shared.task.exitResult? = some closing.result
  completion : shared.completion = shared.delivered?
  events : shared.bus.published.toList.Perm (others ++ shared.announcements)
  received : ∀ result, some result ∈ shared.waiters → shared.completion = some result
  answers : ∀ answer ∈ shared.answers, answer.Agrees shared.completion
  started : shared.starts.length ≤ 1
  unstarted : shared.task.stage = .starting → shared.starts = []

variable {shared : SharedTask ω} {others : List TaskEvent}

theorem starts_answer (shared : SharedTask ω) (answer : Answer ω) :
    (shared.answer answer).starts = shared.starts ++ answer.started?.toList := by
  rw [starts, SharedTask.answer, List.filterMap_append]
  cases answer <;> rfl

theorem delivered?_of_free (free : shared.closing = none) :
    shared.delivered? = shared.task.exitResult? := by
  simp only [delivered?, free]

theorem announced?_of_free (free : shared.closing = none) :
    shared.announced? = shared.task.exitResult? := by
  simp only [announced?, free]

theorem delivered?_withTask {after : Task ω}
    (same : after.exitResult? = shared.task.exitResult?) :
    (shared.withTask after).delivered? = shared.delivered? := by
  simp only [delivered?, withTask, same]

theorem announced?_withTask {after : Task ω}
    (same : after.exitResult? = shared.task.exitResult?) :
    (shared.withTask after).announced? = shared.announced? := by
  simp only [announced?, withTask, same]

theorem announcements_withTask {after : Task ω}
    (same : after.exitResult? = shared.task.exitResult?) (id : after.id = shared.task.id) :
    (shared.withTask after).announcements = shared.announcements := by
  have event : (shared.withTask after).exitEvent = shared.exitEvent := by
    funext result
    rw [exitEvent, exitEvent, ← id]
    rfl
  rw [announcements, announcements, announced?_withTask same, event]

theorem orderly_new (descriptor : TaskDescriptor) (startedAt : Timestamp) (bus : EventBus) :
    Orderly bus.published.toList (new descriptor startedAt bus : SharedTask ω) where
  closing := by
    intro closing impossible
    cases impossible
  completion := rfl
  events := by
    rw [show (new descriptor startedAt bus : SharedTask ω).announcements = [] from rfl,
      List.append_nil]
    exact .refl _
  received := by
    intro result member
    cases member
  answers := by
    intro answer member
    cases member
  started := Nat.zero_le 1
  unstarted _ := rfl

namespace Orderly

theorem answer (orderly : shared.Orderly others) {answer : Answer ω}
    (agrees : answer.Agrees shared.completion)
    (first : answer.started? = none ∨
      shared.starts = [] ∧ shared.task.stage ≠ .starting) :
    (shared.answer answer).Orderly others := by
  have answers : ∀ given ∈ shared.answers ++ [answer], given.Agrees shared.completion := by
    intro given member
    rcases List.mem_append.mp member with earlier | last
    · exact orderly.answers given earlier
    · rw [List.mem_singleton.mp last]
      exact agrees
  have counted : (shared.answer answer).starts.length ≤ 1 ∧
      (shared.task.stage = .starting → (shared.answer answer).starts = []) := by
    rw [starts_answer]
    rcases first with other | ⟨unstarted, begun⟩
    · rw [other, Option.toList_none, List.append_nil]
      exact ⟨orderly.started, orderly.unstarted⟩
    · rw [unstarted, List.nil_append]
      exact ⟨Option.length_toList_le, fun starting => absurd starting begun⟩
  exact ⟨orderly.closing, orderly.completion, orderly.events, orderly.received, answers,
    counted.1, counted.2⟩

theorem withTask (orderly : shared.Orderly others) {after : Task ω}
    (same : after.exitResult? = shared.task.exitResult?) (id : after.id = shared.task.id)
    (unstarted : after.stage = .starting → shared.starts = []) :
    (shared.withTask after).Orderly others where
  closing closing held := same.trans (orderly.closing closing held)
  completion := orderly.completion.trans (delivered?_withTask same).symm
  events := by
    rw [announcements_withTask same id]
    exact orderly.events
  received := orderly.received
  answers := orderly.answers
  started := orderly.started
  unstarted := unstarted

theorem replace (orderly : shared.Orderly others) (free : shared.closing = none)
    {after : Task ω} (moves : shared.task.stage.Moves after.stage)
    (id : after.id = shared.task.id) : (shared.replace after).Orderly others := by
  have unstarted : after.stage = .starting → shared.starts = [] := by
    intro starting
    rw [starting] at moves
    exact orderly.unstarted moves.eq_of_starting
  obtain same | ⟨result, unfinished, exited⟩ := Task.exit_cases moves
  · rw [replace_of_same same]
    exact orderly.withTask same id unstarted
  · have completion := orderly.completion
    have events := orderly.events
    rw [delivered?_of_free free, unfinished] at completion
    rw [announcements, announced?_of_free free, unfinished] at events
    rw [replace_of_exits unfinished exited]
    refine ⟨?_, completion, events, orderly.received, orderly.answers, orderly.started, unstarted⟩
    intro closing held
    cases held
    exact exited

theorem start (orderly : shared.Orderly others) (free : shared.closing = none) (work : ω) :
    (shared.start work).Orderly others := by
  unfold SharedTask.start
  cases attempt : shared.task.start work with
  | error error => exact orderly.answer trivial (.inl rfl)
  | ok started =>
      have moved := orderly.replace free (Task.start_moves attempt)
      obtain ⟨starting, rfl⟩ := Task.start_eq_ok_iff.mp attempt
      have same : ({ shared.task with stage := .running work } : Task ω).exitResult? =
          shared.task.exitResult? := by
        rw [Task.exitResult?, Task.exitResult?, starting]
        rfl
      dsimp only
      rw [replace_answer]
      refine (moved rfl).answer (show Answer.Agrees _ (.started work) from trivial) (.inr ?_)
      rw [replace_of_same same]
      refine ⟨orderly.unstarted starting, ?_⟩
      intro again
      cases again

theorem stop (orderly : shared.Orderly others) (free : shared.closing = none) :
    shared.stop.Orderly others := by
  by_cases running : ∃ work, shared.task.stage = .running work
  · obtain ⟨work, stage⟩ := running
    rw [stop_of_running stage]
    exact ⟨orderly.closing, orderly.completion, orderly.events, orderly.received,
      orderly.answers, orderly.started, orderly.unstarted⟩
  · rw [stop_of_not_running (not_exists.mp running)]
    have answered : (shared.answer (.stopped !shared.task.isExited)).Orderly others :=
      orderly.answer trivial (.inl rfl)
    exact answered.replace free shared.task.requestStop_moves shared.task.id_requestStop

theorem finish (orderly : shared.Orderly others) (free : shared.closing = none)
    (result : ExitResult) : (shared.finish result).Orderly others := by
  have answered : (shared.answer (.finished !shared.task.isExited)).Orderly others :=
    orderly.answer trivial (.inl rfl)
  exact answered.replace free (shared.task.finish_moves result) (shared.task.id_finish result)

theorem interrupt (orderly : shared.Orderly others) : shared.interrupt.Orderly others := by
  unfold SharedTask.interrupt
  split
  · exact orderly
  · rename_i pending _
    have interrupted : Orderly others
        { shared.withTask shared.task.interrupt with interrupting := pending } :=
      ⟨orderly.closing, orderly.completion, orderly.events, orderly.received,
        orderly.answers, orderly.started, orderly.unstarted⟩
    exact interrupted.answer trivial (.inl rfl)

theorem announce (orderly : shared.Orderly others) : shared.announce.Orderly others := by
  unfold SharedTask.announce
  split
  · rename_i result held
    have exited := orderly.closing _ held
    refine ⟨?_, ?_, ?_, orderly.received, orderly.answers, orderly.started, orderly.unstarted⟩
    · intro closing same
      cases same
      exact exited
    · rw [orderly.completion, delivered?, held]
      rfl
    · have events := orderly.events
      rw [announcements, announced?, held, Option.map_none, Option.toList_none,
        List.append_nil] at events
      have told : ({ shared with
          bus := shared.bus.publish shared.task.id (Registry.exitMessage result)
          closing := some (.delivering result) } : SharedTask ω).announcements =
          [shared.exitEvent result] := by
        simp only [announcements, announced?, exited]
        rfl
      rw [told]
      simp only [EventBus.publish, Array.toList_push]
      exact events.append_right _
  · exact orderly

theorem deliver (orderly : shared.Orderly others) : shared.deliver.Orderly others := by
  unfold SharedTask.deliver
  split
  · rename_i result held
    have exited := orderly.closing _ held
    have silent : shared.completion = none := by
      rw [orderly.completion, delivered?, held]
    have kept : ∀ earlier, shared.completion = some earlier → some result = some earlier := by
      intro earlier shown
      rw [silent] at shown
      cases shown
    refine ⟨?_, ?_, ?_, ?_, ?_, orderly.started, orderly.unstarted⟩
    · intro closing impossible
      cases impossible
    · exact exited.symm
    · have events := orderly.events
      rw [announcements, announced?, held] at events
      exact events
    · exact fun received member => kept received (orderly.received received member)
    · exact fun answer member => (orderly.answers answer member).mono kept
  · exact orderly

theorem subscribe (orderly : shared.Orderly others) : shared.subscribe.Orderly others := by
  refine ⟨orderly.closing, orderly.completion, orderly.events, ?_, orderly.answers,
    orderly.started, orderly.unstarted⟩
  intro result member
  rcases List.mem_append.mp member with earlier | last
  · exact orderly.received result earlier
  · cases List.mem_singleton.mp last

theorem poll (orderly : shared.Orderly others) (waiter : Nat) :
    (shared.poll waiter).Orderly others := by
  refine ⟨orderly.closing, orderly.completion, orderly.events, ?_, orderly.answers,
    orderly.started, orderly.unstarted⟩
  intro result member
  obtain ⟨place, found⟩ := List.mem_iff_getElem?.mp member
  rw [SharedTask.poll, List.getElem?_modify, Option.map_eq_map, Option.map_eq_some_iff]
    at found
  obtain ⟨received, there, same⟩ := found
  split at same
  · cases received with
    | none => exact same
    | some earlier =>
        cases same
        exact orderly.received result (List.mem_of_getElem? there)
  · exact orderly.received result (List.mem_of_getElem? (same ▸ there))

theorem broadcast (orderly : shared.Orderly others) (event : TaskEvent) :
    (shared.broadcast event).Orderly (others ++ [event]) := by
  refine ⟨orderly.closing, orderly.completion, ?_, orderly.received, orderly.answers,
    orderly.started, orderly.unstarted⟩
  have extended := orderly.events.append_right [event]
  rw [List.append_assoc] at extended ⊢
  rw [SharedTask.broadcast, EventBus.publish, Array.toList_push]
  exact extended.trans (List.perm_append_comm.append_left others)

theorem whenFree (orderly : shared.Orderly others) {after : SharedTask ω}
    (done : shared.closing = none → after.Orderly others) :
    (shared.whenFree after).Orderly others := by
  unfold SharedTask.whenFree
  split
  · rename_i free
    exact done free
  · exact orderly

/-- A snapshot is taken while nobody writes, so its two halves belong together. -/
theorem status (orderly : shared.Orderly others) (free : shared.closing = none) :
    (shared.answer (.status shared.snapshot)).Orderly others := by
  have completion := orderly.completion.trans (delivered?_of_free free)
  refine orderly.answer ⟨?_, fun result seen => seen⟩ (.inl rfl)
  rw [snapshot, completion]
  exact shared.task.stage.name_eq_exited_iff

theorem apply_own (orderly : shared.Orderly others) {step : TaskStep ω}
    (own : step.broadcast? = none) : (shared.apply step).Orderly others := by
  cases step with
  | start work => exact orderly.whenFree fun free => orderly.start free work
  | stop => exact orderly.whenFree fun free => orderly.stop free
  | interrupt => exact orderly.interrupt
  | finish result => exact orderly.whenFree fun free => orderly.finish free result
  | announce => exact orderly.announce
  | deliver => exact orderly.deliver
  | status => exact orderly.whenFree fun free => orderly.status free
  | exitResult =>
      have seen : Answer.Agrees shared.completion (.result shared.completion : Answer ω) :=
        fun _ same => same
      exact orderly.answer seen (.inl rfl)
  | subscribe => exact orderly.subscribe
  | poll waiter => exact orderly.poll waiter
  | broadcast event => cases own

theorem apply (orderly : shared.Orderly others) (step : TaskStep ω) :
    (shared.apply step).Orderly (others ++ step.broadcast?.toList) := by
  cases own : step.broadcast? with
  | none =>
      rw [Option.toList_none, List.append_nil]
      exact orderly.apply_own own
  | some event =>
      cases step <;> cases own
      exact orderly.broadcast event

theorem run (orderly : shared.Orderly others) (steps : List (TaskStep ω)) :
    (shared.run steps).Orderly (others ++ steps.filterMap TaskStep.broadcast?) := by
  induction steps generalizing shared others with
  | nil =>
      rw [List.filterMap_nil, List.append_nil]
      exact orderly
  | cons step later ih =>
      have next := ih (orderly.apply step)
      rw [List.append_assoc] at next
      rw [List.filterMap_cons]
      cases broadcast : step.broadcast? with
      | none | some event =>
          rw [broadcast] at next
          exact next

end Orderly

/-- What a step never undoes. The completion signal changes at the end of an exit only. -/
structure Follows (before after : SharedTask ω) : Prop where
  stage : before.task.stage.Moves after.task.stage
  id : after.task.id = before.task.id
  completion : before.closing = none → after.completion = before.completion

theorem follows_of_same {after : SharedTask ω} (task : after.task = shared.task)
    (completion : after.completion = shared.completion) : shared.Follows after where
  stage := by
    rw [task]
    exact .stays _
  id := congrArg Task.id task
  completion _ := completion

theorem follows_replace (answer : Answer ω) {after : Task ω}
    (moves : shared.task.stage.Moves after.stage) (id : after.id = shared.task.id) :
    shared.Follows ((shared.answer answer).replace after) where
  stage := by
    rw [task_replace]
    exact moves
  id := by
    rw [task_replace]
    exact id
  completion _ := completion_replace _ _

theorem follows_start (shared : SharedTask ω) (work : ω) : shared.Follows (shared.start work) := by
  unfold start
  cases attempt : shared.task.start work with
  | error error => exact follows_of_same rfl rfl
  | ok started =>
      have moves := Task.start_moves attempt
      obtain ⟨_, rfl⟩ := Task.start_eq_ok_iff.mp attempt
      exact follows_replace _ moves rfl

theorem follows_stop (shared : SharedTask ω) : shared.Follows shared.stop := by
  by_cases running : ∃ work, shared.task.stage = .running work
  · obtain ⟨work, stage⟩ := running
    rw [stop_of_running stage]
    exact follows_of_same rfl rfl
  · rw [stop_of_not_running (not_exists.mp running)]
    exact follows_replace _ shared.task.requestStop_moves shared.task.id_requestStop

theorem follows_interrupt (shared : SharedTask ω) : shared.Follows shared.interrupt := by
  unfold interrupt
  split
  · exact follows_of_same rfl rfl
  · exact ⟨.stays _, rfl, fun _ => rfl⟩

theorem follows_announce (shared : SharedTask ω) : shared.Follows shared.announce := by
  unfold announce
  split <;> exact follows_of_same rfl rfl

theorem follows_deliver (shared : SharedTask ω) : shared.Follows shared.deliver := by
  unfold deliver
  split
  · rename_i result held
    refine ⟨.stays _, rfl, ?_⟩
    intro free
    rw [held] at free
    cases free
  · exact follows_of_same rfl rfl

theorem follows_whenFree {after : SharedTask ω} (done : shared.Follows after) :
    shared.Follows (shared.whenFree after) := by
  unfold whenFree
  split
  · exact done
  · exact follows_of_same rfl rfl

theorem follows_apply (shared : SharedTask ω) (step : TaskStep ω) :
    shared.Follows (shared.apply step) := by
  cases step with
  | start work => exact follows_whenFree (shared.follows_start work)
  | stop => exact follows_whenFree shared.follows_stop
  | interrupt => exact shared.follows_interrupt
  | finish result =>
      exact follows_whenFree
        (follows_replace _ (shared.task.finish_moves result) (shared.task.id_finish result))
  | announce => exact shared.follows_announce
  | deliver => exact shared.follows_deliver
  | status => exact follows_whenFree (follows_of_same rfl rfl)
  | exitResult => exact follows_of_same rfl rfl
  | subscribe => exact follows_of_same rfl rfl
  | poll waiter => exact follows_of_same rfl rfl
  | broadcast event => exact follows_of_same rfl rfl

theorem id_run (shared : SharedTask ω) (steps : List (TaskStep ω)) :
    (shared.run steps).task.id = shared.task.id := by
  induction steps generalizing shared with
  | nil => rfl
  | cons step later ih => exact (ih (shared.apply step)).trans (shared.follows_apply step).id

namespace Orderly

theorem completion_iff (orderly : shared.Orderly others) (result : ExitResult) :
    shared.completion = some result ↔
      shared.closing = none ∧ shared.task.stage = .exited result := by
  rw [orderly.completion, delivered?]
  cases shared.closing with
  | none =>
      rw [Task.exitResult?, Stage.exitResult?_eq_some_iff]
      exact (and_iff_right rfl).symm
  | some closing => simp

/-- An exit shown once is shown for ever. -/
theorem completion_run (orderly : shared.Orderly others) {result : ExitResult}
    (shown : shared.completion = some result) (steps : List (TaskStep ω)) :
    (shared.run steps).completion = some result := by
  induction steps generalizing shared others with
  | nil => exact shown
  | cons step later ih =>
      have free := ((orderly.completion_iff result).mp shown).1
      have kept := (shared.follows_apply step).completion free
      exact ih (orderly.apply step) (kept.trans shown)

/-- Whoever exits the task has two steps left to make it known. -/
theorem completion_of_exited (orderly : shared.Orderly others) {result : ExitResult}
    (exited : shared.task.stage = .exited result) :
    (shared.run [.announce, .deliver]).completion = some result := by
  have shown : shared.task.exitResult? = some result :=
    Stage.exitResult?_eq_some_iff.mpr exited
  simp only [SharedTask.run, List.foldl, SharedTask.apply]
  cases held : shared.closing with
  | none =>
      rw [announce_of_free held, deliver_of_free held]
      exact (orderly.completion_iff result).mpr ⟨held, exited⟩
  | some closing =>
      have same : some closing.result = some result := (orderly.closing closing held).symm.trans shown
      cases closing with
      | announcing other | delivering other =>
          simp only [SharedTask.announce, SharedTask.deliver, held]
          exact same

theorem events_of_unfinished (orderly : shared.Orderly others)
    (unfinished : shared.task.exitResult? = none) :
    shared.bus.published.toList.Perm others := by
  have silent : shared.announcements = [] := by
    rw [announcements, announced?, unfinished]
    split <;> rfl
  simpa only [silent, List.append_nil] using orderly.events

theorem events_of_shown (orderly : shared.Orderly others) {result : ExitResult}
    (shown : shared.completion = some result) :
    shared.bus.published.toList.Perm (others ++ [shared.exitEvent result]) := by
  obtain ⟨free, exited⟩ := (orderly.completion_iff result).mp shown
  have told : shared.announcements = [shared.exitEvent result] := by
    rw [announcements, announced?_of_free free, Task.exitResult?,
      Stage.exitResult?_eq_some_iff.mpr exited]
    rfl
  simpa only [told] using orderly.events

theorem waiters_poll (orderly : shared.Orderly others) {waiter : Nat} {result : ExitResult}
    (subscribed : waiter < shared.waiters.length) (shown : shared.completion = some result) :
    (shared.poll waiter).waiters[waiter]? = some (some result) := by
  obtain ⟨received, there⟩ : ∃ received, shared.waiters[waiter]? = some received :=
    ⟨_, List.getElem?_eq_getElem subscribed⟩
  rw [SharedTask.poll, List.getElem?_modify_eq, there, shown]
  cases received with
  | none => rfl
  | some earlier =>
      have same := orderly.received earlier (List.mem_of_getElem? there)
      rw [shown] at same
      cases same
      rfl

end Orderly

theorem starts_apply_start (shared : SharedTask ω) (work : ω)
    (accepted : (shared.apply (.start work)).starts ≠ shared.starts) :
    shared.task.stage = .starting := by
  cases attempt : shared.task.start work with
  | ok started => exact (Task.start_eq_ok_iff.mp attempt).1
  | error error =>
      apply absurd _ accepted
      simp only [SharedTask.apply, whenFree, start, attempt]
      split
      · rw [starts_answer]
        exact List.append_nil _
      · rfl

/-- A task takes one way through its stages whatever its callers do. -/
theorem run_exits_once (descriptor : TaskDescriptor) (startedAt : Timestamp) (bus : EventBus)
    (steps : List (TaskStep ω)) :
    let reached := (new descriptor startedAt bus : SharedTask ω).run steps
    let foreign := bus.published.toList ++ steps.filterMap TaskStep.broadcast?
    (∀ step, reached.task.stage.Moves (reached.apply step).task.stage) ∧
      reached.starts.length ≤ 1 ∧
      (∀ work, (reached.apply (.start work)).starts ≠ reached.starts →
        reached.task.stage = .starting) ∧
      (∀ result, reached.completion = some result ↔
        reached.closing = none ∧ reached.task.stage = .exited result) ∧
      (∀ result, reached.task.stage = .exited result →
        (reached.run [.announce, .deliver]).completion = some result) ∧
      (∀ result later, reached.completion = some result →
        (reached.run later).completion = some result) ∧
      (∀ shown, .status shown ∈ reached.answers →
        (shown.state = "exited" ↔ shown.exitResult.isSome = true) ∧
          ∀ result, shown.exitResult = some result → reached.completion = some result) ∧
      (∀ result, .result (some result) ∈ reached.answers → reached.completion = some result) ∧
      (reached.task.exitResult? = none → reached.bus.published.toList.Perm foreign) ∧
      (∀ result, reached.completion = some result →
        reached.bus.published.toList.Perm
          (foreign ++ [⟨descriptor.id, Registry.exitMessage result⟩])) ∧
      (∀ result, some result ∈ reached.waiters → reached.completion = some result) ∧
      ∀ waiter result, waiter < reached.waiters.length → reached.completion = some result →
        (reached.apply (.poll waiter)).waiters[waiter]? = some (some result) := by
  intro reached foreign
  have orderly : reached.Orderly foreign := (orderly_new descriptor startedAt bus).run steps
  have id : reached.task.id = descriptor.id := id_run _ steps
  refine ⟨?_, orderly.started, ?_, ?_, ?_, ?_, ?_, ?_, ?_, ?_, orderly.received, ?_⟩
  · exact fun step => (reached.follows_apply step).stage
  · exact reached.starts_apply_start
  · exact orderly.completion_iff
  · exact fun result exited => orderly.completion_of_exited exited
  · exact fun result later shown => orderly.completion_run shown later
  · exact fun shown member => orderly.answers (.status shown) member
  · exact fun result member => orderly.answers (.result (some result)) member result rfl
  · exact orderly.events_of_unfinished
  · intro result shown
    rw [← id]
    exact orderly.events_of_shown shown
  · exact fun waiter result subscribed shown => orderly.waiters_poll subscribed shown

/-- An exit that slips in between the two steps of a stop keeps its result. -/
example (descriptor : TaskDescriptor) (startedAt : Timestamp) (bus : EventBus) :
    let raced := (new descriptor startedAt bus : SharedTask Unit).run
      [.start (), .stop, .finish (.completed [7]), .announce, .deliver, .interrupt]
    raced.completion = some (.completed [7]) ∧ raced.task.stop.requested = true :=
  ⟨rfl, rfl⟩

end SharedTask

end WasmTasks
