import WasmTasks.Proofs.Engine.Watched

/-!
No stop is lost. Whoever advances the epoch, a deadline never lies more than one step ahead of it,
and so the step that a task's own interruption makes always reaches it; a deadline armed too late
for that is found out by the look at the flag that follows.
-/

namespace WasmTasks

/-- The deadline is at most one step ahead, and not ahead at all once the interruption has made its
step. -/
structure Guarded (deadline : Deadline) (world : World) : Prop where
  near : deadline.epoch ≤ world.epoch + 1
  due : world.interruption = .returned → deadline.epoch ≤ world.epoch

namespace World

theorem epoch_le_disturb (world : World) (disturbance : Disturbance) :
    world.epoch ≤ (world.disturb disturbance).epoch := by
  obtain ⟨epoch, interruption⟩ := world
  cases disturbance with
  | other => exact Nat.le_succ _
  | request => cases interruption <;> exact Nat.le_refl _
  | advance => cases interruption <;> simp [disturb]

theorem idle_of_after {world : World} {disturbances : List Disturbance}
    (idle : (world.after disturbances).interruption = .idle) : world.interruption = .idle := by
  induction disturbances generalizing world with
  | nil => exact idle
  | cons disturbance later ih =>
      have next : (world.disturb disturbance).interruption = .idle := ih idle
      cases disturbance with
      | request =>
          unfold disturb at next
          dsimp only at next
          split at next
          · assumption
          · exact next
      | advance =>
          unfold disturb at next
          dsimp only at next
          split at next
          · cases next
          · exact next
      | other => exact next

end World

namespace Guarded

variable {deadline renewed : Deadline} {world : World}

theorem disturb (guarded : Guarded deadline world) (disturbance : Disturbance) :
    Guarded deadline (world.disturb disturbance) := by
  obtain ⟨near, due⟩ := guarded
  cases disturbance with
  | request =>
      unfold World.disturb
      dsimp only
      split
      · exact ⟨near, nofun⟩
      · exact ⟨near, due⟩
  | advance =>
      unfold World.disturb
      dsimp only
      split
      · exact ⟨Nat.le_succ_of_le near, fun _ => near⟩
      · exact ⟨near, due⟩
  | other => exact ⟨Nat.le_succ_of_le near, fun returned => Nat.le_succ_of_le (due returned)⟩

theorem after (guarded : Guarded deadline world) (disturbances : List Disturbance) :
    Guarded deadline (world.after disturbances) := by
  induction disturbances generalizing world with
  | nil => exact guarded
  | cons disturbance later ih => exact ih (guarded.disturb disturbance)

theorem arm (early : world.interruption ≠ .returned) : Guarded (.arm world.epoch) world :=
  ⟨Nat.le_refl _, fun returned => absurd returned early⟩

theorem check_eq_none (guarded : Guarded deadline world)
    (returned : world.interruption = .returned) : deadline.check world.signals = none := by
  have due := guarded.due returned
  simp [Deadline.check, World.signals, returned, Nat.not_lt.mpr due]

theorem not_returned_of_check (guarded : Guarded deadline world)
    (passed : deadline.check world.signals = some renewed) : world.interruption ≠ .returned := by
  intro returned
  rw [guarded.check_eq_none returned] at passed
  cases passed

/-- A renewal is an arming. -/
theorem renew (guarded : Guarded deadline world)
    (passed : deadline.check world.signals = some renewed) : Guarded renewed world := by
  have early := guarded.not_returned_of_check passed
  refine ⟨?_, fun returned => absurd returned early⟩
  unfold Deadline.check at passed
  split at passed
  · cases passed
    exact guarded.near
  · split at passed
    · cases passed
    · cases passed
      exact Nat.le_refl _

end Guarded

namespace Vigil

variable {vigil last : Vigil} {worlds : List World} {aborted : Bool}

theorem guarded_observe (guarded : Guarded vigil.deadline vigil.world) :
    Guarded vigil.observe.deadline vigil.observe.world := by
  unfold observe
  split
  · exact guarded
  · exact guarded.after _

@[simp] theorem final_observe (vigil : Vigil) : vigil.observe.final = vigil.final := by
  unfold observe final
  split
  · rfl
  · rename_i now later ahead
    rw [ahead]
    rfl

theorem pass_of_aborted (vigil : Vigil) {count : Nat}
    (aborts : vigil.observe.deadline.check vigil.observe.world.signals = none) :
    vigil.pass (count + 1) = ([vigil.observe.world], true, vigil.observe) := by
  rw [pass, aborts]

theorem pass_of_renewed (vigil : Vigil) {count : Nat} {renewed : Deadline}
    (passes : vigil.observe.deadline.check vigil.observe.world.signals = some renewed) :
    vigil.pass (count + 1) =
      (vigil.observe.world :: (pass count { vigil.observe with deadline := renewed }).1,
        (pass count { vigil.observe with deadline := renewed }).2) := by
  rw [pass, passes]

/-- A checkpoint reached too late is the last one, and it aborts. -/
theorem pass_spec {count : Nat} (guarded : Guarded vigil.deadline vigil.world)
    (passed : vigil.pass count = (worlds, aborted, last)) :
    Guarded last.deadline last.world ∧ last.final = vigil.final ∧
      ∀ front world back, worlds = front ++ world :: back → world.interruption = .returned →
        back = [] ∧ aborted = true := by
  -- the guard is what one checkpoint hands to the next
  induction count generalizing vigil worlds with
  | zero =>
      cases passed
      refine ⟨guarded, rfl, ?_⟩
      intro front world back parts
      cases front <;> cases parts
  | succ count ih =>
      have observed := guarded_observe guarded
      cases checked : vigil.observe.deadline.check vigil.observe.world.signals with
      | none =>
          rw [pass_of_aborted vigil checked] at passed
          cases passed
          refine ⟨observed, vigil.final_observe, ?_⟩
          intro front world back parts _
          cases front with
          | nil =>
              cases parts
              exact ⟨rfl, rfl⟩
          | cons first rest => simp at parts
      | some renewed =>
          -- a checkpoint that passes was not too late, so a late one is among those that follow
          have early := observed.not_returned_of_check checked
          have renewal : Guarded renewed vigil.observe.world := observed.renew checked
          rw [pass_of_renewed vigil checked] at passed
          obtain ⟨rfl, rest⟩ := Prod.mk.inj passed
          obtain ⟨lastGuarded, final, prompt⟩ := ih renewal (Prod.ext rfl rest)
          refine ⟨lastGuarded, final.trans vigil.final_observe, ?_⟩
          intro front world back parts returned
          cases front with
          | nil =>
              obtain ⟨same, _⟩ := List.cons.inj parts
              exact absurd returned (same ▸ early)
          | cons first others => exact prompt others world back (List.cons.inj parts).2 returned

/-- Checkpoints without end are as many as it takes to be aborted. -/
theorem pass_of_spin {deadline : Deadline} {world : World} {ahead : List (List Disturbance)}
    (aborts : spin deadline world ahead = some (worlds, last)) :
    pass worlds.length ⟨deadline, world, ahead⟩ = (worlds, true, last) := by
  induction ahead generalizing deadline world worlds with
  | nil =>
      unfold spin at aborts
      cases checked : deadline.check world.signals with
      | none =>
          rw [checked] at aborts
          cases aborts
          exact pass_of_aborted ⟨deadline, world, []⟩ checked
      | some renewed =>
          rw [checked] at aborts
          cases aborts
  | cons now later ih =>
      unfold spin at aborts
      cases checked : deadline.check (world.after now).signals with
      | none =>
          rw [checked] at aborts
          cases aborts
          exact pass_of_aborted ⟨deadline, world, now :: later⟩ checked
      | some renewed =>
          rw [checked] at aborts
          obtain ⟨⟨others, final⟩, rest, same⟩ := Option.map_eq_some_iff.mp aborts
          cases same
          rw [List.length_cons, pass_of_renewed ⟨deadline, world, now :: later⟩ checked]
          exact congrArg (fun result => (world.after now :: result.1, result.2)) (ih rest)

theorem pass_of_settled {deadline renewed : Deadline} {world : World}
    (passes : deadline.check world.signals = some renewed) (count : Nat) :
    (pass count ⟨deadline, world, []⟩).2.1 = false := by
  induction count generalizing deadline renewed with
  | zero => rfl
  | succ count ih =>
      rw [pass_of_renewed ⟨deadline, world, []⟩ passes]
      exact ih (Deadline.check_of_check passes)

/-- If no number of checkpoints is enough, the interruption never comes to its end. -/
theorem endless_of_spin {deadline : Deadline} {world : World} {ahead : List (List Disturbance)}
    (guarded : Guarded deadline world) (endless : spin deadline world ahead = none) :
    (final ⟨deadline, world, ahead⟩).interruption ≠ .returned ∧
      ∀ count, (pass count ⟨deadline, world, ahead⟩).2.1 = false := by
  induction ahead generalizing deadline world with
  | nil =>
      unfold spin at endless
      cases checked : deadline.check world.signals with
      | none =>
          rw [checked] at endless
          cases endless
      | some renewed => exact ⟨guarded.not_returned_of_check checked, pass_of_settled checked⟩
  | cons now later ih =>
      unfold spin at endless
      cases checked : deadline.check (world.after now).signals with
      | none =>
          rw [checked] at endless
          cases endless
      | some renewed =>
          rw [checked] at endless
          have rest := ih ((guarded.after now).renew checked) (Option.map_eq_none_iff.mp endless)
          refine ⟨rest.1, ?_⟩
          intro count
          cases count with
          | zero => rfl
          | succ count =>
              rw [pass_of_renewed ⟨deadline, world, now :: later⟩ checked]
              exact rest.2 count

end Vigil

/-! The steps of the protocol. -/

namespace Reply

variable {σ α : Type}

/-- The computation does not break down, its answer is as wanted, and it ends unless `lost`. -/
def Meets (lost : Prop) (wanted : α → σ → Prop) : Reply σ α → Prop
  | answered value state => wanted value state
  | aborted _ => False
  | endless => lost

theorem Meets.bind {β : Type} {lost : Prop} {session : Session σ α} {next : α → Session σ β}
    {state : σ} {middle : α → σ → Prop} {wanted : β → σ → Prop}
    (first : (session state).Meets lost middle)
    (rest : ∀ value state, middle value state → (next value state).Meets lost wanted) :
    ((session >>= next) state).Meets lost wanted := by
  rw [Session.bind_apply]
  cases reply : session state with
  | answered value after =>
      rw [reply] at first
      exact rest value after first
  | aborted after | endless =>
      rw [reply] at first
      exact first

theorem Meets.mono {lost : Prop} {wanted weaker : α → σ → Prop} {reply : Reply σ α}
    (meets : reply.Meets lost wanted)
    (weaken : ∀ value state, wanted value state → weaker value state) :
    reply.Meets lost weaker := by
  cases reply with
  | answered value state => exact weaken value state meets
  | aborted state => exact meets
  | endless => exact meets

end Reply

namespace Sighting

/-- In a call, a checkpoint reached after the interruption is the last one and its failure. -/
def Prompt : Sighting → Prop
  | called function checkpoints answer =>
      ∀ front world back, checkpoints = front ++ world :: back →
        world.interruption = .returned → back = [] ∧ answer = .error (.interrupted function)
  | _ => True

end Sighting

namespace Watched

variable {γ : Type} {conduct : Conduct γ} {watched : Watched γ} {final : World}

/-- So far so good: no checkpoint was missed, and the world goes where it is to go. -/
structure Attentive (final : World) (watched : Watched γ) : Prop where
  prompt : ∀ sighting ∈ watched.trail, sighting.Prompt
  final : watched.vigil.final = final

/-- The next checkpoints will not be missed either. -/
structure Safe (final : World) (watched : Watched γ) : Prop extends Attentive final watched where
  guarded : Guarded watched.vigil.deadline watched.vigil.world

/-- The same, unless the interruption was over before the deadline was armed. -/
structure Armed (final : World) (watched : Watched γ) : Prop extends Attentive final watched where
  guarded : watched.vigil.world.interruption ≠ .returned →
    Guarded watched.vigil.deadline watched.vigil.world

theorem Safe.armed (safe : watched.Safe final) : watched.Armed final :=
  ⟨safe.toAttentive, fun _ => safe.guarded⟩

theorem prompt_append {trail : List Sighting} {last : Sighting}
    (prompt : ∀ sighting ∈ trail, sighting.Prompt) (next : last.Prompt) :
    ∀ sighting ∈ trail ++ [last], sighting.Prompt := by
  intro sighting member
  rcases List.mem_append.mp member with earlier | own
  · exact prompt sighting earlier
  · rw [List.mem_singleton.mp own]
    exact next

/-- An endless execution is one whose interruption never comes to its end. -/
abbrev Lost (final : World) : Prop :=
  final.interruption ≠ .returned

theorem openContext_meets (attentive : watched.Attentive final) :
    (openContext conduct watched).Meets (Lost final) fun answer after =>
      after.Attentive final ∧ (answer = .ok () → after.Armed final) := by
  have met : ∀ guest : Option γ, Armed final
      ⟨guest, watched.vigil.arm, watched.trail ++ [.armed watched.vigil.arm.world]⟩ := by
    intro guest
    refine ⟨⟨prompt_append attentive.prompt trivial, ?_⟩, Guarded.arm⟩
    exact watched.vigil.final_observe.trans attentive.final
  unfold openContext
  dsimp only
  cases conduct.opening with
  | error error => exact ⟨(met none).toAttentive, nofun⟩
  | ok guest => exact ⟨(met (some guest)).toAttentive, fun _ => met (some guest)⟩

/-- A look at the flag that finds it down finds a deadline armed in time. -/
theorem checkStop_meets (attentive : watched.Attentive final) :
    (Protocol.checkStop (backend conduct) watched).Meets (Lost final) fun requested after =>
      after.Attentive final ∧ after.trail = watched.trail ++ [.looked after.vigil.world] ∧
        (requested = false → after.vigil.world.interruption = .idle) ∧
        (requested = false → watched.Armed final → after.Safe final) := by
  have looked : Attentive final watched.stopRequested.2 :=
    ⟨prompt_append attentive.prompt trivial, watched.vigil.final_observe.trans attentive.final⟩
  have idle : watched.stopRequested.1 = false →
      watched.vigil.observe.world.interruption = .idle := by
    intro down
    exact Classical.not_not.mp (of_decide_eq_false down)
  refine ⟨looked, rfl, idle, ?_⟩
  intro down armed
  have early : watched.vigil.world.interruption = .idle := by
    have now := idle down
    unfold Vigil.observe at now
    split at now
    · exact now
    · exact World.idle_of_after now
  have guarded := armed.guarded (by rw [early]; exact nofun)
  exact ⟨looked, Vigil.guarded_observe guarded⟩

theorem conclude_meets (safe : watched.Safe final) {count : Nat} {checkpoints : List World}
    {aborted : Bool} {last : Vigil}
    (passed : watched.vigil.pass count = (checkpoints, aborted, last))
    (function : String) (guest : γ) {answer : Except CallError (List Int64)}
    (interrupted : aborted = true → answer = .error (.interrupted function)) :
    (watched.conclude function guest last checkpoints answer).Meets (Lost final)
      fun answer after => after.Safe final ∧ ∀ values, answer = .ok values →
        ∃ checkpoints, after.trail = watched.trail ++ [.called function checkpoints answer] := by
  obtain ⟨guarded, same, prompt⟩ := Vigil.pass_spec safe.guarded passed
  have next : Sighting.Prompt (.called function checkpoints answer) := by
    intro front world back parts returned
    exact (prompt front world back parts returned).imp_right interrupted
  exact ⟨⟨⟨prompt_append safe.prompt next, same.trans safe.final⟩, guarded⟩,
    fun _ _ => ⟨checkpoints, rfl⟩⟩

theorem call_meets (safe : watched.Safe final) (function : String) (args : List Int64) :
    (call conduct function args watched).Meets (Lost final) fun answer after =>
      after.Safe final ∧ ∀ values, answer = .ok values →
        ∃ checkpoints, after.trail = watched.trail ++ [.called function checkpoints answer] := by
  unfold call
  cases watched.guest with
  | none => exact ⟨safe, nofun⟩
  | some guest =>
      dsimp only
      cases (conduct.call function args guest).checkpoints with
      | none =>
          dsimp only
          cases spun : Vigil.spin watched.vigil.deadline watched.vigil.world watched.vigil.ahead with
          | none =>
              have lost := (Vigil.endless_of_spin safe.guarded spun).1
              rw [show Vigil.final _ = final from safe.final] at lost
              exact lost
          | some result =>
              exact conclude_meets safe (Vigil.pass_of_spin spun) function _ fun _ => rfl
      | some count =>
          dsimp only
          cases passed : watched.vigil.pass count with
          | mk checkpoints rest =>
              obtain ⟨aborted, last⟩ := rest
              cases aborted with
              | true => exact conclude_meets safe passed function _ fun _ => rfl
              | false => exact conclude_meets safe passed function _ nofun

theorem write_meets (safe : watched.Safe final) (offset : Nat) (bytes : Bytes) :
    (write conduct offset bytes watched).Meets (Lost final) fun _ after => after.Safe final := by
  unfold write
  cases watched.guest with
  | none => exact safe
  | some guest =>
      dsimp only
      cases conduct.write offset bytes guest with
      | error error => exact safe
      | ok guest => exact ⟨⟨safe.prompt, safe.final⟩, safe.guarded⟩

/-- What the steps before the classification leave: nothing but the entry call answers with
values. -/
def Concluded (final : World) (config : TaskConfig)
    (outcome : Except TaskFault (Option (List Int64))) (watched : Watched γ) : Prop :=
  watched.Attentive final ∧ ∀ values, outcome = .ok (some values) →
    ∃ front checkpoints,
      watched.trail = front ++ [.called config.main.entry checkpoints (.ok values)]

theorem stageInput_meets (safe : watched.Safe final) (buffer : IoBufferConfig) :
    (Protocol.stageInput (backend conduct) buffer watched).Meets (Lost final)
      fun _ after => after.Safe final := by
  unfold Protocol.stageInput
  refine (call_meets safe buffer.allocator buffer.args).bind ?_
  rintro answer called ⟨safe, _⟩
  cases answer with
  | error error => exact safe
  | ok values =>
      dsimp only
      cases Protocol.bufferOffset buffer.allocator values with
      | error error => exact safe
      | ok offset =>
          refine (write_meets safe offset buffer.input).bind ?_
          intro written after safe
          cases written <;> exact safe

theorem callEntry_meets (safe : watched.Safe final) (config : TaskConfig) :
    (Protocol.callEntry (backend conduct) config.main watched).Meets (Lost final)
      (Concluded final config) := by
  unfold Protocol.callEntry
  refine (call_meets safe config.main.entry config.main.args).bind ?_
  rintro answer after ⟨safe, recorded⟩
  cases answer with
  | error error => exact ⟨safe.toAttentive, nofun⟩
  | ok values =>
      refine ⟨safe.toAttentive, ?_⟩
      intro others same
      cases same
      obtain ⟨checkpoints, trail⟩ := recorded values rfl
      exact ⟨watched.trail, checkpoints, trail⟩

/-- A step between two looks, then the next look, then the rest. -/
theorem look_meets (armed : watched.Armed final) (config : TaskConfig)
    {rest : Session (Watched γ) (Except TaskFault (Option (List Int64)))}
    (goes : ∀ after : Watched γ, after.Safe final →
      (rest after).Meets (Lost final) (Concluded final config)) :
    ((Protocol.checkStop (backend conduct) >>= fun requested =>
      if requested then pure (Except.ok none) else rest) watched).Meets
        (Lost final) (Concluded final config) := by
  refine (checkStop_meets armed.toAttentive).bind ?_
  rintro requested after ⟨attentive, _, _, safe⟩
  cases requested with
  | true => exact ⟨attentive, nofun⟩
  | false => exact goes after (safe rfl armed)

theorem run_meets (attentive : watched.Attentive final) (config : TaskConfig) :
    (Protocol.run (backend conduct) config watched).Meets (Lost final)
      (Concluded final config) := by
  unfold Protocol.run
  refine (openContext_meets attentive).bind ?_
  rintro answer opened ⟨attentive, armed⟩
  cases answer with
  | error error => exact ⟨attentive, nofun⟩
  | ok done =>
      refine look_meets (armed rfl) config ?_
      intro looked safe
      cases config.ioBuffer.enabled with
      | false => exact callEntry_meets safe config
      | true =>
          refine (stageInput_meets safe config.ioBuffer).bind ?_
          intro staged after safe
          cases staged with
          | error error => exact ⟨safe.toAttentive, nofun⟩
          | ok offset =>
              exact look_meets safe.armed config fun _ safe => callEntry_meets safe config

/-- The classification calls everything a stop but a normal return, and a failure whose last look
still finds the flag down. -/
def Verdict (config : TaskConfig) (result : ExitResult) (watched : Watched γ) : Prop :=
  result.isStopped = true ∨
    (∃ values front checkpoints, result = .completed values ∧
      watched.trail = front ++ [.called config.main.entry checkpoints (.ok values)] ∧
      ∀ world ∈ checkpoints, world.interruption ≠ .returned) ∨
    ∃ fault front world, result = .faulted fault ∧
      watched.trail = front ++ [.looked world] ∧ world.interruption = .idle

theorem classify_meets {config : TaskConfig} {outcome : Except TaskFault (Option (List Int64))}
    (concluded : Concluded final config outcome watched) :
    (Protocol.classify (backend conduct) outcome watched).Meets (Lost final)
      fun result after => after.Attentive final ∧ Verdict config result after := by
  obtain ⟨attentive, returned⟩ := concluded
  match outcome with
  | .ok (some values) =>
      obtain ⟨front, checkpoints, trail⟩ := returned values rfl
      refine ⟨attentive, .inr (.inl ⟨values, front, checkpoints, rfl, trail, ?_⟩)⟩
      intro world member late
      obtain ⟨before, behind, parts⟩ := List.append_of_mem member
      have prompt : Sighting.Prompt (.called config.main.entry checkpoints (.ok values)) := by
        apply attentive.prompt
        rw [trail]
        exact List.mem_append_right front (List.mem_singleton.mpr rfl)
      cases (prompt before world behind parts late).2
  | .ok none => exact ⟨attentive, .inl rfl⟩
  | .error fault =>
      cases interrupted : fault.isInterrupted with
      | true =>
          simp only [Protocol.classify, interrupted, if_true]
          exact ⟨attentive, .inl rfl⟩
      | false =>
          simp only [Protocol.classify, interrupted, Bool.false_eq_true, if_false]
          refine (checkStop_meets attentive).bind ?_
          rintro requested after ⟨attentive, trail, idle, _⟩
          cases requested with
          | true => exact ⟨attentive, .inl rfl⟩
          | false => exact ⟨attentive, .inr (.inr ⟨fault, watched.trail, _, rfl, trail, idle rfl⟩)⟩

/-- Once the interruption of a task has returned, no checkpoint of it goes on, and the task counts
as stopped unless its entry call gets by without one. It ends at all if the interruption does. -/
theorem execute_misses_no_stop (conduct : Conduct γ) (config : TaskConfig) (world : World)
    (ahead : List (List Disturbance)) :
    (Protocol.execute (backend conduct) config (start world ahead)).Meets
      ((ahead.foldl World.after world).interruption ≠ .returned) fun result watched =>
        (∀ function checkpoints answer,
          .called function checkpoints answer ∈ watched.trail →
            ∀ front late back, checkpoints = front ++ late :: back →
              late.interruption = .returned →
                back = [] ∧ answer = .error (.interrupted function)) ∧
          (result.isStopped = true ∨
            (∃ values front checkpoints, result = .completed values ∧
              watched.trail = front ++ [.called config.main.entry checkpoints (.ok values)] ∧
              ∀ seen ∈ checkpoints, seen.interruption ≠ .returned) ∨
            ∃ fault front seen, result = .faulted fault ∧
              watched.trail = front ++ [.looked seen] ∧ seen.interruption = .idle) := by
  have fresh : (start world ahead : Watched γ).Attentive (ahead.foldl World.after world) :=
    ⟨nofun, rfl⟩
  refine ((run_meets fresh config).bind fun _ _ concluded => classify_meets concluded).mono ?_
  intro result watched meets
  exact ⟨fun function checkpoints answer member => meets.1.prompt _ member, meets.2⟩

/-- A deadline armed after the interruption is ahead of the epoch for good; the look prevents an
entry call that nothing would end. -/
example (config : TaskConfig) :
    Protocol.execute
      (backend ⟨.ok (), fun _ _ _ => ⟨none, fun _ => (), .ok [], ()⟩, fun _ _ _ => .ok ()⟩)
      config (start ⟨0, .idle⟩ [[.request, .advance]]) =
      .answered (.stopped "task stopped before the entry call")
        ⟨some (), ⟨⟨2, 0⟩, ⟨1, .returned⟩, []⟩,
          [.armed ⟨1, .returned⟩, .looked ⟨1, .returned⟩]⟩ := rfl

end Watched

end WasmTasks
