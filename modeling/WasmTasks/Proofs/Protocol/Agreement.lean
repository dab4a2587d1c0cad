import WasmTasks.Protocol.Execute

/-!
Two backends that agree: from related states they give the same answers and go on to related states.
Then so do the executions over them, and one that is stopped has found its stop requested or was
interrupted.
-/

namespace WasmTasks

variable {σ τ α β ε : Type} {related : σ → τ → Prop}

/-- The same answer, a good one, and related states. -/
def Reply.Agrees (related : σ → τ → Prop) (good : α → Prop) : Reply σ α → Reply τ α → Prop
  | answered value state, answered other counterpart =>
      value = other ∧ good value ∧ related state counterpart
  | aborted state, aborted counterpart => related state counterpart
  | endless, endless => True
  | _, _ => False

namespace Session

def Agrees (related : σ → τ → Prop) (good : α → Prop) (session : Session σ α)
    (other : Session τ α) : Prop :=
  ∀ state counterpart, related state counterpart →
    (session state).Agrees related good (other counterpart)

variable {session : Session σ α} {other : Session τ α} {next : α → Session σ β}
  {otherNext : α → Session τ β} {middle : α → Prop} {good : β → Prop}

theorem Agrees.pure {value : β} (fine : good value) :
    Agrees related good (Pure.pure value : Session σ β) (Pure.pure value : Session τ β) :=
  fun _ _ same => ⟨rfl, fine, same⟩

theorem Agrees.bind (first : Agrees related middle session other)
    (rest : ∀ value, middle value → Agrees related good (next value) (otherNext value)) :
    Agrees related good (session >>= next) (other >>= otherNext) := by
  intro state counterpart same
  have agrees := first state counterpart same
  rw [bind_apply, bind_apply]
  revert agrees
  cases session state <;> cases other counterpart <;> intro agrees
  case answered.answered value state otherValue counterpart =>
    obtain ⟨rfl, fine, same⟩ := agrees
    exact rest value fine state counterpart same
  case aborted.aborted => exact agrees
  case endless.endless => trivial
  all_goals exact agrees.elim

end Session

/-- An answer that is an interruption only if there was a `stop`. -/
def Caused (stop : Prop) (isInterrupted : ε → Bool) : Except ε α → Prop
  | .ok _ => True
  | .error error => isInterrupted error = true → stop

/-- Backends that agree; unless there was a `stop`, they find none and interrupt nothing. -/
structure Backend.Agrees (related : σ → τ → Prop) (stop : Prop) (backend : Backend σ)
    (other : Backend τ) : Prop where
  openContext : Session.Agrees related (Caused stop CallError.isInterrupted)
    backend.openContext other.openContext
  checkStop : Session.Agrees related (fun requested => requested = true → stop)
    (Protocol.checkStop backend) (Protocol.checkStop other)
  call : ∀ function args, Session.Agrees related (Caused stop CallError.isInterrupted)
    (backend.call function args) (other.call function args)
  write : ∀ offset bytes,
    Session.Agrees related (Caused stop fun error => (TaskFault.buffer error).isInterrupted)
      (backend.write offset bytes) (other.write offset bytes)

namespace Protocol

open Session

variable {backend : Backend σ} {other : Backend τ} {stop : Prop}

theorem isInterrupted_allocatorFault (error : CallError) :
    (TaskFault.buffer (allocatorFault error)).isInterrupted = error.isInterrupted := by
  cases error <;> rfl

theorem caused_bufferOffset (stop : Prop) (allocator : String) (values : List Int64) :
    Caused stop (fun error => (TaskFault.buffer error).isInterrupted)
      (bufferOffset allocator values) := by
  cases values with
  | nil =>
      intro interrupted
      cases interrupted
  | cons offset rest =>
      dsimp only [bufferOffset]
      split
      · trivial
      · intro interrupted
        cases interrupted

theorem stageInput_agrees (agrees : backend.Agrees related stop other) (buffer : IoBufferConfig) :
    Agrees related (Caused stop fun error => (TaskFault.buffer error).isInterrupted)
      (stageInput backend buffer) (stageInput other buffer) := by
  unfold stageInput
  refine (agrees.call _ _).bind ?_
  intro answer caused
  cases answer with
  | error error =>
      refine .pure fun interrupted => caused ?_
      rwa [← isInterrupted_allocatorFault]
  | ok values =>
      have placed := caused_bufferOffset stop buffer.allocator values
      revert placed
      dsimp only
      cases bufferOffset buffer.allocator values with
      | error error => exact fun placed => .pure placed
      | ok offset =>
          intro _
          refine (agrees.write _ _).bind ?_
          intro written caused
          cases written with
          | error error => exact .pure caused
          | ok done => exact .pure trivial

/-- What the steps before the classification may come to: a stop that was noticed, an interruption
that there was a stop for, or anything else. -/
def Outcome (stop : Prop) : Except TaskFault (Option (List Int64)) → Prop
  | .ok none => stop
  | outcome => Caused stop TaskFault.isInterrupted outcome

theorem callEntry_agrees (agrees : backend.Agrees related stop other) (main : MainConfig) :
    Agrees related (Outcome stop) (callEntry backend main) (callEntry other main) := by
  unfold callEntry
  refine (agrees.call _ _).bind ?_
  intro answer caused
  cases answer with
  | error error => exact .pure caused
  | ok values => exact .pure trivial

theorem look_agrees {good : α → Prop} {stopped : α} {rest : Session σ α} {otherRest : Session τ α}
    (agrees : backend.Agrees related stop other) (noticed : stop → good stopped)
    (next : Agrees related good rest otherRest) :
    Agrees related good
      (checkStop backend >>= fun requested => if requested then pure stopped else rest)
      (checkStop other >>= fun requested => if requested then pure stopped else otherRest) := by
  refine agrees.checkStop.bind ?_
  intro requested cause
  cases requested with
  | true => exact .pure (noticed (cause rfl))
  | false => exact next

theorem run_agrees (agrees : backend.Agrees related stop other) (config : TaskConfig) :
    Agrees related (Outcome stop) (run backend config) (run other config) := by
  unfold run
  refine agrees.openContext.bind ?_
  intro opened caused
  cases opened with
  | error error => exact .pure caused
  | ok done =>
      refine look_agrees agrees (fun noticed => noticed) ?_
      cases config.ioBuffer.enabled with
      | false => exact callEntry_agrees agrees config.main
      | true =>
          refine (stageInput_agrees agrees config.ioBuffer).bind ?_
          intro staged caused
          cases staged with
          | error error => exact .pure caused
          | ok offset =>
              exact look_agrees agrees (fun noticed => noticed)
                (callEntry_agrees agrees config.main)

theorem classify_agrees (agrees : backend.Agrees related stop other)
    {outcome : Except TaskFault (Option (List Int64))} (met : Outcome stop outcome) :
    Agrees related (fun result => result.isStopped = true → stop)
      (classify backend outcome) (classify other outcome) := by
  match outcome with
  | .ok (some values) => exact .pure nofun
  | .ok none => exact .pure fun _ => met
  | .error fault =>
      cases interrupted : fault.isInterrupted with
      | true =>
          simp only [classify, interrupted, if_true]
          exact .pure fun _ => met interrupted
      | false =>
          simp only [classify, interrupted, Bool.false_eq_true, if_false]
          exact look_agrees agrees (fun noticed _ => noticed) (.pure nofun)

theorem execute_agrees (agrees : backend.Agrees related stop other) (config : TaskConfig) :
    Agrees related (fun result => result.isStopped = true → stop)
      (execute backend config) (execute other config) :=
  (run_agrees agrees config).bind fun _ met => classify_agrees agrees met

end Protocol

end WasmTasks
