import Mathlib.Data.List.Chain
import WasmTasks.Proofs.Protocol.Transcript

/-!
The course of an execution, read off its transcript: which operations are performed and in which
order, what each of them waits for, and which exit result the exchanges call for.
-/

namespace WasmTasks

/-- An interruption of a call counts wherever the call was made. -/
inductive TaskFault.Interruption : TaskFault → Prop
  | entry (function : String) : Interruption (.call (.interrupted function))
  | allocator (function : String) : Interruption (.buffer (.allocator (.interrupted function)))

theorem TaskFault.isInterrupted_iff (fault : TaskFault) :
    fault.isInterrupted = true ↔ fault.Interruption := by
  constructor
  · intro interrupted
    cases fault with
    | call error =>
        cases error with
        | interrupted function => exact .entry function
        | _ => cases interrupted
    | buffer error =>
        cases error with
        | allocator error =>
            cases error with
            | interrupted function => exact .allocator function
            | _ => cases interrupted
        | _ => cases interrupted
  · intro interruption
    cases interruption with
    | entry function => rfl
    | allocator function => rfl

namespace Protocol

variable {σ : Type} {config : TaskConfig} {log : List Exchange} {fault : TaskFault}

def performed (log : List Exchange) : List Exchange :=
  log.filter fun exchange => exchange.event?.isSome

def operations (log : List Exchange) : List Script.Event :=
  log.filterMap Exchange.event?

@[simp] theorem operations_nil : operations [] = [] := rfl

@[simp] theorem operations_cons (exchange : Exchange) (log : List Exchange) :
    operations (exchange :: log) = exchange.event?.toList ++ operations log := by
  unfold operations
  cases asked : exchange.event? with
  | none => rw [List.filterMap_cons_none asked, Option.toList_none, List.nil_append]
  | some event => rw [List.filterMap_cons_some asked, Option.toList_some, List.singleton_append]

@[simp] theorem operations_append (log later : List Exchange) :
    operations (log ++ later) = operations log ++ operations later :=
  List.filterMap_append

theorem performed_concat_look (log : List Exchange) (requested : Bool) :
    performed (log ++ [.look requested]) = performed log := by
  simp [performed]

theorem operations_performed (log : List Exchange) :
    operations (performed log) = operations log := by
  unfold operations performed
  rw [List.filterMap_filter]
  congr 1
  funext exchange
  cases asked : exchange.event? with
  | none => rfl
  | some event => rfl

/-- All operations of an execution in which nothing goes wrong and no stop is noticed. -/
def plan (config : TaskConfig) (offset : Nat) : List Script.Event :=
  .context ::
    ((if config.ioBuffer.enabled then
        [.call config.ioBuffer.allocator config.ioBuffer.args,
          .write offset config.ioBuffer.input]
      else []) ++
    [.call config.main.entry config.main.args])

/-- A function is called right after a look that found no stop request; memory is written right
after a call that answered where. -/
def MayFollow (config : TaskConfig) (before : Exchange) : Exchange → Prop
  | .call _ _ _ => before = .look false
  | .write offset _ _ =>
      ∃ function args values, before = .call function args (some (.ok values)) ∧
        bufferOffset config.ioBuffer.allocator values = .ok offset
  | _ => True

structure Orderly (config : TaskConfig) (log : List Exchange) : Prop where
  planned : ∃ offset, operations log <+: plan config offset
  watched : log.IsChain (MayFollow config)
  halting : log.Pairwise fun earlier later => earlier.failed = true → later.event? = none

def Returned (config : TaskConfig) (log : List Exchange) (values : List Int64) : Prop :=
  (∃ offset, operations log = plan config offset) ∧
    (performed log).getLast? = some (.call config.main.entry config.main.args (some (.ok values)))

/-- What went wrong with the last of the operations performed. -/
inductive Fails (config : TaskConfig) : List Exchange → TaskFault → Prop
  | opening (error : CallError) : Fails config [.context (some (.error error))] (.call error)
  | allocating (enabled : config.ioBuffer.enabled = true) (error : CallError) :
      Fails config
        [.context (some (.ok ())),
          .call config.ioBuffer.allocator config.ioBuffer.args (some (.error error))]
        (.buffer (allocatorFault error))
  | placing (enabled : config.ioBuffer.enabled = true) (values : List Int64) (error : BufferError)
      (misplaced : bufferOffset config.ioBuffer.allocator values = .error error) :
      Fails config
        [.context (some (.ok ())),
          .call config.ioBuffer.allocator config.ioBuffer.args (some (.ok values))]
        (.buffer error)
  | writing (enabled : config.ioBuffer.enabled = true) (values : List Int64) (offset : Nat)
      (error : BufferError) :
      Fails config
        [.context (some (.ok ())),
          .call config.ioBuffer.allocator config.ioBuffer.args (some (.ok values)),
          .write offset config.ioBuffer.input (some (.error error))]
        (.buffer error)
  | entering (disabled : config.ioBuffer.enabled = false) (error : CallError) :
      Fails config
        [.context (some (.ok ())),
          .call config.main.entry config.main.args (some (.error error))]
        (.call error)
  | enteringStaged (enabled : config.ioBuffer.enabled = true) (values : List Int64) (offset : Nat)
      (error : CallError) :
      Fails config
        [.context (some (.ok ())),
          .call config.ioBuffer.allocator config.ioBuffer.args (some (.ok values)),
          .write offset config.ioBuffer.input (some (.ok ())),
          .call config.main.entry config.main.args (some (.error error))]
        (.call error)

/-- The stop was requested by the last look, or an operation was interrupted. -/
def Stopping (config : TaskConfig) (log : List Exchange) : Prop :=
  log.getLast? = some (.look true) ∨
    ∃ fault, Fails config (performed log) fault ∧ fault.Interruption

/-- The exit result that the exchanges of an execution call for. -/
structure Verdict (config : TaskConfig) (log : List Exchange) (result : ExitResult) : Prop where
  completed : ∀ values, Returned config log values →
    result.cause = .completed ∧ result.exitCode = 0 ∧ result.message = "" ∧
      result.returnValues = values
  stopped : (∀ values, ¬ Returned config log values) → Stopping config log →
    result.cause = .stopped ∧ result.exitCode = 143 ∧ result.returnValues = []
  faulted : (∀ values, ¬ Returned config log values) → ¬ Stopping config log →
    ∃ fault, Fails config (performed log) fault ∧ log.getLast? = some (.look false) ∧
      result.cause = .faulted ∧ result.exitCode = 1 ∧ result.message = fault.message ∧
      result.returnValues = []

/-- What staging the input exchanges, and how it ends. -/
inductive Staging (buffer : IoBufferConfig) :
    List Exchange → Option (Except BufferError Nat) → Prop
  | unanswered : Staging buffer [.call buffer.allocator buffer.args none] none
  | refused (error : CallError) :
      Staging buffer [.call buffer.allocator buffer.args (some (.error error))]
        (some (.error (allocatorFault error)))
  | misplaced (values : List Int64) (error : BufferError)
      (placed : bufferOffset buffer.allocator values = .error error) :
      Staging buffer [.call buffer.allocator buffer.args (some (.ok values))]
        (some (.error error))
  | unwritten (values : List Int64) (offset : Nat)
      (placed : bufferOffset buffer.allocator values = .ok offset) :
      Staging buffer
        [.call buffer.allocator buffer.args (some (.ok values)), .write offset buffer.input none]
        none
  | rejected (values : List Int64) (offset : Nat) (error : BufferError)
      (placed : bufferOffset buffer.allocator values = .ok offset) :
      Staging buffer
        [.call buffer.allocator buffer.args (some (.ok values)),
          .write offset buffer.input (some (.error error))]
        (some (.error error))
  | written (values : List Int64) (offset : Nat)
      (placed : bufferOffset buffer.allocator values = .ok offset) :
      Staging buffer
        [.call buffer.allocator buffer.args (some (.ok values)),
          .write offset buffer.input (some (.ok ()))]
        (some (.ok offset))

inductive Ready (config : TaskConfig) : List Exchange → Prop
  | direct (disabled : config.ioBuffer.enabled = false) :
      Ready config [.context (some (.ok ())), .look false]
  | staged (enabled : config.ioBuffer.enabled = true) (values : List Int64) (offset : Nat)
      (placed : bufferOffset config.ioBuffer.allocator values = .ok offset) :
      Ready config
        [.context (some (.ok ())), .look false,
          .call config.ioBuffer.allocator config.ioBuffer.args (some (.ok values)),
          .write offset config.ioBuffer.input (some (.ok ())), .look false]

/-- What the steps of the protocol exchange, and how they end. -/
inductive Trace (config : TaskConfig) :
    List Exchange → Option (Except TaskFault (Option (List Int64))) → Prop
  | unopened : Trace config [.context none] none
  | refused (error : CallError) :
      Trace config [.context (some (.error error))] (some (.error (.call error)))
  | noticed : Trace config [.context (some (.ok ())), .look true] (some (.ok none))
  | stuck {log : List Exchange} (enabled : config.ioBuffer.enabled = true)
      (staging : Staging config.ioBuffer log none) :
      Trace config ([.context (some (.ok ())), .look false] ++ log) none
  | unstaged {log : List Exchange} (enabled : config.ioBuffer.enabled = true) (error : BufferError)
      (staging : Staging config.ioBuffer log (some (.error error))) :
      Trace config ([.context (some (.ok ())), .look false] ++ log)
        (some (.error (.buffer error)))
  | noticedLate {log : List Exchange} (enabled : config.ioBuffer.enabled = true) (offset : Nat)
      (staging : Staging config.ioBuffer log (some (.ok offset))) :
      Trace config ([.context (some (.ok ())), .look false] ++ log ++ [.look true])
        (some (.ok none))
  | unreturned {log : List Exchange} (ready : Ready config log) :
      Trace config (log ++ [.call config.main.entry config.main.args none]) none
  | failed {log : List Exchange} (ready : Ready config log) (error : CallError) :
      Trace config (log ++ [.call config.main.entry config.main.args (some (.error error))])
        (some (.error (.call error)))
  | returned {log : List Exchange} (ready : Ready config log) (values : List Int64) :
      Trace config (log ++ [.call config.main.entry config.main.args (some (.ok values))])
        (some (.ok (some values)))

namespace Orderly

theorem look (orderly : Orderly config log) (requested : Bool) :
    Orderly config (log ++ [.look requested]) := by
  refine ⟨?_, ?_, ?_⟩
  · simpa using orderly.planned
  · refine List.isChain_append.mpr ⟨orderly.watched, List.isChain_singleton _, ?_⟩
    rintro before _ _ ⟨⟩
    trivial
  · refine List.pairwise_append.mpr ⟨orderly.halting, List.pairwise_singleton _ _, ?_⟩
    intro earlier _ later last _
    rw [List.mem_singleton.mp last]
    rfl

theorem context (answer : Option (Except CallError Unit)) : Orderly config [.context answer] where
  planned := ⟨0, by simp [plan]⟩
  watched := List.isChain_singleton _
  halting := List.pairwise_singleton _ _

end Orderly

theorem Staging.orderly {outcome : Option (Except BufferError Nat)}
    (enabled : config.ioBuffer.enabled = true) (staging : Staging config.ioBuffer log outcome) :
    Orderly config ([.context (some (.ok ())), .look false] ++ log) := by
  cases staging with
  | unanswered | refused | misplaced =>
      exact ⟨⟨0, by simp [plan, enabled]⟩, by simp [MayFollow],
        by simp⟩
  | unwritten values offset placed | rejected values offset _ placed
  | written values offset placed =>
      exact ⟨⟨offset, by simp [plan, enabled]⟩,
        by simp [MayFollow, placed], by simp⟩

theorem Ready.orderly (ready : Ready config log) (answer : Option (Except CallError (List Int64))) :
    Orderly config (log ++ [.call config.main.entry config.main.args answer]) := by
  cases ready with
  | direct disabled =>
      exact ⟨⟨0, by simp [plan, disabled]⟩, by simp [MayFollow],
        by simp⟩
  | staged enabled values offset placed =>
      exact ⟨⟨offset, by simp [plan, enabled]⟩,
        by simp [MayFollow, placed], by simp⟩

theorem Ready.returned (ready : Ready config log) (values : List Int64) :
    Returned config (log ++ [.call config.main.entry config.main.args (some (.ok values))])
      values := by
  refine ⟨?_, by simp [performed]⟩
  cases ready with
  | direct disabled => exact ⟨0, by simp [plan, disabled]⟩
  | staged enabled _ offset _ =>
      exact ⟨offset, by simp [plan, enabled]⟩

theorem Staging.fails {error : BufferError} (enabled : config.ioBuffer.enabled = true)
    (staging : Staging config.ioBuffer log (some (.error error))) :
    Fails config (performed ([.context (some (.ok ())), .look false] ++ log)) (.buffer error) := by
  cases staging with
  | refused error => exact .allocating enabled error
  | misplaced values _ placed => exact .placing enabled values error placed
  | rejected values offset _ _ => exact .writing enabled values offset error

theorem Ready.fails (ready : Ready config log) (error : CallError) :
    Fails config
      (performed (log ++ [.call config.main.entry config.main.args (some (.error error))]))
      (.call error) := by
  cases ready with
  | direct disabled => exact .entering disabled error
  | staged enabled values offset _ => exact .enteringStaged enabled values offset error

namespace Fails

theorem not_returned (fails : Fails config (performed log) fault) (values : List Int64) :
    ¬ Returned config log values := by
  rintro ⟨⟨offset, complete⟩, last⟩
  rw [← operations_performed] at complete
  generalize performed log = exchanges at fails last complete
  cases fails with
  | placing enabled => simp [plan, enabled] at complete
  | _ => simp at last

theorem unique {exchanges others : List Exchange} {other : TaskFault}
    (fails : Fails config exchanges fault) (again : Fails config others other)
    (same : exchanges = others) : fault = other := by
  -- the allocator and the entry can be one function; then the configuration tells the calls apart
  cases fails <;> cases again <;> simp_all

end Fails

namespace Trace

theorem orderly {outcome : Option (Except TaskFault (Option (List Int64)))}
    (trace : Trace config log outcome) : Orderly config log := by
  cases trace with
  | unopened | refused => exact .context _
  | noticed => exact (Orderly.context _).look true
  | stuck enabled staging | unstaged enabled _ staging => exact staging.orderly enabled
  | noticedLate enabled _ staging => exact (staging.orderly enabled).look true
  | unreturned ready | failed ready | returned ready => exact ready.orderly _

theorem unanswered (trace : Trace config log none) :
    ∃ exchange, log.getLast? = some exchange ∧ exchange.isUnanswered = true := by
  cases trace with
  | unopened => exact ⟨_, rfl, rfl⟩
  | stuck enabled staging =>
      cases staging with
      | unanswered | unwritten => exact ⟨_, rfl, rfl⟩
  | unreturned ready => exact ⟨_, List.getLast?_concat, rfl⟩

theorem fails (trace : Trace config log (some (.error fault))) :
    Fails config (performed log) fault := by
  cases trace with
  | refused error => exact .opening error
  | unstaged enabled error staging => exact staging.fails enabled
  | failed ready error => exact ready.fails error

theorem looked (trace : Trace config log (some (.ok none))) :
    log.getLast? = some (.look true) := by
  cases trace with
  | noticed => rfl
  | noticedLate => exact List.getLast?_concat

theorem not_returned (trace : Trace config log (some (.ok none))) (values : List Int64) :
    ¬ Returned config log values := by
  rintro ⟨_, last⟩
  cases trace with
  | noticed => cases last
  | noticedLate enabled offset staging =>
      cases staging with
      | written => cases last

theorem returns {values : List Int64} (trace : Trace config log (some (.ok (some values)))) :
    Returned config log values := by
  cases trace with
  | returned ready => exact ready.returned values

end Trace

namespace Verdict

theorem of_returned {values : List Int64} (returned : Returned config log values) :
    Verdict config log (.completed values) where
  completed := by
    intro others again
    have same : values = others := by
      have last := returned.2.symm.trans again.2
      cases last
      rfl
    exact ⟨rfl, rfl, rfl, same⟩
  stopped := fun missing => absurd returned (missing values)
  faulted := fun missing => absurd returned (missing values)

theorem of_stopping (missing : ∀ values, ¬ Returned config log values)
    (stopping : Stopping config log) (reason : String) : Verdict config log (.stopped reason) where
  completed := fun values returned => absurd returned (missing values)
  stopped := fun _ _ => ⟨rfl, rfl, rfl⟩
  faulted := fun _ running => absurd stopping running

theorem of_fails (fails : Fails config (performed log) fault)
    (uninterrupted : ¬ fault.Interruption) (looked : log.getLast? = some (.look false)) :
    Verdict config log (.faulted fault) where
  completed := fun values returned => absurd returned (fails.not_returned values)
  stopped := by
    rintro _ (requested | ⟨other, again, interruption⟩)
    · rw [looked] at requested
      cases requested
    · rw [again.unique fails rfl] at interruption
      exact absurd interruption uninterrupted
  faulted := fun _ _ => ⟨fault, fails, looked, rfl, rfl, rfl, rfl⟩

end Verdict

section Recording

open Session (Logged)

variable (backend : Backend σ)

theorem logged_stageInput (buffer : IoBufferConfig) :
    Logged (Staging buffer) (stageInput backend.record buffer) (stageInput backend buffer) := by
  refine Logged.bind (Logged.record _ _) ?_ ?_
  · rintro log rfl
    exact .unanswered
  · rintro log answer rfl
    cases answer with
    | error error => exact .pure (.refused error)
    | ok values =>
        dsimp only
        cases placed : bufferOffset buffer.allocator values with
        | error error => exact .pure (.misplaced values error placed)
        | ok offset =>
            refine Logged.bind (Logged.record _ _) ?_ ?_
            · rintro log rfl
              exact .unwritten values offset placed
            · rintro log answer rfl
              cases answer with
              | error error => exact .pure (.rejected values offset error placed)
              | ok written => exact .pure (.written values offset placed)

theorem logged_callEntry (ready : Ready config log) :
    Logged (fun later outcome => Trace config (log ++ later) outcome)
      (callEntry backend.record config.main) (callEntry backend config.main) := by
  refine Logged.bind (Logged.record _ _) ?_ ?_
  · rintro _ rfl
    exact .unreturned ready
  · rintro _ answer rfl
    cases answer with
    | error error => exact .pure (.failed ready error)
    | ok values => exact .pure (.returned ready values)

theorem logged_run (config : TaskConfig) :
    Logged (Trace config) (run backend.record config) (run backend config) := by
  refine Logged.bind (Logged.record _ _) ?_ ?_
  · rintro _ rfl
    exact .unopened
  · rintro _ answer rfl
    cases answer with
    | error error => exact .pure (.refused error)
    | ok opened =>
        refine .watch backend .noticed (.branch (fun enabled => ?_) fun disabled => ?_)
        · refine Logged.bind (logged_stageInput backend config.ioBuffer) ?_ ?_
          · intro log staging
            exact .stuck enabled staging
          · intro log outcome staging
            cases outcome with
            | error error => exact .pure (by simpa using .unstaged enabled error staging)
            | ok offset =>
                refine .watch backend (by simpa using .noticedLate enabled offset staging) ?_
                cases staging with
                | written values offset placed =>
                    exact logged_callEntry backend (.staged enabled values offset placed)
        · exact logged_callEntry backend (.direct ((Bool.not_eq_true _).mp disabled))

def Concluded (config : TaskConfig) (log : List Exchange) : Option ExitResult → Prop
  | none => ∃ exchange, log.getLast? = some exchange ∧ exchange.isUnanswered = true
  | some result => Verdict config log result

theorem logged_classify {outcome : Except TaskFault (Option (List Int64))}
    (trace : Trace config log (some outcome)) :
    Logged
      (fun later answer => Orderly config (log ++ later) ∧ Concluded config (log ++ later) answer)
      (classify backend.record outcome) (classify backend outcome) := by
  match outcome with
  | .ok (some values) =>
      refine .pure ?_
      rw [List.append_nil]
      exact ⟨trace.orderly, .of_returned trace.returns⟩
  | .ok none =>
      refine .pure ?_
      rw [List.append_nil]
      exact ⟨trace.orderly, .of_stopping trace.not_returned (.inl trace.looked) _⟩
  | .error fault =>
      have fails := trace.fails
      refine .branch (fun interrupted => ?_) fun uninterrupted => ?_
      · refine .pure ?_
        rw [List.append_nil]
        have stopping : Stopping config log :=
          .inr ⟨fault, fails, fault.isInterrupted_iff.mp interrupted⟩
        exact ⟨trace.orderly, .of_stopping fails.not_returned stopping _⟩
      · have kept (requested : Bool) :
            Fails config (performed (log ++ [.look requested])) fault := by
          rwa [performed_concat_look]
        refine .watch backend ?_ (.pure ?_)
        · have stopping : Stopping config (log ++ [.look true]) := .inl List.getLast?_concat
          exact ⟨trace.orderly.look true, .of_stopping (kept true).not_returned stopping _⟩
        · rw [List.append_nil]
          rw [fault.isInterrupted_iff] at uninterrupted
          exact ⟨trace.orderly.look false,
            .of_fails (kept false) uninterrupted List.getLast?_concat⟩

theorem logged_execute (config : TaskConfig) :
    Logged (fun log answer => Orderly config log ∧ Concluded config log answer)
      (execute backend.record config) (execute backend config) := by
  refine Logged.bind (logged_run backend config) ?_ ?_
  · intro log trace
    exact ⟨trace.orderly, trace.unanswered⟩
  · intro log outcome trace
    exact logged_classify backend trace

end Recording

/-- Operations are performed in one order and none after a failure, functions are called only after
a look that found no stop request, and the exchanges alone decide the exit result; there is none
only if the last operation never came back. -/
theorem execute_keeps_course (backend : Backend σ) (config : TaskConfig) (state : σ) :
    Orderly config (transcript backend config state) ∧
      ((∃ result after, execute backend config state = .answered result after ∧
          Verdict config (transcript backend config state) result) ∨
        ((∀ result after, execute backend config state ≠ .answered result after) ∧
          ∃ exchange, (transcript backend config state).getLast? = some exchange ∧
            exchange.isUnanswered = true)) := by
  obtain ⟨log, known⟩ := logged_execute backend config state []
  cases reply : execute backend config state with
  | answered result after =>
      rw [reply] at known
      obtain ⟨same, orderly, verdict⟩ := known
      have written : transcript backend config state = log := by rw [transcript, same]; rfl
      rw [written]
      exact ⟨orderly, .inl ⟨result, after, rfl, verdict⟩⟩
  | _ =>
      rw [reply] at known
      obtain ⟨⟨after, same⟩, orderly, unanswered⟩ := known
      have written : transcript backend config state = log := by rw [transcript, same]; rfl
      rw [written]
      exact ⟨orderly, .inr ⟨nofun, unanswered⟩⟩

end Protocol

end WasmTasks
