import WasmTasks.Protocol.Script

/-!
Transcripts of executions. A recorded backend writes down every operation that is asked of it with
its answer, and every look at the stop request. Recording changes no answer; where the plain backend
breaks down or never answers, the recorded one breaks down, and what happened until then can be read.
-/

namespace WasmTasks

/-- One exchange with a backend; an operation without an answer never came back. -/
inductive Exchange where
  | context (answer : Option (Except CallError Unit))
  | look (requested : Bool)
  | call (function : String) (args : List Int64) (answer : Option (Except CallError (List Int64)))
  | write (offset : Nat) (bytes : List UInt8) (answer : Option (Except BufferError Unit))

namespace Exchange

@[simp] def event? : Exchange → Option Script.Event
  | context _ => some .context
  | look _ => none
  | call function args _ => some (.call function args)
  | write offset bytes _ => some (.write offset bytes)

def isUnanswered : Exchange → Bool
  | context answer => answer.isNone
  | look _ => false
  | call _ _ answer => answer.isNone
  | write _ _ answer => answer.isNone

@[simp] def succeeded : Exchange → Bool
  | context (some (.ok _)) => true
  | call _ _ (some (.ok _)) => true
  | write _ _ (some (.ok _)) => true
  | _ => false

/-- An operation that did not come back, or came back with an error. -/
@[simp] def failed (exchange : Exchange) : Bool :=
  exchange.event?.isSome && !exchange.succeeded

end Exchange

structure Recorded (σ : Type) where
  state : σ
  log : List Exchange

variable {σ α β : Type}

def Session.record (note : Option α → Exchange) (session : Session σ α) :
    Session (Recorded σ) α := fun recorded =>
  match session recorded.state with
  | .answered value after => .answered value ⟨after, recorded.log ++ [note (some value)]⟩
  | .aborted after => .aborted ⟨after, recorded.log ++ [note none]⟩
  | .endless => .aborted ⟨recorded.state, recorded.log ++ [note none]⟩

def Backend.record (backend : Backend σ) : Backend (Recorded σ) where
  openContext := backend.openContext.record .context
  stopRequested := fun recorded =>
    let (requested, after) := backend.stopRequested recorded.state
    (requested, ⟨after, recorded.log ++ [.look requested]⟩)
  call := fun function args => (backend.call function args).record (.call function args)
  write := fun offset bytes => (backend.write offset bytes).record (.write offset bytes)

def Reply.log : Reply (Recorded σ) α → List Exchange
  | answered _ recorded => recorded.log
  | aborted recorded => recorded.log
  | endless => []

def Protocol.transcript (backend : Backend σ) (config : TaskConfig) (state : σ) : List Exchange :=
  (execute backend.record config ⟨state, []⟩).log

namespace Session

/-- The recorded computation answers as the plain one does, and adds a log as wanted to what was
written before; the log belongs to no answer if there is none. -/
def Logged (wanted : List Exchange → Option α → Prop) (full : Session (Recorded σ) α)
    (plain : Session σ α) : Prop :=
  ∀ state earlier, ∃ log,
    match plain state with
    | .answered value after =>
        full ⟨state, earlier⟩ = .answered value ⟨after, earlier ++ log⟩ ∧ wanted log (some value)
    | _ => (∃ after, full ⟨state, earlier⟩ = .aborted ⟨after, earlier ++ log⟩) ∧ wanted log none

namespace Logged

variable {full : Session (Recorded σ) α} {plain : Session σ α}

theorem pure {wanted : List Exchange → Option α → Prop} {value : α}
    (met : wanted [] (some value)) :
    Logged wanted (Pure.pure value : Session (Recorded σ) α) (Pure.pure value) := by
  intro state earlier
  refine ⟨[], ?_, met⟩
  rw [List.append_nil]
  rfl

theorem bind {middle : List Exchange → Option α → Prop} {wanted : List Exchange → Option β → Prop}
    {fullNext : α → Session (Recorded σ) β} {plainNext : α → Session σ β}
    (first : Logged middle full plain) (stuck : ∀ log, middle log none → wanted log none)
    (rest : ∀ log value, middle log (some value) →
      Logged (fun later answer => wanted (log ++ later) answer) (fullNext value) (plainNext value)) :
    Logged wanted (full >>= fullNext) (plain >>= plainNext) := by
  intro state earlier
  obtain ⟨log, known⟩ := first state earlier
  rw [bind_apply, bind_apply]
  cases reply : plain state with
  | answered value after =>
      rw [reply] at known
      obtain ⟨same, met⟩ := known
      obtain ⟨later, next⟩ := rest log value met after (earlier ++ log)
      refine ⟨log ++ later, ?_⟩
      rw [same, ← List.append_assoc]
      exact next
  | aborted after | endless =>
      rw [reply] at known
      obtain ⟨⟨last, same⟩, met⟩ := known
      exact ⟨log, ⟨last, by rw [same]⟩, stuck log met⟩

theorem branch {wanted : List Exchange → Option α → Prop} {condition : Prop}
    [Decidable condition] {otherFull : Session (Recorded σ) α} {otherPlain : Session σ α}
    (met : condition → Logged wanted full plain)
    (unmet : ¬ condition → Logged wanted otherFull otherPlain) :
    Logged wanted (if condition then full else otherFull)
      (if condition then plain else otherPlain) := by
  split
  · exact met ‹_›
  · exact unmet ‹_›

theorem record (note : Option α → Exchange) (session : Session σ α) :
    Logged (fun log answer => log = [note answer]) (session.record note) session := by
  intro state earlier
  cases reply : session state with
  | answered value after => exact ⟨_, by rw [Session.record, reply], rfl⟩
  | aborted after => exact ⟨_, ⟨after, by rw [Session.record, reply]⟩, rfl⟩
  | endless => exact ⟨_, ⟨state, by rw [Session.record, reply]⟩, rfl⟩

theorem look (backend : Backend σ) :
    Logged (fun log answer => ∃ requested, answer = some requested ∧ log = [.look requested])
      (Protocol.checkStop backend.record) (Protocol.checkStop backend) := by
  intro state earlier
  exact ⟨_, rfl, _, rfl, rfl⟩

theorem watch {wanted : List Exchange → Option α → Prop} (backend : Backend σ) {value : α}
    (noticed : wanted [.look true] (some value))
    (unnoticed : Logged (fun later answer => wanted ([.look false] ++ later) answer) full plain) :
    Logged wanted
      (do if ← Protocol.checkStop backend.record then Pure.pure value else full)
      (do if ← Protocol.checkStop backend then Pure.pure value else plain) := by
  refine bind (look backend) (fun _ ⟨_, answered, _⟩ => nomatch answered) ?_
  rintro _ requested ⟨_, ⟨⟩, rfl⟩
  cases requested with
  | true => exact pure noticed
  | false => exact unnoticed

end Logged

end Session

end WasmTasks
