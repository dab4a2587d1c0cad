import WasmTasks.Proofs.Protocol.Agreement

/-!
Two backends that answer alike, one of which remembers more. Forgetting what only the first one
remembers takes its executions to those of the second.
-/

namespace WasmTasks

variable {σ τ α ε : Type} {forget : σ → τ}

def Reply.mapState (change : σ → τ) : Reply σ α → Reply τ α
  | answered value state => answered value (change state)
  | aborted state => aborted (change state)
  | endless => endless

namespace Session

def Forgets (forget : σ → τ) (session : Session σ α) (plain : Session τ α) : Prop :=
  ∀ state, plain (forget state) = (session state).mapState forget

variable {session : Session σ α} {plain : Session τ α} {good : α → Prop}

theorem Forgets.agrees (forgets : Forgets forget session plain) (fine : ∀ value, good value) :
    Agrees (fun state image => forget state = image) good session plain := by
  rintro state _ rfl
  rw [forgets state]
  cases session state with
  | answered value after => exact ⟨rfl, fine value, rfl⟩
  | aborted after => rfl
  | endless => trivial

theorem Agrees.forgets
    (agrees : Agrees (fun state image => forget state = image) good session plain) :
    Forgets forget session plain := by
  intro state
  have same := agrees state (forget state) rfl
  revert same
  cases session state <;> cases plain (forget state) <;> intro same
  case answered.answered value after other image =>
    obtain ⟨rfl, _, rfl⟩ := same
    rfl
  case aborted.aborted after image => exact congrArg Reply.aborted same.symm
  case endless.endless => rfl
  all_goals exact same.elim

end Session

structure Backend.Forgets (forget : σ → τ) (backend : Backend σ) (plain : Backend τ) : Prop where
  openContext : Session.Forgets forget backend.openContext plain.openContext
  stopRequested : ∀ state, plain.stopRequested (forget state) =
    ((backend.stopRequested state).1, forget (backend.stopRequested state).2)
  call : ∀ function args,
    Session.Forgets forget (backend.call function args) (plain.call function args)
  write : ∀ offset bytes,
    Session.Forgets forget (backend.write offset bytes) (plain.write offset bytes)

theorem caused_true (isInterrupted : ε → Bool) (answer : Except ε α) :
    Caused True isInterrupted answer := by
  cases answer with
  | error error => exact fun _ => trivial
  | ok value => trivial

variable {backend : Backend σ} {plain : Backend τ}

theorem Backend.Forgets.agrees (forgets : backend.Forgets forget plain) :
    backend.Agrees (fun state image => forget state = image) True plain where
  openContext := forgets.openContext.agrees (caused_true _)
  checkStop := by
    refine Session.Forgets.agrees ?_ fun _ _ => trivial
    intro state
    unfold Protocol.checkStop
    rw [forgets.stopRequested state]
    rfl
  call function args := (forgets.call function args).agrees (caused_true _)
  write offset bytes := (forgets.write offset bytes).agrees (caused_true _)

theorem Protocol.execute_forgets (forgets : backend.Forgets forget plain) (config : TaskConfig) :
    Session.Forgets forget (execute backend config) (execute plain config) :=
  (execute_agrees forgets.agrees config).forgets

end WasmTasks
