/-!
Computations against a collaborator that keeps a state, and that may answer, break down, or never
answer at all.
-/

namespace WasmTasks

inductive Reply (σ α : Type) where
  | answered (value : α) (state : σ)
  | aborted (state : σ)
  | endless

def Reply.map {σ α β : Type} (change : α → β) : Reply σ α → Reply σ β
  | answered value state => answered (change value) state
  | aborted state => aborted state
  | endless => endless

/-- A computation from one state of the collaborator to the next. -/
def Session (σ α : Type) : Type := σ → Reply σ α

namespace Session

variable {σ α β : Type}

def bind (session : Session σ α) (next : α → Session σ β) : Session σ β := fun state =>
  match session state with
  | .answered value state => next value state
  | .aborted state => .aborted state
  | .endless => .endless

instance : Monad (Session σ) where
  pure value := fun state => .answered value state
  bind := bind

@[simp] theorem pure_apply (value : α) (state : σ) :
    (pure value : Session σ α) state = .answered value state := rfl

@[simp] theorem bind_apply (session : Session σ α) (next : α → Session σ β) (state : σ) :
    (session >>= next) state =
      match session state with
      | .answered value state => next value state
      | .aborted state => .aborted state
      | .endless => .endless := rfl

@[simp] theorem map_apply (change : α → β) (session : Session σ α) (state : σ) :
    (change <$> session) state = (session state).map change := by
  show bind session (pure ∘ change) state = _
  simp only [bind]
  cases session state <;> rfl

instance : LawfulMonad (Session σ) := by
  refine .mk' (Session σ) ?_ (fun value next => rfl) ?_
  · intro α session
    funext state
    rw [map_apply]
    cases session state <;> rfl
  · intro α β γ session first second
    funext state
    simp only [bind_apply]
    cases session state <;> rfl

end Session

end WasmTasks
