import WasmTasks.Proofs.Guest.Access
import WasmTasks.Protocol.GuestBackend

/-!
Staging of the input. It succeeds exactly if the allocator names an offset at which the input fits
into the memory as the allocator left it, and then the entry function finds the input there and
everything else as the allocator left it. Otherwise the host writes nothing, and the error tells why.
-/

namespace WasmTasks

variable {μ ν : Type}

namespace GuestRun

def memory? (run : GuestRun ν) : Option (Nat × Memory) :=
  run.context.bind Context.memory?

/-- What staging comes to, given the allocator's answer and the state it left: the outcome and the
state afterwards. -/
inductive Staging (allocator : String) (input : Bytes) (left : GuestRun ν) :
    Except CallError (List Int64) → Except BufferError Nat → GuestRun ν → Prop where
  | placed {offset : Int64} {rest : List Int64} {context : Context ν} {index : Nat}
      {memory written : Memory} (positive : 0 ≤ offset.toInt) (here : left.context = some context)
      (found : context.memory? = some (index, memory))
      (fits : offset.toInt.toNat + input.length ≤ memory.size)
      (receives : memory.Receives offset.toInt.toNat input written) :
      Staging allocator input left (.ok (offset :: rest)) (.ok offset.toInt.toNat)
        ⟨some (context.place index written), left.timeline⟩
  | missingAllocator (function : String) :
      Staging allocator input left (.error (.missingFunction function))
        (.error (.missingAllocator function)) left
  | failed {error : CallError} (present : ∀ function, error ≠ .missingFunction function) :
      Staging allocator input left (.error error) (.error (.allocator error)) left
  | noValue :
      Staging allocator input left (.ok [])
        (.error (.allocator (.signature allocator .noAllocatorValue))) left
  | negative {offset : Int64} {rest : List Int64} (negative : offset.toInt < 0) :
      Staging allocator input left (.ok (offset :: rest))
        (.error (.invalidOffset allocator offset)) left
  | missingMemory {offset : Int64} {rest : List Int64} (positive : 0 ≤ offset.toInt)
      (missing : left.memory? = none) :
      Staging allocator input left (.ok (offset :: rest)) (.error .missingMemory) left
  | outOfBounds {offset : Int64} {rest : List Int64} {index : Nat} {memory : Memory}
      (positive : 0 ≤ offset.toInt) (found : left.memory? = some (index, memory))
      (exceeds : memory.size < offset.toInt.toNat + input.length) :
      Staging allocator input left (.ok (offset :: rest))
        (.error (.outOfBounds offset.toInt.toNat input.length memory.size)) left

theorem exists_staging (allocator : String) (input : Bytes) (left : GuestRun ν)
    (answer : Except CallError (List Int64)) :
    ∃ outcome after, Staging allocator input left answer outcome after := by
  cases answer with
  | error error =>
      cases error with
      | missingFunction function => exact ⟨_, _, .missingAllocator function⟩
      | _ => exact ⟨_, _, .failed fun _ same => CallError.noConfusion same⟩
  | ok values =>
      cases values with
      | nil => exact ⟨_, _, .noValue⟩
      | cons offset rest =>
          obtain negative | positive := Int.lt_or_le offset.toInt 0
          · exact ⟨_, _, .negative negative⟩
          · cases found : left.memory? with
            | none => exact ⟨_, _, .missingMemory positive found⟩
            | some exported =>
                obtain ⟨index, memory⟩ := exported
                obtain exceeds | fits :=
                  Nat.lt_or_ge memory.size (offset.toInt.toNat + input.length)
                · exact ⟨_, _, .outOfBounds positive found exceeds⟩
                · obtain ⟨context, here, held⟩ := Option.bind_eq_some_iff.mp found
                  exact ⟨_, _, .placed positive here held fits (memory.receives_overlay _ input)⟩

theorem write_of_missing {run : GuestRun ν} (missing : run.memory? = none) (offset : Nat)
    (bytes : Bytes) : write offset bytes run = .answered (.error .missingMemory) run := by
  unfold write
  cases here : run.context with
  | none => rfl
  | some context =>
      rw [memory?, here] at missing
      dsimp only
      rw [Context.write_of_missing missing]

theorem write_of_exceeds {run : GuestRun ν} {index : Nat} {memory : Memory}
    (found : run.memory? = some (index, memory)) {offset : Nat} {bytes : Bytes}
    (exceeds : memory.size < offset + bytes.length) :
    write offset bytes run =
      .answered (.error (.outOfBounds offset bytes.length memory.size)) run := by
  obtain ⟨context, here, held⟩ := Option.bind_eq_some_iff.mp found
  unfold write
  rw [here]
  dsimp only
  rw [Context.write_of_exceeds held exceeds]

theorem write_of_fits {run : GuestRun ν} {context : Context ν} {index : Nat} {memory : Memory}
    (here : run.context = some context) (found : context.memory? = some (index, memory))
    {offset : Nat} {bytes : Bytes} (fits : offset + bytes.length ≤ memory.size) :
    write offset bytes run =
      .answered (.ok ())
        ⟨some (context.place index (memory.overlay offset bytes)), run.timeline⟩ := by
  unfold write
  rw [here]
  dsimp only
  rw [Context.write_of_fits found fits]

end GuestRun

namespace Protocol

open GuestRun

variable {backend : Backend (GuestRun ν)} {buffer : IoBufferConfig} {run left after : GuestRun ν}

theorem bufferOffset_of_nonneg (allocator : String) {offset : Int64} (positive : 0 ≤ offset.toInt)
    (rest : List Int64) : bufferOffset allocator (offset :: rest) = .ok offset.toInt.toNat :=
  if_pos positive

/-- The input goes into the memory of the guest, whatever the allocator does. -/
theorem stageInput_of_staging (writes : backend.write = GuestRun.write)
    {answer : Except CallError (List Int64)} {outcome : Except BufferError Nat}
    (asked : backend.call buffer.allocator buffer.args run = .answered answer left)
    (staging : Staging buffer.allocator buffer.input left answer outcome after) :
    stageInput backend buffer run = .answered outcome after := by
  rw [stageInput, Session.bind_apply, asked]
  cases staging with
  | placed positive here found fits receives =>
      simp only [bufferOffset_of_nonneg _ positive, Session.bind_apply, writes,
        write_of_fits here found fits]
      rw [receives.eq_overlay]
      rfl
  | missingAllocator function => rfl
  | @failed error present =>
      cases error with
      | missingFunction function => exact absurd rfl (present function)
      | _ => rfl
  | noValue => rfl
  | negative negative =>
      simp only [bufferOffset, if_neg (Int.not_le_of_gt negative)]
      rfl
  | missingMemory positive missing =>
      simp only [bufferOffset_of_nonneg _ positive, Session.bind_apply, writes,
        GuestRun.write_of_missing missing]
      rfl
  | outOfBounds positive found exceeds =>
      simp only [bufferOffset_of_nonneg _ positive, Session.bind_apply, writes,
        GuestRun.write_of_exceeds found exceeds]
      rfl

theorem stageInput_eq_answered_iff (writes : backend.write = GuestRun.write)
    {outcome : Except BufferError Nat} :
    stageInput backend buffer run = .answered outcome after ↔
      ∃ answer left, backend.call buffer.allocator buffer.args run = .answered answer left ∧
        Staging buffer.allocator buffer.input left answer outcome after := by
  constructor
  · intro staged
    cases asked : backend.call buffer.allocator buffer.args run with
    | answered answer left =>
        obtain ⟨_, _, staging⟩ := exists_staging buffer.allocator buffer.input left answer
        rw [stageInput_of_staging writes asked staging] at staged
        cases staged
        exact ⟨answer, left, rfl, staging⟩
    | _ =>
        rw [stageInput, Session.bind_apply, asked] at staged
        cases staged
  · rintro ⟨answer, left, asked, staging⟩
    exact stageInput_of_staging writes asked staging

theorem stageInput_eq_ok_iff (writes : backend.write = GuestRun.write) {offset : Nat} :
    (∃ after, stageInput backend buffer run = .answered (.ok offset) after) ↔
      ∃ first rest left index memory,
        backend.call buffer.allocator buffer.args run = .answered (.ok (first :: rest)) left ∧
        first.toInt = offset ∧ left.memory? = some (index, memory) ∧
        offset + buffer.input.length ≤ memory.size := by
  constructor
  · rintro ⟨after, succeeded⟩
    obtain ⟨_, left, answered, staging⟩ := (stageInput_eq_answered_iff writes).mp succeeded
    cases staging with
    | placed positive here found fits receives =>
        exact ⟨_, _, left, _, _, answered, (Int.toNat_of_nonneg positive).symm,
          Option.bind_eq_some_iff.mpr ⟨_, here, found⟩, fits⟩
  · rintro ⟨first, rest, left, index, memory, answered, named, found, fits⟩
    obtain ⟨context, here, held⟩ := Option.bind_eq_some_iff.mp found
    have positive : 0 ≤ first.toInt := named ▸ Int.natCast_nonneg offset
    have exact : first.toInt.toNat = offset := by rw [named, Int.toNat_natCast]
    refine ⟨⟨some (context.place index (memory.overlay offset buffer.input)), left.timeline⟩, ?_⟩
    refine (stageInput_eq_answered_iff writes).mpr ⟨_, left, answered, ?_⟩
    rw [← exact] at fits ⊢
    exact .placed positive here held fits (memory.receives_overlay _ _)

theorem asked_of_stageInput_error (writes : backend.write = GuestRun.write) {error : BufferError}
    (failed : stageInput backend buffer run = .answered (.error error) after) :
    ∃ answer, backend.call buffer.allocator buffer.args run = .answered answer after := by
  obtain ⟨answer, left, answered, staging⟩ := (stageInput_eq_answered_iff writes).mp failed
  have kept : after = left := by cases staging <;> rfl
  exact ⟨answer, kept ▸ answered⟩

theorem stageInput_unanswered_iff (writes : backend.write = GuestRun.write) :
    (∀ left, stageInput backend buffer run = .aborted left ↔
        backend.call buffer.allocator buffer.args run = .aborted left) ∧
      (stageInput backend buffer run = .endless ↔
        backend.call buffer.allocator buffer.args run = .endless) := by
  cases asked : backend.call buffer.allocator buffer.args run with
  | answered answer state =>
      obtain ⟨_, _, staging⟩ := exists_staging buffer.allocator buffer.input state answer
      rw [stageInput_of_staging writes asked staging]
      simp
  | _ =>
      rw [stageInput, Session.bind_apply, asked]
      simp

/-! Up to the entry call. -/

section

variable {σ : Type}

/-- What comes before the entry call; the answer is whether a stop was noticed. -/
def approach (backend : Backend σ) (config : TaskConfig) : Session σ (Except TaskFault Bool) := do
  match ← backend.openContext with
  | .error error => pure (.error (.call error))
  | .ok _ =>
      if ← checkStop backend then pure (.ok true)
      else if config.ioBuffer.enabled then
        match ← stageInput backend config.ioBuffer with
        | .error error => pure (.error (.buffer error))
        | .ok _ => do pure (.ok (← checkStop backend))
      else pure (.ok false)

/-- The entry function is called in the state that the approach leads to. -/
theorem run_eq_approach (backend : Backend σ) (config : TaskConfig) :
    Protocol.run backend config = (do
      match ← approach backend config with
      | .error fault => pure (.error fault)
      | .ok true => pure (.ok none)
      | .ok false => callEntry backend config.main) := by
  funext state
  simp only [Protocol.run, approach, Session.bind_apply]
  cases backend.openContext state with
  | answered opened state =>
      cases opened with
      | error error => rfl
      | ok done =>
          simp only [Session.bind_apply, checkStop]
          cases (backend.stopRequested state).1 with
          | true => rfl
          | false =>
              cases config.ioBuffer.enabled with
              | false => rfl
              | true =>
                  simp only [Bool.false_eq_true, if_false, if_true, Session.bind_apply]
                  cases stageInput backend config.ioBuffer (backend.stopRequested state).2 with
                  | answered staged state =>
                      cases staged with
                      | error error => rfl
                      | ok offset =>
                          simp only [Session.bind_apply, checkStop, Session.pure_apply]
                          cases (backend.stopRequested state).1 <;> rfl
                  | _ => rfl
  | _ => rfl

theorem staged_of_approach {backend : Backend σ} {config : TaskConfig} {start entered : σ}
    (enabled : config.ioBuffer.enabled = true)
    (approached : approach backend config start = .answered (.ok false) entered) :
    ∃ ready offset staged, stageInput backend config.ioBuffer ready = .answered (.ok offset) staged ∧
      entered = (backend.stopRequested staged).2 := by
  rw [approach, Session.bind_apply] at approached
  cases opened : backend.openContext start with
  | answered answer state =>
      rw [opened] at approached
      cases answer with
      | error error => cases approached
      | ok done =>
          simp only [Session.bind_apply, checkStop] at approached
          cases stopped : (backend.stopRequested state).1 with
          | true =>
              rw [stopped] at approached
              cases approached
          | false =>
              simp only [stopped, enabled, Bool.false_eq_true, if_false, if_true,
                Session.bind_apply] at approached
              cases staged : stageInput backend config.ioBuffer (backend.stopRequested state).2 with
              | answered outcome state =>
                  rw [staged] at approached
                  cases outcome with
                  | error error => cases approached
                  | ok offset =>
                      simp only [Session.bind_apply, checkStop, Session.pure_apply,
                        Reply.answered.injEq] at approached
                      exact ⟨_, offset, state, staged, approached.2.symm⟩
              | _ =>
                  rw [staged] at approached
                  cases approached
  | _ =>
      rw [opened] at approached
      cases approached

end

/-! The guest's own allocator. -/

theorem stageInput_eq_missingAllocator_iff {machine : Machine μ ν} {id : String}
    {stored : CachedModule} {context : Context ν} {timeline : Timeline} {function : String} :
    stageInput (GuestRun.backend machine id stored) buffer ⟨some context, timeline⟩ =
        .answered (.error (.missingAllocator function)) after ↔
      context.guest.function? buffer.allocator = none ∧ function = buffer.allocator ∧
        after = ⟨some context, timeline⟩ := by
  have guests : (GuestRun.backend machine id stored).call = GuestRun.call := rfl
  rw [stageInput_eq_answered_iff rfl, guests]
  constructor
  · rintro ⟨answer, left, answered, staging⟩
    cases staging with
    | missingAllocator function =>
        simp only [GuestRun.call] at answered
        cases called : context.call buffer.allocator buffer.args timeline with
        | answered value state =>
            rw [called] at answered
            cases answered
            obtain ⟨absent, same, kept⟩ := Context.call_eq_missingFunction_iff.mp called
            cases kept
            exact ⟨absent, same, rfl⟩
        | _ =>
            rw [called] at answered
            cases answered
  · rintro ⟨absent, rfl, rfl⟩
    refine ⟨_, _, ?_, .missingAllocator _⟩
    simp only [GuestRun.call, Context.call_eq_missingFunction_iff.mpr ⟨absent, rfl, rfl⟩]

/-- Input is staged at an offset exactly if the allocator, whatever it does, answers that offset and
the input fits there into the memory that it left, whatever the size in the configuration; all else
is a failure for one reason, in which the host writes nothing. When the entry function is called it
finds the input at the offset, and everything else as the allocator left it. The allocator counts as
missing exactly if the guest does not export it. -/
theorem staging_places_input (machine : Machine μ ν) (id : String) (stored : CachedModule)
    (call : String → List Int64 → Session (GuestRun ν) (Except CallError (List Int64)))
    (config : TaskConfig) (run : GuestRun ν) :
    let backend : Backend (GuestRun ν) :=
      { GuestRun.backend machine id stored with call := call }
    let buffer := config.ioBuffer
    let asked := call buffer.allocator buffer.args
    let staged := stageInput backend buffer
    (∀ offset, (∃ after, staged run = .answered (.ok offset) after) ↔
        ∃ first rest left index memory, asked run = .answered (.ok (first :: rest)) left ∧
          first.toInt = offset ∧ left.memory? = some (index, memory) ∧
          offset + buffer.inputValue.utf8ByteSize ≤ memory.size) ∧
      (∀ outcome after, staged run = .answered outcome after ↔
        ∃ answer left, asked run = .answered answer left ∧
          Staging buffer.allocator buffer.input left answer outcome after) ∧
      (∀ error after, staged run = .answered (.error error) after →
        ∃ answer, asked run = .answered answer after) ∧
      (∀ left, staged run = .aborted left ↔ asked run = .aborted left) ∧
      (staged run = .endless ↔ asked run = .endless) ∧
      (buffer.enabled = true → ∀ entered,
        approach backend config run = .answered (.ok false) entered →
        ∃ ready first rest left context index memory written,
          asked ready = .answered (.ok (first :: rest)) left ∧ 0 ≤ first.toInt ∧
          left.context = some context ∧ context.memory? = some (index, memory) ∧
          first.toInt.toNat + buffer.input.length ≤ memory.size ∧
          memory.Receives first.toInt.toNat buffer.input written ∧
          entered.context = some (context.place index written) ∧
          entered.memory? = some (index, written)) ∧
      Protocol.run backend config = (do
        match ← approach backend config with
        | .error fault => pure (.error fault)
        | .ok true => pure (.ok none)
        | .ok false => callEntry backend config.main) ∧
      ∀ context timeline function after,
        stageInput (GuestRun.backend machine id stored) buffer ⟨some context, timeline⟩ =
            .answered (.error (.missingAllocator function)) after ↔
          context.guest.function? buffer.allocator = none ∧ function = buffer.allocator ∧
            after = ⟨some context, timeline⟩ := by
  intro backend buffer asked staged
  have writes : backend.write = GuestRun.write := rfl
  refine ⟨?_, ?_, ?_, ?_, ?_, ?_, run_eq_approach backend config, ?_⟩
  · intro offset
    rw [← Text.Utf8.length_encode]
    exact stageInput_eq_ok_iff writes
  · intro outcome after
    exact stageInput_eq_answered_iff writes
  · intro error after
    exact asked_of_stageInput_error writes
  · exact (stageInput_unanswered_iff writes).1
  · exact (stageInput_unanswered_iff writes).2
  · intro enabled entered approached
    obtain ⟨ready, offset, last, succeeded, rfl⟩ := staged_of_approach enabled approached
    obtain ⟨_, left, answered, staging⟩ := (stageInput_eq_answered_iff writes).mp succeeded
    cases staging with
    | placed positive here found fits receives =>
        exact ⟨ready, _, _, left, _, _, _, _, answered, positive, here, found, fits, receives, rfl,
          Context.memory?_place found _⟩
  · intro context timeline function after
    exact stageInput_eq_missingAllocator_iff

/-- The input just fits into the page that the allocator added, though it is longer than the size in
the configuration. -/
theorem staging_places_input_grown :
    let guest : Guest Unit := ⟨[], [("memory", .memory 0)],
      ⟨[.blank 0 1 (by decide) (by decide)], ()⟩, none, none,
      by rintro _ _ (_ | ⟨_, ⟨⟩⟩); exact Nat.zero_lt_one⟩
    let machine : Machine Unit Unit := ⟨fun _ => .ok (), fun _ => .ok [], fun _ => .ok (),
      fun _ => guest⟩
    let memory : Memory := ⟨1, 1, fun _ => 7, by decide, by decide⟩
    let grown : Context Unit := ⟨"task", guest, ⟨[memory], ()⟩, .arm 0⟩
    let call := fun _ _ (run : GuestRun Unit) =>
      Reply.answered (.ok [65531]) ⟨some grown, run.timeline⟩
    let stored : CachedModule := ⟨"m", .wasmtime, [], "hash"⟩
    let backend : Backend (GuestRun Unit) :=
      { GuestRun.backend machine "task" stored with call := call }
    let start : GuestRun Unit := ⟨none, .constant ⟨0, false⟩⟩
    ∃ after, stageInput backend ⟨true, 4, "hello", "alloc", []⟩ start =
      .answered (.ok 65531) after := by
  intro guest machine memory grown call stored backend start
  let config : TaskConfig := ⟨"m", ⟨true, 4, "hello", "alloc", []⟩, .standard⟩
  refine ((staging_places_input machine "task" stored call config start).1 65531).mpr ?_
  exact ⟨65531, [], _, 0, _, rfl, by decide, rfl, by decide⟩

end Protocol

end WasmTasks
