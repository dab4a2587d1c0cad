import WasmTasks.Guest.Basic
import WasmTasks.Guest.Description

/-!
What described functions compute. An instance has three private variables beside its memories; the
bodies work on the first memory. A description that is valid makes a guest.
-/

namespace WasmTasks

namespace TrapKind

def name : TrapKind → String
  | unreachable => "UnreachableCodeReached"
  | divisionByZero => "IntegerDivisionByZero"
  | overflow => "IntegerOverflow"
  | conversion => "BadConversionToInteger"
  | outOfBounds => "MemoryOutOfBounds"
  | stackOverflow => "StackOverflow"
  | indirectCallToNull => "IndirectCallToNull"
  | tableOutOfBounds => "TableOutOfBounds"

def reason : TrapKind → String
  | unreachable => "wasm `unreachable` instruction executed"
  | divisionByZero => "integer divide by zero"
  | overflow => "integer overflow"
  | conversion => "invalid conversion to integer"
  | outOfBounds => "out of bounds memory access"
  | stackOverflow => "call stack exhausted"
  | indirectCallToNull => "uninitialized element"
  | tableOutOfBounds => "undefined element: out of bounds table access"

def toTrap (kind : TrapKind) : Trap where
  code := some kind.name
  message := "error while executing at wasm backtrace:"
  chain := s!"error while executing at wasm backtrace: wasm trap: {kind.reason}"
  own := by cases kind <;> decide

end TrapKind

namespace Value

/-- The number in the type; references are null. -/
def ofInt (n : Int) : ValueType → Value
  | .i32 => i32 (.ofInt n)
  | .i64 => i64 (.ofInt n)
  | .f32 => f32 (Number.Format.single.ofInt n)
  | .f64 => f64 (Number.Format.double.ofInt n)
  | .v128 => v128 0
  | .reference name => reference name "FuncRef(None)"

def ofLiteral : Literal → ValueType → Value
  | .integer n, type => ofInt n type
  | .float value, .f32 => f32 (value.bits .single)
  | .float value, .f64 => f64 (value.bits .double)
  | .float value, type => ofInt value.truncate type

theorem type_ofInt (n : Int) (type : ValueType) : (ofInt n type).type = type := by
  cases type <;> rfl

theorem types_map_ofInt (n : Int) (types : List ValueType) :
    (types.map (ofInt n)).map type = types := by
  rw [List.map_map]
  exact List.map_id'' (type_ofInt n) types

theorem type_ofLiteral (literal : Literal) (type : ValueType) :
    (ofLiteral literal type).type = type := by
  cases literal with
  | integer n => exact type_ofInt n type
  | float value => cases type <;> rfl

end Value

structure Globals where
  offset : Nat
  length : Nat
  count : Int32
  deriving DecidableEq, Repr

namespace Globals

def zero : Globals := ⟨0, 0, 0⟩

end Globals

namespace Instance

variable (state : Instance Globals)

/-- Addresses are 32 bits wide, so a range that reaches the end of a full memory goes on at its
beginning. -/
def addressable : Nat := UInt32.size

def returning (values : List Value) : Work Globals := ⟨0, .ok values, state⟩

/-- Adds the bytes of a range one by one; the first byte outside of the memory traps. -/
def sumBytes (offset length : Nat) : Work Globals :=
  match state.memories.head? with
  | none => ⟨0, .error TrapKind.outOfBounds.toTrap, state⟩
  | some memory =>
      if memory.size = addressable then
        let first := min length (addressable - offset)
        let total := memory.sum (length - first) 0 (memory.sum first offset 0)
        ⟨length, .ok [.i32 (.ofNat total)], state⟩
      else if length = 0 ∨ offset + length ≤ memory.size then
        ⟨length, .ok [.i32 (.ofNat (memory.sum length offset 0))], state⟩
      else ⟨memory.size - offset + 1, .error TrapKind.outOfBounds.toTrap, state⟩

def growMemory (pages : Nat) : Work Globals :=
  match state.memories with
  | [] => state.returning [.i32 (-1)]
  | memory :: rest =>
      match memory.grow? pages with
      | none => state.returning [.i32 (-1)]
      | some grown =>
          { state with memories := grown :: rest }.returning [.i32 (.ofNat memory.pages)]

theorem state_sumBytes (offset length : Nat) : (state.sumBytes offset length).state = state := by
  unfold sumBytes
  split
  · rfl
  · dsimp only
    split
    · rfl
    · split <;> rfl

theorem types_of_sumBytes {offset length : Nat} {values : List Value}
    (summed : (state.sumBytes offset length).outcome = .ok values) :
    values.map Value.type = [.i32] := by
  unfold sumBytes at summed
  split at summed
  · cases summed
  · dsimp only at summed
    split at summed
    · cases summed
      rfl
    · split at summed
      · cases summed
        rfl
      · cases summed

theorem length_memories_growMemory (pages : Nat) :
    (state.growMemory pages).state.memories.length = state.memories.length := by
  unfold growMemory
  split
  · rfl
  · rename_i memory rest held
    split
    · rfl
    · rw [held]
      rfl

theorem types_of_growMemory {pages : Nat} {values : List Value}
    (grown : (state.growMemory pages).outcome = .ok values) : values.map Value.type = [.i32] := by
  unfold growMemory at grown
  split at grown
  · cases grown
    rfl
  · split at grown <;> cases grown <;> rfl

end Instance

namespace Body

open Instance

/-- An argument as an unsigned 32-bit number, zero if there is none. -/
def unsigned (args : List Value) (index : Nat) : Nat :=
  (((args[index]?).map Value.toInt).getD 0 % UInt32.size).toNat

/-- Everything a body does after its function was entered; `none` if it never ends. -/
def work (body : Body) (results : List ValueType) (args : List Value) (state : Instance Globals) :
    Option (Work Globals) :=
  match body with
  | nop => some (state.returning [])
  | constants values => some (state.returning (List.zipWith Value.ofLiteral values results))
  | echo => some (state.returning args)
  | sum =>
      let total := (args.map Value.toInt).foldl (· + ·) 0
      some (state.returning (results.map (Value.ofInt total)))
  | count =>
      let count := state.globals.count + 1
      some ({ state with globals := { state.globals with count := count } }.returning
        [.i32 count])
  | allocate offset =>
      let globals := { state.globals with
        offset := (offset % UInt32.size).toNat
        length := unsigned args 0 }
      some ({ state with globals := globals }.returning (results.map (Value.ofInt offset)))
  | bufferSum => some (state.sumBytes state.globals.offset state.globals.length)
  | byteSum => some (state.sumBytes (unsigned args 0) (unsigned args 1))
  | grow pages => some (state.growMemory (pages % UInt32.size).toNat)
  | spin => none
  | trap kind => some ⟨0, .error kind.toTrap, state⟩

theorem length_memories_of_work {body : Body} {results : List ValueType} {args : List Value}
    {state : Instance Globals} {done : Work Globals}
    (works : body.work results args state = some done) :
    done.state.memories.length = state.memories.length := by
  cases body with
  | bufferSum =>
      cases works
      rw [state_sumBytes]
  | byteSum =>
      cases works
      rw [state_sumBytes]
  | grow pages =>
      cases works
      exact state.length_memories_growMemory _
  | spin => cases works
  | _ =>
      cases works
      rfl

theorem types_of_admitConstants {results : List ValueType} {literals : List Literal}
    (admitted : admitConstants results literals = true) :
    (List.zipWith Value.ofLiteral literals results).map Value.type = results := by
  induction results generalizing literals with
  | nil => rw [List.zipWith_nil_right, List.map_nil]
  | cons type types ih =>
      cases literals with
      | nil => cases admitted
      | cons literal rest =>
          have others := (Bool.and_eq_true_iff.mp admitted).2
          rw [List.zipWith_cons_cons, List.map_cons, Value.type_ofLiteral, ih others]

theorem types_of_work {body : Body} {params results : List ValueType} {hasMemory : Bool}
    (fits : body.fits params results hasMemory = true) {args values : List Value}
    (typed : args.map Value.type = params) {state : Instance Globals} {done : Work Globals}
    (works : body.work results args state = some done) (returns : done.outcome = .ok values) :
    values.map Value.type = results := by
  cases body with
  | nop =>
      cases works
      cases returns
      exact (List.isEmpty_iff.mp fits).symm
  | constants literals =>
      cases works
      cases returns
      exact types_of_admitConstants fits
  | echo =>
      cases works
      cases returns
      exact typed.trans (of_decide_eq_true fits)
  | sum =>
      cases works
      cases returns
      exact Value.types_map_ofInt _ results
  | count =>
      cases works
      cases returns
      exact (of_decide_eq_true fits).symm
  | allocate offset =>
      cases works
      cases returns
      exact Value.types_map_ofInt offset results
  | bufferSum =>
      simp only [Body.fits, Bool.and_eq_true, decide_eq_true_eq] at fits
      cases works
      exact (state.types_of_sumBytes returns).trans fits.1.symm
  | byteSum =>
      simp only [Body.fits, Bool.and_eq_true, decide_eq_true_eq] at fits
      cases works
      exact (state.types_of_sumBytes returns).trans fits.1.2.symm
  | grow pages =>
      simp only [Body.fits, Bool.and_eq_true, decide_eq_true_eq] at fits
      cases works
      exact (state.types_of_growMemory returns).trans fits.1.1.symm
  | spin => cases works
  | trap kind =>
      cases works
      cases returns

/-- Nothing is written before the end, so every checkpoint is met in the state of the call. -/
def code (body : Body) (results : List ValueType) : Code Globals where
  run args state := ⟨fun _ => state, body.work results args state⟩
  keeps _ _ := ⟨fun _ => rfl, fun _ works => length_memories_of_work works⟩

end Body

def MemoryDescription.make (memory : MemoryDescription) (valid : memory.isValid = true) : Memory :=
  have bounds : memory.pages ≤ memory.limitPages ∧ memory.limitPages ≤ mostPages := by
    simpa only [isValid, Bool.and_eq_true, decide_eq_true_eq] using valid
  .blank memory.pages memory.limitPages bounds.1
    (Nat.le_trans (Nat.mul_le_mul_right Memory.pageSize bounds.2) (by decide))

def FunctionDescription.make (function : FunctionDescription) {hasMemory : Bool}
    (valid : function.isValid hasMemory = true) : Function Globals where
  params := function.params
  results := function.results
  code := function.body.code function.results
  typed _ _ _ _ typed works returns :=
    Body.types_of_work (Bool.and_eq_true_iff.mp valid).2 typed works returns

namespace Description

structure Valid (description : Description) : Prop where
  memories : ∀ memory ∈ description.memories, memory.isValid = true
  functions : ∀ function ∈ description.functions, function.isValid description.hasMemory = true

theorem valid_of_isValid {description : Description} (valid : description.isValid = true) :
    description.Valid := by
  simp only [isValid, Bool.and_eq_true, List.all_eq_true] at valid
  exact ⟨valid.1.1.2, valid.1.2⟩

variable (description : Description)

def memoryExports : List (String × Export Globals) :=
  description.memories.zipIdx.filterMap fun (memory, index) =>
    memory.exported.map fun name => (name, .memory index)

def functionExports (valid : description.Valid) : List (String × Export Globals) :=
  description.functions.attach.filterMap fun ⟨function, member⟩ =>
    function.exported.map fun name => (name, .function (function.make (valid.functions _ member)))

theorem lt_of_mem_exports {valid : description.Valid} {name : String} {index : Nat}
    (member : (name, .memory index) ∈
      description.memoryExports ++ description.functionExports valid) :
    index < description.memories.length := by
  rcases List.mem_append.mp member with memory | function
  · obtain ⟨⟨held, place⟩, among, named⟩ := List.mem_filterMap.mp memory
    obtain ⟨_, _, same⟩ := Option.map_eq_some_iff.mp named
    cases same
    simpa using (List.mem_zipIdx among).2.1
  · obtain ⟨_, _, named⟩ := List.mem_filterMap.mp function
    obtain ⟨_, _, same⟩ := Option.map_eq_some_iff.mp named
    cases same

/-- Everything that a guest asks for stands in one module, which does not exist. -/
def importSpace : String := "env"

def guest (valid : description.Valid) : Guest Globals where
  imports := description.imports.map (Import.mk importSpace)
  exports := description.memoryExports ++ description.functionExports valid
  initial :=
    ⟨description.memories.attach.map fun ⟨memory, member⟩ =>
        memory.make (valid.memories memory member), .zero⟩
  obstacle := none
  start := description.start.map fun body => body.code []
  exported _ _ member := by
    simpa using description.lt_of_mem_exports member

/-- The guest of a module; no other description has one. -/
def guest? : Option (Guest Globals) :=
  if valid : description.isValid = true then some (description.guest (valid_of_isValid valid))
  else none

end Description

end WasmTasks
