import Mathlib.Data.List.Forall2
import WasmTasks.Proofs.Engine.Checkpoints

/-!
Calls from the host. Guest code is entered exactly if the function is exported and takes as many
integers as are given, each in the range of its parameter; otherwise nothing happens at all. The
arguments arrive as they are, and so do the integers that come back.
-/

namespace WasmTasks

/-! Arguments. -/

namespace ValueType

def Takes (type : ValueType) (argument : Int64) : Prop :=
  match type with
  | i32 => -2147483648 ≤ argument.toInt ∧ argument.toInt < 2147483648
  | i64 => True
  | _ => False

instance (type : ValueType) (argument : Int64) : Decidable (type.Takes argument) :=
  match type with
  | i32 => inferInstanceAs (Decidable (_ ∧ _))
  | i64 => isTrue trivial
  | f32 | f64 | v128 | reference _ => isFalse id

def refusal (type : ValueType) (index : Nat) (argument : Int64) : SignatureMismatch :=
  match type with
  | i32 => .argumentRange index argument
  | other => .parameterType index other.name

/-- The first of the arguments that its parameter does not take. -/
structure FirstRefused (types : List ValueType) (args : List Int64) (index : Nat)
    (type : ValueType) (argument : Int64) : Prop where
  parameter : types[index]? = some type
  given : args[index]? = some argument
  refused : ¬ type.Takes argument
  earlier : ∀ lower < index, ∀ type argument, types[lower]? = some type →
    args[lower]? = some argument → type.Takes argument

end ValueType

namespace Value

/-- The values are those integers, as parameters of those types. -/
structure Carry (values : List Value) (types : List ValueType) (args : List Int64) : Prop where
  types : values.map type = types
  integers : values.map toInt = args.map Int64.toInt

theorem ofArgument?_of_takes {type : ValueType} {argument : Int64} (takes : type.Takes argument) :
    ∃ value, ofArgument? argument type = some value ∧ value.type = type ∧
      value.toInt = argument.toInt := by
  cases type with
  | i32 =>
      obtain ⟨lower, upper⟩ := takes
      have exact : (Int32.ofInt argument.toInt).toInt = argument.toInt :=
        Int32.toInt_ofInt_of_le lower upper
      refine ⟨.i32 (.ofInt argument.toInt), if_pos ⟨?_, ?_⟩, rfl, exact⟩
      · rwa [Int32.toInt_minValue]
      · exact Int.le_sub_one_of_lt upper
  | i64 => exact ⟨.i64 argument, rfl, rfl, rfl⟩
  | _ => exact takes.elim

theorem ofArgument?_of_refused {type : ValueType} {argument : Int64}
    (refused : ¬ type.Takes argument) : ofArgument? argument type = none := by
  cases type with
  | i32 =>
      refine if_neg fun fits => refused ⟨?_, ?_⟩
      · exact fits.1
      · exact Int.lt_of_le_sub_one fits.2
  | i64 => exact absurd trivial refused
  | _ => rfl

/-- The integer stands for the value, which is of an integer type. -/
def Shows (value : Value) (integer : Int64) : Prop :=
  value.type.isInteger = true ∧ value.toInt = integer.toInt

theorem toInt64?_eq_some_iff {value : Value} {integer : Int64} :
    value.toInt64? = some integer ↔ value.Shows integer := by
  cases value with
  | i32 value =>
      rw [toInt64?, Option.some.injEq, ← Int64.toInt_inj, Int32.toInt_toInt64]
      exact (and_iff_right rfl).symm
  | i64 value =>
      rw [toInt64?, Option.some.injEq, ← Int64.toInt_inj]
      exact (and_iff_right rfl).symm
  | _ =>
      refine ⟨fun found => ?_, fun shows => ?_⟩
      · cases found
      · cases shows.1

theorem toInt64?_eq_none_iff {value : Value} :
    value.toInt64? = none ↔ value.type.isInteger = false := by
  cases value <;> simp [toInt64?, type, ValueType.isInteger]

end Value

namespace Context

open ValueType

theorem arguments_of_takes {types : List ValueType} {args : List Int64}
    (takes : List.Forall₂ Takes types args) (start : Nat) :
    ∃ values, arguments start types args = .ok values ∧ Value.Carry values types args := by
  induction takes generalizing start with
  | nil => exact ⟨[], rfl, rfl, rfl⟩
  | cons first _ ih =>
      obtain ⟨value, converted, type, integer⟩ := Value.ofArgument?_of_takes first
      obtain ⟨values, rest, types, integers⟩ := ih (start + 1)
      refine ⟨value :: values, ?_, ?_, ?_⟩
      · simp only [arguments, converted, rest]
        rfl
      · rw [List.map_cons, type, types]
      · rw [List.map_cons, List.map_cons, integer, integers]

theorem arguments_of_firstRefused {types : List ValueType} {args : List Int64} {index : Nat}
    {type : ValueType} {argument : Int64} (first : FirstRefused types args index type argument)
    (start : Nat) :
    arguments start types args = .error (type.refusal (start + index) argument) := by
  obtain ⟨parameter, given, refused, earlier⟩ := first
  induction types generalizing args index start with
  | nil => cases parameter
  | cons head types ih =>
      cases args with
      | nil => cases given
      | cons front args =>
          cases index with
          | zero =>
              cases parameter
              cases given
              simp only [arguments, Value.ofArgument?_of_refused refused]
              cases type <;> rfl
          | succ index =>
              have taken := earlier 0 (Nat.succ_pos index) head front rfl rfl
              obtain ⟨value, converted, _⟩ := Value.ofArgument?_of_takes taken
              have later := ih (start + 1) parameter given
                fun lower below => earlier (lower + 1) (Nat.succ_lt_succ below)
              simp only [arguments, converted, later]
              rw [Nat.add_right_comm]
              rfl

theorem exists_firstRefused {types : List ValueType} {args : List Int64}
    (count : types.length = args.length) (refused : ¬ List.Forall₂ Takes types args) :
    ∃ index type argument, FirstRefused types args index type argument := by
  induction types generalizing args with
  | nil =>
      obtain rfl := List.length_eq_zero_iff.mp count.symm
      exact absurd .nil refused
  | cons type types ih =>
      cases args with
      | nil => cases count
      | cons argument args =>
          by_cases taken : type.Takes argument
          · obtain ⟨index, other, given, first⟩ :=
              ih (Nat.succ.inj count) fun rest => refused (.cons taken rest)
            refine ⟨index + 1, other, given, first.parameter, first.given, first.refused, ?_⟩
            intro lower below
            cases lower with
            | zero =>
                rintro _ _ ⟨⟩ ⟨⟩
                exact taken
            | succ lower => exact first.earlier lower (Nat.lt_of_succ_lt_succ below)
          · refine ⟨0, type, argument, rfl, rfl, taken, ?_⟩
            exact fun lower below => absurd below lower.not_lt_zero

/-! Results. -/

theorem integers_cases (values : List Value) :
    (∃ results, integers values = .ok results ∧ List.Forall₂ Value.Shows values results) ∨
      ∃ front value back, values = front ++ value :: back ∧
        (∀ earlier ∈ front, earlier.type.isInteger = true) ∧ value.type.isInteger = false ∧
        integers values = .error (.resultValue value.describe) := by
  induction values with
  | nil => exact .inl ⟨[], rfl, .nil⟩
  | cons value rest ih =>
      cases shown : value.toInt64? with
      | none =>
          refine .inr ⟨[], value, rest, rfl, ?_, Value.toInt64?_eq_none_iff.mp shown, ?_⟩
          · exact fun earlier member => absurd member List.not_mem_nil
          · simp only [integers, shown]
      | some integer =>
          have shows := Value.toInt64?_eq_some_iff.mp shown
          obtain ⟨results, answer, all⟩ | ⟨front, other, back, rfl, earlier, none, answer⟩ := ih
          · refine .inl ⟨integer :: results, ?_, .cons shows all⟩
            simp only [integers, shown, answer]
            rfl
          · refine .inr ⟨value :: front, other, back, rfl, ?_, none, ?_⟩
            · exact List.forall_mem_cons.mpr ⟨shows.1, earlier⟩
            · simp only [integers, shown, answer]
              rfl

theorem report_cases (name : String) (values : List Value) :
    (∃ results, report name (.ok values) = .ok results ∧ List.Forall₂ Value.Shows values results) ∨
      ∃ front value back, values = front ++ value :: back ∧
        (∀ earlier ∈ front, earlier.type.isInteger = true) ∧ value.type.isInteger = false ∧
        report name (.ok values) = .error (.signature name (.resultValue value.describe)) := by
  obtain ⟨results, answer, all⟩ | ⟨front, value, back, split, earlier, none, answer⟩ :=
    integers_cases values
  · exact .inl ⟨results, by rw [report, answer]; rfl, all⟩
  · exact .inr ⟨front, value, back, split, earlier, none, by rw [report, answer]; rfl⟩

theorem integers_of_shows {values : List Value} {results : List Int64}
    (shows : List.Forall₂ Value.Shows values results) : integers values = .ok results := by
  induction shows with
  | nil => rfl
  | cons first _ ih =>
      simp only [integers, Value.toInt64?_eq_some_iff.mpr first, ih]
      rfl

variable {ν : Type}

structure Accepts (context : Context ν) (name : String) (args : List Int64)
    (function : Function ν) : Prop where
  exported : context.guest.function? name = some function
  takes : List.Forall₂ Takes function.params args

/-- Why a call enters no function. -/
inductive Refuses (context : Context ν) (name : String) (args : List Int64) :
    CallError → Prop where
  | missing (absent : context.guest.function? name = none) :
      Refuses context name args (.missingFunction name)
  | arity {function : Function ν} (exported : context.guest.function? name = some function)
      (different : function.params.length ≠ args.length) :
      Refuses context name args (.signature name (.arity function.params.length args.length))
  | argument {function : Function ν} {index : Nat} {type : ValueType} {argument : Int64}
      (exported : context.guest.function? name = some function)
      (count : function.params.length = args.length)
      (first : FirstRefused function.params args index type argument) :
      Refuses context name args (.signature name (type.refusal index argument))

section

variable {context : Context ν} {name : String} {args : List Int64} {function : Function ν}

theorem prepare_of_accepts (accepts : context.Accepts name args function) :
    ∃ values, context.prepare name args = .ok (function, values) ∧
      Value.Carry values function.params args := by
  obtain ⟨values, converted, carry⟩ := arguments_of_takes accepts.takes 0
  refine ⟨values, ?_, carry⟩
  rw [prepare, accepts.exported]
  dsimp only
  rw [if_neg (not_not_intro accepts.takes.length_eq), converted]

theorem prepare_of_refuses {error : CallError} (refuses : context.Refuses name args error) :
    context.prepare name args = .error error := by
  cases refuses with
  | missing absent => rw [prepare, absent]
  | arity exported different =>
      rw [prepare, exported]
      exact if_pos different
  | argument exported count first =>
      rw [prepare, exported]
      dsimp only
      rw [if_neg (not_not_intro count), arguments_of_firstRefused first, Nat.zero_add]

theorem call_of_refuses {error : CallError} (refuses : context.Refuses name args error)
    (timeline : Timeline) :
    context.call name args timeline = .answered (.error error) (context, timeline) := by
  rw [call, prepare_of_refuses refuses]

theorem accepts_or_refuses (context : Context ν) (name : String) (args : List Int64) :
    (∃ function, context.Accepts name args function) ∨ ∃ error, context.Refuses name args error := by
  cases exported : context.guest.function? name with
  | none => exact .inr ⟨_, .missing exported⟩
  | some function =>
      by_cases count : function.params.length = args.length
      · by_cases takes : List.Forall₂ Takes function.params args
        · exact .inl ⟨function, exported, takes⟩
        · obtain ⟨_, _, _, first⟩ := exists_firstRefused count takes
          exact .inr ⟨_, .argument exported count first⟩
      · exact .inr ⟨_, .arity exported count⟩

theorem report_ne_missingFunction (name function : String)
    (outcome : Except (Option Trap) (List Value)) :
    report name outcome ≠ .error (.missingFunction function) := by
  intro reported
  rcases outcome with (_ | trap) | values
  · cases reported
  · cases reported
  · rw [report] at reported
    cases read : integers values <;> rw [read] at reported <;> cases reported

/-- No other failure of a call is taken for a missing function. -/
theorem call_eq_missingFunction_iff {missing : String} {timeline : Timeline}
    {state : Context ν × Timeline} :
    context.call name args timeline = .answered (.error (.missingFunction missing)) state ↔
      context.guest.function? name = none ∧ missing = name ∧ state = (context, timeline) := by
  constructor
  · intro called
    obtain ⟨entered, accepts⟩ | ⟨error, refuses⟩ := accepts_or_refuses context name args
    · obtain ⟨values, prepared, _⟩ := prepare_of_accepts accepts
      rw [call_of_prepare prepared] at called
      cases returned : context.enter entered.code values timeline with
      | answered outcome last =>
          rw [returned, Reply.map] at called
          obtain ⟨reported, _⟩ := Reply.answered.inj called
          exact absurd reported (report_ne_missingFunction name missing outcome)
      | _ =>
          rw [returned] at called
          cases called
    · rw [call_of_refuses refuses] at called
      cases called
      cases refuses with
      | missing absent => exact ⟨absent, rfl, rfl⟩
  · rintro ⟨absent, rfl, rfl⟩
    exact call_of_refuses (.missing absent) timeline

end

end Context

/-! What functions return. -/

namespace Value

theorem isInteger_of_takes {type : ValueType} {argument : Int64} (takes : type.Takes argument) :
    type.isInteger = true := by
  cases type with
  | i32 => rfl
  | i64 => rfl
  | _ => exact takes.elim

theorem Carry.shows {values : List Value} {types : List ValueType} {args : List Int64}
    (carry : Carry values types args) (takes : List.Forall₂ ValueType.Takes types args) :
    List.Forall₂ Shows values args := by
  induction takes generalizing values with
  | nil =>
      obtain rfl := List.map_eq_nil_iff.mp carry.types
      exact .nil
  | cons taken _ ih =>
      obtain ⟨value, rest, rfl, rfl, types⟩ := List.map_eq_cons_iff.mp carry.types
      obtain ⟨first, others⟩ := List.cons.inj carry.integers
      exact .cons ⟨isInteger_of_takes taken, first⟩ (ih ⟨types, others⟩)

end Value

namespace Context

variable {ν : Type} {context : Context ν} {code : Code ν} {args : List Value}

/-- Code that ends without being aborted returns what it returns, and leaves what it leaves. -/
theorem enter_of_passed {work : Work ν} {timeline left : Timeline} {deadline : Deadline}
    (works : (code.run args context.state).ending = some work)
    (passes : context.deadline.pass 0 (work.passes + 1) timeline = (none, deadline, left)) :
    context.enter code args timeline =
      .answered (work.outcome.mapError some) ((context.leaving work.state).due deadline, left) := by
  rw [context.enter_of_work works, passes]

theorem work_of_enter {returned : List Value} {timeline : Timeline} {state : Context ν × Timeline}
    (entered : context.enter code args timeline = .answered (.ok returned) state) :
    ∃ work deadline, (code.run args context.state).ending = some work ∧
      work.outcome = .ok returned ∧ state.1 = (context.leaving work.state).due deadline := by
  obtain ⟨work, deadline, works, outcome, left⟩ | ⟨_, _, aborted, _⟩ := context.enter_cases entered
  · refine ⟨work, deadline, works, ?_, left⟩
    cases returns : work.outcome with
    | error trap =>
        rw [returns] at outcome
        cases outcome
    | ok results =>
        rw [returns] at outcome
        exact congrArg Except.ok (Except.ok.inj outcome).symm
  · cases aborted

/-- A call enters a function or is refused, and a refused call leaves everything as it is. The
function is given the arguments as they are, and it is left to run unless a checkpoint aborts it. If
it returns then its effects are kept, and the answer is the integers that it returned, as many as it
has results, or an error about the first of them that is no integer; a function that returns its
parameters thus answers the arguments. -/
theorem call_conveys_integers (context : Context ν) (name : String) (args : List Int64)
    (timeline : Timeline) :
    ((∃ function, context.Accepts name args function) ↔ ¬ ∃ error, context.Refuses name args error) ∧
      (∀ error, context.Refuses name args error →
        context.call name args timeline = .answered (.error error) (context, timeline)) ∧
      ∀ function, context.Accepts name args function →
        ∃ values, Value.Carry values function.params args ∧
          context.call name args timeline =
            (context.enter function.code values timeline).map (report name) ∧
          (∀ work deadline left, (function.code.run values context.state).ending = some work →
            context.deadline.pass 0 (work.passes + 1) timeline = (none, deadline, left) →
              context.enter function.code values timeline =
                .answered (work.outcome.mapError some)
                  ((context.leaving work.state).due deadline, left)) ∧
          ∀ results state, context.enter function.code values timeline =
              .answered (.ok results) state →
            (∃ work deadline, (function.code.run values context.state).ending = some work ∧
              work.outcome = .ok results ∧
                state.1 = (context.leaving work.state).due deadline) ∧
            results.map Value.type = function.results ∧
            (results = values → context.call name args timeline = .answered (.ok args) state) ∧
            ((∃ integers, List.Forall₂ Value.Shows results integers ∧
                context.call name args timeline = .answered (.ok integers) state) ∨
              ∃ front value back, results = front ++ value :: back ∧
                (∀ earlier ∈ front, earlier.type.isInteger = true) ∧ value.type.isInteger = false ∧
                context.call name args timeline =
                  .answered (.error (.signature name (.resultValue value.describe))) state) := by
  refine ⟨⟨?_, ?_⟩, fun error refuses => call_of_refuses refuses timeline, ?_⟩
  · rintro ⟨function, accepts⟩ ⟨error, refuses⟩
    obtain ⟨_, prepared, _⟩ := prepare_of_accepts accepts
    rw [prepare_of_refuses refuses] at prepared
    cases prepared
  · exact (accepts_or_refuses context name args).resolve_right
  · intro function accepts
    obtain ⟨values, prepared, carry⟩ := prepare_of_accepts accepts
    have called := call_of_prepare prepared timeline
    refine ⟨values, carry, called, fun _ _ _ works passes => enter_of_passed works passes, ?_⟩
    intro results state entered
    rw [entered, Reply.map] at called
    obtain ⟨work, deadline, works, returns, left⟩ := work_of_enter entered
    refine ⟨⟨work, deadline, works, returns, left⟩, ?_, ?_, ?_⟩
    · exact function.typed values context.state work results carry.types works returns
    · rintro rfl
      rw [called, report, integers_of_shows (carry.shows accepts.takes)]
      rfl
    · rw [called]
      obtain ⟨integers, answer, shows⟩ | ⟨front, value, back, split, earlier, none, answer⟩ :=
        report_cases name results
      · exact .inl ⟨integers, shows, by rw [answer]⟩
      · exact .inr ⟨front, value, back, split, earlier, none, by rw [answer]⟩

/-- The largest and the smallest integers of their types come back from a function that returns its
parameters, and counts. -/
theorem call_conveys_integers_echo :
    let types : List ValueType := [.i32, .i64]
    let code : Code Nat := ⟨fun args state =>
      ⟨fun _ => state, some ⟨2, .ok args, ⟨state.memories, state.globals + 1⟩⟩⟩,
        fun _ _ => ⟨fun _ => rfl, by rintro _ ⟨⟩; rfl⟩⟩
    let echo : Function Nat := ⟨types, types, code, by rintro _ _ _ _ typed ⟨⟩ ⟨⟩; exact typed⟩
    let guest : Guest Nat := ⟨[], [("echo", .function echo)], ⟨[], 0⟩, none, none,
      by rintro _ _ (_ | ⟨_, ⟨⟩⟩)⟩
    let context : Context Nat := ⟨"task", guest, guest.initial, .arm 0⟩
    let timeline : Timeline := ⟨[⟨0, false⟩, ⟨1, false⟩], ⟨1, false⟩⟩
    let args : List Int64 := [2147483647, -9223372036854775808]
    context.Accepts "echo" args echo ∧
      context.call "echo" args timeline =
        .answered (.ok args) (⟨"task", guest, ⟨[], 1⟩, ⟨2, 1⟩⟩, .constant ⟨1, false⟩) := by
  intro types code echo guest context timeline args
  have accepts : context.Accepts "echo" args echo :=
    ⟨rfl, .cons (by decide) (.cons trivial .nil)⟩
  obtain ⟨values, _, _, enters, returns⟩ :=
    (call_conveys_integers context "echo" args timeline).2.2 echo accepts
  have entered := enters ⟨2, .ok values, ⟨[], 1⟩⟩ ⟨2, 1⟩ (.constant ⟨1, false⟩) rfl rfl
  exact ⟨accepts, (returns values _ entered).2.2.1 rfl⟩

end Context

end WasmTasks
