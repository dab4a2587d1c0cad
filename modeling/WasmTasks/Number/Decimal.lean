import WasmTasks.Number.Binary

/-!
The decimal text of a double: the fewest digits that read back as the same number, and of those the
nearest to it. A style decides what becomes of a number halfway between two such decimals, and where
the text has an exponent; without an exponent there is a digit after the point.
-/

namespace WasmTasks.Number

/-- Digits times a power of ten. -/
structure Decimal where
  digits : Nat
  exponent : Int
  deriving DecidableEq, Repr

namespace Decimal

def zeros (n : Nat) : String :=
  String.ofList (List.replicate n '0')

def positional (value : Decimal) : String :=
  let text := toString value.digits
  match value.exponent with
  | .ofNat n => text ++ zeros n ++ ".0"
  | .negSucc n =>
      let places := n + 1
      let padded := zeros (places + 1 - text.length) ++ text
      let whole := padded.length - places
      String.ofList (padded.toList.take whole) ++ "."
        ++ String.ofList (padded.toList.drop whole)

/-- One digit in front of the point, which is left out if no other digit follows it. The exponent
always has a sign. -/
def scientific (value : Decimal) : String :=
  let text := (toString value.digits).toList
  let power := value.exponent + (text.length - 1 : Nat)
  let sign := if power < 0 then "-" else "+"
  let mantissa := match text with
    | first :: second :: rest => first :: '.' :: second :: rest
    | short => short
  s!"{String.ofList mantissa}e{sign}{power.natAbs}"

/-- Without an exponent for numbers from 0.00001 up to sixteen digits before the point. -/
def compact (value : Decimal) : String :=
  let whole := value.exponent + (toString value.digits).length
  if value.digits = 0 ∨ (-5 < whole ∧ whole ≤ 16) then value.positional else value.scientific

structure Style where
  /-- Whether a number halfway between two shortest decimals goes to the one with the even last
  digit, and otherwise to the greater one. -/
  tiesToEven : Bool
  layout : Decimal → String

namespace Style

def positional : Style := ⟨false, Decimal.positional⟩

def compact : Style := ⟨true, Decimal.compact⟩

end Style

/-- The numbers that read back as one double, as fractions of one denominator. -/
structure Interval where
  low : Nat
  middle : Nat
  high : Nat
  denominator : Nat
  closed : Bool

namespace Interval

def ofMagnitude (magnitude : Nat) : Interval :=
  let (significand, exponent) := Format.double.decode magnitude
  let unit := 1 <<< exponent
  let lowest := 1 <<< (Format.double.precision - 1)
  let below := if significand = lowest ∧ 0 < exponent then unit else 2 * unit
  { low := 4 * significand * unit - below
    middle := 4 * significand * unit
    high := 4 * significand * unit + 2 * unit
    denominator := 4 <<< Format.double.scale
    closed := significand % 2 = 0 }

def shift (interval : Interval) (power : Int) : Interval :=
  if 0 ≤ power then
    let factor := Nat.pow 10 power.toNat
    { interval with
      low := interval.low * factor
      middle := interval.middle * factor
      high := interval.high * factor }
  else { interval with denominator := interval.denominator * Nat.pow 10 (-power).toNat }

def contains (interval : Interval) (n : Nat) : Bool :=
  let scaled := n * interval.denominator
  if interval.closed then interval.low ≤ scaled && scaled ≤ interval.high
  else interval.low < scaled && scaled < interval.high

/-- The integer of the interval that is nearest to its middle. -/
def nearest? (tiesToEven : Bool) (interval : Interval) : Option Nat :=
  let floor := interval.middle / interval.denominator
  let rounded :=
    if tiesToEven then roundHalfEven interval.middle interval.denominator
    else roundHalfUp interval.middle interval.denominator
  let other := if rounded = floor then floor + 1 else floor
  if interval.contains rounded then some rounded
  else if interval.contains other then some other
  else none

/-- The number of digits before the point; negative or zero for numbers below one tenth. -/
def magnitude (interval : Interval) : Int :=
  let whole := interval.middle / interval.denominator
  if whole ≠ 0 then (Nat.toDigits 10 whole).length
  else
    let places := (List.range 400).find? fun n =>
      interval.denominator ≤ interval.middle * Nat.pow 10 n
    1 - (places.getD 0 : Int)

end Interval

/-- The shortest decimal that reads back as the magnitude; seventeen digits always do. The search
begins with the next power of ten, which may read back as well. -/
def shortest (tiesToEven : Bool) (magnitude : Nat) : Decimal :=
  if magnitude = 0 then ⟨0, 0⟩
  else
    let interval := Interval.ofMagnitude magnitude
    let top := interval.magnitude
    let found := (List.range 18).findSome? fun n =>
      let exponent := top - (n : Nat)
      ((interval.shift (-exponent)).nearest? tiesToEven).map fun digits =>
        (⟨digits, exponent⟩ : Decimal)
    found.getD ⟨0, 0⟩

end Decimal

namespace Double

def render (style : Decimal.Style) (value : Double) : String :=
  if Format.double.infinity < value.magnitude then "NaN"
  else
    let sign := if value.negative then "-" else ""
    if value.magnitude = Format.double.infinity then sign ++ "inf"
    else sign ++ style.layout (Decimal.shortest style.tiesToEven value.magnitude)

def positional (value : Double) : String :=
  value.render .positional

def compact (value : Double) : String :=
  value.render .compact

end Double

end WasmTasks.Number
