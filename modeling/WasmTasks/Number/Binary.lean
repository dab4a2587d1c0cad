/-!
Binary floating point formats, in exact arithmetic. A finite magnitude is a significand times a
power of two, and magnitudes in ascending order have ascending encodings.
-/

namespace WasmTasks.Number

/-- The quotient rounded to the nearest integer, a half to the even neighbour. -/
def roundHalfEven (numerator denominator : Nat) : Nat :=
  let quotient := numerator / denominator
  let twice := 2 * (numerator % denominator)
  if twice < denominator then quotient
  else if denominator < twice then quotient + 1
  else quotient + quotient % 2

/-- The quotient rounded to the nearest integer, a half to the neighbour above. -/
def roundHalfUp (numerator denominator : Nat) : Nat :=
  (2 * numerator + denominator) / (2 * denominator)

structure Format where
  /-- Significand bits, the leading one included. -/
  precision : Nat
  exponentBits : Nat
  deriving DecidableEq, Repr

namespace Format

def single : Format := ⟨24, 8⟩

def double : Format := ⟨53, 11⟩

/-- The least positive magnitude is 2 to the power of minus this. -/
def scale (format : Format) : Nat :=
  (1 <<< (format.exponentBits - 1)) + format.precision - 3

def infinity (format : Format) : Nat :=
  ((1 <<< format.exponentBits) - 1) <<< (format.precision - 1)

/-- The encoding of the magnitude nearest to the quotient. -/
def encode (format : Format) (numerator denominator : Nat) : Nat :=
  let scaled := numerator <<< format.scale
  let bits := if scaled / denominator = 0 then 0 else (scaled / denominator).log2 + 1
  let excess := bits - format.precision
  min format.infinity
    ((excess <<< (format.precision - 1)) + roundHalfEven scaled (denominator <<< excess))

/-- Significand and exponent, counted from the least positive magnitude. -/
def decode (format : Format) (encoding : Nat) : Nat × Nat :=
  let half := 1 <<< (format.precision - 1)
  if encoding < half then (encoding, 0)
  else (encoding % half + half, encoding / half - 1)

def signBit (format : Format) : Nat :=
  1 <<< (format.precision + format.exponentBits - 1)

def ofInt (format : Format) (n : Int) : Nat :=
  (if n < 0 then format.signBit else 0) + format.encode n.natAbs 1

end Format

/-- A number in the double format: its sign and the encoding of its magnitude. -/
structure Double where
  negative : Bool
  magnitude : Nat
  deriving DecidableEq, Repr

namespace Double

def ofRatio (negative : Bool) (numerator denominator : Nat) : Double :=
  ⟨negative, Format.double.encode numerator denominator⟩

def infinite (negative : Bool) : Double :=
  ⟨negative, Format.double.infinity⟩

def nan : Double :=
  ⟨false, Format.double.infinity + 1⟩

/-- The integer next to a finite number in the direction of zero. -/
def truncate (value : Double) : Int :=
  let (significand, exponent) := Format.double.decode value.magnitude
  let whole : Nat := (significand <<< exponent) >>> Format.double.scale
  if value.negative then -whole else whole

def bits (format : Format) (value : Double) : Nat :=
  let (significand, exponent) := Format.double.decode value.magnitude
  (if value.negative then format.signBit else 0)
    + format.encode (significand <<< exponent) (1 <<< Format.double.scale)

/-- Digits times a power of ten. Powers that are out of the reach of the format are not computed:
from 10 to the power 309 on all numbers round to infinity, and below 10 to the power -324 to zero. -/
def ofDecimal (negative : Bool) (digits : Nat) (exponent : Int) : Double :=
  let places : Int := (Nat.toDigits 10 digits).length
  if digits = 0 ∨ places + exponent ≤ -324 then ⟨negative, 0⟩
  else if 309 < places + exponent then infinite negative
  else if 0 ≤ exponent then ofRatio negative (digits * Nat.pow 10 exponent.toNat) 1
  else ofRatio negative digits (Nat.pow 10 (-exponent).toNat)

end Double

end WasmTasks.Number
