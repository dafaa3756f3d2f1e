/-!
# Numbers a caller may pass

Offsets, group numbers, flags and limits arrive as double-precision numbers, so
an argument may be fractional, infinite, negative zero or not a number at all.
Most operations accept integers only and report anything else as it was given.
-/

namespace RegexMatching

/-- A double-precision number.  The finite ones are `mantissa * 2 ^ exponent`
with a sign of their own, so zero has two forms. -/
inductive Number where
  | nan
  | infinity (negative : Bool)
  | finite (negative : Bool) (mantissa : Nat) (exponent : Int)
deriving Repr

namespace Number

/-- `base ^ exponent`, for natural numbers only. -/
def power (base exponent : Nat) : Nat :=
  base.pow exponent

/-! ## Making numbers -/

/-- `numerator / denominator` rounded to an integer, a half going to the even
neighbour. -/
def roundHalfEven (numerator denominator : Nat) : Nat :=
  let quotient := numerator / denominator
  let twice := 2 * (numerator % denominator)
  if twice < denominator || (twice == denominator && quotient % 2 == 0) then
    quotient
  else
    quotient + 1

/-- The number nearest to a quotient: 53 significant bits, exponents from
-1074, and infinity from `2 ^ 1024` on. -/
def ofRatio (negative : Bool) (numerator denominator : Nat) : Number :=
  if numerator = 0 then
    .finite negative 0 0
  else
    let scaled (exponent : Int) : Nat × Nat :=
      (numerator * power 2 (-exponent).toNat, denominator * power 2 exponent.toNat)
    let guess := max ((numerator.log2 : Int) - denominator.log2 - 53) (-1074)
    let (top, bottom) := scaled guess
    let exponent := if power 2 53 ≤ top / bottom then guess + 1 else guess
    let (top, bottom) := scaled exponent
    let mantissa := roundHalfEven top bottom
    if 971 < exponent || (exponent = 971 && power 2 53 ≤ mantissa) then
      .infinity negative
    else if mantissa = power 2 53 then
      .finite negative (power 2 52) (exponent + 1)
    else
      .finite negative mantissa exponent

/-- The number nearest to `digits / 10 ^ places`. -/
def ofDecimal (negative : Bool) (digits places : Nat) : Number :=
  ofRatio negative digits (power 10 places)

/-- The number nearest to an integer. -/
def ofInt (value : Int) : Number :=
  ofRatio (value < 0) value.natAbs 1

/-- The number nearest to a natural number. -/
def ofNat (value : Nat) : Number :=
  ofRatio false value 1

instance : Inhabited Number where
  default := .finite false 0 0

/-! ## Reading numbers -/

/-- The integer part, towards zero, of a finite number. -/
def truncate? : Number → Option Int
  | .finite negative mantissa exponent =>
      let size := mantissa * power 2 exponent.toNat / power 2 (-exponent).toNat
      some (if negative then -size else size)
  | _ => none

/-- Whether the number is a finite integer. -/
def isInteger : Number → Bool
  | .finite _ mantissa exponent => mantissa % power 2 (-exponent).toNat == 0
  | _ => false

/-- The value of an integer; both zeros give zero. -/
def toInt? (number : Number) : Option Int :=
  if number.isInteger then number.truncate? else none

/-- The value of an integer between zero and `bound`. -/
def toIndex? (number : Number) (bound : Nat) : Option Nat :=
  match number.toInt? with
  | some (.ofNat value) => if value ≤ bound then some value else none
  | _ => none

/-- Whether the number is below an integer. -/
def lt : Number → Int → Bool
  | .nan, _ => false
  | .infinity negative, _ => negative
  | .finite negative mantissa exponent, bound =>
      let size := mantissa * power 2 exponent.toNat
      let signed : Int := if negative then -size else size
      signed < bound * power 2 (-exponent).toNat

/-- Whether the number is above an integer. -/
def gt : Number → Int → Bool
  | .nan, _ => false
  | .infinity negative, _ => !negative
  | .finite negative mantissa exponent, bound =>
      let size := mantissa * power 2 exponent.toNat
      let signed : Int := if negative then -size else size
      bound * power 2 (-exponent).toNat < signed

/-- Whether the number equals an integer. -/
def equals (number : Number) (value : Int) : Bool :=
  number.toInt? == some value

/-- The lowest 32 bits of the integer part, in two's complement; numbers that
are not finite have no bits. -/
def toBits (number : Number) : UInt32 :=
  match number.truncate? with
  | some value => (value % 4294967296).toNat.toUInt32
  | none => 0

end Number

end RegexMatching
