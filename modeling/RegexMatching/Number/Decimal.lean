import RegexMatching.Number
import RegexMatching.Text

/-!
# Numbers as decimal text

A number is written with the fewest decimal digits that read back as the same
double-precision number.  Digits stand in positional notation from `1e-6` up to
`1e21`, and with an exponent outside that range.
-/

namespace RegexMatching.Number

/-! ## The fewest digits -/

/-- A positive decimal `digits * 10 ^ exponent`. -/
structure Decimal where
  digits : Nat
  exponent : Int

/-- Compare `digits * 10 ^ exponent` with `mantissa * 2 ^ binary`, exactly. -/
def Decimal.compareBinary (decimal : Decimal) (mantissa : Nat) (binary : Int) :
    Ordering :=
  compare
    (decimal.digits * power 10 decimal.exponent.toNat * power 2 (-binary).toNat)
    (mantissa * power 2 binary.toNat * power 10 (-decimal.exponent).toNat)

/-- Whether the decimal lies among the reals that round to
`mantissa * 2 ^ binary`.  The gap below a power of two is half the gap above,
and the ends belong to even mantissas. -/
def Decimal.readsBackAs (decimal : Decimal) (mantissa : Nat) (binary : Int) : Bool :=
  let narrowBelow := mantissa == power 2 52 && -1074 < binary
  let low := if narrowBelow then 4 * mantissa - 1 else 4 * mantissa - 2
  let high := 4 * mantissa + 2
  let even := mantissa % 2 == 0
  let fromLow := decimal.compareBinary low (binary - 2)
  let fromHigh := decimal.compareBinary high (binary - 2)
  (fromLow == .gt || (even && fromLow == .eq)) &&
    (fromHigh == .lt || (even && fromHigh == .eq))

/-- The decimal with the given exponent that is nearest to
`mantissa * 2 ^ binary` among its two neighbours that read back as it; a tie
goes to the even digit. -/
def nearestDecimal? (mantissa : Nat) (binary exponent : Int) : Option Decimal :=
  let numerator := mantissa * power 2 binary.toNat * power 10 (-exponent).toNat
  let denominator := power 2 (-binary).toNat * power 10 exponent.toNat
  let floor : Decimal := ⟨numerator / denominator, exponent⟩
  let ceiling : Decimal := ⟨numerator / denominator + 1, exponent⟩
  let rounded : Decimal := ⟨roundHalfEven numerator denominator, exponent⟩
  match floor.readsBackAs mantissa binary, ceiling.readsBackAs mantissa binary with
  | true, true => some rounded
  | true, false => some floor
  | false, true => some ceiling
  | false, false => none

/-- The least `places` in a range with `mantissa * 2 ^ binary < 10 ^ places`. -/
def decimalPlaces (mantissa : Nat) (binary : Int) : Int :=
  let below (places : Int) : Bool :=
    (Decimal.mk 1 places).compareBinary mantissa binary == .gt
  let first : Int := ((mantissa.log2 : Int) + binary) * 30103 / 100000 - 1
  match (List.range 5).find? fun (step : Nat) => below (first + step) with
  | some step => first + step
  | none => first + 5

/-- Drop zeros at the end of the digits. -/
def Decimal.stripZeros (decimal : Decimal) : Nat → Decimal
  | 0 => decimal
  | fuel + 1 =>
      if decimal.digits % 10 = 0 && decimal.digits ≠ 0 then
        Decimal.stripZeros ⟨decimal.digits / 10, decimal.exponent + 1⟩ fuel
      else
        decimal

/-- The shortest decimal that reads back as `mantissa * 2 ^ binary`.
Seventeen digits always do. -/
def shortestDecimal (mantissa : Nat) (binary : Int) : Decimal :=
  let places := decimalPlaces mantissa binary
  let candidates := (List.range 17).filterMap fun (count : Nat) =>
    nearestDecimal? mantissa binary (places - (count + 1))
  let chosen := candidates.head?.getD
    ⟨mantissa * power 2 binary.toNat * power 5 (-binary).toNat, -(-binary).toNat⟩
  chosen.stripZeros 400

/-! ## Layout -/

/-- The digits of a decimal, with the point or exponent where it belongs. -/
def Decimal.layout (decimal : Decimal) : String :=
  let digits := Nat.toDigits 10 decimal.digits
  let point : Int := digits.length + decimal.exponent
  let zeros (count : Int) : List Char := List.replicate count.toNat '0'
  let chars : List Char :=
    if 0 ≤ decimal.exponent && point ≤ 21 then
      digits ++ zeros decimal.exponent
    else if 0 < point && point ≤ 21 then
      digits.take point.toNat ++ '.' :: digits.drop point.toNat
    else if -6 < point && point ≤ 0 then
      '0' :: '.' :: zeros (-point) ++ digits
    else
      let power := point - 1
      let sign := if power < 0 then '-' else '+'
      let fraction := if digits.length = 1 then [] else '.' :: digits.drop 1
      digits.take 1 ++ fraction ++ 'e' :: sign :: Nat.toDigits 10 power.natAbs
  String.ofList chars

/-- A number as text.  Both zeros are written `0`. -/
def toText : Number → Text
  | .nan => Text.ofString "NaN"
  | .infinity false => Text.ofString "Infinity"
  | .infinity true => Text.ofString "-Infinity"
  | .finite negative mantissa exponent =>
      if mantissa = 0 then
        Text.ofString "0"
      else
        let sign := if negative then "-" else ""
        Text.ofString (sign ++ (shortestDecimal mantissa exponent).layout)

end RegexMatching.Number
