import RegexMatching.Text

/-!
# Reading patterns by code points

What the readers of both pattern syntaxes have in common: a reader takes a value
off the front of a list of code points, and digits have values.
-/

namespace RegexMatching.PointReader

/-- A value read from the front of a pattern, and the rest of it. -/
abbrev Reader (α : Type) := Option (α × List Nat)

/-- The character of a code point, to tell syntax apart.  Surrogates read as
NUL, which has no meaning. -/
def charOf (point : Nat) : Char :=
  Char.ofNat point

/-- Only the number of a character reads as that character, unless it is NUL. -/
theorem toNat_of_charOf {point : Nat} {char : Char} (notNul : char ≠ '\x00')
    (isChar : charOf point = char) : char.toNat = point := by
  subst isChar
  by_cases isValid : point.isValidChar
  · have valid : charOf point = Char.ofNatAux point isValid := dif_pos isValid
    rw [valid]
    rfl
  · have invalid : charOf point = '\x00' := dif_neg isValid
    exact absurd invalid notNul

/-- Whether the pattern goes on with a character. -/
def startsWith (char : Char) : List Nat → Bool
  | [] => false
  | point :: _ => charOf point == char

def isDigit (point : Nat) : Bool :=
  (charOf point).isDigit

def isHexDigit (point : Nat) : Bool :=
  let char := charOf point
  char.isDigit || ('a' ≤ char && char ≤ 'f') || ('A' ≤ char && char ≤ 'F')

/-- The value of decimal digits. -/
def decimalValue (digits : List Nat) : Nat :=
  digits.foldl (fun value digit => value * 10 + (digit - 48)) 0

/-- The value of hexadecimal digits. -/
def hexValue (digits : List Nat) : Nat :=
  digits.foldl
    (fun value digit =>
      let char := charOf digit
      let digitValue :=
        if char.isDigit then digit - 48
        else if 'a' ≤ char then digit - 87
        else digit - 55
      value * 16 + digitValue)
    0

end RegexMatching.PointReader
