/-!
# Text as UTF-16 code units

Callers index text by UTF-16 code unit, and a surrogate may stand alone, so
text is a list of units rather than a `String`.  A *pair* is a high surrogate
directly followed by a low one; `Text.points` reads text as code points, with
each pair joined and every other unit standing for itself.  A code point is a
natural number up to `0x10FFFF`; surrogate code points are included.
-/

namespace RegexMatching

/-- One UTF-16 code unit. -/
abbrev CodeUnit := UInt16

/-- A sequence of UTF-16 code units, in which surrogates may stand alone. -/
abbrev Text := List CodeUnit

/-! ## Code units -/

namespace CodeUnit

/-- Whether the unit can open a pair. -/
def isHighSurrogate (unit : CodeUnit) : Bool :=
  0xD800 ≤ unit && unit ≤ 0xDBFF

/-- Whether the unit can close a pair. -/
def isLowSurrogate (unit : CodeUnit) : Bool :=
  0xDC00 ≤ unit && unit ≤ 0xDFFF

/-- The character a unit stands for, used to dispatch on ASCII syntax.  A
surrogate reads as NUL. -/
def toChar (unit : CodeUnit) : Char :=
  Char.ofNat unit.toNat

/-- The unit of an ASCII character. -/
def ofChar (char : Char) : CodeUnit :=
  char.toNat.toUInt16

/-- Only the unit of a character reads as that character, unless it is NUL. -/
theorem eq_ofChar_of_toChar {unit : CodeUnit} {char : Char} (notNul : char ≠ '\x00')
    (isChar : unit.toChar = char) : unit = ofChar char := by
  subst isChar
  by_cases isValid : unit.toNat.isValidChar
  · have valid : unit.toChar = Char.ofNatAux unit.toNat isValid := dif_pos isValid
    rw [← UInt16.toNat_inj, valid]
    exact (UInt16.toNat_ofNat_of_lt unit.toNat_lt).symm
  · have invalid : unit.toChar = '\x00' := dif_neg isValid
    exact absurd invalid notNul

def isDigit (unit : CodeUnit) : Bool :=
  unit.toChar.isDigit

def isLetter (unit : CodeUnit) : Bool :=
  unit.toChar.isAlpha

def isHexDigit (unit : CodeUnit) : Bool :=
  let char := unit.toChar
  char.isDigit || ('a' ≤ char && char ≤ 'f') || ('A' ≤ char && char ≤ 'F')

end CodeUnit

/-! ## Code points -/

namespace CodePoint

def isHighSurrogate (point : Nat) : Bool :=
  0xD800 ≤ point && point ≤ 0xDBFF

def isLowSurrogate (point : Nat) : Bool :=
  0xDC00 ≤ point && point ≤ 0xDFFF

/-- The largest code point. -/
def last : Nat := 0x10FFFF

/-- The code point of a high and a low surrogate. -/
def ofPair (high low : Nat) : Nat :=
  0x10000 + (high - 0xD800) * 0x400 + (low - 0xDC00)

/-- The units of a code point: a pair above the basic plane, one unit within
it. -/
def units (point : Nat) : Text :=
  if point < 0x10000 then
    [point.toUInt16]
  else
    [(0xD800 + (point - 0x10000) / 0x400).toUInt16,
      (0xDC00 + (point - 0x10000) % 0x400).toUInt16]

/-- How many units a code point takes. -/
def unitLength (point : Nat) : Nat :=
  if point < 0x10000 then 1 else 2

end CodePoint

namespace Text

/-- The units of a string. -/
def ofString (string : String) : Text :=
  string.toList.flatMap fun char => CodePoint.units char.toNat

/-- The units of a list of code points. -/
def ofPoints (points : List Nat) : Text :=
  points.flatMap CodePoint.units

/-- The decimal digits of a number. -/
def ofNat (number : Nat) : Text :=
  ofString (toString number)

/-- The decimal digits of a number, after a minus sign when it is negative. -/
def ofInt (number : Int) : Text :=
  ofString (toString number)

/-- Whether the text starts with a surrogate pair. -/
def startsWithPair : Text → Bool
  | high :: low :: _ => high.isHighSurrogate && low.isLowSurrogate
  | _ => false

/-- Whether units `index` and `index + 1` form one surrogate pair. -/
def isPairAt (text : Text) (index : Nat) : Bool :=
  startsWithPair (text.drop index)

/-- The code points of the text.  A surrogate outside a pair stands for
itself. -/
def points : Text → List Nat
  | [] => []
  | [unit] => [unit.toNat]
  | high :: low :: rest =>
      if high.isHighSurrogate && low.isLowSurrogate then
        CodePoint.ofPair high.toNat low.toNat :: points rest
      else
        high.toNat :: points (low :: rest)

/-- How many units the first code point takes; zero at the end. -/
def firstPointLength : Text → Nat
  | [] => 0
  | text => if startsWithPair text then 2 else 1

@[simp]
theorem firstPointLength_nil : firstPointLength [] = 0 :=
  rfl

/-! ## Slices -/

/-- The place of an offset in text of the given length: negative offsets count
from the end, and every offset is moved into the text. -/
def clampOffset (length : Nat) (offset : Int) : Nat :=
  if offset < 0 then (length + offset).toNat else min offset.toNat length

/-- The units from `start` up to `stop`; negative offsets count from the end,
and nothing is left when `stop` comes first. -/
def slice (text : Text) (start stop : Int) : Text :=
  let first := clampOffset text.length start
  let last := clampOffset text.length stop
  (text.take last).drop first

/-- The units from `start` to the end. -/
def sliceFrom (text : Text) (start : Int) : Text :=
  text.drop (clampOffset text.length start)

/-! ## Reading from the front -/

/-- What follows `lead`, when the text starts with it. -/
def dropPrefix? (lead text : Text) : Option Text :=
  if lead.isPrefixOf text then some (text.drop lead.length) else none

/-- An optional `lead` in front of the text, and the rest. -/
def splitPrefix (lead text : Text) : Text × Text :=
  match dropPrefix? lead text with
  | some rest => (lead, rest)
  | none => ([], text)

/-- The text before and after the first occurrence of `separator`. -/
def cut? (separator : Text) : Text → Option (Text × Text)
  | [] => if separator.isEmpty then some ([], []) else none
  | unit :: rest =>
      if separator.isPrefixOf (unit :: rest) then
        some ([], (unit :: rest).drop separator.length)
      else
        (cut? separator rest).map fun (before, after) => (unit :: before, after)

/-- The value of a run of decimal digits. -/
def decimalValue (digits : Text) : Nat :=
  digits.foldl (fun value digit => value * 10 + (digit.toNat - 48)) 0

/-- The value of a hexadecimal digit. -/
def hexDigitValue (unit : CodeUnit) : Nat :=
  let char := unit.toChar
  if char.isDigit then char.toNat - 48
  else if 'a' ≤ char then char.toNat - 87
  else char.toNat - 55

/-- The value of a run of hexadecimal digits. -/
def hexValue (digits : Text) : Nat :=
  digits.foldl (fun value digit => value * 16 + hexDigitValue digit) 0

/-- Two hexadecimal digits at least, in lower case. -/
def ofHexByte (value : Nat) : Text :=
  let digits := (Nat.toDigits 16 value)
  ofString (String.ofList (List.replicate (2 - digits.length) '0' ++ digits))

/-- Letter or underscore. -/
def isNameStart (unit : CodeUnit) : Bool :=
  unit.isLetter || unit.toChar == '_'

/-- Letter, digit or underscore. -/
def isNameUnit (unit : CodeUnit) : Bool :=
  isNameStart unit || unit.isDigit

/-- Whether the text is a group name: letters, digits and underscores, with no
digit in front. -/
def isName : Text → Bool
  | [] => false
  | first :: rest => isNameStart first && rest.all isNameUnit

/-! ## Lemmas on reading -/

theorem length_of_dropPrefix? {lead text rest : Text}
    (dropped : dropPrefix? lead text = some rest) :
    text.length = lead.length + rest.length := by
  unfold dropPrefix? at dropped
  split at dropped
  · next starts =>
      obtain ⟨tail, rfl⟩ := List.isPrefixOf_iff_prefix.mp starts
      simp only [List.drop_left, Option.some.injEq] at dropped
      simp [dropped]
  · contradiction

theorem length_splitPrefix_le (lead text : Text) :
    (splitPrefix lead text).2.length ≤ text.length := by
  unfold splitPrefix
  split
  · next dropped =>
      have lengths := length_of_dropPrefix? dropped
      simp only
      omega
  · exact Nat.le_refl _

theorem length_of_cut? {separator text before after : Text}
    (found : cut? separator text = some (before, after)) :
    text.length = before.length + separator.length + after.length := by
  induction text generalizing before with
  | nil =>
      unfold cut? at found
      split at found <;> simp_all
  | cons unit rest ih =>
      unfold cut? at found
      split at found
      · next starts =>
          obtain ⟨tail, equal⟩ := List.isPrefixOf_iff_prefix.mp starts
          simp only [← equal, List.drop_left, Option.some.injEq, Prod.mk.injEq] at found
          obtain ⟨rfl, rfl⟩ := found
          have lengths := congrArg List.length equal
          simp only [List.length_append] at lengths
          simp only [List.length_nil, Nat.zero_add]
          omega
      · cases inner : cut? separator rest with
        | none => simp [inner] at found
        | some halves =>
            simp only [inner, Option.map_some, Option.some.injEq, Prod.mk.injEq] at found
            obtain ⟨rfl, rfl⟩ := found
            have lengths := ih inner
            simp only [List.length_cons]
            omega

end Text

end RegexMatching
