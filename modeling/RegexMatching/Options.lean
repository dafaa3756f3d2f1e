/-!
# Options of compile and match calls

Options travel to an engine as one number with a bit for each option.  A number
with any other bit set names no set of options.
-/

namespace RegexMatching

/-- The bit of an option that is on. -/
def optionBit (isOn : Bool) (bit : Nat) : Nat :=
  if isOn then bit else 0

/-- The bits of an option number, taken as a 32-bit word. -/
def optionWord (bits : Int) : Nat :=
  (bits % 4294967296).toNat

/-! ## Compiling -/

/-- How a pattern is compiled. -/
structure CompileOptions where
  caseless : Bool := false
  dotAll : Bool := false
  multiline : Bool := false
  literal : Bool := false
  /-- Blanks and comments in the pattern are skipped. -/
  extended : Bool := false
  /-- Unicode properties decide what a word, digit or space character is. -/
  unicodeClasses : Bool := false
  /-- A match has to start where the search starts. -/
  anchored : Bool := false
  /-- A match has to reach the end of the subject. -/
  endAnchored : Bool := false
  /-- Only a line feed ends a line. -/
  newlineLf : Bool := false
deriving DecidableEq, Repr

namespace CompileOptions

/-- The options as a number. -/
def toBits (options : CompileOptions) : Nat :=
  optionBit options.caseless 0x1 + optionBit options.dotAll 0x2 +
    optionBit options.multiline 0x4 + optionBit options.literal 0x8 +
    optionBit options.extended 0x10 + optionBit options.unicodeClasses 0x20 +
    optionBit options.anchored 0x40 + optionBit options.endAnchored 0x80 +
    optionBit options.newlineLf 0x100

/-- The options a number stands for, unless it has other bits. -/
def ofBits? (bits : Int) : Option CompileOptions :=
  let word := optionWord bits
  if word < 0x200 then
    some {
      caseless := word.testBit 0
      dotAll := word.testBit 1
      multiline := word.testBit 2
      literal := word.testBit 3
      extended := word.testBit 4
      unicodeClasses := word.testBit 5
      anchored := word.testBit 6
      endAnchored := word.testBit 7
      newlineLf := word.testBit 8 }
  else
    none

end CompileOptions

/-! ## Matching -/

/-- What one match call asks for. -/
structure MatchOptions where
  anchored : Bool := false
  endAnchored : Bool := false
  /-- The start of the subject does not begin a line. -/
  notBol : Bool := false
  /-- The end of the subject does not end a line. -/
  notEol : Bool := false
  /-- Report a match that only lacks more input. -/
  partialSoft : Bool := false
deriving DecidableEq, Repr

namespace MatchOptions

/-- The options as a number. -/
def toBits (options : MatchOptions) : Nat :=
  optionBit options.anchored 0x1 + optionBit options.endAnchored 0x2 +
    optionBit options.notBol 0x4 + optionBit options.notEol 0x8 +
    optionBit options.partialSoft 0x10

/-- The options a number stands for, unless it has other bits. -/
def ofBits? (bits : Int) : Option MatchOptions :=
  let word := optionWord bits
  if word < 0x20 then
    some {
      anchored := word.testBit 0
      endAnchored := word.testBit 1
      notBol := word.testBit 2
      notEol := word.testBit 3
      partialSoft := word.testBit 4 }
  else
    none

end MatchOptions

end RegexMatching
