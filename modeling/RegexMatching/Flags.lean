import RegexMatching.Fault
import RegexMatching.Options

/-!
# Pattern flags

A caller chooses how a pattern is read by a number with one bit for each flag.
The bit values are part of the public interface and never change.
-/

namespace RegexMatching

/-- The flags of a pattern. -/
structure Flags where
  /-- Only a line feed ends a line. -/
  unixLines : Bool := false
  caseInsensitive : Bool := false
  /-- Blanks and comments in the pattern are skipped. -/
  comments : Bool := false
  multiline : Bool := false
  /-- The pattern stands for its own text. -/
  literal : Bool := false
  dotAll : Bool := false
  /-- Accepted without effect: case folding always follows Unicode. -/
  unicodeCase : Bool := false
  /-- Pattern and subject are compared in canonical decomposition. -/
  canonicalEquivalence : Bool := false
  unicodeClasses : Bool := false
deriving DecidableEq, Repr

namespace Flags

/-- The flags of a word, whose other bits are ignored. -/
def ofWord (word : Nat) : Flags where
  unixLines := word.testBit 0
  caseInsensitive := word.testBit 1
  comments := word.testBit 2
  multiline := word.testBit 3
  literal := word.testBit 4
  dotAll := word.testBit 5
  unicodeCase := word.testBit 6
  canonicalEquivalence := word.testBit 7
  unicodeClasses := word.testBit 8

/-- The flags a number stands for: an integer whose lowest 32 bits set no other
bit. -/
def ofNumber (number : Number) : Except Fault Flags :=
  let word := number.toBits.toNat
  if number.isInteger && word < 0x200 then .ok (ofWord word)
  else .error (.unknownFlags number)

/-- The compile options that carry the flags out. -/
def compileOptions (flags : Flags) : CompileOptions where
  caseless := flags.caseInsensitive
  dotAll := flags.dotAll
  multiline := flags.multiline
  literal := flags.literal
  extended := flags.comments
  unicodeClasses := flags.unicodeClasses
  newlineLf := flags.unixLines

end Flags

end RegexMatching
