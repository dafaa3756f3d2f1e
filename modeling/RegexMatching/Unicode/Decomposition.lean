import RegexMatching.Unicode.DecompositionTable
import RegexMatching.Unicode.Runs

/-!
# Canonical decomposition

A code point is replaced by its full canonical decomposition, and neighbouring
marks are put in the order of their combining classes.  Hangul syllables are
decomposed by arithmetic.
-/

namespace RegexMatching.Unicode

/-- The table of decompositions. -/
def decompositionRuns : Array (Run (List Nat)) :=
  readRuns (fun points => (splitChars '+' points).map hexNumber)
    decompositionLines

/-- The table of combining classes. -/
def combiningRuns : Array (Run Nat) :=
  readRuns decimalNumber combiningLines

/-- The canonical combining class of a code point. -/
def combiningClass (point : Nat) : Nat :=
  (lookup? combiningRuns point).getD 0

/-- The conjoining parts of a Hangul syllable. -/
def hangulParts (point : Nat) : List Nat :=
  let index := point - 0xAC00
  let final := index % 28
  [0x1100 + index / 588, 0x1161 + index % 588 / 28] ++
    if final = 0 then [] else [0x11A7 + final]

/-- The full canonical decomposition of a code point. -/
def decompose (point : Nat) : List Nat :=
  if 0xAC00 ≤ point && point ≤ 0xD7A3 then hangulParts point
  else (lookup? decompositionRuns point).getD [point]

/-! ## Canonical order -/

/-- Put a code point in front of ordered ones: it moves behind the marks that
follow as long as they have a lower class, unless it is no mark itself. -/
def insertOrdered (point : Nat) : List Nat → List Nat
  | [] => [point]
  | next :: rest =>
      let nextClass := combiningClass next
      if 0 < nextClass && nextClass < combiningClass point then
        next :: insertOrdered point rest
      else
        point :: next :: rest

/-- The canonical decomposition of a sequence of code points. -/
def canonicalDecomposition (points : List Nat) : List Nat :=
  (points.flatMap decompose).foldr insertOrdered []

end RegexMatching.Unicode
