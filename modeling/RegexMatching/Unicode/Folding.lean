import RegexMatching.Unicode.FoldingTable
import RegexMatching.Unicode.Runs

/-!
# Simple case folding

Code points that differ in case only fold to the same code point.  The orbit of
a code point is the set of all code points with its folding.
-/

namespace RegexMatching.Unicode

/-- A signed distance in hexadecimal. -/
def readDistance : List Char → Int
  | '-' :: digits => -(hexNumber digits : Int)
  | '+' :: digits => hexNumber digits
  | _ => 0

/-- The table of foldings. -/
def foldingRuns : Array (Run Int) :=
  readRuns readDistance foldingLines

/-- A code point moved by a distance, if there is one. -/
def movedBy (point : Nat) : Option Int → Nat
  | some distance => (point + distance : Int).toNat
  | none => point

/-- What a code point folds to. -/
def fold (point : Nat) : Nat :=
  movedBy point (lookup? foldingRuns point)

/-- The code points that fold to the given one, itself apart. -/
def foldingSources (folded : Nat) : List Nat :=
  foldingRuns.toList.filterMap fun run =>
    let source := (folded - run.value : Int).toNat
    if run.contains source then some source else none

/-- All code points that differ from the given one in case at most. -/
def caseOrbit (point : Nat) : List Nat :=
  let folded := fold point
  folded :: foldingSources folded

end RegexMatching.Unicode
