import RegexMatching.Unicode.Folding
import RegexMatching.Unicode.Property

/-!
# Character classes of the backtracking matcher

A class is a list of items, possibly negated.  Without regard to case a class
holds a code point when some item holds a code point that differs from it in
case at most; negation comes last.
-/

namespace RegexMatching.Backtrack

open RegexMatching.Unicode

/-- A set with an escape of its own. -/
inductive Shorthand where
  | digit
  | word
  | space
deriving DecidableEq, Repr

/-- An item of a class. -/
inductive ClassItem where
  | range (first last : Nat)
  | shorthand (set : Shorthand) (isNegated : Bool)
  | property (property : Property) (isNegated : Bool)
deriving DecidableEq, Repr

/-- A character class. -/
structure CharClass where
  isNegated : Bool
  items : List ClassItem
deriving DecidableEq, Repr

/-- An ASCII letter, digit or underscore. -/
def isAsciiWord (point : Nat) : Bool :=
  (0x30 ≤ point && point ≤ 0x39) || (0x41 ≤ point && point ≤ 0x5A) ||
    point == 0x5F || (0x61 ≤ point && point ≤ 0x7A)

/-- A word character; without regard to case also a code point that folds to
one. -/
def isWord (caseless : Bool) (point : Nat) : Bool :=
  isAsciiWord point || (caseless && isAsciiWord (fold point))

/-- White space and line terminators. -/
def isSpace (point : Nat) : Bool :=
  (0x9 ≤ point && point ≤ 0xD) || point == 0x20 || point == 0xA0 ||
    point == 0xFEFF || point == 0x2028 || point == 0x2029 ||
    category point == .zs

namespace Shorthand

/-- Whether a set holds a code point. -/
def contains (caseless : Bool) : Shorthand → Nat → Bool
  | digit, point => 0x30 ≤ point && point ≤ 0x39
  | word, point => isWord caseless point
  | space, point => isSpace point

end Shorthand

namespace ClassItem

/-- Whether an item holds a code point as it stands. -/
def contains (caseless : Bool) : ClassItem → Nat → Bool
  | range first last, point => first ≤ point && point ≤ last
  | shorthand set isNegated, point => set.contains caseless point != isNegated
  | property wanted isNegated, point => wanted.holds point != isNegated

end ClassItem

namespace CharClass

/-- A class of one code point. -/
def ofPoint (point : Nat) : CharClass :=
  ⟨false, [.range point point]⟩

/-- A class of one item. -/
def ofItem (item : ClassItem) : CharClass :=
  ⟨false, [item]⟩

/-- What the matcher's own dot holds. -/
def dot : CharClass :=
  ⟨true, [.range 0xA 0xA, .range 0xD 0xD, .range 0x2028 0x2029]⟩

/-- Whether some item holds a code point as it stands. -/
def holds (caseless : Bool) (charClass : CharClass) (point : Nat) : Bool :=
  charClass.items.any fun item => item.contains caseless point

/-- Whether the class matches a code point. -/
def contains (caseless : Bool) (charClass : CharClass) (point : Nat) : Bool :=
  let hit :=
    if caseless then (caseOrbit point).any (charClass.holds caseless)
    else charClass.holds caseless point
  hit != charClass.isNegated

end CharClass

end RegexMatching.Backtrack
