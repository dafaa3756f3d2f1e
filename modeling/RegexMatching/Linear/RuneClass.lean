import RegexMatching.Unicode.Folding
import RegexMatching.Unicode.Property

/-!
# Character classes of the linear-time matcher

Here every item of a class is closed under case folding before it is negated,
and only then are the items put together.
-/

namespace RegexMatching.Linear

open RegexMatching.Unicode

/-- Ranges of code points, each with its first and last one. -/
abbrev Ranges := List (Nat × Nat)

/-- An item of a class. -/
inductive RuneItem where
  | ranges (ranges : Ranges) (isNegated : Bool)
  | property (property : Property) (isNegated : Bool)
deriving DecidableEq, Repr

/-- A character class. -/
structure RuneClass where
  isNegated : Bool
  caseless : Bool
  items : List RuneItem
deriving DecidableEq, Repr

/-- Whether a code point lies in one of several ranges. -/
def inRanges (ranges : Ranges) (point : Nat) : Bool :=
  ranges.any fun (first, last) => first ≤ point && point ≤ last

/-- Whether a test accepts a code point or, without regard to case, one that
differs from it in case only. -/
def acceptsFolded (caseless : Bool) (test : Nat → Bool) (point : Nat) : Bool :=
  if caseless then (caseOrbit point).any test else test point

namespace RuneItem

/-- The item of one code point. -/
def ofPoint (point : Nat) : RuneItem :=
  .ranges [(point, point)] false

/-- Whether an item holds a code point. -/
def contains (caseless : Bool) : RuneItem → Nat → Bool
  | .ranges given isNegated, point =>
      acceptsFolded caseless (inRanges given) point != isNegated
  | .property wanted isNegated, point =>
      acceptsFolded caseless wanted.holds point != isNegated

end RuneItem

namespace RuneClass

/-- Whether a class holds a code point. -/
def contains (runeClass : RuneClass) (point : Nat) : Bool :=
  (runeClass.items.any fun item => item.contains runeClass.caseless point) !=
    runeClass.isNegated

/-- Every code point. -/
def any : RuneClass :=
  ⟨true, false, []⟩

/-- Every code point but the line feed. -/
def anyButLineFeed : RuneClass :=
  ⟨true, false, [.ofPoint 0xA]⟩

end RuneClass

/-! ## Sets with names -/

def digits : Ranges := [(0x30, 0x39)]

def wordRanges : Ranges := [(0x30, 0x39), (0x41, 0x5A), (0x5F, 0x5F), (0x61, 0x7A)]

/-- The set of a shorthand letter. -/
def shorthandItem? (letter : Char) : Option RuneItem :=
  match letter with
  | 'd' => some (.ranges digits false)
  | 'D' => some (.ranges digits true)
  | 'w' => some (.ranges wordRanges false)
  | 'W' => some (.ranges wordRanges true)
  | 's' => some (.ranges [(0x9, 0xA), (0xC, 0xD), (0x20, 0x20)] false)
  | 'S' => some (.ranges [(0x9, 0xA), (0xC, 0xD), (0x20, 0x20)] true)
  | _ => none

/-- The ranges of a set that is named between colons. -/
def namedRanges? (name : String) : Option Ranges :=
  match name with
  | "alnum" => some [(0x30, 0x39), (0x41, 0x5A), (0x61, 0x7A)]
  | "alpha" => some [(0x41, 0x5A), (0x61, 0x7A)]
  | "ascii" => some [(0x0, 0x7F)]
  | "blank" => some [(0x9, 0x9), (0x20, 0x20)]
  | "cntrl" => some [(0x0, 0x1F), (0x7F, 0x7F)]
  | "digit" => some digits
  | "graph" => some [(0x21, 0x7E)]
  | "lower" => some [(0x61, 0x7A)]
  | "print" => some [(0x20, 0x7E)]
  | "punct" => some [(0x21, 0x2F), (0x3A, 0x40), (0x5B, 0x60), (0x7B, 0x7E)]
  | "space" => some [(0x9, 0xD), (0x20, 0x20)]
  | "upper" => some [(0x41, 0x5A)]
  | "word" => some wordRanges
  | "xdigit" => some [(0x30, 0x39), (0x41, 0x46), (0x61, 0x66)]
  | _ => none

/-- The categories that may be named, by their short names only.  The unassigned
code points are in none of them. -/
def categoriesOf? (name : String) : Option (List Category) :=
  if name == "LC" || name == "Cn" then
    none
  else
    let short (names : List String) : Bool := names.head? == some name
    match Category.names.find? fun entry => short entry.2 with
    | some entry => some [entry.1]
    | none =>
        (Category.unions.find? fun entry => short entry.2).map fun entry =>
          entry.1.filter (· != .cn)

/-- The script of a long name. -/
def scriptOf? (name : String) : Option Property :=
  (scriptNames.find? fun names =>
      names[1]?.getD (names.headD "") == name && name != "Unknown").map fun names =>
    .script (names.headD "")

/-- The property of a name. -/
def propertyOf? (name : String) : Option Property :=
  if name == "Any" then
    some .any
  else
    ((categoriesOf? name).map Property.categoryIn).or (scriptOf? name)

end RegexMatching.Linear
