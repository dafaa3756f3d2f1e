import RegexMatching.Backtrack.CharClass

/-!
# Expressions of the backtracking matcher

An expression is a tree.  A repetition knows which groups its body captures,
because every round starts without them.
-/

namespace RegexMatching.Backtrack

/-- An expression. -/
inductive Node where
  | empty
  /-- One code point of a class. -/
  | set (charClass : CharClass)
  | sequence (first second : Node)
  | either (first second : Node)
  /-- A capturing group. -/
  | capture (group : Nat) (body : Node)
  /-- What a group captured, once more. -/
  | reference (group : Nat)
  | subjectStart
  | subjectEnd
  /-- A boundary of a word, or the lack of one. -/
  | wordBoundary (isNegated : Bool)
  /-- A look ahead or behind that consumes nothing. -/
  | look (isAhead isNegated : Bool) (body : Node)
  /-- At least `least` and at most `most` rounds of a body that captures the
  `captureCount` groups after group `capturesBefore`. -/
  | repetition (body : Node) (least : Nat) (most : Option Nat) (isGreedy : Bool)
      (capturesBefore captureCount : Nat)
deriving DecidableEq, Repr

namespace Node

/-- A sequence of expressions. -/
def ofSequence : List Node → Node
  | [] => empty
  | [only] => only
  | first :: rest => sequence first (ofSequence rest)

/-- A choice between expressions, the first one coming first. -/
def ofAlternatives : List Node → Node
  | [] => empty
  | [only] => only
  | first :: rest => either first (ofAlternatives rest)

end Node

/-- A whole expression with its capturing groups. -/
structure Regex where
  node : Node
  captureCount : Nat
  caseless : Bool
deriving DecidableEq, Repr

end RegexMatching.Backtrack
