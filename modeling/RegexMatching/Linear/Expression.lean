import RegexMatching.Linear.RuneClass

/-!
# Expressions of the linear-time matcher

Counted repetitions are unfolded before an expression is made into a program, so
their counts are bounded, nested ones by the product of their counts.
-/

namespace RegexMatching.Linear

/-- A test of a position. -/
inductive Assertion where
  | textStart
  | textEnd
  | lineStart
  | lineEnd
  | wordBoundary (isNegated : Bool)
deriving DecidableEq, Repr

/-- How often the body of a repetition matches. -/
inductive Count where
  | any
  | some
  | optional
  /-- At least `least` times, and at most `most` times if that is given. -/
  | counted (least : Nat) (most : Option Nat)
deriving DecidableEq, Repr

/-- An expression. -/
inductive Expression where
  | empty
  | set (runeClass : RuneClass)
  | assertion (assertion : Assertion)
  | capture (group : Nat) (body : Expression)
  | sequence (first second : Expression)
  | either (first second : Expression)
  | repetition (body : Expression) (count : Count) (isGreedy : Bool)
deriving DecidableEq, Repr

namespace Expression

/-- A sequence of expressions. -/
def ofSequence : List Expression → Expression
  | [] => empty
  | [only] => only
  | first :: rest => sequence first (ofSequence rest)

/-- A choice between expressions, the first one coming first. -/
def ofAlternatives : List Expression → Expression
  | [] => empty
  | [only] => only
  | first :: rest => either first (ofAlternatives rest)

/-- Whether counted repetitions write out no body more than `limit` times. -/
def fitsInto (limit : Nat) : Expression → Bool
  | empty | set _ | assertion _ => true
  | capture _ body => body.fitsInto limit
  | sequence first second => first.fitsInto limit && second.fitsInto limit
  | either first second => first.fitsInto limit && second.fitsInto limit
  | repetition body count _ =>
      match count with
      | .counted _ (.some 0) => true
      | .counted least most =>
          let copies := most.getD least
          copies ≤ limit && body.fitsInto (limit / max copies 1)
      | _ => body.fitsInto limit

/-- Whether an expression can match the empty text. -/
def isNullable : Expression → Bool
  | empty | assertion _ => true
  | set _ => false
  | capture _ body => body.isNullable
  | sequence first second => first.isNullable && second.isNullable
  | either first second => first.isNullable || second.isNullable
  | repetition body count _ =>
      match count with
      | .any | .optional => true
      | .some => body.isNullable
      | .counted least _ => least = 0 || body.isNullable

/-! ## Unfolding counts -/

/-- A repetition without a count; repeating a repetition of the same kind, or
nothing, changes nothing. -/
def repeated (body : Expression) (count : Count) (isGreedy : Bool) : Expression :=
  match body with
  | empty => empty
  | repetition _ inner innerGreedy =>
      if inner = count && innerGreedy = isGreedy then body
      else repetition body count isGreedy
  | _ => repetition body count isGreedy

/-- Up to `count + 1` copies of a body, each only behind the one before. -/
def nestedOptional (body : Expression) (isGreedy : Bool) : Nat → Expression
  | 0 => repeated body .optional isGreedy
  | count + 1 =>
      repeated (sequence body (nestedOptional body isGreedy count)) .optional isGreedy

/-- A counted repetition written out. -/
def unfoldCount (body : Expression) (isGreedy : Bool) (least : Nat) :
    Option Nat → Expression
  | none =>
      match least with
      | 0 => repeated body .any isGreedy
      | more + 1 =>
          ofSequence (List.replicate more body ++ [repeated body .some isGreedy])
  | some most =>
      let required := List.replicate least body
      if most ≤ least then ofSequence required
      else
        ofSequence (required ++ [nestedOptional body isGreedy (most - least - 1)])

/-- An expression without counted repetitions. -/
def unfold : Expression → Expression
  | empty => empty
  | set runeClass => set runeClass
  | assertion test => assertion test
  | capture group body => capture group body.unfold
  | sequence first second => sequence first.unfold second.unfold
  | either first second => either first.unfold second.unfold
  | repetition body (.counted least most) isGreedy =>
      unfoldCount body.unfold isGreedy least most
  | repetition body count isGreedy => repeated body.unfold count isGreedy

end Expression

/-- A whole expression with its groups. -/
structure Regex where
  expression : Expression
  captureCount : Nat
  /-- Names of groups, as code points, with their groups. -/
  names : List (List Nat × Nat)
deriving Repr

end RegexMatching.Linear
