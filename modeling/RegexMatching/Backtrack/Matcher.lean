import RegexMatching.Backtrack.Node
import RegexMatching.Text.Points

/-!
# Backtracking matching

Matching a node is given by what follows it: a *continuation* says whether the
rest of the expression matches from where the node ended.  Alternatives are
tried in order, and the first one from which the whole expression matches counts.
A lookbehind is matched from right to left.
-/

namespace RegexMatching.Backtrack

open RegexMatching.Unicode

/-- A position between code points, and what the groups have captured. -/
structure Place where
  position : Nat
  captures : Array (Option (Nat × Nat))
deriving Repr

/-- What follows a node. -/
abbrev Continuation := Place → Option Place

/-- A node's part in a match. -/
abbrev Action := Place → Continuation → Option Place

/-- What is matched, and how. -/
structure Subject where
  points : Array Nat
  caseless : Bool

namespace Subject

/-- Whether two code points count as the same. -/
def same (subject : Subject) (first second : Nat) : Bool :=
  if subject.caseless then fold first == fold second else first == second

/-- Whether a word character stands before a position. -/
def isWordBefore (subject : Subject) (position : Nat) : Bool :=
  0 < position &&
    (subject.points[position - 1]?.map (isWord subject.caseless)).getD false

/-- Whether a word character stands at a position. -/
def isWordAt (subject : Subject) (position : Nat) : Bool :=
  (subject.points[position]?.map (isWord subject.caseless)).getD false

/-- Whether the code points from two positions agree over a length. -/
def agrees (subject : Subject) (first second : Nat) : Nat → Bool
  | 0 => true
  | length + 1 =>
      (match subject.points[first]?, subject.points[second]? with
        | some left, some right => subject.same left right
        | _, _ => false) &&
        subject.agrees (first + 1) (second + 1) length

/-- The position after moving over one code point that passes a test. -/
def stepOver? (subject : Subject) (isForward : Bool) (test : Nat → Bool)
    (position : Nat) : Option Nat :=
  if isForward then
    match subject.points[position]? with
    | some point => if test point then some (position + 1) else none
    | none => none
  else if position = 0 then
    none
  else
    match subject.points[position - 1]? with
    | some point => if test point then some (position - 1) else none
    | none => none

/-- The position after moving over the text between two positions once more. -/
def stepOverAgain? (subject : Subject) (isForward : Bool) (start stop position : Nat) :
    Option Nat :=
  let length := stop - start
  if isForward then
    if position + length ≤ subject.points.size &&
        subject.agrees start position length then
      some (position + length)
    else
      none
  else if length ≤ position && subject.agrees start (position - length) length then
    some (position - length)
  else
    none

end Subject

/-- Forget what the groups of a repetition's body captured. -/
def clearCaptures (captures : Array (Option (Nat × Nat)))
    (capturesBefore captureCount : Nat) : Array (Option (Nat × Nat)) :=
  (List.range captureCount).foldl
    (fun captures offset => captures.setIfInBounds (capturesBefore + offset) none)
    captures

/-- What is left of an upper bound after one round. -/
def roundsLeft (most : Option Nat) : Option Nat :=
  most.map (· - 1)

/-- Rounds of a body.  A round that is not required and consumes nothing fails.
There are at most `fuel` rounds. -/
def repeatBody (body : Action) (isGreedy : Bool)
    (clear : Array (Option (Nat × Nat)) → Array (Option (Nat × Nat))) :
    Nat → Nat → Option Nat → Action
  | 0, _, _, _, _ => none
  | fuel + 1, least, most, place, next =>
      if most = some 0 then
        next place
      else
        let round (_ : Unit) : Option Place :=
          body { place with captures := clear place.captures } fun after =>
            if least = 0 && after.position = place.position then none
            else
              repeatBody body isGreedy clear fuel (least - 1) (roundsLeft most)
                after next
        if 0 < least then round ()
        else if isGreedy then (round ()).orElse fun _ => next place
        else (next place).orElse round

/-- The part of a node in a match, from left to right or from right to left. -/
def Node.run (subject : Subject) : Node → Bool → Action
  | .empty, _, place, next => next place
  | .set charClass, isForward, place, next =>
      match subject.stepOver? isForward (charClass.contains subject.caseless)
          place.position with
      | some position => next { place with position }
      | none => none
  | .sequence first second, isForward, place, next =>
      if isForward then
        first.run subject isForward place fun middle =>
          second.run subject isForward middle next
      else
        second.run subject isForward place fun middle =>
          first.run subject isForward middle next
  | .either first second, isForward, place, next =>
      (first.run subject isForward place next).orElse fun _ =>
        second.run subject isForward place next
  | .capture group body, isForward, place, next =>
      body.run subject isForward place fun after =>
        let span :=
          if isForward then (place.position, after.position)
          else (after.position, place.position)
        next { after with
          captures := after.captures.setIfInBounds (group - 1) (some span) }
  | .reference group, isForward, place, next =>
      match (place.captures[group - 1]?).join with
      | none => next place
      | some (start, stop) =>
          match subject.stepOverAgain? isForward start stop place.position with
          | some position => next { place with position }
          | none => none
  | .subjectStart, _, place, next =>
      if place.position = 0 then next place else none
  | .subjectEnd, _, place, next =>
      if place.position = subject.points.size then next place else none
  | .wordBoundary isNegated, _, place, next =>
      let isEdge :=
        subject.isWordBefore place.position != subject.isWordAt place.position
      if isEdge != isNegated then next place else none
  | .look isAhead isNegated body, _, place, next =>
      match body.run subject isAhead place some with
      | some found =>
          if isNegated then none
          else next { place with captures := found.captures }
      | none => if isNegated then next place else none
  | .repetition body least most isGreedy capturesBefore captureCount, isForward,
      place, next =>
      repeatBody (body.run subject isForward) isGreedy
        (fun captures => clearCaptures captures capturesBefore captureCount)
        (least + subject.points.size + 2) least most place next

/-! ## One node -/

namespace Node

variable (subject : Subject) (isForward : Bool) (place : Place) (next : Continuation)

theorem run_empty : empty.run subject isForward place next = next place :=
  rfl

theorem run_set (charClass : CharClass) :
    (set charClass).run subject isForward place next =
      match subject.stepOver? isForward (charClass.contains subject.caseless) place.position with
      | some position => next { place with position }
      | none => none :=
  rfl

theorem run_sequence (first second : Node) :
    (sequence first second).run subject isForward place next =
      if isForward then
        first.run subject isForward place fun middle => second.run subject isForward middle next
      else
        second.run subject isForward place fun middle => first.run subject isForward middle next :=
  rfl

theorem run_either (first second : Node) :
    (either first second).run subject isForward place next =
      (first.run subject isForward place next).orElse fun _ =>
        second.run subject isForward place next :=
  rfl

theorem run_reference (group : Nat) :
    (reference group).run subject isForward place next =
      match (place.captures[group - 1]?).join with
      | none => next place
      | some (start, stop) =>
          match subject.stepOverAgain? isForward start stop place.position with
          | some position => next { place with position }
          | none => none :=
  rfl

theorem run_look (isAhead isNegated : Bool) (body : Node) :
    (look isAhead isNegated body).run subject isForward place next =
      match body.run subject isAhead place some with
      | some found =>
          if isNegated then none else next { place with captures := found.captures }
      | none => if isNegated then next place else none :=
  rfl

theorem run_repetition (body : Node) (least : Nat) (most : Option Nat) (isGreedy : Bool)
    (capturesBefore captureCount : Nat) :
    (repetition body least most isGreedy capturesBefore captureCount).run subject isForward place
        next =
      repeatBody (body.run subject isForward) isGreedy
        (fun captures => clearCaptures captures capturesBefore captureCount)
        (least + subject.points.size + 2) least most place next :=
  rfl

end Node

/-! ## Searching -/

namespace Regex

/-- Match an expression at one position. -/
def matchAt (regex : Regex) (points : Array Nat) (start : Nat) : Option PointSpans :=
  let place : Place := ⟨start, Array.replicate regex.captureCount none⟩
  (regex.node.run ⟨points, regex.caseless⟩ true place some).map fun final =>
    some (start, final.position) :: final.captures.toList

/-- The first match at one of `count` positions from `start` on. -/
def firstMatch (regex : Regex) (points : Array Nat) (start : Nat) :
    Nat → Option PointSpans
  | 0 => none
  | count + 1 =>
      (regex.matchAt points start).orElse fun _ =>
        regex.firstMatch points (start + 1) count

/-- Match at a position only, or search from there to the end. -/
def exec (regex : Regex) (isSticky : Bool) (points : Array Nat) (start : Nat) :
    Option PointSpans :=
  if isSticky then regex.matchAt points start
  else regex.firstMatch points start (points.size + 1 - start)

end Regex

end RegexMatching.Backtrack
