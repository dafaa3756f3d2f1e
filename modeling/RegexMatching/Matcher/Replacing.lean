import RegexMatching.Matcher
import RegexMatching.Template

/-!
# Replacing matches

Replaced text is appended piece by piece: what lies between the append position
and a match as it is, then the expansion of a template against the match.
-/

namespace RegexMatching

/-- How many matches one operation looks at, at most.  It is more than any
subject in memory has, so it only ends searches that would go on for ever. -/
def matchLimit : Nat :=
  4294967296

/-- What takes the place of matches. -/
inductive Replacement where
  | template (template : Text)
  /-- A template for every match, by the number of the match and the match. -/
  | computed (templateFor : Nat → Snapshot → Except Fault Text)

/-- The template for a match. -/
def Replacement.templateFor (replacement : Replacement) (number : Nat)
    (snapshot : Snapshot) : Except Fault Text :=
  match replacement with
  | template text => .ok text
  | computed templateFor => templateFor number snapshot

/-- The groups of a match, for templates. -/
def Snapshot.captures (snapshot : Snapshot) : Captures where
  size := snapshot.groupCount + 1
  names := snapshot.names
  group := fun group => snapshot.group (.number (.ofNat group))

namespace Matcher

variable {σ : Type}

/-- What a replacement appends for the last match, and the matcher with its
append position behind the match.  A faulty template leaves the position. -/
def appendReplacement (matcher : Matcher σ) (template : Text) :
    Expansion × Matcher σ :=
  match matcher.state with
  | .found spans _ =>
      let span := spans.head?.getD .unset
      let expansion :=
        (Template.expand matcher.snapshot.captures template).after
          (matcher.text.slice matcher.appendCursor span.start)
      if expansion.fault.isSome then (expansion, matcher)
      else (expansion, { matcher with appendCursor := span.stop })
  | _ => (⟨[], some .noMatch⟩, matcher)

/-- What lies between the append position and the end of the region. -/
def tail (matcher : Matcher σ) : Text :=
  if matcher.appendCursor < matcher.regionEnd then
    matcher.text.slice matcher.appendCursor matcher.regionEnd
  else
    []

/-- Append the replacement of the last match, which is the match of the given
number. -/
def appendNext (replacement : Replacement) (number : Nat) (written : Text) :
    Matching σ Text := do
  let matcher ← get
  let template ←
    Matching.ofWork (Work.ofExcept (replacement.templateFor number matcher.snapshot))
  let (expansion, matcher) := matcher.appendReplacement template
  set matcher
  match expansion.fault with
  | some fault => throw fault
  | none => return written ++ expansion.output

/-- Replace the last match, which is the match of the given number, and the
matches behind it if all are wanted. -/
def replaceFrom (replacement : Replacement) (all : Bool) :
    Nat → Nat → Text → Matching σ Text
  | 0, _, written => return written ++ (← get).tail
  | fuel + 1, number, written => do
      let written ← appendNext replacement number written
      let isMore ← if all then find else pure false
      if isMore then
        replaceFrom replacement all fuel (number + 1) written
      else
        return written ++ (← get).tail

/-- The subject with its matches replaced, all of them or the first.  A subject
has hardly more matches than units, so the limit on top only ends searches that
would go on for ever. -/
def replace (replacement : Replacement) (all : Bool) : Matching σ Text := do
  modify reset
  if ← find then
    replaceFrom replacement all (matchLimit + (← get).text.length) 0 []
  else
    return (← get).text

/-- The subject with every match replaced. -/
def replaceAll (replacement : Replacement) : Matching σ Text :=
  replace replacement true

/-- The subject with the first match replaced. -/
def replaceFirst (replacement : Replacement) : Matching σ Text :=
  replace replacement false

end Matcher

end RegexMatching
