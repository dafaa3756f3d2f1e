import RegexMatching.Matcher

/-!
# Surveys

A survey says all that a pattern makes of a text: whether it matches at the start
of the region, whether it matches the whole region, and where it is found.
-/

namespace RegexMatching

/-- What a pattern makes of a text. -/
structure Survey where
  lookingAt : Except Fault (Option Snapshot)
  whole : Except Fault (Option Snapshot)
  /-- The matches found before the search ended. -/
  found : List Snapshot
  /-- The fault that ended the search. -/
  ending : Option Fault

namespace Survey

variable {σ : Type}

/-- The match, if the attempt found one. -/
def matched (attempt : Matching σ Bool) : Matching σ (Option Snapshot) := do
  if ← attempt then
    return some (← get).snapshot
  else
    return none

/-- Matches until there are no more or the search fails, `count` of them at most. -/
def findUntilFault (matcher : Matcher σ) (trace : Trace σ) :
    Nat → List Snapshot × Option Fault
  | 0 => ([], none)
  | count + 1 =>
      match (Matcher.find.run matcher).run trace with
      | ((.error fault, _), _) => ([], some fault)
      | ((.ok false, _), _) => ([], none)
      | ((.ok true, matcher), trace) =>
          let (found, ending) := findUntilFault matcher trace count
          (matcher.snapshot :: found, ending)

/-- A fresh matcher on a text, or on a region of it. -/
def freshMatcher (pattern : Pattern σ) (text : Text) (settings : MatcherSettings)
    (region : Option (Number × Number)) : Work σ (Matcher σ) := do
  let matcher ← Matcher.create pattern text settings
  match region with
  | none => return matcher
  | some (start, stop) => Work.ofExcept (matcher.region start stop)

/-- Survey a text.  Every question is put to a matcher of its own. -/
def ofText (pattern : Pattern σ) (text : Text) (settings : MatcherSettings)
    (region : Option (Number × Number)) (count : Nat) (trace : Trace σ) : Survey :=
  let fresh := freshMatcher pattern text settings region
  let (lookingAt, trace) :=
    (fresh >>= (matched Matcher.lookingAt).on).run trace
  let (whole, trace) := (fresh >>= (matched Matcher.matchWhole).on).run trace
  let (found, ending) :=
    match fresh.run trace with
    | (.ok matcher, trace) => findUntilFault matcher trace count
    | (.error fault, _) => ([], some fault)
  { lookingAt, whole, found, ending }

end Survey

end RegexMatching
