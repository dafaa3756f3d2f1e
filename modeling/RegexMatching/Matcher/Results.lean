import RegexMatching.Matcher

/-!
# Matches one by one

An iterator hands out the matches of a matcher as snapshots.  It does nothing
before the first step, which starts again at the beginning of the region.
-/

namespace RegexMatching

/-- How far an iterator over matches has got. -/
inductive Iteration where
  | notStarted
  | running
  | ended
deriving DecidableEq, Repr

namespace Iteration

variable {σ : Type}

/-- The next match, if there is one. -/
def next (iteration : Iteration) : Matching σ (Option Snapshot) := do
  match iteration with
  | ended => return none
  | notStarted => modify Matcher.clearMatch
  | running => pure ()
  if ← Matcher.find then
    return some (← get).snapshot
  else
    return none

/-- The state of an iterator after a step.  Without a match, or after a fault, it
has ended. -/
def after (outcome : Except Fault (Option Snapshot)) : Iteration :=
  match outcome with
  | .ok (some _) => running
  | _ => ended

end Iteration

end RegexMatching
