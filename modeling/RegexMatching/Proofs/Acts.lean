import RegexMatching.Proofs.FindLoop

/-!
# What callers do with matchers

A caller performs operations on a matcher and takes iterators over its matches further, in any
order, and others may use the engines in between.  So a run is a list of visits: each is one
act, on engines as they are by then.
-/

namespace RegexMatching

namespace Matcher

variable {σ : Type}

/-! ## Acts -/

/-- An operation on a matcher, or one step of an iterator over its matches. -/
inductive Act (σ : Type) where
  | perform (operation : Operation σ)
  | advance (iteration : Iteration)

namespace Act

/-- Carry out an act. -/
def make : Act σ → Matching σ Reply
  | perform operation => Matcher.perform operation
  | advance iteration => do return .result (← iteration.next)

/-- Whether an act switches to allowed patterns only. -/
def Allowed (allowed : Pattern σ → Prop) : Act σ → Prop
  | perform operation => operation.Allowed allowed
  | advance _ => True

end Act

/-! ## Runs -/

/-- An act on engines as they are at that time. -/
structure Visit (σ : Type) where
  act : Act σ
  trace : Trace σ

/-- What a visit comes to, and the matcher afterwards. -/
def Visit.result (visit : Visit σ) (matcher : Matcher σ) : Except Fault Reply × Matcher σ :=
  let done := visit.act.make.exec ⟨matcher, visit.trace⟩
  (done.1, done.2.matcher)

/-- The matcher behind visits. -/
def behindVisits (matcher : Matcher σ) (visits : List (Visit σ)) : Matcher σ :=
  visits.foldl (fun matcher visit => (visit.result matcher).2) matcher

/-- What visits come to, one after the other. -/
def replies : List (Visit σ) → Matcher σ → List (Except Fault Reply)
  | [], _ => []
  | visit :: rest, matcher =>
      (visit.result matcher).1 :: replies rest (visit.result matcher).2

variable {allowed : Pattern σ → Prop} {usable : σ → Prop}

/-- A visit to a reachable matcher leaves a reachable one. -/
theorem Reachable.visit {matcher : Matcher σ} (reached : matcher.Reachable allowed usable)
    {visit : Visit σ} (isAllowed : visit.act.Allowed allowed)
    (isUsable : usable visit.trace.engines) :
    (visit.result matcher).2.Reachable allowed usable := by
  rcases visit with ⟨act, trace⟩
  cases act with
  | perform operation => exact .performed reached operation isAllowed trace isUsable
  | advance iteration =>
      have same := Matching.exec_bind_pure iteration.next Reply.result ⟨matcher, trace⟩
      rw [Visit.result, Act.make, same]
      exact .advanced reached iteration trace isUsable

theorem Reachable.behindVisits {matcher : Matcher σ} (reached : matcher.Reachable allowed usable)
    {visits : List (Visit σ)}
    (isAllowed : ∀ visit ∈ visits, visit.act.Allowed allowed ∧ usable visit.trace.engines) :
    (matcher.behindVisits visits).Reachable allowed usable := by
  induction visits generalizing matcher with
  | nil => exact reached
  | cons visit rest ih =>
      rw [List.forall_mem_cons] at isAllowed
      exact ih (reached.visit isAllowed.1.1 isAllowed.1.2) isAllowed.2

end Matcher

end RegexMatching
