import RegexMatching.Proofs.EmptyPattern
import RegexMatching.Proofs.Reachable

/-!
# Engines that answer by a function

When the answer to a match call depends on nothing but the code, the subject, the
start and the options, then what a search comes to is a function of the matcher.
Here that function is written out, and searches are shown to follow it.
-/

namespace RegexMatching

open Utf8 (bytesBefore)

/-- An answer to every match call, by code, subject, start and options. -/
abbrev MatchFunction := Handle → Bytes → Int → Int → Except Fault Report

/-- The answer to a request. -/
def MatchFunction.to (answer : MatchFunction) (request : Request) : Except Fault Report :=
  answer request.code request.subject request.start request.options

/-- Every match on a text, from a boundary on, is as promised. -/
def MatchFunction.Promises (answer : MatchFunction) (promise : Report → Bytes → Nat → Prop) :
    Prop :=
  ∀ (code : Handle) (text : Text) (start : Nat) (options : Int) (report : Report),
    Utf8.IsBoundary (Utf8.encode text) start →
    answer code (Utf8.encode text) start options = .ok report →
    report.isMatch = true → promise report (Utf8.encode text) start

/-- An engine that answers by a function whenever it is usable, and stays usable. -/
structure Engine.AnswersBy {σ : Type} (engine : Engine σ) (usable : σ → Prop)
    (answer : MatchFunction) : Prop where
  report_eq : ∀ request engines, usable engines →
    ((engine.exchange request).run engines).1 = answer.to request
  exchange_usable : ∀ request engines, usable engines →
    usable ((engine.exchange request).run engines).2

namespace Matcher

variable {σ : Type} {usable : σ → Prop} {answer : MatchFunction}

/-! ## Attempts -/

/-- What an attempt comes to. -/
def attempted (answer : MatchFunction) (matcher : Matcher σ) (start : Nat)
    (anchoring : Anchoring) : Except Fault MatchState :=
  if matcher.lacksLineEdges then
    .error (.noLineBoundaries matcher.pattern.adapter.engine.name)
  else
    match matcher.placeOf? start with
    | none => .ok (.noMatch false)
    | some place =>
        (matcher.pattern.adapter.outcomeOf (answer.to (matcher.requestAt place anchoring))).bind
          (matcher.stateOf matcher.seenView.byteStart)

theorem attempt_run_eq {matcher : Matcher σ} (consistent : matcher.Consistent)
    (answers : matcher.pattern.adapter.engine.AnswersBy usable answer) {start : Nat}
    (inside : start ≤ matcher.text.length) (anchoring : Anchoring) {trace : Trace σ}
    (isUsable : usable trace.engines) :
    ((matcher.attempt matcher.seenView start anchoring).run trace).1 =
        matcher.attempted answer start anchoring ∧
      usable ((matcher.attempt matcher.seenView start anchoring).run trace).2.engines := by
  rw [consistent.attempt_run inside, attempted]
  by_cases lacks : matcher.lacksLineEdges = true
  · rw [if_pos lacks, if_pos lacks]
    exact ⟨rfl, isUsable⟩
  · rw [if_neg lacks, if_neg lacks]
    cases matcher.placeOf? start with
    | none => exact ⟨rfl, isUsable⟩
    | some place =>
        dsimp only
        rw [answers.report_eq _ _ isUsable]
        exact ⟨rfl, answers.exchange_usable _ _ isUsable⟩

/-- A match that an attempt finds was reported from the place where it started. -/
theorem exists_report_of_attempted {matcher : Matcher σ} {start : Nat} {anchoring : Anchoring}
    {spans : List Span} {mark : Option Text}
    (found : matcher.attempted answer start anchoring = .ok (.found spans mark)) :
    ∃ place report, matcher.placeOf? start = some place ∧
      answer.to (matcher.requestAt place anchoring) = .ok report ∧ report.isMatch = true ∧
      subjectSpans matcher.searched matcher.seenView.byteStart report.captures = .ok spans ∧
      report.mark = mark := by
  unfold attempted at found
  split at found
  · contradiction
  · cases starts : matcher.placeOf? start with
    | none =>
        rw [starts] at found
        cases found
    | some place =>
        rw [starts] at found
        rcases exists_report_of_found found with ⟨report, reported⟩
        exact ⟨place, report, rfl, reported⟩

/-! ## Calls -/

/-- A call that searches. -/
inductive Call where
  | find
  | lookingAt
  | matchWhole
deriving DecidableEq, Repr

namespace Call

/-- Make a call. -/
def make : Call → Matching σ Bool
  | find => Matcher.find
  | lookingAt => Matcher.lookingAt
  | matchWhole => Matcher.matchWhole

/-- The anchoring that a call asks for. -/
def anchoring : Call → Anchoring
  | find => .search
  | lookingAt => .lookingAt
  | matchWhole => .whole

/-- What a call comes to, and the matcher afterwards. -/
def result (answer : MatchFunction) (matcher : Matcher σ) :
    Call → Except Fault Bool × Matcher σ
  | find =>
      if matcher.isExhausted then (.ok false, matcher)
      else
        match matcher.nextStart? with
        | some start =>
            matcher.seen.conclude .search (matcher.seen.attempted answer start .search)
        | none => (.ok false, matcher.settle .search (.noMatch false))
  | lookingAt =>
      matcher.seen.conclude .lookingAt
        (matcher.seen.attempted answer matcher.regionStart .lookingAt)
  | matchWhole =>
      matcher.seen.conclude .whole (matcher.seen.attempted answer matcher.regionStart .whole)

end Call

theorem search_exec_eq {configuration : Configuration σ}
    (consistent : configuration.matcher.Consistent)
    (answers : configuration.matcher.pattern.adapter.engine.AnswersBy usable answer)
    {start : Nat} (inside : start ≤ configuration.matcher.text.length) (anchoring : Anchoring)
    (isUsable : usable configuration.trace.engines) :
    ∃ after : Trace σ, usable after.engines ∧
      (search start anchoring).exec configuration =
        let matcher := configuration.matcher.seen
        let concluded := matcher.conclude anchoring (matcher.attempted answer start anchoring)
        (concluded.1, ⟨concluded.2, after⟩) := by
  have attempt := attempt_run_eq consistent.seen answers inside anchoring isUsable
  refine ⟨_, attempt.2, ?_⟩
  rw [search_exec consistent]
  dsimp only
  rw [attempt.1]

/-- A search fails only if the answer does. -/
theorem attempted_of_search_error {configuration : Configuration σ}
    (consistent : configuration.matcher.Consistent)
    (answers : configuration.matcher.pattern.adapter.engine.AnswersBy usable answer)
    {start : Nat} (inside : start ≤ configuration.matcher.text.length) {anchoring : Anchoring}
    (isUsable : usable configuration.trace.engines) {fault : Fault}
    (failed : ((search start anchoring).exec configuration).1 = .error fault) :
    configuration.matcher.seen.attempted answer start anchoring = .error fault := by
  obtain ⟨after, -, ran⟩ := search_exec_eq consistent answers inside anchoring isUsable
  rw [ran] at failed
  exact eq_error_of_conclude failed

/-- A call that fails is a search from inside the text. -/
theorem Call.exists_make_exec_eq_search {call : Call} {matcher : Matcher σ}
    (consistent : matcher.Consistent) {trace : Trace σ} {fault : Fault}
    (failed : (call.make.exec ⟨matcher, trace⟩).1 = .error fault) :
    ∃ start ≤ matcher.text.length, call.make.exec ⟨matcher, trace⟩ =
      (search start call.anchoring).exec ⟨matcher, trace⟩ := by
  cases call with
  | find =>
      have isTried : (Matcher.find.exec ⟨matcher, trace⟩).1 ≠ .ok false :=
        fun isFalse => by cases failed.symm.trans isFalse
      obtain ⟨start, next, ran⟩ := exists_find_exec_eq_search isTried
      exact ⟨start, Nat.le_trans (mem_region_of_nextStart? next).2 consistent.regionEnd_le, ran⟩
  | lookingAt => exact ⟨_, consistent.regionStart_le, lookingAt_exec _⟩
  | matchWhole => exact ⟨_, consistent.regionStart_le, matchWhole_exec _⟩

/-- A call on usable engines comes to its result, whatever they were used for before. -/
theorem Call.make_exec_eq (call : Call) {matcher : Matcher σ} (consistent : matcher.Consistent)
    (answers : matcher.pattern.adapter.engine.AnswersBy usable answer) {trace : Trace σ}
    (isUsable : usable trace.engines) :
    ∃ after : Trace σ, usable after.engines ∧
      call.make.exec ⟨matcher, trace⟩ =
        ((call.result answer matcher).1, ⟨(call.result answer matcher).2, after⟩) := by
  cases call with
  | find =>
      rw [make, find_exec, result]
      by_cases isExhausted : matcher.isExhausted = true
      · rw [if_pos isExhausted, if_pos isExhausted]
        exact ⟨trace, isUsable, rfl⟩
      · rw [if_neg isExhausted, if_neg isExhausted]
        cases next : matcher.nextStart? with
        | none => exact ⟨trace, isUsable, rfl⟩
        | some start =>
            have inside := Nat.le_trans (mem_region_of_nextStart? next).2 consistent.regionEnd_le
            exact search_exec_eq consistent answers inside .search isUsable
  | lookingAt =>
      rw [make, lookingAt_exec]
      exact search_exec_eq consistent answers consistent.regionStart_le .lookingAt isUsable
  | matchWhole =>
      rw [make, matchWhole_exec]
      exact search_exec_eq consistent answers consistent.regionStart_le .whole isUsable

/-- Matchers that look for the same in the same way. -/
structure SameTask (matcher other : Matcher σ) : Prop where
  pattern : other.pattern = matcher.pattern
  text : other.text = matcher.text
  regionStart : other.regionStart = matcher.regionStart
  regionEnd : other.regionEnd = matcher.regionEnd
  anchoringBounds : other.anchoringBounds = matcher.anchoringBounds
  partialMatching : other.partialMatching = matcher.partialMatching

theorem sameTask_conclude (matcher : Matcher σ) (anchoring : Anchoring)
    (attempted : Except Fault MatchState) :
    matcher.SameTask (matcher.seen.conclude anchoring attempted).2 := by
  cases attempted with
  | error fault => exact ⟨rfl, rfl, rfl, rfl, rfl, rfl⟩
  | ok state => cases state <;> exact ⟨rfl, rfl, rfl, rfl, rfl, rfl⟩

namespace Call

/-- A call goes on with the same task. -/
theorem sameTask_result (call : Call) (answer : MatchFunction) (matcher : Matcher σ) :
    matcher.SameTask (call.result answer matcher).2 := by
  cases call with
  | find =>
      rw [result]
      split
      · exact ⟨rfl, rfl, rfl, rfl, rfl, rfl⟩
      · cases matcher.nextStart? with
        | none => exact ⟨rfl, rfl, rfl, rfl, rfl, rfl⟩
        | some start => exact matcher.sameTask_conclude .search _
  | lookingAt => exact matcher.sameTask_conclude .lookingAt _
  | matchWhole => exact matcher.sameTask_conclude .whole _

theorem consistent_result (call : Call) (answer : MatchFunction) {matcher : Matcher σ}
    (consistent : matcher.Consistent) : (call.result answer matcher).2.Consistent := by
  cases call with
  | find =>
      rw [result]
      split
      · exact consistent
      · cases matcher.nextStart? with
        | none => exact consistent.settle .search (.noMatch false)
        | some start => exact consistent.seen.conclude .search _
  | lookingAt => exact consistent.seen.conclude .lookingAt _
  | matchWhole => exact consistent.seen.conclude .whole _

end Call

end Matcher

/-! ## The empty pattern -/

/-- What the engine for the empty pattern answers. -/
def MatchFunction.ofEmptyPattern : MatchFunction :=
  fun _ subject start options => .ok (emptyReport subject start options)

theorem Engine.answersBy_ofEmptyPattern :
    Engine.ofEmptyPattern.AnswersBy (fun _ => True) .ofEmptyPattern where
  report_eq := fun request engines _ =>
    congrArg Prod.fst (Engine.exchange_ofEmptyPattern request engines)
  exchange_usable := fun _ _ _ => trivial

namespace MatchFunction

theorem placesMatch_ofEmptyPattern : ofEmptyPattern.Promises Report.PlacesMatch := by
  intro code text start options report boundary answered isMatch
  obtain rfl := Except.ok.inj answered
  exact emptyReport_placesMatch boundary isMatch

theorem cutsNoPoint_ofEmptyPattern :
    ofEmptyPattern.Promises fun report subject _ => report.CutsNoPoint subject := by
  intro code text start options report boundary answered isMatch group first last isSet
  obtain rfl := Except.ok.inj answered
  rcases emptyReport_set? isSet with ⟨-, rfl, rfl, atStart⟩
  exact ⟨atStart, atStart⟩

end MatchFunction

end RegexMatching
