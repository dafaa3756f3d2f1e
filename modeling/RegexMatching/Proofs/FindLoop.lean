import RegexMatching.Pattern.Survey
import RegexMatching.Proofs.Answers

/-!
# Successive searches

Successive searches find matches from left to right.  The offset behind a match is
further than its start and not before its end, and the next search does not start in
front of it; so the starts increase, and there are no more matches than offsets in the
region.  A search that finds nothing leaves nothing for later searches to find.
-/

namespace RegexMatching

open Utf8 (bytesBefore)

namespace Matcher

variable {σ : Type} {usable : σ → Prop} {answer : MatchFunction}

/-! ## Searching again and again -/

/-- The outcomes of successive searches, `count` of them.  A fault does not end them. -/
def findCalls : Nat → Configuration σ → List (Except Fault (Option Snapshot))
  | 0, _ => []
  | count + 1, configuration =>
      let found := (Survey.matched find).exec configuration
      found.1 :: findCalls count found.2

/-- The outcomes of successive steps of an iterator, `count` of them. -/
def iteratorSteps : Nat → Iteration → Configuration σ → List (Except Fault (Option Snapshot))
  | 0, _, _ => []
  | count + 1, iteration, configuration =>
      let step := iteration.next.exec configuration
      step.1 :: iteratorSteps count (.after step.1) step.2

/-- The matches among outcomes. -/
def matchesOf (outcomes : List (Except Fault (Option Snapshot))) : List Snapshot :=
  outcomes.filterMap fun
    | .ok found => found
    | .error _ => none

/-- What a search comes to, with the match that it finds. -/
def foundBy (answer : MatchFunction) (matcher : Matcher σ) : Except Fault (Option Snapshot) :=
  (Call.find.result answer matcher).1.map fun isFound =>
    if isFound then some (Call.find.result answer matcher).2.snapshot else none

/-- What successive searches come to. -/
def foundCalls (answer : MatchFunction) :
    Nat → Matcher σ → List (Except Fault (Option Snapshot))
  | 0, _ => []
  | count + 1, matcher =>
      foundBy answer matcher :: foundCalls answer count (Call.find.result answer matcher).2

theorem matched_find_exec {matcher : Matcher σ} (consistent : matcher.Consistent)
    (answers : matcher.pattern.adapter.engine.AnswersBy usable answer) {trace : Trace σ}
    (isUsable : usable trace.engines) :
    ∃ after : Trace σ, usable after.engines ∧
      (Survey.matched find).exec ⟨matcher, trace⟩ =
        (foundBy answer matcher, ⟨(Call.find.result answer matcher).2, after⟩) := by
  rcases Call.find.make_exec_eq consistent answers isUsable with ⟨after, usableAfter, executed⟩
  refine ⟨after, usableAfter, ?_⟩
  rw [Survey.matched, Matching.exec_bind, show find.exec _ = _ from executed, foundBy]
  cases (Call.find.result answer matcher).1 with
  | error fault => rfl
  | ok isFound => cases isFound <;> rfl

theorem findCalls_eq (count : Nat) {matcher : Matcher σ} (consistent : matcher.Consistent)
    (answers : matcher.pattern.adapter.engine.AnswersBy usable answer) {trace : Trace σ}
    (isUsable : usable trace.engines) :
    findCalls count ⟨matcher, trace⟩ = foundCalls answer count matcher := by
  induction count generalizing matcher trace with
  | zero => rfl
  | succ count ih =>
      rcases matched_find_exec consistent answers isUsable with ⟨after, usableAfter, executed⟩
      rw [findCalls, executed, foundCalls]
      dsimp only
      rw [ih (Call.find.consistent_result answer consistent) ?_ usableAfter]
      rw [(Call.find.sameTask_result answer matcher).pattern]
      exact answers

/-! ## What searches depend on -/

/-- A matcher without what searches do not depend on. -/
def searching (matcher : Matcher σ) : Matcher σ :=
  { matcher with view := none, appendCursor := 0, stack := 0 }

/-- What an attempt comes to, and what it leaves, depends on the searching part only. -/
theorem conclude_searching (answer : MatchFunction) (matcher : Matcher σ) (start : Nat)
    (anchoring : Anchoring) :
    let concluded := matcher.seen.conclude anchoring
      (matcher.seen.attempted answer start anchoring)
    let concluded' := matcher.searching.seen.conclude anchoring
      (matcher.searching.seen.attempted answer start anchoring)
    concluded'.1 = concluded.1 ∧ concluded'.2.searching = concluded.2.searching := by
  rw [show matcher.searching.seen.attempted answer start anchoring =
    matcher.seen.attempted answer start anchoring from rfl]
  cases matcher.seen.attempted answer start anchoring with
  | error fault => exact ⟨rfl, rfl⟩
  | ok state => cases state <;> exact ⟨rfl, rfl⟩

theorem find_result_searching (answer : MatchFunction) (matcher : Matcher σ) :
    (Call.find.result answer matcher.searching).1 = (Call.find.result answer matcher).1 ∧
      (Call.find.result answer matcher.searching).2.searching =
        (Call.find.result answer matcher).2.searching := by
  simp only [Call.result]
  rw [show matcher.searching.isExhausted = matcher.isExhausted from rfl,
    show matcher.searching.nextStart? = matcher.nextStart? from rfl]
  split
  · exact ⟨rfl, rfl⟩
  · cases matcher.nextStart? with
    | none => exact ⟨rfl, rfl⟩
    | some start => exact conclude_searching answer matcher start .search

theorem foundBy_searching (answer : MatchFunction) (matcher : Matcher σ) :
    foundBy answer matcher.searching = foundBy answer matcher := by
  rcases find_result_searching answer matcher with ⟨sameOutcome, sameMatcher⟩
  have snapshot_searching : ∀ other : Matcher σ, other.searching.snapshot = other.snapshot :=
    fun _ => rfl
  rw [foundBy, foundBy, sameOutcome,
    ← snapshot_searching (Call.find.result answer matcher.searching).2, sameMatcher,
    snapshot_searching]

theorem foundCalls_searching (answer : MatchFunction) (count : Nat) {matcher other : Matcher σ}
    (same : matcher.searching = other.searching) :
    foundCalls answer count matcher = foundCalls answer count other := by
  induction count generalizing matcher other with
  | zero => rfl
  | succ count ih =>
      rw [foundCalls, foundCalls, ← foundBy_searching answer matcher, same,
        foundBy_searching answer other]
      have after : (Call.find.result answer matcher).2.searching =
          (Call.find.result answer other).2.searching := by
        rw [← (find_result_searching answer matcher).2, same,
          (find_result_searching answer other).2]
      rw [ih after]

/-! ## Searches that find nothing -/

/-- A search fails and changes nothing it depends on, or finds nothing and ends the
searching, or finds a match from where it went on. -/
theorem find_result_cases (answer : MatchFunction) (matcher : Matcher σ) :
    (∃ fault, (Call.find.result answer matcher).1 = .error fault ∧
        (Call.find.result answer matcher).2.searching = matcher.searching) ∨
      ((Call.find.result answer matcher).1 = .ok false ∧
        (Call.find.result answer matcher).2.isExhausted = true) ∨
      ∃ start spans mark, matcher.nextStart? = some start ∧
        matcher.seen.attempted answer start .search = .ok (.found spans mark) ∧
        Call.find.result answer matcher =
          (.ok true, matcher.seen.settle .search (.found spans mark)) := by
  rw [Call.result]
  by_cases isExhausted : matcher.isExhausted = true
  · rw [if_pos isExhausted]
    exact .inr (.inl ⟨rfl, isExhausted⟩)
  rw [if_neg isExhausted]
  cases matcher.nextStart? with
  | none => exact .inr (.inl ⟨rfl, Bool.or_true _⟩)
  | some start =>
      dsimp only
      cases attempt : matcher.seen.attempted answer start .search with
      | error fault => exact .inl ⟨fault, rfl, rfl⟩
      | ok state =>
          cases state with
          | fresh => exact .inr (.inl ⟨rfl, Bool.or_true _⟩)
          | noMatch isPartial => exact .inr (.inl ⟨rfl, Bool.or_true _⟩)
          | found spans mark => exact .inr (.inr ⟨start, spans, mark, rfl, attempt, rfl⟩)

theorem foundBy_of_isExhausted {matcher : Matcher σ} (isExhausted : matcher.isExhausted = true) :
    foundBy answer matcher = .ok none := by
  rw [foundBy, Call.result, if_pos isExhausted]
  rfl

/-- A search that finds nothing, or fails, comes to the same the next time. -/
theorem foundBy_result {matcher : Matcher σ}
    (notFound : ∀ snapshot, foundBy answer matcher ≠ .ok (some snapshot)) :
    foundBy answer (Call.find.result answer matcher).2 = foundBy answer matcher := by
  rcases find_result_cases answer matcher with ⟨fault, -, same⟩ | ⟨isFalse, isExhausted⟩ |
    ⟨start, spans, mark, -, -, result⟩
  · rw [← foundBy_searching answer (Call.find.result answer matcher).2, same, foundBy_searching]
  · rw [foundBy_of_isExhausted isExhausted, foundBy, isFalse]
    rfl
  · have isFound : foundBy answer matcher =
        .ok (some (Call.find.result answer matcher).2.snapshot) := by
      rw [foundBy, result]
      rfl
    exact absurd isFound (notFound _)

theorem foundCalls_eq_replicate (count : Nat) {matcher : Matcher σ}
    (notFound : ∀ snapshot, foundBy answer matcher ≠ .ok (some snapshot)) :
    foundCalls answer count matcher = List.replicate count (foundBy answer matcher) := by
  induction count generalizing matcher with
  | zero => rfl
  | succ count ih =>
      have same := foundBy_result notFound
      rw [foundCalls, ih (same ▸ notFound), same, List.replicate_succ]

theorem matchesOf_replicate (count : Nat) {outcome : Except Fault (Option Snapshot)}
    (notFound : ∀ snapshot, outcome ≠ .ok (some snapshot)) :
    matchesOf (List.replicate count outcome) = [] := by
  rw [matchesOf, List.filterMap_eq_nil_iff]
  intro outcome' mem
  rw [List.eq_of_mem_replicate mem]
  cases outcome with
  | error fault => rfl
  | ok found =>
      cases found with
      | none => rfl
      | some snapshot => exact absurd rfl (notFound snapshot)

/-- Behind a search that found nothing, searches find nothing. -/
theorem foundCalls_pairwise (answer : MatchFunction) (count : Nat) (matcher : Matcher σ) :
    (foundCalls answer count matcher).Pairwise fun earlier later =>
      earlier = .ok none → later = .ok none := by
  induction count generalizing matcher with
  | zero => exact .nil
  | succ count ih =>
      rw [foundCalls, List.pairwise_cons]
      constructor
      · intro later mem isNone
        have notFound : ∀ snapshot, foundBy answer matcher ≠ .ok (some snapshot) := by
          intro snapshot isFound
          rw [isNone] at isFound
          cases isFound
        have same := foundBy_result notFound
        rw [foundCalls_eq_replicate count (same ▸ notFound), same] at mem
        rw [List.eq_of_mem_replicate mem, isNone]
      · exact ih _

/-! ## Where matches lie -/

/-- An attempt does not start in front of the offset it is asked for. -/
theorem le_of_placeOf? {matcher : Matcher σ} (consistent : matcher.Consistent)
    (isPlain : matcher.pattern.canonicalEquivalence = false) {start place : Nat}
    (starts : matcher.placeOf? start = some place) : start ≤ matcher.viewStart + place := by
  simp only [placeOf?, searchedText_eq isPlain, consistent.ofSubject_eq isPlain] at starts
  have leCeil := Text.le_ceilIndex matcher.text start
  split at starts
  · contradiction
  · rw [Option.some.injEq] at starts
    omega

/-- A match that is reported behind a place of the text that is seen lies behind the offset of
that place and inside the region. -/
theorem Consistent.exists_span_of_placesMatch {matcher : Matcher σ}
    (consistent : matcher.Consistent) (isPlain : matcher.pattern.canonicalEquivalence = false)
    {start place : Nat} (inside : start ≤ matcher.text.length)
    (starts : matcher.placeOf? start = some place) {report : Report}
    (placed : report.PlacesMatch (Utf8.encode matcher.viewText)
      (bytesBefore matcher.viewText place)) {spans : List Span}
    (translated : subjectSpans matcher.searched matcher.seenView.byteStart report.captures =
      .ok spans) :
    ∃ span, spans.head? = some span ∧ (start : Int) ≤ span.start ∧ span.start ≤ span.stop ∧
      span.stop ≤ matcher.regionEnd := by
  have atPlace := consistent.isBoundary_of_placeOf? inside starts
  obtain ⟨first, last, isSet, leFirst, ordered, atFirst, atLast⟩ := placed
  have view := viewStart_le_viewEnd starts
  have cutsNoPoint : ∀ first' last', report.set? 0 = some (first', last') →
      Utf8.IsBoundary (Utf8.encode matcher.viewText) first' ∧
        Utf8.IsBoundary (Utf8.encode matcher.viewText) last' := by
    intro first' last' isSet'
    rw [isSet, Option.some.injEq, Prod.mk.injEq] at isSet'
    rw [← isSet'.1, ← isSet'.2]
    exact ⟨atFirst, atLast⟩
  have translatedFirst := consistent.subjectSpan_eq isPlain view cutsNoPoint
  rw [Report.unitSpan, isSet] at translatedFirst
  dsimp only at translatedFirst
  rw [Span.shift_natCast] at translatedFirst
  rw [subjectSpans_eq, Report.captures, List.range_succ_eq_map, List.map_cons] at translated
  rcases Text.isBoundary_indexAt atFirst with ⟨firstIndex, firstBytes⟩
  rcases Text.isBoundary_indexAt atLast with ⟨lastIndex, -⟩
  -- The engine was asked to start at the place, so the match does not start before it.
  have lePlace : place ≤ matcher.viewText.indexAt first := by
    apply Nat.le_of_not_lt
    intro less
    have lessBytes := (Utf8.bytesBefore_lt_iff firstIndex atPlace).mpr less
    omega
  have leStart := le_of_placeOf? consistent isPlain starts
  have leEnd := (consistent.isBoundary_add isPlain view lastIndex).2.2
  have leLast := Text.indexAt_le atFirst atLast ordered
  refine ⟨_, head?_of_mapM_eq_ok translatedFirst translated, ?_, ?_, ?_⟩
  · exact Int.ofNat_le.mpr (by omega)
  · exact Int.ofNat_le.mpr (by omega)
  · exact Int.ofNat_le.mpr leEnd

/-- A match that an attempt finds lies behind its start and inside the region. -/
theorem exists_span_of_attempted {matcher : Matcher σ} (consistent : matcher.Consistent)
    (isPlain : matcher.pattern.canonicalEquivalence = false)
    (promises : answer.Promises Report.PlacesMatch) {start : Nat}
    (inside : start ≤ matcher.text.length) {anchoring : Anchoring} {spans : List Span}
    {mark : Option Text}
    (found : matcher.attempted answer start anchoring = .ok (.found spans mark)) :
    ∃ span, spans.head? = some span ∧ (start : Int) ≤ span.start ∧ span.start ≤ span.stop ∧
      span.stop ≤ matcher.regionEnd := by
  obtain ⟨place, report, starts, reported, isMatch, translated, -⟩ :=
    exists_report_of_attempted found
  have atPlace := consistent.isBoundary_of_placeOf? inside starts
  have placed := promises _ _ _ _ report (Utf8.isBoundary_bytesBefore atPlace) reported isMatch
  exact consistent.exists_span_of_placesMatch isPlain inside starts placed translated

/-- The search goes on behind the start of a match, and not before its end. -/
theorem behind_of_previous {matcher : Matcher σ} {span : Span}
    (isPrevious : matcher.previous = some span) (ordered : span.start ≤ span.stop) :
    span.start < matcher.behind ∧ span.stop ≤ matcher.behind := by
  unfold behind stepBehind
  rw [isPrevious]
  dsimp only
  split
  · split <;> omega
  · omega

theorem whole_index (count : Nat) (names : GroupNames) :
    GroupRef.whole.index count names = .ok 0 :=
  rfl

/-- The first span of a match is that of the whole match. -/
theorem span_whole {matcher : Matcher σ} {spans : List Span} {mark : Option Text} {span : Span}
    (isFound : matcher.state = .found spans mark) (isFirst : spans.head? = some span) :
    matcher.snapshot.span .whole = .ok (some span) := by
  rw [List.head?_eq_getElem?] at isFirst
  simp only [Snapshot.span, snapshot, isFound, whole_index, Except.map, isFirst]

/-- A search that finds a match goes on from where it has got to, and the next one goes
on behind that match. -/
theorem exists_span_of_foundBy {matcher : Matcher σ} (consistent : matcher.Consistent)
    (isPlain : matcher.pattern.canonicalEquivalence = false)
    (promises : answer.Promises Report.PlacesMatch) {snapshot : Snapshot}
    (isFound : foundBy answer matcher = .ok (some snapshot)) :
    ∃ span, snapshot.span .whole = .ok (some span) ∧
      max matcher.behind matcher.regionStart ≤ span.start ∧ span.start ≤ span.stop ∧
      span.stop ≤ matcher.regionEnd ∧
      span.start < (Call.find.result answer matcher).2.behind ∧
      span.stop ≤ (Call.find.result answer matcher).2.behind := by
  rcases find_result_cases answer matcher with ⟨fault, isError, -⟩ | ⟨isFalse, -⟩ |
    ⟨start, spans, mark, next, found, result⟩
  · rw [foundBy, isError] at isFound
    cases isFound
  · rw [foundBy, isFalse] at isFound
    cases isFound
  · obtain ⟨goesOn, inRegion⟩ := eq_max_of_nextStart? next
    obtain ⟨span, isFirst, leStart, ordered, leEnd⟩ :=
      exists_span_of_attempted consistent.seen isPlain promises
        (Nat.le_trans inRegion consistent.regionEnd_le) found
    rw [foundBy, result] at isFound
    obtain rfl := Option.some.inj (Except.ok.inj isFound)
    have isPrevious : (Call.find.result answer matcher).2.previous = some span := by
      rw [result]
      exact isFirst
    exact ⟨span, span_whole rfl isFirst, goesOn ▸ leStart, ordered, leEnd,
      behind_of_previous isPrevious ordered⟩

/-- Successive searches find matches from left to right, behind the last one and inside
the region. -/
theorem exists_spans_of_foundCalls (count : Nat) {matcher : Matcher σ}
    (consistent : matcher.Consistent) (isPlain : matcher.pattern.canonicalEquivalence = false)
    (promises : answer.Promises Report.PlacesMatch) :
    ∃ spans : List Span,
      (matchesOf (foundCalls answer count matcher)).map (·.span .whole) =
        spans.map (fun span => .ok (some span)) ∧
      spans.Pairwise (fun earlier later =>
        earlier.start < later.start ∧ earlier.stop ≤ later.start) ∧
      ∀ span ∈ spans, max matcher.behind matcher.regionStart ≤ span.start ∧
        span.start ≤ span.stop ∧ span.stop ≤ matcher.regionEnd := by
  induction count generalizing matcher with
  | zero => exact ⟨[], rfl, .nil, fun span mem => absurd mem List.not_mem_nil⟩
  | succ count ih =>
      by_cases found : ∃ snapshot, foundBy answer matcher = .ok (some snapshot)
      · rcases found with ⟨snapshot, isFound⟩
        obtain ⟨span, isSpan, leStart, ordered, leEnd, lessBehind, leBehind⟩ :=
          exists_span_of_foundBy consistent isPlain promises isFound
        have task := Call.find.sameTask_result answer matcher
        obtain ⟨spans, reported, pairwise, inRegion⟩ :=
          ih (Call.find.consistent_result answer consistent) (task.pattern ▸ isPlain)
        rw [task.regionStart, task.regionEnd] at inRegion
        refine ⟨span :: spans, ?_, ?_, ?_⟩
        · rw [foundCalls, isFound, List.map_cons, ← reported, ← isSpan]
          rfl
        · rw [List.pairwise_cons]
          refine ⟨fun later mem => ?_, pairwise⟩
          have startLe := (inRegion later mem).1
          omega
        · intro other mem
          rcases List.mem_cons.mp mem with rfl | mem
          · exact ⟨leStart, ordered, leEnd⟩
          · have later := inRegion other mem
            have startLe := later.1
            exact ⟨by omega, later.2⟩
      · have notFound : ∀ snapshot, foundBy answer matcher ≠ .ok (some snapshot) :=
          fun snapshot isFound => found ⟨snapshot, isFound⟩
        rw [foundCalls_eq_replicate _ notFound, matchesOf_replicate _ notFound]
        exact ⟨[], rfl, .nil, fun span mem => absurd mem List.not_mem_nil⟩

/-- Spans with increasing starts are no more than the offsets that they can start at. -/
theorem length_le_of_increasing {first last : Int} {spans : List Span}
    (increasing : spans.Pairwise fun earlier later => earlier.start < later.start)
    (inside : ∀ span ∈ spans, first ≤ span.start ∧ span.start ≤ last) :
    spans.length ≤ (last + 1 - first).toNat := by
  induction spans generalizing first with
  | nil => exact Nat.zero_le _
  | cons span rest ih =>
      rw [List.pairwise_cons] at increasing
      have atSpan := inside span List.mem_cons_self
      have rest' := @ih (span.start + 1) increasing.2 fun later mem =>
        ⟨increasing.1 later mem, (inside later (List.mem_cons_of_mem span mem)).2⟩
      rw [List.length_cons]
      omega

theorem length_le_of_pairwise {first last : Int} {spans : List Span}
    (pairwise : spans.Pairwise fun earlier later =>
      earlier.start < later.start ∧ earlier.stop ≤ later.start)
    (inside : ∀ span ∈ spans, first ≤ span.start ∧ span.start ≤ last) :
    spans.length ≤ (last + 1 - first).toNat :=
  length_le_of_increasing (pairwise.imp And.left) inside

/-! ## Iterators -/

theorem iteratorSteps_ended (count : Nat) (configuration : Configuration σ) :
    iteratorSteps count .ended configuration = List.replicate count (.ok none) := by
  induction count with
  | zero => rfl
  | succ count ih =>
      rw [List.replicate_succ, ← ih]
      rfl

/-- An iterator that is under way hands out what successive searches find.  It stops where
they find nothing or fail. -/
theorem matchesOf_iteratorSteps_running (count : Nat) {matcher : Matcher σ}
    (consistent : matcher.Consistent)
    (answers : matcher.pattern.adapter.engine.AnswersBy usable answer) {trace : Trace σ}
    (isUsable : usable trace.engines) :
    matchesOf (iteratorSteps count .running ⟨matcher, trace⟩) =
      matchesOf (foundCalls answer count matcher) := by
  induction count generalizing matcher trace with
  | zero => rfl
  | succ count ih =>
      rcases matched_find_exec consistent answers isUsable with ⟨after, usableAfter, executed⟩
      have step : Iteration.running.next.exec ⟨matcher, trace⟩ =
          (foundBy answer matcher, ⟨(Call.find.result answer matcher).2, after⟩) := executed
      rw [iteratorSteps, step, foundCalls]
      dsimp only
      by_cases found : ∃ snapshot, foundBy answer matcher = .ok (some snapshot)
      · rcases found with ⟨snapshot, isFound⟩
        have rest := ih (Call.find.consistent_result answer consistent)
          ((Call.find.sameTask_result answer matcher).pattern ▸ answers) usableAfter
        rw [isFound]
        exact congrArg (snapshot :: ·) rest
      · have notFound : ∀ snapshot, foundBy answer matcher ≠ .ok (some snapshot) :=
          fun snapshot isFound => found ⟨snapshot, isFound⟩
        have ended : Iteration.after (foundBy answer matcher) = .ended := by
          cases outcome : foundBy answer matcher with
          | error fault => rfl
          | ok found =>
              cases found with
              | none => rfl
              | some snapshot => exact absurd outcome (notFound snapshot)
        have nothing : ∀ rest : List (Except Fault (Option Snapshot)),
            matchesOf (foundBy answer matcher :: rest) =
              matchesOf (List.replicate 1 (foundBy answer matcher)) ++ matchesOf rest :=
          fun rest => List.filterMap_append (l := [foundBy answer matcher]) ..
        rw [ended, iteratorSteps_ended, nothing, nothing, foundCalls_eq_replicate count
          (foundBy_result notFound ▸ notFound), foundBy_result notFound,
          matchesOf_replicate count notFound, matchesOf_replicate count (by simp)]

/-- An iterator that starts hands out what is found by searches that start again. -/
theorem matchesOf_iteratorSteps_notStarted (count : Nat) {matcher : Matcher σ}
    (consistent : matcher.Consistent)
    (answers : matcher.pattern.adapter.engine.AnswersBy usable answer) {trace : Trace σ}
    (isUsable : usable trace.engines) :
    matchesOf (iteratorSteps count .notStarted ⟨matcher, trace⟩) =
      matchesOf (foundCalls answer count matcher.clearMatch) := by
  rw [← matchesOf_iteratorSteps_running count consistent.clearMatch answers isUsable]
  cases count <;> rfl

/-! ## Ended searches -/

/-- Whether an operation lets a matcher search again from the start of its region. -/
def Operation.restarts : Operation σ → Bool
  | .findFrom _ | .results _ | .region _ _ | .reset | .resetTo _ | .useAnchoringBounds _
  | .usePattern _ | .replaceAll _ | .replaceFirst _ => true
  | _ => false

/-- Perform operations one after the other, whether or not they fail. -/
def performAll (operations : List (Operation σ)) (configuration : Configuration σ) :
    Configuration σ :=
  operations.foldl (fun configuration operation => ((perform operation).exec configuration).2)
    configuration

theorem perform_consistent (operation : Operation σ) {configuration : Configuration σ}
    (consistent : configuration.matcher.Consistent) :
    ((perform operation).exec configuration).2.matcher.Consistent := by
  have isAllowed : operation.Allowed fun _ => True := by
    cases operation <;> trivial
  rcases perform_steps_or_change operation isAllowed configuration with steps | change
  · exact @Steps.preserve σ (fun configuration => configuration.matcher.Consistent)
      (fun _ _ step => step.consistent) _ _ steps consistent
  · exact change.consistent consistent

theorem performAll_consistent (operations : List (Operation σ)) {configuration : Configuration σ}
    (consistent : configuration.matcher.Consistent) :
    (performAll operations configuration).matcher.Consistent := by
  induction operations generalizing configuration with
  | nil => exact consistent
  | cons operation rest ih => exact ih (perform_consistent operation consistent)

theorem find_exec_of_isExhausted {configuration : Configuration σ}
    (isExhausted : configuration.matcher.isExhausted = true) :
    find.exec configuration = (.ok false, configuration) := by
  rw [find_exec, if_pos isExhausted]

theorem search_isExhausted {configuration : Configuration σ}
    (consistent : configuration.matcher.Consistent) (start : Nat) (anchoring : Anchoring)
    (isExhausted : configuration.matcher.isExhausted = true) :
    ((search start anchoring).exec configuration).2.matcher.isExhausted = true := by
  rw [search_exec consistent]
  dsimp only
  generalize ((configuration.matcher.seen.attempt configuration.matcher.seen.seenView start
    anchoring).run configuration.trace).1 = attempted
  cases attempted with
  | error fault => exact isExhausted
  | ok state =>
      cases state with
      | fresh => exact Bool.or_eq_true_iff.mpr (.inl isExhausted)
      | noMatch isPartial => exact Bool.or_eq_true_iff.mpr (.inl isExhausted)
      | found spans mark => exact isExhausted

/-- Only operations that restart the searching let it go on once it has ended. -/
theorem perform_isExhausted {operation : Operation σ} (goesOn : operation.restarts = false)
    {configuration : Configuration σ} (consistent : configuration.matcher.Consistent)
    (isExhausted : configuration.matcher.isExhausted = true) :
    ((perform operation).exec configuration).2.matcher.isExhausted = true := by
  have ended := find_exec_of_isExhausted isExhausted
  cases operation with
  | ask query => exact isExhausted
  | find =>
      rw [perform, Matching.exec_bind, ended]
      exact isExhausted
  | lookingAt =>
      rw [perform, Matching.exec_bind_pure, lookingAt_exec]
      exact search_isExhausted consistent _ .lookingAt isExhausted
  | matchWhole =>
      rw [perform, Matching.exec_bind_pure, matchWhole_exec]
      exact search_isExhausted consistent _ .whole isExhausted
  | hasPartialMatch => exact isExhausted
  | mark => exact isExhausted
  | regionStart => exact isExhausted
  | regionEnd => exact isExhausted
  | source => exact isExhausted
  | describe => exact isExhausted
  | findAll count =>
      rw [perform, Matching.exec_bind_pure]
      cases count with
      | zero => exact isExhausted
      | succ count =>
          rw [findAll, Matching.exec_bind, ended]
          exact isExhausted
  | usePartialMatching value =>
      rw [perform, Matching.exec_bind, change_exec, Work.run_ofExcept]
      cases changed : configuration.matcher.usePartialMatching value with
      | error fault => exact isExhausted
      | ok matcher =>
          rcases usePartialMatching_eq_ok changed with ⟨rfl, -⟩
          exact isExhausted
  | appendReplacement template =>
      rcases exists_appendReplacement_eq configuration.matcher template with ⟨cursor, appended⟩
      rw [perform_appendReplacement, appended]
      exact isExhausted
  | appendTail => exact isExhausted
  | close =>
      rw [perform, Matching.exec_bind, change_exec, close_run]
      exact isExhausted
  | findFrom start => contradiction
  | results count => contradiction
  | region start stop => contradiction
  | reset => contradiction
  | resetTo text => contradiction
  | useAnchoringBounds value => contradiction
  | usePattern pattern => contradiction
  | replaceAll replacement => contradiction
  | replaceFirst replacement => contradiction

/-- A search that finds nothing has ended the searching. -/
theorem isExhausted_of_find_eq_false {configuration : Configuration σ}
    (consistent : configuration.matcher.Consistent)
    (notFound : (find.exec configuration).1 = .ok false) :
    (find.exec configuration).2.matcher.isExhausted = true := by
  rw [find_exec] at notFound ⊢
  by_cases isExhausted : configuration.matcher.isExhausted = true
  · rw [if_pos isExhausted]
    exact isExhausted
  rw [if_neg isExhausted] at notFound ⊢
  cases next : configuration.matcher.nextStart? with
  | none => exact Bool.or_true _
  | some start =>
      rw [next] at notFound
      dsimp only at notFound ⊢
      rw [search_exec consistent] at notFound ⊢
      dsimp only at notFound ⊢
      generalize ((configuration.matcher.seen.attempt configuration.matcher.seen.seenView start
        .search).run configuration.trace).1 = attempted at notFound ⊢
      cases attempted with
      | error fault => cases notFound
      | ok state =>
          cases state with
          | fresh => exact Bool.or_true _
          | noMatch isPartial => exact Bool.or_true _
          | found spans mark => cases notFound

/-- Behind a search that found nothing, every later one finds nothing until the searching is
restarted, whatever is done in between. -/
theorem find_exec_performAll {configuration : Configuration σ}
    (consistent : configuration.matcher.Consistent)
    (isExhausted : configuration.matcher.isExhausted = true) {operations : List (Operation σ)}
    (goOn : ∀ operation ∈ operations, operation.restarts = false) :
    (find.exec (performAll operations configuration)).1 = .ok false := by
  induction operations generalizing configuration with
  | nil =>
      change (find.exec configuration).1 = _
      rw [find_exec_of_isExhausted isExhausted]
  | cons operation rest ih =>
      exact ih (perform_consistent operation consistent)
        (perform_isExhausted (goOn operation List.mem_cons_self) consistent isExhausted)
        fun other mem => goOn other (List.mem_cons_of_mem operation mem)

/-! ## Searches behind a restart -/

theorem searching_clearMatch_eq {matcher other : Matcher σ} (consistent : matcher.Consistent)
    (consistent' : other.Consistent) (task : matcher.SameTask other) :
    other.clearMatch.searching = matcher.clearMatch.searching := by
  simp only [searching, clearMatch, consistent.searched, consistent'.searched, task.pattern,
    task.text, task.regionStart, task.regionEnd, task.anchoringBounds, task.partialMatching]

/-- A matcher that has just been restarted, with the whole text or a region of it. -/
def IsRestartOf (started matcher : Matcher σ) : Prop :=
  started = matcher.reset ∨ ∃ start stop, matcher.region start stop = .ok started

theorem IsRestartOf.consistent {started matcher : Matcher σ}
    (isRestart : started.IsRestartOf matcher) (consistent : matcher.Consistent) :
    started.Consistent := by
  rcases isRestart with rfl | ⟨start, stop, restricted⟩
  · exact consistent.reset
  · exact consistent.region restricted

theorem IsRestartOf.eq {started matcher : Matcher σ} (isRestart : started.IsRestartOf matcher) :
    started.pattern = matcher.pattern ∧ started.clearMatch = started := by
  rcases isRestart with rfl | ⟨start, stop, restricted⟩
  · exact ⟨rfl, rfl⟩
  · rcases region_eq_ok restricted with ⟨first, last, -, -, -, rfl⟩
    exact ⟨rfl, rfl⟩

/-- On an engine that answers by a function and places every match at code points, behind
its start, successive searches behind a restart find matches from left to right that do not
overlap, inside the region, and no more of them than the region has offsets.  Once one finds
nothing, no later one does until a restart.  An iterator finds the same from any state. -/
theorem findCalls_advance {matcher started : Matcher σ}
    (reached : matcher.Reachable (fun _ => True) fun _ => True)
    (isPlain : matcher.pattern.canonicalEquivalence = false)
    (answers : matcher.pattern.adapter.engine.AnswersBy usable answer)
    (promises : answer.Promises Report.PlacesMatch)
    (isRestart : started.IsRestartOf matcher) {trace : Trace σ} (isUsable : usable trace.engines)
    (count : Nat) :
    (∃ spans : List Span,
      (matchesOf (findCalls count ⟨started, trace⟩)).map (·.span .whole) =
        spans.map (fun span => .ok (some span)) ∧
      spans.Pairwise (fun earlier later =>
        earlier.start < later.start ∧ earlier.stop ≤ later.start) ∧
      ∀ span ∈ spans, started.regionStart ≤ span.start ∧ span.start ≤ span.stop ∧
        span.stop ≤ started.regionEnd) ∧
    (matchesOf (findCalls count ⟨started, trace⟩)).length ≤
      started.regionEnd - started.regionStart + 1 ∧
    (findCalls count ⟨started, trace⟩).Pairwise (fun earlier later =>
      earlier = .ok none → later = .ok none) ∧
    (∀ before between : List (Operation σ),
      (∀ operation ∈ between, operation.restarts = false) →
      (find.exec (performAll before ⟨started, trace⟩)).1 = .ok false →
      (find.exec
        (performAll between (find.exec (performAll before ⟨started, trace⟩)).2)).1 = .ok false) ∧
    ∀ other : Matcher σ, other.Reachable (fun _ => True) (fun _ => True) →
      started.SameTask other → ∀ trace' : Trace σ, usable trace'.engines →
      matchesOf (iteratorSteps count .notStarted ⟨other, trace'⟩) =
        matchesOf (findCalls count ⟨started, trace⟩) := by
  have consistent := isRestart.consistent reached.consistent.1
  rcases isRestart.eq with ⟨samePattern, cleared⟩
  rw [← samePattern] at isPlain answers
  obtain ⟨spans, reported, pairwise, inRegion⟩ :=
    exists_spans_of_foundCalls count consistent isPlain promises
  rw [findCalls_eq count consistent answers isUsable]
  refine ⟨⟨spans, reported, pairwise, ?_⟩, ?_, foundCalls_pairwise answer count started, ?_, ?_⟩
  · intro span mem
    have atSpan := inRegion span mem
    have startLe := atSpan.1
    exact ⟨by omega, atSpan.2⟩
  · have length := congrArg List.length reported
    rw [List.length_map, List.length_map] at length
    -- Starts increase, so every match takes up an offset of the region of its own.
    have bound := @length_le_of_pairwise started.regionStart started.regionEnd spans pairwise
      fun span mem => by
        have atSpan := inRegion span mem
        omega
    have region := consistent.region_le
    omega
  · intro before between goOn notFound
    have consistent' : (performAll before ⟨started, trace⟩).matcher.Consistent :=
      performAll_consistent before consistent
    have steps := find_steps (performAll before ⟨started, trace⟩)
    have consistent'' := @Steps.preserve σ (fun configuration => configuration.matcher.Consistent)
      (fun _ _ step => step.consistent) _ _ steps consistent'
    exact find_exec_performAll consistent''
      (isExhausted_of_find_eq_false consistent' notFound) goOn
  · intro other reached' task trace' isUsable'
    have consistent' := reached'.consistent.1
    rw [matchesOf_iteratorSteps_notStarted count consistent' (task.pattern ▸ answers) isUsable']
    rw [foundCalls_searching answer count (searching_clearMatch_eq consistent consistent' task),
      cleared]

theorem findCalls_advance_empty :
    let started := (initial .ofEmptyPattern [0x61, 0xD83D, 0xDE00] true 0).reset
    (matchesOf (findCalls 5 ⟨started, ⟨0, []⟩⟩)).length = 3 ∧
      (matchesOf (findCalls 5 ⟨started, ⟨0, []⟩⟩)).length ≤
        started.regionEnd - started.regionStart + 1 := by
  have isCreated : (create .ofEmptyPattern [0x61, 0xD83D, 0xDE00] {}).run ⟨0, []⟩ =
      (.ok (initial .ofEmptyPattern [0x61, 0xD83D, 0xDE00] true 0), ⟨0, []⟩) := rfl
  have reached : (initial .ofEmptyPattern [0x61, 0xD83D, 0xDE00] true 0).Reachable
      (fun _ => True) fun _ => True := .created trivial trivial isCreated
  exact ⟨by decide +kernel,
    (findCalls_advance reached rfl Engine.answersBy_ofEmptyPattern
      MatchFunction.placesMatch_ofEmptyPattern (.inl rfl) trivial 5).2.1⟩

end Matcher

end RegexMatching
