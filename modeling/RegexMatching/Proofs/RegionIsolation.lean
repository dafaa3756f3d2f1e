import RegexMatching.Proofs.Answers

/-!
# Nothing outside a region counts

A matcher on a region and a fresh matcher on the code points inside the region let the
engine see the same bytes.  They run in lockstep: after the same calls, one has come to
what the other has come to, at offsets that lie as far apart as the region lies from the
start of its text.
-/

namespace RegexMatching

open Utf8 (bytesBefore)

/-- A state with its spans further on in a text. -/
def MatchState.shift (state : MatchState) (distance : Nat) : MatchState :=
  match state with
  | .fresh => .fresh
  | .noMatch isPartial => .noMatch isPartial
  | .found spans mark => .found (spans.map (·.shift distance)) mark

/-- A span that is unset or lies between boundaries of a text. -/
def Span.IsPlaced (text : Text) (span : Span) : Prop :=
  span = .unset ∨ ∃ first last : Nat, span = ⟨first, last⟩ ∧ text.IsBoundary first ∧
    text.IsBoundary last

/-- A group at code point boundaries lies between boundaries of the text. -/
theorem Report.isPlaced_unitSpan (report : Report) {text : Text} {group : Nat}
    (cutsNoPoint : ∀ first last, report.set? group = some (first, last) →
      Utf8.IsBoundary (Utf8.encode text) first ∧ Utf8.IsBoundary (Utf8.encode text) last) :
    (report.unitSpan text group).IsPlaced text := by
  unfold unitSpan
  cases isSet : report.set? group with
  | none => exact .inl rfl
  | some pair =>
      rcases pair with ⟨first, last⟩
      rcases cutsNoPoint first last isSet with ⟨atFirst, atLast⟩
      exact .inr ⟨_, _, rfl, (Text.isBoundary_indexAt atFirst).1,
        (Text.isBoundary_indexAt atLast).1⟩

namespace Matcher

variable {σ : Type} {usable : σ → Prop} {answer : MatchFunction}

/-! ## Steps behind a match -/

/-- The offset behind a match that is set. -/
def stepFrom (text : Text) (first last : Nat) : Nat :=
  if first = last then last + (if text.isPairAt last then 2 else 1) else last

theorem stepBehind_natCast (text : Text) (first last : Nat) :
    stepBehind text ⟨first, last⟩ = stepFrom text first last := by
  have isSet : decide (0 ≤ (last : Int)) = true := decide_eq_true (Int.natCast_nonneg last)
  simp only [stepBehind, stepFrom, isSet, Bool.true_and, Int.toNat_natCast, Int.natCast_inj]
  split
  · split <;> rfl
  · rfl

theorem nextStart?_of_behind {matcher : Matcher σ} {index : Nat} (behind : matcher.behind = index) :
    matcher.nextStart? =
      if matcher.regionEnd < max index matcher.regionStart then none
      else some (max index matcher.regionStart) := by
  rw [nextStart?_eq, behind]
  split <;> split <;> first | rfl | omega | (rw [Option.some.injEq]; omega)

/-! ## Two matchers in lockstep -/

/-- A matcher on a region goes on like one on the code points inside the region. -/
structure Follows (distance : Nat) (restricted fresh : Matcher σ) : Prop where
  restricted_consistent : restricted.Consistent
  fresh_consistent : fresh.Consistent
  pattern : restricted.pattern = fresh.pattern
  isPlain : fresh.pattern.canonicalEquivalence = false
  viewStart : restricted.viewStart = distance
  viewEnd : restricted.viewEnd = distance + fresh.text.length
  viewText : restricted.viewText = fresh.text
  fresh_regionStart : fresh.regionStart = 0
  fresh_regionEnd : fresh.regionEnd = fresh.text.length
  restricted_anchoringBounds : restricted.anchoringBounds = true
  fresh_anchoringBounds : fresh.anchoringBounds = true
  partialMatching : restricted.partialMatching = fresh.partialMatching
  isExhausted : restricted.isExhausted = fresh.isExhausted
  state : restricted.state = fresh.state.shift distance
  previous : restricted.previous = fresh.previous.map (·.shift distance)
  isPlaced : ∀ span ∈ fresh.previous, span.IsPlaced fresh.text

/-- Without outer line edges there is nothing that an engine could lack. -/
theorem lacksLineEdges_of_anchoringBounds {matcher : Matcher σ}
    (isAnchoring : matcher.anchoringBounds = true) : matcher.lacksLineEdges = false := by
  rw [lacksLineEdges, isAnchoring]
  rfl

namespace Follows

variable {distance : Nat} {restricted fresh : Matcher σ}
  (follows : Follows distance restricted fresh)

include follows

theorem restricted_isPlain : restricted.pattern.canonicalEquivalence = false := by
  rw [follows.pattern]
  exact follows.isPlain

theorem fresh_viewStart : fresh.viewStart = 0 := by
  rw [follows.fresh_consistent.viewStart_eq follows.isPlain, follows.fresh_regionStart]
  exact Text.ceilIndex_eq_self (Text.isBoundary_zero _)

theorem fresh_viewEnd : fresh.viewEnd = fresh.text.length := by
  rw [follows.fresh_consistent.viewEnd_eq follows.isPlain, follows.fresh_regionEnd]
  exact Text.floorIndex_eq_self (Text.isBoundary_length _)

theorem fresh_viewText : fresh.viewText = fresh.text := by
  rw [Matcher.viewText, follows.fresh_viewStart, follows.fresh_viewEnd,
    searchedText_eq follows.isPlain, Text.between, List.take_length, List.drop_zero]

theorem seen : Follows distance restricted.seen fresh.seen :=
  { follows with
    restricted_consistent := follows.restricted_consistent.seen
    fresh_consistent := follows.fresh_consistent.seen }

/-- An index of the fresh text is a boundary where it lies in the other text. -/
theorem isBoundary_add {index : Nat} (boundary : fresh.text.IsBoundary index) :
    restricted.text.IsBoundary (distance + index) ∧ distance + index ≤ restricted.viewEnd := by
  have isPlain := follows.restricted_isPlain
  have inside : restricted.viewStart + index ≤ restricted.viewEnd := by
    rw [follows.viewStart, follows.viewEnd]
    exact Nat.add_le_add_left boundary.1 distance
  rw [← follows.viewText] at boundary
  have inText := (Text.isBoundary_between_iff follows.restricted_consistent.isBoundary_viewStart
    follows.restricted_consistent.isBoundary_viewEnd inside).mp boundary
  rw [searchedText_eq isPlain, follows.viewStart] at inText
  rw [follows.viewStart] at inside
  exact ⟨inText, inside⟩

/-! ### Where attempts start -/

theorem fresh_placeOf? {index : Nat} (boundary : fresh.text.IsBoundary index) :
    fresh.placeOf? index = some index := by
  rw [placeOf?, searchedText_eq follows.isPlain,
    follows.fresh_consistent.ofSubject_eq follows.isPlain, Text.ceilIndex_eq_self boundary,
    follows.fresh_viewStart, follows.fresh_viewEnd, Nat.max_eq_left (Nat.zero_le _),
    if_neg (Nat.not_lt.mpr boundary.1), Nat.sub_zero]

theorem restricted_placeOf? {index : Nat} (boundary : fresh.text.IsBoundary index) :
    restricted.placeOf? (distance + index) = some index := by
  rcases follows.isBoundary_add boundary with ⟨atIndex, inView⟩
  rw [placeOf?, searchedText_eq follows.restricted_isPlain,
    follows.restricted_consistent.ofSubject_eq follows.restricted_isPlain,
    Text.ceilIndex_eq_self atIndex, follows.viewStart, Nat.max_eq_left (Nat.le_add_right _ _),
    if_neg (Nat.not_lt.mpr inView), Nat.add_sub_cancel_left]

/-- The region starts where the fresh text starts. -/
theorem restricted_placeOf?_regionStart :
    restricted.placeOf? restricted.regionStart = some 0 := by
  have start := follows.restricted_consistent.viewStart_eq follows.restricted_isPlain
  rw [placeOf?, searchedText_eq follows.restricted_isPlain,
    follows.restricted_consistent.ofSubject_eq follows.restricted_isPlain, ← start,
    Nat.max_self, if_neg, Nat.sub_self]
  rw [follows.viewStart, follows.viewEnd]
  omega

/-! ### Where searches go on -/

theorem isPairAt_iff (index : Nat) :
    fresh.text.isPairAt index = true ↔
      restricted.text.isPairAt (distance + index) = true ∧
        distance + index + 1 < restricted.viewEnd := by
  rw [← follows.viewText, Matcher.viewText, searchedText_eq follows.restricted_isPlain,
    Text.isPairAt_between, follows.viewStart]

/-- Behind a match, both searches go on at the same boundary, or both have come to the end.
A pair that the end of the region cuts is a pair of the whole text only, and the step over
it leads out of the region as the step of one unit leads out of the fresh text. -/
theorem stepFrom_cases (first : Nat) {last : Nat} (boundary : fresh.text.IsBoundary last) :
    (fresh.text.length < stepFrom fresh.text first last ∧
        restricted.regionEnd <
          stepFrom restricted.text (distance + first) (distance + last)) ∨
      (fresh.text.IsBoundary (stepFrom fresh.text first last) ∧
        stepFrom restricted.text (distance + first) (distance + last) =
          distance + stepFrom fresh.text first last) := by
  have viewEnd := follows.viewEnd
  have atEnd := follows.restricted_consistent.isBoundary_viewEnd
  have floor := follows.restricted_consistent.viewEnd_eq follows.restricted_isPlain
  have edge := Text.floorIndex_cases restricted.text restricted.regionEnd
  rw [searchedText_eq follows.restricted_isPlain] at atEnd
  rw [← floor] at edge
  have pairIff := follows.isPairAt_iff last
  have inside := boundary.1
  by_cases isEmpty : first = last
  · subst isEmpty
    rw [stepFrom, stepFrom, if_pos rfl, if_pos rfl]
    by_cases freshPair : fresh.text.isPairAt first = true
    · have within := Text.length_of_isPairAt freshPair
      rw [if_pos freshPair, if_pos (pairIff.mp freshPair).1]
      refine .inr ⟨⟨within, ?_⟩, Nat.add_assoc _ _ _⟩
      rw [Text.splitsPair_succ, Text.isPairAt_succ_of_isPairAt freshPair]
    · rw [if_neg freshPair]
      -- A pair of the whole text alone is one that the end of the region cuts.
      by_cases pair : restricted.text.isPairAt (distance + first) = true
      · have cut : ¬distance + first + 1 < restricted.viewEnd :=
          fun within => freshPair (pairIff.mpr ⟨pair, within⟩)
        have notInside : restricted.viewEnd ≠ distance + first + 1 := by
          intro splits
          rw [splits, Text.IsBoundary, Text.splitsPair_succ, pair] at atEnd
          exact Bool.noConfusion atEnd.2
        rw [if_pos pair]
        refine .inl ⟨by omega, ?_⟩
        rcases edge with edge | edge <;> omega
      · rw [if_neg pair]
        rcases Nat.lt_or_eq_of_le inside with less | atLength
        · refine .inr ⟨⟨less, ?_⟩, Nat.add_assoc _ _ _⟩
          rw [Text.splitsPair_succ]
          exact Bool.eq_false_iff.mpr freshPair
        · refine .inl ⟨by omega, ?_⟩
          rcases edge with edge | ⟨edge, cutPair⟩
          · omega
          · rw [viewEnd, ← atLength] at cutPair
            exact absurd cutPair pair
  · rw [stepFrom, stepFrom, if_neg isEmpty, if_neg fun same => isEmpty (Nat.add_left_cancel same)]
    exact .inr ⟨boundary, rfl⟩

/-- Both searches go on from the same place, or neither goes on. -/
theorem nextStart?_cases :
    (restricted.nextStart? = none ∧ fresh.nextStart? = none) ∨
      ∃ start start' place, restricted.nextStart? = some start ∧
        fresh.nextStart? = some start' ∧ start' ≤ fresh.text.length ∧
        restricted.placeOf? start = some place ∧ fresh.placeOf? start' = some place := by
  have region := follows.restricted_consistent.region_le
  -- Without a match behind the region start, both go on from where what they see starts.
  have fromStart : ∀ behind : Nat, restricted.behind = behind → fresh.behind = (0 : Nat) →
      behind ≤ restricted.regionStart →
      ∃ start start' place, restricted.nextStart? = some start ∧
        fresh.nextStart? = some start' ∧ start' ≤ fresh.text.length ∧
        restricted.placeOf? start = some place ∧ fresh.placeOf? start' = some place := by
    intro behind isBehind freshBehind le
    refine ⟨restricted.regionStart, 0, 0, ?_, ?_, Nat.zero_le _,
      follows.restricted_placeOf?_regionStart, follows.fresh_placeOf? (Text.isBoundary_zero _)⟩
    · rw [nextStart?_of_behind isBehind, Nat.max_eq_right le, if_neg (Nat.not_lt.mpr region)]
    · rw [nextStart?_of_behind freshBehind, follows.fresh_regionStart, Nat.max_self,
        if_neg (Nat.not_lt.mpr (Nat.zero_le _))]
  have previous := follows.previous
  have isPlaced := follows.isPlaced
  cases isPrevious : fresh.previous with
  | none =>
      rw [isPrevious] at previous
      refine .inr (fromStart restricted.regionStart ?_ ?_ (Nat.le_refl _))
      · rw [behind, previous]
        rfl
      · rw [behind, isPrevious, follows.fresh_regionStart]
  | some span =>
      rw [isPrevious] at previous isPlaced
      rcases isPlaced span rfl with rfl | ⟨first, last, rfl, -, atLast⟩
      · refine .inr (fromStart 0 ?_ ?_ (Nat.zero_le _))
        · rw [behind, previous]
          rfl
        · rw [behind, isPrevious]
          rfl
      · have behindRestricted : restricted.behind =
            stepFrom restricted.text (distance + first) (distance + last) := by
          rw [behind, previous, Option.map_some, Span.shift_natCast]
          exact stepBehind_natCast _ _ _
        have behindFresh : fresh.behind = stepFrom fresh.text first last := by
          rw [behind, isPrevious]
          exact stepBehind_natCast _ _ _
        rw [nextStart?_of_behind behindRestricted, nextStart?_of_behind behindFresh,
          follows.fresh_regionStart, follows.fresh_regionEnd, Nat.max_eq_left (Nat.zero_le _)]
        rcases follows.stepFrom_cases first atLast with
          ⟨freshEnds, ends⟩ | ⟨boundary, same⟩
        · rw [if_pos freshEnds, if_pos (Nat.lt_of_lt_of_le ends (Nat.le_max_left _ _))]
          exact .inl ⟨rfl, rfl⟩
        · have leEnd := (follows.isBoundary_add boundary).2
          have startLe := Text.le_ceilIndex restricted.text restricted.regionStart
          rw [← follows.restricted_consistent.viewStart_eq follows.restricted_isPlain,
            follows.viewStart] at startLe
          have endLe := Text.floorIndex_le restricted.text restricted.regionEnd
          rw [← follows.restricted_consistent.viewEnd_eq follows.restricted_isPlain] at endLe
          rw [same, if_neg (Nat.not_lt.mpr boundary.1), Nat.max_eq_left (by omega),
            if_neg (by omega)]
          exact .inr ⟨_, _, _, rfl, rfl, boundary.1, follows.restricted_placeOf? boundary,
            follows.fresh_placeOf? boundary⟩

/-! ### Attempts -/

/-- Both matchers ask the same, whatever their stacks are. -/
theorem to_requestAt (answer : MatchFunction) (place : Nat) (anchoring : Anchoring) :
    answer.to (restricted.requestAt place anchoring) =
      answer.to (fresh.requestAt place anchoring) := by
  have sameOptions : ∀ variant, restricted.matchOptions variant = fresh.matchOptions variant := by
    intro variant
    rw [matchOptions, matchOptions, follows.restricted_anchoringBounds,
      follows.fresh_anchoringBounds, follows.partialMatching]
    rfl
  rw [MatchFunction.to, MatchFunction.to, requestAt, requestAt, follows.viewText,
    follows.fresh_viewText, follows.pattern, sameOptions]

/-- From the same place, both attempts come to the same. -/
theorem attempted_eq (cutsNoPoint : answer.Promises fun report subject _ =>
      report.CutsNoPoint subject) {start start' place : Nat}
    (starts : restricted.placeOf? start = some place)
    (starts' : fresh.placeOf? start' = some place) (inside : start' ≤ fresh.text.length)
    (anchoring : Anchoring) :
    restricted.attempted answer start anchoring =
        (fresh.attempted answer start' anchoring).map (·.shift distance) ∧
      ∀ spans mark, fresh.attempted answer start' anchoring = .ok (.found spans mark) →
        ∀ span ∈ spans.head?, span.IsPlaced fresh.text := by
  have isPlain := follows.isPlain
  have atPlace := follows.fresh_consistent.isBoundary_of_placeOf? inside starts'
  rw [attempted, attempted, lacksLineEdges_of_anchoringBounds follows.restricted_anchoringBounds,
    lacksLineEdges_of_anchoringBounds follows.fresh_anchoringBounds, starts, starts']
  dsimp only
  rw [follows.to_requestAt answer place anchoring, follows.pattern]
  simp only [Bool.false_eq_true, if_false]
  cases answered : answer.to (fresh.requestAt place anchoring) with
  | error fault => exact ⟨rfl, fun spans mark found => by contradiction⟩
  | ok report =>
      cases isMatch : report.isMatch with
      | false =>
          simp only [Adapter.outcomeOf, isMatch, Bool.false_eq_true, if_false]
          split
          · exact ⟨rfl, fun spans mark found => by cases found⟩
          · split <;> exact ⟨rfl, fun spans mark found => by cases found⟩
      | true =>
          have cuts := cutsNoPoint _ _ _ _ report (Utf8.isBoundary_bytesBefore atPlace) answered
            isMatch
          have freshSpans := follows.fresh_consistent.subjectSpans_captures isPlain
            (viewStart_le_viewEnd starts') cuts
          rw [follows.fresh_viewText] at cuts freshSpans
          rw [follows.fresh_viewStart] at freshSpans
          simp only [Span.shift_zero, List.map_id'] at freshSpans
          have spans := follows.restricted_consistent.subjectSpans_captures
            follows.restricted_isPlain (viewStart_le_viewEnd starts) (follows.viewText ▸ cuts)
          rw [follows.viewText, follows.viewStart] at spans
          simp only [Adapter.outcomeOf, isMatch, if_true, Except.bind, stateOf, spans, freshSpans]
          constructor
          · rfl
          · intro spans mark found span mem
            cases found
            rw [report.head?_unitSpans, Option.mem_some] at mem
            subst mem
            exact report.isPlaced_unitSpan (cuts 0)

/-! ### Calls -/

/-- Taking in the same state keeps both matchers in lockstep. -/
theorem conclude (anchoring : Anchoring) (attempted : Except Fault MatchState)
    (isPlaced : ∀ spans mark, attempted = .ok (.found spans mark) →
      ∀ span ∈ spans.head?, span.IsPlaced fresh.text) :
    (restricted.conclude anchoring (attempted.map (·.shift distance))).1 =
        (fresh.conclude anchoring attempted).1 ∧
      Follows distance (restricted.conclude anchoring (attempted.map (·.shift distance))).2
        (fresh.conclude anchoring attempted).2 := by
  have exhausts := congrArg (· || anchoring == .search) follows.isExhausted
  cases attempted with
  | error fault => exact ⟨rfl, follows⟩
  | ok state =>
      have consistent := follows.restricted_consistent.settle anchoring (state.shift distance)
      have consistent' := follows.fresh_consistent.settle anchoring state
      constructor
      · cases state <;> rfl
      · cases state with
        | fresh =>
            exact { follows with
              restricted_consistent := consistent
              fresh_consistent := consistent'
              isExhausted := exhausts
              state := rfl }
        | noMatch isPartial =>
            exact { follows with
              restricted_consistent := consistent
              fresh_consistent := consistent'
              isExhausted := exhausts
              state := rfl }
        | found spans mark =>
            exact { follows with
              restricted_consistent := consistent
              fresh_consistent := consistent'
              state := rfl
              previous := List.head?_map
              isPlaced := isPlaced spans mark rfl }

/-- A call comes to the same for both matchers and keeps them in lockstep. -/
theorem result (cutsNoPoint : answer.Promises fun report subject _ =>
      report.CutsNoPoint subject) (call : Call) :
    (call.result answer restricted).1 = (call.result answer fresh).1 ∧
      Follows distance (call.result answer restricted).2 (call.result answer fresh).2 := by
  have search : ∀ start start' place anchoring, restricted.placeOf? start = some place →
      fresh.placeOf? start' = some place → start' ≤ fresh.text.length →
      (restricted.seen.conclude anchoring
            (restricted.seen.attempted answer start anchoring)).1 =
          (fresh.seen.conclude anchoring (fresh.seen.attempted answer start' anchoring)).1 ∧
        Follows distance
          (restricted.seen.conclude anchoring
            (restricted.seen.attempted answer start anchoring)).2
          (fresh.seen.conclude anchoring (fresh.seen.attempted answer start' anchoring)).2 := by
    intro start start' place anchoring starts starts' inside
    obtain ⟨same, isPlaced⟩ :=
      follows.seen.attempted_eq cutsNoPoint starts starts' inside anchoring
    rw [same]
    exact follows.seen.conclude anchoring _ isPlaced
  have atStart : fresh.placeOf? fresh.regionStart = some 0 := by
    rw [follows.fresh_regionStart]
    exact follows.fresh_placeOf? (Text.isBoundary_zero _)
  cases call with
  | find =>
      rw [Call.result, Call.result, follows.isExhausted]
      split
      · exact ⟨rfl, follows⟩
      · rcases follows.nextStart?_cases with ⟨ends, freshEnds⟩ |
          ⟨start, start', place, next, next', inside, starts, starts'⟩
        · rw [ends, freshEnds]
          exact follows.conclude .search (.ok (.noMatch false)) fun spans mark found => by
            cases found
        · rw [next, next']
          exact search start start' place .search starts starts' inside
  | lookingAt =>
      exact search _ _ 0 .lookingAt follows.restricted_placeOf?_regionStart atStart
        follows.fresh_consistent.regionStart_le
  | matchWhole =>
      exact search _ _ 0 .whole follows.restricted_placeOf?_regionStart atStart
        follows.fresh_consistent.regionStart_le

end Follows

/-! ## Sequences of calls -/

/-- What calls come to, each with the state that it leaves. -/
def callResults : List Call → Configuration σ → List (Except Fault Bool × MatchState)
  | [], _ => []
  | call :: rest, configuration =>
      let made := call.make.exec configuration
      (made.1, made.2.matcher.state) :: callResults rest made.2

/-- Results at offsets further on in a text. -/
def shiftResult (distance : Nat) (result : Except Fault Bool × MatchState) :
    Except Fault Bool × MatchState :=
  (result.1, result.2.shift distance)

/-- Matchers in lockstep stay so for any calls. -/
theorem Follows.callResults_eq {distance : Nat} {restricted fresh : Matcher σ}
    (follows : Follows distance restricted fresh)
    (answers : fresh.pattern.adapter.engine.AnswersBy usable answer)
    (cutsNoPoint : answer.Promises fun report subject _ => report.CutsNoPoint subject)
    (calls : List Call) {trace trace' : Trace σ} (isUsable : usable trace.engines)
    (isUsable' : usable trace'.engines) :
    callResults calls ⟨restricted, trace⟩ =
      (callResults calls ⟨fresh, trace'⟩).map (shiftResult distance) := by
  induction calls generalizing restricted fresh trace trace' with
  | nil => rfl
  | cons call rest ih =>
      obtain ⟨after, usableAfter, made⟩ :=
        call.make_exec_eq follows.restricted_consistent (follows.pattern ▸ answers) isUsable
      obtain ⟨after', usableAfter', made'⟩ :=
        call.make_exec_eq follows.fresh_consistent answers isUsable'
      rcases follows.result cutsNoPoint call with ⟨sameOutcome, follows'⟩
      have samePattern := (call.sameTask_result answer fresh).pattern
      have rest' := ih follows' (samePattern ▸ answers) usableAfter usableAfter'
      rw [callResults, callResults, made, made', List.map_cons]
      dsimp only
      rw [rest', shiftResult, sameOutcome, follows'.state]

/-! ## Regions inside a pair -/

/-- A region that has lost its code points to its edges has nothing to find. -/
theorem Call.result_of_lost (call : Call) (answer : MatchFunction) {matcher : Matcher σ}
    (consistent : matcher.Consistent) (isPlain : matcher.pattern.canonicalEquivalence = false)
    (isAnchoring : matcher.anchoringBounds = true)
    (lost : matcher.text.floorIndex matcher.regionEnd <
      matcher.text.ceilIndex matcher.regionStart) :
    (call.result answer matcher).1 = .ok false := by
  rw [← consistent.viewStart_eq isPlain, ← consistent.viewEnd_eq isPlain] at lost
  have nothing : ∀ start anchoring,
      matcher.seen.attempted answer start anchoring = .ok (.noMatch false) := by
    intro start anchoring
    have noPlace : matcher.seen.placeOf? start = none :=
      if_pos (Nat.lt_of_lt_of_le lost (Nat.le_max_right _ _))
    rw [attempted, show matcher.seen.lacksLineEdges = false from
      lacksLineEdges_of_anchoringBounds isAnchoring, noPlace]
    rfl
  cases call with
  | find =>
      rw [result]
      split
      · rfl
      · cases matcher.nextStart? with
        | none => rfl
        | some start =>
            dsimp only
            rw [nothing]
            rfl
  | lookingAt =>
      rw [result, nothing]
      rfl
  | matchWhole =>
      rw [result, nothing]
      rfl

theorem callResults_of_lost (calls : List Call) {matcher : Matcher σ}
    (consistent : matcher.Consistent) (isPlain : matcher.pattern.canonicalEquivalence = false)
    (isAnchoring : matcher.anchoringBounds = true)
    (answers : matcher.pattern.adapter.engine.AnswersBy usable answer)
    (lost : matcher.text.floorIndex matcher.regionEnd < matcher.text.ceilIndex matcher.regionStart)
    {trace : Trace σ} (isUsable : usable trace.engines) :
    ∀ result ∈ callResults calls ⟨matcher, trace⟩, result.1 = .ok false := by
  induction calls generalizing matcher trace with
  | nil => exact fun result mem => absurd mem List.not_mem_nil
  | cons call rest ih =>
      rcases call.make_exec_eq consistent answers isUsable with ⟨after, usableAfter, made⟩
      have task := call.sameTask_result answer matcher
      have rest' := ih (call.consistent_result answer consistent) (task.pattern ▸ isPlain)
        (task.anchoringBounds.trans isAnchoring) (task.pattern ▸ answers)
        (by rw [task.text, task.regionStart, task.regionEnd]; exact lost) usableAfter
      rw [callResults, made]
      intro result mem
      rcases List.mem_cons.mp mem with rfl | mem
      · exact call.result_of_lost answer consistent isPlain isAnchoring lost
      · exact rest' result mem

/-! ## Isolation -/

/-- A matcher on a region and a fresh one on the code points of the region are in
lockstep. -/
theorem follows_initial {matcher : Matcher σ} (consistent : matcher.Consistent)
    (isPlain : matcher.pattern.canonicalEquivalence = false)
    (isAnchoring : matcher.anchoringBounds = true) {first last : Nat} (ordered : first ≤ last)
    (inside : last ≤ matcher.text.length)
    (whole : matcher.text.ceilIndex first ≤ matcher.text.floorIndex last) (stack : Handle) :
    Follows (matcher.text.ceilIndex first) (matcher.restrictedTo first last)
      { initial matcher.pattern
          (matcher.text.between (matcher.text.ceilIndex first) (matcher.text.floorIndex last))
          true stack with
        partialMatching := matcher.partialMatching } := by
  have restricted := consistent.restrictedTo ordered inside
  have viewStart : (matcher.restrictedTo first last).viewStart = matcher.text.ceilIndex first :=
    restricted.viewStart_eq isPlain
  have viewEnd : (matcher.restrictedTo first last).viewEnd = matcher.text.floorIndex last :=
    restricted.viewEnd_eq isPlain
  have searched : (matcher.restrictedTo first last).searchedText = matcher.text :=
    searchedText_eq isPlain
  have length :
      (matcher.text.between (matcher.text.ceilIndex first) (matcher.text.floorIndex last)).length =
        matcher.text.floorIndex last - matcher.text.ceilIndex first := by
    rw [Text.length_between, Nat.min_eq_left (Text.isBoundary_floorIndex inside).1]
  have fresh := initial_consistent consistent.isOpen
    (matcher.text.between (matcher.text.ceilIndex first) (matcher.text.floorIndex last)) true stack
  exact {
    restricted_consistent := restricted
    fresh_consistent := ⟨fresh.searched, fresh.region_le, fresh.regionEnd_le, fresh.view,
      consistent.partialMatching, fresh.isOpen⟩
    pattern := rfl
    isPlain := isPlain
    viewStart := viewStart
    viewEnd := viewEnd.trans ((Nat.add_sub_of_le whole).symm.trans (congrArg _ length.symm))
    viewText := by
      rw [viewText, searched, viewStart, viewEnd]
      rfl
    fresh_regionStart := rfl
    fresh_regionEnd := rfl
    restricted_anchoringBounds := isAnchoring
    fresh_anchoringBounds := rfl
    partialMatching := rfl
    isExhausted := rfl
    state := rfl
    previous := rfl
    isPlaced := fun span mem => by contradiction }

/-- Nothing outside a region with anchoring bounds counts.  Any calls on a matcher come to
what they come to on a fresh matcher on the code points of the region, at offsets that lie
as far apart as the region lies from the start of its text.  Where the edges of the region
leave no room between them, nothing is ever found. -/
theorem calls_isolated {matcher restricted : Matcher σ}
    (reached : matcher.Reachable (fun _ => True) fun _ => True)
    (isPlain : matcher.pattern.canonicalEquivalence = false)
    (isAnchoring : matcher.anchoringBounds = true)
    (answers : matcher.pattern.adapter.engine.AnswersBy usable answer)
    (cutsNoPoint : answer.Promises fun report subject _ => report.CutsNoPoint subject)
    {start stop : Number} (isRestricted : matcher.region start stop = .ok restricted) :
    (matcher.text.ceilIndex restricted.regionStart ≤
        matcher.text.floorIndex restricted.regionEnd →
      ∀ origin : Trace σ, ∃ fresh after,
        (create matcher.pattern
            (matcher.text.slice (matcher.text.ceilIndex restricted.regionStart)
              (matcher.text.floorIndex restricted.regionEnd))
            { anchoringBounds := true, partialMatching := matcher.partialMatching }).run origin =
          (.ok fresh, after) ∧
        ∀ (calls : List Call) (trace trace' : Trace σ), usable trace.engines →
          usable trace'.engines →
          callResults calls ⟨restricted, trace⟩ =
            (callResults calls ⟨fresh, trace'⟩).map
              (shiftResult (matcher.text.ceilIndex restricted.regionStart))) ∧
    (matcher.text.floorIndex restricted.regionEnd <
        matcher.text.ceilIndex restricted.regionStart →
      ∀ (calls : List Call) (trace : Trace σ), usable trace.engines →
        ∀ result ∈ callResults calls ⟨restricted, trace⟩, result.1 = .ok false) := by
  have consistent := reached.consistent.1
  rcases region_eq_ok isRestricted with ⟨first, last, -, atStop, ordered, rfl⟩
  have inside := toIndex?_le atStop
  constructor
  · intro whole origin
    have slice := Text.slice_eq_between matcher.text
      (Text.isBoundary_ceilIndex (Nat.le_trans ordered inside)).1
      (Text.isBoundary_floorIndex inside).1
    have follows := follows_initial consistent isPlain isAnchoring ordered inside whole
      (matcher.pattern.adapter.engine.makeStack.run origin.engines).1
    have created := @create_run_of_supported σ matcher.pattern consistent.isOpen
      { anchoringBounds := true, partialMatching := matcher.partialMatching }
      consistent.partialMatching
      (matcher.text.between (matcher.text.ceilIndex first) (matcher.text.floorIndex last)) origin
    rw [← slice] at created
    exact ⟨_, _, created, fun calls trace trace' isUsable isUsable' =>
      (slice ▸ follows).callResults_eq answers cutsNoPoint calls isUsable isUsable'⟩
  · intro lost calls trace isUsable
    exact callResults_of_lost calls (consistent.restrictedTo ordered inside) isPlain isAnchoring
      answers lost isUsable

/-- A region that starts in a pair and the text behind that pair. -/
theorem calls_isolated_behind_pair :
    let matcher := initial .ofEmptyPattern [0xD83D, 0xDE00, 0x61] true 0
    ∃ fresh after,
      (create .ofEmptyPattern [0x61] {}).run ⟨0, []⟩ = (.ok fresh, after) ∧
      callResults [.find, .lookingAt, .find, .matchWhole] ⟨matcher.restrictedTo 1 3, ⟨0, []⟩⟩ =
        (callResults [.find, .lookingAt, .find, .matchWhole] ⟨fresh, ⟨0, []⟩⟩).map
          (shiftResult 2) := by
  have isCreated : (create .ofEmptyPattern [0xD83D, 0xDE00, 0x61] {}).run ⟨0, []⟩ =
      (.ok (initial .ofEmptyPattern [0xD83D, 0xDE00, 0x61] true 0), ⟨0, []⟩) := rfl
  have reached : (initial .ofEmptyPattern [0xD83D, 0xDE00, 0x61] true 0).Reachable
      (fun _ => True) fun _ => True := .created trivial trivial isCreated
  have restricted : (initial .ofEmptyPattern [0xD83D, 0xDE00, 0x61] true 0).region
      (.finite false 1 0) (.finite false 3 0) =
        .ok ((initial .ofEmptyPattern [0xD83D, 0xDE00, 0x61] true 0).restrictedTo 1 3) := rfl
  obtain ⟨fresh, after, created, same⟩ :=
    (calls_isolated reached rfl rfl Engine.answersBy_ofEmptyPattern
      MatchFunction.cutsNoPoint_ofEmptyPattern restricted).1 (by decide) ⟨0, []⟩
  exact ⟨fresh, after, created, same _ _ _ trivial trivial⟩

end Matcher

end RegexMatching
