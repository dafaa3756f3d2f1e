import RegexMatching.Proofs.AnchoredSearches
import RegexMatching.Proofs.FindLoop
import RegexMatching.Proofs.RegionIsolation
import RegexMatching.Proofs.Searches

/-!
# Ways of anchoring

A fresh matcher can be asked whether its region starts with a match, whether the region is a
match, and where the first match is found.  The engines anchor in different ways, but their
answers to the three questions agree.
-/

namespace RegexMatching

open Survey (freshMatcher)

namespace Matcher

/-! ## Fresh matchers -/

/-- A matcher that has not searched yet. -/
structure IsFresh {σ : Type} (matcher : Matcher σ) (pattern : Pattern σ) (text : Text)
    (anchoringBounds : Bool) : Prop where
  consistent : matcher.Consistent
  pattern_eq : matcher.pattern = pattern
  text_eq : matcher.text = text
  anchoringBounds_eq : matcher.anchoringBounds = anchoringBounds
  goesOn : matcher.isExhausted = false
  noPrevious : matcher.previous = none

section Making

variable {pattern : Pattern EngineState} (isOffered : pattern.IsOffered)
  (isOpen : pattern.isClosed = false) {text : Text} {settings : MatcherSettings}
  {region : Option (Number × Number)} {trace after : Trace EngineState}
  {matcher : Matcher EngineState}
  (made : (freshMatcher pattern text settings region).run trace = (.ok matcher, after))

include isOffered isOpen made

theorem isFresh_of_freshMatcher : matcher.IsFresh pattern text settings.anchoringBounds := by
  obtain ⟨consistent, pattern_eq⟩ := Survey.consistent_of_freshMatcher made
  rw [Survey.freshMatcher_run isOffered isOpen] at made
  have isMade := congrArg Prod.fst made
  cases created : (initial pattern text settings.anchoringBounds 0).usePartialMatching
    settings.partialMatching with
  | error fault =>
      rw [created] at isMade
      cases isMade
  | ok initially =>
      rw [created] at isMade
      obtain ⟨rfl, -⟩ := usePartialMatching_eq_ok created
      rcases region with _ | ⟨start, stop⟩
      · cases isMade
        exact ⟨consistent, pattern_eq, rfl, rfl, rfl, rfl⟩
      · obtain ⟨first, last, -, -, -, rfl⟩ := region_eq_ok isMade
        exact ⟨consistent, pattern_eq, rfl, rfl, rfl, rfl⟩

/-- Fresh matchers are the same whatever engines were used for before. -/
theorem freshMatcher_run_eq :
    after = trace ∧ ∀ other,
      (freshMatcher pattern text settings region).run other = (.ok matcher, other) := by
  have ran := Survey.freshMatcher_run isOffered isOpen text settings region
  rw [ran] at made
  obtain ⟨isMade, unchanged⟩ := Prod.mk.inj made
  exact ⟨unchanged.symm, fun other => (ran other).trans (Prod.ext isMade rfl)⟩

end Making

/-! ## First calls -/

/-- Every first call is an attempt from the start of the region. -/
theorem IsFresh.result_eq {σ : Type} {matcher : Matcher σ} {pattern : Pattern σ} {text : Text}
    {anchoringBounds : Bool} (isFresh : matcher.IsFresh pattern text anchoringBounds)
    (answer : MatchFunction) (call : Call) :
    call.result answer matcher = matcher.seen.conclude call.anchoring
      (matcher.seen.attempted answer matcher.regionStart call.anchoring) := by
  cases call with
  | find =>
      have next : matcher.nextStart? = some matcher.regionStart := by
        have ordered := isFresh.consistent.region_le
        rw [nextStart?_eq, behind, isFresh.noPrevious]
        dsimp only
        rw [max_self, if_neg (by omega), Int.toNat_natCast]
      rw [Call.result, isFresh.goesOn, if_neg Bool.false_ne_true, next]
      rfl
  | lookingAt => rfl
  | matchWhole => rfl

/-- What an attempt from the start of the region finds.  A region that has lost its code points to
its edges is not searched. -/
def firstSpans {kind : EngineKind} (plain : kind.Code) (matcher : Matcher EngineState)
    (anchoring : Anchoring) : Except Fault (Option PointSpans) :=
  if matcher.viewEnd < matcher.viewStart then .ok none
  else
    kind.backend.search plain (.ofBytes (Utf8.encode matcher.viewText)) 0
      (anchoring.ask false false)

section First

variable {kind : EngineKind} {flags : Flags} {plain : kind.Code} {engines : EngineState}
  {matcher : Matcher EngineState} {pattern : Pattern EngineState} {text : Text}
  (isFresh : matcher.IsFresh pattern text true)
  (isCompiled : pattern.IsCompiled kind flags plain engines)
  (isPlain : pattern.canonicalEquivalence = false)
  (noMark : matcher.viewText.head? ≠ some 0xFEFF)

include isFresh isCompiled isPlain noMark

/-- A first attempt finds what a search from the start of what is seen finds. -/
theorem IsFresh.attempted_eq (anchoring : Anchoring) :
    matcher.seen.attempted (kind.backend.answering (kind.code? engines)) matcher.regionStart
        anchoring =
      (matcher.firstSpans plain anchoring).map matcher.stateOfSpans := by
  obtain ⟨consistent, rfl, rfl, anchoringBounds, -, -⟩ := isFresh
  have edges : matcher.seen.lacksLineEdges = false :=
    lacksLineEdges_of_anchoringBounds anchoringBounds
  have place : matcher.seen.placeOf? matcher.regionStart =
      if matcher.viewEnd < matcher.viewStart then none else some 0 := by
    change (if matcher.viewEnd < max matcher.viewStart matcher.viewStart then none
      else some (max matcher.viewStart matcher.viewStart - matcher.viewStart)) = _
    rw [max_self, Nat.sub_self]
  rw [firstSpans]
  by_cases isLost : matcher.viewEnd < matcher.viewStart
  · rw [if_pos isLost] at place ⊢
    rw [attempted, edges, if_neg Bool.false_ne_true, place]
    rfl
  · rw [if_neg isLost] at place ⊢
    have ask : matcher.seen.ask anchoring = anchoring.ask false false := by
      change anchoring.ask (!matcher.anchoringBounds && _) (!matcher.anchoringBounds && _) = _
      rw [anchoringBounds]
      rfl
    rw [← ask]
    exact Matcher.attempted_eq consistent.seen isCompiled isPlain noMark edges
      (place.trans (congrArg some (Text.unitsBefore_zero _).symm)) (Nat.zero_le _) anchoring

/-- What a first call that returns has found. -/
theorem IsFresh.exists_spans {call : Call} {isTrue : Bool} {final : Matcher EngineState}
    (returned : call.result (kind.backend.answering (kind.code? engines)) matcher =
      (.ok isTrue, final)) :
    ∃ spans?, matcher.firstSpans plain call.anchoring = .ok spans? ∧ isTrue = spans?.isSome ∧
      final.state = matcher.stateOfSpans spans? := by
  rw [isFresh.result_eq, isFresh.attempted_eq isCompiled isPlain noMark] at returned
  cases found : matcher.firstSpans plain call.anchoring with
  | error fault =>
      rw [found] at returned
      cases returned
  | ok spans? =>
      rw [found] at returned
      refine ⟨spans?, rfl, ?_⟩
      cases spans? <;> cases returned <;> exact ⟨rfl, rfl⟩

end First

/-! ## Where a match lies -/

section Lies

variable {matcher final : Matcher EngineState} {spans : PointSpans}
  (isFound : final.state = matcher.stateOfSpans (some spans))

include isFound

/-- The span of the whole match, by the positions that were found. -/
theorem span_whole_of_state :
    final.snapshot.span .whole =
      .ok (some ((Text.unitSpan matcher.viewText.points spans.head?.join).shift
        matcher.viewStart)) := by
  refine span_whole isFound ?_
  rw [List.head?_map, PointSpans.head?_toUnits, List.head?_eq_getElem?]
  rfl

/-- A match starts where what is seen starts exactly when it was found there. -/
theorem start_whole_iff (within : spans.Within matcher.viewText.points.length) :
    final.snapshot.start .whole = .ok (some (matcher.viewStart : Int)) ↔
      spans.startsAt 0 = true := by
  rw [Snapshot.start, span_whole_of_state isFound, PointSpans.startsAt]
  change Except.ok (some (Span.shift _ _).start) = Except.ok (some (matcher.viewStart : Int)) ↔ _
  rw [Except.ok.injEq, Option.some.injEq, beq_iff_eq]
  cases whole : spans.head?.join with
  | none =>
      change (-1 : Int) = matcher.viewStart ↔ none = some 0
      constructor
      · omega
      · exact fun same => absurd same (Option.some_ne_none 0).symm
  | some span =>
      rcases span with ⟨first, last⟩
      have mem := List.mem_of_head? (Option.join_eq_some_iff.mp whole)
      rw [Text.unitSpan, Span.shift_natCast, Option.map_some, Option.some.injEq]
      dsimp only
      rw [Int.natCast_inj]
      constructor
      · intro same
        refine Text.unitsBefore_inj (within first last mem).1 (Nat.zero_le _) ?_
        rw [Text.unitsBefore_zero]
        omega
      · intro same
        rw [same, Text.unitsBefore_zero, Nat.add_zero]

end Lies

/-! ## Answers that agree -/

/-- What is found at first, in the three ways of anchoring. -/
theorem firstSpans_agree {kind : EngineKind} {bytes : Bytes} {options : CompileOptions}
    {plain : kind.Code}
    (compiled : kind.backend.compile bytes (Anchoring.search.applyTo options) = .ok plain)
    {matcher : Matcher EngineState} (noMark : matcher.viewText.head? ≠ some 0xFEFF) :
    ∃ found? : Option PointSpans,
      matcher.firstSpans plain .search = .ok found? ∧
      (∀ spans ∈ found?, spans.Within matcher.viewText.points.length) ∧
      matcher.firstSpans plain .lookingAt = .ok (found?.filter (·.startsAt 0)) ∧
      ∀ spans, matcher.firstSpans plain .whole = .ok (some spans) →
        matcher.viewStart ≤ matcher.viewEnd ∧
          spans.head? = some (some (0, matcher.viewText.points.length)) ∧
          ∃ found, found? = some found ∧ found.startsAt 0 = true := by
  unfold firstSpans
  by_cases isLost : matcher.viewEnd < matcher.viewStart
  · simp only [if_pos isLost]
    refine ⟨none, rfl, fun spans mem => ?_, rfl, fun spans found => ?_⟩
    · cases mem
    · cases found
  · simp only [if_neg isLost]
    have size := PointText.size_points_ofBytes_encode noMark
    obtain ⟨found?, searched, lookedAt, matched⟩ := kind.search_ask compiled
      (.ofBytes (Utf8.encode matcher.viewText)) (Nat.zero_le _)
    refine ⟨found?, searched, fun spans mem => ?_, lookedAt, fun spans found => ?_⟩
    · rw [← size]
      exact kind.keepsInside _ _ _ _ spans (Nat.zero_le _) (searched.trans (congrArg _ mem))
    · rw [← size]
      exact ⟨Nat.not_lt.mp isLost, matched spans found⟩

/-- A call on a fresh matcher of its own that returns, and the matcher afterwards.  The engines hold
the code of the pattern. -/
def IsFirstCall (kind : EngineKind) (pattern : Pattern EngineState) (engines : EngineState)
    (text : Text) (settings : MatcherSettings) (region : Option (Number × Number)) (call : Call)
    (isTrue : Bool) (final : Matcher EngineState) : Prop :=
  ∃ before created matcher after, Pattern.HeldAs kind pattern engines before.engines ∧
    (freshMatcher pattern text settings region).run before = (.ok matcher, created) ∧
    call.make.exec ⟨matcher, created⟩ = (.ok isTrue, ⟨final, after⟩)

/-- A first call comes to its result on the fresh matcher. -/
theorem IsFirstCall.exists_result {kind : EngineKind} {flags : Flags} {plain : kind.Code}
    {engines : EngineState} {pattern : Pattern EngineState}
    (isCompiled : pattern.IsCompiled kind flags plain engines) {text : Text}
    {settings : MatcherSettings} {region : Option (Number × Number)} {call : Call} {isTrue : Bool}
    {final : Matcher EngineState}
    (isFirst : IsFirstCall kind pattern engines text settings region call isTrue final) :
    ∃ matcher held, matcher.IsFresh pattern text settings.anchoringBounds ∧
      (∀ trace, (freshMatcher pattern text settings region).run trace = (.ok matcher, trace)) ∧
      pattern.IsCompiled kind flags plain held ∧
      call.result (kind.backend.answering (kind.code? held)) matcher = (.ok isTrue, final) := by
  obtain ⟨before, created, matcher, after, heldAs, made, returned⟩ := isFirst
  have isFresh := isFresh_of_freshMatcher isCompiled.isOffered isCompiled.isOpen made
  obtain ⟨rfl, madeAlways⟩ := freshMatcher_run_eq isCompiled.isOffered isCompiled.isOpen made
  refine ⟨matcher, created.engines, isFresh, madeAlways, isCompiled.of_heldAs heldAs, ?_⟩
  have answers := kind.answersBy (kind.code? created.engines)
  rw [← isCompiled.engine, ← isFresh.pattern_eq] at answers
  have isUsable : kind.code? created.engines = kind.code? created.engines := rfl
  obtain ⟨after', -, made'⟩ := call.make_exec_eq isFresh.consistent answers isUsable
  rw [returned] at made'
  obtain ⟨sameAnswer, sameFinal⟩ := Prod.mk.inj made'
  exact Prod.ext sameAnswer.symm (congrArg Configuration.matcher sameFinal).symm

/-- The edges of what is seen, by the region afterwards. -/
theorem IsFresh.edges_eq {matcher final : Matcher EngineState} {pattern : Pattern EngineState}
    {text : Text} {anchoringBounds : Bool} (isFresh : matcher.IsFresh pattern text anchoringBounds)
    (isPlain : pattern.canonicalEquivalence = false) (task : matcher.SameTask final) :
    text.ceilIndex final.regionStart = matcher.viewStart ∧
      text.floorIndex final.regionEnd = matcher.viewEnd := by
  obtain ⟨consistent, rfl, rfl, -, -, -⟩ := isFresh
  rw [task.regionStart, task.regionEnd]
  exact ⟨(consistent.viewStart_eq isPlain).symm, (consistent.viewEnd_eq isPlain).symm⟩

/-- A match of all that is seen reaches from one edge to the other. -/
theorem IsFresh.span_whole {matcher final : Matcher EngineState} {pattern : Pattern EngineState}
    {text : Text} {anchoringBounds : Bool} (isFresh : matcher.IsFresh pattern text anchoringBounds)
    (ordered : matcher.viewStart ≤ matcher.viewEnd) {spans : PointSpans}
    (isFound : final.state = matcher.stateOfSpans (some spans))
    (whole : spans.head? = some (some (0, matcher.viewText.points.length))) :
    final.snapshot.span .whole = .ok (some ⟨matcher.viewStart, matcher.viewEnd⟩) := by
  have inside := isFresh.consistent.isBoundary_viewEnd.1
  have length : matcher.viewText.length = matcher.viewEnd - matcher.viewStart := by
    rw [viewText, Text.length_between, Nat.min_eq_left inside]
  rw [span_whole_of_state isFound, whole]
  change Except.ok (some (Span.shift ⟨Text.unitsBefore _ 0, Text.unitsBefore _ _⟩ _)) = _
  rw [Text.unitsBefore_zero, Text.unitsBefore_length, length, Span.shift_natCast, Nat.add_zero,
    Nat.add_sub_cancel' ordered]

end Matcher

end RegexMatching
