import RegexMatching.Proofs.Compiling
import RegexMatching.Proofs.Reachable

/-!
# Searches with compiled patterns

An attempt of a matcher with a compiled pattern is one search with its plain code, through the
code points that the engine sees.  What the search finds comes back in units of the subject.
-/

namespace RegexMatching

open Utf8 (bytesBefore)

/-- The engines on offer have no stacks. -/
theorem Pattern.IsOffered.makeStack_run {pattern : Pattern EngineState}
    (isOffered : pattern.IsOffered) (engines : EngineState) :
    pattern.adapter.engine.makeStack.run engines = (0, engines) := by
  obtain ⟨kind, isKind⟩ := isOffered
  rw [isKind]
  cases kind <;> rfl

namespace Matcher

variable {kind : EngineKind} {flags : Flags} {plain : kind.Code} {engines : EngineState}
  {matcher : Matcher EngineState}

/-- What an attempt asks for: its anchoring, and which edges of the region are inside a line. -/
def ask {σ : Type} (matcher : Matcher σ) (anchoring : Anchoring) : MatchOptions :=
  anchoring.ask (!matcher.anchoringBounds && 0 < matcher.regionStart)
    (!matcher.anchoringBounds && matcher.regionEnd < matcher.text.length)

/-- What spans that are found say about the subject. -/
def stateOfSpans {σ : Type} (matcher : Matcher σ) : Option PointSpans → MatchState
  | none => .noMatch false
  | some spans =>
      .found ((spans.toUnits matcher.viewText.points (matcher.pattern.groupCount + 1)).map
        (·.shift matcher.viewStart)) none

/-- An engine on offer honours what a matcher asks it for. -/
theorem honours_matchOptions {kind : EngineKind}
    (isKind : matcher.pattern.adapter.engine = kind.engine)
    (isTotal : matcher.partialMatching = false) (edges : matcher.lacksLineEdges = false)
    (variant : CodeVariant) :
    kind.backend.honours (matcher.matchOptions variant) = true := by
  cases kind with
  | backtracking =>
      change (!matcher.partialMatching) = true
      rw [isTotal]
      rfl
  | linear =>
      rw [lacksLineEdges, isKind] at edges
      change (!(!matcher.anchoringBounds && decide (0 < matcher.regionStart)) &&
        !(!matcher.anchoringBounds && decide (matcher.regionEnd < matcher.text.length)) &&
        !matcher.partialMatching) = true
      rw [isTotal, ← Bool.not_or]
      change (_ && true) = false at edges
      rw [Bool.and_true] at edges
      rw [edges]
      rfl

/-- No engine on offer reports partial matches. -/
theorem Consistent.partialMatching_eq_false (consistent : matcher.Consistent)
    (isOffered : matcher.pattern.IsOffered) : matcher.partialMatching = false := by
  obtain ⟨kind, isKind⟩ := isOffered
  have supported := consistent.partialMatching
  rw [canMatchPartially, isKind] at supported
  cases isPartial : matcher.partialMatching with
  | false => rfl
  | true =>
      have impossible := supported isPartial
      cases kind <;> contradiction

/-- A new matcher of an offered pattern looks at all of its text, and asks nothing of engines. -/
theorem create_eq_ok {pattern : Pattern EngineState} (isOffered : pattern.IsOffered) {text : Text}
    {settings : MatcherSettings} {trace after : Trace EngineState}
    (isCreated : (create pattern text settings).run trace = (.ok matcher, after)) :
    matcher = initial pattern text settings.anchoringBounds 0 ∧ after = trace := by
  have isPartial := (create_consistent isCreated).1.partialMatching_eq_false
    ((create_consistent isCreated).2 ▸ isOffered)
  rw [create_run, isOffered.makeStack_run] at isCreated
  split at isCreated
  · cases congrArg Prod.fst isCreated
  · obtain ⟨made, same⟩ := Prod.mk.inj isCreated
    obtain ⟨rfl, -⟩ := usePartialMatching_eq_ok made
    rw [show settings.partialMatching = false from isPartial]
    exact ⟨rfl, same.symm⟩

end Matcher

/-- Making a fresh matcher asks nothing of engines, and fails by its settings and region only. -/
theorem Survey.freshMatcher_run {pattern : Pattern EngineState} (isOffered : pattern.IsOffered)
    (isOpen : pattern.isClosed = false) (text : Text) (settings : MatcherSettings)
    (region : Option (Number × Number)) (trace : Trace EngineState) :
    (freshMatcher pattern text settings region).run trace =
      (((Matcher.initial pattern text settings.anchoringBounds 0).usePartialMatching
          settings.partialMatching).bind fun matcher =>
        match region with
        | none => .ok matcher
        | some (start, stop) => matcher.region start stop, trace) := by
  rw [freshMatcher, Work.run_bind, Matcher.create_run, isOpen, if_neg Bool.false_ne_true,
    isOffered.makeStack_run]
  dsimp only
  cases (Matcher.initial pattern text settings.anchoringBounds 0).usePartialMatching
    settings.partialMatching with
  | error fault => rfl
  | ok matcher => rcases region with _ | ⟨start, stop⟩ <;> rfl

/-- A fresh matcher is consistent. -/
theorem Survey.consistent_of_freshMatcher {pattern : Pattern EngineState} {text : Text}
    {settings : MatcherSettings} {region : Option (Number × Number)}
    {trace after : Trace EngineState} {matcher : Matcher EngineState}
    (isFresh : (freshMatcher pattern text settings region).run trace = (.ok matcher, after)) :
    matcher.Consistent ∧ matcher.pattern = pattern := by
  rw [freshMatcher, Work.run_bind] at isFresh
  rcases isCreated : (Matcher.create pattern text settings).run trace with ⟨created, after'⟩
  rw [isCreated] at isFresh
  cases created with
  | error fault => cases isFresh
  | ok created =>
      have consistent := Matcher.create_consistent isCreated
      rcases region with _ | ⟨start, stop⟩
      · cases isFresh
        exact consistent
      · have isRestricted := congrArg Prod.fst isFresh
        change created.region start stop = .ok matcher at isRestricted
        obtain ⟨first, last, -, -, -, same⟩ := Matcher.region_eq_ok isRestricted
        refine ⟨consistent.1.region isRestricted, ?_⟩
        rw [same]
        exact consistent.2

namespace Matcher

section Attempted

variable {kind : EngineKind} {flags : Flags} {plain : kind.Code} {engines : EngineState}
  {matcher : Matcher EngineState} (consistent : matcher.Consistent)
  (isCompiled : matcher.pattern.IsCompiled kind flags plain engines)
  (isPlain : matcher.pattern.canonicalEquivalence = false)
  (noMark : matcher.viewText.head? ≠ some 0xFEFF)

include consistent isCompiled isPlain noMark

/-- An attempt that starts at a position of what is seen is a search from there. -/
theorem attempted_eq (edges : matcher.lacksLineEdges = false) {start position : Nat}
    (starts : matcher.placeOf? start = some (Text.unitsBefore matcher.viewText.points position))
    (inside : position ≤ matcher.viewText.points.length) (anchoring : Anchoring) :
    matcher.attempted (kind.backend.answering (kind.code? engines)) start anchoring =
      (kind.backend.search plain (.ofBytes (Utf8.encode matcher.viewText)) position
        (matcher.ask anchoring)).map matcher.stateOfSpans := by
  obtain ⟨own, stored, sameCount, sameSearch⟩ := isCompiled.own anchoring
  have isTotal := consistent.partialMatching_eq_false isCompiled.isOffered
  have options_eq : matcher.matchOptions (matcher.pattern.variants.variant anchoring) =
      { (matcher.pattern.variants.variant anchoring).options with
        notBol := !matcher.anchoringBounds && decide (0 < matcher.regionStart)
        notEol := !matcher.anchoringBounds && decide (matcher.regionEnd < matcher.text.length)
        partialSoft := false } := by
    rw [matchOptions, isTotal]
  -- The code for the anchoring searches as plain code does that is asked for the anchoring.
  have searched := Backend.report_eq_search noMark own inside
    (MatchOptions.ofBits?_toBits
      (matcher.matchOptions (matcher.pattern.variants.variant anchoring)))
    (honours_matchOptions isCompiled.engine isTotal edges _)
  rw [options_eq, sameSearch, ← options_eq, sameCount, ← isCompiled.groupCount] at searched
  rw [attempted, edges, if_neg Bool.false_ne_true, starts]
  dsimp only
  change (Adapter.outcomeOf _ (kind.backend.report (kind.code? engines
    (matcher.pattern.variants.variant anchoring).handle) _ _ _)).bind _ = _
  rw [stored]
  change (Adapter.outcomeOf _ (kind.backend.report (some own) (Utf8.encode matcher.viewText)
    (bytesBefore matcher.viewText (Text.unitsBefore matcher.viewText.points position))
    (matcher.matchOptions (matcher.pattern.variants.variant anchoring)).toBits)).bind _ = _
  rw [searched, ask]
  cases found : kind.backend.search plain (.ofBytes (Utf8.encode matcher.viewText)) position
    (anchoring.ask (!matcher.anchoringBounds && decide (0 < matcher.regionStart))
      (!matcher.anchoringBounds && decide (matcher.regionEnd < matcher.text.length))) with
  | error fault => rfl
  | ok spans? =>
      cases spans? with
      | none => rfl
      | some spans =>
          have size := PointText.size_points_ofBytes_encode noMark
          have within := kind.keepsInside _ _ _ _ spans (size ▸ inside) found
          rw [size] at within
          have translated := consistent.subjectSpans_captures isPlain (viewStart_le_viewEnd starts)
            (cutsNoPoint_ofSpans noMark within (matcher.pattern.groupCount + 1)
              matcher.pattern.groupCount)
          rw [unitSpans_ofSpans noMark within] at translated
          have isMatch : ((Answer.ofSpans (.ofBytes (Utf8.encode matcher.viewText))
              (matcher.pattern.groupCount + 1) spans).toReport
                matcher.pattern.groupCount).isMatch = true :=
            decide_eq_true (Int.natCast_nonneg _)
          simp only [Except.map, Backend.answerOf, Adapter.outcomeOf, isMatch, if_true, Except.bind,
            stateOf, translated]
          rfl

end Attempted

end Matcher

end RegexMatching
