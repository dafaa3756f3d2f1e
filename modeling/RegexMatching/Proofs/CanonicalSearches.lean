import RegexMatching.Proofs.FindLoop
import RegexMatching.Proofs.Segments

/-!
# Matches in decomposed text

Under canonical equivalence an edge of the region is taken to the decomposed text, and a
match is taken back from there.  Both ways round to segments: what is found starts in the
segment of the region start or behind it, and it ends in front of the segment that the region
end lies in.  So a match keeps to the region unless the region starts inside a segment.
-/

namespace RegexMatching

open Utf8 (bytesBefore)

/-! ## Engines that place matches -/

/-- A pattern whose engine, whenever it is usable, reports matches from where it is asked to
start, at code point boundaries. -/
structure Pattern.PlacesMatches {σ : Type} (usable : σ → Prop) (pattern : Pattern σ) : Prop where
  /-- A match call leaves the engines usable. -/
  exchange_usable : ∀ request engines, usable engines →
    usable ((pattern.adapter.engine.exchange request).run engines).2
  /-- A match on a text does not start in front of the offset asked for and cuts no point. -/
  report_placed : ∀ (anchoring : Anchoring) (text : Text) (start : Nat) (options : Int)
    (stack : Handle) (engines : σ) (report : Report), usable engines →
    Utf8.IsBoundary (Utf8.encode text) start →
    ((pattern.adapter.engine.exchange
      ⟨(pattern.variants.variant anchoring).handle, Utf8.encode text, start, options,
        stack⟩).run engines).1 = .ok report →
    report.isMatch = true → report.PlacesMatch (Utf8.encode text) start

/-! ## Spans in segments -/

/-- A span from the segment of one offset on, up to the segment of another. -/
def Span.KeepsToSegments (text : Text) (start stop : Nat) (span : Span) : Prop :=
  ∃ first last : Nat, span = ⟨first, last⟩ ∧ text.segmentStart start ≤ first ∧ first ≤ last ∧
    last ≤ text.segmentStart stop ∧ text.IsSegmentEdge last

theorem Span.KeepsToSegments.mono {text : Text} {start start' stop : Nat} {span : Span}
    (le : start' ≤ start) (keeps : span.KeepsToSegments text start stop) :
    span.KeepsToSegments text start' stop := by
  obtain ⟨first, last, isSpan, leFirst, rest⟩ := keeps
  exact ⟨first, last, isSpan, Nat.le_trans (segmentFloor_mono le) leFirst, rest⟩

namespace Matcher

variable {σ : Type} {usable : σ → Prop} {allowed : Pattern σ → Prop}

section Attempt

variable {matcher : Matcher σ} (consistent : matcher.Consistent)
  (isCanonical : matcher.pattern.canonicalEquivalence = true)

include consistent isCanonical

theorem Consistent.canonical_eq :
    matcher.searched.canonical = some (CanonicalText.ofText matcher.text) := by
  rw [consistent.searched, isCanonical]
  rfl

theorem Consistent.ofSubject_eq_toNormalized (index : Nat) :
    matcher.searched.ofSubject index = (CanonicalText.ofText matcher.text).toNormalized index := by
  rw [consistent.searched, isCanonical]
  rfl

omit consistent in
theorem searchedText_eq_normalized :
    matcher.searchedText = (CanonicalText.ofText matcher.text).normalized := by
  rw [searchedText, isCanonical]
  rfl

/-- The whole match of a report in the segments of the subject. -/
theorem Consistent.subjectSpan_eq_segments (ordered : matcher.viewStart ≤ matcher.viewEnd)
    {report : Report} {first last : Nat} (isSet : report.set? 0 = some (first, last))
    (atFirst : Utf8.IsBoundary (Utf8.encode matcher.viewText) first)
    (atLast : Utf8.IsBoundary (Utf8.encode matcher.viewText) last) :
    subjectSpan matcher.searched matcher.seenView.byteStart (report.span 0) =
      .ok ⟨(CanonicalText.ofText matcher.text).toSourceStart
          (matcher.viewStart + matcher.viewText.indexAt first),
        (CanonicalText.ofText matcher.text).toSourceEnd
          (matcher.viewStart + matcher.viewText.indexAt last)⟩ := by
  rw [Report.span, isSet]
  dsimp only
  rw [consistent.subjectSpan_seen ordered atFirst atLast, consistent.canonical_eq isCanonical]

/-- An attempt starts at the offset it is asked for, and in the region. -/
theorem Consistent.toNormalized_le_of_placeOf? {start place : Nat}
    (starts : matcher.placeOf? start = some place) :
    (CanonicalText.ofText matcher.text).toNormalized (max start matcher.regionStart) ≤
      matcher.viewStart + place := by
  have leStart := matcher.searchedText.le_ceilIndex (matcher.searched.ofSubject start)
  have leRegion := matcher.searchedText.le_ceilIndex
    (matcher.searched.ofSubject matcher.regionStart)
  rw [← viewStart] at leRegion
  simp only [consistent.ofSubject_eq_toNormalized isCanonical] at leStart leRegion
  simp only [placeOf?, consistent.ofSubject_eq_toNormalized isCanonical] at starts
  split at starts
  · contradiction
  · rw [Option.some.injEq] at starts
    rcases Nat.le_total start matcher.regionStart with le | le
    · rw [Nat.max_eq_right le]
      omega
    · rw [Nat.max_eq_left le]
      omega

/-- A match that an attempt finds lies in the segments from its start, or the region start, to
the region end. -/
theorem attempt_keeps (places : matcher.pattern.PlacesMatches usable) {start : Nat}
    (inside : start ≤ matcher.text.length) (anchoring : Anchoring) {trace : Trace σ}
    (isUsable : usable trace.engines) {spans : List Span} {mark : Option Text}
    (found : ((matcher.attempt matcher.seenView start anchoring).run trace).1 =
      .ok (.found spans mark)) :
    ∃ span, spans.head? = some span ∧
      span.KeepsToSegments matcher.text (max start matcher.regionStart) matcher.regionEnd := by
  obtain ⟨place, report, starts, exchanged, isMatch, translated, -⟩ :=
    consistent.exists_report_of_attempt inside found
  have ordered := viewStart_le_viewEnd starts
  have atPlace := consistent.isBoundary_of_placeOf? inside starts
  obtain ⟨first, last, isSet, leFirst, leLast, atFirst, atLast⟩ :=
    places.report_placed anchoring _ _ _ _ _ report isUsable
      (Utf8.isBoundary_bytesBefore atPlace) exchanged isMatch
  obtain ⟨firstIndex, firstBytes⟩ := Text.isBoundary_indexAt atFirst
  obtain ⟨lastIndex, -⟩ := Text.isBoundary_indexAt atLast
  -- The offsets of the match in the text that is searched.
  have lePlace : place ≤ matcher.viewText.indexAt first := by
    refine Nat.le_of_not_lt fun less => ?_
    have lessBytes := (Utf8.bytesBefore_lt_iff firstIndex atPlace).mpr less
    omega
  have leIndex := Text.indexAt_le atFirst atLast leLast
  have leEnd : matcher.viewStart + matcher.viewText.indexAt last ≤
      (CanonicalText.ofText matcher.text).toNormalized matcher.regionEnd := by
    have inView : matcher.viewText.indexAt last ≤
        (matcher.searchedText.between matcher.viewStart matcher.viewEnd).length :=
      lastIndex.1
    rw [Text.length_between] at inView
    have floor := matcher.searchedText.floorIndex_le
      (matcher.searched.ofSubject matcher.regionEnd)
    rw [← viewEnd, consistent.ofSubject_eq_toNormalized isCanonical] at floor
    omega
  have leStart := consistent.toNormalized_le_of_placeOf? isCanonical starts
  have startInside : max start matcher.regionStart ≤ matcher.text.length :=
    Nat.max_le.mpr ⟨inside, consistent.regionStart_le⟩
  have endInside := CanonicalText.toNormalized_le matcher.text matcher.regionEnd
  rw [subjectSpans_eq, Report.captures, List.range_succ_eq_map, List.map_cons] at translated
  refine ⟨_, head?_of_mapM_eq_ok
    (consistent.subjectSpan_eq_segments isCanonical ordered isSet atFirst atLast) translated,
    _, _, rfl, ?_, ?_, ?_, ?_⟩
  · exact CanonicalText.segmentStart_le_toSourceStart startInside (by omega) (by omega)
  · exact CanonicalText.toSourceStart_le_toSourceEnd (by omega) (by omega)
  · exact CanonicalText.toSourceEnd_le_segmentStart consistent.regionEnd_le leEnd
  · exact CanonicalText.isSegmentEdge_toSourceEnd (by omega)

end Attempt

/-! ## Matches that are held -/

/-- Whether a match that is held is placed in the segments of the region. -/
def MatchPlaced (matcher : Matcher σ) : Prop :=
  matcher.pattern.canonicalEquivalence = true → ∀ spans mark,
    matcher.state = .found spans mark → ∃ span, spans.head? = some span ∧
      span.KeepsToSegments matcher.text matcher.regionStart matcher.regionEnd

theorem matchPlaced_of_not_found {matcher : Matcher σ}
    (notFound : ∀ spans mark, matcher.state ≠ .found spans mark) : matcher.MatchPlaced :=
  fun _ spans mark isFound => absurd isFound (notFound spans mark)

/-- A search leaves a placed match, and the engines usable. -/
theorem search_matchPlaced {configuration : Configuration σ}
    (consistent : configuration.matcher.Consistent)
    (places : configuration.matcher.pattern.PlacesMatches usable) {start : Nat}
    (inside : start ≤ configuration.matcher.text.length) (anchoring : Anchoring)
    (isUsable : usable configuration.trace.engines)
    (keeps : configuration.matcher.MatchPlaced) :
    ((search start anchoring).exec configuration).2.matcher.MatchPlaced ∧
      usable ((search start anchoring).exec configuration).2.trace.engines := by
  refine ⟨?_, search_usable consistent places.exchange_usable start anchoring isUsable⟩
  rw [search_exec consistent]
  dsimp only
  cases attempted : ((configuration.matcher.seen.attempt configuration.matcher.seen.seenView start
    anchoring).run configuration.trace).1 with
  | error fault => exact keeps
  | ok state =>
      cases state with
      | fresh => exact matchPlaced_of_not_found fun _ _ => nofun
      | noMatch isPartial => exact matchPlaced_of_not_found fun _ _ => nofun
      | found spans mark =>
          intro isCanonical spans' mark' isFound
          obtain ⟨rfl, rfl⟩ := MatchState.found.inj isFound
          obtain ⟨span, isFirst, placed⟩ :=
            attempt_keeps consistent.seen isCanonical places inside anchoring isUsable attempted
          exact ⟨span, isFirst, placed.mono (Nat.le_max_right _ _)⟩

/-- Whatever match a reachable matcher holds, it is placed in the region. -/
theorem Reachable.matchPlaced (places : ∀ pattern, allowed pattern → pattern.PlacesMatches usable)
    {matcher : Matcher σ} (reached : matcher.Reachable allowed usable) : matcher.MatchPlaced := by
  apply reached.held_induction
  · exact fun unfound => matchPlaced_of_not_found unfound
  · intro matcher other same keeps isCanonical spans mark isFound
    rw [same.pattern] at isCanonical
    rw [same.state] at isFound
    rw [same.text, same.regionStart, same.regionEnd]
    exact keeps isCanonical spans mark isFound
  · exact fun anchoring consistent isAllowed inside isUsable keeps =>
      search_matchPlaced consistent (places _ isAllowed) inside anchoring isUsable keeps

/-! ## Matches and the region -/

/-- Whether the match of a snapshot is placed in the segments between two offsets. -/
theorem exists_span_of_keeps {matcher : Matcher σ} {spans : List Span} {mark : Option Text}
    {span : Span} {start stop : Nat} (isFound : matcher.state = .found spans mark)
    (isFirst : spans.head? = some span) (keeps : span.KeepsToSegments matcher.text start stop) :
    ∃ span, matcher.snapshot.span .whole = .ok (some span) ∧
      (matcher.text.segmentStart start : Int) ≤ span.start ∧ span.start ≤ span.stop ∧
      span.stop ≤ matcher.text.segmentStart stop := by
  obtain ⟨first, last, rfl, leFirst, ordered, leLast, -⟩ := keeps
  exact ⟨_, span_whole isFound isFirst, Int.ofNat_le.mpr leFirst, Int.ofNat_le.mpr ordered,
    Int.ofNat_le.mpr leLast⟩

/-- A search that succeeds holds a match. -/
theorem exists_found_of_hasMatch {matcher : Matcher σ} (holdsMatch : matcher.hasMatch = true) :
    ∃ spans mark, matcher.state = .found spans mark := by
  unfold hasMatch snapshot Snapshot.hasMatch at holdsMatch
  cases state : matcher.state with
  | fresh => simp [state] at holdsMatch
  | noMatch isPartial => simp [state] at holdsMatch
  | found spans mark => exact ⟨spans, mark, rfl⟩

/-- Under canonical equivalence a match starts in the segment that the region starts in, or
behind it, and ends in front of the segment that the region end lies in.  A search from an
offset finds a match in the segment of that offset or behind it.  The start of its segment is
the offset itself unless it lies inside the segment. -/
theorem matches_keep_to_segments
    (places : ∀ pattern, allowed pattern → pattern.PlacesMatches usable) {matcher : Matcher σ}
    (reached : matcher.Reachable allowed usable)
    (isCanonical : matcher.pattern.canonicalEquivalence = true) :
    (matcher.hasMatch = true → ∃ span, matcher.snapshot.span .whole = .ok (some span) ∧
      (matcher.text.segmentStart matcher.regionStart : Int) ≤ span.start ∧
      span.start ≤ span.stop ∧ span.stop ≤ matcher.text.segmentStart matcher.regionEnd) ∧
    ∀ (start : Number) (index : Nat) (trace : Trace σ),
      start.toIndex? matcher.text.length = some index → usable trace.engines →
      let found := (findFrom start).exec ⟨matcher, trace⟩
      found.1 = .ok true → ∃ span, found.2.matcher.snapshot.span .whole = .ok (some span) ∧
        (matcher.text.segmentStart index : Int) ≤ span.start ∧ span.start ≤ span.stop ∧
        span.stop ≤ matcher.text.length := by
  have both := reached.consistent
  constructor
  · intro hasMatch
    obtain ⟨spans, mark, isFound⟩ := exists_found_of_hasMatch hasMatch
    obtain ⟨span, isFirst, keeps⟩ := reached.matchPlaced places isCanonical spans mark isFound
    exact exists_span_of_keeps isFound isFirst keeps
  · intro start index trace isIndex isUsable
    have inside : index ≤ matcher.text.length := toIndex?_le isIndex
    have consistent : matcher.reset.Consistent := both.1.reset
    dsimp only
    rw [findFrom_exec, isIndex]
    dsimp only
    rw [search_exec consistent]
    dsimp only
    intro isTrue
    obtain ⟨spans, mark, attempted⟩ := exists_found_of_conclude isTrue
    rw [attempted]
    obtain ⟨span, isFirst, keeps⟩ := attempt_keeps consistent.seen isCanonical
      (places _ both.2) inside .search isUsable attempted
    obtain ⟨span, isWhole, leStart, ordered, leStop⟩ := @exists_span_of_keeps σ
      (matcher.reset.seen.settle .search (.found spans mark)) _ _ _ _ _ rfl isFirst keeps
    have startLe : matcher.text.segmentStart index ≤
        matcher.text.segmentStart (max index matcher.reset.regionStart) :=
      segmentFloor_mono (Nat.le_max_left _ _)
    have stopLe : matcher.text.segmentStart matcher.reset.regionEnd ≤
        matcher.text.length := segmentFloor_le _
    refine ⟨span, isWhole, ?_, ordered, ?_⟩
    · exact Int.le_trans (Int.ofNat_le.mpr startLe) leStart
    · exact Int.le_trans leStop (Int.ofNat_le.mpr stopLe)

end Matcher

/-! ## The empty pattern -/

/-- The empty pattern under canonical equivalence. -/
def Pattern.ofEmptyCanonical : Pattern Int :=
  { ofEmptyPattern with canonicalEquivalence := true }

/-- The engine for the empty pattern places matches. -/
theorem Pattern.placesMatches_of_emptyEngine {pattern : Pattern Int}
    (isEmpty : pattern.adapter.engine = .ofEmptyPattern) :
    pattern.PlacesMatches fun _ => True where
  exchange_usable := fun _ _ _ => trivial
  report_placed := by
    intro anchoring text start options stack engines report _ boundary exchanged isMatch
    rw [isEmpty] at exchanged
    have reported : Except.ok _ = Except.ok report :=
      (congrArg Prod.fst (Engine.exchange_ofEmptyPattern _ engines)).symm.trans exchanged
    obtain rfl := Except.ok.inj reported
    exact emptyReport_placesMatch boundary isMatch

theorem Pattern.placesMatches_ofEmptyCanonical :
    ofEmptyCanonical.PlacesMatches fun _ => True :=
  placesMatches_of_emptyEngine rfl

theorem emptyReport_eq {subject : Bytes} {start : Nat} {options : Int}
    (boundary : Utf8.IsBoundary subject start) (isOpen : options.toNat.testBit 1 = false) :
    emptyReport subject start options = { result := 1, offsets := [start, start] } := by
  rw [emptyReport, if_pos ⟨Int.natCast_nonneg start, boundary⟩, isOpen,
    if_neg fun both => Bool.false_ne_true both.1]

namespace Matcher

section EmptyCanonical

variable {matcher : Matcher Int} (consistent : matcher.Consistent)
  (isEmpty : matcher.pattern = .ofEmptyCanonical) (anchors : matcher.anchoringBounds = true)
  (isTotal : matcher.partialMatching = false)

include consistent isEmpty anchors isTotal

/-- The empty pattern is found where the search goes on, taken back to the subject. -/
theorem search_exec_emptyCanonical {start place : Nat} (inside : start ≤ matcher.text.length)
    (starts : matcher.placeOf? start = some place) (trace : Trace Int) :
    ∃ after, (search start .search).exec ⟨matcher, trace⟩ =
      (.ok true,
        ⟨matcher.seen.settle .search (.found
          [⟨(CanonicalText.ofText matcher.text).toSourceStart (matcher.viewStart + place),
            (CanonicalText.ofText matcher.text).toSourceEnd (matcher.viewStart + place)⟩] none),
          after⟩) := by
  have isCanonical : matcher.pattern.canonicalEquivalence = true := by rw [isEmpty]; rfl
  have ordered := viewStart_le_viewEnd starts
  have atPlace := consistent.isBoundary_of_placeOf? inside starts
  have boundary := Utf8.isBoundary_bytesBefore atPlace
  have noEdges : matcher.seen.lacksLineEdges = false := by
    change (_ && !matcher.pattern.adapter.engine.capabilities.lineBoundaryOptions) = false
    rw [isEmpty]
    exact Bool.and_false _
  have isOpen : ((matcher.matchOptions
      (matcher.pattern.variants.variant .search)).toBits : Int).toNat.testBit 1 = false := by
    rw [matchOptions, anchors, isTotal, isEmpty, Bool.not_true, Bool.false_and, Bool.false_and]
    decide
  have isSet : ∀ offset : Nat,
      ({ result := 1, offsets := [(offset : Int), offset] } : Report).set? 0 =
        some (offset, offset) := by
    intro offset
    simp [Report.set?]
  have spans := consistent.subjectSpan_eq_segments isCanonical ordered
    (isSet (bytesBefore matcher.viewText place)) boundary boundary
  rw [Text.indexAt_bytesBefore atPlace] at spans
  have attempted : ((matcher.seen.attempt matcher.seen.seenView start .search).run trace).1 =
      .ok (.found
        [⟨(CanonicalText.ofText matcher.text).toSourceStart (matcher.viewStart + place),
          (CanonicalText.ofText matcher.text).toSourceEnd (matcher.viewStart + place)⟩] none) := by
    rw [consistent.seen.attempt_run inside, if_neg (by rw [noEdges]; exact Bool.false_ne_true),
      show matcher.seen.placeOf? start = some place from starts]
    dsimp only
    rw [show matcher.seen.pattern = .ofEmptyCanonical from isEmpty]
    rw [show Pattern.ofEmptyCanonical.adapter.engine = .ofEmptyPattern from rfl,
      Engine.exchange_ofEmptyPattern]
    dsimp only
    rw [show emptyReport (matcher.seen.requestAt place .search).subject
      (matcher.seen.requestAt place .search).start
      (matcher.seen.requestAt place .search).options =
        { result := 1, offsets := [(bytesBefore matcher.viewText place : Int),
          (bytesBefore matcher.viewText place : Int)] } from emptyReport_eq boundary isOpen]
    change (subjectSpans matcher.searched matcher.seenView.byteStart [Report.span _ 0]).map _ = _
    rw [subjectSpans_eq, List.mapM_cons, spans]
    rfl
  rw [search_exec consistent]
  dsimp only
  rw [attempted]
  exact ⟨_, rfl⟩

/-- Where nothing is decomposed in front, the empty pattern is found in front of the text. -/
theorem find_exec_emptyCanonical {start : Nat} (isFresh : matcher.isExhausted = false)
    (next : matcher.nextStart? = some start)
    (startFront : (CanonicalText.ofText matcher.text).toNormalized start = 0)
    (regionFront : (CanonicalText.ofText matcher.text).toNormalized matcher.regionStart = 0)
    (trace : Trace Int) :
    ∃ after, find.exec ⟨matcher, trace⟩ =
      (.ok true, ⟨matcher.seen.settle .search (.found [⟨0, 0⟩] none), after⟩) := by
  have isCanonical : matcher.pattern.canonicalEquivalence = true := by rw [isEmpty]; rfl
  have inside := Nat.le_trans (mem_region_of_nextStart? next).2 consistent.regionEnd_le
  have front : matcher.viewStart = 0 := by
    rw [viewStart, consistent.ofSubject_eq_toNormalized isCanonical, regionFront]
    rfl
  have starts : matcher.placeOf? start = some 0 := by
    rw [placeOf?, consistent.ofSubject_eq_toNormalized isCanonical, startFront, front]
    rfl
  obtain ⟨after, executed⟩ :=
    search_exec_emptyCanonical consistent isEmpty anchors isTotal inside starts trace
  rw [front, Nat.add_zero, CanonicalText.toSourceStart_zero, CanonicalText.toSourceEnd_zero]
    at executed
  refine ⟨after, ?_⟩
  rw [find_exec, if_neg (by rw [isFresh]; exact Bool.false_ne_true)]
  dsimp only
  rw [next]
  exact executed

end EmptyCanonical

/-- The first search in the second half of a pair. -/
theorem find_exec_behind_half :
    ∃ after, find.exec
        ⟨(initial .ofEmptyCanonical [0xD83D, 0xDE00] true 0).restrictedTo 1 2, ⟨0, []⟩⟩ =
      (.ok true, ⟨((initial .ofEmptyCanonical [0xD83D, 0xDE00] true 0).restrictedTo 1
        2).seen.settle .search (.found [⟨0, 0⟩] none), after⟩) := by
  have consistent : ((initial .ofEmptyCanonical [0xD83D, 0xDE00] true 0).restrictedTo 1
      2).Consistent := (initial_consistent rfl _ _ _).restrictedTo (by decide) (by decide)
  have front : (CanonicalText.ofText [0xD83D, 0xDE00]).toNormalized 1 = 0 := by
    rw [CanonicalText.toNormalized_eq (by decide), @segments_of_point _ 0x1F600 rfl]
    rfl
  exact @find_exec_emptyCanonical _ consistent rfl rfl rfl 1 rfl rfl front front ⟨0, []⟩

theorem matches_keep_to_segments_behind_half :
    let matcher := ((perform .find).exec
      ⟨(initial .ofEmptyCanonical [0xD83D, 0xDE00] true 0).restrictedTo 1 2, ⟨0, []⟩⟩).2.matcher
    matcher.hasMatch = true ∧ ∃ span, matcher.snapshot.span .whole = .ok (some span) ∧
      (matcher.text.segmentStart matcher.regionStart : Int) ≤ span.start ∧
      span.start ≤ span.stop ∧ span.stop ≤ matcher.text.segmentStart matcher.regionEnd := by
  have isCreated : (create .ofEmptyCanonical [0xD83D, 0xDE00] {}).run ⟨0, []⟩ =
      (.ok (initial .ofEmptyCanonical [0xD83D, 0xDE00] true 0), ⟨0, []⟩) := rfl
  have created : (initial .ofEmptyCanonical [0xD83D, 0xDE00] true 0).Reachable
      (· = .ofEmptyCanonical) fun _ => True := .created rfl trivial isCreated
  have restricted : ((initial .ofEmptyCanonical [0xD83D, 0xDE00] true 0).restrictedTo 1
      2).Reachable (· = .ofEmptyCanonical) fun _ => True :=
    .performed created (.region (.finite false 1 0) (.finite false 2 0)) trivial ⟨0, []⟩ trivial
  have reached : ((perform .find).exec ⟨(initial .ofEmptyCanonical [0xD83D, 0xDE00] true
      0).restrictedTo 1 2, ⟨0, []⟩⟩).2.matcher.Reachable (· = .ofEmptyCanonical) fun _ => True :=
    .performed restricted .find trivial ⟨0, []⟩ trivial
  have places : ∀ pattern, pattern = Pattern.ofEmptyCanonical →
      pattern.PlacesMatches fun _ => True := by
    rintro pattern rfl
    exact Pattern.placesMatches_ofEmptyCanonical
  obtain ⟨after, executed⟩ := find_exec_behind_half
  have holdsMatch : ((perform .find).exec ⟨(initial .ofEmptyCanonical [0xD83D, 0xDE00] true
      0).restrictedTo 1 2, ⟨0, []⟩⟩).2.matcher.hasMatch = true := by
    rw [perform, Matching.exec_bind_pure, executed]
    rfl
  have isCanonical : ((perform .find).exec ⟨(initial .ofEmptyCanonical [0xD83D, 0xDE00] true
      0).restrictedTo 1 2, ⟨0, []⟩⟩).2.matcher.pattern.canonicalEquivalence = true := by
    rw [reached.consistent.2]
    rfl
  exact ⟨holdsMatch, (matches_keep_to_segments places reached isCanonical).1 holdsMatch⟩

/-- Half of a pair in front of the region does not keep a match out: the empty pattern is found
in front of the pair. -/
theorem starts_before_region_behind_half :
    let matcher := (initial .ofEmptyCanonical [0xD83D, 0xDE00] true 0).restrictedTo 1 2
    matcher.pattern.PlacesMatches (fun _ => True) ∧
    ∃ after : Configuration Int, find.exec ⟨matcher, ⟨0, []⟩⟩ = (.ok true, after) ∧
      after.matcher.regionStart = 1 ∧
      after.matcher.snapshot.span .whole = .ok (some ⟨0, 0⟩) := by
  obtain ⟨after, executed⟩ := find_exec_behind_half
  exact ⟨Pattern.placesMatches_ofEmptyCanonical, _, executed, rfl, rfl⟩

end Matcher

end RegexMatching
