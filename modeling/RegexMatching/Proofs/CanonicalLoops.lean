import RegexMatching.Proofs.CanonicalSearches
import RegexMatching.Proofs.SearchLoops

/-!
# Searching on in decomposed text

The search goes on one code point behind an empty match, and from there in the segment that
this offset lies in.  So the starts of matches increase as long as every match leaves its
segment, and then every loop of searches ends.  An empty match in front of a segment of
several code points does not leave it, and may be found again for ever.
-/

namespace RegexMatching

/-! ## Leaving a segment -/

/-- Whether the search goes on between two segments, or behind the text, if a span is empty. -/
def Span.LeavesSegment (text : Text) (span : Span) : Prop :=
  span.start = span.stop → (text.length : Int) < Matcher.stepBehind text span ∨
    text.IsSegmentEdge (Matcher.stepBehind text span).toNat

instance (text : Text) (span : Span) : Decidable (span.LeavesSegment text) :=
  inferInstanceAs (Decidable (_ → _))

/-- Whether matches leave their segments. -/
def MatchesLeave (text : Text) (snapshots : List Snapshot) : Prop :=
  ∀ snapshot ∈ snapshots, ∀ span, snapshot.span .whole = .ok (some span) →
    span.LeavesSegment text

theorem matchesLeave_of_spans {text : Text} {snapshots : List Snapshot} {spans : List Span}
    (reported : snapshots.map (·.span .whole) = spans.map fun span => .ok (some span))
    (leave : ∀ span ∈ spans, span.LeavesSegment text) : MatchesLeave text snapshots := by
  intro snapshot mem span isSpan
  have isReported : snapshot.span .whole ∈ snapshots.map (·.span .whole) :=
    List.mem_map_of_mem mem
  rw [reported, isSpan] at isReported
  obtain ⟨other, mem, same⟩ := List.mem_map.mp isReported
  rw [← Option.some.inj (Except.ok.inj same)]
  exact leave other mem

theorem CodePoint.length_units (point : Nat) :
    (CodePoint.units point).length = CodePoint.unitLength point := by
  unfold CodePoint.units CodePoint.unitLength
  split <;> rfl

namespace Text

theorem segmentStart_le_length (text : Text) (index : Nat) :
    text.segmentStart index ≤ text.length := by
  have bound : ∀ segments : List Segment, segmentFloor segments index ≤
      (segments.flatMap Segment.source).length := by
    intro segments
    induction segments generalizing index with
    | nil => exact Nat.le_refl _
    | cons segment rest ih =>
        rw [segmentFloor, List.flatMap_cons, List.length_append]
        have := ih (index - segment.source.length)
        split <;> omega
  have le := bound (segments text)
  rwa [flatMap_segments] at le

/-- Whether every code point of a text is a segment of its own. -/
def IsUnreordered (text : Text) : Prop :=
  segments text = text.points.map fun point => ⟨CodePoint.units point, decomposedText [point]⟩

theorem segmentFloor_unitsBefore (points : List Nat) (position : Nat) :
    segmentFloor (points.map fun point => ⟨CodePoint.units point, decomposedText [point]⟩)
      (unitsBefore points position) = unitsBefore points position := by
  induction points generalizing position with
  | nil => rw [unitsBefore, List.take_nil]; rfl
  | cons point rest ih =>
      rw [List.map_cons, segmentFloor, CodePoint.length_units]
      cases position with
      | zero => rw [unitsBefore_zero, if_pos (unitLength_pos point)]
      | succ position =>
          rw [unitsBefore_cons_succ, if_neg (by omega), Nat.add_sub_cancel_left, ih]

theorem exists_segmentFloor_eq (points : List Nat) (index : Nat) :
    ∃ position, segmentFloor
      (points.map fun point => ⟨CodePoint.units point, decomposedText [point]⟩) index =
        unitsBefore points position := by
  induction points generalizing index with
  | nil => exact ⟨0, rfl⟩
  | cons point rest ih =>
      rw [List.map_cons, segmentFloor, CodePoint.length_units]
      split
      · exact ⟨0, rfl⟩
      · obtain ⟨position, isFloor⟩ := ih (index - CodePoint.unitLength point)
        exact ⟨position + 1, by rw [isFloor, unitsBefore_cons_succ]⟩

/-- Without reordered marks, segments are cut at all code points. -/
theorem IsUnreordered.isSegmentEdge_iff {text : Text} (isUnreordered : text.IsUnreordered)
    (index : Nat) : text.IsSegmentEdge index ↔ text.IsBoundary index := by
  rw [IsSegmentEdge, segmentStart, isUnreordered]
  constructor
  · intro isFloor
    obtain ⟨position, isPosition⟩ := exists_segmentFloor_eq text.points index
    rw [isFloor] at isPosition
    rw [isPosition]
    exact isBoundary_unitsBefore text position
  · intro boundary
    obtain ⟨position, -, rfl⟩ := exists_position boundary
    exact segmentFloor_unitsBefore text.points position

end Text

/-- Without reordered marks, every match leaves its segment. -/
theorem Text.IsUnreordered.leavesSegment {text : Text} (isUnreordered : text.IsUnreordered)
    {span : Span} (notNegative : 0 ≤ span.stop) (isEdge : text.IsSegmentEdge span.stop.toNat) :
    span.LeavesSegment text := by
  intro isEmpty
  obtain ⟨stop, isStop⟩ := Int.eq_ofNat_of_zero_le notNegative
  rw [isStop, Int.toNat_natCast, isUnreordered.isSegmentEdge_iff] at isEdge
  rw [isUnreordered.isSegmentEdge_iff, Matcher.stepBehind, if_pos isEmpty, isStop]
  have decided : decide ((0 : Int) ≤ (stop : Int)) = true := decide_eq_true (by omega)
  dsimp only
  rw [Int.toNat_natCast, decided, Bool.true_and]
  cases isPair : text.isPairAt stop with
  | true =>
      have inside := length_of_isPairAt isPair
      rw [if_pos rfl]
      refine .inr ⟨by omega, ?_⟩
      rw [show ((stop : Int) + 2).toNat = stop + 1 + 1 by omega, splitsPair_succ,
        isPairAt_succ_of_isPairAt isPair]
  | false =>
      rw [if_neg Bool.false_ne_true]
      rcases Nat.eq_or_lt_of_le isEdge.1 with isEnd | less
      · left
        omega
      · refine .inr ⟨by omega, ?_⟩
        rw [show ((stop : Int) + 1).toNat = stop + 1 by omega, splitsPair_succ, isPair]

namespace Matcher

variable {σ : Type} {usable : σ → Prop} {allowed : Pattern σ → Prop}

/-- Where the next match starts at the earliest. -/
def nextFloor (matcher : Matcher σ) : Nat :=
  matcher.text.segmentStart (max matcher.behind matcher.regionStart).toNat

/-- What a search that succeeds leaves behind. -/
structure FoundAt (matcher after : Matcher σ) (first last : Nat) : Prop where
  task : matcher.SameTask after
  previous : after.previous = some ⟨first, last⟩
  isWhole : after.snapshot.span .whole = .ok (some ⟨first, last⟩)
  floor_le : matcher.nextFloor ≤ first
  ordered : first ≤ last
  inRegion : last ≤ matcher.regionEnd
  isEdge : matcher.text.IsSegmentEdge last

theorem find_exec_found {configuration after : Configuration σ}
    (consistent : configuration.matcher.Consistent)
    (isCanonical : configuration.matcher.pattern.canonicalEquivalence = true)
    (places : configuration.matcher.pattern.PlacesMatches usable)
    (isUsable : usable configuration.trace.engines)
    (found : find.exec configuration = (.ok true, after)) :
    ∃ first last, configuration.matcher.FoundAt after.matcher first last ∧
      after.matcher.Consistent ∧ usable after.trace.engines := by
  have isTried : (find.exec configuration).1 ≠ .ok false := by
    rw [found]
    nofun
  obtain ⟨start, next, ran⟩ := exists_find_exec_eq_search isTried
  obtain ⟨goesOn, inRegion⟩ := eq_max_of_nextStart? next
  have inside := Nat.le_trans inRegion consistent.regionEnd_le
  have usableAfter := search_usable consistent places.exchange_usable start .search isUsable
  rw [← ran, found] at usableAfter
  rw [ran, search_exec consistent] at found
  obtain ⟨isTrue, rfl⟩ := Prod.mk.inj found
  obtain ⟨spans, mark, attempted⟩ := exists_found_of_conclude isTrue
  obtain ⟨span, isFirst, first, last, rfl, leFirst, ordered, leLast, isEdge⟩ :=
    attempt_keeps consistent.seen isCanonical places inside .search isUsable attempted
  refine ⟨first, last, ?_, consistent.seen.conclude .search _, usableAfter⟩
  dsimp only
  rw [attempted]
  refine ⟨⟨rfl, rfl, rfl, rfl, rfl, rfl⟩, isFirst, span_whole rfl isFirst, ?_, ordered,
    Nat.le_trans leLast (segmentFloor_le _), isEdge⟩
  rw [nextFloor, ← goesOn, Int.toNat_natCast]
  exact Nat.le_trans (segmentFloor_mono (Nat.le_max_left _ _)) leFirst

/-- The search goes on behind the start of a match, and where the match leaves its segment in
a later segment. -/
theorem FoundAt.nextFloor_le {matcher after : Matcher σ} {first last : Nat}
    (foundAt : matcher.FoundAt after first last) :
    first ≤ after.nextFloor ∧
      ((⟨first, last⟩ : Span).LeavesSegment matcher.text →
        (matcher.text.length : Int) < after.behind ∨ first < after.nextFloor) := by
  have isBehind : after.behind = stepBehind matcher.text ⟨first, last⟩ := by
    rw [behind, foundAt.previous, foundAt.task.text]
  have less : (first : Int) < after.behind ∧ (last : Int) ≤ after.behind :=
    behind_of_previous foundAt.previous (Int.ofNat_le.mpr foundAt.ordered)
  have mono : after.text.segmentStart after.behind.toNat ≤ after.nextFloor :=
    segmentFloor_mono (by omega)
  have leLast : after.text.segmentStart last ≤ after.text.segmentStart after.behind.toNat :=
    segmentFloor_mono (by omega)
  rw [foundAt.task.text] at leLast mono
  rw [show matcher.text.segmentStart last = last from foundAt.isEdge] at leLast
  have ordered := foundAt.ordered
  refine ⟨by omega, fun leaves => ?_⟩
  rcases Nat.eq_or_lt_of_le ordered with rfl | notEmpty
  · rw [Span.LeavesSegment, ← isBehind] at leaves
    refine (leaves rfl).imp_right fun isEdge => ?_
    rw [show matcher.text.segmentStart after.behind.toNat = after.behind.toNat from isEdge] at mono
    omega
  · right
    omega

/-- Behind a text no match is found. -/
theorem find_exec_behind {configuration : Configuration σ}
    (consistent : configuration.matcher.Consistent)
    (isBehind : (configuration.matcher.text.length : Int) < configuration.matcher.behind) :
    (find.exec configuration).1 = .ok false := by
  have noStart : configuration.matcher.nextStart? = none := by
    have inside := consistent.regionEnd_le
    rw [nextStart?_eq, if_pos (by omega)]
  rw [find_exec]
  split
  · rfl
  · rw [noStart]

/-- A search that finds nothing, or fails, leaves where the search goes on. -/
theorem find_exec_unfound {configuration : Configuration σ}
    (consistent : configuration.matcher.Consistent)
    (places : configuration.matcher.pattern.PlacesMatches usable)
    (isUsable : usable configuration.trace.engines)
    (unfound : (find.exec configuration).1 ≠ .ok true) :
    configuration.matcher.SameTask (find.exec configuration).2.matcher ∧
      (find.exec configuration).2.matcher.previous = configuration.matcher.previous ∧
      (find.exec configuration).2.matcher.Consistent ∧
      usable (find.exec configuration).2.trace.engines := by
  rw [find_exec] at unfound ⊢
  split
  · exact ⟨⟨rfl, rfl, rfl, rfl, rfl, rfl⟩, rfl, consistent, isUsable⟩
  next notExhausted =>
  rw [if_neg notExhausted] at unfound
  cases next : configuration.matcher.nextStart? with
  | none =>
      exact ⟨⟨rfl, rfl, rfl, rfl, rfl, rfl⟩, rfl, consistent.settle .search (.noMatch false),
        isUsable⟩
  | some start =>
      have usableAfter := search_usable consistent places.exchange_usable start .search isUsable
      rw [next] at unfound
      dsimp only at unfound ⊢
      rw [search_exec consistent] at unfound usableAfter ⊢
      dsimp only at unfound usableAfter ⊢
      refine ⟨configuration.matcher.sameTask_conclude .search _, ?_,
        consistent.seen.conclude .search _, usableAfter⟩
      cases attempted : ((configuration.matcher.seen.attempt configuration.matcher.seen.seenView
        start .search).run configuration.trace).1 with
      | error fault => rfl
      | ok state =>
          cases state with
          | fresh => rfl
          | noMatch isPartial => rfl
          | found spans mark =>
              rw [attempted] at unfound
              exact absurd rfl unfound

theorem matched_exec_found {configuration after : Configuration σ}
    (found : find.exec configuration = (.ok true, after)) :
    (Survey.matched find).exec configuration = (.ok (some after.matcher.snapshot), after) := by
  rw [Survey.matched, Matching.exec_bind, found]
  rfl

theorem matched_exec_unfound {configuration : Configuration σ}
    (unfound : (find.exec configuration).1 ≠ .ok true) :
    (∀ snapshot, ((Survey.matched find).exec configuration).1 ≠ .ok (some snapshot)) ∧
      ((Survey.matched find).exec configuration).2 = (find.exec configuration).2 := by
  rw [Survey.matched, Matching.exec_bind]
  rcases executed : find.exec configuration with ⟨outcome, after⟩
  rw [executed] at unfound
  cases outcome with
  | error fault =>
      refine ⟨fun snapshot found => ?_, rfl⟩
      cases found
  | ok isFound =>
      cases isFound with
      | false =>
          refine ⟨fun snapshot found => ?_, rfl⟩
          cases found
      | true => exact absurd rfl unfound

/-- A search without a match adds none to those that successive searches find. -/
theorem matchesOf_findCalls_of_unfound (count : Nat) {configuration : Configuration σ}
    (unfound : (find.exec configuration).1 ≠ .ok true) :
    matchesOf (findCalls (count + 1) configuration) =
      matchesOf (findCalls count (find.exec configuration).2) := by
  obtain ⟨unmatched, sameAfter⟩ := matched_exec_unfound unfound
  rw [findCalls, sameAfter, matchesOf, List.filterMap_cons]
  cases outcome : ((Survey.matched find).exec configuration).1 with
  | error fault => rfl
  | ok found =>
      cases found with
      | none => rfl
      | some snapshot => exact absurd outcome (unmatched snapshot)

/-! ## Successive matches -/

/-- Spans from left to right.  Behind one that leaves its segment, spans start further on. -/
def Advance (text : Text) (spans : List Span) : Prop :=
  spans.Pairwise fun earlier later =>
    earlier.start ≤ later.start ∧ (earlier.LeavesSegment text → earlier.start < later.start)

/-- Spans that searches may find one after the other, from where a matcher goes on. -/
structure GoesThrough (matcher : Matcher σ) (spans : List Span) : Prop where
  advance : Advance matcher.text spans
  eq_nil : (matcher.text.length : Int) < matcher.behind → spans = []
  placed : ∀ span ∈ spans, (matcher.nextFloor : Int) ≤ span.start ∧ span.start ≤ span.stop ∧
    span.stop ≤ matcher.regionEnd ∧ matcher.text.IsSegmentEdge span.stop.toNat

namespace GoesThrough

variable {matcher after : Matcher σ} {spans : List Span}

theorem nil (matcher : Matcher σ) : matcher.GoesThrough [] :=
  ⟨.nil, fun _ => rfl, fun _ mem => absurd mem List.not_mem_nil⟩

/-- A match comes in front of those that are found behind it. -/
theorem cons {first last : Nat} (foundAt : matcher.FoundAt after first last)
    (inside : matcher.behind ≤ matcher.text.length) (rest : after.GoesThrough spans) :
    matcher.GoesThrough (⟨first, last⟩ :: spans) := by
  have sameText := foundAt.task.text
  have floors := foundAt.nextFloor_le
  constructor
  · refine List.pairwise_cons.mpr ⟨fun later mem => ?_, sameText ▸ rest.advance⟩
    have startLe := (rest.placed later mem).1
    refine ⟨Int.le_trans (Int.ofNat_le.mpr floors.1) startLe, fun leaves => ?_⟩
    -- A match that leaves its segment moves the floor on, or nothing is found behind it.
    rcases floors.2 leaves with isBehind | less
    · rw [rest.eq_nil (sameText ▸ isBehind)] at mem
      cases mem
    · exact Int.lt_of_lt_of_le (Int.ofNat_lt.mpr less) startLe
  · exact fun isBehind => absurd isBehind (Int.not_lt.mpr inside)
  · intro span mem
    rcases List.mem_cons.mp mem with rfl | mem
    · exact ⟨Int.ofNat_le.mpr foundAt.floor_le, Int.ofNat_le.mpr foundAt.ordered,
        Int.ofNat_le.mpr foundAt.inRegion, foundAt.isEdge⟩
    · obtain ⟨startLe, ordered, stopLe, isEdge⟩ := rest.placed span mem
      rw [foundAt.task.regionEnd] at stopLe
      rw [sameText] at isEdge
      have floor := foundAt.floor_le
      exact ⟨by omega, ordered, stopLe, isEdge⟩

/-- Without a match the search goes on where it did. -/
theorem of_unfound (task : matcher.SameTask after) (samePrevious : after.previous = matcher.previous)
    (rest : after.GoesThrough spans) : matcher.GoesThrough spans := by
  have sameBehind : after.behind = matcher.behind := by
    rw [behind, behind, samePrevious, task.text, task.regionStart]
  obtain ⟨advance, eq_nil, placed⟩ := rest
  rw [task.text] at advance
  rw [task.text, sameBehind] at eq_nil
  rw [nextFloor, sameBehind, task.text, task.regionStart, task.regionEnd, ← nextFloor] at placed
  exact ⟨advance, eq_nil, placed⟩

end GoesThrough

/-- Successive searches find matches from left to right, from where the search goes on. -/
theorem exists_spans_of_findCalls (count : Nat) {configuration : Configuration σ}
    (consistent : configuration.matcher.Consistent)
    (isCanonical : configuration.matcher.pattern.canonicalEquivalence = true)
    (places : configuration.matcher.pattern.PlacesMatches usable)
    (isUsable : usable configuration.trace.engines) :
    ∃ spans : List Span,
      (matchesOf (findCalls count configuration)).map (·.span .whole) =
        spans.map (fun span => .ok (some span)) ∧
      configuration.matcher.GoesThrough spans := by
  induction count generalizing configuration with
  | zero => exact ⟨[], rfl, .nil _⟩
  | succ count ih =>
      by_cases found : (find.exec configuration).1 = .ok true
      · rcases executed : find.exec configuration with ⟨outcome, after⟩
        rw [executed] at found
        obtain rfl : outcome = .ok true := found
        obtain ⟨first, last, foundAt, consistent', isUsable'⟩ :=
          find_exec_found consistent isCanonical places isUsable executed
        have inside : configuration.matcher.behind ≤ configuration.matcher.text.length := by
          refine Int.not_lt.mp fun isBehind => ?_
          have unfound := find_exec_behind consistent isBehind
          rw [executed] at unfound
          cases unfound
        obtain ⟨spans, reported, rest⟩ := ih consistent' (foundAt.task.pattern ▸ isCanonical)
          (foundAt.task.pattern ▸ places) isUsable'
        refine ⟨⟨first, last⟩ :: spans, ?_, .cons foundAt inside rest⟩
        rw [findCalls, matched_exec_found executed, List.map_cons, ← reported, ← foundAt.isWhole]
        rfl
      · obtain ⟨task, samePrevious, consistent', isUsable'⟩ :=
          find_exec_unfound consistent places isUsable found
        obtain ⟨spans, reported, rest⟩ := ih consistent' (task.pattern ▸ isCanonical)
          (task.pattern ▸ places) isUsable'
        rw [matchesOf_findCalls_of_unfound count found]
        exact ⟨spans, reported, .of_unfound task samePrevious rest⟩

/-! ## Searches that end -/

/-- Successive searches end when every match leaves its segment: the next one starts further
on. -/
theorem endsWithin_of_leavesSegment (count : Nat) {configuration : Configuration σ}
    (consistent : configuration.matcher.Consistent)
    (isCanonical : configuration.matcher.pattern.canonicalEquivalence = true)
    (places : configuration.matcher.pattern.PlacesMatches usable)
    (isUsable : usable configuration.trace.engines)
    (leave : MatchesLeave configuration.matcher.text
      (matchesOf (findCalls count configuration)))
    (enough : configuration.matcher.text.length + 2 ≤ count + configuration.matcher.nextFloor) :
    EndsWithin count configuration := by
  induction count generalizing configuration with
  | zero =>
      have le : configuration.matcher.nextFloor ≤ configuration.matcher.text.length :=
        configuration.matcher.text.segmentStart_le_length _
      omega
  | succ count ih =>
      intro found
      rcases executed : find.exec configuration with ⟨outcome, after⟩
      rw [executed] at found
      obtain rfl : outcome = .ok true := found
      obtain ⟨first, last, foundAt, consistent', isUsable'⟩ :=
        find_exec_found consistent isCanonical places isUsable executed
      rw [findCalls, matched_exec_found executed] at leave
      have leavesFirst := leave after.matcher.snapshot List.mem_cons_self _ foundAt.isWhole
      have floor := foundAt.floor_le
      have floors := foundAt.nextFloor_le
      rcases floors.2 leavesFirst with isBehind | less
      · have positive : 0 < count := by
          have le : configuration.matcher.nextFloor ≤ configuration.matcher.text.length :=
            configuration.matcher.text.segmentStart_le_length _
          omega
        obtain ⟨rest, rfl⟩ := Nat.exists_eq_succ_of_ne_zero (Nat.ne_of_gt positive)
        intro found'
        rw [find_exec_behind consistent' (foundAt.task.text ▸ isBehind)] at found'
        cases found'
      · refine ih consistent' (foundAt.task.pattern ▸ isCanonical)
          (foundAt.task.pattern ▸ places) isUsable'
          (fun snapshot mem => foundAt.task.text ▸ leave snapshot (List.mem_cons_of_mem _ mem)) ?_
        dsimp only
        rw [foundAt.task.text]
        omega

/-! ## Progress -/

/-- Under canonical equivalence successive searches find matches from left to right, in the
segments of the region.  Behind a match that leaves its segment they find only what starts
further on.  So where every match does there are no more matches than offsets, and every loop
of searches ends. -/
theorem findCalls_advance_canonical
    (places : ∀ pattern, allowed pattern → pattern.PlacesMatches usable) {matcher : Matcher σ}
    (reached : matcher.Reachable allowed usable)
    (isCanonical : matcher.pattern.canonicalEquivalence = true) {trace : Trace σ}
    (isUsable : usable trace.engines) (count : Nat) :
    ∃ spans : List Span,
      (matchesOf (findCalls count ⟨matcher, trace⟩)).map (·.span .whole) =
        spans.map (fun span => .ok (some span)) ∧
      Advance matcher.text spans ∧
      (∀ span ∈ spans, (matcher.text.segmentStart matcher.regionStart : Int) ≤ span.start ∧
        span.start ≤ span.stop ∧ span.stop ≤ matcher.regionEnd ∧
        matcher.text.IsSegmentEdge span.stop.toNat) ∧
      ((∀ span ∈ spans, span.LeavesSegment matcher.text) →
        spans.length ≤ matcher.text.length + 1 ∧
        (matcher.text.length + 2 ≤ count → LoopsEndWithin count ⟨matcher, trace⟩)) := by
  have both := reached.consistent
  have isPlacing := places _ both.2
  obtain ⟨spans, reported, advance, -, placed⟩ :=
    @exists_spans_of_findCalls σ usable count ⟨matcher, trace⟩ both.1 isCanonical isPlacing isUsable
  dsimp only at advance placed
  refine ⟨spans, reported, advance, fun span mem => ?_, fun leave => ⟨?_, fun enough => ?_⟩⟩
  · obtain ⟨leStart, rest⟩ := placed span mem
    have floor : matcher.text.segmentStart matcher.regionStart ≤ matcher.nextFloor :=
      segmentFloor_mono (by omega)
    exact ⟨by omega, rest⟩
  · have increasing : spans.Pairwise fun earlier later => earlier.start < later.start :=
      advance.imp_of_mem fun mem _ step => step.2 (leave _ mem)
    have bound := @length_le_of_increasing 0 matcher.text.length spans increasing
      fun span mem => by
        obtain ⟨leStart, ordered, leStop, -⟩ := placed span mem
        have inside := both.1.regionEnd_le
        omega
    omega
  · refine (endsWithin_of_leavesSegment count both.1 isCanonical isPlacing isUsable
      (matchesLeave_of_spans reported leave) ?_).loopsEndWithin
    exact Nat.le_trans enough (Nat.le_add_right _ _)

/-- On a pair the empty pattern is found, first in front of it, and the searches end. -/
theorem findCalls_advance_canonical_pair :
    let matcher := initial .ofEmptyCanonical [0xD83D, 0xDE00] true 0
    ∃ spans : List Span,
      (matchesOf (findCalls 4 ⟨matcher, ⟨0, []⟩⟩)).map (·.span .whole) =
        spans.map (fun span => .ok (some span)) ∧
      spans.head? = some ⟨0, 0⟩ ∧ (∀ span ∈ spans, span.LeavesSegment matcher.text) ∧
      spans.Pairwise (fun earlier later => earlier.start < later.start) ∧
      spans.length ≤ 3 ∧ LoopsEndWithin 4 (⟨matcher, ⟨0, []⟩⟩ : Configuration Int) := by
  have isCreated : (create .ofEmptyCanonical [0xD83D, 0xDE00] {}).run ⟨0, []⟩ =
      (.ok (initial .ofEmptyCanonical [0xD83D, 0xDE00] true 0), ⟨0, []⟩) := rfl
  have reached : (initial .ofEmptyCanonical [0xD83D, 0xDE00] true 0).Reachable
      (· = .ofEmptyCanonical) fun _ => True := .created rfl trivial isCreated
  have places : ∀ pattern, pattern = Pattern.ofEmptyCanonical →
      pattern.PlacesMatches fun _ => True := by
    rintro pattern rfl
    exact Pattern.placesMatches_ofEmptyCanonical
  have isUnreordered : Text.IsUnreordered [0xD83D, 0xDE00] := @segments_of_point _ 0x1F600 rfl
  obtain ⟨spans, reported, advance, placed, ends⟩ :=
    @findCalls_advance_canonical Int _ _ places _ reached rfl ⟨0, []⟩ trivial 4
  have leave : ∀ span ∈ spans, span.LeavesSegment [0xD83D, 0xDE00] := fun span mem => by
    obtain ⟨leStart, ordered, -, isEdge⟩ := placed span mem
    exact isUnreordered.leavesSegment (by omega) isEdge
  have front : (CanonicalText.ofText [0xD83D, 0xDE00]).toNormalized 0 = 0 := by
    rw [CanonicalText.toNormalized_eq (by decide), @segments_of_point _ 0x1F600 rfl]
    rfl
  obtain ⟨after, found⟩ := @find_exec_emptyCanonical _ reached.consistent.1 rfl rfl rfl 0 rfl rfl
    front front ⟨0, []⟩
  have isFirst : spans.head? = some ⟨0, 0⟩ := by
    have atHead := congrArg List.head? reported
    rw [findCalls, matched_exec_found found] at atHead
    cases spans with
    | nil => cases atHead
    | cons span rest =>
        exact congrArg some (Option.some.inj (Except.ok.inj (Option.some.inj atHead))).symm
  exact ⟨spans, reported, isFirst, leave, advance.imp_of_mem fun mem _ step => step.2 (leave _ mem),
    (ends leave).1, (ends leave).2 (Nat.le_refl 4)⟩

/-- In front of a letter with reordered accents the empty pattern is found twice. -/
theorem repeats_before_accents :
    Pattern.ofEmptyCanonical.PlacesMatches (fun _ => True) ∧
    ∃ first second : Configuration Int,
      find.exec ⟨initial .ofEmptyCanonical [0x61, 0x301, 0x323] true 0, ⟨0, []⟩⟩ =
        (.ok true, first) ∧
      find.exec first = (.ok true, second) ∧
      first.matcher.snapshot.span .whole = .ok (some ⟨0, 0⟩) ∧
      second.matcher.snapshot.span .whole = .ok (some ⟨0, 0⟩) := by
  have front : ∀ index, index < 3 →
      (CanonicalText.ofText [0x61, 0x301, 0x323]).toNormalized index = 0 := by
    intro index less
    rw [CanonicalText.toNormalized_eq (Nat.le_of_lt less), segments_accents, normalizedFloor]
    exact if_pos less
  have consistent := @initial_consistent Int .ofEmptyCanonical rfl [0x61, 0x301, 0x323] true 0
  obtain ⟨after, first⟩ := @find_exec_emptyCanonical _ consistent rfl rfl rfl 0 rfl rfl
    (front 0 (by decide)) (front 0 (by decide)) ⟨0, []⟩
  obtain ⟨after', second⟩ := @find_exec_emptyCanonical
    ((initial .ofEmptyCanonical [0x61, 0x301, 0x323] true 0).seen.settle .search
      (.found [⟨0, 0⟩] none)) (consistent.seen.settle .search _) rfl rfl rfl 1 rfl rfl
    (front 1 (by decide)) (front 0 (by decide)) after
  exact ⟨Pattern.placesMatches_ofEmptyCanonical, _, _, first, second, rfl, rfl⟩

end Matcher

end RegexMatching
