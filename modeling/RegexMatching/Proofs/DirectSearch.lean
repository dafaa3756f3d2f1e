import RegexMatching.Proofs.EndAnchoring
import RegexMatching.Proofs.FindLoop
import RegexMatching.Proofs.Searches

/-!
# Searching a text directly

A text that is handed to an engine is written as bytes, cut, read again and matched, and what
is found goes the same way back.  None of this shows: successive searches find what the
rendered expression finds in the text itself, in which every surrogate that stands alone has
been replaced.
-/

namespace RegexMatching

/-! ## Lone surrogates -/

/-- A unit that stands alone: the replacement character instead of a surrogate. -/
def CodeUnit.repaired (unit : CodeUnit) : CodeUnit :=
  if unit.isHighSurrogate || unit.isLowSurrogate then 0xFFFD else unit

theorem CodeUnit.toNat_repaired (unit : CodeUnit) :
    unit.repaired.toNat = Utf8.scalarOf unit.toNat := by
  unfold repaired Utf8.scalarOf
  have high := isHighSurrogate_iff unit
  have low := isLowSurrogate_iff unit
  split
  · next isSurrogate =>
      rw [Bool.or_eq_true, high, low] at isSurrogate
      rw [if_pos (by rw [Bool.and_eq_true, decide_eq_true_eq, decide_eq_true_eq]; omega)]
      rfl
  · next isOther =>
      rw [Bool.or_eq_true, high, low] at isOther
      rw [if_neg (by rw [Bool.and_eq_true, decide_eq_true_eq, decide_eq_true_eq]; omega)]

theorem CodeUnit.isHighSurrogate_repaired (unit : CodeUnit) :
    unit.repaired.isHighSurrogate = false := by
  unfold repaired
  split
  · rfl
  · next isOther =>
      rw [Bool.or_eq_true, not_or] at isOther
      exact Bool.eq_false_iff.mpr isOther.1

namespace Text

/-- A text with every surrogate replaced that belongs to no pair. -/
def repaired : Text → Text
  | [] => []
  | [unit] => [unit.repaired]
  | high :: low :: rest =>
      if high.isHighSurrogate && low.isLowSurrogate then high :: low :: repaired rest
      else high.repaired :: repaired (low :: rest)

theorem scalarOf_ofPair (high low : Nat) :
    Utf8.scalarOf (CodePoint.ofPair high low) = CodePoint.ofPair high low := by
  unfold Utf8.scalarOf CodePoint.ofPair
  rw [if_neg]
  rw [Bool.and_eq_true, decide_eq_true_eq, decide_eq_true_eq]
  omega

theorem points_repaired (text : Text) :
    text.repaired.points = text.points.map Utf8.scalarOf := by
  fun_induction points text with
  | case1 => rfl
  | case2 unit => simp [repaired, points, CodeUnit.toNat_repaired]
  | case3 high low rest pair ih =>
      rw [repaired, if_pos pair, points, if_pos pair, ih, List.map_cons, scalarOf_ofPair]
  | case4 high low rest noPair ih =>
      rw [repaired, if_neg noPair, points_cons_of_not_high high.isHighSurrogate_repaired, ih,
        List.map_cons, CodeUnit.toNat_repaired]

theorem unitLength_scalarOf (point : Nat) :
    CodePoint.unitLength (Utf8.scalarOf point) = CodePoint.unitLength point := by
  unfold Utf8.scalarOf
  split
  · next isSurrogate =>
      rw [Bool.and_eq_true, decide_eq_true_eq, decide_eq_true_eq] at isSurrogate
      unfold CodePoint.unitLength Utf8.replacement
      rw [if_pos (by omega), if_pos (by omega)]
  · rfl

/-- Replacing a surrogate moves nothing. -/
theorem unitsBefore_repaired (text : Text) (position : Nat) :
    unitsBefore text.repaired.points position = unitsBefore text.points position := by
  have lengths : CodePoint.unitLength ∘ Utf8.scalarOf = CodePoint.unitLength :=
    funext unitLength_scalarOf
  rw [unitsBefore, points_repaired, ← List.map_take, List.map_map, lengths, unitsBefore]

theorem length_points_repaired (text : Text) :
    text.repaired.points.length = text.points.length := by
  rw [points_repaired, List.length_map]

theorem length_repaired (text : Text) : text.repaired.length = text.length := by
  rw [← unitsBefore_length, length_points_repaired, unitsBefore_repaired, unitsBefore_length]

/-! ## Going on one code point -/

/-- How many code points end at or before an index. -/
def pointsBefore (text : Text) (index : Nat) : Nat :=
  (points (text.take index)).length

theorem pointsBefore_unitsBefore (text : Text) {position : Nat}
    (inside : position ≤ text.points.length) :
    text.pointsBefore (unitsBefore text.points position) = position := by
  rw [pointsBefore, (take_unitsBefore text position).2, List.length_take, Nat.min_eq_left inside]

/-- A code point takes two units if it is a pair, and one otherwise. -/
theorem unitsBefore_succ (text : Text) {position : Nat} (inside : position < text.points.length) :
    unitsBefore text.points (position + 1) = unitsBefore text.points position +
      if text.isPairAt (unitsBefore text.points position) then 2 else 1 := by
  have boundary := isBoundary_unitsBefore text (position + 1)
  have step : unitsBefore text.points (position + 1) = unitsBefore text.points position +
      CodePoint.unitLength text.points[position] := by
    rw [unitsBefore, List.take_succ_eq_append_getElem inside, List.map_append, List.sum_append]
    simp [unitsBefore]
  have lengths : CodePoint.unitLength text.points[position] = 1 ∨
      CodePoint.unitLength text.points[position] = 2 := by
    unfold CodePoint.unitLength
    split
    · exact .inl rfl
    · exact .inr rfl
  split
  · next pair =>
      rcases lengths with one | two
      · -- one unit further lies inside the pair
        rw [step, one] at boundary
        have splits := boundary.2
        rw [splitsPair_succ, pair] at splits
        contradiction
      · rw [step, two]
  · next noPair =>
      rcases lengths with one | two
      · rw [step, one]
      · -- one unit further is a boundary that no position would lie at
        have bound := boundary.1
        have between : text.IsBoundary (unitsBefore text.points position + 1) :=
          ⟨by omega, by rw [splitsPair_succ]; exact Bool.eq_false_iff.mpr noPair⟩
        obtain ⟨other, otherInside, atOther⟩ := exists_position between
        rcases Nat.lt_or_ge position other with less | ge
        · rcases Nat.eq_or_lt_of_le (show position + 1 ≤ other from less) with same | further
          · subst same
            omega
          · have ahead := unitsBefore_lt further otherInside
            omega
        · rcases Nat.eq_or_lt_of_le ge with same | before
          · subst same
            omega
          · have behind := unitsBefore_lt before (Nat.le_of_lt inside)
            omega

end Text

/-! ## Matches in a text -/

namespace Backtrack.Regex

/-- What an expression finds in a text from an index on: the whole match and its groups. -/
def execIn (regex : Regex) (text : Text) (start : Nat) : Option (List Span) :=
  (regex.exec false text.points.toArray (text.pointsBefore start)).map fun spans =>
    spans.map (Text.unitSpan text.points)

/-- What an expression finds in a text from an index on, one match after the other: every
search goes on at the end of the last match, or one code point further when that was empty. -/
def matchesIn (regex : Regex) (text : Text) : Nat → Nat → List (List Span)
  | 0, _ => []
  | count + 1, start =>
      if text.length < start then []
      else
        match regex.execIn text start with
        | some (whole :: groups) =>
            (whole :: groups) ::
              regex.matchesIn text count (Matcher.stepBehind text whole).toNat
        | _ => []

/-- The first span of a match is the whole match. -/
theorem exists_whole_of_exec {regex : Regex} {isSticky : Bool} {points : Array Nat} {start : Nat}
    {spans : PointSpans} (found : regex.exec isSticky points start = some spans) :
    ∃ first last groups, spans = some (first, last) :: groups := by
  have atPosition : ∃ position, regex.matchAt points position = some spans := by
    unfold exec at found
    split at found
    · exact ⟨start, found⟩
    · obtain ⟨position, -, -, matched⟩ := exists_matchAt_of_firstMatch found
      exact ⟨position, matched⟩
  obtain ⟨position, matched⟩ := atPosition
  rw [matchAt] at matched
  obtain ⟨final, -, rfl⟩ := Option.map_eq_some_iff.mp matched
  exact ⟨position, final.position, final.captures.toList, rfl⟩

/-- Every match in a text has a span for every group of the expression. -/
theorem length_of_mem_matchesIn {regex : Regex} {text : Text} {count start : Nat}
    {spans : List Span} (mem : spans ∈ regex.matchesIn text count start) :
    spans.length = regex.captureCount + 1 := by
  induction count generalizing start with
  | zero => contradiction
  | succ count ih =>
      rw [matchesIn] at mem
      split at mem
      · contradiction
      · split at mem
        · next whole groups found =>
            rcases List.mem_cons.mp mem with rfl | later
            · obtain ⟨positions, executed, same⟩ := Option.map_eq_some_iff.mp found
              have inside : text.pointsBefore start ≤ text.points.toArray.size := by
                apply Nat.le_of_not_lt
                intro behind
                rw [exec, if_neg Bool.false_ne_true, Nat.sub_eq_zero_of_le (by omega)] at executed
                contradiction
              rw [← same, List.length_map]
              exact (fits_exec inside executed).1
            · exact ih later
        · contradiction

end Backtrack.Regex

/-- The spans of the given number of groups; those that are missing are unset. -/
def toSlots (slots : Nat) (spans : List Span) : List Span :=
  (List.range slots).map fun group => (spans[group]?).getD .unset

theorem toSlots_eq_self {slots : Nat} {spans : List Span} (length : spans.length = slots) :
    toSlots slots spans = spans := by
  apply List.ext_getElem?
  intro group
  rw [toSlots, List.getElem?_map]
  by_cases inside : group < slots
  · have entry := List.getElem?_eq_getElem (length.symm ▸ inside : group < spans.length)
    rw [List.getElem?_range inside, Option.map_some, entry]
    rfl
  · rw [List.getElem?_eq_none (by rw [List.length_range]; omega),
      List.getElem?_eq_none (by omega)]
    rfl

theorem PointSpans.toUnits_eq_toSlots (spans : PointSpans) (points : List Nat) (slots : Nat) :
    spans.toUnits points slots = toSlots slots (spans.map (Text.unitSpan points)) := by
  apply List.map_congr_left
  intro group _
  rw [List.getElem?_map]
  rcases spans[group]? with _ | _ | _ <;> rfl

namespace Matcher

/-! ## Where searches go on -/

/-- The index behind a match between two positions, one code point further when it is empty. -/
def indexBehind (text : Text) (first last : Nat) : Nat :=
  if first = last then
    if last < text.points.length then Text.unitsBefore text.points (last + 1)
    else text.length + 1
  else
    Text.unitsBefore text.points last

theorem stepBehind_unitSpan {text : Text} {first last : Nat}
    (first_le : first ≤ text.points.length) (last_le : last ≤ text.points.length) :
    stepBehind text (Text.unitSpan text.points (some (first, last))) =
      indexBehind text first last := by
  by_cases isEmpty : first = last
  · subst isEmpty
    rw [stepBehind, indexBehind, if_pos rfl]
    simp only [Text.unitSpan, if_pos, Int.toNat_natCast, Int.natCast_nonneg, decide_true,
      Bool.true_and]
    by_cases inside : first < text.points.length
    · rw [if_pos inside, Text.unitsBefore_succ text inside]
      split <;> rfl
    · have atEnd : first = text.points.length := Nat.le_antisymm first_le (Nat.not_lt.mp inside)
      have noPair : ¬text.isPairAt text.length = true := fun pair => by
        have bound := Text.length_of_isPairAt pair
        omega
      rw [if_neg inside, atEnd, Text.unitsBefore_length, if_neg noPair]
      rfl
  · have notEmpty : ¬(Text.unitsBefore text.points first : Int) =
        Text.unitsBefore text.points last := fun same =>
      isEmpty (Text.unitsBefore_inj first_le last_le (Int.ofNat.inj same))
    rw [stepBehind, indexBehind, if_neg isEmpty]
    exact if_neg notEmpty

/-- Replacing a surrogate changes nothing about where a search goes on. -/
theorem indexBehind_repaired (text : Text) (first last : Nat) :
    indexBehind text.repaired first last = indexBehind text first last := by
  simp only [indexBehind, Text.length_points_repaired, Text.unitsBefore_repaired,
    Text.length_repaired]

/-- Behind a match a search goes on at a boundary, unless that lies behind the text. -/
theorem isBoundary_indexBehind {text : Text} {first last : Nat}
    (inside : indexBehind text first last ≤ text.length) :
    text.IsBoundary (indexBehind text first last) := by
  unfold indexBehind at inside ⊢
  split
  · next isEmpty =>
      rw [if_pos isEmpty] at inside
      split
      · exact Text.isBoundary_unitsBefore text _
      · next atEnd =>
          rw [if_neg atEnd] at inside
          omega
  · exact Text.isBoundary_unitsBefore text _

/-! ## Searching the whole text -/

section Whole

variable {matcher : Matcher EngineState} (consistent : matcher.Consistent)
  (isPlain : matcher.pattern.canonicalEquivalence = false)

include consistent isPlain

theorem viewStart_eq_zero (fromStart : matcher.regionStart = 0) : matcher.viewStart = 0 := by
  rw [consistent.viewStart_eq isPlain, fromStart,
    Text.ceilIndex_eq_self (Text.isBoundary_zero _)]

theorem viewEnd_eq_length (toEnd : matcher.regionEnd = matcher.text.length) :
    matcher.viewEnd = matcher.text.length := by
  rw [consistent.viewEnd_eq isPlain, toEnd, Text.floorIndex_eq_self (Text.isBoundary_length _)]

variable (fromStart : matcher.regionStart = 0) (toEnd : matcher.regionEnd = matcher.text.length)

include fromStart toEnd

/-- All of the text is seen. -/
theorem viewText_eq_text : matcher.viewText = matcher.text := by
  rw [viewText, searchedText_eq isPlain, viewStart_eq_zero consistent isPlain fromStart,
    viewEnd_eq_length consistent isPlain toEnd, Text.between, List.take_length, List.drop_zero]

theorem placeOf?_of_isBoundary {start : Nat} (boundary : matcher.text.IsBoundary start) :
    matcher.placeOf? start = some start := by
  rw [placeOf?, searchedText_eq isPlain, viewStart_eq_zero consistent isPlain fromStart,
    viewEnd_eq_length consistent isPlain toEnd, consistent.ofSubject_eq isPlain,
    Text.ceilIndex_eq_self boundary, Nat.max_zero, if_neg (Nat.not_lt.mpr boundary.1), Nat.sub_zero]

end Whole

theorem asks_of_whole {matcher : Matcher EngineState} (fromStart : matcher.regionStart = 0)
    (toEnd : matcher.regionEnd = matcher.text.length) :
    matcher.lacksLineEdges = false ∧ matcher.ask = fun anchoring => anchoring.ask false false := by
  constructor
  · rw [lacksLineEdges, fromStart, toEnd]
    simp
  · funext anchoring
    rw [ask, fromStart, toEnd]
    simp

/-! ## Successive searches -/

theorem behind_eq_of_previous {σ : Type} {matcher : Matcher σ} {span : Span}
    (isPrevious : matcher.previous = some span) :
    matcher.behind = stepBehind matcher.text span := by
  rw [behind, isPrevious]

/-- A matcher that searches all of a text and has got to an index of it, or behind its end. -/
structure HasGotTo (matcher : Matcher EngineState) (pattern : Pattern EngineState) (text : Text)
    (start : Nat) : Prop where
  consistent : matcher.Consistent
  pattern_eq : matcher.pattern = pattern
  text_eq : matcher.text = text
  fromStart : matcher.regionStart = 0
  toEnd : matcher.regionEnd = matcher.text.length
  goesOn : matcher.isExhausted = false
  behind : matcher.behind = start
  boundary : start ≤ text.length → text.IsBoundary start

theorem HasGotTo.seen {matcher : Matcher EngineState} {pattern : Pattern EngineState} {text : Text}
    {start : Nat} (hasGot : matcher.HasGotTo pattern text start) :
    matcher.seen.HasGotTo pattern text start :=
  { hasGot with consistent := hasGot.consistent.seen }

theorem HasGotTo.nextStart? {matcher : Matcher EngineState} {pattern : Pattern EngineState}
    {text : Text} {start : Nat} (hasGot : matcher.HasGotTo pattern text start) :
    matcher.nextStart? = if text.length < start then none else some start := by
  rw [nextStart?_eq, hasGot.behind, hasGot.fromStart, hasGot.toEnd, hasGot.text_eq,
    Int.natCast_zero, Int.max_eq_left (Int.natCast_nonneg start), Int.toNat_natCast]
  simp only [Int.ofNat_lt]

/-- The engines answer with the code that they hold. -/
abbrev heldAnswer (kind : EngineKind) (engines : EngineState) : MatchFunction :=
  kind.backend.answering (kind.code? engines)

section Attempts

variable {kind : EngineKind} {flags : Flags} {plain : kind.Code} {pattern : Pattern EngineState}
  {engines : EngineState} {text : Text}
  (isCompiled : pattern.IsCompiled kind flags plain engines)
  (isPlain : pattern.canonicalEquivalence = false) (noMark : text.head? ≠ some 0xFEFF)
  {matcher : Matcher EngineState} {start position : Nat}

include isCompiled isPlain noMark

/-- An attempt from a position of the text is a search with the plain code from there. -/
theorem HasGotTo.attempted (hasGot : matcher.HasGotTo pattern text start)
    (inside : position ≤ text.points.length)
    (atPosition : Text.unitsBefore text.points position = start) (anchoring : Anchoring) :
    matcher.attempted (heldAnswer kind engines) start anchoring =
      (kind.backend.search plain (.ofBytes (Utf8.encode text)) position
        (anchoring.ask false false)).map fun
          | none => .noMatch false
          | some spans => .found (spans.toUnits text.points (pattern.groupCount + 1)) none := by
  obtain ⟨consistent, rfl, rfl, fromStart, toEnd, -, -, -⟩ := hasGot
  obtain rfl := atPosition
  obtain ⟨edges, ask_eq⟩ := asks_of_whole fromStart toEnd
  have seen := viewText_eq_text consistent isPlain fromStart toEnd
  have placed := placeOf?_of_isBoundary consistent isPlain fromStart toEnd
    (Text.isBoundary_unitsBefore matcher.text position)
  have attempt := attempted_eq consistent isCompiled isPlain (seen.symm ▸ noMark) edges
    (seen.symm ▸ placed) (seen.symm ▸ inside) anchoring
  rw [seen, ask_eq] at attempt
  rw [heldAnswer, attempt]
  cases kind.backend.search plain (.ofBytes (Utf8.encode matcher.text)) position
    (anchoring.ask false false) with
  | error fault => rfl
  | ok spans? =>
      cases spans? with
      | none => rfl
      | some spans =>
          rw [Except.map, stateOfSpans, seen, viewStart_eq_zero consistent isPlain fromStart]
          simp only [Span.shift_zero, List.map_id']
          rfl

omit isCompiled isPlain noMark in
/-- Behind the end of the text nothing is found. -/
theorem HasGotTo.foundBy_behind (hasGot : matcher.HasGotTo pattern text start)
    (behind : text.length < start) (answer : MatchFunction) :
    foundBy answer matcher = .ok none := by
  rw [foundBy, Call.result, hasGot.goesOn, if_neg Bool.false_ne_true, hasGot.nextStart?,
    if_pos behind]
  rfl

/-- Inside the text, `find` comes to what an attempt comes to. -/
theorem HasGotTo.result_find (hasGot : matcher.HasGotTo pattern text start)
    (inside : position ≤ text.points.length)
    (atPosition : Text.unitsBefore text.points position = start) :
    Call.find.result (heldAnswer kind engines) matcher =
      matcher.seen.conclude .search
        ((kind.backend.search plain (.ofBytes (Utf8.encode text)) position {}).map fun
          | none => .noMatch false
          | some spans => .found (spans.toUnits text.points (pattern.groupCount + 1)) none) := by
  have insideText : ¬text.length < start := by
    have bound := (Text.isBoundary_unitsBefore text position).1
    omega
  rw [Call.result, hasGot.goesOn, if_neg Bool.false_ne_true, hasGot.nextStart?,
    if_neg insideText]
  exact congrArg (matcher.seen.conclude .search)
    (hasGot.seen.attempted isCompiled isPlain noMark inside atPosition .search)

/-- Where a search finds nothing, `find` finds nothing. -/
theorem HasGotTo.foundBy_none (hasGot : matcher.HasGotTo pattern text start)
    (inside : position ≤ text.points.length)
    (atPosition : Text.unitsBefore text.points position = start)
    (searched : kind.backend.search plain (.ofBytes (Utf8.encode text)) position {} = .ok none) :
    foundBy (heldAnswer kind engines) matcher = .ok none := by
  rw [foundBy, hasGot.result_find isCompiled isPlain noMark inside atPosition, searched]
  rfl

/-- Where a search finds a match, `find` finds it, and goes on behind it. -/
theorem HasGotTo.foundBy_some (hasGot : matcher.HasGotTo pattern text start)
    (inside : position ≤ text.points.length)
    (atPosition : Text.unitsBefore text.points position = start) {first last : Nat}
    {groups : PointSpans}
    (searched : kind.backend.search plain (.ofBytes (Utf8.encode text)) position {} =
      .ok (some (some (first, last) :: groups))) :
    ∃ snapshot, foundBy (heldAnswer kind engines) matcher = .ok (some snapshot) ∧
      snapshot.spans = some (toSlots (pattern.groupCount + 1)
        ((some (first, last) :: groups).map (Text.unitSpan text.points))) ∧
      (Call.find.result (heldAnswer kind engines) matcher).2.HasGotTo pattern text
        (indexBehind text first last) := by
  have size := PointText.size_points_ofBytes_encode noMark
  have within := kind.keepsInside _ _ _ _ _ (size ▸ inside) searched first last List.mem_cons_self
  rw [size] at within
  rw [foundBy, hasGot.result_find isCompiled isPlain noMark inside atPosition, searched]
  refine ⟨_, rfl, congrArg some (PointSpans.toUnits_eq_toSlots _ _ _), ?_⟩
  exact {
    consistent := hasGot.consistent.seen.conclude .search _
    pattern_eq := hasGot.pattern_eq
    text_eq := hasGot.text_eq
    fromStart := hasGot.fromStart
    toEnd := hasGot.toEnd
    goesOn := hasGot.goesOn
    behind := by
      refine (behind_eq_of_previous (PointSpans.head?_toUnits _ _ _)).trans ?_
      exact (congrArg (stepBehind · _) hasGot.text_eq).trans
        (stepBehind_unitSpan within.1 within.2)
    boundary := isBoundary_indexBehind }

end Attempts

/-- What successive searches find is told step by step: every search finds what is listed first,
and from where it leads the rest of the list is found. -/
theorem foundCalls_of_step {σ ι : Type} {answer : MatchFunction} {isAt : Matcher σ → ι → Prop}
    {listed : Nat → ι → List (List Span)} (listed_zero : ∀ place, listed 0 place = [])
    (step : ∀ {matcher place} (count : Nat), isAt matcher place →
      (foundBy answer matcher = .ok none ∧ listed (count + 1) place = []) ∨
        ∃ snapshot spans next, foundBy answer matcher = .ok (some snapshot) ∧
          snapshot.spans = some spans ∧
          listed (count + 1) place = spans :: listed count next ∧
          isAt (Call.find.result answer matcher).2 next)
    (count : Nat) {matcher : Matcher σ} {place : ι} (atPlace : isAt matcher place) :
    (matchesOf (foundCalls answer count matcher)).map (·.spans) =
        (listed count place).map some ∧
      ∀ outcome ∈ foundCalls answer count matcher, outcome.isOk = true := by
  induction count generalizing matcher place with
  | zero =>
      rw [listed_zero]
      exact ⟨rfl, nofun⟩
  | succ count ih =>
      rcases step count atPlace with
        ⟨notFound, ended⟩ | ⟨snapshot, spans, next, isFound, spans_eq, goesOn, atNext⟩
      · have notSome : ∀ snapshot, foundBy answer matcher ≠ .ok (some snapshot) := by
          rw [notFound]
          exact fun snapshot => nofun
        rw [foundCalls_eq_replicate _ notSome, matchesOf_replicate _ notSome, ended, notFound]
        refine ⟨rfl, fun outcome mem => ?_⟩
        rw [List.eq_of_mem_replicate mem]
        rfl
      · obtain ⟨found, isOk⟩ := ih atNext
        rw [goesOn, List.map_cons, ← found, ← spans_eq, foundCalls, isFound]
        refine ⟨rfl, fun outcome mem => ?_⟩
        rcases List.mem_cons.mp mem with rfl | later
        · rfl
        · exact isOk outcome later

/-! ## Searching with an expression -/

section Search

variable {flags : Flags} {lowered : Lowering.Lowered} {regex : Backtrack.Regex}
  {pattern : Pattern EngineState} {engines : EngineState} {text : Text}
  (isRead : Backtrack.Regex.ofPoints? (lowered.render {}).points lowered.caseless = some regex)
  (isCompiled : pattern.IsCompiled .backtracking flags ⟨lowered, false, false⟩ engines)
  (isPlain : pattern.canonicalEquivalence = false) (noMark : text.head? ≠ some 0xFEFF)
  {matcher : Matcher EngineState} {start : Nat}

include isRead isCompiled isPlain noMark

/-- One search, and one search of the expression in the text: neither finds a match, or both find
the same and go on from the same index. -/
theorem HasGotTo.step (hasGot : matcher.HasGotTo pattern text start) (count : Nat) :
    (foundBy (heldAnswer .backtracking engines) matcher = .ok none ∧
        regex.matchesIn text.repaired (count + 1) start = []) ∨
      ∃ snapshot spans next,
        foundBy (heldAnswer .backtracking engines) matcher = .ok (some snapshot) ∧
        snapshot.spans = some (toSlots (pattern.groupCount + 1) spans) ∧
        regex.matchesIn text.repaired (count + 1) start =
          spans :: regex.matchesIn text.repaired count next ∧
        (Call.find.result (heldAnswer .backtracking engines) matcher).2.HasGotTo pattern text
          next := by
  rw [Backtrack.Regex.matchesIn, Text.length_repaired]
  by_cases behind : text.length < start
  · rw [if_pos behind]
    exact .inl ⟨hasGot.foundBy_behind behind _, rfl⟩
  · rw [if_neg behind]
    obtain ⟨position, inside, atPosition⟩ :=
      Text.exists_position (hasGot.boundary (Nat.not_lt.mp behind))
    have fromPosition : text.repaired.pointsBefore start = position := by
      rw [← atPosition, ← Text.unitsBefore_repaired,
        Text.pointsBefore_unitsBefore _ (by rwa [Text.length_points_repaired])]
    have searched : EngineKind.backtracking.backend.search ⟨lowered, false, false⟩
        (.ofBytes (Utf8.encode text)) position {} =
          .ok (regex.exec false text.repaired.points.toArray position) := by
      rw [Text.points_repaired, ← PointText.points_ofBytes_encode noMark]
      exact Backtracking.search_of_read ⟨lowered, false, false⟩ {} isRead _ position
    rw [Backtrack.Regex.execIn, fromPosition]
    cases found : regex.exec false text.repaired.points.toArray position with
    | none =>
        rw [found] at searched
        exact .inl ⟨hasGot.foundBy_none isCompiled isPlain noMark inside atPosition searched, rfl⟩
    | some spans =>
        rw [found] at searched
        obtain ⟨first, last, groups, rfl⟩ := Backtrack.Regex.exists_whole_of_exec found
        obtain ⟨snapshot, isFound, spans_eq, hasGot'⟩ :=
          hasGot.foundBy_some isCompiled isPlain noMark inside atPosition searched
        have within := Backtrack.Regex.within_exec
          (by rwa [List.size_toArray, Text.length_points_repaired]) found first last
          List.mem_cons_self
        rw [List.size_toArray] at within
        -- Repairing lone halves replaces unit by unit, so spans in units stay where they are.
        have unitSpan_eq : Text.unitSpan text.repaired.points = Text.unitSpan text.points := by
          funext span
          cases span with
          | none => rfl
          | some span => simp only [Text.unitSpan, Text.unitsBefore_repaired]
        have further : stepBehind text.repaired (Text.unitSpan text.points (some (first, last))) =
            indexBehind text first last := by
          rw [← unitSpan_eq, stepBehind_unitSpan within.1 within.2, indexBehind_repaired]
        refine .inr ⟨snapshot, _, _, isFound, spans_eq, ?_, hasGot'⟩
        simp only [Option.map_some, List.map_cons, unitSpan_eq, further, Int.toNat_natCast]

/-- Successive searches find what the expression finds in the text, and none of them fails. -/
theorem HasGotTo.foundCalls (count : Nat) (hasGot : matcher.HasGotTo pattern text start) :
    (matchesOf (foundCalls (heldAnswer .backtracking engines) count matcher)).map (·.spans) =
        (regex.matchesIn text.repaired count start).map
          (fun spans => some (toSlots (pattern.groupCount + 1) spans)) ∧
      ∀ outcome ∈ Matcher.foundCalls (heldAnswer .backtracking engines) count matcher,
        outcome.isOk = true := by
  let listed (count start : Nat) : List (List Span) :=
    (regex.matchesIn text.repaired count start).map (toSlots (pattern.groupCount + 1))
  have step : ∀ {matcher : Matcher EngineState} {start : Nat} (count : Nat),
      matcher.HasGotTo pattern text start →
      (foundBy (heldAnswer .backtracking engines) matcher = .ok none ∧
          listed (count + 1) start = []) ∨
        ∃ snapshot spans next,
          foundBy (heldAnswer .backtracking engines) matcher = .ok (some snapshot) ∧
          snapshot.spans = some spans ∧ listed (count + 1) start = spans :: listed count next ∧
          (Call.find.result (heldAnswer .backtracking engines) matcher).2.HasGotTo pattern text
            next := by
    intro matcher start count hasGot
    rcases HasGotTo.step isRead isCompiled isPlain noMark hasGot count with
      ⟨notFound, ended⟩ | ⟨snapshot, spans, next, isFound, spans_eq, goesOn, hasGot'⟩
    · exact .inl ⟨notFound, congrArg _ ended⟩
    · exact .inr ⟨snapshot, _, next, isFound, spans_eq, congrArg _ goesOn, hasGot'⟩
  have found := foundCalls_of_step (fun _ => rfl) step count hasGot
  rwa [List.map_map] at found

end Search

theorem hasGotTo_of_create {pattern : Pattern EngineState} (isOffered : pattern.IsOffered)
    {text : Text} {settings : MatcherSettings} {trace after : Trace EngineState}
    {matcher : Matcher EngineState}
    (isCreated : (create pattern text settings).run trace = (.ok matcher, after)) :
    matcher.HasGotTo pattern text 0 := by
  obtain ⟨rfl, -⟩ := create_eq_ok isOffered isCreated
  exact ⟨(create_consistent isCreated).1, rfl, rfl, rfl, rfl, rfl, rfl,
    fun _ => Text.isBoundary_zero text⟩

/-- Successive searches of a new matcher for a pattern that backtracks find what the rendered
expression finds in the text itself, with a span for every group of the pattern.  Where the
expression has as many groups, the spans are the same. -/
theorem findCalls_eq_matchesIn {isLogged : Bool} {source : Text} {flags : Number}
    {settings : PatternSettings} {trace after : Trace EngineState} {pattern : Pattern EngineState}
    (compiled : (Pattern.compile EngineKind.backtracking.engine isLogged source flags settings).run
      trace = (.ok pattern, after))
    (isPlain : pattern.canonicalEquivalence = false)
    {text : Text} (noMark : text.head? ≠ some 0xFEFF) {before created : Trace EngineState}
    (heldAs : Pattern.HeldAs .backtracking pattern after.engines before.engines)
    {matcherSettings : MatcherSettings} {matcher : Matcher EngineState}
    (isCreated : (create pattern text matcherSettings).run before = (.ok matcher, created)) :
    ∃ parsed lowered regex, Flags.ofNumber flags = .ok parsed ∧
      Lowering.lower (Backtracking.loweringOptions parsed.compileOptions)
        (Utf8.decodeText (Utf8.encode source)) = .ok lowered ∧
      Backtrack.Regex.ofPoints? (lowered.render {}).points lowered.caseless = some regex ∧
      ∀ count,
        (∀ outcome ∈ findCalls count ⟨matcher, created⟩, outcome.isOk = true) ∧
        (matchesOf (findCalls count ⟨matcher, created⟩)).map (·.spans) =
          (regex.matchesIn text.repaired count 0).map
            (fun spans => some (toSlots (pattern.groupCount + 1) spans)) ∧
        (regex.captureCount = pattern.groupCount →
          (matchesOf (findCalls count ⟨matcher, created⟩)).map (·.spans) =
            (regex.matchesIn text.repaired count 0).map some) := by
  obtain ⟨parsed, plain, isParsed, compiledPlain, isCompiled⟩ :=
    Pattern.isCompiled_of_compile compiled
  have notDecomposed : parsed.canonicalEquivalence = false :=
    isCompiled.canonicalEquivalence.symm.trans isPlain
  have patternText : (PatternText.ofSource source parsed).text = source := by
    rw [PatternText.ofSource, notDecomposed]
    rfl
  rw [patternText] at compiledPlain
  obtain ⟨lowered, regex, isLowered, rfl, isRead⟩ :=
    Backtracking.exists_regex_of_compile compiledPlain
  refine ⟨parsed, lowered, regex, isParsed, isLowered, isRead, fun count => ?_⟩
  have isHeld := isCompiled.of_heldAs heldAs
  have hasGot := hasGotTo_of_create isCompiled.isOffered isCreated
  obtain ⟨-, rfl⟩ := create_eq_ok isCompiled.isOffered isCreated
  have answers := EngineKind.backtracking.answersBy
    (EngineKind.backtracking.code? created.engines)
  rw [← isCompiled.engine, ← hasGot.pattern_eq] at answers
  have found_eq : findCalls count ⟨matcher, created⟩ = _ :=
    findCalls_eq count hasGot.consistent answers rfl
  obtain ⟨found, isOk⟩ := hasGot.foundCalls isRead isHeld isPlain noMark count
  rw [found_eq]
  refine ⟨isOk, found, fun sameCount => found.trans (List.map_congr_left fun spans mem => ?_)⟩
  rw [toSlots_eq_self]
  rw [Backtrack.Regex.length_of_mem_matchesIn mem, sameCount]

theorem findCalls_eq_matchesIn_behind_pair :
    ∃ pattern after matcher created,
      (Pattern.compile EngineKind.backtracking.engine false [0x61] (.ofNat 0) {}).run ⟨{}, []⟩ =
        (.ok pattern, after) ∧
      (create pattern [0xD83D, 0xDE00, 0x61] {}).run after = (.ok matcher, created) ∧
      (matchesOf (findCalls 2 ⟨matcher, created⟩)).length = 1 ∧
      ∃ lowered regex,
        Backtrack.Regex.ofPoints? (Lowering.Lowered.render lowered {}).points lowered.caseless =
          some regex ∧
        (matchesOf (findCalls 2 ⟨matcher, created⟩)).map (·.spans) =
          (regex.matchesIn (Text.repaired [0xD83D, 0xDE00, 0x61]) 2 0).map
            (fun spans => some (toSlots (pattern.groupCount + 1) spans)) := by
  obtain ⟨pattern, after, compiled⟩ := Work.exists_run_eq_ok
    (Pattern.compile EngineKind.backtracking.engine false [0x61] (.ofNat 0) {}) ⟨{}, []⟩
    (by decide +kernel)
  have searched : (match (Pattern.compile EngineKind.backtracking.engine false [0x61] (.ofNat 0)
        {}).run ⟨{}, []⟩ with
      | (.ok pattern, after) => !pattern.canonicalEquivalence &&
          match (create pattern [0xD83D, 0xDE00, 0x61] {}).run after with
          | (.ok matcher, created) => (matchesOf (findCalls 2 ⟨matcher, created⟩)).length == 1
          | (.error _, _) => false
      | (.error _, _) => false) = true := by decide +kernel
  rw [compiled, Bool.and_eq_true] at searched
  obtain ⟨isPlain, isFound⟩ := searched
  split at isFound
  · next matcher created isCreated =>
      obtain ⟨parsed, lowered, regex, -, -, isRead, found⟩ := findCalls_eq_matchesIn compiled
        (by simpa using isPlain) (by decide) (fun _ => rfl) isCreated
      exact ⟨pattern, after, matcher, created, compiled, isCreated, beq_iff_eq.mp isFound,
        lowered, regex, isRead, (found 2).2.1⟩
  · contradiction

/-- A group that ends up without its parenthesis is counted all the same, and comes back as a
group that takes no part. -/
theorem findCalls_ne_matchesIn_behind_comment :
    ∃ pattern after matcher created lowered regex,
      (Pattern.compile EngineKind.backtracking.engine false
        (Text.ofString "((?#c)?:a)") (.ofNat 0) {}).run ⟨{}, []⟩ = (.ok pattern, after) ∧
      (create pattern [0x61] {}).run after = (.ok matcher, created) ∧
      Lowering.lower {} (Text.ofString "((?#c)?:a)") = .ok lowered ∧
      Backtrack.Regex.ofPoints? (lowered.render {}).points lowered.caseless = some regex ∧
      (matchesOf (findCalls 2 ⟨matcher, created⟩)).map (·.spans) = [some [⟨0, 1⟩, .unset]] ∧
      regex.matchesIn [0x61] 2 0 = [[⟨0, 1⟩]] := by
  obtain ⟨pattern, after, compiled⟩ := Work.exists_run_eq_ok
    (Pattern.compile EngineKind.backtracking.engine false (Text.ofString "((?#c)?:a)") (.ofNat 0)
      {}) ⟨{}, []⟩ (by decide +kernel)
  have searched : (match (Pattern.compile EngineKind.backtracking.engine false
        (Text.ofString "((?#c)?:a)") (.ofNat 0) {}).run ⟨{}, []⟩ with
      | (.ok pattern, after) =>
          match (create pattern [0x61] {}).run after with
          | (.ok matcher, created) =>
              (matchesOf (findCalls 2 ⟨matcher, created⟩)).map (·.spans) ==
                [some [⟨0, 1⟩, .unset]]
          | (.error _, _) => false
      | (.error _, _) => false) = true := by decide +kernel
  have direct : (match Lowering.lower {} (Text.ofString "((?#c)?:a)") with
      | .ok lowered =>
          match Backtrack.Regex.ofPoints? (lowered.render {}).points lowered.caseless with
          | some regex => regex.matchesIn [0x61] 2 0 == [[⟨0, 1⟩]]
          | none => false
      | .error _ => false) = true := by decide +kernel
  rw [compiled] at searched
  dsimp only at searched
  split at searched
  · next matcher created isCreated =>
      split at direct
      · next lowered isLowered =>
          split at direct
          · next regex isRead =>
              exact ⟨pattern, after, matcher, created, lowered, regex, compiled, isCreated,
                isLowered, isRead, beq_iff_eq.mp searched, beq_iff_eq.mp direct⟩
          · contradiction
      · contradiction
  · contradiction

end Matcher

end RegexMatching
