import RegexMatching.Proofs.Compiling
import RegexMatching.Proofs.EndAnchoring
import RegexMatching.Proofs.LinearEnclosing
import RegexMatching.Proofs.Runs

/-!
# Anchored searches

A search that has to match where it starts finds what a free search finds, if that starts there,
and nothing otherwise.  A search that has to reach the end of the subject as well finds all of
the subject from its start on, and only where a free search finds something from there.
-/

namespace RegexMatching

/-- Whether a match starts at a position. -/
def PointSpans.startsAt (spans : PointSpans) (position : Nat) : Bool :=
  spans.head?.join.map Prod.fst == some position

theorem PointSpans.startsAt_of_head? {spans : PointSpans} {first last : Nat}
    (whole : spans.head? = some (some (first, last))) (position : Nat) :
    spans.startsAt position = (first == position) := by
  rw [startsAt, whole]
  rfl

/-! ## Backtracking -/

namespace Backtrack

theorem contains_everyPoint (caseless : Bool) (point : Nat) :
    everyPoint.contains caseless point = true := by
  have holds : ∀ point, everyPoint.holds caseless point = true := by
    intro point
    change (isSpace point != false || (isSpace point != true || false)) = true
    cases isSpace point <;> rfl
  rw [CharClass.contains]
  cases caseless with
  | false => rw [if_neg Bool.false_ne_true, holds, everyPoint, Bool.true_bne, Bool.not_false]
  | true =>
      rw [if_pos rfl, Unicode.caseOrbit, List.any_cons, holds, Bool.true_or, everyPoint,
        Bool.true_bne, Bool.not_false]

/-- The assertion that nothing follows goes on at the end of the subject only. -/
theorem run_endAnchor (subject : Subject) (place : Place) (next : Continuation) :
    (Node.look true true (.set everyPoint)).run subject true place next =
      if place.position < subject.points.size then none else next place := by
  rw [Node.run_look, Node.run_set, Subject.stepOver?, if_pos rfl]
  by_cases inside : place.position < subject.points.size
  · rw [if_pos inside, Array.getElem?_eq_getElem inside]
    dsimp only
    rw [if_pos (contains_everyPoint _ _)]
    rfl
  · rw [if_neg inside, Array.getElem?_eq_none (Nat.not_lt.mp inside)]
    rfl

namespace Regex

/-- An expression with the end of the subject behind it. -/
def ended (regex : Regex) : Regex :=
  { regex with node := .sequence regex.node (.look true true (.set everyPoint)) }

variable {regex : Regex} {points : Array Nat} {start : Nat} {spans : PointSpans}

/-- A match at a position starts there. -/
theorem startsAt_of_matchAt (matched : regex.matchAt points start = some spans) (position : Nat) :
    spans.startsAt position = (start == position) := by
  obtain ⟨final, -, rfl⟩ := Option.map_eq_some_iff.mp matched
  exact PointSpans.startsAt_of_head? rfl position

/-- Matching at a position only keeps of a search what starts there. -/
theorem exec_sticky (regex : Regex) (inside : start ≤ points.size) :
    regex.exec true points start =
      (regex.exec false points start).filter (·.startsAt start) := by
  rw [exec, exec, if_pos rfl, if_neg Bool.false_ne_true, Nat.succ_sub inside, firstMatch]
  cases atStart : regex.matchAt points start with
  | some spans =>
      have starts := startsAt_of_matchAt atStart start
      rw [beq_self_eq_true] at starts
      exact (if_pos starts).symm
  | none =>
      change none = (regex.firstMatch points (start + 1) (points.size - start)).filter _
      cases found : regex.firstMatch points (start + 1) (points.size - start) with
      | none => rfl
      | some spans =>
          obtain ⟨position, later, -, atPosition⟩ := exists_matchAt_of_firstMatch found
          have starts := startsAt_of_matchAt atPosition start
          rw [beq_eq_false_iff_ne.mpr (by omega)] at starts
          exact (if_neg (Bool.eq_false_iff.mp starts)).symm

/-- With the end of the subject behind it, an expression matches up to the end, and only where it
matches by itself.  An outcome of the expression that the end is reached from is an outcome, if not
the first one. -/
theorem matchAt_of_ended (inside : start ≤ points.size)
    (matched : regex.ended.matchAt points start = some spans) :
    spans.head? = some (some (start, points.size)) ∧
      ∃ others, regex.matchAt points start = some others := by
  obtain ⟨final, ran, rfl⟩ := Option.map_eq_some_iff.mp matched
  obtain ⟨outcomes, outcomesFit, enumerated⟩ :=
    enumerates_run ⟨points, regex.caseless⟩ regex.node true _
      (Place.fits_start regex.captureCount inside)
  change regex.node.run ⟨points, regex.caseless⟩ true
    ⟨start, Array.replicate regex.captureCount none⟩ (fun middle =>
      (Node.look true true (.set everyPoint)).run ⟨points, regex.caseless⟩ true middle some) = _
    at ran
  rw [enumerated] at ran
  obtain ⟨outcome, mem, taken⟩ := List.exists_of_findSome?_eq_some ran
  rw [run_endAnchor] at taken
  split at taken
  · contradiction
  · next atEnd =>
      obtain rfl := Option.some.inj taken
      have position_eq : outcome.position = points.size :=
        Nat.le_antisymm (outcomesFit outcome mem).position_le (Nat.not_lt.mp atEnd)
      refine ⟨by rw [List.head?_cons, position_eq], ?_⟩
      rw [matchAt, enumerated]
      cases outcomes with
      | nil => contradiction
      | cons first rest => exact ⟨_, rfl⟩

end Regex

end Backtrack

/-! ## Matching in linear time -/

namespace Linear

/-- Where a match can be reached, a search finds one from there. -/
theorem Program.exists_searchFrom_of_reaches {program : Program} {points : Array Nat}
    (leadsInside : program.LeadsInside) {slotCount start : Nat} {final : Thread}
    (places : program.Places points (program.startThread slotCount start))
    (reaches : program.Reaches points (program.startThread slotCount start) final)
    (accepts : program.Accepts final) :
    ∃ other, program.Reaches points (program.startThread slotCount start) other ∧
      program.Accepts other ∧
      program.searchFrom points slotCount (points.size + 1 - start) start {} =
        some other.slots := by
  have inside : start ≤ points.size := places.position_le
  have isMatch : program.MatchesAt points slotCount start := ⟨final, reaches, accepts⟩
  rcases searchFrom_cases leadsInside places.instruction_lt slotCount
      (Nat.le_of_eq (Nat.add_sub_cancel' (Nat.le_succ_of_le inside))) isClosed_empty with
    ⟨-, nowhere⟩ | ⟨position, other, le, less, notBefore, reaches', accepts', isFound⟩
  · exact absurd isMatch (nowhere start (Nat.le_refl _) (by omega))
  · rcases Nat.eq_or_lt_of_le le with rfl | later
    · exact ⟨other, reaches', accepts', isFound⟩
    · exact absurd isMatch (notBefore start (Nat.le_refl _) later)

theorem head?_spansOfSlots {slots : Slots} {first last : Nat}
    (stored : slots[0]? = some (some first)) (storedEnd : slots[1]? = some (some last))
    (groupCount : Nat) : (spansOfSlots slots groupCount).head? = some (some (first, last)) := by
  rw [spansOfSlots, List.range_succ_eq_map, List.map_cons, List.head?_cons]
  simp only [Nat.mul_zero, Nat.zero_add, stored, storedEnd, Option.join_some]

namespace Regex

/-- The thread that a match from a position starts as. -/
abbrev threadAt (regex : Regex) (position : Nat) : Thread :=
  regex.program.startThread (2 * (regex.captureCount + 1)) position

variable {regex : Regex} (numbered : regex.expression.NumbersGroups) {points : Array Nat}
  {start : Nat} {spans : PointSpans}

/-- What a search says about the whole match is what is found at first. -/
theorem head?_of_search (found : regex.search points start = some spans) :
    ∃ others, regex.find points start = some others ∧ spans.head? = others.head? := by
  unfold search at found
  split at found
  · next first behind whole =>
      cases found
      obtain ⟨others, isFound, isHead⟩ := Option.bind_eq_some_iff.mp whole
      exact ⟨others, isFound, isHead.symm⟩
  · contradiction

theorem exists_search_of_find (found : regex.find points start = some spans) {first last : Nat}
    (whole : spans.head? = some (some (first, last))) :
    ∃ others, regex.search points start = some others ∧
      others.head? = some (some (first, last)) := by
  refine ⟨some (first, last) :: regex.groupSpans points first last, ?_, rfl⟩
  rw [search, found, Option.bind_some, whole]

include numbered

/-- What is found has been run through. -/
theorem exists_run_of_find (found : regex.find points start = some spans) :
    ∃ position final, regex.program.Reaches points (regex.threadAt position) final ∧
      final.instruction = 0 ∧ spans.head? = some (some (position, final.position)) := by
  obtain ⟨slots, searched, rfl⟩ := Option.map_eq_some_iff.mp found
  obtain ⟨position, -, -, final, reaches, accepts, rfl⟩ :=
    Program.exists_reaches_of_searchFrom searched
  obtain ⟨atLast, stored, storedEnd⟩ := stored_of_reaches numbered (by omega) reaches accepts
  exact ⟨position, final, reaches, atLast, head?_spansOfSlots stored storedEnd _⟩

/-- Where there is a run through the expression, a search finds a match from there. -/
theorem exists_find_of_reaches (inside : start ≤ points.size) {final : Thread}
    (reaches : regex.program.Reaches points (regex.threadAt start) final)
    (atLast : final.instruction = 0) :
    ∃ spans last, regex.find points start = some spans ∧
      spans.head? = some (some (start, last)) := by
  have places : regex.program.Places points (regex.threadAt start) := by
    refine ⟨?_, inside⟩
    change regex.inside.instructions.size < regex.program.instructions.size
    rw [program_eq, Program.size_push]
    exact Nat.lt_succ_self _
  have accepts : regex.program.Accepts final := by
    rw [Program.Accepts, atLast]
    exact getElem?_program_zero numbered
  obtain ⟨other, reaches', accepts', searched⟩ := Program.exists_searchFrom_of_reaches
    (leadsInside_program numbered) places reaches accepts
  obtain ⟨-, stored, storedEnd⟩ := stored_of_reaches numbered (by omega) reaches' accepts'
  refine ⟨_, other.position, ?_, head?_spansOfSlots stored storedEnd regex.captureCount⟩
  rw [find, searched, Option.map_some]

/-- With the end of the text behind it, an expression matches up to the end, and only where it
matches by itself. -/
theorem search_of_ended (inside : start ≤ points.size)
    (found : regex.ended.search points start = some spans)
    (starts : spans.startsAt start = true) :
    spans.head? = some (some (start, points.size)) ∧
      ∃ others, regex.search points start = some others ∧ others.startsAt start = true := by
  obtain ⟨endedSpans, isFound, sameHead⟩ := head?_of_search found
  obtain ⟨position, final, reaches, atLast, whole⟩ :=
    exists_run_of_find (numbersGroups_ended numbered) isFound
  rw [whole] at sameHead
  rw [PointSpans.startsAt_of_head? sameHead] at starts
  obtain rfl := beq_iff_eq.mp starts
  rw [atEnd_of_reaches numbered reaches (by omega)] at sameHead
  refine ⟨sameHead, ?_⟩
  obtain ⟨other, reaches', instruction_eq, -⟩ := exists_reaches_of_ended numbered reaches
  rw [atLast] at instruction_eq
  obtain ⟨spans', last, isFound', whole'⟩ :=
    exists_find_of_reaches numbered inside reaches' instruction_eq
  obtain ⟨others, searched, whole''⟩ := exists_search_of_find isFound' whole'
  exact ⟨others, searched,
    (PointSpans.startsAt_of_head? whole'' position).trans (beq_self_eq_true position)⟩

end Regex

end Linear

/-! ## Both engines -/

namespace LinearTime

/-- Compiled code is a pattern that can be read, anchored as it is asked for. -/
theorem ofPoints?_of_compile {bytes : Bytes} {options : CompileOptions} {code : LinearCode}
    (compiled : compile bytes options = .ok code) :
    Linear.Regex.ofPoints? code.source code.flags = some code.regex ∧
      code.anchored = options.anchored ∧ code.endAnchored = options.endAnchored := by
  rw [compile] at compiled
  split at compiled
  · contradiction
  · dsimp only at compiled
    split at compiled
    · contradiction
    · next isRead =>
        cases compiled
        exact ⟨isRead, rfl, rfl⟩

/-- Plain code is a pattern that can be read. -/
theorem exists_regex_of_compile {bytes : Bytes} {options : CompileOptions} {plain : LinearCode}
    (compiled : compile bytes (Anchoring.search.applyTo options) = .ok plain) :
    ∃ source flags regex, plain = ⟨source, flags, regex, false, false⟩ ∧
      Linear.Regex.ofPoints? source flags = some regex := by
  obtain ⟨isRead, notAnchored, notEnded⟩ := ofPoints?_of_compile compiled
  obtain ⟨source, flags, regex, anchored, endAnchored⟩ := plain
  obtain rfl : anchored = false := notAnchored
  obtain rfl : endAnchored = false := notEnded
  exact ⟨source, flags, regex, rfl, isRead⟩

/-- A pattern that is not refused and can be read is compiled. -/
theorem compile_of_read {bytes : Bytes} {options : CompileOptions}
    (isAllowed : refusal? options = none) {regex : Linear.Regex}
    (isRead : Linear.Regex.ofPoints?
      (if options.literal then escapeLiteral (Utf8.decode bytes) else Utf8.decode bytes)
      { caseless := options.caseless
        multiline := options.multiline
        dotAll := options.dotAll } = some regex) :
    compile bytes options = .ok
      { source := if options.literal then escapeLiteral (Utf8.decode bytes) else Utf8.decode bytes
        flags := { caseless := options.caseless
                   multiline := options.multiline
                   dotAll := options.dotAll }
        regex
        anchored := options.anchored
        endAnchored := options.endAnchored } := by
  rw [compile, isAllowed]
  dsimp only
  rw [isRead]

theorem search_of_unread (code : LinearCode) (options : MatchOptions)
    (isUnread : regex? code (options.endAnchored || code.endAnchored) = none) (text : PointText)
    (position : Nat) : search code text position options = .error .badLinearVariant := by
  rw [search, isUnread]

/-- A call that has to match where it starts drops what starts further on. -/
theorem search_anchored (code : LinearCode) (options : MatchOptions)
    (isAnchored : options.anchored = true) {regex : Linear.Regex}
    (isRead : regex? code (options.endAnchored || code.endAnchored) = some regex)
    (text : PointText) (position : Nat) :
    search code text position options =
      .ok ((regex.search text.points position).filter (·.startsAt position)) := by
  rw [search, isRead, isAnchored]
  dsimp only
  rw [Bool.true_or, Bool.true_and]
  cases regex.search text.points position with
  | none => rfl
  | some spans =>
      change (if spans.head?.join.map Prod.fst != some position then Except.ok none
        else Except.ok (some spans)) =
          Except.ok (if spans.startsAt position then some spans else none)
      rw [PointSpans.startsAt, bne]
      cases spans.head?.join.map Prod.fst == some position <;> rfl

end LinearTime

/-- What plain code finds when it is free, when it has to match where the search starts, and when it
has to reach the end as well. -/
theorem EngineKind.search_ask (kind : EngineKind) {bytes : Bytes} {options : CompileOptions}
    {plain : kind.Code}
    (compiled : kind.backend.compile bytes (Anchoring.search.applyTo options) = .ok plain)
    (text : PointText) {position : Nat} (inside : position ≤ text.points.size) :
    ∃ found? : Option PointSpans,
      kind.backend.search plain text position (Anchoring.search.ask false false) = .ok found? ∧
      kind.backend.search plain text position (Anchoring.lookingAt.ask false false) =
        .ok (found?.filter (·.startsAt position)) ∧
      ∀ spans,
        kind.backend.search plain text position (Anchoring.whole.ask false false) =
          .ok (some spans) →
        spans.head? = some (some (position, text.points.size)) ∧
          ∃ found, found? = some found ∧ found.startsAt position = true := by
  cases kind with
  | backtracking =>
      obtain ⟨lowered, regex, -, rfl, isRead⟩ := Backtracking.exists_regex_of_compile compiled
      have isEnded : BacktrackCode.regex? ⟨lowered, false, false⟩
          { anchored := true, endAnchored := true } = some regex.ended :=
        BacktrackCode.regex?_endAnchored _ { anchored := true } rfl isRead
      have sticky := regex.exec_sticky inside
      have search_of_read := Backtracking.search_of_read ⟨lowered, false, false⟩
      refine ⟨regex.exec false text.points position, search_of_read {} isRead text position,
        (search_of_read { anchored := true } isRead text position).trans
          (congrArg Except.ok sticky), fun spans found => ?_⟩
      have matched : regex.ended.matchAt text.points position = some spans :=
        Except.ok.inj ((search_of_read { anchored := true, endAnchored := true } isEnded text
          position).symm.trans found)
      obtain ⟨whole, others, matched'⟩ := Backtrack.Regex.matchAt_of_ended inside matched
      have kept := sticky.symm.trans matched'
      exact ⟨whole, others, Option.filter_eq_some_iff.mp kept⟩
  | linear =>
      obtain ⟨source, flags, regex, rfl, isRead⟩ := LinearTime.exists_regex_of_compile compiled
      have numbered := Linear.Regex.numbersGroups_of_read isRead
      have search_anchored := LinearTime.search_anchored ⟨source, flags, regex, false, false⟩
      refine ⟨regex.search text.points position, rfl,
        search_anchored { anchored := true } rfl rfl text position, fun spans found => ?_⟩
      cases isEnded : Linear.Regex.ofPoints? (LinearTime.endAnchor source) flags with
      | none =>
          have failed := LinearTime.search_of_unread ⟨source, flags, regex, false, false⟩
            { anchored := true, endAnchored := true } isEnded text position
          cases failed.symm.trans found
      | some ended =>
          obtain rfl : ended = regex.ended := Linear.ofPoints?_enclosed isRead isEnded
          have kept := Except.ok.inj ((search_anchored { anchored := true, endAnchored := true }
            rfl isEnded text position).symm.trans found)
          obtain ⟨searched, starts⟩ := Option.filter_eq_some_iff.mp kept
          exact Linear.Regex.search_of_ended numbered inside searched starts

end RegexMatching
