import RegexMatching.Proofs.Endings
import RegexMatching.Proofs.LiteralExpressions
import RegexMatching.Proofs.Occurrences

/-!
# Searching for literal text

A sequence of code points matches where the code points stand, and nowhere else.  One engine
tries position after position, the other explores a program without choices; either search is a
search for the code points as they are.
-/

namespace RegexMatching

/-! ## Backtracking -/

namespace Backtrack

/-- The expression of literal text. -/
def Regex.literal (needle : List Nat) : Regex where
  node := .ofPoints needle
  captureCount := 0
  caseless := false

theorem contains_ofPoint {point other : Nat} :
    (CharClass.ofPoint point).contains false other = true ↔ other = point := by
  simp only [CharClass.contains, CharClass.holds, CharClass.ofPoint, ClassItem.contains,
    Bool.false_eq_true, if_false, List.any_cons, List.any_nil, Bool.or_false, Bool.bne_false,
    Bool.and_eq_true, decide_eq_true_eq]
  omega

theorem run_set_ofPoint (point : Nat) (points : Array Nat) (place : Place) (next : Continuation) :
    (Node.set (.ofPoint point)).run ⟨points, false⟩ true place next =
      if points.toList[place.position]? = some point then
        next { place with position := place.position + 1 }
      else none := by
  rw [Node.run_set, Subject.stepOver?, if_pos rfl, Array.getElem?_toList]
  cases points[place.position]? with
  | none => rfl
  | some other =>
      dsimp only
      simp only [contains_ofPoint, Option.some.injEq]
      by_cases same : other = point
      · rw [if_pos same, if_pos same]
      · rw [if_neg same, if_neg same]

/-- A sequence is run through one code point after the other. -/
theorem run_ofPoints_cons (point : Nat) (needle : List Nat) (points : Array Nat) (place : Place)
    (next : Continuation) :
    (Node.ofPoints (point :: needle)).run ⟨points, false⟩ true place next =
      (Node.set (.ofPoint point)).run ⟨points, false⟩ true place fun middle =>
        (Node.ofPoints needle).run ⟨points, false⟩ true middle next := by
  cases needle <;> rfl

/-- A sequence goes on behind the code points where they stand. -/
theorem run_ofPoints (needle : List Nat) (points : Array Nat) (place : Place)
    (next : Continuation) :
    (Node.ofPoints needle).run ⟨points, false⟩ true place next =
      if standsAt needle points.toList place.position then
        next { place with position := place.position + needle.length }
      else none := by
  induction needle generalizing place with
  | nil => rfl
  | cons point rest ih =>
      rw [run_ofPoints_cons, run_set_ofPoint]
      simp only [ih, standsAt_cons, List.length_cons, Nat.add_comm rest.length 1, ← Nat.add_assoc]
      by_cases here : points.toList[place.position]? = some point
      · rw [if_pos here]
        simp only [here, true_and]
      · rw [if_neg here, if_neg (fun stands => here stands.1)]

namespace Regex

variable (needle : List Nat) (points : Array Nat)

theorem matchAt_literal (start : Nat) :
    (literal needle).matchAt points start =
      if standsAt needle points.toList start then some [some (start, start + needle.length)]
      else none := by
  change ((Node.ofPoints needle).run ⟨points, false⟩ true ⟨start, #[]⟩ some).map _ = _
  rw [run_ofPoints]
  split <;> rfl

/-- A search for literal text finds the first place where it stands. -/
theorem exec_literal (start : Nat) :
    (literal needle).exec false points start =
      (firstAt? needle points.toList start).map fun first =>
        [some (first, first + needle.length)] := by
  have tried : ∀ count start, (literal needle).firstMatch points start count =
      ((List.range' start count).find? (standsAt needle points.toList)).map fun first =>
        [some (first, first + needle.length)] := by
    intro count
    induction count with
    | zero => exact fun _ => rfl
    | succ count ih =>
        intro start
        rw [firstMatch, matchAt_literal, ih, List.range'_succ, List.find?_cons]
        cases standsAt needle points.toList start <;> rfl
  rw [exec, if_neg Bool.false_ne_true, tried]
  rfl

/-- Literal text that has to reach from the start to the end is all of the subject. -/
theorem exec_ended_literal :
    (literal needle).ended.exec true points 0 =
      if points.toList = needle then some [some (0, needle.length)] else none := by
  change ((Node.ofPoints needle).run ⟨points, false⟩ true ⟨0, #[]⟩ fun middle =>
    (Node.look true true (.set everyPoint)).run ⟨points, false⟩ true middle some).map _ = _
  rw [run_ofPoints]
  dsimp only
  rw [run_endAnchor, Nat.zero_add]
  by_cases stands : standsAt needle points.toList 0 = true
  · have le := length_le_of_standsAt (Nat.zero_le _) stands
    rw [Array.length_toList, Nat.zero_add] at le
    rw [if_pos stands]
    by_cases inside : needle.length < points.size
    · have differs : points.toList ≠ needle := by
        rintro rfl
        exact Nat.lt_irrefl _ inside
      rw [if_pos inside, if_neg differs]
      rfl
    · have same := (standsAt_zero_iff (Nat.le_antisymm le (Nat.not_lt.mp inside))).mp stands
      rw [if_neg inside, if_pos same]
      rfl
  · have differs : points.toList ≠ needle := fun same =>
      stands ((standsAt_zero_iff (congrArg List.length same).symm).mpr same)
    rw [if_neg stands, if_neg differs]
    rfl

end Regex

end Backtrack

/-! ## Matching in linear time -/

namespace Linear

theorem contains_ofPoint {point other : Nat} :
    (RuneClass.mk false false [.ofPoint point]).contains other = true ↔ other = point := by
  simp only [RuneClass.contains, RuneItem.contains, RuneItem.ofPoint, acceptsFolded, inRanges,
    Bool.false_eq_true, if_false, List.any_cons, List.any_nil, Bool.or_false, Bool.bne_false,
    Bool.and_eq_true, decide_eq_true_eq]
  omega

namespace Expression

theorem unfold_ofPoints (needle : List Nat) : (ofPoints needle).unfold = ofPoints needle := by
  induction needle with
  | nil => rfl
  | cons point rest ih =>
      cases rest with
      | nil => rfl
      | cons next rest => exact congrArg (sequence _) ih

/-- A sequence is laid out in front of the code points that follow. -/
theorem layOut_ofPoints_cons (point : Nat) (needle : List Nat) (base : Program) :
    (ofPoints (point :: needle)).layOut base =
      if needle = [] then base.push (.step ⟨false, false, [.ofPoint point]⟩ base.start)
      else ((ofPoints needle).layOut base).push
        (.step ⟨false, false, [.ofPoint point]⟩ ((ofPoints needle).layOut base).start) := by
  cases needle <;> rfl

/-- A match goes through a sequence where its code points stand. -/
theorem ends_ofPoints (needle : List Nat) {base program : Program}
    (isExtended : ((ofPoints needle).layOut base).Extends program) (points : Array Nat)
    (position stop : Nat) :
    program.Ends points ((ofPoints needle).layOut base).start position stop ↔
      standsAt needle points.toList position = true ∧
        program.Ends points base.start (position + needle.length) stop := by
  have stepped : ∀ {inner : Program} {point : Nat} (position : Nat),
      (inner.push (.step ⟨false, false, [.ofPoint point]⟩ inner.start)).Extends program →
      (program.Ends points inner.instructions.size position stop ↔
        points.toList[position]? = some point ∧
          program.Ends points inner.start (position + 1) stop) := by
    intro inner point position isExtended
    rw [Program.ends_step isExtended.of_push.2, Array.getElem?_toList]
    simp only [contains_ofPoint, exists_eq_right]
  induction needle generalizing position with
  | nil =>
      refine (Program.ends_jump isExtended.of_push.2).trans ?_
      rw [standsAt_nil, List.length_nil, Nat.add_zero]
      exact (and_iff_right rfl).symm
  | cons point rest ih =>
      rw [layOut_ofPoints_cons] at isExtended ⊢
      rw [standsAt_cons, and_assoc, List.length_cons, Nat.add_comm rest.length 1, ← Nat.add_assoc]
      split at isExtended
      · next isLast =>
          subst isLast
          rw [if_pos rfl, standsAt_nil]
          refine (stepped position isExtended).trans (and_congr_right fun _ => ?_)
          rw [List.length_nil, Nat.add_zero]
          exact (and_iff_right rfl).symm
      · next notLast =>
          rw [if_neg notLast]
          exact (stepped position isExtended).trans
            (and_congr_right fun _ => ih isExtended.of_push.1 (position + 1))

theorem extends_of_layOut_ofPoints (needle : List Nat) {base program : Program}
    (isExtended : ((ofPoints needle).layOut base).Extends program) : base.Extends program := by
  induction needle with
  | nil => exact isExtended.of_push.1
  | cons point rest ih =>
      rw [layOut_ofPoints_cons] at isExtended
      split at isExtended
      · exact isExtended.of_push.1
      · exact ih isExtended.of_push.1

end Expression

namespace Regex

/-- The expression of literal text. -/
def literal (needle : List Nat) : Regex where
  expression := .ofPoints needle
  captureCount := 0
  names := []

/-- A match of code points goes through what is behind them where they stand. -/
theorem ends_of_inside {regex : Regex} {needle : List Nat} {base : Program}
    (isInside : regex.inside = (Expression.ofPoints needle).layOut base) (points : Array Nat)
    (position stop : Nat) :
    base.Extends regex.program ∧
      (regex.program.Ends points regex.program.start position stop ↔
        standsAt needle points.toList position = true ∧
          regex.program.Ends points base.start (position + needle.length) stop) := by
  have isExtended : (regex.inside.push (.save 0 regex.inside.start)).Extends regex.program :=
    fun _ _ fetched => fetched
  obtain ⟨isExtended, atFirst⟩ := isExtended.of_push
  rw [isInside] at isExtended
  refine ⟨Expression.extends_of_layOut_ofPoints needle isExtended,
    (Program.ends_save atFirst).trans ?_⟩
  rw [isInside]
  exact Expression.ends_ofPoints needle isExtended points position stop

variable (needle : List Nat) (points : Array Nat) (position stop : Nat)

/-- A match of literal text ends behind its code points. -/
theorem ends_literal :
    (literal needle).program.Ends points (literal needle).program.start position stop ↔
      standsAt needle points.toList position = true ∧ position + needle.length = stop := by
  have isInside : (literal needle).inside = (Expression.ofPoints needle).layOut .ending := by
    rw [inside, literal, Expression.unfold_ofPoints]
  obtain ⟨isExtended, ends⟩ := ends_of_inside isInside points position stop
  refine ends.trans (and_congr_right fun _ => ?_)
  exact (Program.ends_save (isExtended 1 (.save 1 0) rfl)).trans
    (Program.ends_accept (isExtended 0 .accept rfl))

/-- With the end of the text behind it, it has to end there as well. -/
theorem ends_ended_literal :
    (literal needle).ended.program.Ends points (literal needle).ended.program.start position stop ↔
      (standsAt needle points.toList position && position + needle.length == points.size) = true ∧
        position + needle.length = stop := by
  have isInside : (literal needle).ended.inside =
      (Expression.ofPoints needle).layOut .endingAtEnd := by
    change ((Expression.ofPoints needle).unfold).layOut _ = _
    rw [Expression.unfold_ofPoints]
    rfl
  obtain ⟨isExtended, ends⟩ := ends_of_inside isInside points position stop
  rw [Bool.and_eq_true, beq_iff_eq, and_assoc]
  refine ends.trans (and_congr_right fun _ => ?_)
  refine (Program.ends_check (isExtended 2 (.check .textEnd 1) rfl)).trans
    (and_congr decide_eq_true_iff ?_)
  exact (Program.ends_save (isExtended 1 (.save 1 0) rfl)).trans
    (Program.ends_accept (isExtended 0 .accept rfl))

theorem numbersGroups_literal : (literal needle).expression.NumbersGroups := by
  refine Expression.numbersGroups_ofSequence fun term mem => ?_
  obtain ⟨point, -, rfl⟩ := List.mem_map.mp mem
  trivial

/-- A search for literal text finds the first place where it stands. -/
theorem search_literal (start : Nat) :
    (literal needle).search points start =
      (firstAt? needle points.toList start).map fun first =>
        [some (first, first + needle.length)] :=
  search_eq_of_ends (numbersGroups_literal needle) rfl (ends_literal needle points) start

/-- Literal text that has to reach from the start to the end is all of the subject. -/
theorem search_ended_literal :
    ((literal needle).ended.search points 0).filter (·.startsAt 0) =
      if points.toList = needle then some [some (0, needle.length)] else none := by
  have isWhole : (standsAt needle points.toList 0 && 0 + needle.length == points.size) = true ↔
      points.toList = needle := by
    rw [Bool.and_eq_true, beq_iff_eq, Nat.zero_add]
    constructor
    · exact fun stands => (standsAt_zero_iff stands.2).mp stands.1
    · intro same
      have sameLength : needle.length = points.size := congrArg List.length same.symm
      exact ⟨(standsAt_zero_iff sameLength).mpr same, sameLength⟩
  rw [search_eq_of_ends (numbersGroups_ended (numbersGroups_literal needle)) rfl
    (ends_ended_literal needle points) 0]
  rw [Nat.sub_zero, List.range'_succ, List.find?_cons]
  by_cases same : points.toList = needle
  · rw [if_pos same, isWhole.mpr same]
    rw [Option.map_some, Nat.zero_add]
    rfl
  · rw [if_neg same, Bool.eq_false_iff.mpr (mt isWhole.mp same)]
    dsimp only
    rw [Option.filter_eq_none_iff]
    intro spans mem starts
    obtain ⟨first, isFirst, rfl⟩ := Option.map_eq_some_iff.mp mem
    have later := List.mem_range'_1.mp (List.mem_of_find?_eq_some isFirst)
    have atZero := (PointSpans.startsAt_of_head? rfl 0).symm.trans starts
    rw [beq_iff_eq] at atZero
    omega

end Regex

end Linear

/-! ## Both engines -/

/-- Code that looks for code points as they stand.  A match that has to reach from the start to the
end is found if they are all of the subject. -/
structure EngineKind.LooksFor (kind : EngineKind) (plain : kind.Code) (needle : List Nat) :
    Prop where
  noGroups : kind.backend.captureCount plain = 0
  finds : ∀ (text : PointText) (position : Nat),
    kind.backend.search plain text position (Anchoring.search.ask false false) =
      .ok ((firstAt? needle text.points.toList position).map fun first =>
        [some (first, first + needle.length)])
  matchesWhole : ∀ text : PointText,
    kind.backend.search plain text 0 (Anchoring.whole.ask false false) =
      .ok (if text.points.toList = needle then some [some (0, needle.length)] else none)

/-- Lowered code looks for literal text if that is how its plain rendering is read. -/
theorem Backtracking.looksFor {lowered : Lowering.Lowered} {needle : List Nat}
    (noGroups : lowered.captureCount = 0)
    (isRead : Backtrack.Regex.ofPoints? (lowered.render {}).points lowered.caseless =
      some (.literal needle)) :
    EngineKind.backtracking.LooksFor ⟨lowered, false, false⟩ needle where
  noGroups := noGroups
  finds := by
    intro text position
    refine (search_of_read ⟨lowered, false, false⟩ {} isRead text position).trans ?_
    exact congrArg Except.ok (Backtrack.Regex.exec_literal needle text.points position)
  matchesWhole := by
    intro text
    have isEnded : BacktrackCode.regex? ⟨lowered, false, false⟩
        { anchored := true, endAnchored := true } =
          some (Backtrack.Regex.literal needle).ended :=
      BacktrackCode.regex?_endAnchored _ { anchored := true } rfl isRead
    refine (search_of_read ⟨lowered, false, false⟩ { anchored := true, endAnchored := true } isEnded
      text 0).trans ?_
    exact congrArg Except.ok (Backtrack.Regex.exec_ended_literal needle text.points)

/-- A program looks for literal text if it was made from the escaped text. -/
theorem LinearTime.looksFor (needle : List Nat) {flags : Linear.Flags}
    (isCased : flags.caseless = false) :
    EngineKind.linear.LooksFor
      ⟨escapeLiteral needle, flags, Linear.Regex.literal needle, false, false⟩ needle where
  noGroups := rfl
  finds := by
    intro text position
    exact congrArg Except.ok (Linear.Regex.search_literal needle text.points position)
  matchesWhole := by
    intro text
    have isEnded : Linear.Regex.ofPoints? (endAnchor (escapeLiteral needle)) flags =
        some (Linear.Regex.literal needle).ended :=
      Linear.ofPoints?_enclosed_of_ended (Linear.ofPoints?_escaped needle isCased)
        (Linear.not_quotesToEnd_escaped needle)
    refine (search_anchored ⟨escapeLiteral needle, flags, .literal needle, false, false⟩
      { anchored := true, endAnchored := true } rfl isEnded text 0).trans ?_
    exact congrArg Except.ok (Linear.Regex.search_ended_literal needle text.points)

end RegexMatching
