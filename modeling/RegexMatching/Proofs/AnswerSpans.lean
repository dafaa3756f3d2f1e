import Mathlib.Data.List.TakeWhile
import RegexMatching.Proofs.Backends
import RegexMatching.Proofs.Exploration
import RegexMatching.Proofs.Positions

/-!
# Spans in answers

A backend finds spans between positions, and its engine reports them as offsets of bytes.
Where the spans lie in the subject, every group that is set comes back as the span of units
that the positions name.
-/

namespace RegexMatching

open Utf8 (bytesBefore)

/-! ## Options -/

namespace MatchOptions

/-- Options are read back from their number. -/
theorem ofBits?_toBits (options : MatchOptions) : ofBits? options.toBits = some options := by
  rcases options with ⟨anchored, endAnchored, notBol, notEol, partialSoft⟩
  cases anchored <;> cases endAnchored <;> cases notBol <;> cases notEol <;>
    cases partialSoft <;> rfl

end MatchOptions

/-! ## Offsets of spans -/

theorem getElem?_flatMap_pair {α β : Type} {pair : α → List β}
    (length : ∀ item, (pair item).length = 2) (items : List α) (index : Nat) :
    (items.flatMap pair)[index * 2]? = (items[index]?.bind fun item => (pair item)[0]?) ∧
      (items.flatMap pair)[index * 2 + 1]? = items[index]?.bind fun item => (pair item)[1]? := by
  induction items generalizing index with
  | nil => exact ⟨rfl, rfl⟩
  | cons item rest ih =>
      rw [List.flatMap_cons]
      cases index with
      | zero =>
          rw [Nat.zero_mul, List.getElem?_append_left (by rw [length]; decide),
            List.getElem?_append_left (by rw [length]; decide)]
          exact ⟨rfl, rfl⟩
      | succ index =>
          have behind := ih index
          rw [Nat.succ_mul, List.getElem?_append_right (by rw [length]; omega),
            List.getElem?_append_right (by rw [length]; omega), length]
          exact behind

/-- A span that is set counts. -/
theorem lt_countUpToLastSet {spans : PointSpans} {group : Nat} {span : Nat × Nat}
    (isSet : spans[group]? = some (some span)) : group < countUpToLastSet spans := by
  have parts := List.takeWhile_append_dropWhile (p := Option.isNone) (l := spans.reverse)
  have split : spans = (spans.reverse.dropWhile Option.isNone).reverse ++
      (spans.reverse.takeWhile Option.isNone).reverse := by
    rw [← List.reverse_append, parts, List.reverse_reverse]
  apply Nat.lt_of_not_le
  intro behind
  rw [countUpToLastSet] at behind
  rw [split, List.getElem?_append_right (by rwa [List.length_reverse])] at isSet
  have unset := List.mem_takeWhile_imp (List.mem_reverse.mp (List.mem_of_getElem? isSet))
  contradiction

theorem getElem?_padded (slots group : Nat) (spans : PointSpans) :
    (spans.take slots ++ List.replicate (slots - (spans.take slots).length) none)[group]? =
      if group < slots then some (spans[group]?).join else none := by
  have length : (spans.take slots).length = min slots spans.length := List.length_take
  by_cases inside : group < slots
  · rw [if_pos inside]
    by_cases isGiven : group < spans.length
    · rw [List.getElem?_append_left (by omega), List.getElem?_take_of_lt inside,
        List.getElem?_eq_getElem isGiven]
      rfl
    · rw [List.getElem?_append_right (by omega), List.getElem?_replicate_of_lt (by omega),
        List.getElem?_eq_none (Nat.not_lt.mp isGiven)]
      rfl
  · rw [if_neg inside, List.getElem?_eq_none]
    rw [List.length_append, List.length_replicate]
    omega

theorem Report.set?_eq {report : Report} {group : Nat} {start stop : Int}
    (atStart : report.offsets[group * 2]? = some start)
    (atStop : report.offsets[group * 2 + 1]? = some stop) :
    report.set? group =
      if (report.result = 0 ∨ (group : Int) < report.result) ∧ 0 ≤ start ∧ 0 ≤ stop then
        some (start.toNat, stop.toNat)
      else none := by
  rw [set?, atStart, atStop]

theorem Report.set?_eq_none {report : Report} {group : Nat}
    (behind : report.offsets[group * 2]? = none) : report.set? group = none := by
  rw [set?, behind]

/-- The groups that a report of spans sets. -/
theorem set?_ofSpans (text : PointText) (slots groupCount group : Nat) (spans : PointSpans) :
    ((Answer.ofSpans text slots spans).toReport groupCount).set? group =
      if group < slots then
        ((spans[group]?).join).map fun span => (text.byteAt span.1, text.byteAt span.2)
      else none := by
  have length : ∀ span?, (text.spanOffsets span?).length = 2 := by
    rintro (_ | _) <;> rfl
  obtain ⟨atStart, atStop⟩ := getElem?_flatMap_pair length
    (spans.take slots ++ List.replicate (slots - (spans.take slots).length) none) group
  rw [getElem?_padded] at atStart atStop
  by_cases inside : group < slots
  · rw [if_pos inside] at atStart atStop ⊢
    cases found : (spans[group]?).join with
    | none =>
        rw [found] at atStart atStop
        refine (Report.set?_eq atStart atStop).trans (if_neg ?_)
        rintro ⟨-, nonneg, -⟩
        contradiction
    | some span =>
        rw [found] at atStart atStop
        have isSet : (spans.take slots)[group]? = some (some span) := by
          rw [List.getElem?_take_of_lt inside]
          exact Option.join_eq_some_iff.mp found
        refine (Report.set?_eq atStart atStop).trans (if_pos ⟨.inr ?_, ?_, ?_⟩)
        · exact Int.ofNat_lt.mpr (lt_countUpToLastSet isSet)
        · exact Int.natCast_nonneg _
        · exact Int.natCast_nonneg _
  · rw [if_neg inside] at atStart ⊢
    exact Report.set?_eq_none atStart

/-! ## Spans of units -/

namespace Text

/-- The span of units that a span of positions names. -/
def unitSpan (points : List Nat) : Option (Nat × Nat) → Span
  | some (start, stop) => ⟨unitsBefore points start, unitsBefore points stop⟩
  | none => .unset

end Text

/-- The spans of the given number of groups, in units of what was matched. -/
def PointSpans.toUnits (spans : PointSpans) (points : List Nat) (slots : Nat) : List Span :=
  (List.range slots).map fun group => Text.unitSpan points (spans[group]?).join

theorem PointSpans.head?_toUnits (spans : PointSpans) (points : List Nat) (slots : Nat) :
    (spans.toUnits points (slots + 1)).head? = some (Text.unitSpan points (spans[0]?).join) := by
  rw [toUnits, List.range_succ_eq_map]
  rfl

section Report

variable {text : Text} (noMark : text.head? ≠ some 0xFEFF) {spans : PointSpans}
  (within : spans.Within text.points.length)

include noMark within

/-- The offsets of a group that is set are those of its positions. -/
theorem exists_positions_of_set? {slots groupCount group first last : Nat}
    (isSet : ((Answer.ofSpans (.ofBytes (Utf8.encode text)) slots spans).toReport
      groupCount).set? group = some (first, last)) :
    ∃ start stop, (spans[group]?).join = some (start, stop) ∧
      first = bytesBefore text (Text.unitsBefore text.points start) ∧
      last = bytesBefore text (Text.unitsBefore text.points stop) := by
  rw [set?_ofSpans] at isSet
  split at isSet
  · obtain ⟨⟨start, stop⟩, found, same⟩ := Option.map_eq_some_iff.mp isSet
    have bounds := within start stop (List.mem_of_getElem? (Option.join_eq_some_iff.mp found))
    dsimp only at same
    rw [PointText.byteAt_eq noMark bounds.1, PointText.byteAt_eq noMark bounds.2] at same
    cases same
    exact ⟨start, stop, found, rfl, rfl⟩
  · contradiction

/-- A report of spans inside a text cuts no code point of it. -/
theorem cutsNoPoint_ofSpans (slots groupCount : Nat) :
    ((Answer.ofSpans (.ofBytes (Utf8.encode text)) slots spans).toReport
      groupCount).CutsNoPoint (Utf8.encode text) := by
  intro group first last isSet
  obtain ⟨start, stop, -, rfl, rfl⟩ := exists_positions_of_set? noMark within isSet
  exact ⟨Utf8.isBoundary_bytesBefore (Text.isBoundary_unitsBefore text start),
    Utf8.isBoundary_bytesBefore (Text.isBoundary_unitsBefore text stop)⟩

/-- A report of spans inside a text says which units they hold. -/
theorem unitSpans_ofSpans (groupCount : Nat) :
    ((Answer.ofSpans (.ofBytes (Utf8.encode text)) (groupCount + 1) spans).toReport
      groupCount).unitSpans text = spans.toUnits text.points (groupCount + 1) := by
  have count : ((Answer.ofSpans (.ofBytes (Utf8.encode text)) (groupCount + 1) spans).toReport
    groupCount).groupCount = groupCount := rfl
  rw [Report.unitSpans, count, PointSpans.toUnits]
  apply List.map_congr_left
  intro group mem
  rw [Report.unitSpan, set?_ofSpans, if_pos (List.mem_range.mp mem)]
  cases found : (spans[group]?).join with
  | none => rfl
  | some span =>
      have bounds := within span.1 span.2 (List.mem_of_getElem? (Option.join_eq_some_iff.mp found))
      simp only [Option.map_some, Text.unitSpan]
      rw [PointText.byteAt_eq noMark bounds.1, PointText.byteAt_eq noMark bounds.2,
        Text.indexAt_bytesBefore (Text.isBoundary_unitsBefore text span.1),
        Text.indexAt_bytesBefore (Text.isBoundary_unitsBefore text span.2)]

end Report

/-! ## Searches inside a subject -/

/-- What a backend finds from a position of a subject lies in the subject. -/
def Backend.KeepsInside {κ : Type} (backend : Backend κ) : Prop :=
  ∀ (code : κ) (text : PointText) (position : Nat) (options : MatchOptions) (spans : PointSpans),
    position ≤ text.points.size → backend.search code text position options = .ok (some spans) →
    spans.Within text.points.size

theorem EngineKind.keepsInside (kind : EngineKind) : kind.backend.KeepsInside := by
  intro code text position options spans inside found
  cases kind with
  | backtracking =>
      simp only [backend, Backtracking.backend, Backtracking.search] at found
      split at found
      · contradiction
      · exact Backtrack.Regex.within_exec inside (Except.ok.inj found)
  | linear =>
      simp only [backend, LinearTime.backend, LinearTime.search] at found
      split at found
      · contradiction
      · split at found
        · cases found
        · exact Linear.Regex.within_search (Except.ok.inj found)

namespace Backend

variable {κ : Type}

/-- What is found, as an answer. -/
def answerOf (text : PointText) (slots : Nat) : Option PointSpans → Answer
  | none => .code ResultCode.noMatch
  | some spans => .ofSpans text slots spans

/-- A match call on a text from a boundary on is a search from the position there. -/
theorem report_eq_search {backend : Backend κ} {text : Text} (noMark : text.head? ≠ some 0xFEFF)
    (code : κ) {position : Nat} (inside : position ≤ text.points.length) {bits : Int}
    {options : MatchOptions} (isRead : MatchOptions.ofBits? bits = some options)
    (isHonoured : backend.honours options = true) :
    backend.report (some code) (Utf8.encode text)
        (bytesBefore text (Text.unitsBefore text.points position)) bits =
      (backend.search code (.ofBytes (Utf8.encode text)) position options).map fun found =>
        (answerOf (.ofBytes (Utf8.encode text)) (backend.captureCount code + 1) found).toReport
          (backend.captureCount code) := by
  have startLe : bytesBefore text (Text.unitsBefore text.points position) ≤
      (Utf8.encode text).length :=
    (Utf8.isBoundary_bytesBefore (Text.isBoundary_unitsBefore text position)).1
  have accepted : (decide ((bytesBefore text (Text.unitsBefore text.points position) : Int) < 0) ||
      decide (((Utf8.encode text).length : Int) <
        bytesBefore text (Text.unitsBefore text.points position))) = false := by
    rw [Bool.or_eq_false_iff, decide_eq_false_iff_not, decide_eq_false_iff_not]
    omega
  rw [report, answer, isRead]
  dsimp only
  rw [isHonoured, accepted, Int.toNat_natCast, PointText.positionAt?_eq noMark inside]
  simp only [Bool.not_true, Bool.false_eq_true, if_false]
  cases backend.search code (.ofBytes (Utf8.encode text)) position options with
  | error fault => rfl
  | ok found => cases found <;> rfl

end Backend

end RegexMatching
