import RegexMatching.Proofs.Attempt

/-!
# Captures in units of the subject

An engine counts bytes of what it sees.  Where it keeps to code points, every
capture comes back as a span of the subject: the span in the text that was seen,
moved to where that text lies in the subject.
-/

namespace RegexMatching

open Utf8 (bytesBefore)

/-! ## Moving spans -/

namespace Span

/-- A span further on in a text.  An unset span stays unset. -/
def shift (span : Span) (distance : Nat) : Span :=
  if span.start < 0 then span else ⟨span.start + distance, span.stop + distance⟩

theorem shift_of_nonneg {span : Span} (isSet : 0 ≤ span.start) (distance : Nat) :
    span.shift distance = ⟨span.start + distance, span.stop + distance⟩ :=
  if_neg (Int.not_lt.mpr isSet)

theorem shift_natCast (first last distance : Nat) :
    (⟨first, last⟩ : Span).shift distance =
      ⟨(distance + first : Nat), (distance + last : Nat)⟩ := by
  rw [shift_of_nonneg (Int.natCast_nonneg first), Nat.add_comm, Nat.add_comm distance last]
  rfl

@[simp]
theorem shift_zero (span : Span) : span.shift 0 = span := by
  unfold shift
  split
  · rfl
  · rw [Int.natCast_zero, Int.add_zero, Int.add_zero]

end Span

/-! ## Promises about reports -/

namespace Report

/-- A match starts at or behind the offset asked for and cuts no code point. -/
def PlacesMatch (report : Report) (subject : Bytes) (start : Nat) : Prop :=
  ∃ first last, report.set? 0 = some (first, last) ∧ start ≤ first ∧ first ≤ last ∧
    Utf8.IsBoundary subject first ∧ Utf8.IsBoundary subject last

/-- No group that is set cuts a code point. -/
def CutsNoPoint (report : Report) (subject : Bytes) : Prop :=
  ∀ group first last, report.set? group = some (first, last) →
    Utf8.IsBoundary subject first ∧ Utf8.IsBoundary subject last

/-- No group ends before it starts. -/
def IsOrdered (report : Report) : Prop :=
  ∀ group first last, report.set? group = some (first, last) → first ≤ last

/-- The span of a group in units of the text that was seen. -/
def unitSpan (report : Report) (text : Text) (group : Nat) : Span :=
  match report.set? group with
  | some (first, last) => ⟨text.indexAt first, text.indexAt last⟩
  | none => .unset

/-- The spans of all groups in units of the text that was seen. -/
def unitSpans (report : Report) (text : Text) : List Span :=
  (List.range (report.groupCount + 1)).map (report.unitSpan text)

theorem length_unitSpans (report : Report) (text : Text) :
    (report.unitSpans text).length = report.groupCount + 1 := by
  rw [unitSpans, List.length_map, List.length_range]

theorem head?_unitSpans (report : Report) (text : Text) :
    (report.unitSpans text).head? = some (report.unitSpan text 0) := by
  rw [unitSpans, List.range_succ_eq_map]
  rfl

end Report

/-! ## From bytes to the subject -/

theorem mapM_eq_ok {α β : Type} {step : α → Except Fault β} {value : α → β} {items : List α}
    (each : ∀ item ∈ items, step item = .ok (value item)) :
    items.mapM step = .ok (items.map value) := by
  induction items with
  | nil => rfl
  | cons item rest ih =>
      rw [List.mapM_cons, each item List.mem_cons_self,
        ih fun other mem => each other (List.mem_cons_of_mem item mem)]
      rfl

theorem head?_of_mapM_eq_ok {α β : Type} {step : α → Except Fault β} {item : α} {rest : List α}
    {value : β} {values : List β} (first : step item = .ok value)
    (all : (item :: rest).mapM step = .ok values) : values.head? = some value := by
  rw [List.mapM_cons, first] at all
  cases others : rest.mapM step with
  | error fault =>
      rw [others] at all
      contradiction
  | ok values' =>
      rw [others] at all
      cases all
      rfl

namespace Matcher

variable {σ : Type}

/-- The span of a capture that is counted from a byte on. -/
def subjectSpan (searched : SearchedText) (byteStart : Nat) (capture : Span) :
    Except Fault Span :=
  if capture.start < 0 || capture.stop < 0 then .ok .unset
  else searched.toSubject (capture.start.toNat + byteStart) (capture.stop.toNat + byteStart)

theorem searchedText_eq {matcher : Matcher σ}
    (isPlain : matcher.pattern.canonicalEquivalence = false) :
    matcher.searchedText = matcher.text := by
  rw [searchedText, isPlain]
  rfl

theorem subjectSpans_eq (searched : SearchedText) (byteStart : Nat) (captures : List Span) :
    subjectSpans searched byteStart captures = captures.mapM (subjectSpan searched byteStart) :=
  rfl

namespace Consistent

variable {matcher : Matcher σ} (consistent : matcher.Consistent)

include consistent

/-- A boundary of what is seen is a boundary of the searched text. -/
theorem unitAt_seen (ordered : matcher.viewStart ≤ matcher.viewEnd) {offset : Nat}
    (boundary : Utf8.IsBoundary (Utf8.encode matcher.viewText) offset) :
    matcher.searched.coordinates.unitAt (offset + matcher.seenView.byteStart) =
      .ok (matcher.viewStart + matcher.viewText.indexAt offset) := by
  rcases Text.isBoundary_indexAt boundary with ⟨atIndex, atByte⟩
  have atStart := consistent.isBoundary_viewStart
  have atEnd := consistent.isBoundary_viewEnd
  generalize matcher.viewText.indexAt offset = index at atIndex atByte
  have inside : matcher.viewStart + index ≤ matcher.viewEnd := by
    have bound := atIndex.1
    rw [viewText, Text.length_between] at bound
    omega
  have inText := (Text.isBoundary_between_iff atStart atEnd inside).mp atIndex
  have bytes := Utf8.bytesBefore_add atStart inside
  rw [consistent.coordinates, ← Coordinates.unitAt_bytesBefore inText, bytes, ← atByte,
    Nat.add_comm]
  rfl

/-- A capture at boundaries of what is seen has its place in the subject: the units seen, or where
the subject is decomposed the units that they come from. -/
theorem subjectSpan_seen (ordered : matcher.viewStart ≤ matcher.viewEnd) {first last : Nat}
    (atFirst : Utf8.IsBoundary (Utf8.encode matcher.viewText) first)
    (atLast : Utf8.IsBoundary (Utf8.encode matcher.viewText) last) :
    subjectSpan matcher.searched matcher.seenView.byteStart ⟨first, last⟩ =
      let start := matcher.viewStart + matcher.viewText.indexAt first
      let stop := matcher.viewStart + matcher.viewText.indexAt last
      .ok (match matcher.searched.canonical with
        | some canonical => ⟨canonical.toSourceStart start, canonical.toSourceEnd stop⟩
        | none => ⟨start, stop⟩) := by
  have notNegative : ¬(((first : Int) < 0 || (last : Int) < 0) = true) := by
    simp only [Bool.or_eq_true, decide_eq_true_eq]
    omega
  rw [subjectSpan, if_neg notNegative, SearchedText.toSubject, Int.toNat_natCast,
    Int.toNat_natCast, consistent.unitAt_seen ordered atFirst,
    consistent.unitAt_seen ordered atLast]
  cases matcher.searched.canonical <;> rfl

variable (isPlain : matcher.pattern.canonicalEquivalence = false)

include isPlain

theorem canonical_eq_none : matcher.searched.canonical = none := by
  rw [consistent.searched, isPlain]
  rfl

theorem ofSubject_eq (index : Nat) : matcher.searched.ofSubject index = index := by
  rw [consistent.searched, isPlain]
  rfl

theorem viewStart_eq : matcher.viewStart = matcher.text.ceilIndex matcher.regionStart := by
  rw [viewStart, searchedText_eq isPlain, consistent.ofSubject_eq isPlain]

theorem viewEnd_eq : matcher.viewEnd = matcher.text.floorIndex matcher.regionEnd := by
  rw [viewEnd, searchedText_eq isPlain, consistent.ofSubject_eq isPlain]

/-- An index of what is seen, as an offset of the subject. -/
theorem isBoundary_add (ordered : matcher.viewStart ≤ matcher.viewEnd) {index : Nat}
    (boundary : matcher.viewText.IsBoundary index) :
    matcher.text.IsBoundary (matcher.viewStart + index) ∧
      matcher.regionStart ≤ matcher.viewStart + index ∧
      matcher.viewStart + index ≤ matcher.regionEnd := by
  have atStart := consistent.isBoundary_viewStart
  have atEnd := consistent.isBoundary_viewEnd
  have startLe : matcher.regionStart ≤ matcher.viewStart := by
    rw [consistent.viewStart_eq isPlain]
    exact Text.le_ceilIndex _ _
  have endLe : matcher.viewEnd ≤ matcher.regionEnd := by
    rw [consistent.viewEnd_eq isPlain]
    exact Text.floorIndex_le _ _
  have inView : matcher.viewStart + index ≤ matcher.viewEnd := by
    have bound := boundary.1
    rw [viewText, Text.length_between] at bound
    omega
  have inText := (Text.isBoundary_between_iff atStart atEnd inView).mp boundary
  rw [searchedText_eq isPlain] at inText
  exact ⟨inText, Nat.le_trans startLe (Nat.le_add_right _ _), Nat.le_trans inView endLe⟩

/-- A group that cuts no code point has its span in the subject. -/
theorem subjectSpan_eq (ordered : matcher.viewStart ≤ matcher.viewEnd) {report : Report}
    {group : Nat}
    (cutsNoPoint : ∀ first last, report.set? group = some (first, last) →
      Utf8.IsBoundary (Utf8.encode matcher.viewText) first ∧
        Utf8.IsBoundary (Utf8.encode matcher.viewText) last) :
    subjectSpan matcher.searched matcher.seenView.byteStart (report.span group) =
      .ok ((report.unitSpan matcher.viewText group).shift matcher.viewStart) := by
  unfold Report.span Report.unitSpan
  cases isSet : report.set? group with
  | none => rfl
  | some pair =>
      rcases pair with ⟨first, last⟩
      rcases cutsNoPoint first last isSet with ⟨atFirst, atLast⟩
      dsimp only
      rw [consistent.subjectSpan_seen ordered atFirst atLast, consistent.canonical_eq_none isPlain,
        Span.shift_natCast]

/-- Captures that cut no code point have their spans in the subject. -/
theorem subjectSpans_captures (ordered : matcher.viewStart ≤ matcher.viewEnd) {report : Report}
    (cutsNoPoint : report.CutsNoPoint (Utf8.encode matcher.viewText)) :
    subjectSpans matcher.searched matcher.seenView.byteStart report.captures =
      .ok ((report.unitSpans matcher.viewText).map (·.shift matcher.viewStart)) := by
  rw [subjectSpans_eq, Report.captures, Report.unitSpans, List.mapM_map, List.map_map]
  apply mapM_eq_ok
  intro group _
  exact consistent.subjectSpan_eq isPlain ordered (cutsNoPoint group)

end Consistent

end Matcher

end RegexMatching
