import RegexMatching.Proofs.Decoding

/-!
# Positions between code points

A matcher counts code points, an engine bytes and a caller units.  A position, the offset
of its byte and the index of its unit name the same boundary of a text, and each of them
leads to the others.
-/

namespace RegexMatching

open Utf8 (bytesBefore)

/-! ## Units in front of a position -/

namespace Text

/-- How many units the code points in front of a position take. -/
def unitsBefore (points : List Nat) (position : Nat) : Nat :=
  ((points.take position).map CodePoint.unitLength).sum

@[simp]
theorem unitsBefore_zero (points : List Nat) : unitsBefore points 0 = 0 := by
  simp [unitsBefore]

@[simp]
theorem unitsBefore_cons_succ (point : Nat) (points : List Nat) (position : Nat) :
    unitsBefore (point :: points) (position + 1) =
      CodePoint.unitLength point + unitsBefore points position := by
  simp [unitsBefore]

theorem unitLength_pos (point : Nat) : 0 < CodePoint.unitLength point := by
  unfold CodePoint.unitLength
  split <;> omega

theorem unitLength_unit (unit : CodeUnit) : CodePoint.unitLength unit.toNat = 1 := by
  have small := unit.toNat_lt
  exact if_pos (by omega)

theorem unitLength_ofPair (high low : Nat) :
    CodePoint.unitLength (CodePoint.ofPair high low) = 2 := by
  unfold CodePoint.unitLength CodePoint.ofPair
  rw [if_neg (by omega)]

theorem unitsBefore_lt {points : List Nat} {first last : Nat} (less : first < last)
    (inside : last ≤ points.length) : unitsBefore points first < unitsBefore points last := by
  induction points generalizing first last with
  | nil =>
      rw [List.length_nil] at inside
      omega
  | cons point rest ih =>
      obtain ⟨last, rfl⟩ := Nat.exists_eq_succ_of_ne_zero (Nat.ne_zero_of_lt less)
      rw [Nat.succ_eq_add_one, unitsBefore_cons_succ]
      cases first with
      | zero =>
          rw [unitsBefore_zero]
          exact Nat.add_pos_left (unitLength_pos point) _
      | succ first =>
          rw [unitsBefore_cons_succ]
          exact Nat.add_lt_add_left (ih (Nat.lt_of_succ_lt_succ less)
            (Nat.le_of_succ_le_succ inside)) _

theorem unitsBefore_inj {points : List Nat} {first last : Nat} (first_le : first ≤ points.length)
    (last_le : last ≤ points.length) (same : unitsBefore points first = unitsBefore points last) :
    first = last := by
  rcases Nat.lt_trichotomy first last with less | equal | greater
  · exact absurd same (Nat.ne_of_lt (unitsBefore_lt less last_le))
  · exact equal
  · exact absurd same (Nat.ne_of_gt (unitsBefore_lt greater first_le))

/-- Behind a pair, boundaries are those of the rest. -/
theorem isBoundary_add_two_of_pair {high low : CodeUnit} {rest : Text} {index : Nat}
    (pair : (high.isHighSurrogate && low.isLowSurrogate) = true)
    (boundary : rest.IsBoundary index) : IsBoundary (high :: low :: rest) (index + 2) := by
  refine ⟨Nat.add_le_add_right boundary.1 2, ?_⟩
  cases index with
  | zero =>
      have first : isPairAt (high :: low :: rest) 0 = true := pair
      rw [splitsPair_succ]
      exact isPairAt_succ_of_isPairAt first
  | succ index =>
      rw [splitsPair_cons_succ _ _ (Nat.succ_pos _), splitsPair_cons_succ _ _ (Nat.succ_pos _)]
      exact boundary.2

/-- Behind a unit that opens no pair, boundaries are those of the rest. -/
theorem isBoundary_succ_of_not_pair {high low : CodeUnit} {rest : Text} {index : Nat}
    (noPair : ¬(high.isHighSurrogate && low.isLowSurrogate) = true)
    (boundary : IsBoundary (low :: rest) index) : IsBoundary (high :: low :: rest) (index + 1) := by
  refine ⟨Nat.succ_le_succ boundary.1, ?_⟩
  cases index with
  | zero => exact Bool.eq_false_iff.mpr noPair
  | succ index =>
      rw [splitsPair_cons_succ _ _ (Nat.succ_pos _)]
      exact boundary.2

/-- A position lies at a boundary, and the code points in front of it are those of the text
up to there. -/
theorem take_unitsBefore (text : Text) (position : Nat) :
    text.IsBoundary (unitsBefore text.points position) ∧
      points (text.take (unitsBefore text.points position)) = text.points.take position := by
  fun_induction Text.points text generalizing position with
  | case1 => simp [unitsBefore, isBoundary_zero, points]
  | case2 unit =>
      cases position with
      | zero => simp [isBoundary_zero, points]
      | succ position =>
          have length : unitsBefore [unit.toNat] (position + 1) = 1 := by
            simp [unitsBefore, unitLength_unit]
          rw [length]
          exact ⟨isBoundary_length [unit], by simp [points]⟩
  | case3 high low rest pair ih =>
      cases position with
      | zero => simp [isBoundary_zero, points]
      | succ position =>
          obtain ⟨boundary, front⟩ := ih position
          rw [unitsBefore_cons_succ, unitLength_ofPair, Nat.add_comm]
          refine ⟨isBoundary_add_two_of_pair pair boundary, ?_⟩
          rw [List.take_succ_cons, List.take_succ_cons, points, if_pos pair, front,
            List.take_succ_cons]
  | case4 high low rest noPair ih =>
      cases position with
      | zero => simp [isBoundary_zero, points]
      | succ position =>
          obtain ⟨boundary, front⟩ := ih position
          rw [unitsBefore_cons_succ, unitLength_unit, Nat.add_comm]
          refine ⟨isBoundary_succ_of_not_pair noPair boundary, ?_⟩
          rw [List.take_succ_cons, List.take_succ_cons, ← front]
          cases unitsBefore (points (low :: rest)) position with
          | zero => rfl
          | succ index => rw [List.take_succ_cons, points, if_neg noPair]

theorem isBoundary_unitsBefore (text : Text) (position : Nat) :
    text.IsBoundary (unitsBefore text.points position) :=
  (take_unitsBefore text position).1

/-- A unit that opens no pair is a code point. -/
theorem points_cons_of_not_high {unit : CodeUnit} (notHigh : unit.isHighSurrogate = false)
    (rest : Text) : points (unit :: rest) = unit.toNat :: points rest := by
  cases rest with
  | nil => rfl
  | cons next rest => rw [points, notHigh, Bool.false_and, if_neg Bool.false_ne_true]

/-- A text that a low surrogate does not start is read by itself. -/
theorem points_append_of_not_low (before : Text) {unit : CodeUnit}
    (notLow : unit.isLowSurrogate = false) (rest : Text) :
    points (before ++ unit :: rest) = points before ++ points (unit :: rest) := by
  apply points_append
  rw [Bool.eq_false_iff]
  intro splits
  obtain ⟨first, same, pair⟩ := (splitsPair_iff _ _).mp splits
  obtain ⟨high, low, -, atLow, -, isLow⟩ := (isPairAt_iff _ _).mp pair
  rw [← same, List.getElem?_append_right (Nat.le_refl _), Nat.sub_self,
    List.getElem?_cons_zero] at atLow
  cases atLow
  rw [notLow] at isLow
  contradiction

/-- The units of all code points are those of the text. -/
theorem unitsBefore_length (text : Text) :
    unitsBefore text.points text.points.length = text.length := by
  fun_induction Text.points text with
  | case1 => rfl
  | case2 unit => simp [unitsBefore, unitLength_unit]
  | case3 high low rest pair ih =>
      rw [List.length_cons, unitsBefore_cons_succ, unitLength_ofPair, ih, List.length_cons,
        List.length_cons]
      omega
  | case4 high low rest noPair ih =>
      rw [List.length_cons, unitsBefore_cons_succ, unitLength_unit, ih]
      rw [List.length_cons (a := high)]
      omega

/-- Every boundary of a text is that of a position. -/
theorem exists_position {text : Text} {index : Nat} (boundary : text.IsBoundary index) :
    ∃ position, position ≤ text.points.length ∧ unitsBefore text.points position = index := by
  have parts := points_append (text.take index) (text.drop index)
  rw [List.take_append_drop, List.length_take_of_le boundary.1] at parts
  have whole := parts boundary.2
  refine ⟨(points (text.take index)).length, ?_, ?_⟩
  · rw [whole, List.length_append]
    exact Nat.le_add_right _ _
  · have front := unitsBefore_length (text.take index)
    rw [unitsBefore, List.take_length, List.length_take_of_le boundary.1] at front
    rw [whole, unitsBefore, List.take_left, front]

end Text

/-! ## Bytes in front of a position -/

namespace Utf8

theorem width_scalarOf (point : Nat) : width (scalarOf point) = width point := by
  unfold scalarOf
  split
  · next surrogate =>
      simp only [Bool.and_eq_true, decide_eq_true_eq] at surrogate
      unfold width replacement
      rw [if_neg (show ¬point < 0x80 by omega), if_neg (show ¬point < 0x800 by omega),
        if_pos (show point < 0x10000 by omega)]
      rfl
  · rfl

theorem length_flatMap_encodePoint (points : List Nat) :
    (points.flatMap encodePoint).length = (points.map width).sum := by
  induction points with
  | nil => rfl
  | cons point rest ih =>
      rw [List.flatMap_cons, List.length_append, length_encodePoint, ih, List.map_cons,
        List.sum_cons]

/-- How many bytes come before the unit of a position. -/
theorem bytesBefore_unitsBefore (text : Text) (position : Nat) :
    bytesBefore text (Text.unitsBefore text.points position) =
      ((text.points.take position).map width).sum := by
  rw [bytesBefore, encode, (Text.take_unitsBefore text position).2, length_flatMap_encodePoint]

end Utf8

/-! ## A subject as an engine reads it -/

/-- An entry of the table of a list of code points. -/
theorem getElem?_pointOffsetsFrom (byte : Nat) (points : List Nat) {position : Nat}
    (inside : position ≤ points.length) :
    (pointOffsetsFrom byte points)[position]? =
      some (byte + ((points.take position).map Utf8.width).sum) := by
  induction points generalizing byte position with
  | nil =>
      rw [List.length_nil, Nat.le_zero] at inside
      subst inside
      rfl
  | cons point rest ih =>
      cases position with
      | zero => rfl
      | succ position =>
          rw [pointOffsetsFrom, List.getElem?_cons_succ,
            ih _ (Nat.le_of_succ_le_succ inside), List.take_succ_cons, List.map_cons,
            List.sum_cons, Nat.add_assoc]

namespace PointText

variable {text : Text} (noMark : text.head? ≠ some 0xFEFF)

include noMark

theorem points_ofBytes_encode :
    (ofBytes (Utf8.encode text)).points = (text.points.map Utf8.scalarOf).toArray := by
  rw [ofBytes, Utf8.decode_encode noMark]

theorem size_points_ofBytes_encode :
    (ofBytes (Utf8.encode text)).points.size = text.points.length := by
  rw [points_ofBytes_encode noMark, List.size_toArray, List.length_map]

/-- The table of a subject holds the byte of every position. -/
theorem getElem?_offsets {position : Nat} (inside : position ≤ text.points.length) :
    (ofBytes (Utf8.encode text)).offsets[position]? =
      some (bytesBefore text (Text.unitsBefore text.points position)) := by
  have widths : Utf8.width ∘ Utf8.scalarOf = Utf8.width := funext Utf8.width_scalarOf
  rw [ofBytes, Utf8.decode_encode noMark, List.getElem?_toArray,
    getElem?_pointOffsetsFrom 0 _ (by rwa [List.length_map]), Utf8.bytesBefore_unitsBefore,
    ← List.map_take, List.map_map, widths, Nat.zero_add]

theorem byteAt_eq {position : Nat} (inside : position ≤ text.points.length) :
    (ofBytes (Utf8.encode text)).byteAt position =
      bytesBefore text (Text.unitsBefore text.points position) := by
  rw [byteAt, getElem?_offsets noMark inside]
  rfl

/-- The byte of a position leads back to the position. -/
theorem positionAt?_eq {position : Nat} (inside : position ≤ text.points.length) :
    (ofBytes (Utf8.encode text)).positionAt?
        (bytesBefore text (Text.unitsBefore text.points position)) = some position := by
  have entry := getElem?_offsets noMark inside
  rcases Array.getElem?_eq_some_iff.mp entry with ⟨inTable, equal⟩
  rw [positionAt?, Array.findIdx?_eq_some_iff_getElem]
  refine ⟨inTable, by simp [equal], fun before less => ?_⟩
  have entryBefore := getElem?_offsets noMark (Nat.le_trans (Nat.le_of_lt less) inside)
  rw [(Array.getElem?_eq_some_iff.mp entryBefore).2]
  have unitLess := Text.unitsBefore_lt less inside
  have byteLess := Utf8.bytesBefore_lt (Text.isBoundary_unitsBefore text before) unitLess
    (Text.isBoundary_unitsBefore text position).1
  simp only [beq_iff_eq]
  omega

end PointText

end RegexMatching
