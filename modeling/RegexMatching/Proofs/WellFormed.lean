import RegexMatching.Proofs.Positions

/-!
# Well-formed text

In well-formed text every surrogate belongs to a pair.  Such a text comes back from its bytes
as it is, and it stands in another text exactly where its code points stand among the code
points of the other.
-/

namespace RegexMatching

namespace Text

/-- Every surrogate belongs to a pair: no code point of the text is a surrogate. -/
def IsWellFormed (text : Text) : Prop :=
  ∀ point ∈ text.points, ¬(0xD800 ≤ point ∧ point ≤ 0xDFFF)

instance (text : Text) : Decidable text.IsWellFormed :=
  inferInstanceAs (Decidable (∀ point ∈ text.points, ¬(0xD800 ≤ point ∧ point ≤ 0xDFFF)))

theorem isWellFormed_nil : IsWellFormed [] :=
  nofun

/-- A unit that is no surrogate neither makes a text ill-formed nor heals it. -/
theorem isWellFormed_cons {unit : CodeUnit} (notHigh : unit.isHighSurrogate = false)
    (notLow : unit.isLowSurrogate = false) {rest : Text} :
    IsWellFormed (unit :: rest) ↔ rest.IsWellFormed := by
  have notSurrogate : ¬(0xD800 ≤ unit.toNat ∧ unit.toNat ≤ 0xDFFF) := by
    have isHigh_iff := CodeUnit.isHighSurrogate_iff unit
    have isLow_iff := CodeUnit.isLowSurrogate_iff unit
    rw [notHigh] at isHigh_iff
    rw [notLow] at isLow_iff
    simp only [Bool.false_eq_true, false_iff] at isHigh_iff isLow_iff
    omega
  rw [IsWellFormed, points_cons_of_not_high notHigh, List.forall_mem_cons]
  exact and_iff_right notSurrogate

/-- A text in front of a unit that closes no pair is well-formed by itself. -/
theorem isWellFormed_append (before : Text) {unit : CodeUnit}
    (notLow : unit.isLowSurrogate = false) {rest : Text} :
    IsWellFormed (before ++ unit :: rest) ↔
      before.IsWellFormed ∧ IsWellFormed (unit :: rest) := by
  rw [IsWellFormed, points_append_of_not_low before notLow, List.forall_mem_append]
  rfl

namespace IsWellFormed

variable {text : Text} (isWellFormed : text.IsWellFormed)

include isWellFormed

/-! ## To bytes and back -/

theorem map_scalarOf : text.points.map Utf8.scalarOf = text.points := by
  refine (List.map_congr_left fun point mem => ?_).trans (List.map_id _)
  rw [Utf8.scalarOf, if_neg]
  · rfl
  · rw [Bool.and_eq_true, decide_eq_true_eq, decide_eq_true_eq]
    exact isWellFormed point mem

theorem decode_encode (noMark : text.head? ≠ some 0xFEFF) :
    Utf8.decode (Utf8.encode text) = text.points :=
  (Utf8.decode_encode noMark).trans isWellFormed.map_scalarOf

theorem decodeText_encode (noMark : text.head? ≠ some 0xFEFF) :
    Utf8.decodeText (Utf8.encode text) = text := by
  rw [Utf8.decodeText, isWellFormed.decode_encode noMark, ofPoints_points]

theorem points_ofBytes (noMark : text.head? ≠ some 0xFEFF) :
    (PointText.ofBytes (Utf8.encode text)).points = text.points.toArray := by
  rw [PointText.ofBytes, isWellFormed.decode_encode noMark]

/-! ## In other texts -/

/-- Nothing behind the text makes a pair with its last unit. -/
theorem splitsPair_append (rest : Text) : (text ++ rest).splitsPair text.length = false := by
  rw [Bool.eq_false_iff]
  intro splits
  obtain ⟨first, same, pair⟩ := (splitsPair_iff _ _).mp splits
  obtain ⟨high, low, atHigh, -, isHigh, -⟩ := (isPairAt_iff _ _).mp pair
  have inside : first < text.length := by omega
  rw [List.getElem?_append_left inside] at atHigh
  have last : text = text.take first ++ [high] := by
    have isLast : text.drop first = [high] := by
      rw [List.drop_eq_getElem_cons inside, (List.getElem?_eq_some_iff.mp atHigh).2,
        List.drop_eq_nil_of_le (by omega)]
    rw [← isLast, List.take_append_drop]
  have notLow : high.isLowSurrogate = false := by
    rw [Bool.eq_false_iff]
    intro isLow
    rw [CodeUnit.isHighSurrogate_eq_false_of_isLowSurrogate isLow] at isHigh
    contradiction
  have alone := isWellFormed
  rw [last, isWellFormed_append _ notLow] at alone
  have bounds := (CodeUnit.isHighSurrogate_iff high).mp isHigh
  exact alone.2 high.toNat List.mem_cons_self (by omega)

theorem points_append (rest : Text) : points (text ++ rest) = text.points ++ points rest :=
  Text.points_append text rest (isWellFormed.splitsPair_append rest)

/-- No pair is cut in front of the text. -/
theorem isBoundary_of_prefix (notEmpty : text ≠ []) {other : Text} {index : Nat}
    (stands : text <+: other.drop index) : other.IsBoundary index := by
  obtain ⟨rest, same⟩ := stands
  cases text with
  | nil => contradiction
  | cons unit text =>
      have inside : index < other.length := by
        rw [← Nat.not_le]
        intro behind
        rw [List.drop_eq_nil_of_le behind] at same
        contradiction
      have atIndex : other[index]? = some unit := by
        rw [← Nat.add_zero index, ← List.getElem?_drop, ← same]
        rfl
      refine ⟨Nat.le_of_lt inside, ?_⟩
      rw [Bool.eq_false_iff]
      intro splits
      obtain ⟨first, rfl, pair⟩ := (splitsPair_iff _ _).mp splits
      obtain ⟨high, low, -, atLow, -, isLow⟩ := (isPairAt_iff _ _).mp pair
      rw [atIndex] at atLow
      cases atLow
      have notHigh := CodeUnit.isHighSurrogate_eq_false_of_isLowSurrogate isLow
      have bounds := (CodeUnit.isLowSurrogate_iff unit).mp isLow
      refine isWellFormed unit.toNat ?_ (by omega)
      rw [points_cons_of_not_high notHigh]
      exact List.mem_cons_self

end IsWellFormed

/-- The code points behind a position are those of the text behind it. -/
theorem points_drop_unitsBefore (text : Text) (position : Nat) :
    points (text.drop (unitsBefore text.points position)) = text.points.drop position := by
  obtain ⟨boundary, front⟩ := take_unitsBefore text position
  have parts := points_append (text.take (unitsBefore text.points position))
    (text.drop (unitsBefore text.points position))
  rw [List.take_append_drop, List.length_take_of_le boundary.1] at parts
  have whole := parts boundary.2
  rw [front] at whole
  exact List.append_cancel_left (whole.symm.trans (List.take_append_drop position _).symm)

/-- A well-formed text stands at a position exactly when its code points do. -/
theorem IsWellFormed.prefix_iff {text : Text} (isWellFormed : text.IsWellFormed) (other : Text)
    (position : Nat) :
    text <+: other.drop (unitsBefore other.points position) ↔
      text.points <+: other.points.drop position := by
  rw [← points_drop_unitsBefore]
  generalize other.drop (unitsBefore other.points position) = behind
  constructor
  · rintro ⟨rest, rfl⟩
    exact ⟨points rest, (isWellFormed.points_append rest).symm⟩
  · rintro ⟨rest, same⟩
    refine ⟨ofPoints rest, ?_⟩
    have written := congrArg ofPoints same
    rw [ofPoints, List.flatMap_append] at written
    change ofPoints text.points ++ ofPoints rest = ofPoints (points behind) at written
    rwa [ofPoints_points, ofPoints_points] at written

end Text

end RegexMatching
