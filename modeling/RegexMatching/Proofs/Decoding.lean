import RegexMatching.Proofs.Offsets
import RegexMatching.Text.Points
import Mathlib.Tactic.IntervalCases

/-!
# Reading encoded text

The bytes of a text are read back as the code points of the text, with the replacement
for every surrogate that stands alone.  Only a byte order mark in front is lost.
-/

namespace RegexMatching

namespace Utf8

/-! ## One code point -/

theorem toNat_toUInt8 {value : Nat} (small : value < 256) : value.toUInt8.toNat = value :=
  Nat.mod_eq_of_lt small

/-- Whether a byte goes on with what is pending. -/
def Pending.Continues (pending : Pending) (value : Nat) : Prop :=
  pending.low.toNat ≤ value ∧ value ≤ pending.high.toNat ∧ value < 256

theorem decodeFrom_of_continues {pending : Pending} {value : Nat}
    (continues : pending.Continues value) (rest : Bytes) :
    decodeFrom (some pending) (value.toUInt8 :: rest) =
      if pending.owed ≤ 1 then
        (pending.value * 0x40 + (value - 0x80)) :: decodeFrom none rest
      else
        decodeFrom
          (some { owed := pending.owed - 1, value := pending.value * 0x40 + (value - 0x80) })
          rest := by
  have inRange : (decide (pending.low ≤ value.toUInt8) &&
      decide (value.toUInt8 ≤ pending.high)) = true := by
    simp only [Bool.and_eq_true, decide_eq_true_eq, UInt8.le_iff_toNat_le,
      toNat_toUInt8 continues.2.2]
    exact ⟨continues.1, continues.2.1⟩
  rw [decodeFrom, if_pos inRange, toNat_toUInt8 continues.2.2]

/-- Any six bits go on with what is pending, where no range is set. -/
theorem continues_mod (owed value point : Nat) :
    ({ owed, value } : Pending).Continues (0x80 + point % 0x40) := by
  have low : (0x80 : UInt8).toNat = 0x80 := rfl
  have high : (0xBF : UInt8).toNat = 0xBF := rfl
  simp only [Pending.Continues, low, high]
  omega

theorem decodeFrom_of_opens {byte : UInt8} {pending : Pending} (opens : lead byte = .opens pending)
    (rest : Bytes) : decodeFrom none (byte :: rest) = decodeFrom (some pending) rest := by
  rw [decodeFrom, opens]

theorem lead_of_one {point : Nat} (small : point < 0x80) :
    lead point.toUInt8 = .whole point := by
  have value := toNat_toUInt8 (show point < 256 by omega)
  simp [lead, UInt8.lt_iff_toNat_lt, value, small]

theorem lead_of_two {bits : Nat} (low : 2 ≤ bits) (high : bits < 0x20) :
    lead (0xC0 + bits).toUInt8 = .opens { owed := 1, value := bits } := by
  interval_cases bits <;> rfl

/-- The first of three bytes.  The range of the second one shuts out short values and
surrogates. -/
theorem exists_lead_of_three {bits : Nat} (high : bits < 0x10) :
    ∃ pending, lead (0xE0 + bits).toUInt8 = .opens pending ∧ pending.owed = 2 ∧
      pending.value = bits ∧ pending.low.toNat = (if bits = 0 then 0xA0 else 0x80) ∧
      pending.high.toNat = if bits = 0xD then 0x9F else 0xBF := by
  interval_cases bits <;> exact ⟨_, rfl, rfl, rfl, rfl, rfl⟩

/-- The first of four bytes.  The range of the second one shuts out short values and those
above the last code point. -/
theorem exists_lead_of_four {bits : Nat} (high : bits ≤ 4) :
    ∃ pending, lead (0xF0 + bits).toUInt8 = .opens pending ∧ pending.owed = 3 ∧
      pending.value = bits ∧ pending.low.toNat = (if bits = 0 then 0x90 else 0x80) ∧
      pending.high.toNat = if bits = 4 then 0x8F else 0xBF := by
  interval_cases bits <;> exact ⟨_, rfl, rfl, rfl, rfl, rfl⟩

/-- A code point that is no surrogate is read back from its bytes. -/
theorem decodeFrom_encodeScalar {point : Nat} (le : point ≤ CodePoint.last)
    (isScalar : ¬(0xD800 ≤ point ∧ point ≤ 0xDFFF)) (rest : Bytes) :
    decodeFrom none (encodeScalar point ++ rest) = point :: decodeFrom none rest := by
  unfold CodePoint.last at le
  unfold encodeScalar
  split
  · next one => rw [List.singleton_append, decodeFrom, lead_of_one one]
  split
  · next two =>
      have opens : lead (0xC0 + point / 0x40).toUInt8 =
          .opens { owed := 1, value := point / 0x40 } :=
        lead_of_two (by omega) (by omega)
      rw [List.cons_append, decodeFrom_of_opens opens, List.singleton_append,
        decodeFrom_of_continues (continues_mod _ _ _), if_pos (Nat.le_refl 1),
        show point / 0x40 * 0x40 + (0x80 + point % 0x40 - 0x80) = point by omega]
  split
  · next three =>
      obtain ⟨pending, opens, owed, value, low, high⟩ :=
        exists_lead_of_three (show point / 0x1000 < 0x10 by omega)
      have second : pending.Continues (0x80 + point / 0x40 % 0x40) := by
        unfold Pending.Continues
        rw [low, high]
        split <;> split <;> omega
      rw [List.cons_append, decodeFrom_of_opens opens, List.cons_append,
        decodeFrom_of_continues second, owed, value, if_neg (by omega), List.singleton_append,
        decodeFrom_of_continues (continues_mod _ _ _), if_pos (Nat.le_refl 1)]
      exact congrArg (· :: decodeFrom none rest) (by dsimp only; omega)
  · obtain ⟨pending, opens, owed, value, low, high⟩ :=
      exists_lead_of_four (show point / 0x40000 ≤ 4 by omega)
    have second : pending.Continues (0x80 + point / 0x1000 % 0x40) := by
      unfold Pending.Continues
      rw [low, high]
      split <;> split <;> omega
    rw [List.cons_append, decodeFrom_of_opens opens, List.cons_append,
      decodeFrom_of_continues second, owed, value, if_neg (by omega), List.cons_append,
      decodeFrom_of_continues (continues_mod _ _ _), if_neg (by simp), List.singleton_append,
      decodeFrom_of_continues (continues_mod _ _ _), if_pos (by simp)]
    exact congrArg (· :: decodeFrom none rest) (by dsimp only; omega)

theorem scalarOf_not_surrogate (point : Nat) :
    ¬(0xD800 ≤ scalarOf point ∧ scalarOf point ≤ 0xDFFF) := by
  unfold scalarOf replacement
  split
  · omega
  · next notSurrogate =>
      simpa using notSurrogate

/-! ## Texts -/

theorem decodeFrom_flatMap {points : List Nat} (le : ∀ point ∈ points, point ≤ CodePoint.last) :
    decodeFrom none (points.flatMap encodePoint) = points.map scalarOf := by
  induction points with
  | nil => rfl
  | cons point rest ih =>
      rw [List.forall_mem_cons] at le
      rw [List.flatMap_cons, List.map_cons, encodePoint,
        decodeFrom_encodeScalar (scalarOf_le_last le.1) (scalarOf_not_surrogate point), ih le.2]

/-- A text starts with a byte order mark where its first unit is one. -/
theorem head?_points_ne {text : Text} (noMark : text.head? ≠ some 0xFEFF) :
    text.points.head? ≠ some byteOrderMark := by
  have first : ∀ unit : CodeUnit, some unit ≠ some 0xFEFF →
      some unit.toNat ≠ some byteOrderMark := by
    intro unit other same
    exact other (congrArg some (UInt16.toNat_inj.mp (Option.some.inj same)))
  fun_cases Text.points text with
  | case1 => exact (Option.some_ne_none byteOrderMark).symm
  | case2 unit => exact first unit noMark
  | case3 high low rest pair =>
      intro same
      have isMark : CodePoint.ofPair high.toNat low.toNat = byteOrderMark := Option.some.inj same
      have notWide : byteOrderMark < 0x10000 := by decide
      unfold CodePoint.ofPair at isMark
      omega
  | case4 high low rest noPair => exact first high noMark

theorem dropByteOrderMark_eq_self {points : List Nat}
    (noMark : points.head? ≠ some byteOrderMark) : dropByteOrderMark points = points := by
  cases points with
  | nil => rfl
  | cons first rest => exact if_neg fun same => noMark (congrArg some same)

theorem scalarOf_eq_byteOrderMark {point : Nat} (isMark : scalarOf point = byteOrderMark) :
    point = byteOrderMark := by
  unfold scalarOf replacement byteOrderMark at *
  split at isMark <;> omega

/-- What is read in the bytes of a text that does not start with a byte order mark. -/
theorem decode_encode {text : Text} (noMark : text.head? ≠ some 0xFEFF) :
    decode (encode text) = text.points.map scalarOf := by
  rw [decode, encode, decodeFrom_flatMap fun point => Text.le_last_of_mem_points,
    dropByteOrderMark_eq_self]
  intro isMark
  rw [List.head?_map, Option.map_eq_some_iff] at isMark
  obtain ⟨point, atHead, isMark⟩ := isMark
  rw [scalarOf_eq_byteOrderMark isMark] at atHead
  exact head?_points_ne noMark atHead

end Utf8

end RegexMatching
