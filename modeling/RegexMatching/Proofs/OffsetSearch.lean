import RegexMatching.Text.Coordinates

/-!
# Searching a table of offsets

A table whose entries are in order is searched by halving.  The search keeps one invariant: what
lies before the part it still looks at is below the wanted byte, and what lies behind that part is
not.  Where the part has shrunk to nothing stands the first entry that is not below the byte.
-/

namespace RegexMatching

namespace Coordinates

variable {offsets : Array Nat} {byte first last index : Nat}

/-! ## Halving -/

/-- The entries of a table never fall. -/
def Ordered (offsets : Array Nat) : Prop :=
  ∀ first last (inside : last < offsets.size) (le : first ≤ last), offsets[first] ≤ offsets[last]

/-- The first entry that is not below `byte` stands between two indices. -/
structure Brackets (offsets : Array Nat) (byte first last : Nat) : Prop where
  le : first ≤ last
  inTable : last ≤ offsets.size
  below : ∀ index (inside : index < offsets.size), index < first → offsets[index] < byte
  notBelow : ∀ index (inside : index < offsets.size), last ≤ index → byte ≤ offsets[index]

/-- At first the whole table is looked at. -/
theorem brackets_size (offsets : Array Nat) (byte : Nat) : Brackets offsets byte 0 offsets.size where
  le := Nat.zero_le _
  inTable := Nat.le_refl _
  below := fun _ _ less => absurd less (Nat.not_lt_zero _)
  notBelow := fun _ inside le => absurd inside (Nat.not_lt_of_le le)

/-- When the middle entry is below the byte, so are those before it. -/
theorem Brackets.right (brackets : Brackets offsets byte first last) (isOrdered : Ordered offsets)
    {middle : Nat} (isLess : middle < last)
    (isBelow : offsets[middle]?.getD 0 < byte) : Brackets offsets byte (middle + 1) last := by
  have inside : middle < offsets.size := Nat.lt_of_lt_of_le isLess brackets.inTable
  rw [Array.getElem?_eq_getElem inside, Option.getD_some] at isBelow
  constructor
  · exact isLess
  · exact brackets.inTable
  · intro index _ less
    exact Nat.lt_of_le_of_lt (isOrdered index middle inside (Nat.le_of_lt_succ less)) isBelow
  · exact brackets.notBelow

/-- When the middle entry is not below the byte, neither are those behind it. -/
theorem Brackets.left (brackets : Brackets offsets byte first last) (isOrdered : Ordered offsets)
    {middle : Nat} (notBefore : first ≤ middle) (isLess : middle < last)
    (notBelow : ¬offsets[middle]?.getD 0 < byte) : Brackets offsets byte first middle := by
  have inside : middle < offsets.size := Nat.lt_of_lt_of_le isLess brackets.inTable
  rw [Array.getElem?_eq_getElem inside, Option.getD_some] at notBelow
  constructor
  · exact notBefore
  · exact Nat.le_of_lt inside
  · exact brackets.below
  · intro index isInside le
    exact Nat.le_trans (Nat.le_of_not_lt notBelow) (isOrdered middle index isInside le)

/-- Halving ends at the first entry that is not below the byte. -/
theorem brackets_lowerBoundBetween (isOrdered : Ordered offsets)
    (brackets : Brackets offsets byte first last) :
    Brackets offsets byte (lowerBoundBetween offsets byte first last)
      (lowerBoundBetween offsets byte first last) := by
  fun_induction lowerBoundBetween offsets byte first last with
  | case1 first last isLess middle isBelow ih =>
      exact ih (brackets.right isOrdered (by omega) isBelow)
  | case2 first last isLess middle notBelow ih =>
      exact ih (brackets.left isOrdered (by omega) (by omega) notBelow)
  | case3 first last notLess =>
      have equal : last = first := Nat.le_antisymm (Nat.le_of_not_lt notLess) brackets.le
      rwa [equal] at brackets

/-- The entries before the lower bound of a byte are below it, and no others. -/
theorem lt_lowerBound_iff {coordinates : Coordinates} (isOrdered : Ordered coordinates.offsets)
    (inside : index < coordinates.offsets.size) :
    index < coordinates.lowerBound byte ↔ coordinates.offsets[index] < byte := by
  have brackets := brackets_lowerBoundBetween isOrdered (brackets_size coordinates.offsets byte)
  constructor
  · exact brackets.below index inside
  · intro isBelow
    apply Nat.lt_of_not_le
    intro le
    exact absurd isBelow (Nat.not_lt_of_le (brackets.notBelow index inside le))

/-! ## Stepping back -/

theorem firstOfEqual_le (offsets : Array Nat) (index : Nat) : firstOfEqual offsets index ≤ index := by
  fun_induction firstOfEqual offsets index with
  | case1 => exact Nat.le_refl 0
  | case2 index same ih => exact Nat.le_succ_of_le ih
  | case3 index differ => exact Nat.le_refl _

/-- Stepping back keeps the entry. -/
theorem getElem?_firstOfEqual (offsets : Array Nat) (index : Nat) :
    offsets[firstOfEqual offsets index]? = offsets[index]? := by
  fun_induction firstOfEqual offsets index with
  | case1 => rfl
  | case2 index same ih => exact ih.trans same
  | case3 index differ => rfl

/-- The entry before the one where stepping back ends is another. -/
theorem getElem?_firstOfEqual_ne {before : Nat}
    (isBefore : firstOfEqual offsets index = before + 1) :
    offsets[before]? ≠ offsets[before + 1]? := by
  fun_induction firstOfEqual offsets index with
  | case1 => cases isBefore
  | case2 index same ih => exact ih isBefore
  | case3 index differ =>
      cases isBefore
      exact differ

end Coordinates

end RegexMatching
