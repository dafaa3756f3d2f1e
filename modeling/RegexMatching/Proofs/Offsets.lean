import RegexMatching.Proofs.ByteBoundary
import RegexMatching.Proofs.OffsetSearch

/-!
# The offset table of a text

The table holds, for every index, how many bytes come before the code point that
the index lies in.  Reading it rounds an index to a boundary, and searching it
takes the offset of a boundary back to that boundary.
-/

namespace RegexMatching

open Utf8 (bytesBefore)

/-! ## Offsets behind the first code point -/

namespace Text

theorem floorIndex_succ_of_not_pair {high low : CodeUnit} (rest : Text) (index : Nat)
    (noPair : ¬(high.isHighSurrogate && low.isLowSurrogate) = true) :
    floorIndex (high :: low :: rest) (index + 1) = floorIndex (low :: rest) index + 1 := by
  cases index with
  | zero =>
      have whole : splitsPair (high :: low :: rest) (0 + 1) = false := Bool.eq_false_iff.mpr noPair
      rw [floorIndex, whole, floorIndex, splitsPair_zero]
      rfl
  | succ index =>
      rw [floorIndex, splitsPair_cons_succ _ _ (Nat.succ_pos index), floorIndex]
      split <;> rfl

theorem floorIndex_add_two_of_pair {high low : CodeUnit} (rest : Text) (index : Nat)
    (pair : (high.isHighSurrogate && low.isLowSurrogate) = true) :
    floorIndex (high :: low :: rest) (index + 2) = floorIndex rest index + 2 := by
  cases index with
  | zero =>
      have first : isPairAt (high :: low :: rest) 0 = true := pair
      rw [floorIndex, splitsPair_succ, isPairAt_succ_of_isPairAt first, floorIndex, splitsPair_zero]
      rfl
  | succ index =>
      rw [floorIndex, splitsPair_cons_succ _ _ (Nat.succ_pos _),
        splitsPair_cons_succ _ _ (Nat.succ_pos index), floorIndex]
      split <;> rfl

end Text

namespace Utf8

theorem width_ofPair (high low : Nat) : width (CodePoint.ofPair high low) = 4 := by
  unfold width CodePoint.ofPair
  rw [if_neg (by omega), if_neg (by omega), if_neg (by omega)]

theorem bytesBefore_succ_of_not_pair {high low : CodeUnit} (rest : Text) (index : Nat)
    (noPair : ¬(high.isHighSurrogate && low.isLowSurrogate) = true) :
    bytesBefore (high :: low :: rest) (index + 1) =
      width high.toNat + bytesBefore (low :: rest) index := by
  cases index with
  | zero => simp [bytesBefore, encode, Text.points, length_encodePoint]
  | succ index => simp [bytesBefore, encode, Text.points, noPair, length_encodePoint]

theorem bytesBefore_add_two_of_pair {high low : CodeUnit} (rest : Text) (index : Nat)
    (pair : (high.isHighSurrogate && low.isLowSurrogate) = true) :
    bytesBefore (high :: low :: rest) (index + 2) = 4 + bytesBefore rest index := by
  simp [bytesBefore, encode, Text.points, pair, length_encodePoint, width_ofPair]

end Utf8

/-! ## The table -/

/-- An entry of the table counts the bytes before the code point that its index
lies in. -/
theorem getElem?_byteOffsetsFrom (byte : Nat) (text : Text) {index : Nat}
    (inside : index ≤ text.length) :
    (byteOffsetsFrom byte text)[index]? =
      some (byte + bytesBefore text (text.floorIndex index)) := by
  fun_induction byteOffsetsFrom byte text generalizing index with
  | case1 byte =>
      rw [List.length_nil, Nat.le_zero] at inside
      subst inside
      rfl
  | case2 byte unit =>
      rcases Nat.le_one_iff_eq_zero_or_eq_one.mp inside with rfl | rfl
      · rfl
      · simp [Text.floorIndex, Text.isPairAt, Text.startsWithPair, bytesBefore, Utf8.encode,
          Text.points, Utf8.length_encodePoint]
  | case3 byte high low rest pair ih =>
      cases index with
      | zero => rfl
      | succ index =>
          cases index with
          | zero =>
              have splits : Text.splitsPair (high :: low :: rest) 1 = true := pair
              rw [Text.floorIndex, splits]
              rfl
          | succ index =>
              have insideRest : index ≤ rest.length := by
                rw [List.length_cons, List.length_cons] at inside
                omega
              rw [Text.floorIndex_add_two_of_pair rest index pair,
                Utf8.bytesBefore_add_two_of_pair rest _ pair, ← Nat.add_assoc]
              exact ih insideRest
  | case4 byte high low rest noPair ih =>
      cases index with
      | zero => rfl
      | succ index =>
          have insideRest : index ≤ (low :: rest).length := Nat.le_of_succ_le_succ inside
          rw [Text.floorIndex_succ_of_not_pair rest index noPair,
            Utf8.bytesBefore_succ_of_not_pair rest _ noPair, ← Nat.add_assoc]
          exact ih insideRest

/-! ## Reading the table -/

namespace Coordinates

@[simp]
theorem bytes_ofText (text : Text) : (ofText text).bytes = Utf8.encode text :=
  rfl

theorem getElem?_offsets_ofText (text : Text) {index : Nat} (inside : index ≤ text.length) :
    (ofText text).offsets[index]? = some (bytesBefore text (text.floorIndex index)) := by
  rw [ofText, List.getElem?_toArray, getElem?_byteOffsetsFrom 0 text inside, Nat.zero_add]

/-- The byte offset of an index, rounded down to a boundary. -/
theorem byteAt_ofText (text : Text) {index : Nat} (inside : index ≤ text.length) :
    (ofText text).byteAt index = .ok (bytesBefore text (text.floorIndex index)) := by
  rw [byteAt, getElem?_offsets_ofText text inside]

/-- The byte offset of an index, rounded up to a boundary. -/
theorem ceilByteAt_ofText (text : Text) {index : Nat} (inside : index ≤ text.length) :
    (ofText text).ceilByteAt index = .ok (bytesBefore text (text.ceilIndex index)) := by
  have atCeil := Text.isBoundary_ceilIndex inside
  have same : (ofText text).ceilByteAt index = (ofText text).byteAt (text.ceilIndex index) := by
    rw [ceilByteAt, Text.ceilIndex]
    exact (apply_ite _ _ _ _).symm
  rw [same, byteAt_ofText text atCeil.1, Text.floorIndex_eq_self atCeil]

/-! ## Searching the table -/

/-- The table has an entry for every unit and one for the end. -/
theorem length_byteOffsetsFrom (byte : Nat) (text : Text) :
    (byteOffsetsFrom byte text).length = text.length + 1 := by
  fun_induction byteOffsetsFrom byte text with
  | case1 byte => rfl
  | case2 byte unit => rfl
  | case3 byte high low rest pair ih => exact congrArg (· + 2) ih
  | case4 byte high low rest noPair ih => exact congrArg (· + 1) ih

theorem size_offsets_ofText (text : Text) : (ofText text).offsets.size = text.length + 1 := by
  rw [ofText, List.size_toArray, length_byteOffsetsFrom]

theorem getElem_offsets_ofText (text : Text) {index : Nat}
    (inTable : index < (ofText text).offsets.size) :
    (ofText text).offsets[index] = bytesBefore text (text.floorIndex index) := by
  have inside : index ≤ text.length := by
    rw [size_offsets_ofText] at inTable
    exact Nat.le_of_lt_succ inTable
  rw [← Option.some.injEq, ← Array.getElem?_eq_getElem inTable,
    getElem?_offsets_ofText text inside]

theorem ordered_offsets_ofText (text : Text) : Ordered (ofText text).offsets := by
  intro first last inTable le
  have inside : last ≤ text.length := by
    rw [size_offsets_ofText] at inTable
    exact Nat.le_of_lt_succ inTable
  rw [getElem_offsets_ofText, getElem_offsets_ofText]
  exact Utf8.bytesBefore_le (Text.isBoundary_floorIndex (Nat.le_trans le inside))
    (Text.floorIndex_le_floorIndex text le)

/-- The search goes past the indices whose code point starts before a byte. -/
theorem lt_lowerBound_ofText_iff (text : Text) {byte index : Nat} (inside : index ≤ text.length) :
    index < (ofText text).lowerBound byte ↔ bytesBefore text (text.floorIndex index) < byte := by
  have inTable : index < (ofText text).offsets.size := by
    rw [size_offsets_ofText]
    exact Nat.lt_succ_of_le inside
  rw [lt_lowerBound_iff (ordered_offsets_ofText text) inTable, getElem_offsets_ofText]

/-- Where the search finds the wanted byte, a code point starts: of two equal entries the search
meets the first. -/
theorem isBoundary_lowerBound {text : Text} {byte : Nat}
    (isEntry : (ofText text).offsets[(ofText text).lowerBound byte]? = some byte) :
    text.IsBoundary ((ofText text).lowerBound byte) ∧
      bytesBefore text ((ofText text).lowerBound byte) = byte := by
  have inside : (ofText text).lowerBound byte ≤ text.length := by
    have inTable := (Array.getElem?_eq_some_iff.mp isEntry).1
    rw [size_offsets_ofText] at inTable
    exact Nat.le_of_lt_succ inTable
  have atFloor := Text.isBoundary_floorIndex inside
  rw [getElem?_offsets_ofText text inside, Option.some.injEq] at isEntry
  have notLess : ¬text.floorIndex ((ofText text).lowerBound byte) < (ofText text).lowerBound byte := by
    rw [lt_lowerBound_ofText_iff text atFloor.1, Text.floorIndex_eq_self atFloor, isEntry]
    exact Nat.lt_irrefl byte
  have isFloor : text.floorIndex ((ofText text).lowerBound byte) = (ofText text).lowerBound byte :=
    Nat.le_antisymm (Text.floorIndex_le text _) (Nat.le_of_not_lt notLess)
  rw [isFloor] at atFloor isEntry
  exact ⟨atFloor, isEntry⟩

theorem lowerBound_bytesBefore {text : Text} {index : Nat} (boundary : text.IsBoundary index) :
    (ofText text).lowerBound (bytesBefore text index) = index := by
  apply Nat.le_antisymm
  · apply Nat.le_of_not_lt
    rw [lt_lowerBound_ofText_iff text boundary.1, Text.floorIndex_eq_self boundary]
    exact Nat.lt_irrefl _
  · apply Nat.le_of_not_lt
    intro less
    have inside : (ofText text).lowerBound (bytesBefore text index) ≤ text.length :=
      Nat.le_trans (Nat.le_of_lt less) boundary.1
    have atFloor := Text.isBoundary_floorIndex inside
    have floorLess := Nat.lt_of_le_of_lt (Text.floorIndex_le text _) less
    have offsetLess := Utf8.bytesBefore_lt atFloor floorLess boundary.1
    exact Nat.lt_irrefl _ ((lt_lowerBound_ofText_iff text inside).mpr offsetLess)

/-- A byte leads to an index exactly when a code point starts at both. -/
theorem unitAt?_eq_some_iff {text : Text} {byte index : Nat} :
    (ofText text).unitAt? byte = some index ↔
      text.IsBoundary index ∧ bytesBefore text index = byte := by
  constructor
  · intro found
    rw [unitAt?, Option.ite_none_right_eq_some, Option.some.injEq] at found
    rcases found with ⟨isEntry, rfl⟩
    exact isBoundary_lowerBound isEntry
  · rintro ⟨boundary, rfl⟩
    have entry := getElem?_offsets_ofText text boundary.1
    rw [Text.floorIndex_eq_self boundary] at entry
    rw [unitAt?, lowerBound_bytesBefore boundary, entry]
    exact if_pos rfl

theorem unitAt?_bytesBefore {text : Text} {index : Nat} (boundary : text.IsBoundary index) :
    (ofText text).unitAt? (bytesBefore text index) = some index :=
  unitAt?_eq_some_iff.mpr ⟨boundary, rfl⟩

/-- The offset of a boundary leads back to the boundary. -/
theorem unitAt_bytesBefore {text : Text} {index : Nat} (boundary : text.IsBoundary index) :
    (ofText text).unitAt (bytesBefore text index) = .ok index := by
  rw [unitAt, unitAt?_bytesBefore boundary]

end Coordinates

/-! ## The index of a byte offset -/

namespace Text

/-- The index of the code point that starts at a byte offset. -/
def indexAt (text : Text) (offset : Nat) : Nat :=
  ((Coordinates.ofText text).unitAt? offset).getD 0

theorem indexAt_bytesBefore {text : Text} {index : Nat} (boundary : text.IsBoundary index) :
    text.indexAt (bytesBefore text index) = index := by
  rw [indexAt, Coordinates.unitAt?_bytesBefore boundary]
  rfl

/-- A boundary of the bytes is the offset of a boundary of the text. -/
theorem isBoundary_indexAt {text : Text} {offset : Nat}
    (boundary : Utf8.IsBoundary (Utf8.encode text) offset) :
    text.IsBoundary (text.indexAt offset) ∧ bytesBefore text (text.indexAt offset) = offset := by
  rcases Utf8.exists_index_of_isBoundary boundary with ⟨index, isBoundary, rfl⟩
  rw [indexAt_bytesBefore isBoundary]
  exact ⟨isBoundary, rfl⟩

/-- Boundaries of the bytes lie in the order of their indices. -/
theorem indexAt_le {text : Text} {first last : Nat}
    (atFirst : Utf8.IsBoundary (Utf8.encode text) first)
    (atLast : Utf8.IsBoundary (Utf8.encode text) last) (le : first ≤ last) :
    text.indexAt first ≤ text.indexAt last := by
  rcases isBoundary_indexAt atFirst with ⟨boundary, atByte⟩
  rcases isBoundary_indexAt atLast with ⟨boundary', atByte'⟩
  apply Nat.le_of_not_lt
  intro less
  have reversed := (Utf8.bytesBefore_lt_iff boundary' boundary).mpr less
  omega

end Text

end RegexMatching
