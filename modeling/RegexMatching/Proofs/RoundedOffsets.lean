import Mathlib.Order.Bounds.Basic
import RegexMatching.Proofs.Offsets

/-!
# Translating offsets

The table of a text counts the bytes of its beginnings, as the encoder writes them.  A byte at which
a code point starts is translated back exactly, and any other integer is refused.  Rounding a byte
down gives the last code point that starts no later, and rounding an index up gives the first byte
of a code point that starts no earlier.
-/

namespace RegexMatching

open Utf8 (bytesBefore)

theorem Utf8.bytesBefore_inj {text : Text} {first last : Nat} (atFirst : text.IsBoundary first)
    (atLast : text.IsBoundary last) (same : bytesBefore text first = bytesBefore text last) :
    first = last := by
  apply Nat.le_antisymm
  · apply Nat.le_of_not_lt
    rw [← bytesBefore_lt_iff atLast atFirst, same]
    exact Nat.lt_irrefl _
  · apply Nat.le_of_not_lt
    rw [← bytesBefore_lt_iff atFirst atLast, same]
    exact Nat.lt_irrefl _

/-- An index among the numbers is an integer from zero to the bound. -/
theorem Number.toIndex?_eq_some_iff {number : Number} {bound value : Nat} :
    number.toIndex? bound = some value ↔ number.toInt? = some (value : Int) ∧ value ≤ bound := by
  rw [toIndex?]
  cases number.toInt? with
  | none => simp
  | some size =>
      cases size with
      | ofNat size =>
          simp only [Option.ite_none_right_eq_some, Option.some.injEq, Int.ofNat_eq_natCast,
            Int.natCast_inj]
          exact ⟨fun ⟨le, same⟩ => ⟨same, same ▸ le⟩, fun ⟨same, le⟩ => ⟨same ▸ le, same⟩⟩
      | negSucc below => simp

namespace Coordinates

variable {text : Text} {index byte : Nat}

/-! ## Counting bytes -/

theorem bytesBefore_length (text : Text) :
    bytesBefore text text.length = (Utf8.encode text).length := by
  rw [bytesBefore, List.take_length]

theorem getElem?_offsets_length (text : Text) :
    (ofText text).offsets[text.length]? = some (Utf8.encode text).length := by
  rw [getElem?_offsets_ofText text (Nat.le_refl _),
    Text.floorIndex_eq_self (Text.isBoundary_length text), bytesBefore_length]

/-- The table and the encoder agree on how many bytes a text takes. -/
theorem ofMeasuredText_eq_ok (text : Text) : ofMeasuredText text = .ok (ofText text) := by
  rw [ofMeasuredText, getElem?_offsets_length]
  exact if_pos rfl

/-- The halves of a pair share an entry, and every other unit takes bytes of its own. -/
theorem exists_entries (inside : index < text.length) :
    ∃ here next, (ofText text).offsets[index]? = some here ∧
      (ofText text).offsets[index + 1]? = some next ∧
        if text.isPairAt index then here = next else here < next := by
  refine ⟨_, _, getElem?_offsets_ofText text (Nat.le_of_lt inside),
    getElem?_offsets_ofText text inside, ?_⟩
  have atFloor := Text.isBoundary_floorIndex (Nat.le_of_lt inside)
  have floor_le := Text.floorIndex_le text index
  cases isPair : text.isPairAt index with
  | true =>
      have splits : text.splitsPair (index + 1) = true := by rwa [Text.splitsPair_succ]
      have whole : text.IsBoundary index := by
        have atPair : text.IsBoundary (text.floorIndex (index + 1)) :=
          Text.isBoundary_floorIndex (Nat.succ_le_of_lt inside)
        rwa [Text.floorIndex, splits] at atPair
      rw [if_pos rfl, Text.floorIndex_eq_self whole, Text.floorIndex, splits]
      rfl
  | false =>
      have isNext : text.floorIndex (index + 1) = index + 1 := by
        rw [Text.floorIndex, Text.splitsPair_succ, isPair]
        rfl
      rw [if_neg Bool.false_ne_true, isNext]
      exact Utf8.bytesBefore_lt atFloor (Nat.lt_succ_of_le floor_le) inside

theorem unitToByte_of_toInt? {number : Number} (isIndex : number.toInt? = some (index : Int))
    (inside : index ≤ text.length) :
    (ofText text).unitToByte number = (ofText text).byteAt index := by
  have isOffset : number.toIndex? (ofText text).length = some index :=
    Number.toIndex?_eq_some_iff.mpr ⟨isIndex, inside⟩
  rw [unitToByte, isOffset]

theorem ceilByte_of_toInt? {number : Number} (isIndex : number.toInt? = some (index : Int))
    (inside : index ≤ text.length) :
    (ofText text).ceilByte number = (ofText text).ceilByteAt index := by
  have isOffset : number.toIndex? (ofText text).length = some index :=
    Number.toIndex?_eq_some_iff.mpr ⟨isIndex, inside⟩
  rw [ceilByte, isOffset]

/-- The byte offset of an index is the length of the bytes before it, or before the pair that it
splits; so entries rise except within a pair, and the last of them is the number of bytes that the
encoder writes. -/
theorem offsets_count_bytes (text : Text) :
    (∀ (number : Number) (index : Nat), number.toInt? = some (index : Int) → index ≤ text.length →
      (ofText text).unitToByte number =
        .ok (Utf8.encode (text.take (if text.splitsPair index then index - 1 else index))).length) ∧
    (∀ index, index < text.length →
      ∃ here next, (ofText text).offsets[index]? = some here ∧
        (ofText text).offsets[index + 1]? = some next ∧
          if text.isPairAt index then here = next else here < next) ∧
    (ofText text).offsets[text.length]? = some (ofText text).bytes.length ∧
    ofMeasuredText text = .ok (ofText text) := by
  refine ⟨fun number index isIndex inside => ?_, fun index => exists_entries,
    getElem?_offsets_length text, ofMeasuredText_eq_ok text⟩
  rw [unitToByte_of_toInt? isIndex inside, byteAt_ofText text inside]
  rfl

/-- A pair between two surrogates that stand alone. -/
theorem offsets_of_broken_pairs :
    (Number.ofNat 2).toInt? = some (2 : Nat) ∧
    (ofText [0xD83D, 0xD83D, 0xDE00, 0xDE00]).unitToByte (.ofNat 2) = .ok 3 := by
  have isIndex : (Number.ofNat 2).toInt? = some (2 : Nat) := by decide
  have isLength := (offsets_count_bytes [0xD83D, 0xD83D, 0xDE00, 0xDE00]).1 _ 2 isIndex (by decide)
  exact ⟨isIndex, isLength⟩

/-! ## Rounding a byte down -/

/-- Stepping back from an entry goes to where its code point starts. -/
theorem firstOfEqual_offsets_ofText (inside : index ≤ text.length) :
    firstOfEqual (ofText text).offsets index = text.floorIndex index := by
  have le := firstOfEqual_le (ofText text).offsets index
  have entry := getElem?_firstOfEqual (ofText text).offsets index
  have boundary : text.IsBoundary (firstOfEqual (ofText text).offsets index) := by
    refine ⟨Nat.le_trans le inside, Bool.eq_false_iff.mpr fun splits => ?_⟩
    rcases (Text.splitsPair_iff _ _).mp splits with ⟨first, isNext, isPair⟩
    have less : first < text.length := by omega
    rcases exists_entries less with ⟨here, next, hereAt, nextAt, same⟩
    rw [if_pos isPair] at same
    exact getElem?_firstOfEqual_ne isNext (by rw [hereAt, nextAt, same])
  rw [getElem?_offsets_ofText text boundary.1, getElem?_offsets_ofText text inside,
    Text.floorIndex_eq_self boundary, Option.some.injEq] at entry
  exact Utf8.bytesBefore_inj boundary (Text.isBoundary_floorIndex inside) entry

theorem lowerBound_ofText_le (text : Text) (byte : Nat) :
    (ofText text).lowerBound byte ≤ text.length + 1 := by
  have brackets := brackets_lowerBoundBetween (ordered_offsets_ofText text)
    (brackets_size (ofText text).offsets byte)
  rw [← size_offsets_ofText]
  exact brackets.inTable

/-- A byte at which no code point starts belongs to the code point before the lower bound. -/
theorem isGreatest_floorIndex_lowerBound (positive : 0 < byte)
    (notEntry : (ofText text).offsets[(ofText text).lowerBound byte]? ≠ some byte) :
    IsGreatest {index | text.IsBoundary index ∧ bytesBefore text index ≤ byte}
      (text.floorIndex ((ofText text).lowerBound byte - 1)) := by
  have isFirst : 0 < (ofText text).lowerBound byte :=
    (lt_lowerBound_ofText_iff text (Nat.zero_le _)).mpr positive
  have inside : (ofText text).lowerBound byte - 1 ≤ text.length :=
    Nat.sub_le_of_le_add (lowerBound_ofText_le text byte)
  have before := (lt_lowerBound_ofText_iff text inside).mp (Nat.sub_lt isFirst Nat.one_pos)
  constructor
  · exact ⟨Text.isBoundary_floorIndex inside, Nat.le_of_lt before⟩
  · rintro later ⟨boundary, startsBefore⟩
    have isLess : bytesBefore text later < byte := by
      refine Nat.lt_of_le_of_ne startsBefore fun isByte => notEntry ?_
      rw [← isByte, lowerBound_bytesBefore boundary, getElem?_offsets_ofText text boundary.1,
        Text.floorIndex_eq_self boundary]
    rw [← Text.floorIndex_eq_self boundary] at isLess ⊢
    apply Text.floorIndex_le_floorIndex
    exact Nat.le_sub_one_of_lt ((lt_lowerBound_ofText_iff text boundary.1).mpr isLess)

/-- Rounding a byte down gives the last code point that starts no later. -/
theorem isGreatest_floorUnitAt (text : Text) (byte : Nat) :
    IsGreatest {index | text.IsBoundary index ∧ bytesBefore text index ≤ byte}
      ((ofText text).floorUnitAt byte) := by
  rw [floorUnitAt]
  split
  · next isZero =>
      refine ⟨⟨Text.isBoundary_zero text, Nat.zero_le _⟩, ?_⟩
      rintro later ⟨boundary, startsBefore⟩
      apply Nat.le_of_not_lt
      rw [← Utf8.bytesBefore_lt_iff (Text.isBoundary_zero text) boundary]
      omega
  · next notZero =>
      split
      · next isEnd =>
          refine ⟨⟨Text.isBoundary_length text, ?_⟩, fun later isEarlier => isEarlier.1.1⟩
          exact (bytesBefore_length text).trans_le isEnd
      · dsimp only
        split
        · next isEntry =>
            rcases isBoundary_lowerBound isEntry with ⟨boundary, isByte⟩
            refine ⟨⟨boundary, Nat.le_of_eq isByte⟩, ?_⟩
            rintro later ⟨boundary', startsBefore⟩
            apply Nat.le_of_not_lt
            rw [← Utf8.bytesBefore_lt_iff boundary boundary', isByte]
            exact Nat.not_lt_of_le startsBefore
        · next notEntry =>
            rw [firstOfEqual_offsets_ofText (Nat.sub_le_of_le_add (lowerBound_ofText_le text byte))]
            exact isGreatest_floorIndex_lowerBound (Nat.pos_of_ne_zero notZero) notEntry

/-- The offset of a boundary, rounded down, leads back to the boundary. -/
theorem floorUnitAt_bytesBefore {text : Text} {index : Nat} (boundary : text.IsBoundary index) :
    (ofText text).floorUnitAt (bytesBefore text index) = index := by
  apply IsGreatest.unique (isGreatest_floorUnitAt text _)
  refine ⟨⟨boundary, Nat.le_refl _⟩, ?_⟩
  rintro later ⟨boundary', startsBefore⟩
  apply Nat.le_of_not_lt
  rw [← Utf8.bytesBefore_lt_iff boundary boundary']
  exact Nat.not_lt_of_le startsBefore

/-! ## Numbers -/

/-- Whether the code point at a boundary starts at a byte; the end of the text counts as one. -/
def StartsAt (text : Text) (index : Nat) (byte : Int) : Prop :=
  text.IsBoundary index ∧ ∃ offset : Nat, (ofText text).byteAt index = .ok offset ∧ offset = byte

theorem startsAt_iff {byte : Int} :
    StartsAt text index byte ↔ text.IsBoundary index ∧ (bytesBefore text index : Int) = byte := by
  refine and_congr_right fun boundary => ?_
  rw [byteAt_ofText text boundary.1, Text.floorIndex_eq_self boundary]
  constructor
  · rintro ⟨_, isOffset, same⟩
    cases isOffset
    exact same
  · intro same
    exact ⟨_, rfl, same⟩

/-- Rounding an index up gives the first byte of a code point that starts no earlier. -/
theorem isLeast_bytesBefore_ceilIndex (inside : index ≤ text.length) :
    IsLeast {start : Int | ∃ later, index ≤ later ∧ StartsAt text later start}
      (bytesBefore text (text.ceilIndex index)) := by
  have atCeil := Text.isBoundary_ceilIndex inside
  simp only [startsAt_iff]
  constructor
  · exact ⟨_, Text.le_ceilIndex text index, atCeil, rfl⟩
  · rintro _ ⟨later, le, boundary, rfl⟩
    exact Int.ofNat_le.mpr (Utf8.bytesBefore_le atCeil (Text.ceilIndex_le boundary le))

/-- Rounding an integer down gives the last code point that starts no later. -/
theorem isGreatest_startsAt (text : Text) {byte : Int} (notNegative : 0 ≤ byte) :
    IsGreatest {index | ∃ start ≤ byte, StartsAt text index start}
      ((ofText text).floorUnitAt byte.toNat) := by
  have same : {index | ∃ start ≤ byte, StartsAt text index start} =
      {index | text.IsBoundary index ∧ bytesBefore text index ≤ byte.toNat} := by
    ext index
    simp only [Set.mem_ofPred_eq, startsAt_iff]
    constructor
    · rintro ⟨_, le, boundary, rfl⟩
      exact ⟨boundary, Int.toNat_le_toNat le⟩
    · rintro ⟨boundary, le⟩
      exact ⟨_, (Int.le_toNat notNegative).mp le, boundary, rfl⟩
  rw [same]
  exact isGreatest_floorUnitAt text byte.toNat

theorem byteToUnit_cases (coordinates : Coordinates) (number : Number) :
    (∃ index, coordinates.byteToUnit number = .ok index) ∨
      coordinates.byteToUnit number = .error (.byteInsidePoint number) := by
  unfold byteToUnit
  cases number.toIndex? coordinates.bytes.length with
  | none => exact .inr rfl
  | some offset =>
      cases isUnit : coordinates.unitAt? offset with
      | none => exact .inr (by simp only [isUnit])
      | some index => exact .inl ⟨index, by simp only [isUnit]⟩

theorem byteToUnit_eq_ok_iff_exists {number : Number} :
    (ofText text).byteToUnit number = .ok index ↔
      ∃ offset, number.toIndex? (Utf8.encode text).length = some offset ∧
        (ofText text).unitAt? offset = some index := by
  unfold byteToUnit
  rw [bytes_ofText]
  cases number.toIndex? (Utf8.encode text).length with
  | none => simp
  | some offset => cases isUnit : (ofText text).unitAt? offset <;> simp [isUnit]

/-- An integer is translated to the index at which a code point starts that takes it, and to
nothing else. -/
theorem byteToUnit_eq_ok_iff {number : Number} {byte : Int} (isByte : number.toInt? = some byte) :
    (ofText text).byteToUnit number = .ok index ↔ StartsAt text index byte := by
  simp only [byteToUnit_eq_ok_iff_exists, startsAt_iff, Number.toIndex?_eq_some_iff, isByte,
    Option.some.injEq]
  constructor
  · rintro ⟨offset, ⟨rfl, -⟩, isUnit⟩
    rcases unitAt?_eq_some_iff.mp isUnit with ⟨boundary, rfl⟩
    exact ⟨boundary, rfl⟩
  · rintro ⟨boundary, rfl⟩
    have inside : bytesBefore text index ≤ (Utf8.encode text).length := by
      rw [← bytesBefore_length]
      exact Utf8.bytesBefore_le boundary boundary.1
    exact ⟨_, ⟨rfl, inside⟩, unitAt?_bytesBefore boundary⟩

theorem byteToUnit_eq_error_iff {number : Number} {byte : Int}
    (isByte : number.toInt? = some byte) :
    (ofText text).byteToUnit number = .error (.byteInsidePoint number) ↔
      ¬∃ index, StartsAt text index byte := by
  simp only [← byteToUnit_eq_ok_iff isByte]
  rcases byteToUnit_cases (ofText text) number with ⟨index, isOk⟩ | isError
  · simp [isOk]
  · simp [isError]

theorem floorUnit_of_toInt? (coordinates : Coordinates) {number : Number} {byte : Int}
    (isByte : number.toInt? = some byte) :
    coordinates.floorUnit number = if byte < 0 then 0 else coordinates.floorUnitAt byte.toNat := by
  cases number with
  | nan => cases isByte
  | infinity negative => cases isByte
  | finite negative mantissa exponent =>
      have truncated : (Number.finite negative mantissa exponent).truncate? = some byte := by
        rw [Number.toInt?] at isByte
        exact (Option.ite_none_right_eq_some.mp isByte).2
      simp only [floorUnit, truncated]
      cases byte with
      | ofNat offset => rfl
      | negSucc below => exact (congrArg Nat.cast (if_pos (Int.negSucc_lt_zero below))).symm

/-- Translating an integer is exact: it leads to the index whose code point starts there, if there
is one.  Rounding it down leads to the last code point that starts no later, rounding an index up to
the first byte of a code point that starts no earlier, and only a boundary is led back to itself. -/
theorem translation_is_exact_and_rounds (text : Text) :
    (∀ (number : Number) (byte : Int), number.toInt? = some byte →
      (∀ index, (ofText text).byteToUnit number = .ok index ↔ StartsAt text index byte) ∧
      ((∃ fault, (ofText text).byteToUnit number = .error fault ∧ fault.kind = .range) ↔
        ¬∃ index, StartsAt text index byte) ∧
      (byte < 0 → (ofText text).floorUnit number = 0) ∧
      (0 ≤ byte → ∃ index : Nat, (ofText text).floorUnit number = index ∧
        IsGreatest {index | ∃ start ≤ byte, StartsAt text index start} index)) ∧
    ∀ (number : Number) (index : Nat), number.toInt? = some (index : Int) → index ≤ text.length →
      (∃ byte : Nat, (ofText text).ceilByte number = .ok byte ∧
        IsLeast {start : Int | ∃ later, index ≤ later ∧ StartsAt text later start} byte) ∧
      ∃ byte : Nat, (ofText text).unitToByte number = .ok byte ∧
        (ofText text).byteAt index = .ok byte ∧
        ∀ offset : Number, offset.toInt? = some (byte : Int) →
          ((ofText text).floorUnit offset = index ↔ text.IsBoundary index) := by
  constructor
  · intro number byte isByte
    refine ⟨fun index => byteToUnit_eq_ok_iff isByte, ?_, fun isNegative => ?_, fun notNegative => ?_⟩
    · rw [← byteToUnit_eq_error_iff isByte]
      constructor
      · rintro ⟨fault, isError, -⟩
        rcases byteToUnit_cases (ofText text) number with ⟨index, isOk⟩ | isError'
        · rw [isOk] at isError
          contradiction
        · exact isError'
      · intro isError
        exact ⟨_, isError, rfl⟩
    · rw [floorUnit_of_toInt? _ isByte, if_pos isNegative]
      rfl
    · rw [floorUnit_of_toInt? _ isByte, if_neg (Int.not_lt.mpr notNegative)]
      exact ⟨_, rfl, isGreatest_startsAt text notNegative⟩
  · intro number index isIndex inside
    refine ⟨⟨_, ?_, isLeast_bytesBefore_ceilIndex inside⟩, _, ?_, byteAt_ofText text inside,
      fun offset isOffset => ?_⟩
    · rw [ceilByte_of_toInt? isIndex inside, ceilByteAt_ofText text inside]
    · rw [unitToByte_of_toInt? isIndex inside, byteAt_ofText text inside]
    · rw [floorUnit_of_toInt? _ isOffset, if_neg (Int.not_lt.mpr (Int.natCast_nonneg _)),
        Int.toNat_natCast, floorUnitAt_bytesBefore (Text.isBoundary_floorIndex inside),
        Int.natCast_inj]
      constructor
      · intro isFloor
        rw [← isFloor]
        exact Text.isBoundary_floorIndex inside
      · exact Text.floorIndex_eq_self

/-- Inside a pair no code point starts, so the third byte is refused, and rounded down to the pair. -/
theorem translation_inside_pair :
    (Number.ofNat 3).toInt? = some 3 ∧
    (¬∃ index, StartsAt [0x61, 0xD83D, 0xDE00] index 3) ∧
    IsGreatest {index | ∃ start ≤ 3, StartsAt [0x61, 0xD83D, 0xDE00] index start} 1 ∧
    (Number.ofNat 2).toInt? = some (2 : Nat) ∧
    IsLeast {start : Int | ∃ later, 2 ≤ later ∧ StartsAt [0x61, 0xD83D, 0xDE00] later start} 5 := by
  have isByte : (Number.ofNat 3).toInt? = some 3 := by decide
  have isIndex : (Number.ofNat 2).toInt? = some (2 : Nat) := by decide
  rcases translation_is_exact_and_rounds [0x61, 0xD83D, 0xDE00] with ⟨ofByte, ofIndex⟩
  rcases ofByte _ 3 isByte with ⟨-, isRefused, -, isRounded⟩
  rcases isRounded (by decide) with ⟨index, isUnit, isGreatest⟩
  rcases ofIndex _ 2 isIndex (by decide) with ⟨⟨byte, isCeil, isLeast⟩, -⟩
  have isOne : (ofText [0x61, 0xD83D, 0xDE00]).floorUnit (.ofNat 3) = (1 : Nat) := by
    decide +kernel
  have notOk : ((ofText [0x61, 0xD83D, 0xDE00]).byteToUnit (.ofNat 3)).isOk = false := by
    decide +kernel
  have isFive : (ofText [0x61, 0xD83D, 0xDE00]).ceilByte (.ofNat 2) = .ok 5 := rfl
  rw [isOne, Int.natCast_inj] at isUnit
  rw [isFive, Except.ok.injEq] at isCeil
  subst isUnit isCeil
  have notFound := isRefused.mp <| by
    rcases byteToUnit_cases (ofText [0x61, 0xD83D, 0xDE00]) (.ofNat 3) with ⟨index, isOk⟩ | isError
    · rw [isOk] at notOk
      contradiction
    · exact ⟨_, isError, rfl⟩
  exact ⟨isByte, notFound, isGreatest, isIndex, isLeast⟩

end Coordinates

end RegexMatching
