import RegexMatching.Text

/-!
# Code point boundaries of text

An index of a text is a code point boundary unless it lies between the two halves
of a pair.  Whether it does is a matter of two neighbouring units only, so a text
can be cut at a boundary and both parts read on their own.
-/

namespace RegexMatching

/-! ## Surrogates -/

theorem CodeUnit.isHighSurrogate_iff (unit : CodeUnit) :
    unit.isHighSurrogate = true ↔ 0xD800 ≤ unit.toNat ∧ unit.toNat ≤ 0xDBFF := by
  simp only [isHighSurrogate, Bool.and_eq_true, decide_eq_true_eq, UInt16.le_iff_toNat_le]
  exact Iff.rfl

theorem CodeUnit.isLowSurrogate_iff (unit : CodeUnit) :
    unit.isLowSurrogate = true ↔ 0xDC00 ≤ unit.toNat ∧ unit.toNat ≤ 0xDFFF := by
  simp only [isLowSurrogate, Bool.and_eq_true, decide_eq_true_eq, UInt16.le_iff_toNat_le]
  exact Iff.rfl

/-- A low surrogate opens no pair. -/
theorem CodeUnit.isHighSurrogate_eq_false_of_isLowSurrogate {unit : CodeUnit}
    (low : unit.isLowSurrogate = true) : unit.isHighSurrogate = false := by
  rw [isLowSurrogate_iff] at low
  rw [Bool.eq_false_iff, ne_eq, isHighSurrogate_iff]
  omega

theorem CodePoint.ofPair_le_last {high low : Nat} (isHigh : 0xD800 ≤ high ∧ high ≤ 0xDBFF)
    (isLow : 0xDC00 ≤ low ∧ low ≤ 0xDFFF) : ofPair high low ≤ last := by
  unfold ofPair last
  omega

namespace Text

/-! ## Pairs -/

theorem isPairAt_iff (text : Text) (index : Nat) :
    text.isPairAt index = true ↔
      ∃ high low, text[index]? = some high ∧ text[index + 1]? = some low ∧
        high.isHighSurrogate = true ∧ low.isLowSurrogate = true := by
  have first : (text.drop index)[0]? = text[index]? := by
    rw [List.getElem?_drop, Nat.add_zero]
  have second : (text.drop index)[1]? = text[index + 1]? := by
    rw [List.getElem?_drop]
  rw [← first, ← second, isPairAt]
  cases text.drop index with
  | nil => simp [startsWithPair]
  | cons high rest =>
      cases rest with
      | nil => simp [startsWithPair]
      | cons low rest => simp [startsWithPair]

/-! ## Boundaries -/

/-- Whether an index lies between the two halves of a pair. -/
def splitsPair (text : Text) (index : Nat) : Bool :=
  0 < index && text.isPairAt (index - 1)

/-- An index of the text, or its end, that splits no pair. -/
def IsBoundary (text : Text) (index : Nat) : Prop :=
  index ≤ text.length ∧ text.splitsPair index = false

instance (text : Text) (index : Nat) : Decidable (text.IsBoundary index) :=
  inferInstanceAs (Decidable (_ ∧ _))

/-- The boundary at or before an index. -/
def floorIndex (text : Text) (index : Nat) : Nat :=
  if text.splitsPair index then index - 1 else index

/-- The boundary at or behind an index. -/
def ceilIndex (text : Text) (index : Nat) : Nat :=
  if text.splitsPair index then index + 1 else index

@[simp]
theorem splitsPair_zero (text : Text) : text.splitsPair 0 = false :=
  rfl

@[simp]
theorem splitsPair_succ (text : Text) (index : Nat) :
    text.splitsPair (index + 1) = text.isPairAt index := by
  simp [splitsPair]

theorem splitsPair_cons_succ (unit : CodeUnit) (text : Text) {index : Nat}
    (positive : 0 < index) :
    splitsPair (unit :: text) (index + 1) = text.splitsPair index := by
  rcases Nat.exists_eq_succ_of_ne_zero (Nat.ne_of_gt positive) with ⟨index, rfl⟩
  rw [Nat.succ_eq_add_one, splitsPair_succ, splitsPair_succ]
  rfl

theorem isBoundary_zero (text : Text) : text.IsBoundary 0 :=
  ⟨Nat.zero_le _, rfl⟩

/-- No pair reaches over the end of the text. -/
theorem isBoundary_length (text : Text) : text.IsBoundary text.length := by
  constructor
  · exact Nat.le_refl _
  · cases length : text.length with
    | zero => rfl
    | succ index =>
        rw [splitsPair_succ, Bool.eq_false_iff]
        intro pair
        rcases (isPairAt_iff text index).mp pair with ⟨_, low, _, lowAt, _⟩
        rw [List.getElem?_eq_none (by omega)] at lowAt
        contradiction

/-- Behind the first half of a pair comes its second half, which opens no other
pair. -/
theorem isPairAt_succ_of_isPairAt {text : Text} {index : Nat}
    (pair : text.isPairAt index = true) : text.isPairAt (index + 1) = false := by
  rcases (isPairAt_iff text index).mp pair with ⟨_, low, _, lowAt, _, isLow⟩
  rw [Bool.eq_false_iff]
  intro next
  rcases (isPairAt_iff text (index + 1)).mp next with ⟨high, _, highAt, _, isHigh, _⟩
  rw [lowAt, Option.some.injEq] at highAt
  subst highAt
  rw [CodeUnit.isHighSurrogate_eq_false_of_isLowSurrogate isLow] at isHigh
  contradiction

theorem length_of_isPairAt {text : Text} {index : Nat}
    (pair : text.isPairAt index = true) : index + 1 < text.length := by
  rcases (isPairAt_iff text index).mp pair with ⟨_, low, _, lowAt, _⟩
  exact (List.getElem?_eq_some_iff.mp lowAt).1

/-- An index between the halves of a pair, by the place of the pair. -/
theorem splitsPair_iff (text : Text) (index : Nat) :
    text.splitsPair index = true ↔ ∃ first, index = first + 1 ∧ text.isPairAt first = true := by
  cases index with
  | zero => simp
  | succ first => simp

/-- An index is rounded down by leaving a pair that it splits. -/
theorem floorIndex_cases (text : Text) (index : Nat) :
    text.floorIndex index = index ∨
      index = text.floorIndex index + 1 ∧ text.isPairAt (text.floorIndex index) = true := by
  unfold floorIndex
  split
  · next splits =>
      rcases (splitsPair_iff text index).mp splits with ⟨first, rfl, pair⟩
      exact .inr ⟨rfl, pair⟩
  · exact .inl rfl

theorem floorIndex_le (text : Text) (index : Nat) : text.floorIndex index ≤ index := by
  unfold floorIndex
  split <;> omega

theorem floorIndex_le_floorIndex (text : Text) {first last : Nat} (le : first ≤ last) :
    text.floorIndex first ≤ text.floorIndex last := by
  rcases Nat.eq_or_lt_of_le le with rfl | less
  · exact Nat.le_refl _
  · have first_le := floorIndex_le text first
    rcases floorIndex_cases text last with same | ⟨same, _⟩
    · omega
    · omega

theorem le_ceilIndex (text : Text) (index : Nat) : index ≤ text.ceilIndex index := by
  unfold ceilIndex
  split <;> omega

theorem isBoundary_floorIndex {text : Text} {index : Nat} (le : index ≤ text.length) :
    text.IsBoundary (text.floorIndex index) := by
  constructor
  · exact Nat.le_trans (floorIndex_le text index) le
  · unfold floorIndex
    split
    · next splits =>
        rcases (splitsPair_iff text index).mp splits with ⟨first, rfl, pair⟩
        rw [Nat.add_sub_cancel, Bool.eq_false_iff]
        intro splitsBefore
        rcases (splitsPair_iff text first).mp splitsBefore with ⟨before, rfl, pairBefore⟩
        rw [isPairAt_succ_of_isPairAt pairBefore] at pair
        contradiction
    · next whole => exact Bool.eq_false_iff.mpr whole

theorem isBoundary_ceilIndex {text : Text} {index : Nat} (le : index ≤ text.length) :
    text.IsBoundary (text.ceilIndex index) := by
  unfold ceilIndex
  split
  · next splits =>
      rcases (splitsPair_iff text index).mp splits with ⟨first, rfl, pair⟩
      have inside := length_of_isPairAt pair
      exact ⟨by omega, by rw [splitsPair_succ, isPairAt_succ_of_isPairAt pair]⟩
  · next whole => exact ⟨le, Bool.eq_false_iff.mpr whole⟩

theorem ceilIndex_le {text : Text} {index later : Nat} (boundary : text.IsBoundary later)
    (le : index ≤ later) : text.ceilIndex index ≤ later := by
  unfold ceilIndex
  split
  · next splits =>
      refine Nat.lt_of_le_of_ne le ?_
      rintro rfl
      rw [boundary.2] at splits
      contradiction
  · exact le

theorem ceilIndex_eq_self {text : Text} {index : Nat} (boundary : text.IsBoundary index) :
    text.ceilIndex index = index := by
  rw [ceilIndex, boundary.2]
  rfl

theorem floorIndex_eq_self {text : Text} {index : Nat} (boundary : text.IsBoundary index) :
    text.floorIndex index = index := by
  rw [floorIndex, boundary.2]
  rfl

theorem IsBoundary.max {text : Text} {first second : Nat} (atFirst : text.IsBoundary first)
    (atSecond : text.IsBoundary second) : text.IsBoundary (max first second) := by
  rcases Nat.le_total first second with le | ge
  · rwa [Nat.max_eq_right le]
  · rwa [Nat.max_eq_left ge]

/-! ## Slices -/

/-- The text between two indices. -/
def between (text : Text) (first last : Nat) : Text :=
  (text.take last).drop first

@[simp]
theorem length_between (text : Text) (first last : Nat) :
    (text.between first last).length = min last text.length - first := by
  simp [between]

theorem slice_eq_between (text : Text) {first last : Nat} (firstInside : first ≤ text.length)
    (lastInside : last ≤ text.length) : text.slice first last = text.between first last := by
  have clamp : ∀ index : Nat, index ≤ text.length → clampOffset text.length index = index := by
    intro index inside
    rw [clampOffset, if_neg (Int.not_lt.mpr (Int.natCast_nonneg index)), Int.toNat_natCast,
      Nat.min_eq_left inside]
  rw [slice, clamp first firstInside, clamp last lastInside]
  rfl

theorem getElem?_between (text : Text) {first last index : Nat} (inside : first + index < last) :
    (text.between first last)[index]? = text[first + index]? := by
  rw [between, List.getElem?_drop, List.getElem?_take_of_lt inside]

/-- A pair in a slice is a pair of the text that the slice does not cut. -/
theorem isPairAt_between (text : Text) (first last index : Nat) :
    (text.between first last).isPairAt index = true ↔
      text.isPairAt (first + index) = true ∧ first + index + 1 < last := by
  constructor
  · intro pair
    have inside := length_of_isPairAt pair
    rw [length_between] at inside
    have fits : first + (index + 1) < last := by omega
    rcases (isPairAt_iff _ _).mp pair with ⟨high, low, highAt, lowAt, surrogates⟩
    rw [getElem?_between text (by omega)] at highAt lowAt
    exact ⟨(isPairAt_iff _ _).mpr ⟨high, low, highAt, lowAt, surrogates⟩, fits⟩
  · rintro ⟨pair, fits⟩
    rcases (isPairAt_iff _ _).mp pair with ⟨high, low, highAt, lowAt, surrogates⟩
    refine (isPairAt_iff _ _).mpr ⟨high, low, ?_, ?_, surrogates⟩
    · rw [getElem?_between text (by omega), highAt]
    · rw [getElem?_between text (by omega)]
      exact lowAt

/-- The boundaries of a slice between two boundaries are those of the text. -/
theorem isBoundary_between_iff {text : Text} {first last index : Nat}
    (atFirst : text.IsBoundary first) (atLast : text.IsBoundary last)
    (le : first + index ≤ last) :
    (text.between first last).IsBoundary index ↔ text.IsBoundary (first + index) := by
  have lastInside := atLast.1
  have inSlice : index ≤ (text.between first last).length := by
    rw [length_between]
    omega
  have inText : first + index ≤ text.length := by omega
  have sameSplit :
      (text.between first last).splitsPair index = text.splitsPair (first + index) := by
    cases index with
    | zero => rw [splitsPair_zero, Nat.add_zero, atFirst.2]
    | succ index =>
        rw [splitsPair_succ, ← Nat.add_assoc, splitsPair_succ, Bool.eq_iff_iff,
          isPairAt_between]
        constructor
        · exact And.left
        · intro pair
          refine ⟨pair, Nat.lt_of_le_of_ne (by omega) ?_⟩
          rintro rfl
          rw [IsBoundary, splitsPair_succ, pair] at atLast
          exact Bool.noConfusion atLast.2
  constructor
  · rintro ⟨_, whole⟩
    rw [sameSplit] at whole
    exact ⟨inText, whole⟩
  · rintro ⟨_, whole⟩
    rw [← sameSplit] at whole
    exact ⟨inSlice, whole⟩

/-! ## Reading in parts -/

theorem points_of_single {unit : CodeUnit} {rest : Text}
    (isSingle : startsWithPair (unit :: rest) = false) :
    points (unit :: rest) = unit.toNat :: points rest := by
  cases rest with
  | nil => rfl
  | cons low rest => exact if_neg (Bool.eq_false_iff.mp isSingle)

theorem points_of_pair {high low : CodeUnit} {rest : Text}
    (isPair : startsWithPair (high :: low :: rest) = true) :
    points (high :: low :: rest) = CodePoint.ofPair high.toNat low.toNat :: points rest :=
  if_pos isPair

theorem points_ne_nil (unit : CodeUnit) (rest : Text) : points (unit :: rest) ≠ [] := by
  cases isPair : startsWithPair (unit :: rest) with
  | false =>
      rw [points_of_single isPair]
      exact List.cons_ne_nil _ _
  | true =>
      cases rest with
      | nil => cases isPair
      | cons low rest =>
          rw [points_of_pair isPair]
          exact List.cons_ne_nil _ _

/-- Text that is cut at a boundary is read part by part. -/
theorem points_append (before after : Text)
    (whole : (before ++ after).splitsPair before.length = false) :
    points (before ++ after) = points before ++ points after := by
  fun_induction points before with
  | case1 => rfl
  | case2 unit =>
      cases after with
      | nil => rfl
      | cons low rest =>
          have noPair : (unit.isHighSurrogate && low.isLowSurrogate) = false := whole
          simp [points, noPair]
  | case3 high low rest pair ih =>
      have wholeRest : splitsPair (rest ++ after) rest.length = false := by
        cases rest with
        | nil => rfl
        | cons unit rest => exact whole
      simp only [List.cons_append, points, pair, if_true]
      rw [ih wholeRest]
  | case4 high low rest noPair ih =>
      have wholeRest : splitsPair (low :: rest ++ after) (low :: rest).length = false := by
        have shifted := splitsPair_cons_succ high (low :: rest ++ after)
          (show 0 < (low :: rest).length from Nat.succ_pos _)
        exact shifted.symm.trans whole
      have noPair := Bool.eq_false_iff.mpr noPair
      simp only [List.cons_append, points, noPair, Bool.false_eq_true, if_false,
        List.cons.injEq, true_and] at ih ⊢
      exact ih wholeRest

/-- Every code point of a text is one. -/
theorem le_last_of_mem_points {text : Text} {point : Nat} (mem : point ∈ text.points) :
    point ≤ CodePoint.last := by
  fun_induction points text with
  | case1 => contradiction
  | case2 unit =>
      rw [List.mem_singleton] at mem
      have bound := unit.toNat_lt
      rw [mem, CodePoint.last]
      omega
  | case3 high low rest pair ih =>
      rcases List.mem_cons.mp mem with equal | mem
      · rw [Bool.and_eq_true, CodeUnit.isHighSurrogate_iff, CodeUnit.isLowSurrogate_iff] at pair
        exact equal ▸ CodePoint.ofPair_le_last pair.1 pair.2
      · exact ih mem
  | case4 high low rest noPair ih =>
      rcases List.mem_cons.mp mem with rfl | mem
      · have bound := high.toNat_lt
        rw [CodePoint.last]
        omega
      · exact ih mem

end Text

/-! ## Writing code points -/

theorem CodePoint.units_toNat (unit : CodeUnit) : CodePoint.units unit.toNat = [unit] := by
  rw [units, if_pos unit.toNat_lt, Nat.toUInt16, UInt16.ofNat_toNat]

theorem CodePoint.units_ofPair {high low : CodeUnit} (isHigh : high.isHighSurrogate = true)
    (isLow : low.isLowSurrogate = true) :
    CodePoint.units (CodePoint.ofPair high.toNat low.toNat) = [high, low] := by
  rw [CodeUnit.isHighSurrogate_iff] at isHigh
  rw [CodeUnit.isLowSurrogate_iff] at isLow
  have first : 0xD800 + (ofPair high.toNat low.toNat - 0x10000) / 0x400 = high.toNat := by
    unfold ofPair
    omega
  have second : 0xDC00 + (ofPair high.toNat low.toNat - 0x10000) % 0x400 = low.toNat := by
    unfold ofPair
    omega
  rw [units, if_neg (by unfold ofPair; omega), first, second, Nat.toUInt16,
    UInt16.ofNat_toNat, UInt16.ofNat_toNat]

/-- The units of a code point are the code point itself, or the halves of its pair. -/
theorem CodePoint.toNat_units {point : Nat} (le : point ≤ CodePoint.last) :
    (CodePoint.units point).map UInt16.toNat =
      if point < 0x10000 then [point]
      else [0xD800 + (point - 0x10000) / 0x400, 0xDC00 + (point - 0x10000) % 0x400] := by
  unfold CodePoint.last at le
  have toNat (value : Nat) (small : value < 0x10000) : value.toUInt16.toNat = value :=
    Nat.mod_eq_of_lt small
  rw [units]
  split
  · next small => rw [List.map_singleton, toNat point small]
  · rw [List.map_cons, List.map_singleton, toNat _ (by omega), toNat _ (by omega)]

namespace Text

/-- The code points of a text are written as the text. -/
theorem ofPoints_points (text : Text) : ofPoints text.points = text := by
  fun_induction points text with
  | case1 => rfl
  | case2 unit => rw [ofPoints, List.flatMap_singleton, CodePoint.units_toNat]
  | case3 high low rest isPair ih =>
      rw [Bool.and_eq_true] at isPair
      rw [ofPoints, List.flatMap_cons, CodePoint.units_ofPair isPair.1 isPair.2]
      exact congrArg (fun rest => high :: low :: rest) ih
  | case4 high low rest _ ih =>
      rw [ofPoints, List.flatMap_cons, CodePoint.units_toNat]
      exact congrArg (high :: ·) ih

end Text

end RegexMatching
