import RegexMatching.Proofs.Boundary
import RegexMatching.Text.Utf8

/-!
# Code point boundaries of UTF-8

In well-formed bytes a code point starts wherever a byte does not continue one.
The boundaries of an encoded text are exactly the places where the boundaries of
the text come to lie, and the bytes between two of them are the encoding of the
text between.
-/

namespace RegexMatching.Utf8

/-! ## Leading and continuing bytes -/

/-- Whether a byte continues a code point. -/
def isContinuation (byte : UInt8) : Bool :=
  0x80 ≤ byte && byte < 0xC0

/-- An offset into bytes, or their end, at which no code point goes on. -/
def IsBoundary (bytes : Bytes) (offset : Nat) : Prop :=
  offset ≤ bytes.length ∧ (bytes[offset]?.map isContinuation).getD false = false

instance (bytes : Bytes) (offset : Nat) : Decidable (IsBoundary bytes offset) :=
  inferInstanceAs (Decidable (_ ∧ _))

theorem isContinuation_toUInt8 (value : Nat) :
    isContinuation value.toUInt8 = true ↔ 0x80 ≤ value % 256 ∧ value % 256 < 0xC0 := by
  simp only [isContinuation, Bool.and_eq_true, decide_eq_true_eq, UInt8.le_iff_toNat_le,
    UInt8.lt_iff_toNat_lt]
  exact Iff.rfl

/-- A code point is encoded as one byte that leads and bytes that continue. -/
theorem exists_encodeScalar {point : Nat} (le : point ≤ CodePoint.last) :
    ∃ lead tail, encodeScalar point = lead :: tail ∧ isContinuation lead = false ∧
      ∀ byte ∈ tail, isContinuation byte = true := by
  unfold CodePoint.last at le
  unfold encodeScalar
  split
  · refine ⟨_, _, rfl, ?_, ?_⟩
    · rw [Bool.eq_false_iff, ne_eq, isContinuation_toUInt8]
      omega
    · simp
  · split
    · refine ⟨_, _, rfl, ?_, ?_⟩
      · rw [Bool.eq_false_iff, ne_eq, isContinuation_toUInt8]
        omega
      · simp only [List.forall_mem_cons, isContinuation_toUInt8]
        exact ⟨by omega, by simp⟩
    · split
      · refine ⟨_, _, rfl, ?_, ?_⟩
        · rw [Bool.eq_false_iff, ne_eq, isContinuation_toUInt8]
          omega
        · simp only [List.forall_mem_cons, isContinuation_toUInt8]
          exact ⟨by omega, by omega, by simp⟩
      · refine ⟨_, _, rfl, ?_, ?_⟩
        · rw [Bool.eq_false_iff, ne_eq, isContinuation_toUInt8]
          omega
        · simp only [List.forall_mem_cons, isContinuation_toUInt8]
          exact ⟨by omega, by omega, by omega, by simp⟩

theorem scalarOf_le_last {point : Nat} (le : point ≤ CodePoint.last) :
    scalarOf point ≤ CodePoint.last := by
  unfold scalarOf
  split
  · decide
  · exact le

theorem exists_encodePoint {point : Nat} (le : point ≤ CodePoint.last) :
    ∃ lead tail, encodePoint point = lead :: tail ∧ isContinuation lead = false ∧
      ∀ byte ∈ tail, isContinuation byte = true :=
  exists_encodeScalar (scalarOf_le_last le)

/-! ## Encoding in parts -/

theorem encode_append (before after : Text)
    (whole : (before ++ after : Text).splitsPair before.length = false) :
    encode (before ++ after) = encode before ++ encode after := by
  rw [encode, Text.points_append before after whole, List.flatMap_append]
  rfl

/-- A text that is not empty has a first code point. -/
theorem exists_points_cons {text : Text} (notEmpty : text ≠ []) :
    ∃ point rest, text.points = point :: rest := by
  fun_cases Text.points text with
  | case1 => contradiction
  | case2 unit => exact ⟨_, _, rfl⟩
  | case3 high low rest pair => exact ⟨_, _, rfl⟩
  | case4 high low rest noPair => exact ⟨_, _, rfl⟩

/-- The bytes of a text that is not empty start with a byte that leads. -/
theorem exists_encode_cons {text : Text} (notEmpty : text ≠ []) :
    ∃ lead rest, encode text = lead :: rest ∧ isContinuation lead = false := by
  rcases exists_points_cons notEmpty with ⟨point, rest, points⟩
  have le : point ≤ CodePoint.last :=
    Text.le_last_of_mem_points (points ▸ List.mem_cons_self)
  rcases exists_encodePoint le with ⟨lead, tail, bytes, isLead, _⟩
  refine ⟨lead, tail ++ rest.flatMap encodePoint, ?_, isLead⟩
  rw [encode, points, List.flatMap_cons, bytes]
  rfl

theorem length_encode_pos {text : Text} (notEmpty : text ≠ []) : 0 < (encode text).length := by
  rcases exists_encode_cons notEmpty with ⟨lead, rest, bytes, _⟩
  rw [bytes]
  exact Nat.succ_pos _

/-! ## From indices to offsets -/

/-- How many bytes the units before an index take. -/
def bytesBefore (text : Text) (index : Nat) : Nat :=
  (encode (text.take index)).length

/-- Text up to an index is cut at a boundary before that index. -/
theorem take_eq_append {text : Text} {first last : Nat} (le : first ≤ last) :
    text.take last = text.take first ++ text.between first last := by
  have parts := List.take_append_drop first (text.take last)
  rw [List.take_take, Nat.min_eq_left le] at parts
  exact parts.symm

theorem encode_take {text : Text} {first last : Nat} (boundary : text.IsBoundary first)
    (le : first ≤ last) :
    encode (text.take last) = encode (text.take first) ++ encode (text.between first last) := by
  have length : (text.take first).length = first :=
    List.length_take_of_le boundary.1
  rw [take_eq_append le, encode_append]
  rw [← take_eq_append le, length, Bool.eq_false_iff]
  intro splits
  rcases (Text.splitsPair_iff _ _).mp splits with ⟨index, rfl, pair⟩
  rw [← List.drop_zero (l := text.take last)] at pair
  have inText := ((Text.isPairAt_between text 0 last index).mp pair).1
  rw [Text.IsBoundary, Text.splitsPair_succ, ← Nat.zero_add index, inText] at boundary
  exact Bool.noConfusion boundary.2

/-- The bytes before an index of a slice, counted from the start of the text. -/
theorem bytesBefore_add {text : Text} {first last index : Nat} (boundary : text.IsBoundary first)
    (le : first + index ≤ last) :
    bytesBefore text (first + index) =
      bytesBefore text first + bytesBefore (text.between first last) index := by
  have slice : (text.between first last).take index = text.between first (first + index) := by
    rw [Text.between, Text.between, List.take_drop, List.take_take, Nat.min_eq_left le]
  rw [bytesBefore, encode_take boundary (Nat.le_add_right first index), List.length_append,
    bytesBefore, bytesBefore, slice]

theorem bytesBefore_le {text : Text} {first last : Nat} (boundary : text.IsBoundary first)
    (le : first ≤ last) : bytesBefore text first ≤ bytesBefore text last := by
  rw [bytesBefore, bytesBefore, encode_take boundary le, List.length_append]
  exact Nat.le_add_right _ _

theorem bytesBefore_lt {text : Text} {first last : Nat} (boundary : text.IsBoundary first)
    (less : first < last) (inside : last ≤ text.length) :
    bytesBefore text first < bytesBefore text last := by
  have notEmpty : text.between first last ≠ [] := by
    rw [← List.length_pos_iff, Text.length_between]
    omega
  have positive := length_encode_pos notEmpty
  rw [bytesBefore, bytesBefore, encode_take boundary (Nat.le_of_lt less), List.length_append]
  omega

/-- Boundaries lie in the order of their offsets. -/
theorem bytesBefore_lt_iff {text : Text} {first last : Nat} (atFirst : text.IsBoundary first)
    (atLast : text.IsBoundary last) :
    bytesBefore text first < bytesBefore text last ↔ first < last := by
  constructor
  · intro less
    apply Nat.lt_of_not_le
    intro ge
    have contrary := bytesBefore_le atLast ge
    omega
  · intro less
    exact bytesBefore_lt atFirst less atLast.1

theorem max_bytesBefore {text : Text} {first second : Nat} (atFirst : text.IsBoundary first)
    (atSecond : text.IsBoundary second) :
    max (bytesBefore text first) (bytesBefore text second) =
      bytesBefore text (max first second) := by
  rcases Nat.le_total first second with le | ge
  · rw [Nat.max_eq_right le, Nat.max_eq_right (bytesBefore_le atFirst le)]
  · rw [Nat.max_eq_left ge, Nat.max_eq_left (bytesBefore_le atSecond ge)]

/-- The bytes between the offsets of two boundaries encode the text between. -/
theorem encode_between {text : Text} {first last : Nat} (atFirst : text.IsBoundary first)
    (atLast : text.IsBoundary last) :
    ((encode text).drop (bytesBefore text first)).take
        (bytesBefore text last - bytesBefore text first) =
      encode (text.between first last) := by
  rcases Nat.le_total first last with le | ge
  · have whole : encode text =
        encode (text.take last) ++ encode (text.between last text.length) := by
      rw [← encode_take atLast atLast.1, List.take_length]
    have front := encode_take atFirst le
    have length := congrArg List.length front
    rw [List.length_append] at length
    rw [whole, front, List.append_assoc, bytesBefore, bytesBefore, List.drop_left, length,
      Nat.add_sub_cancel_left, List.take_left]
  · have none : bytesBefore text last - bytesBefore text first = 0 :=
      Nat.sub_eq_zero_of_le (bytesBefore_le atLast ge)
    have empty : text.between first last = [] := by
      rw [← List.length_eq_zero_iff, Text.length_between]
      omega
    rw [none, empty]
    rfl

/-! ## Boundaries in bytes -/

/-- A boundary of the text is one of its bytes. -/
theorem isBoundary_bytesBefore {text : Text} {index : Nat} (boundary : text.IsBoundary index) :
    IsBoundary (encode text) (bytesBefore text index) := by
  have whole : encode text =
      encode (text.take index) ++ encode (text.between index text.length) := by
    rw [← encode_take boundary boundary.1, List.take_length]
  constructor
  · rw [whole, List.length_append]
    exact Nat.le_add_right _ _
  · rw [whole, bytesBefore, List.getElem?_append_right (Nat.le_refl _), Nat.sub_self]
    by_cases empty : text.between index text.length = []
    · rw [empty]
      rfl
    · rcases exists_encode_cons empty with ⟨lead, rest, bytes, isLead⟩
      rw [bytes]
      exact isLead

/-- Inside the bytes of a code point there is no boundary. -/
theorem not_isBoundary_of_inside {point offset : Nat} (le : point ≤ CodePoint.last)
    (rest : Bytes) (positive : 0 < offset) (inside : offset < width point) :
    ¬IsBoundary (encodePoint point ++ rest) offset := by
  rintro ⟨_, notContinued⟩
  rw [← length_encodePoint] at inside
  rcases exists_encodePoint le with ⟨lead, tail, bytes, _, continues⟩
  rw [List.getElem?_append_left inside, List.getElem?_eq_getElem inside] at notContinued
  rcases Nat.exists_eq_succ_of_ne_zero (Nat.ne_of_gt positive) with ⟨offset, rfl⟩
  simp only [bytes, List.getElem_cons_succ, Option.map_some, Option.getD_some] at notContinued
  rw [continues _ (List.getElem_mem _)] at notContinued
  contradiction

/-- Behind the first code point, boundaries are those of the rest. -/
theorem isBoundary_append_iff {point offset : Nat} (rest : Bytes) (le : width point ≤ offset) :
    IsBoundary (encodePoint point ++ rest) offset ↔ IsBoundary rest (offset - width point) := by
  have length := length_encodePoint point
  rw [← length] at le
  rw [IsBoundary, IsBoundary, List.length_append, List.getElem?_append_right le, length]
  exact and_congr (by omega) Iff.rfl

/-- The units up to the first boundary behind the start are one code point. -/
theorem exists_points_take_ceilIndex {text : Text} (notEmpty : text ≠ []) :
    ∃ point, Text.points (text.take (text.ceilIndex 1)) = [point] := by
  match text, notEmpty with
  | [unit], _ => exact ⟨unit.toNat, rfl⟩
  | high :: low :: rest, _ =>
      by_cases pair : (high.isHighSurrogate && low.isLowSurrogate) = true
      · have splits : Text.splitsPair (high :: low :: rest) 1 = true := pair
        refine ⟨CodePoint.ofPair high.toNat low.toNat, ?_⟩
        rw [Text.ceilIndex, splits]
        simp [Text.points, pair]
      · have whole : Text.splitsPair (high :: low :: rest) 1 = false :=
          Bool.eq_false_iff.mpr pair
        refine ⟨high.toNat, ?_⟩
        rw [Text.ceilIndex, whole]
        rfl

/-- Every boundary of the bytes is one of the text. -/
theorem exists_index_of_isBoundary {text : Text} {offset : Nat}
    (boundary : IsBoundary (encode text) offset) :
    ∃ index, text.IsBoundary index ∧ bytesBefore text index = offset := by
  induction length : text.length using Nat.strongRecOn generalizing text offset with
  | ind size ih =>
      by_cases atStart : offset = 0
      · exact ⟨0, Text.isBoundary_zero text, atStart.symm⟩
      have notEmpty : text ≠ [] := by
        rintro rfl
        exact atStart (Nat.le_zero.mp boundary.1)
      have positive : 1 ≤ text.length := List.length_pos_iff.mpr notEmpty
      have atFirst := Text.isBoundary_ceilIndex positive
      have leFirst := Text.le_ceilIndex text 1
      rcases exists_points_take_ceilIndex notEmpty with ⟨point, points⟩
      have front : encode (text.take (text.ceilIndex 1)) = encodePoint point := by
        rw [encode, points, List.flatMap_singleton]
      have pointLe : point ≤ CodePoint.last :=
        Text.le_last_of_mem_points (points ▸ List.mem_singleton_self point)
      have whole : encode text =
          encodePoint point ++ encode (text.between (text.ceilIndex 1) text.length) := by
        rw [← front, ← encode_take atFirst atFirst.1, List.take_length]
      rw [whole] at boundary
      -- Inside the first code point there is no boundary, so this one is a boundary of the rest.
      have behind : width point ≤ offset := by
        apply Nat.le_of_not_lt
        intro inside
        exact not_isBoundary_of_inside pointLe _ (Nat.pos_of_ne_zero atStart) inside boundary
      rw [isBoundary_append_iff _ behind] at boundary
      have shorter : (text.between (text.ceilIndex 1) text.length).length < size := by
        rw [Text.length_between]
        omega
      rcases ih _ shorter boundary rfl with ⟨index, isBoundary, offsetEq⟩
      have inside : text.ceilIndex 1 + index ≤ text.length := by
        have bound := isBoundary.1
        rw [Text.length_between] at bound
        have firstInside := atFirst.1
        omega
      refine ⟨text.ceilIndex 1 + index, ?_, ?_⟩
      · rw [← Text.isBoundary_between_iff atFirst (Text.isBoundary_length text) inside]
        exact isBoundary
      · rw [bytesBefore_add atFirst inside, offsetEq, bytesBefore, front, length_encodePoint]
        omega

end RegexMatching.Utf8
