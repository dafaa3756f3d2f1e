import RegexMatching.Proofs.DirectSearch
import RegexMatching.Proofs.WellFormed

/-!
# Occurrences of a text

A text is looked for in another one from left to right, every time behind the end of what has
been found before.  What is found can be told by units, as a caller sees both texts, and by code
points, as an engine does: for well-formed text the two agree.
-/

namespace RegexMatching

/-! ## Where a list stands -/

section Lists

variable {α : Type} [BEq α]

/-- Whether a list stands in another one from an index on. -/
def standsAt (needle list : List α) (index : Nat) : Bool :=
  needle.isPrefixOf (list.drop index)

/-- The first index from a start on where a list stands in another one. -/
def firstAt? (needle list : List α) (start : Nat) : Option Nat :=
  (List.range' start (list.length + 1 - start)).find? (standsAt needle list)

theorem standsAt_nil (list : List α) (index : Nat) : standsAt [] list index = true :=
  rfl

variable [LawfulBEq α]

theorem standsAt_iff {needle list : List α} {index : Nat} :
    standsAt needle list index = true ↔ needle <+: list.drop index :=
  List.isPrefixOf_iff_prefix

theorem standsAt_cons {first : α} {rest list : List α} {index : Nat} :
    standsAt (first :: rest) list index = true ↔
      list[index]? = some first ∧ standsAt rest list (index + 1) = true := by
  by_cases inside : index < list.length
  · rw [standsAt, List.drop_eq_getElem_cons inside, List.isPrefixOf, Bool.and_eq_true, beq_iff_eq,
      List.getElem?_eq_getElem inside, Option.some.injEq, eq_comm]
    rfl
  · have behind := Nat.not_lt.mp inside
    rw [standsAt, List.drop_eq_nil_of_le behind, List.getElem?_eq_none behind]
    simp

/-- A list stands inside the other one. -/
theorem length_le_of_standsAt {needle list : List α} {index : Nat} (inside : index ≤ list.length)
    (stands : standsAt needle list index = true) : index + needle.length ≤ list.length := by
  have bound := (standsAt_iff.mp stands).length_le
  rw [List.length_drop] at bound
  omega

/-- A list stands at the start of another one of its length only if both are the same. -/
theorem standsAt_zero_iff {needle list : List α} (sameLength : needle.length = list.length) :
    standsAt needle list 0 = true ↔ list = needle := by
  rw [standsAt_iff, List.drop_zero]
  constructor
  · exact fun isPrefix => (isPrefix.eq_of_length sameLength).symm
  · rintro rfl
    exact List.prefix_refl list

end Lists

/-! ## Indices that lie apart -/

/-- Of indices in increasing order those that are kept when each one that is kept leaves no room
for others up to its end. -/
def keepApart (length : Nat) : Nat → List Nat → List Nat
  | _, [] => []
  | free, index :: rest =>
      if free ≤ index then index :: keepApart length (index + length) rest
      else keepApart length free rest

/-- Nothing is kept in front of the first index that may be kept. -/
theorem keepApart_of_lt {length free : Nat} {indices : List Nat}
    (before : ∀ index ∈ indices, index < free) : keepApart length free indices = [] := by
  induction indices with
  | nil => rfl
  | cons index rest ih =>
      have less := before index List.mem_cons_self
      rw [keepApart, if_neg (by omega)]
      exact ih fun other mem => before other (List.mem_cons_of_mem index mem)

/-- Only which indices may be kept matters. -/
theorem keepApart_congr {length free free' : Nat} {indices : List Nat}
    (same : ∀ index ∈ indices, free ≤ index ↔ free' ≤ index) :
    keepApart length free indices = keepApart length free' indices := by
  induction indices with
  | nil => rfl
  | cons index rest ih =>
      have sameRest := ih fun other mem => same other (List.mem_cons_of_mem index mem)
      simp only [keepApart, same index List.mem_cons_self, sameRest]

/-- The first index that may be kept is kept, and others are kept from its end on. -/
theorem keepApart_of_first {length free first next : Nat} {indices : List Nat}
    (sorted : indices.Pairwise (· < ·)) (mem : first ∈ indices) (isFree : free ≤ first)
    (isFirst : ∀ index ∈ indices, free ≤ index → first ≤ index)
    (isNext : ∀ index ∈ indices, next ≤ index ↔ first < index ∧ first + length ≤ index) :
    keepApart length free indices = first :: keepApart length next indices := by
  induction indices with
  | nil => contradiction
  | cons index rest ih =>
      obtain ⟨ahead, sortedRest⟩ := List.pairwise_cons.mp sorted
      have isNextRest := fun other memRest => isNext other (List.mem_cons_of_mem index memRest)
      rcases List.mem_cons.mp mem with rfl | memRest
      · have notAgain : ¬next ≤ first := fun le =>
          Nat.lt_irrefl first ((isNext first List.mem_cons_self).mp le).1
        rw [keepApart, if_pos isFree, keepApart, if_neg notAgain]
        refine congrArg (first :: ·) (keepApart_congr fun other memRest => ?_)
        rw [isNextRest other memRest]
        exact (and_iff_right (ahead other memRest)).symm
      · have less := ahead first memRest
        have taken : ¬free ≤ index := fun le =>
          Nat.not_le_of_lt less (isFirst index List.mem_cons_self le)
        have passed : ¬next ≤ index := fun le =>
          Nat.lt_asymm less ((isNext index List.mem_cons_self).mp le).1
        rw [keepApart, if_neg taken, keepApart, if_neg passed]
        exact ih sortedRest memRest
          (fun other memOther => isFirst other (List.mem_cons_of_mem index memOther)) isNextRest

/-- Indices that take no room are all kept. -/
theorem keepApart_zero {free : Nat} {indices : List Nat} (sorted : indices.Pairwise (· < ·))
    (isFree : ∀ index ∈ indices, free ≤ index) : keepApart 0 free indices = indices := by
  induction indices generalizing free with
  | nil => rfl
  | cons index rest ih =>
      obtain ⟨ahead, sortedRest⟩ := List.pairwise_cons.mp sorted
      rw [keepApart, if_pos (isFree index List.mem_cons_self), Nat.add_zero,
        ih sortedRest fun other mem => Nat.le_of_lt (ahead other mem)]

/-! ## Where a text occurs -/

namespace Text

/-- Whether a text stands in another one at an index.  The empty text stands between code points
only. -/
def occursAt (needle text : Text) (index : Nat) : Bool :=
  standsAt needle text index && (!needle.isEmpty || !text.splitsPair index)

/-- All indices of a text at which another one stands. -/
def indicesOf (needle text : Text) : List Nat :=
  (List.range (text.length + 1)).filter (needle.occursAt text)

/-- Where a text is found in another one from left to right, always the leftmost place that does
not overlap with what has been found before. -/
def occurrences (needle text : Text) : List Span :=
  (keepApart needle.length 0 (needle.indicesOf text)).map fun index : Nat =>
    ⟨index, index + needle.length⟩

theorem pairwise_indicesOf (needle text : Text) : (needle.indicesOf text).Pairwise (· < ·) :=
  List.pairwise_lt_range.filter _

/-- The empty text occurs at every boundary of a text. -/
theorem occurrences_nil (text : Text) :
    occurrences [] text =
      ((List.range (text.length + 1)).filter fun index => !text.splitsPair index).map
        fun index : Nat => ⟨index, index⟩ := by
  rw [occurrences, List.length_nil,
    keepApart_zero (pairwise_indicesOf [] text) fun index _ => Nat.zero_le index]
  exact List.map_congr_left fun index _ => by rw [Int.natCast_zero, Int.add_zero]

example : occurrences [] [0xD83D, 0xDE00, 0x61] = [⟨0, 0⟩, ⟨2, 2⟩, ⟨3, 3⟩] := by decide

theorem unitsBefore_add (points : List Nat) (first count : Nat) :
    unitsBefore points (first + count) =
      unitsBefore points first + unitsBefore (points.drop first) count := by
  rw [unitsBefore, List.take_add, List.map_append, List.sum_append]
  rfl

theorem unitsBefore_le_iff {points : List Nat} {first last : Nat} (firstLe : first ≤ points.length)
    (lastLe : last ≤ points.length) :
    unitsBefore points first ≤ unitsBefore points last ↔ first ≤ last := by
  rcases Nat.lt_trichotomy first last with less | rfl | greater
  · have unitsLess := unitsBefore_lt less lastLe
    omega
  · simp
  · have unitsLess := unitsBefore_lt greater firstLe
    omega

/-- The code points of a text that stands at a position take the units of the text. -/
theorem unitsBefore_of_standsAt {needle text : Text} {position : Nat}
    (stands : standsAt needle.points text.points position = true) :
    unitsBefore text.points (position + needle.points.length) =
      unitsBefore text.points position + needle.length := by
  obtain ⟨rest, same⟩ := standsAt_iff.mp stands
  have front : unitsBefore (needle.points ++ rest) needle.points.length = needle.length := by
    rw [unitsBefore, List.take_left, ← unitsBefore_length needle, unitsBefore, List.take_length]
  rw [unitsBefore_add, ← same, front]

section WellFormed

variable {needle text : Text} (isWellFormed : needle.IsWellFormed)

include isWellFormed

/-- A well-formed text stands where its code points do. -/
theorem mem_indicesOf {index : Nat} :
    index ∈ needle.indicesOf text ↔ ∃ position, position ≤ text.points.length ∧
      unitsBefore text.points position = index ∧
      standsAt needle.points text.points position = true := by
  rw [indicesOf, List.mem_filter, List.mem_range, occursAt, Bool.and_eq_true, standsAt_iff]
  constructor
  · rintro ⟨inside, stands, notInPair⟩
    have boundary : text.IsBoundary index := by
      cases needle with
      | nil => exact ⟨Nat.le_of_lt_succ inside, Bool.not_eq_true' _ ▸ notInPair⟩
      | cons unit rest => exact isWellFormed.isBoundary_of_prefix (List.cons_ne_nil _ _) stands
    obtain ⟨position, positionLe, rfl⟩ := exists_position boundary
    exact ⟨position, positionLe, rfl,
      standsAt_iff.mpr ((isWellFormed.prefix_iff text position).mp stands)⟩
  · rintro ⟨position, positionLe, rfl, stands⟩
    have boundary := isBoundary_unitsBefore text position
    refine ⟨Nat.lt_succ_of_le boundary.1,
      (isWellFormed.prefix_iff text position).mpr (standsAt_iff.mp stands), ?_⟩
    rw [boundary.2, Bool.not_false, Bool.or_true]

/-- Where the code points stand nowhere any more, nothing more is found. -/
theorem keepApart_of_firstAt?_eq_none {position : Nat} (inside : position ≤ text.points.length)
    (isNowhere : firstAt? needle.points text.points position = none) :
    keepApart needle.length (unitsBefore text.points position) (needle.indicesOf text) = [] := by
  apply keepApart_of_lt
  intro index mem
  obtain ⟨other, otherLe, rfl, stands⟩ := (mem_indicesOf isWellFormed).mp mem
  rw [← Nat.not_le, unitsBefore_le_iff inside otherLe]
  intro behind
  have notHere := List.find?_range'_eq_none.mp isNowhere other behind (by omega)
  rw [stands] at notHere
  contradiction

/-- The first position where the code points stand is found, and searching goes on behind it. -/
theorem keepApart_of_firstAt?_eq_some {position first : Nat}
    (inside : position ≤ text.points.length)
    (isFirst : firstAt? needle.points text.points position = some first) :
    keepApart needle.length (unitsBefore text.points position) (needle.indicesOf text) =
      unitsBefore text.points first ::
        keepApart needle.length
          (Matcher.indexBehind text first (first + needle.points.length))
          (needle.indicesOf text) := by
  obtain ⟨stands, mem, notBefore⟩ := List.find?_range'_eq_some.mp isFirst
  rw [List.mem_range'_1] at mem
  have firstLe : first ≤ text.points.length := by omega
  refine keepApart_of_first (pairwise_indicesOf needle text)
    ((mem_indicesOf isWellFormed).mpr ⟨first, firstLe, rfl, stands⟩)
    ((unitsBefore_le_iff inside firstLe).mpr mem.1) ?_ ?_
  · intro index indexMem free
    obtain ⟨other, otherLe, rfl, otherStands⟩ := (mem_indicesOf isWellFormed).mp indexMem
    rw [unitsBefore_le_iff inside otherLe] at free
    rw [unitsBefore_le_iff firstLe otherLe, ← Nat.not_lt]
    intro before
    have notThere := notBefore other free before
    rw [otherStands] at notThere
    contradiction
  · intro index indexMem
    obtain ⟨other, otherLe, rfl, -⟩ := (mem_indicesOf isWellFormed).mp indexMem
    have bound := (isBoundary_unitsBefore text other).1
    have ordered := unitsBefore_le_iff otherLe firstLe
    -- Behind an empty needle the search goes on one code point further, else behind the needle.
    rw [Matcher.indexBehind]
    split
    · next isEmpty =>
        have noPoints : needle.points = [] := List.length_eq_zero_iff.mp (by omega)
        have noUnits := unitsBefore_length needle
        rw [noPoints, unitsBefore, List.take_nil, List.map_nil, List.sum_nil] at noUnits
        split
        · next inside' =>
            rw [unitsBefore_le_iff (by omega) otherLe]
            omega
        · next atEnd =>
            have last : unitsBefore text.points first = text.length := by
              rw [Nat.le_antisymm firstLe (by omega), unitsBefore_length]
            omega
    · next notEmpty =>
        rw [unitsBefore_of_standsAt stands]
        have further := unitsBefore_of_standsAt stands
        have less := unitsBefore_lt (show first < first + needle.points.length by omega)
          (length_le_of_standsAt firstLe stands)
        omega

end WellFormed

end Text

end RegexMatching
