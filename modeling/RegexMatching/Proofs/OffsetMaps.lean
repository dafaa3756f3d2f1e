import RegexMatching.Proofs.CanonicalEquivalence
import RegexMatching.Proofs.CanonicalLoops
import RegexMatching.Proofs.CanonicalOrder

/-!
# Offset maps of decomposed texts

The segments of a text tile the text and its decomposition.  The offset maps take an offset to where
its segment starts, or to where it ends for the end of a span.  A span of the decomposition is taken
to the least union of segments that holds all of it, and what that union decomposes to is found in
the decomposition at the offsets that it is taken back to.
-/

namespace RegexMatching

/-! ## Offsets of segments by number -/

/-- Where a segment starts in one of the texts that the segments tile. -/
def segmentOffset (part : Segment → Text) (segments : List Segment) (number : Nat) : Nat :=
  ((segments.take number).flatMap part).length

section Tiling

variable (part : Segment → Text) (segments : List Segment)

theorem segmentOffset_zero : segmentOffset part segments 0 = 0 := by
  rw [segmentOffset, List.take_zero]
  rfl

theorem segmentOffset_cons_succ (segment : Segment) (number : Nat) :
    segmentOffset part (segment :: segments) (number + 1) =
      (part segment).length + segmentOffset part segments number := by
  rw [segmentOffset, List.take_succ_cons, List.flatMap_cons, List.length_append, segmentOffset]

theorem segmentOffset_length :
    segmentOffset part segments segments.length = (segments.flatMap part).length := by
  rw [segmentOffset, List.take_length]

theorem segmentOffset_mono {first last : Nat} (le : first ≤ last) :
    segmentOffset part segments first ≤ segmentOffset part segments last := by
  have front : segments.take first = (segments.take last).take first := by
    rw [List.take_take, Nat.min_eq_left le]
  rw [segmentOffset, segmentOffset, front]
  exact ((List.take_prefix _ _).flatMap part).length_le

theorem segmentOffset_lt (notEmpty : ∀ segment ∈ segments, part segment ≠ []) {first last : Nat}
    (less : first < last) (inside : last ≤ segments.length) :
    segmentOffset part segments first < segmentOffset part segments last := by
  have isSegment : first < segments.length := by omega
  have isNext : segmentOffset part segments (first + 1) =
      segmentOffset part segments first + (part segments[first]).length := by
    rw [segmentOffset, segmentOffset, ← List.take_concat_get' segments first isSegment,
      List.flatMap_append, List.flatMap_singleton, List.length_append]
  have positive := List.length_pos_of_ne_nil (notEmpty _ (List.getElem_mem isSegment))
  have next_le := segmentOffset_mono part segments (show first + 1 ≤ last from less)
  omega

/-- Segments that follow each other tile what lies between their offsets. -/
theorem between_segmentOffset {first last : Nat} (le : first ≤ last) :
    Text.between (segments.flatMap part) (segmentOffset part segments first)
        (segmentOffset part segments last) =
      ((segments.take last).drop first).flatMap part := by
  have whole : segments.flatMap part =
      (segments.take last).flatMap part ++ (segments.drop last).flatMap part := by
    rw [← List.flatMap_append, List.take_append_drop]
  have front : (segments.take last).flatMap part =
      (segments.take first).flatMap part ++ ((segments.take last).drop first).flatMap part := by
    rw [← List.flatMap_append, ← Nat.min_eq_left le, ← List.take_take, Nat.min_eq_left le,
      List.take_append_drop]
  rw [Text.between, segmentOffset, segmentOffset, whole, List.take_left, front, List.drop_left]

/-- Whether a segment holds an offset. -/
structure HoldsOffset (number offset : Nat) : Prop where
  isSegment : number < segments.length
  start_le : segmentOffset part segments number ≤ offset
  lt_stop : offset < segmentOffset part segments (number + 1)

variable {part segments}

/-- Every offset inside is held by a segment. -/
theorem exists_holdsOffset {offset : Nat} (inside : offset < (segments.flatMap part).length) :
    ∃ number, HoldsOffset part segments number offset := by
  induction segments generalizing offset with
  | nil => exact absurd inside (Nat.not_lt_zero _)
  | cons segment rest ih =>
      rw [List.flatMap_cons, List.length_append] at inside
      by_cases isFirst : offset < (part segment).length
      · refine ⟨0, Nat.succ_pos _, ?_, ?_⟩
        · rw [segmentOffset_zero]
          exact Nat.zero_le _
        · rw [segmentOffset_cons_succ, segmentOffset_zero]
          exact isFirst
      · obtain ⟨number, isSegment, start_le, lt_stop⟩ :=
          @ih (offset - (part segment).length) (by omega)
        refine ⟨number + 1, Nat.succ_lt_succ isSegment, ?_, ?_⟩
        · rw [segmentOffset_cons_succ]
          omega
        · rw [segmentOffset_cons_succ]
          omega

/-- A segment that holds an offset is no later than one that holds a later offset. -/
theorem HoldsOffset.mono {first last number number' : Nat}
    (holds : HoldsOffset part segments number first)
    (holds' : HoldsOffset part segments number' last) (le : first ≤ last) : number ≤ number' := by
  refine Nat.le_of_not_lt fun behind => ?_
  have apart := segmentOffset_mono part segments (show number' + 1 ≤ number from behind)
  have := holds.start_le
  have := holds'.lt_stop
  omega

theorem HoldsOffset.unique {offset number number' : Nat}
    (holds : HoldsOffset part segments number offset)
    (holds' : HoldsOffset part segments number' offset) : number = number' :=
  Nat.le_antisymm (holds.mono holds' (Nat.le_refl _)) (holds'.mono holds (Nat.le_refl _))

end Tiling

section Rounding

variable {segments : List Segment} {number offset : Nat}

/-- Whether a map takes every offset of a text to where its segment starts in another text. -/
structure IsFloor (part target : Segment → Text) (floor : List Segment → Nat → Nat) : Prop where
  nil : ∀ offset, floor [] offset = 0
  cons : ∀ segment rest offset, floor (segment :: rest) offset =
    if offset < (part segment).length then 0
    else (target segment).length + floor rest (offset - (part segment).length)

theorem isFloor_segmentFloor : IsFloor Segment.source Segment.source segmentFloor :=
  ⟨fun _ => rfl, fun _ _ _ => rfl⟩

theorem isFloor_sourceFloor : IsFloor Segment.normalized Segment.source sourceFloor :=
  ⟨fun _ => rfl, fun _ _ _ => rfl⟩

theorem isFloor_normalizedFloor : IsFloor Segment.source Segment.normalized normalizedFloor :=
  ⟨fun _ => rfl, fun _ _ _ => rfl⟩

namespace IsFloor

variable {part target : Segment → Text} {floor : List Segment → Nat → Nat}
  (isFloor : IsFloor part target floor)

include isFloor

theorem of_holds (holds : HoldsOffset part segments number offset) :
    floor segments offset = segmentOffset target segments number := by
  obtain ⟨isSegment, start_le, lt_stop⟩ := holds
  induction segments generalizing number offset with
  | nil => exact absurd isSegment (Nat.not_lt_zero _)
  | cons segment rest ih =>
      rw [segmentOffset_cons_succ] at lt_stop
      rw [isFloor.cons]
      cases number with
      | zero =>
          rw [segmentOffset_zero] at lt_stop ⊢
          rw [if_pos (by omega)]
      | succ number =>
          rw [segmentOffset_cons_succ] at start_le ⊢
          rw [if_neg (by omega), ih (Nat.lt_of_succ_lt_succ isSegment) (by omega) (by omega)]

theorem mono {first last : Nat} (le : first ≤ last) :
    floor segments first ≤ floor segments last := by
  induction segments generalizing first last with
  | nil => rw [isFloor.nil, isFloor.nil]
  | cons segment rest ih =>
      rw [isFloor.cons, isFloor.cons]
      have := ih (Nat.sub_le_sub_right le (part segment).length)
      split <;> split <;> omega

theorem length (segments : List Segment) :
    floor segments (segments.flatMap part).length = (segments.flatMap target).length := by
  induction segments with
  | nil => exact isFloor.nil 0
  | cons segment rest ih =>
      rw [List.flatMap_cons, List.flatMap_cons, List.length_append, List.length_append,
        isFloor.cons, if_neg (by omega), Nat.add_sub_cancel_left, ih]

end IsFloor

/-- What ends behind an offset ends where the segment of the offset does. -/
theorem sourceCeil_succ_of_holds (holds : HoldsOffset Segment.normalized segments number offset) :
    sourceCeil segments (offset + 1) = segmentOffset Segment.source segments (number + 1) := by
  obtain ⟨isSegment, start_le, lt_stop⟩ := holds
  induction segments generalizing number offset with
  | nil => exact absurd isSegment (Nat.not_lt_zero _)
  | cons segment rest ih =>
      rw [segmentOffset_cons_succ] at lt_stop
      rw [sourceCeil, if_neg (Nat.succ_ne_zero _), segmentOffset_cons_succ]
      cases number with
      | zero =>
          rw [segmentOffset_zero] at lt_stop ⊢
          split
          · rfl
          · have isLast : offset + 1 - segment.normalized.length = 0 := by omega
            rw [isLast]
            cases rest <;> rfl
      | succ number =>
          rw [segmentOffset_cons_succ] at start_le
          rw [if_neg (by omega)]
          have behind : offset + 1 - segment.normalized.length =
              offset - segment.normalized.length + 1 := by omega
          rw [behind, ih (Nat.lt_of_succ_lt_succ isSegment) (by omega) (by omega)]

variable (areProper : AreProper segments)

include areProper

theorem sourceCeil_length :
    sourceCeil segments (segments.flatMap Segment.normalized).length =
      (segments.flatMap Segment.source).length := by
  induction segments with
  | nil => rfl
  | cons segment rest ih =>
      have isProper := (areProper segment List.mem_cons_self).2
      rw [List.flatMap_cons, List.flatMap_cons, List.length_append, List.length_append,
        sourceCeil, if_neg (by omega), if_neg (by omega), Nat.add_sub_cancel_left,
        ih fun other mem => areProper other (List.mem_cons_of_mem _ mem)]

/-- Where a segment starts is found in decomposed text where it starts there. -/
theorem normalizedFloor_segmentOffset (inside : number ≤ segments.length) :
    normalizedFloor segments (segmentOffset Segment.source segments number) =
      segmentOffset Segment.normalized segments number := by
  induction segments generalizing number with
  | nil =>
      obtain rfl := Nat.le_zero.mp inside
      rfl
  | cons segment rest ih =>
      have isProper := (areProper segment List.mem_cons_self).1
      rw [normalizedFloor]
      cases number with
      | zero =>
          rw [segmentOffset_zero, segmentOffset_zero, if_pos isProper]
      | succ number =>
          rw [segmentOffset_cons_succ, segmentOffset_cons_succ, if_neg (by omega),
            Nat.add_sub_cancel_left,
            ih (fun other mem => areProper other (List.mem_cons_of_mem _ mem))
              (Nat.le_of_succ_le_succ inside)]

end Rounding

/-! ## Spans and the segments that hold them -/

/-- Whether every offset of a span is held by a segment that is chosen. -/
def Covers (part : Segment → Text) (segments : List Segment) (chosen : Nat → Prop)
    (first last : Nat) : Prop :=
  ∀ offset, first ≤ offset → offset < last →
    ∃ number, chosen number ∧ HoldsOffset part segments number offset

/-- The least segments that hold all of a span, by the number of the first one and the number
behind the last one: they cover the span, and whatever covers it has all of them. -/
structure IsLeastCover (part : Segment → Text) (segments : List Segment)
    (first last front behind : Nat) : Prop where
  less : front < behind
  inside : behind ≤ segments.length
  covers : Covers part segments (fun number => front ≤ number ∧ number < behind) first last
  least : ∀ chosen, Covers part segments chosen first last →
    ∀ number, front ≤ number → number < behind → chosen number

/-- The segments from the one that holds the start of a span to the one that holds its last
offset are the least that hold all of it. -/
theorem isLeastCover_of_holds {part : Segment → Text} {segments : List Segment}
    (notEmpty : ∀ segment ∈ segments, part segment ≠ []) {first last front final : Nat}
    (less : first < last) (holdsFirst : HoldsOffset part segments front first)
    (holdsLast : HoldsOffset part segments final (last - 1)) :
    IsLeastCover part segments first last front (final + 1) where
  less := Nat.lt_succ_of_le (holdsFirst.mono holdsLast (by omega))
  inside := holdsLast.isSegment
  covers := by
    intro offset first_le lt_last
    have inside : offset < (segments.flatMap part).length := by
      have stop_le := segmentOffset_mono part segments
        (show final + 1 ≤ segments.length from holdsLast.isSegment)
      rw [segmentOffset_length] at stop_le
      have := holdsLast.lt_stop
      omega
    obtain ⟨number, holds⟩ := exists_holdsOffset inside
    exact ⟨number, ⟨holdsFirst.mono holds first_le,
      Nat.lt_succ_of_le (holds.mono holdsLast (by omega))⟩, holds⟩
  least := by
    intro chosen covers number front_le lt_behind
    have isSegment := holdsLast.isSegment
    have number_le := segmentOffset_mono part segments (Nat.le_of_lt_succ lt_behind)
    have lt_next := segmentOffset_lt part segments notEmpty
      (show number < number + 1 from Nat.lt_succ_self number) (by omega)
    have next_le := segmentOffset_mono part segments
      (show front + 1 ≤ number + 1 from Nat.succ_le_succ front_le)
    have := holdsFirst.lt_stop
    have := holdsLast.start_le
    -- The segment holds where the span starts, or else it starts inside of the span.
    have holds : HoldsOffset part segments number
        (max first (segmentOffset part segments number)) :=
      ⟨by omega, Nat.le_max_right _ _, by omega⟩
    have inSpan : max first (segmentOffset part segments number) < last := by omega
    obtain ⟨other, isChosen, holds'⟩ := covers _ (Nat.le_max_left _ _) inSpan
    exact holds'.unique holds ▸ isChosen

/-! ## Offsets of a cut -/

namespace Text

theorem length_ofPoints (points : List Nat) :
    (ofPoints points).length = (points.map CodePoint.unitLength).sum := by
  induction points with
  | nil => rfl
  | cons point rest ih =>
      rw [List.map_cons, List.sum_cons, ← ih, ← CodePoint.length_units, ← List.length_append]
      rfl

namespace IsCutInto

variable {text : Text} {parts : List (List Nat)} (isCut : text.IsCutInto parts)

include isCut

theorem take_flatten (number : Nat) :
    text.points.take (parts.take number).flatten.length = (parts.take number).flatten := by
  rw [← isCut.flatten_eq]
  exact (List.prefix_iff_eq_take.mp (List.take_prefix number parts).flatten).symm

/-- A segment starts behind the code points of all segments in front. -/
theorem segmentOffset_eq (number : Nat) :
    segmentOffset Segment.source (segments text) number =
      unitsBefore text.points (parts.take number).flatten.length := by
  have front : ((segments text).take number).flatMap Segment.source =
      ofPoints (parts.take number).flatten := by
    rw [isCut.segments_eq, ← List.map_take, List.flatMap_map, ofPoints, List.flatten_eq_flatMap,
      List.flatMap_assoc]
    rfl
  rw [segmentOffset, front, length_ofPoints, unitsBefore, isCut.take_flatten]

theorem isBoundary_segmentOffset (number : Nat) :
    text.IsBoundary (segmentOffset Segment.source (segments text) number) := by
  rw [isCut.segmentOffset_eq]
  exact isBoundary_unitsBefore text _

theorem points_take_segmentOffset (number : Nat) :
    points (text.take (segmentOffset Segment.source (segments text) number)) =
      (parts.take number).flatten := by
  rw [isCut.segmentOffset_eq, (take_unitsBefore text _).2, isCut.take_flatten]

/-- What lies between two segments consists of the parts between them. -/
theorem points_between {front behind : Nat} (le : front ≤ behind) :
    (text.between (segmentOffset Segment.source (segments text) front)
        (segmentOffset Segment.source (segments text) behind)).points =
      ((parts.take behind).drop front).flatten := by
  have atFront := isCut.isBoundary_segmentOffset front
  have atBehind := isCut.isBoundary_segmentOffset behind
  have start_le := segmentOffset_mono Segment.source (segments text) le
  have toBehind := isCut.points_take_segmentOffset behind
  have toFront := isCut.points_take_segmentOffset front
  generalize segmentOffset Segment.source (segments text) front = start at *
  generalize segmentOffset Segment.source (segments text) behind = stop at *
  have whole : text.take stop = text.take start ++ text.between start stop := by
    rw [between, ← Nat.min_eq_left start_le, ← List.take_take, Nat.min_eq_left start_le,
      List.take_append_drop]
  have splitsNone : splitsPair (text.take stop) (text.take start).length = false := by
    have inside : (text.between 0 stop).IsBoundary start :=
      (isBoundary_between_iff (isBoundary_zero text) atBehind (by omega)).mpr
        (by rwa [Nat.zero_add])
    rw [List.length_take, Nat.min_eq_left atFront.1]
    exact inside.2
  rw [whole, points_append _ _ (whole ▸ splitsNone), toFront, ← List.take_append_drop front
    (parts.take behind), List.flatten_append, List.take_take, Nat.min_eq_left le] at toBehind
  rw [List.append_cancel_left toBehind]

/-- What segments that follow each other have in the source decomposes to what they have in the
decomposition. -/
theorem decomposedText_between {front behind : Nat} (le : front ≤ behind) :
    decomposedText (text.between (segmentOffset Segment.source (segments text) front)
        (segmentOffset Segment.source (segments text) behind)).points =
      (CanonicalText.ofText text).normalized.between
        (segmentOffset Segment.normalized (segments text) front)
        (segmentOffset Segment.normalized (segments text) behind) := by
  have isInfix : (parts.take behind).drop front <:+: parts :=
    ((parts.take behind).drop_suffix front).isInfix.trans (parts.take_prefix behind).isInfix
  rw [isCut.points_between le, ← isCut.flatMap_decomposedText isInfix]
  refine Eq.trans ?_ (between_segmentOffset Segment.normalized (segments text) le).symm
  rw [isCut.segments_eq, ← List.map_take, ← List.map_drop, List.flatMap_map]
  rfl

end IsCutInto

end Text

/-! ## Exact maps -/

/-- Whether a map takes the offsets of a text of one length to those of a text of another in
order, the start to the start and the end to the end. -/
structure MapsOffsets (map : Nat → Nat) (length length' : Nat) : Prop where
  mono : ∀ first last, first ≤ last → last ≤ length → map first ≤ map last
  zero : map 0 = 0
  length : map length = length'

namespace CanonicalText

theorem mapsOffsets_toNormalized (text : Text) :
    MapsOffsets (ofText text).toNormalized text.length (ofText text).normalized.length where
  mono := by
    intro first last le inside
    rw [toNormalized_eq (Nat.le_trans le inside), toNormalized_eq inside]
    exact isFloor_normalizedFloor.mono le
  zero := toNormalized_zero text
  length := toNormalized_length text

theorem mapsOffsets_toSourceStart (text : Text) :
    MapsOffsets (ofText text).toSourceStart (ofText text).normalized.length text.length where
  mono := by
    intro first last le inside
    rw [toSourceStart_eq (Nat.le_trans le inside), toSourceStart_eq inside]
    exact isFloor_sourceFloor.mono le
  zero := toSourceStart_zero text
  length := by
    have atEnd := isFloor_sourceFloor.length (segments text)
    rw [Text.flatMap_segments] at atEnd
    rw [toSourceStart_eq (Nat.le_refl _), ← atEnd]
    rfl

theorem mapsOffsets_toSourceEnd (text : Text) :
    MapsOffsets (ofText text).toSourceEnd (ofText text).normalized.length text.length where
  mono := by
    intro first last le inside
    rw [toSourceEnd_eq (Nat.le_trans le inside), toSourceEnd_eq inside]
    exact sourceCeil_mono le
  zero := toSourceEnd_zero text
  length := by
    have atEnd := sourceCeil_length text.areProper_segments
    rw [Text.flatMap_segments] at atEnd
    rw [toSourceEnd_eq (Nat.le_refl _), ← atEnd]
    rfl

/-- An offset that is taken to decomposed text and back ends up where its segment starts. -/
theorem toSourceStart_toNormalized {text : Text} {index number : Nat}
    (holds : HoldsOffset Segment.source (segments text) number index)
    (inside : index ≤ text.length) :
    (ofText text).toSourceStart ((ofText text).toNormalized index) =
      segmentOffset Segment.source (segments text) number := by
  rw [toSourceStart_eq (toNormalized_le text index), toNormalized_eq inside,
    sourceFloor_normalizedFloor text.areProper_segments, isFloor_segmentFloor.of_holds holds]

/-- Whether a span of decomposed text is taken back to what the least segments that hold it have
in the source, between two boundaries, and the decomposition of that is found at its offsets. -/
structure TakesBack (text : Text) (first last : Nat) : Prop where
  less : (ofText text).toSourceStart first < (ofText text).toSourceEnd last
  isLeast : ∃ front behind,
    IsLeastCover Segment.normalized (segments text) first last front behind ∧
      (ofText text).toSourceStart first = segmentOffset Segment.source (segments text) front ∧
      (ofText text).toSourceEnd last = segmentOffset Segment.source (segments text) behind
  isBoundary_start : text.IsBoundary ((ofText text).toSourceStart first)
  isBoundary_end : text.IsBoundary ((ofText text).toSourceEnd last)
  decomposed : decomposedText (text.slice ((ofText text).toSourceStart first)
      ((ofText text).toSourceEnd last)).points =
    (ofText text).normalized.slice
      ((ofText text).toNormalized ((ofText text).toSourceStart first))
      ((ofText text).toNormalized ((ofText text).toSourceEnd last))

theorem takesBack {text : Text} {first last : Nat} (less : first < last)
    (inside : last ≤ (ofText text).normalized.length) : TakesBack text first last := by
  obtain ⟨front, holdsFirst⟩ := @exists_holdsOffset Segment.normalized (segments text) first
    (Nat.lt_of_lt_of_le less inside)
  obtain ⟨final, holdsLast⟩ := @exists_holdsOffset Segment.normalized (segments text) (last - 1)
    (Nat.lt_of_lt_of_le (by omega) inside)
  have isLeast := isLeastCover_of_holds
    (fun segment mem => (ne_nil_of_mem_segments mem).2) less holdsFirst holdsLast
  have isStart : (ofText text).toSourceStart first =
      segmentOffset Segment.source (segments text) front := by
    rw [toSourceStart_eq (by omega), isFloor_sourceFloor.of_holds holdsFirst]
  have isEnd : (ofText text).toSourceEnd last =
      segmentOffset Segment.source (segments text) (final + 1) := by
    have behind : last = last - 1 + 1 := by omega
    rw [toSourceEnd_eq inside, behind, sourceCeil_succ_of_holds holdsLast]
  obtain ⟨parts, isCut⟩ := text.exists_isCutInto
  have atStart := isCut.isBoundary_segmentOffset front
  have atEnd := isCut.isBoundary_segmentOffset (final + 1)
  refine ⟨?_, ⟨front, final + 1, isLeast, isStart, isEnd⟩, ?_, ?_, ?_⟩
  · rw [isStart, isEnd]
    exact segmentOffset_lt _ _ (fun segment mem => (ne_nil_of_mem_segments mem).1) isLeast.less
      isLeast.inside
  · rwa [isStart]
  · rwa [isEnd]
  · rw [isStart, isEnd, Text.slice_eq_between text atStart.1 atEnd.1,
      isCut.decomposedText_between (Nat.le_of_lt isLeast.less), Text.slice_eq_between _
      (toNormalized_le text _) (toNormalized_le text _), toNormalized_eq atStart.1,
      toNormalized_eq atEnd.1, normalizedFloor_segmentOffset text.areProper_segments
      (Nat.le_trans (Nat.le_of_lt isLeast.less) isLeast.inside),
      normalizedFloor_segmentOffset text.areProper_segments isLeast.inside]

/-- The segments of a text tile it and its decomposition, in order and none of them empty.  The
maps of offsets keep the order of offsets and the ends of the texts, an offset of the text is taken
back to where its segment starts, and a span of the decomposition to the least segments that
hold it. -/
theorem offset_maps_exact (text : Text) :
    (((segments text).flatMap Segment.source = text ∧
        (segments text).flatMap Segment.normalized = (ofText text).normalized) ∧
      AreProper (segments text)) ∧
    (MapsOffsets (ofText text).toNormalized text.length (ofText text).normalized.length ∧
      MapsOffsets (ofText text).toSourceStart (ofText text).normalized.length text.length ∧
      MapsOffsets (ofText text).toSourceEnd (ofText text).normalized.length text.length) ∧
    (∀ index, index < text.length → ∃ number,
      HoldsOffset Segment.source (segments text) number index ∧
        (ofText text).toSourceStart ((ofText text).toNormalized index) =
          segmentOffset Segment.source (segments text) number) ∧
    ∀ first last, first < last → last ≤ (ofText text).normalized.length →
      TakesBack text first last := by
  refine ⟨⟨⟨text.flatMap_segments, rfl⟩, text.areProper_segments⟩,
    ⟨mapsOffsets_toNormalized text, mapsOffsets_toSourceStart text,
      mapsOffsets_toSourceEnd text⟩, ?_, fun first last => takesBack⟩
  intro index inside
  obtain ⟨number, holds⟩ := @exists_holdsOffset Segment.source (segments text) index
    (by rwa [text.flatMap_segments])
  exact ⟨number, holds, toSourceStart_toNormalized holds (Nat.le_of_lt inside)⟩

/-- A span inside a letter with two accents that change places is taken back to all of it. -/
theorem offset_maps_exact_accents :
    (ofText [0x61, 0x301, 0x323]).toSourceStart ((ofText [0x61, 0x301, 0x323]).toNormalized 1) =
        0 ∧
      TakesBack [0x61, 0x301, 0x323] 1 2 ∧
      (ofText [0x61, 0x301, 0x323]).toSourceStart 1 = 0 ∧
      (ofText [0x61, 0x301, 0x323]).toSourceEnd 2 = 3 := by
  obtain ⟨-, -, ofIndex, ofSpan⟩ := offset_maps_exact [0x61, 0x301, 0x323]
  have length : (ofText [0x61, 0x301, 0x323]).normalized.length = 3 := by
    change ((segments [0x61, 0x301, 0x323]).flatMap Segment.normalized).length = 3
    rw [segments_accents]
    rfl
  obtain ⟨number, holds, isStart⟩ := ofIndex 1 (by decide)
  have isFirst : number = 0 := by
    have isSegment := holds.isSegment
    rw [segments_accents] at isSegment
    exact Nat.lt_one_iff.mp isSegment
  refine ⟨?_, ofSpan 1 2 (by decide) (by omega), ?_, ?_⟩
  · rw [isStart, isFirst, segmentOffset_zero]
  · rw [toSourceStart_eq (by omega), segments_accents]
    rfl
  · rw [toSourceEnd_eq (by omega), segments_accents]
    rfl

end CanonicalText

end RegexMatching
