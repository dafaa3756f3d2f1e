import RegexMatching.Proofs.RegionView
import RegexMatching.Proofs.Starters

/-!
# Segments and their offsets

A text is decomposed in segments.  No mark is moved from one segment into another, so the
parts together are the decomposition of the whole text.  The offset maps take an offset to
the segment that holds it and back to the ends of that segment, and they keep the order of
offsets.
-/

namespace RegexMatching

open Unicode

/-! ## Canonical order -/

namespace Unicode

/-- Whether nothing in front can be moved into code points. -/
def StartsAnew (points : List Nat) : Prop :=
  ∀ head ∈ points.head?, combiningClass head = 0

theorem insertOrdered_of_class_eq_zero {point : Nat} (isZero : combiningClass point = 0)
    (points : List Nat) : insertOrdered point points = point :: points := by
  cases points with
  | nil => rfl
  | cons next rest =>
      rw [insertOrdered, isZero, if_neg (by simp)]

theorem insertOrdered_append (point : Nat) (front : List Nat) {back : List Nat}
    (startsAnew : StartsAnew back) :
    insertOrdered point (front ++ back) = insertOrdered point front ++ back := by
  induction front with
  | nil =>
      cases back with
      | nil => rfl
      | cons next rest =>
          have isZero : combiningClass next = 0 := startsAnew next rfl
          change insertOrdered point (next :: rest) = point :: next :: rest
          rw [insertOrdered, isZero, if_neg (by simp)]
  | cons next rest ih =>
      rw [List.cons_append, insertOrdered, insertOrdered, ih]
      split <;> rfl

theorem foldr_insertOrdered_append (front : List Nat) {back : List Nat}
    (startsAnew : StartsAnew back) :
    front.foldr insertOrdered back = front.foldr insertOrdered [] ++ back := by
  induction front with
  | nil => rfl
  | cons point rest ih =>
      rw [List.foldr_cons, ih, insertOrdered_append point _ startsAnew, List.foldr_cons]

/-- What starts with no mark can be decomposed on its own. -/
theorem canonicalDecomposition_append (front : List Nat) {back : List Nat}
    (isBase : ∀ point ∈ back.head?, isMark point = false) :
    canonicalDecomposition (front ++ back) =
      canonicalDecomposition front ++ canonicalDecomposition back := by
  have startsAnew : StartsAnew (canonicalDecomposition back) := by
    cases back with
    | nil => exact fun head mem => nomatch mem
    | cons point rest =>
        obtain ⟨head, others, parts, isZero⟩ :=
          combiningClass_head_decompose (isBase point rfl)
        rw [canonicalDecomposition, List.flatMap_cons, parts, List.cons_append,
          List.foldr_cons, insertOrdered_of_class_eq_zero isZero]
        intro first isFirst
        rwa [← Option.some.inj isFirst]
  rw [canonicalDecomposition, List.flatMap_append, List.foldr_append]
  exact foldr_insertOrdered_append _ startsAnew

theorem length_insertOrdered (point : Nat) (points : List Nat) :
    (insertOrdered point points).length = points.length + 1 := by
  induction points with
  | nil => rfl
  | cons next rest ih =>
      rw [insertOrdered]
      split
      · rw [List.length_cons, ih, List.length_cons]
      · rfl

theorem length_canonicalDecomposition (points : List Nat) :
    (canonicalDecomposition points).length = (points.flatMap decompose).length := by
  rw [canonicalDecomposition]
  induction points.flatMap decompose with
  | nil => rfl
  | cons point rest ih => rw [List.foldr_cons, length_insertOrdered, ih, List.length_cons]

/-- Nothing decomposes into nothing. -/
theorem decompose_ne_nil (point : Nat) : decompose point ≠ [] := by
  rw [decompose]
  split
  · exact List.cons_ne_nil _ _
  · cases found : lookup? decompositionRuns point with
    | none => exact List.cons_ne_nil _ _
    | some parts =>
        obtain ⟨run, mem, rfl, -⟩ := mem_of_lookup? found
        rw [decompositionRuns, readRuns, List.mem_toArray, List.mem_flatMap] at mem
        obtain ⟨line, -, mem⟩ := mem
        obtain ⟨entry, -, rfl⟩ := List.mem_map.mp mem
        exact fun isNil => splitChars_ne_nil _ _ (List.map_eq_nil_iff.mp isNil)

end Unicode

theorem CodePoint.units_ne_nil (point : Nat) : CodePoint.units point ≠ [] := by
  rw [CodePoint.units]
  split <;> exact List.cons_ne_nil _ _

theorem Text.ofPoints_ne_nil {points : List Nat} (notEmpty : points ≠ []) :
    Text.ofPoints points ≠ [] := by
  cases points with
  | nil => contradiction
  | cons point rest =>
      rw [Text.ofPoints, List.flatMap_cons]
      exact List.append_ne_nil_of_left_ne_nil (CodePoint.units_ne_nil point) _

theorem decomposedText_nil : decomposedText [] = [] :=
  rfl

theorem decomposedText_ne_nil {points : List Nat} (notEmpty : points ≠ []) :
    decomposedText points ≠ [] := by
  refine Text.ofPoints_ne_nil fun isNil => ?_
  have length := length_canonicalDecomposition points
  rw [isNil] at length
  cases points with
  | nil => contradiction
  | cons point rest =>
      rw [List.flatMap_cons, List.length_append] at length
      have := List.length_pos_of_ne_nil (decompose_ne_nil point)
      simp only [List.length_nil] at length
      omega

theorem decomposedText_append (front : List Nat) {back : List Nat}
    (isBase : ∀ point ∈ back.head?, isMark point = false) :
    decomposedText (front ++ back) = decomposedText front ++ decomposedText back := by
  rw [decomposedText, canonicalDecomposition_append front isBase, Text.ofPoints,
    List.flatMap_append]
  rfl

/-! ## Clusters -/

theorem flatten_clusters (points : List Nat) : (clusters points).flatten = points := by
  induction points with
  | nil => rfl
  | cons point rest ih =>
      rw [clusters]
      cases cut : clusters rest with
      | nil =>
          rw [cut] at ih
          rw [← ih]
          rfl
      | cons cluster others =>
          rw [cut] at ih
          dsimp only
          split <;> simp [← ih]

theorem ne_nil_of_mem_clusters {points cluster : List Nat} (mem : cluster ∈ clusters points) :
    cluster ≠ [] := by
  induction points generalizing cluster with
  | nil => cases mem
  | cons point rest ih =>
      rw [clusters] at mem
      cases cut : clusters rest with
      | nil =>
          rw [cut, List.mem_singleton] at mem
          exact mem ▸ List.cons_ne_nil _ _
      | cons first others =>
          rw [cut] at mem ih
          dsimp only at mem
          split at mem
          · rcases List.mem_cons.mp mem with rfl | mem
            · exact List.cons_ne_nil _ _
            · exact ih (List.mem_cons_of_mem _ mem)
          · rcases List.mem_cons.mp mem with rfl | mem
            · exact List.cons_ne_nil _ _
            · exact ih mem

/-- Every cluster but the first starts with no mark. -/
theorem isBase_of_mem_tail_clusters {points cluster : List Nat}
    (mem : cluster ∈ (clusters points).tail) :
    ∀ point ∈ cluster.head?, isMark point = false := by
  induction points generalizing cluster with
  | nil => cases mem
  | cons point rest ih =>
      rw [clusters] at mem
      cases cut : clusters rest with
      | nil =>
          rw [cut] at mem
          cases mem
      | cons first others =>
          rw [cut] at mem ih
          dsimp only at mem
          split at mem
          · exact ih mem
          · next isBase =>
              rcases List.mem_cons.mp mem with rfl | mem
              · intro head isHead
                rw [Option.mem_def.mp isHead, Option.map_some, Option.getD_some,
                  Bool.not_eq_true] at isBase
                exact isBase
              · exact ih mem

theorem decomposedText_flatten (first : List Nat) {others : List (List Nat)}
    (areBases : ∀ cluster ∈ others, ∀ point ∈ cluster.head?, isMark point = false)
    (notEmpty : ∀ cluster ∈ others, cluster ≠ []) :
    decomposedText (first ++ others.flatten) =
      decomposedText first ++ others.flatMap decomposedText := by
  induction others generalizing first with
  | nil => simp
  | cons cluster rest ih =>
      have isBase : ∀ point ∈ ((cluster :: rest).flatten).head?, isMark point = false := by
        rw [List.flatten_cons,
          List.head?_append_of_ne_nil _ (notEmpty cluster List.mem_cons_self)]
        exact areBases cluster List.mem_cons_self
      rw [decomposedText_append first isBase, List.flatten_cons,
        ih cluster (fun other mem => areBases other (List.mem_cons_of_mem _ mem))
          (fun other mem => notEmpty other (List.mem_cons_of_mem _ mem)),
        List.flatMap_cons]

/-- Clusters are decomposed on their own. -/
theorem flatMap_clusters (points : List Nat) :
    (clusters points).flatMap decomposedText = decomposedText points := by
  have areBases := @isBase_of_mem_tail_clusters points
  have notEmpty := @ne_nil_of_mem_clusters points
  have flatten := flatten_clusters points
  cases cut : clusters points with
  | nil =>
      rw [cut] at flatten
      rw [← flatten]
      exact decomposedText_nil.symm
  | cons first others =>
      rw [cut] at areBases notEmpty flatten
      rw [← flatten, List.flatten_cons,
        @decomposedText_flatten first others (fun cluster mem => areBases mem)
          (fun cluster mem => notEmpty (List.mem_cons_of_mem _ mem)), List.flatMap_cons]

/-! ## Segments -/

theorem flatMap_segmentsOfCluster (cluster : List Nat) :
    (segmentsOfCluster cluster).flatMap Segment.normalized = decomposedText cluster := by
  rw [segmentsOfCluster]
  split
  · next same =>
      rw [← same, List.flatMap_map, List.flatMap_def]
  · exact List.append_nil _

/-- The decomposition of a text by segments is that of the whole text. -/
theorem CanonicalText.normalized_ofText (text : Text) :
    (CanonicalText.ofText text).normalized = decomposedText text.points := by
  change (segments text).flatMap Segment.normalized = _
  rw [segments, List.flatMap_assoc, ← flatMap_clusters]
  exact List.flatMap_congr fun cluster _ => flatMap_segmentsOfCluster cluster

/-- A code point on its own is a segment. -/
theorem segments_of_point {text : Text} {point : Nat} (isPoint : text.points = [point]) :
    segments text = [⟨CodePoint.units point, decomposedText [point]⟩] := by
  rw [segments, isPoint, clusters, clusters, List.flatMap_singleton, segmentsOfCluster,
    List.map_singleton, List.flatten_singleton, if_pos rfl, List.map_singleton]

/-- No segment is empty, before or after decomposition. -/
theorem ne_nil_of_mem_segments {text : Text} {segment : Segment} (mem : segment ∈ segments text) :
    segment.source ≠ [] ∧ segment.normalized ≠ [] := by
  obtain ⟨cluster, isCluster, mem⟩ := List.mem_flatMap.mp mem
  rw [segmentsOfCluster] at mem
  split at mem
  · obtain ⟨point, -, rfl⟩ := List.mem_map.mp mem
    exact ⟨CodePoint.units_ne_nil point, decomposedText_ne_nil (List.cons_ne_nil _ _)⟩
  · rw [List.mem_singleton] at mem
    have notEmpty := ne_nil_of_mem_clusters isCluster
    exact mem ▸ ⟨Text.ofPoints_ne_nil notEmpty, decomposedText_ne_nil notEmpty⟩

/-! ## Offsets of segments -/

/-- The start of the segment that holds an offset of the source. -/
def segmentFloor : List Segment → Nat → Nat
  | [], _ => 0
  | segment :: rest, index =>
      if index < segment.source.length then 0
      else segment.source.length + segmentFloor rest (index - segment.source.length)

/-- The start in decomposed text of the segment that holds an offset of the source. -/
def normalizedFloor : List Segment → Nat → Nat
  | [], _ => 0
  | segment :: rest, index =>
      if index < segment.source.length then 0
      else segment.normalized.length + normalizedFloor rest (index - segment.source.length)

/-- The start in the source of the segment that holds an offset of decomposed text. -/
def sourceFloor : List Segment → Nat → Nat
  | [], _ => 0
  | segment :: rest, index =>
      if index < segment.normalized.length then 0
      else segment.source.length + sourceFloor rest (index - segment.normalized.length)

/-- The end in the source of the segment that holds an offset of decomposed text, or the start
where a segment starts. -/
def sourceCeil : List Segment → Nat → Nat
  | [], _ => 0
  | segment :: rest, index =>
      if index = 0 then 0
      else if index < segment.normalized.length then segment.source.length
      else segment.source.length + sourceCeil rest (index - segment.normalized.length)

theorem getElem?_forwardOffsets (segments : List Segment) (start : Nat) {index : Nat}
    (inside : index ≤ (segments.flatMap Segment.source).length) :
    (forwardOffsets start segments)[index]? = some (start + normalizedFloor segments index) := by
  induction segments generalizing start index with
  | nil =>
      obtain rfl : index = 0 := Nat.le_zero.mp inside
      rfl
  | cons segment rest ih =>
      rw [List.flatMap_cons, List.length_append] at inside
      rw [forwardOffsets, normalizedFloor, List.getElem?_append, List.length_replicate]
      split
      · next isInside => rw [List.getElem?_replicate, if_pos isInside, Nat.add_zero]
      · rw [ih _ (by omega), Nat.add_assoc]

theorem getElem?_segmentStarts (segments : List Segment) (start : Nat) {index : Nat}
    (inside : index ≤ (segments.flatMap Segment.normalized).length) :
    (segmentStarts start segments)[index]? = some (start + sourceFloor segments index) := by
  induction segments generalizing start index with
  | nil =>
      obtain rfl : index = 0 := Nat.le_zero.mp inside
      rfl
  | cons segment rest ih =>
      rw [List.flatMap_cons, List.length_append] at inside
      rw [segmentStarts, sourceFloor, List.getElem?_append, List.length_replicate]
      split
      · next isInside => rw [List.getElem?_replicate, if_pos isInside, Nat.add_zero]
      · rw [ih _ (by omega), Nat.add_assoc]

/-- Segments none of which is empty, before or after decomposition. -/
def AreProper (segments : List Segment) : Prop :=
  ∀ segment ∈ segments, 0 < segment.source.length ∧ 0 < segment.normalized.length

theorem getElem?_segmentEnds {segments : List Segment} (areProper : AreProper segments)
    (start : Nat) {index : Nat}
    (inside : index ≤ (segments.flatMap Segment.normalized).length) :
    (segmentEnds start segments)[index]? = some (start + sourceCeil segments index) := by
  induction segments generalizing start index with
  | nil =>
      obtain rfl : index = 0 := Nat.le_zero.mp inside
      rfl
  | cons segment rest ih =>
      have isProper := (areProper segment List.mem_cons_self).2
      rw [List.flatMap_cons, List.length_append] at inside
      rw [segmentEnds, sourceCeil]
      cases index with
      | zero => rfl
      | succ index =>
          rw [if_neg (Nat.succ_ne_zero index), List.cons_append, List.getElem?_cons_succ,
            List.getElem?_append, List.length_replicate]
          split
          · next isInside =>
              rw [List.getElem?_replicate, if_pos isInside, if_pos (by omega)]
          · rw [if_neg (by omega), ← Nat.add_assoc,
              show index - (segment.normalized.length - 1) =
                index + 1 - segment.normalized.length by omega]
            exact ih (fun other mem => areProper other (List.mem_cons_of_mem _ mem)) _ (by omega)

section Order

variable {segments : List Segment}

theorem segmentFloor_le (index : Nat) : segmentFloor segments index ≤ index := by
  induction segments generalizing index with
  | nil => exact Nat.zero_le _
  | cons segment rest ih =>
      rw [segmentFloor]
      have := ih (index - segment.source.length)
      split <;> omega

theorem segmentFloor_mono {first last : Nat} (le : first ≤ last) :
    segmentFloor segments first ≤ segmentFloor segments last := by
  induction segments generalizing first last with
  | nil => exact Nat.le_refl _
  | cons segment rest ih =>
      rw [segmentFloor, segmentFloor]
      have := ih (Nat.sub_le_sub_right le segment.source.length)
      split <;> split <;> omega

theorem sourceFloor_mono {first last : Nat} (le : first ≤ last) :
    sourceFloor segments first ≤ sourceFloor segments last := by
  induction segments generalizing first last with
  | nil => exact Nat.le_refl _
  | cons segment rest ih =>
      rw [sourceFloor, sourceFloor]
      have := ih (Nat.sub_le_sub_right le segment.normalized.length)
      split <;> split <;> omega

theorem sourceCeil_mono {first last : Nat} (le : first ≤ last) :
    sourceCeil segments first ≤ sourceCeil segments last := by
  induction segments generalizing first last with
  | nil => exact Nat.le_refl _
  | cons segment rest ih =>
      rw [sourceCeil, sourceCeil]
      have := ih (Nat.sub_le_sub_right le segment.normalized.length)
      split
      · omega
      · split <;> split <;> (try split) <;> omega

variable (areProper : AreProper segments)

include areProper

theorem sourceFloor_le_sourceCeil (index : Nat) :
    sourceFloor segments index ≤ sourceCeil segments index := by
  induction segments generalizing index with
  | nil => exact Nat.le_refl _
  | cons segment rest ih =>
      have isProper := (areProper segment List.mem_cons_self).2
      rw [sourceFloor, sourceCeil]
      have := ih (fun other mem => areProper other (List.mem_cons_of_mem _ mem))
        (index - segment.normalized.length)
      split
      · exact Nat.zero_le _
      · rw [if_neg (by omega)]
        omega

theorem sourceFloor_normalizedFloor (index : Nat) :
    sourceFloor segments (normalizedFloor segments index) = segmentFloor segments index := by
  induction segments generalizing index with
  | nil => rfl
  | cons segment rest ih =>
      have isProper := (areProper segment List.mem_cons_self).2
      rw [normalizedFloor, segmentFloor]
      split
      · rw [sourceFloor, if_pos isProper]
      · rw [sourceFloor, if_neg (by omega), Nat.add_sub_cancel_left,
          ih fun other mem => areProper other (List.mem_cons_of_mem _ mem)]

theorem sourceCeil_normalizedFloor (index : Nat) :
    sourceCeil segments (normalizedFloor segments index) = segmentFloor segments index := by
  induction segments generalizing index with
  | nil => rfl
  | cons segment rest ih =>
      have isProper := (areProper segment List.mem_cons_self).2
      rw [normalizedFloor, segmentFloor]
      split
      · rfl
      · rw [sourceCeil, if_neg (by omega), if_neg (by omega), Nat.add_sub_cancel_left,
          ih fun other mem => areProper other (List.mem_cons_of_mem _ mem)]

theorem segmentFloor_zero : segmentFloor segments 0 = 0 := by
  cases segments with
  | nil => rfl
  | cons segment rest => exact if_pos (areProper segment List.mem_cons_self).1

/-- What ends in the source where a segment starts or ends. -/
theorem segmentFloor_sourceCeil (index : Nat) :
    segmentFloor segments (sourceCeil segments index) = sourceCeil segments index := by
  induction segments generalizing index with
  | nil => rfl
  | cons segment rest ih =>
      have isProper := (areProper segment List.mem_cons_self).1
      have areProperRest : AreProper rest := fun other mem =>
        areProper other (List.mem_cons_of_mem _ mem)
      rw [sourceCeil]
      split
      · exact segmentFloor_zero areProper
      · split
        · rw [segmentFloor, if_neg (Nat.lt_irrefl _), Nat.sub_self,
            segmentFloor_zero areProperRest, Nat.add_zero]
        · rw [segmentFloor, if_neg (by omega), Nat.add_sub_cancel_left, ih areProperRest]

end Order

/-! ## Offsets of decomposed texts -/

namespace Text

/-- The segments of a text make up the text. -/
theorem flatMap_segments (text : Text) : (segments text).flatMap Segment.source = text := by
  have ofCluster : ∀ cluster, (segmentsOfCluster cluster).flatMap Segment.source =
      ofPoints cluster := by
    intro cluster
    rw [segmentsOfCluster]
    split
    · rw [List.flatMap_map]
      rfl
    · exact List.append_nil _
  rw [segments, List.flatMap_assoc]
  calc (clusters text.points).flatMap (fun cluster =>
        (segmentsOfCluster cluster).flatMap Segment.source)
      = (clusters text.points).flatMap ofPoints :=
        List.flatMap_congr fun cluster _ => ofCluster cluster
    _ = ofPoints (clusters text.points).flatten := by
        rw [ofPoints, ← List.flatMap_id', List.flatMap_assoc]
        rfl
    _ = text := by rw [flatten_clusters, ofPoints_points]

theorem areProper_segments (text : Text) : AreProper (segments text) := fun _ mem =>
  ⟨List.length_pos_of_ne_nil (ne_nil_of_mem_segments mem).1,
    List.length_pos_of_ne_nil (ne_nil_of_mem_segments mem).2⟩

/-- The start of the segment that holds an offset. -/
def segmentStart (text : Text) (index : Nat) : Nat :=
  segmentFloor (segments text) index

/-- Whether an offset lies between two segments. -/
def IsSegmentEdge (text : Text) (index : Nat) : Prop :=
  text.segmentStart index = index

instance (text : Text) (index : Nat) : Decidable (text.IsSegmentEdge index) :=
  inferInstanceAs (Decidable (_ = _))

end Text

namespace CanonicalText

theorem toNormalized_eq {text : Text} {index : Nat} (inside : index ≤ text.length) :
    (ofText text).toNormalized index = normalizedFloor (segments text) index := by
  rw [toNormalized, ofText, Array.getD_eq_getD_getElem?, List.getElem?_toArray,
    getElem?_forwardOffsets _ _ (by rwa [Text.flatMap_segments]), Nat.zero_add, Option.getD_some]

theorem toSourceStart_eq {text : Text} {index : Nat}
    (inside : index ≤ (ofText text).normalized.length) :
    (ofText text).toSourceStart index = sourceFloor (segments text) index := by
  rw [toSourceStart, ofText, Array.getD_eq_getD_getElem?, List.getElem?_toArray,
    getElem?_segmentStarts _ _ inside, Nat.zero_add, Option.getD_some]

theorem toSourceEnd_eq {text : Text} {index : Nat}
    (inside : index ≤ (ofText text).normalized.length) :
    (ofText text).toSourceEnd index = sourceCeil (segments text) index := by
  rw [toSourceEnd, ofText, Array.getD_eq_getD_getElem?, List.getElem?_toArray,
    getElem?_segmentEnds text.areProper_segments _ inside, Nat.zero_add, Option.getD_some]

section Spans

variable {text : Text} {first last : Nat}

/-- What starts behind an offset starts in its segment or behind it. -/
theorem segmentStart_le_toSourceStart {index : Nat} (inside : index ≤ text.length)
    (firstInside : first ≤ (ofText text).normalized.length)
    (le : (ofText text).toNormalized index ≤ first) :
    text.segmentStart index ≤ (ofText text).toSourceStart first := by
  rw [toSourceStart_eq firstInside, Text.segmentStart,
    ← sourceFloor_normalizedFloor text.areProper_segments]
  rw [toNormalized_eq inside] at le
  exact sourceFloor_mono le

/-- What ends before an offset ends where its segment starts at the latest. -/
theorem toSourceEnd_le_segmentStart {index : Nat} (inside : index ≤ text.length)
    (le : last ≤ (ofText text).toNormalized index) :
    (ofText text).toSourceEnd last ≤ text.segmentStart index := by
  rw [toSourceEnd_eq (Nat.le_trans le (toNormalized_le text index)), Text.segmentStart,
    ← sourceCeil_normalizedFloor text.areProper_segments]
  rw [toNormalized_eq inside] at le
  exact sourceCeil_mono le

theorem toSourceStart_le_toSourceEnd (le : first ≤ last)
    (inside : last ≤ (ofText text).normalized.length) :
    (ofText text).toSourceStart first ≤ (ofText text).toSourceEnd last := by
  rw [toSourceStart_eq (Nat.le_trans le inside), toSourceEnd_eq inside]
  exact Nat.le_trans (sourceFloor_mono le) (sourceFloor_le_sourceCeil text.areProper_segments _)

/-- A span ends between two segments. -/
theorem isSegmentEdge_toSourceEnd (inside : last ≤ (ofText text).normalized.length) :
    text.IsSegmentEdge ((ofText text).toSourceEnd last) := by
  rw [toSourceEnd_eq inside]
  exact segmentFloor_sourceCeil text.areProper_segments last

end Spans

theorem toSourceEnd_zero (text : Text) : (ofText text).toSourceEnd 0 = 0 := by
  rw [toSourceEnd_eq (Nat.zero_le _)]
  cases segments text <;> rfl

theorem toSourceStart_zero (text : Text) : (ofText text).toSourceStart 0 = 0 := by
  have le := @toSourceStart_le_toSourceEnd text 0 0 (Nat.le_refl 0) (Nat.zero_le _)
  rwa [toSourceEnd_zero, Nat.le_zero] at le

end CanonicalText

/-! ## Reordered accents -/

namespace Unicode

/-- Whether a table of classes has an acute accent and a dot below in their classes. -/
def classesAccents (classes : List (Run Nat)) : Bool :=
  [(0x301, 230), (0x323, 220)].all fun accent =>
    classes.any fun run => run.contains accent.1 && run.value == accent.2

theorem classesAccents_eq_true : classesAccents combiningRuns.toList = true := by
  apply @check_readRuns Nat Nat decimalNumber decimalNumber combiningLines [] _ []
    fun classes _ => classesAccents classes
  · dsimp only [combiningLines]
    repeat apply Spells.cons
    exact .nil
  · exact .nil
  · decide +kernel

/-- The combining classes of an acute accent and of a dot below. -/
theorem combiningClass_accents : combiningClass 0x301 = 230 ∧ combiningClass 0x323 = 220 := by
  have ofAccent : ∀ accent ∈ [(0x301, 230), (0x323, 220)],
      combiningClass accent.1 = accent.2 := by
    intro accent mem
    obtain ⟨run, isRun, holds⟩ :=
      List.any_eq_true.mp (List.all_eq_true.mp classesAccents_eq_true accent mem)
    rw [Bool.and_eq_true, beq_iff_eq] at holds
    exact (combiningClass_eq_of_mem isRun holds.1).trans holds.2
  exact ⟨ofAccent (0x301, 230) (by simp), ofAccent (0x323, 220) (by simp)⟩

theorem canonicalDecomposition_stable {point : Nat} (stable : inSpans stableSpans point = true) :
    canonicalDecomposition [point] = [point] := by
  rw [canonicalDecomposition, List.flatMap_singleton, decompose_of_inSpans stable]
  rfl

/-- A dot below is put in front of an acute accent. -/
theorem canonicalDecomposition_accents :
    canonicalDecomposition [0x61, 0x301, 0x323] = [0x61, 0x323, 0x301] := by
  have base : combiningClass 0x61 = 0 := combiningClass_eq_zero_of_inSpans (by decide)
  rw [canonicalDecomposition, List.flatMap_cons, List.flatMap_cons, List.flatMap_singleton,
    decompose_of_inSpans (by decide : inSpans stableSpans 0x61 = true),
    decompose_of_inSpans (by decide : inSpans stableSpans 0x301 = true),
    decompose_of_inSpans (by decide : inSpans stableSpans 0x323 = true)]
  rw [List.singleton_append, List.singleton_append, List.foldr_cons, List.foldr_cons,
    List.foldr_cons, List.foldr_nil, insertOrdered, insertOrdered, combiningClass_accents.1,
    combiningClass_accents.2, if_pos (by decide), insertOrdered,
    insertOrdered_of_class_eq_zero base]

/-- They stay where they are in that order. -/
theorem canonicalDecomposition_ordered_accents :
    canonicalDecomposition [0x61, 0x323, 0x301] = [0x61, 0x323, 0x301] := by
  have base : combiningClass 0x61 = 0 := combiningClass_eq_zero_of_inSpans (by decide)
  rw [canonicalDecomposition, List.flatMap_cons, List.flatMap_cons, List.flatMap_singleton,
    decompose_of_inSpans (by decide : inSpans stableSpans 0x61 = true),
    decompose_of_inSpans (by decide : inSpans stableSpans 0x323 = true),
    decompose_of_inSpans (by decide : inSpans stableSpans 0x301 = true)]
  rw [List.singleton_append, List.singleton_append, List.foldr_cons, List.foldr_cons,
    List.foldr_cons, List.foldr_nil, insertOrdered, insertOrdered, combiningClass_accents.1,
    combiningClass_accents.2, if_neg (by decide), insertOrdered_of_class_eq_zero base]

end Unicode

/-- A mark is in the cluster of what stands in front of it. -/
theorem clusters_of_mark {points rest : List Nat} {mark : Nat} {others : List (List Nat)}
    (point : Nat) (cut : clusters points = (mark :: rest) :: others) (joins : isMark mark = true) :
    clusters (point :: points) = (point :: mark :: rest) :: others := by
  rw [clusters, cut]
  dsimp only
  rw [List.head?_cons, Option.map_some, Option.getD_some, if_pos joins]

theorem segmentsOfCluster_of_reordered {cluster : List Nat}
    (isReordered : (cluster.map fun point => decomposedText [point]).flatten ≠
      decomposedText cluster) :
    segmentsOfCluster cluster = [⟨Text.ofPoints cluster, decomposedText cluster⟩] :=
  if_neg isReordered

/-- A letter and its two accents are one segment. -/
theorem segments_accents :
    segments [0x61, 0x301, 0x323] = [⟨[0x61, 0x301, 0x323], [0x61, 0x323, 0x301]⟩] := by
  have acute : isMark 0x301 = true := isMark_of_combiningClass_ne_zero (by
    rw [combiningClass_accents.1]; decide)
  have dot : isMark 0x323 = true := isMark_of_combiningClass_ne_zero (by
    rw [combiningClass_accents.2]; decide)
  have marks : clusters [0x301, 0x323] = [[0x301, 0x323]] :=
    @clusters_of_mark [0x323] [] 0x323 [] 0x301 rfl dot
  have cluster : clusters [0x61, 0x301, 0x323] = [[0x61, 0x301, 0x323]] :=
    @clusters_of_mark [0x301, 0x323] [0x323] 0x301 [] 0x61 marks acute
  have points : Text.points [0x61, 0x301, 0x323] = [0x61, 0x301, 0x323] := rfl
  have ofPoint : ∀ point, inSpans stableSpans point = true →
      decomposedText [point] = CodePoint.units point := fun point stable => by
    rw [decomposedText, canonicalDecomposition_stable stable, Text.ofPoints,
      List.flatMap_singleton]
  have ofCluster : decomposedText [0x61, 0x301, 0x323] = [0x61, 0x323, 0x301] := by
    rw [decomposedText, canonicalDecomposition_accents]
    rfl
  have isReordered : ([0x61, 0x301, 0x323].map fun point => decomposedText [point]).flatten ≠
      decomposedText [0x61, 0x301, 0x323] := by
    rw [List.map_cons, List.map_cons, List.map_singleton, ofPoint 0x61 (by decide),
      ofPoint 0x301 (by decide), ofPoint 0x323 (by decide), ofCluster]
    decide
  rw [segments, points, cluster, List.flatMap_singleton, segmentsOfCluster_of_reordered isReordered,
    ofCluster]
  rfl

end RegexMatching
