import Mathlib.Data.List.Chain
import Mathlib.Data.List.Forall2
import RegexMatching.Proofs.Segments

/-!
# Canonical order is local

Code points are in canonical order if no mark of a lower class comes directly behind one of a higher
class.  What is put in order is in order, what is in order stays as it is, and putting parts in
order first makes no difference.  So wherever a text falls into parts whose decompositions make up
its own, the decomposition of successive parts is made up in the same way.
-/

namespace RegexMatching

namespace Unicode

/-! ## Ordered code points -/

/-- Whether a code point stays in front of the next one. -/
def StaysInFront (point next : Nat) : Prop :=
  ¬(0 < combiningClass next ∧ combiningClass next < combiningClass point)

/-- Code points in canonical order. -/
def IsOrdered (points : List Nat) : Prop :=
  points.IsChain StaysInFront

theorem insertOrdered_of_staysInFront {point next : Nat} (stays : StaysInFront point next)
    (rest : List Nat) : insertOrdered point (next :: rest) = point :: next :: rest := by
  rw [insertOrdered, if_neg]
  simpa [StaysInFront] using stays

theorem insertOrdered_of_moves {point next : Nat} (moves : ¬StaysInFront point next)
    (rest : List Nat) :
    insertOrdered point (next :: rest) = next :: insertOrdered point rest := by
  rw [insertOrdered, if_pos]
  simpa [StaysInFront] using moves

theorem head?_insertOrdered_cases (point : Nat) (points : List Nat) :
    (insertOrdered point points).head? = some point ∨
      (insertOrdered point points).head? = points.head? := by
  cases points with
  | nil => exact .inl rfl
  | cons next rest =>
      by_cases stays : StaysInFront point next
      · rw [insertOrdered_of_staysInFront stays]
        exact .inl rfl
      · rw [insertOrdered_of_moves stays]
        exact .inr rfl

theorem IsOrdered.insertOrdered {points : List Nat} (isOrdered : IsOrdered points) (point : Nat) :
    IsOrdered (insertOrdered point points) := by
  induction points with
  | nil => exact .singleton point
  | cons next rest ih =>
      by_cases stays : StaysInFront point next
      · rw [insertOrdered_of_staysInFront stays]
        exact isOrdered.cons_cons stays
      · rw [insertOrdered_of_moves stays]
        obtain ⟨ofNext, ofRest⟩ := List.isChain_cons.mp isOrdered
        refine List.isChain_cons.mpr ⟨fun head isHead => ?_, ih ofRest⟩
        rcases head?_insertOrdered_cases point rest with isPoint | isOld
        · rw [isPoint, Option.mem_some] at isHead
          subst isHead
          unfold StaysInFront at stays ⊢
          omega
        · exact ofNext head (isOld ▸ isHead)

/-- What is put in order is in order. -/
theorem isOrdered_foldr (points : List Nat) : IsOrdered (points.foldr insertOrdered []) := by
  induction points with
  | nil => exact .nil
  | cons point rest ih => exact ih.insertOrdered point

/-- What is in order stays as it is. -/
theorem foldr_of_isOrdered {points : List Nat} (isOrdered : IsOrdered points) :
    points.foldr insertOrdered [] = points := by
  induction points with
  | nil => rfl
  | cons point rest ih =>
      obtain ⟨ofPoint, ofRest⟩ := List.isChain_cons.mp isOrdered
      rw [List.foldr_cons, ih ofRest]
      cases rest with
      | nil => rfl
      | cons next rest => exact insertOrdered_of_staysInFront (ofPoint next rfl) rest

/-! ## Order in parts -/

/-- A mark that moves behind another does so wherever both are inserted. -/
theorem insertOrdered_comm {point next : Nat} (moves : ¬StaysInFront point next)
    (points : List Nat) :
    insertOrdered next (insertOrdered point points) =
      insertOrdered point (insertOrdered next points) := by
  have back : StaysInFront next point := by
    unfold StaysInFront at moves ⊢
    omega
  induction points with
  | nil =>
      change insertOrdered next [point] = insertOrdered point [next]
      rw [insertOrdered_of_staysInFront back, insertOrdered_of_moves moves]
      rfl
  | cons first rest ih =>
      by_cases staysNext : StaysInFront next first
      · rw [insertOrdered_of_staysInFront staysNext, insertOrdered_of_moves moves]
        by_cases stays : StaysInFront point first
        · rw [insertOrdered_of_staysInFront stays, insertOrdered_of_staysInFront back]
        · rw [insertOrdered_of_moves stays, insertOrdered_of_staysInFront staysNext]
      · have stays : ¬StaysInFront point first := by
          unfold StaysInFront at moves staysNext ⊢
          omega
        rw [insertOrdered_of_moves stays, insertOrdered_of_moves staysNext,
          insertOrdered_of_moves staysNext, insertOrdered_of_moves stays, ih]

theorem foldr_insertOrdered_insertOrdered (point : Nat) (points back : List Nat) :
    (insertOrdered point points).foldr insertOrdered back =
      insertOrdered point (points.foldr insertOrdered back) := by
  induction points with
  | nil => rfl
  | cons next rest ih =>
      by_cases stays : StaysInFront point next
      · rw [insertOrdered_of_staysInFront stays]
        rfl
      · rw [insertOrdered_of_moves stays, List.foldr_cons, ih, insertOrdered_comm stays,
          List.foldr_cons]

/-- Putting what is in front in order first makes no difference. -/
theorem foldr_insertOrdered_foldr (front back : List Nat) :
    (front.foldr insertOrdered []).foldr insertOrdered back = front.foldr insertOrdered back := by
  induction front with
  | nil => rfl
  | cons point rest ih =>
      rw [List.foldr_cons, foldr_insertOrdered_insertOrdered, ih, List.foldr_cons]

/-- A decomposition is that of its parts, put in order. -/
theorem canonicalDecomposition_flatten (parts : List (List Nat)) :
    canonicalDecomposition parts.flatten =
      (parts.flatMap canonicalDecomposition).foldr insertOrdered [] := by
  induction parts with
  | nil => rfl
  | cons part rest ih =>
      rw [List.flatten_cons, canonicalDecomposition, List.flatMap_append, List.foldr_append,
        ← canonicalDecomposition, ih, List.flatMap_cons, List.foldr_append, canonicalDecomposition,
        foldr_insertOrdered_foldr]

/-- If the decompositions of all parts make up that of the whole, those of successive parts make up
that of what the parts are. -/
theorem canonicalDecomposition_infix {parts inside : List (List Nat)}
    (whole : parts.flatMap canonicalDecomposition = canonicalDecomposition parts.flatten)
    (isInfix : inside <:+: parts) :
    inside.flatMap canonicalDecomposition = canonicalDecomposition inside.flatten := by
  have isOrdered : IsOrdered (parts.flatMap canonicalDecomposition) := by
    rw [whole]
    exact isOrdered_foldr _
  have insideOrdered : IsOrdered (inside.flatMap canonicalDecomposition) := by
    obtain ⟨front, back, rfl⟩ := isInfix
    rw [List.flatMap_append, List.flatMap_append] at isOrdered
    exact isOrdered.infix ⟨_, _, rfl⟩
  rw [canonicalDecomposition_flatten, foldr_of_isOrdered insideOrdered]

/-! ## Decompositions as text -/

/-- Whether two code points are the same or both have a class. -/
def SameBase (first second : Nat) : Prop :=
  first = second ∨ combiningClass first ≠ 0 ∧ combiningClass second ≠ 0

theorem SameBase.trans {first second third : Nat} (same : SameBase first second)
    (same' : SameBase second third) : SameBase first third := by
  rcases same with rfl | ⟨hasClass, hasClass'⟩
  · exact same'
  · rcases same' with rfl | ⟨-, hasClass''⟩
    · exact .inr ⟨hasClass, hasClass'⟩
    · exact .inr ⟨hasClass, hasClass''⟩

theorem SameBase.symm {first second : Nat} (same : SameBase first second) :
    SameBase second first :=
  same.imp Eq.symm And.symm

/-- Code points that differ in those of a class only. -/
abbrev SameBases : List Nat → List Nat → Prop :=
  List.Forall₂ SameBase

theorem sameBases_refl (points : List Nat) : SameBases points points :=
  List.forall₂_same.mpr fun _ _ => .inl rfl

theorem SameBases.symm {first second : List Nat} (same : SameBases first second) :
    SameBases second first :=
  (List.Forall₂.flip same).imp fun _ _ => SameBase.symm

theorem SameBases.trans {first second third : List Nat} (same : SameBases first second)
    (same' : SameBases second third) : SameBases first third := by
  induction same generalizing third with
  | nil => exact same'
  | cons ofHead _ ih =>
      cases same' with
      | cons ofHead' ofTail' => exact .cons (ofHead.trans ofHead') (ih ofTail')

theorem sameBases_insertOrdered (point : Nat) (points : List Nat) :
    SameBases (point :: points) (insertOrdered point points) := by
  induction points with
  | nil => exact sameBases_refl _
  | cons next rest ih =>
      by_cases stays : StaysInFront point next
      · rw [insertOrdered_of_staysInFront stays]
        exact sameBases_refl _
      · rw [insertOrdered_of_moves stays]
        have haveClasses : SameBase point next := by
          unfold StaysInFront at stays
          exact .inr (by omega)
        exact .cons haveClasses
          (SameBases.trans (.cons haveClasses.symm (sameBases_refl rest)) ih)

/-- Putting code points in order leaves those without a class in place. -/
theorem sameBases_foldr (points : List Nat) : SameBases points (points.foldr insertOrdered []) := by
  induction points with
  | nil => exact .nil
  | cons point rest ih =>
      exact SameBases.trans (.cons (.inl rfl) ih) (sameBases_insertOrdered point _)

theorem sameBases_flatMap (parts : List (List Nat)) :
    SameBases (parts.flatten.flatMap decompose) (parts.flatMap canonicalDecomposition) := by
  induction parts with
  | nil => exact .nil
  | cons part rest ih =>
      rw [List.flatten_cons, List.flatMap_append, List.flatMap_cons]
      exact List.rel_append (sameBases_foldr _) ih

/-- Whether the classes of a table are those of code points that text can hold on their own. -/
def classesAreScalar (classes : List (Run Nat)) : Bool :=
  classes.all fun run => run.last < 0xD800 || 0xDFFF < run.first && run.last ≤ CodePoint.last

theorem classesAreScalar_eq_true : classesAreScalar combiningRuns.toList = true := by
  apply @check_readRuns Nat Nat decimalNumber decimalNumber combiningLines [] _ []
    fun classes _ => classesAreScalar classes
  · dsimp only [combiningLines]
    repeat apply Spells.cons
    exact .nil
  · exact .nil
  · decide +kernel

/-- No surrogate has a class. -/
theorem isScalar_of_combiningClass_ne_zero {point : Nat} (hasClass : combiningClass point ≠ 0) :
    point ≤ CodePoint.last ∧ ¬(0xD800 ≤ point ∧ point ≤ 0xDFFF) := by
  rw [combiningClass] at hasClass
  cases found : lookup? combiningRuns point with
  | none =>
      rw [found] at hasClass
      exact absurd rfl hasClass
  | some value =>
      obtain ⟨run, mem, -, holds⟩ := mem_of_lookup? found
      have isScalar := List.all_eq_true.mp classesAreScalar_eq_true run (Array.mem_def.mp mem)
      have bounds := Run.bounds_of_contains holds
      simp only [Bool.or_eq_true, Bool.and_eq_true, decide_eq_true_eq] at isScalar
      unfold CodePoint.last at isScalar ⊢
      omega

end Unicode

open Unicode

/-- Two code points that are no surrogates begin text in different ways. -/
theorem CodePoint.eq_of_units_append {first second : Nat} {rest rest' : Text}
    (isScalar : first ≤ CodePoint.last ∧ ¬(0xD800 ≤ first ∧ first ≤ 0xDFFF))
    (isScalar' : second ≤ CodePoint.last ∧ ¬(0xD800 ≤ second ∧ second ≤ 0xDFFF))
    (same : CodePoint.units first ++ rest = CodePoint.units second ++ rest') :
    first = second := by
  have values := congrArg (List.map UInt16.toNat) same
  rw [List.map_append, List.map_append, toNat_units isScalar.1, toNat_units isScalar'.1] at values
  obtain ⟨inside, notSurrogate⟩ := isScalar
  obtain ⟨inside', notSurrogate'⟩ := isScalar'
  unfold CodePoint.last at inside inside'
  split at values <;> split at values <;>
    simp only [List.cons_append, List.nil_append, List.cons.injEq] at values <;> omega

/-- Code points that have the same bases are the same if they are written alike. -/
theorem eq_of_ofPoints_eq {points points' : List Nat} (sameBases : SameBases points points')
    (same : Text.ofPoints points = Text.ofPoints points') : points = points' := by
  induction sameBases with
  | nil => rfl
  | @cons first second rest rest' sameBase _ ih =>
      have parts : CodePoint.units first ++ Text.ofPoints rest =
          CodePoint.units second ++ Text.ofPoints rest' := same
      obtain rfl : first = second := by
        rcases sameBase with same | ⟨hasClass, hasClass'⟩
        · exact same
        · exact CodePoint.eq_of_units_append (isScalar_of_combiningClass_ne_zero hasClass)
            (isScalar_of_combiningClass_ne_zero hasClass') parts
      rw [ih (List.append_cancel_left parts)]

/-! ## Parts of a text -/

/-- Code points as a segment. -/
def Segment.ofPoints (part : List Nat) : Segment :=
  ⟨Text.ofPoints part, decomposedText part⟩

/-- Code points in parts that are the segments of a text. -/
structure Text.IsCutInto (text : Text) (parts : List (List Nat)) : Prop where
  segments_eq : segments text = parts.map Segment.ofPoints
  flatten_eq : parts.flatten = text.points

theorem exists_parts_of_cluster (cluster : List Nat) :
    ∃ parts : List (List Nat), segmentsOfCluster cluster = parts.map Segment.ofPoints ∧
      parts.flatten = cluster := by
  rw [segmentsOfCluster]
  split
  · refine ⟨cluster.map fun point => [point], ?_, ?_⟩
    · rw [List.map_map]
      refine List.map_congr_left fun point _ => ?_
      simp [Segment.ofPoints, Text.ofPoints]
    · rw [← List.flatMap_def, List.flatMap_singleton']
  · exact ⟨[cluster], rfl, List.flatten_singleton⟩

/-- Every text is cut into parts. -/
theorem Text.exists_isCutInto (text : Text) : ∃ parts, text.IsCutInto parts := by
  have all : ∀ cut : List (List Nat), ∃ parts : List (List Nat),
      cut.flatMap segmentsOfCluster = parts.map Segment.ofPoints ∧
        parts.flatten = cut.flatten := by
    intro cut
    induction cut with
    | nil => exact ⟨[], rfl, rfl⟩
    | cons cluster rest ih =>
        obtain ⟨parts, parts_eq, flatten_eq⟩ := ih
        obtain ⟨first, first_eq, flatten_eq'⟩ := exists_parts_of_cluster cluster
        refine ⟨first ++ parts, ?_, ?_⟩
        · rw [List.flatMap_cons, first_eq, parts_eq, List.map_append]
        · rw [List.flatten_append, flatten_eq, flatten_eq', List.flatten_cons]
  obtain ⟨parts, parts_eq, flatten_eq⟩ := all (clusters text.points)
  exact ⟨parts, parts_eq, flatten_eq.trans (flatten_clusters _)⟩

namespace Text.IsCutInto

variable {text : Text} {parts : List (List Nat)} (isCut : text.IsCutInto parts)

include isCut

/-- The decompositions of the parts make up that of the text, code point by code point. -/
theorem flatMap_canonicalDecomposition :
    parts.flatMap canonicalDecomposition = canonicalDecomposition parts.flatten := by
  refine eq_of_ofPoints_eq ?_ ?_
  · exact (sameBases_flatMap parts).symm.trans (sameBases_foldr _)
  · have whole := CanonicalText.normalized_ofText text
    change (segments text).flatMap Segment.normalized = _ at whole
    rw [isCut.segments_eq, List.flatMap_map, ← isCut.flatten_eq, decomposedText] at whole
    rw [← whole, Text.ofPoints, List.flatMap_assoc]
    rfl

/-- Successive parts are decomposed as what they are together. -/
theorem flatMap_decomposedText {inside : List (List Nat)} (isInfix : inside <:+: parts) :
    inside.flatMap decomposedText = decomposedText inside.flatten := by
  rw [decomposedText,
    ← canonicalDecomposition_infix isCut.flatMap_canonicalDecomposition isInfix, Text.ofPoints,
    List.flatMap_assoc]
  rfl

end Text.IsCutInto

end RegexMatching
