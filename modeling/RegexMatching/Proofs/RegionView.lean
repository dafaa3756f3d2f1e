import RegexMatching.Proofs.Offsets
import RegexMatching.Proofs.Running

/-!
# What a matcher lets an engine see

A consistent matcher has prepared its subject for its pattern, and its region lies
in the subject.  The engine is then shown the encoding of a part of the searched
text that no pair is cut at, and never anything outside.
-/

namespace RegexMatching

open Utf8 (bytesBefore)

/-! ## Offsets in the searched text -/

theorem le_of_mem_forwardOffsets {segments : List Segment} {start offset : Nat}
    (mem : offset ∈ forwardOffsets start segments) :
    offset ≤ start + (segments.flatMap Segment.normalized).length := by
  induction segments generalizing start with
  | nil =>
      rw [forwardOffsets, List.mem_singleton] at mem
      rw [mem]
      exact Nat.le_add_right _ _
  | cons segment rest ih =>
      rw [List.flatMap_cons, List.length_append]
      rw [forwardOffsets, List.mem_append, List.mem_replicate] at mem
      rcases mem with ⟨_, rfl⟩ | mem
      · exact Nat.le_add_right _ _
      · have bound := ih mem
        omega

namespace CanonicalText

theorem toNormalized_le (text : Text) (index : Nat) :
    (ofText text).toNormalized index ≤ (ofText text).normalized.length := by
  have bound : ∀ offset ∈ forwardOffsets 0 (segments text),
      offset ≤ (ofText text).normalized.length := by
    intro offset mem
    have le := le_of_mem_forwardOffsets mem
    rwa [Nat.zero_add] at le
  rw [toNormalized, ofText, Array.getD_eq_getD_getElem?, List.getElem?_toArray]
  cases entry : (forwardOffsets 0 (segments text))[index]? with
  | none => exact Nat.zero_le _
  | some offset => exact bound offset (List.mem_of_getElem? entry)

end CanonicalText

namespace SearchedText

/-- The text that is searched for a subject: the subject or its decomposition. -/
def textOf (text : Text) (isCanonical : Bool) : Text :=
  if isCanonical then (CanonicalText.ofText text).normalized else text

theorem coordinates_ofText (text : Text) (isCanonical : Bool) :
    (ofText text isCanonical).coordinates = .ofText (textOf text isCanonical) := by
  cases isCanonical <;> rfl

/-- An offset of the subject stays inside the searched text. -/
theorem ofSubject_ofText_le {text : Text} (isCanonical : Bool) {index : Nat}
    (inside : index ≤ text.length) :
    (ofText text isCanonical).ofSubject index ≤ (textOf text isCanonical).length := by
  cases isCanonical with
  | false => exact inside
  | true => exact CanonicalText.toNormalized_le text index

end SearchedText

/-! ## Consistent matchers -/

namespace Matcher

variable {σ : Type}

/-- The text that a matcher searches. -/
def searchedText (matcher : Matcher σ) : Text :=
  SearchedText.textOf matcher.text matcher.pattern.canonicalEquivalence

/-- A matcher whose parts fit together. -/
structure Consistent (matcher : Matcher σ) : Prop where
  searched : matcher.searched =
    SearchedText.ofText matcher.text matcher.pattern.canonicalEquivalence
  region_le : matcher.regionStart ≤ matcher.regionEnd
  regionEnd_le : matcher.regionEnd ≤ matcher.text.length
  view : ∀ view ∈ matcher.view, matcher.measureRegion = .ok view
  partialMatching : matcher.partialMatching = true → canMatchPartially matcher.pattern = true
  isOpen : matcher.pattern.isClosed = false

/-- Where the engine starts to see the searched text. -/
def viewStart (matcher : Matcher σ) : Nat :=
  matcher.searchedText.ceilIndex (matcher.searched.ofSubject matcher.regionStart)

/-- Where the engine ceases to see the searched text. -/
def viewEnd (matcher : Matcher σ) : Nat :=
  matcher.searchedText.floorIndex (matcher.searched.ofSubject matcher.regionEnd)

/-- What the engine sees of the searched text. -/
def viewText (matcher : Matcher σ) : Text :=
  matcher.searchedText.between matcher.viewStart matcher.viewEnd

/-- What the engine sees, in bytes. -/
def seenView (matcher : Matcher σ) : RegionView where
  bytes := Utf8.encode matcher.viewText
  byteStart := bytesBefore matcher.searchedText matcher.viewStart
  byteEnd := bytesBefore matcher.searchedText matcher.viewEnd

namespace Consistent

variable {matcher : Matcher σ} (consistent : matcher.Consistent)

include consistent

theorem regionStart_le : matcher.regionStart ≤ matcher.text.length :=
  Nat.le_trans consistent.region_le consistent.regionEnd_le

theorem coordinates : matcher.searched.coordinates = .ofText matcher.searchedText := by
  rw [consistent.searched, SearchedText.coordinates_ofText]
  rfl

theorem ofSubject_le {index : Nat} (inside : index ≤ matcher.text.length) :
    matcher.searched.ofSubject index ≤ matcher.searchedText.length := by
  rw [consistent.searched]
  exact SearchedText.ofSubject_ofText_le _ inside

theorem isBoundary_viewStart : matcher.searchedText.IsBoundary matcher.viewStart :=
  Text.isBoundary_ceilIndex (consistent.ofSubject_le consistent.regionStart_le)

theorem isBoundary_viewEnd : matcher.searchedText.IsBoundary matcher.viewEnd :=
  Text.isBoundary_floorIndex (consistent.ofSubject_le consistent.regionEnd_le)

/-- The region is measured without a fault. -/
theorem measureRegion_eq : matcher.measureRegion = .ok matcher.seenView := by
  have startInside := consistent.ofSubject_le consistent.regionStart_le
  have endInside := consistent.ofSubject_le consistent.regionEnd_le
  have bytes := Utf8.encode_between consistent.isBoundary_viewStart consistent.isBoundary_viewEnd
  simp only [measureRegion, consistent.coordinates, Coordinates.ceilByteAt_ofText _ startInside,
    Coordinates.byteAt_ofText _ endInside, Coordinates.bytes_ofText]
  exact congrArg (fun bytes => Except.ok (RegionView.mk bytes _ _)) bytes

/-- The region is seen as it is measured, whether or not it has been seen before. -/
theorem regionView_eq : matcher.regionView = .ok matcher.seenView := by
  unfold regionView
  cases seen : matcher.view with
  | none => exact consistent.measureRegion_eq
  | some view =>
      rw [← consistent.measureRegion_eq]
      exact (consistent.view view seen).symm

end Consistent

end Matcher

end RegexMatching
