import RegexMatching.Proofs.ByteOrderMarks
import RegexMatching.Proofs.CompiledCode
import RegexMatching.Proofs.EndAnchoring
import RegexMatching.Proofs.Replacement
import RegexMatching.Proofs.RoundedOffsets
import RegexMatching.Proofs.StepRuns

/-!
# Places of syntax errors

Where lowering fails, it fails at an offset of the text that the engine has read from bytes.  The
offset is told in bytes, which lead back to the same offset of the text that was encoded, and from
there to the expression as the caller wrote it: to the same index, or to the start of the segment
that decomposes into what stands there.
-/

namespace RegexMatching

/-! ## Starts of segments -/

/-- Where the segment starts in the source that holds an offset of the decomposed text.  What holds
the end of the text is its end. -/
def IsSegmentStartOf (segments : List Segment) (offset start : Nat) : Prop :=
  ∃ before after, segments = before ++ after ∧
    start = (before.flatMap Segment.source).length ∧
    (before.flatMap Segment.normalized).length ≤ offset ∧
    ∀ segment ∈ after.head?,
      offset < (before.flatMap Segment.normalized).length + segment.normalized.length

theorem isSegmentStartOf_sourceFloor (segments : List Segment) (offset : Nat) :
    IsSegmentStartOf segments offset (sourceFloor segments offset) := by
  induction segments generalizing offset with
  | nil => exact ⟨[], [], rfl, rfl, Nat.zero_le _, nofun⟩
  | cons segment rest ih =>
      rw [sourceFloor]
      split
      · next isInside =>
          refine ⟨[], segment :: rest, rfl, rfl, Nat.zero_le _, fun other isHead => ?_⟩
          obtain rfl := Option.some.inj isHead
          simpa using isInside
      · obtain ⟨before, after, rfl, start_eq, le, holds⟩ := ih (offset - segment.normalized.length)
        refine ⟨segment :: before, after, rfl, ?_, ?_, fun other isHead => ?_⟩
        · rw [List.flatMap_cons, List.length_append, start_eq]
        · rw [List.flatMap_cons, List.length_append]
          omega
        · have less := holds other isHead
          rw [List.flatMap_cons, List.length_append]
          omega

theorem sourceFloor_le (segments : List Segment) (offset : Nat) :
    sourceFloor segments offset ≤ (segments.flatMap Segment.source).length := by
  obtain ⟨before, after, rfl, start_eq, -⟩ := isSegmentStartOf_sourceFloor segments offset
  rw [start_eq, List.flatMap_append, List.length_append]
  exact Nat.le_add_right _ _

/-! ## From the engine to the caller -/

namespace Backtracking

open Lowering

/-- Code is refused where lowering fails. -/
theorem compile_of_failure {bytes : Bytes} {options : CompileOptions} {failure : Failure}
    (failed : lower (loweringOptions options) (Utf8.decodeText bytes) = .error failure)
    (anchoring : Anchoring) :
    compile bytes (anchoring.applyTo options) =
      .error (rejectionOf (Utf8.decodeText bytes) failure) := by
  unfold compile
  dsimp only
  split
  · next other isFailed =>
      obtain rfl := Except.error.inj (failed.symm.trans isFailed)
      rfl
  · next lowered isLowered => exact absurd (failed.symm.trans isLowered) nofun

/-- The place of a failure in bytes leads back to its offset. -/
theorem syntaxFault_rejectionOf {text : Text} {options : Lowering.Options} {failure : Failure}
    (failed : lower options text.toWellFormed = .error failure) (mapIndex : Int → Int)
    (displayed : Text) :
    Adapter.syntaxFault text (rejectionOf text.toWellFormed failure) mapIndex displayed =
      .badPattern (.text failure.cause.message) displayed
        (mapIndex (failure.offset text.toWellFormed)) := by
  have boundary := isBoundary_offset failed
  have byte : (rejectionOf text.toWellFormed failure).offset =
      Utf8.bytesBefore text.toWellFormed (failure.offset text.toWellFormed) := by
    rw [rejectionOf, Nat.min_eq_left boundary.1, Coordinates.byteAt_ofText _ boundary.1,
      Text.floorIndex_eq_self boundary]
  rw [Adapter.syntaxFault, byte, if_neg (Int.not_lt.mpr (Int.natCast_nonneg _)), Int.toNat_natCast,
    ← Coordinates.floorUnitAt_toWellFormed, Coordinates.floorUnitAt_bytesBefore boundary]
  rfl

end Backtracking

namespace PatternText

theorem source_ofSource (source : Text) (flags : Flags) :
    (ofSource source flags).source = source := by
  rw [ofSource]
  split <;> rfl

/-- Pattern text starts with a byte order mark only where the expression does. -/
theorem head?_text_ne {source : Text} (noMark : source.head? ≠ some 0xFEFF) (flags : Flags) :
    (ofSource source flags).text.head? ≠ some 0xFEFF := by
  rw [ofSource]
  split
  · exact CanonicalText.head?_normalized_ne noMark
  · exact noMark

/-- An offset of pattern text lies in the expression at itself, or at the start of its segment. -/
theorem exists_toSource {source : Text} {flags : Flags} {offset : Nat}
    (inside : offset ≤ (ofSource source flags).text.length) :
    ∃ index : Nat, (ofSource source flags).toSource offset = index ∧ index ≤ source.length ∧
      if flags.canonicalEquivalence then IsSegmentStartOf (segments source) offset index
      else index = offset := by
  cases isCanonical : flags.canonicalEquivalence with
  | false =>
      have same : ofSource source flags = ⟨source, source, id⟩ := by
        rw [ofSource, isCanonical]
        rfl
      rw [same] at inside ⊢
      exact ⟨offset, rfl, inside, rfl⟩
  | true =>
      have same : ofSource source flags =
          ⟨source, (CanonicalText.ofText source).normalized,
            fun index => (CanonicalText.ofText source).toSourceStart index.toNat⟩ := by
        rw [ofSource, isCanonical]
        rfl
      rw [same] at inside ⊢
      refine ⟨sourceFloor (segments source) offset, ?_, ?_, isSegmentStartOf_sourceFloor _ _⟩
      · exact congrArg Nat.cast (CanonicalText.toSourceStart_eq inside)
      · have le := sourceFloor_le (segments source) offset
        rwa [Text.flatMap_segments] at le

end PatternText

namespace Pattern

open Lowering Backtracking

/-- Compiling fails where lowering does: with its message, at the place in the expression that
belongs to its offset. -/
theorem compile_of_lower_failure (isLogged : Bool) {source : Text}
    (noMark : source.head? ≠ some 0xFEFF) {flags : Number} {parsed : Flags}
    (isParsed : Flags.ofNumber flags = .ok parsed) (settings : PatternSettings)
    (trace : Trace EngineState) {failure : Failure}
    (failed : lower (loweringOptions parsed.compileOptions)
      (PatternText.ofSource source parsed).text.toWellFormed = .error failure) :
    ((compile EngineKind.backtracking.engine isLogged source flags settings).run trace).1 =
      .error (.badPattern (.text failure.cause.message) source
        ((PatternText.ofSource source parsed).toSource
          (failure.offset (PatternText.ofSource source parsed).text.toWellFormed))) := by
  have read := Utf8.decodeText_encode (PatternText.head?_text_ne noMark parsed)
  have rejected : Backtracking.compile (Utf8.encode (PatternText.ofSource source parsed).text)
      (Anchoring.search.applyTo parsed.compileOptions) = .error
        (rejectionOf (PatternText.ofSource source parsed).text.toWellFormed failure) := by
    rw [← read] at failed ⊢
    exact compile_of_failure failed .search
  have isRefused := @compile_rejected .backtracking isLogged source flags settings parsed isParsed
    trace _ rejected
  rwa [syntaxFault_rejectionOf failed, PatternText.source_ofSource] at isRefused

/-- Reading an expression ends, and a syntax error that lowering finds is placed in the expression
as the caller wrote it: at the offset of the failure, which splits no pair, or at the start of the
segment that holds it. -/
theorem syntax_errors_point_into_source (isLogged : Bool) {source : Text}
    (noMark : source.head? ≠ some 0xFEFF) {flags : Number} {parsed : Flags}
    (isParsed : Flags.ofNumber flags = .ok parsed) (settings : PatternSettings)
    (trace : Trace EngineState) :
    let text := (PatternText.ofSource source parsed).text.toWellFormed
    let options := loweringOptions parsed.compileOptions
    ReadingEnds (readLeadingFlags options text).1 (readLeadingFlags options text).2 ∧
    ∀ failure, lower options text = .error failure →
      text.IsBoundary (failure.offset text) ∧
      ∃ index : Nat,
        ((compile EngineKind.backtracking.engine isLogged source flags settings).run trace).1 =
          .error (.badPattern (.text failure.cause.message) source index) ∧
        index ≤ source.length ∧
        if parsed.canonicalEquivalence then
          IsSegmentStartOf (segments source) (failure.offset text) index
        else index = failure.offset text := by
  intro text options
  refine ⟨readingEnds _ _, fun failure failed => ?_⟩
  have boundary := isBoundary_offset failed
  have inside := boundary.1
  rw [Text.length_toWellFormed] at inside
  obtain ⟨index, isIndex, inSource, isPlace⟩ := PatternText.exists_toSource inside
  refine ⟨boundary, index, ?_, inSource, isPlace⟩
  rw [compile_of_lower_failure isLogged noMark isParsed settings trace failed, isIndex]

/-- Behind half of a pair, a possessive quantifier is found at its own index. -/
theorem syntax_errors_point_into_source_behind_half :
    ((compile EngineKind.backtracking.engine false (0xD800 :: Text.ofString "a++") (.ofNat 0)
      {}).run ⟨{}, []⟩).1 =
        .error (.badPattern (.text Cause.possessive.message) (0xD800 :: Text.ofString "a++") 3) := by
  have evaluated : (match lower {} (Text.toWellFormed (0xD800 :: Text.ofString "a++")) with
      | .ok _ => false
      | .error failure => failure == ⟨.possessive, Text.ofString "+"⟩) = true := by
    decide +kernel
  have isParsed : Flags.ofNumber (.ofNat 0) = .ok {} := rfl
  have places := (syntax_errors_point_into_source false
    (by decide : (0xD800 :: Text.ofString "a++" : Text).head? ≠ some 0xFEFF) isParsed {}
    ⟨{}, []⟩).2
  cases outcome : lower {} (Text.toWellFormed (0xD800 :: Text.ofString "a++")) with
  | ok lowered =>
      rw [outcome] at evaluated
      contradiction
  | error failure =>
      rw [outcome] at evaluated
      obtain rfl := beq_iff_eq.mp evaluated
      obtain ⟨-, index, failed, -, isIndex⟩ := places _ outcome
      have isThird : index = 3 := isIndex
      rw [isThird] at failed
      exact failed

end Pattern

end RegexMatching
