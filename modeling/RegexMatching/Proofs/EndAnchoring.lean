import RegexMatching.Pattern
import RegexMatching.Engine.Backtracking
import RegexMatching.Proofs.Enclosing
import RegexMatching.Proofs.Positions

/-!
# Code that ends with the subject

Code of a pattern that backtracks is anchored at the end by a group around the rendered pattern
and an assertion behind it.  Where the pattern can be read, so can this.
-/

namespace RegexMatching

/-- The points of an expression that only matches at the end of the subject. -/
theorem points_endAnchor (source : Text) :
    (BacktrackCode.endAnchor source).points =
      "(?:".toList.map Char.toNat ++ source.points ++
        ")(?![\\s\\S])".toList.map Char.toNat := by
  have front : ∀ text : Text, Text.points (Text.ofString "(?:" ++ text) =
      "(?:".toList.map Char.toNat ++ text.points := by
    intro text
    change Text.points (0x28 :: 0x3F :: 0x3A :: text) = _
    rw [Text.points_cons_of_not_high rfl, Text.points_cons_of_not_high rfl,
      Text.points_cons_of_not_high rfl]
    rfl
  have back : Text.ofString ")(?![\\s\\S])" =
      0x29 :: Text.ofString "(?![\\s\\S])" := rfl
  rw [BacktrackCode.endAnchor, back, Text.points_append_of_not_low _ rfl, front]
  rfl

namespace BacktrackCode

/-- Where code can be read, so can code that ends with the subject. -/
theorem regex?_endAnchored (code : BacktrackCode) (options : MatchOptions)
    (notEnded : options.endAnchored = false) {regex : Backtrack.Regex}
    (isRead : code.regex? options = some regex) :
    code.regex? { options with endAnchored := true } =
      some { regex with
        node := .sequence regex.node (.look true true (.set Backtrack.everyPoint)) } := by
  rw [regex?, notEnded] at isRead
  rw [regex?]
  dsimp only at isRead ⊢
  rw [if_neg Bool.false_ne_true] at isRead
  rw [if_pos rfl, points_endAnchor]
  exact Backtrack.ofPoints?_enclosed isRead

end BacktrackCode

namespace Backtracking

/-- What lowering takes from the options of a compile call. -/
def loweringOptions (options : CompileOptions) : Lowering.Options where
  caseless := options.caseless
  dotAll := options.dotAll
  multiline := options.multiline
  literal := options.literal
  extended := options.extended
  unicodeClasses := options.unicodeClasses
  newlineLf := options.newlineLf

/-- A lowered pattern is code for an anchoring where its rendering can be read. -/
theorem compile_eq_of_lower {bytes : Bytes} {options : CompileOptions} {lowered : Lowering.Lowered}
    (isLowered : Lowering.lower (loweringOptions options) (Utf8.decodeText bytes) = .ok lowered) :
    compile bytes options =
      let code : BacktrackCode := ⟨lowered, options.anchored, options.endAnchored⟩
      if (code.regex? (code.withOwnAnchoring {})).isSome then .ok code
      else .error { code := ResultCode.internal, description := .engineOwn } := by
  rw [loweringOptions] at isLowered
  rw [compile, isLowered]

/-- Compiled code is a lowered pattern whose rendering for its own anchoring can be read. -/
theorem exists_lowered_of_compile {bytes : Bytes} {options : CompileOptions} {code : BacktrackCode}
    (compiled : compile bytes options = .ok code) :
    ∃ lowered, Lowering.lower (loweringOptions options) (Utf8.decodeText bytes) = .ok lowered ∧
      code = ⟨lowered, options.anchored, options.endAnchored⟩ ∧
      (code.regex? (code.withOwnAnchoring {})).isSome = true := by
  rw [compile] at compiled
  dsimp only at compiled
  split at compiled
  · contradiction
  · next lowered isLowered =>
      split at compiled
      · next isSome =>
          cases compiled
          exact ⟨lowered, isLowered, rfl, isSome⟩
      · contradiction

/-- Plain code is a lowered pattern whose rendering can be read. -/
theorem exists_regex_of_compile {bytes : Bytes} {options : CompileOptions} {plain : BacktrackCode}
    (compiled : compile bytes (Anchoring.search.applyTo options) = .ok plain) :
    ∃ lowered regex,
      Lowering.lower (loweringOptions options) (Utf8.decodeText bytes) = .ok lowered ∧
      plain = ⟨lowered, false, false⟩ ∧
      Backtrack.Regex.ofPoints? (lowered.render {}).points lowered.caseless = some regex := by
  obtain ⟨lowered, isLowered, rfl, isSome⟩ := exists_lowered_of_compile compiled
  obtain ⟨regex, isRead⟩ := Option.isSome_iff_exists.mp isSome
  exact ⟨lowered, regex, isLowered, rfl, isRead⟩

/-- A lowered pattern whose rendering can be read is plain code. -/
theorem compile_of_read {bytes : Bytes} {options : CompileOptions} {lowered : Lowering.Lowered}
    {regex : Backtrack.Regex}
    (isLowered : Lowering.lower (loweringOptions options) (Utf8.decodeText bytes) = .ok lowered)
    (isRead : Backtrack.Regex.ofPoints? (lowered.render {}).points lowered.caseless = some regex) :
    compile bytes (Anchoring.search.applyTo options) = .ok ⟨lowered, false, false⟩ := by
  rw [@compile_eq_of_lower _ (Anchoring.search.applyTo options) _ isLowered]
  exact if_pos (Option.isSome_of_mem isRead)

/-- A search with code that can be read is a search with its expression. -/
theorem search_of_read (code : BacktrackCode) (options : MatchOptions)
    {regex : Backtrack.Regex} (isRead : code.regex? (code.withOwnAnchoring options) = some regex)
    (text : PointText) (position : Nat) :
    search code text position options =
      .ok (regex.exec (options.anchored || code.anchored) text.points position) := by
  rw [search, isRead]
  rfl

/-- Where a pattern compiles to plain code, it compiles for every anchoring. -/
theorem exists_compile_of_plain {bytes : Bytes} {options : CompileOptions} {plain : BacktrackCode}
    (compiled : compile bytes (Anchoring.search.applyTo options) = .ok plain)
    (anchoring : Anchoring) : ∃ own, compile bytes (anchoring.applyTo options) = .ok own := by
  obtain ⟨lowered, regex, isLowered, rfl, isRead⟩ := exists_regex_of_compile compiled
  have isLowered' : Lowering.lower (loweringOptions (anchoring.applyTo options))
      (Utf8.decodeText bytes) = .ok lowered := by
    cases anchoring <;> exact isLowered
  rw [compile_eq_of_lower isLowered']
  refine ⟨_, if_pos ?_⟩
  cases anchoring with
  | search => exact Option.isSome_of_mem isRead
  | lookingAt => exact Option.isSome_of_mem isRead
  | whole =>
      have ended := BacktrackCode.regex?_endAnchored ⟨lowered, true, true⟩
        { anchored := true } rfl isRead
      exact Option.isSome_of_mem ended

end Backtracking

end RegexMatching
