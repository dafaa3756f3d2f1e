import RegexMatching.Lowering.Rendering

/-!
# Quoted text

Text is quoted between two marks, and an end mark inside of it is written outside of them: one
quotation ends in front of it, a backslash is escaped, and another quotation starts behind it.
Lowering reads the quotations and what stands between them as the text itself, whatever the
options are.
-/

namespace RegexMatching.Lowering

/-! ## Quotations one by one -/

/-- Text in which no quotation ends: an end mark behind it is the first one. -/
def IsUnmarked (text : Text) : Prop :=
  ∀ rest, Text.cut? (Text.ofString "\\E") (text ++ (Text.ofString "\\E" ++ rest)) =
    some (text, rest)

theorem isUnmarked_nil : IsUnmarked [] :=
  fun _ => rfl

/-- A unit more in front makes no end mark unless it does so with the unit that follows. -/
theorem IsUnmarked.cons {text : Text} (isUnmarked : IsUnmarked text) {unit next : CodeUnit}
    {others : Text} (isNext : text ++ [0x5C] = next :: others)
    (noMark : ¬(unit.toChar = '\\' ∧ next.toChar = 'E')) : IsUnmarked (unit :: text) := by
  intro rest
  have follows : text ++ (Text.ofString "\\E" ++ rest) = next :: (others ++ 0x45 :: rest) := by
    change text ++ ([0x5C] ++ 0x45 :: rest) = _
    rw [← List.append_assoc, isNext, List.cons_append]
  have differs : ¬(Text.ofString "\\E").isPrefixOf
      (unit :: (text ++ (Text.ofString "\\E" ++ rest))) = true := by
    intro starts
    rw [follows] at starts
    change (0x5C == unit && (0x45 == next && true)) = true at starts
    rw [Bool.and_true, Bool.and_eq_true, beq_iff_eq, beq_iff_eq] at starts
    obtain ⟨rfl, rfl⟩ := starts
    exact noMark ⟨rfl, rfl⟩
  rw [List.cons_append, Text.cut?, if_neg differs, isUnmarked rest]
  rfl

/-- The first quotation of a text takes in all of it, or goes up to the first end mark. -/
theorem quoteBody_cases (text : Text) :
    (IsUnmarked text ∧ quoteBody text = text) ∨
      ∃ front back, text = front ++ (Text.ofString "\\E" ++ back) ∧ IsUnmarked front ∧
        quoteBody text = front ++ (Text.ofString "\\E\\\\E\\Q" ++ quoteBody back) := by
  fun_induction quoteBody text with
  | case1 => exact .inl ⟨isUnmarked_nil, rfl⟩
  | case2 unit =>
      refine .inl ⟨isUnmarked_nil.cons rfl ?_, rfl⟩
      rintro ⟨-, isE⟩
      revert isE
      decide
  | case3 first second rest isMark ih =>
      rw [Bool.and_eq_true, decide_eq_true_eq, decide_eq_true_eq] at isMark
      rw [CodeUnit.eq_ofChar_of_toChar (by decide) isMark.1,
        CodeUnit.eq_ofChar_of_toChar (by decide) isMark.2]
      exact .inr ⟨[], rest, rfl, isUnmarked_nil, rfl⟩
  | case4 first second rest notMark ih =>
      rw [Bool.and_eq_true, decide_eq_true_eq, decide_eq_true_eq] at notMark
      rcases ih with ⟨isUnmarked, isSame⟩ | ⟨front, back, isSplit, isUnmarked, isSame⟩
      · exact .inl ⟨isUnmarked.cons rfl notMark, congrArg (first :: ·) isSame⟩
      · refine .inr ⟨first :: front, back, congrArg (first :: ·) isSplit, ?_,
          congrArg (first :: ·) isSame⟩
        cases front with
        | nil =>
            obtain ⟨rfl, -⟩ := List.cons.inj isSplit
            exact isUnmarked_nil.cons rfl notMark
        | cons next front =>
            obtain ⟨rfl, -⟩ := List.cons.inj isSplit
            exact isUnmarked.cons rfl notMark

/-- Text is quoted quotation by quotation. -/
theorem quote_induction {motive : Text → Prop}
    (unmarked : ∀ text, IsUnmarked text →
      quote text = Text.ofString "\\Q" ++ (text ++ Text.ofString "\\E") → motive text)
    (marked : ∀ front back, IsUnmarked front →
      quote (front ++ (Text.ofString "\\E" ++ back)) =
        Text.ofString "\\Q" ++ (front ++ (Text.ofString "\\E" ++
          (Text.ofString "\\\\E" ++ quote back))) →
      motive back → motive (front ++ (Text.ofString "\\E" ++ back))) (text : Text) :
    motive text := by
  induction length : text.length using Nat.strongRecOn generalizing text with
  | ind size ih =>
      rcases quoteBody_cases text with ⟨isUnmarked, isSame⟩ | ⟨front, back, rfl, isUnmarked, isSame⟩
      · exact unmarked text isUnmarked (by rw [quote, isSame, List.append_assoc])
      · refine marked front back isUnmarked ?_ (ih back.length ?_ back rfl)
        · rw [quote, isSame, quote]
          simp only [List.append_assoc]
          rfl
        · rw [← length, List.length_append, List.length_append]
          change back.length < _ + (2 + _)
          omega

/-! ## Reading quotations -/

theorem escapeLiteral_append (first second : Text) :
    escapeLiteral (first ++ second) = escapeLiteral first ++ escapeLiteral second :=
  List.flatMap_append

/-- A step in front of pieces that have been read. -/
theorem readPieces_of_step {options : Options} {progress next last : Progress} {unit : CodeUnit}
    {rest after : Text} {piece : Piece} {pieces : List Piece}
    (stepped : readStep options progress unit rest = .ok (piece, next, after))
    (areRead : readPieces options next after = .ok (pieces, last)) :
    readPieces options progress (unit :: rest) = .ok (piece :: pieces, last) := by
  rw [readPieces]
  split
  · next failure failed =>
      rw [stepped] at failed
      contradiction
  · next piece' next' after' stepped' =>
      rw [stepped] at stepped'
      cases stepped'
      rw [areRead]
      rfl

section Steps

variable (options : Options) (progress : Progress)

theorem readStep_of_notSkipped {unit : CodeUnit} (notBlank : isPatternBlank unit = false)
    (notComment : (unit.toChar == '#') = false) (rest : Text) :
    readStep options progress unit rest = readItem options progress unit rest := by
  rw [readStep, notBlank, notComment, Bool.and_false, if_neg Bool.false_ne_true,
    if_neg Bool.false_ne_true]

theorem readStep_quotation {text : Text} (isUnmarked : IsUnmarked text) (rest : Text) :
    readStep options progress 0x5C (0x51 :: (text ++ (Text.ofString "\\E" ++ rest))) =
      .ok (.source (escapeLiteral text), progress, rest) := by
  rw [readStep_of_notSkipped options progress rfl rfl]
  change Reading.withProgress (.ok (readQuoted false _)) progress = _
  rw [readQuoted, isUnmarked rest]
  rfl

theorem readStep_backslash (rest : Text) :
    readStep options progress 0x5C (0x5C :: 0x45 :: rest) =
      .ok (.source (escapeLiteral [0x5C]), progress, 0x45 :: rest) := by
  rw [readStep_of_notSkipped options progress rfl rfl]
  rfl

theorem readStep_E (rest : Text) :
    readStep options progress 0x45 rest = .ok (.source (escapeLiteral [0x45]), progress, rest) := by
  rw [readStep_of_notSkipped options progress rfl rfl]
  rfl

end Steps

/-- Quoted text is read as its own source, in parts without an anchor. -/
theorem readPieces_quote (options : Options) (progress : Progress) (text : Text) :
    ∃ sources : List Text, sources.flatten = escapeLiteral text ∧
      readPieces options progress (quote text) = .ok (sources.map Piece.source, progress) := by
  have ended : readPieces options progress [] = .ok ([], progress) := by rw [readPieces]
  induction text using quote_induction with
  | unmarked text isUnmarked isQuoted =>
      refine ⟨[escapeLiteral text], List.append_nil _, ?_⟩
      rw [isQuoted]
      have stepped := readStep_quotation options progress isUnmarked []
      rw [List.append_nil] at stepped
      exact readPieces_of_step stepped ended
  | marked front back isUnmarked isQuoted ih =>
      obtain ⟨sources, isSource, areRead⟩ := ih
      refine ⟨escapeLiteral front :: escapeLiteral [0x5C] :: escapeLiteral [0x45] :: sources, ?_, ?_⟩
      · rw [List.flatten_cons, List.flatten_cons, List.flatten_cons, isSource,
          escapeLiteral_append, escapeLiteral_append]
        rfl
      · rw [isQuoted]
        exact readPieces_of_step (readStep_quotation options progress isUnmarked _)
          (readPieces_of_step (readStep_backslash options progress _)
            (readPieces_of_step (readStep_E options progress _) areRead))

/-- Quoted text is lowered to its own source: no groups, no names, no anchors, and nothing that the
options change. -/
theorem lower_quote {options : Options} (notLiteral : options.literal = false) (text : Text) :
    ∃ sources : List Text, sources.flatten = escapeLiteral text ∧
      lower options (quote text) = .ok (.ofPieces options (sources.map Piece.source) {}) := by
  obtain ⟨sources, isSource, areRead⟩ := readPieces_quote options {} text
  have noFlags : readLeadingFlags options (quote text) = (options, quote text) := by
    rw [readLeadingFlags]
    rfl
  refine ⟨sources, isSource, ?_⟩
  rw [lower, if_neg (Bool.eq_false_iff.mp notLiteral), noFlags]
  dsimp only
  rw [areRead]
  rfl

/-- Parts that are sources are rendered as they are. -/
theorem render_ofPieces_sources (options : Options) (sources : List Text) (progress : Progress)
    (edges : Edges) :
    (Lowered.ofPieces options (sources.map Piece.source) progress).render edges =
      sources.flatten := by
  rw [Lowered.render, Lowered.ofPieces, List.flatMap_map]
  exact List.flatMap_id

end RegexMatching.Lowering
