import RegexMatching.Proofs.Remainders

/-!
# Reading step by step

Lowering takes one step after the other, each of which shortens the text.  So no run of steps is
longer than the text it starts with.  A run that cannot go on is at the end of the text, which is
lowered then, or in front of a step that fails, and lowering fails as the step does.
-/

namespace RegexMatching.Lowering

/-! ## Runs -/

/-- Steps in a row, from groups opened so far and a text to later ones, and the pieces they
write. -/
inductive Reads (options : Options) : Progress → Text → List Piece → Progress → Text → Prop
  | nil (progress : Progress) (text : Text) : Reads options progress text [] progress text
  | cons {progress next last : Progress} {unit : CodeUnit} {rest after behind : Text}
      {piece : Piece} {pieces : List Piece}
      (isStep : readStep options progress unit rest = .ok (piece, next, after))
      (others : Reads options next after pieces last behind) :
      Reads options progress (unit :: rest) (piece :: pieces) last behind

namespace Reads

variable {options : Options} {progress next last : Progress} {text after behind : Text}
  {pieces more : List Piece}

theorem trans (first : Reads options progress text pieces next after)
    (second : Reads options next after more last behind) :
    Reads options progress text (pieces ++ more) last behind := by
  induction first with
  | nil => exact second
  | cons isStep _ ih => exact .cons isStep (ih second)

/-- A run is no longer than the text that it reads. -/
theorem length_le (reads : Reads options progress text pieces last behind) :
    pieces.length + behind.length ≤ text.length := by
  induction reads with
  | nil => simp
  | cons isStep _ ih =>
      have shorter := length_of_readStep isStep
      simp only [List.length_cons]
      omega

/-- What a run leaves is an end of the text. -/
theorem isSuffix (reads : Reads options progress text pieces last behind) : behind <:+ text := by
  induction reads with
  | nil => exact List.suffix_refl _
  | @cons progress _ _ unit rest _ _ _ _ isStep _ ih =>
      have keeps := keeps_readStep options progress unit rest
      rw [isStep] at keeps
      exact ih.trans keeps

end Reads

/-! ## Lowering as a run -/

section Pieces

variable {options : Options} {progress last : Progress}

/-- The recursion over a text, without the proof that it ends. -/
theorem readPieces_cons (unit : CodeUnit) (rest : Text) :
    readPieces options progress (unit :: rest) =
      match readStep options progress unit rest with
      | .error failure => .error failure
      | .ok (piece, next, after) =>
          (readPieces options next after).map fun (pieces, last) => (piece :: pieces, last) := by
  rw [readPieces]
  split
  · next isStep => conv => rhs; rw [isStep]
  · next isStep => conv => rhs; rw [isStep]

/-- Behind a run, reading goes on where the run ends. -/
theorem Reads.readPieces_eq {text behind : Text} {pieces : List Piece}
    (reads : Reads options progress text pieces last behind) :
    readPieces options progress text =
      (readPieces options last behind).map fun (more, final) => (pieces ++ more, final) := by
  induction reads with
  | nil progress text => cases readPieces options progress text <;> rfl
  | cons isStep _ ih =>
      rw [readPieces_cons, isStep]
      dsimp only
      rw [ih]
      cases readPieces options _ _ <;> rfl

/-- A text is read by a run to its end. -/
theorem readPieces_eq_ok_iff {text : Text} {pieces : List Piece} :
    readPieces options progress text = .ok (pieces, last) ↔
      Reads options progress text pieces last [] := by
  constructor
  · intro areRead
    fun_induction readPieces options progress text generalizing pieces with
    | case1 progress =>
        cases areRead
        exact .nil _ _
    | case2 => contradiction
    | case3 progress unit rest piece next after isStep _ ih =>
        cases isRest : readPieces options next after with
        | error failure =>
            rw [isRest] at areRead
            contradiction
        | ok value =>
            rw [isRest] at areRead
            cases areRead
            exact .cons isStep (ih isRest)
  · intro reads
    rw [reads.readPieces_eq, readPieces]
    exact congrArg (fun pieces => Except.ok (pieces, last)) (List.append_nil pieces)

/-- Reading fails by a run to a step that fails. -/
theorem readPieces_eq_error_iff {text : Text} {failure : Failure} :
    readPieces options progress text = .error failure ↔
      ∃ pieces next unit rest, Reads options progress text pieces next (unit :: rest) ∧
        readStep options next unit rest = .error failure := by
  constructor
  · intro failed
    fun_induction readPieces options progress text with
    | case1 => contradiction
    | case2 progress unit rest other isStep =>
        cases failed
        exact ⟨[], progress, unit, rest, .nil _ _, isStep⟩
    | case3 progress unit rest piece next after isStep _ ih =>
        cases isRest : readPieces options next after with
        | ok value =>
            rw [isRest] at failed
            contradiction
        | error other =>
            rw [isRest] at failed
            cases failed
            obtain ⟨pieces, last, unit', rest', reads, isFailed⟩ := ih isRest
            exact ⟨piece :: pieces, last, unit', rest', .cons isStep reads, isFailed⟩
  · rintro ⟨pieces, next, unit, rest, reads, isFailed⟩
    rw [reads.readPieces_eq, readPieces_cons, isFailed]
    rfl

/-- Reading a text comes to an end: no run has more steps than the text has units, and there is one
that leads behind the text or in front of a step that fails. -/
def ReadingEnds (options : Options) (text : Text) : Prop :=
  (∀ progress pieces last behind, Reads options progress text pieces last behind →
    pieces.length ≤ text.length) ∧
  ∀ progress, ∃ pieces last behind, Reads options progress text pieces last behind ∧
    (behind = [] ∨ ∃ unit rest failure, behind = unit :: rest ∧
      readStep options last unit rest = .error failure)

theorem readingEnds (options : Options) (text : Text) : ReadingEnds options text := by
  constructor
  · intro progress pieces last behind reads
    exact Nat.le_trans (Nat.le_add_right _ _) reads.length_le
  · intro progress
    cases areRead : readPieces options progress text with
    | ok value => exact ⟨value.1, value.2, [], readPieces_eq_ok_iff.mp areRead, .inl rfl⟩
    | error failure =>
        obtain ⟨pieces, next, unit, rest, reads, isFailed⟩ := readPieces_eq_error_iff.mp areRead
        exact ⟨pieces, next, unit :: rest, reads, .inr ⟨unit, rest, failure, rfl, isFailed⟩⟩

end Pieces

/-! ## Whole patterns -/

/-- A pattern that is not literal is read behind its flags. -/
theorem lower_of_expression {options : Options} (isExpression : options.literal = false)
    (pattern : Text) :
    lower options pattern =
      (readPieces (readLeadingFlags options pattern).1 {}
        (readLeadingFlags options pattern).2).map fun (pieces, progress) =>
          .ofPieces (readLeadingFlags options pattern).1 pieces progress := by
  rw [lower, isExpression, if_neg Bool.false_ne_true]

/-- A run on a pattern that can be lowered writes the first of its pieces. -/
theorem exists_pieces_of_reads {options : Options} (isExpression : options.literal = false)
    {pattern : Text} {lowered : Lowered} (isLowered : lower options pattern = .ok lowered)
    {pieces : List Piece} {progress : Progress} {behind : Text}
    (reads : Reads (readLeadingFlags options pattern).1 {} (readLeadingFlags options pattern).2
      pieces progress behind) : ∃ more, lowered.pieces = pieces ++ more := by
  rw [lower_of_expression isExpression, reads.readPieces_eq] at isLowered
  cases isRest : readPieces (readLeadingFlags options pattern).1 progress behind with
  | error failure =>
      rw [isRest] at isLowered
      contradiction
  | ok value =>
      rw [isRest] at isLowered
      cases isLowered
      exact ⟨value.1, rfl⟩

/-- A run to the end of a pattern writes all of its pieces. -/
theorem lower_of_reads {options : Options} (isExpression : options.literal = false)
    {pattern : Text} {pieces : List Piece} {progress : Progress}
    (reads : Reads (readLeadingFlags options pattern).1 {} (readLeadingFlags options pattern).2
      pieces progress []) :
    lower options pattern =
      .ok (.ofPieces (readLeadingFlags options pattern).1 pieces progress) := by
  rw [lower_of_expression isExpression, readPieces_eq_ok_iff.mpr reads]
  rfl

/-! ## Places of failures -/

theorem isTail_of_readPieces {options : Options} {progress : Progress} {text : Text}
    {failure : Failure} (failed : readPieces options progress text = .error failure) :
    failure.rest.IsTail text := by
  obtain ⟨pieces, next, unit, rest, reads, isFailed⟩ := readPieces_eq_error_iff.mp failed
  have keeps := keeps_readStep options next unit rest
  rw [isFailed] at keeps
  exact Text.IsTail.mono keeps reads.isSuffix

/-- No failure is placed inside of a code point. -/
theorem isTail_of_lower {options : Options} {pattern : Text} {failure : Failure}
    (failed : lower options pattern = .error failure) : failure.rest.IsTail pattern := by
  cases isExpression : options.literal with
  | true =>
      rw [lower, isExpression, if_pos rfl] at failed
      contradiction
  | false =>
      rw [lower_of_expression isExpression] at failed
      cases areRead : readPieces (readLeadingFlags options pattern).1 {}
        (readLeadingFlags options pattern).2 with
      | ok value =>
          rw [areRead] at failed
          contradiction
      | error other =>
          rw [areRead] at failed
          cases failed
          exact (isTail_of_readPieces areRead).mono (suffix_readLeadingFlags options pattern)

/-- The offset of a failure lies in the pattern and splits no pair. -/
theorem isBoundary_offset {options : Options} {pattern : Text} {failure : Failure}
    (failed : lower options pattern = .error failure) :
    pattern.IsBoundary (failure.offset pattern) :=
  (isTail_of_lower failed).isBoundary

end RegexMatching.Lowering
