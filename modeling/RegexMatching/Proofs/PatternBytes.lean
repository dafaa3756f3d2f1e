import RegexMatching.Proofs.SyntaxErrors

/-!
# Patterns through their bytes

An engine is given the bytes of an expression.  What it lowers is what it reads in them, and a
well-formed expression is read as it was written, unless a byte order mark stands in front of it:
the mark is lost, and the code is that of what follows it.
-/

namespace RegexMatching

/-- Of a well-formed text behind a byte order mark, the mark is lost. -/
theorem Utf8.decodeText_encode_cons {text : Text} (isWellFormed : text.IsWellFormed) :
    decodeText (encode (0xFEFF :: text)) = text := by
  have points : Text.points (0xFEFF :: text) = byteOrderMark :: text.points :=
    Text.points_cons_of_not_high rfl text
  have le : ∀ point ∈ Text.points (0xFEFF :: text), point ≤ CodePoint.last :=
    fun _ => Text.le_last_of_mem_points
  rw [decodeText, decode, encode, decodeFrom_flatMap le, points, List.map_cons,
    isWellFormed.map_scalarOf]
  exact Text.ofPoints_points text

namespace Backtracking

open Lowering

/-- Whether the plain rendering of a lowered pattern can be read. -/
def IsReadable (lowered : Lowered) : Prop :=
  (Backtrack.Regex.ofPoints? (lowered.render {}).points lowered.caseless).isSome = true

instance (lowered : Lowered) : Decidable (IsReadable lowered) :=
  inferInstanceAs (Decidable (_ = _))

/-- Code for any anchoring is the lowered pattern. -/
theorem lowered_of_compile {bytes : Bytes} {options : CompileOptions} {anchoring : Anchoring}
    {lowered : Lowered} {own : BacktrackCode}
    (isLowered : lower (loweringOptions options) (Utf8.decodeText bytes) = .ok lowered)
    (compiled : compile bytes (anchoring.applyTo options) = .ok own) :
    own.lowered = lowered := by
  unfold compile at compiled
  dsimp only at compiled
  split at compiled
  · contradiction
  · next lowered' isLowered' =>
      obtain rfl := Except.ok.inj (isLowered.symm.trans isLowered')
      split at compiled
      · cases compiled
        rfl
      · contradiction

/-- Code is refused where the plain rendering cannot be read. -/
theorem compile_of_not_readable {bytes : Bytes} {options : CompileOptions} {lowered : Lowered}
    (isLowered : lower (loweringOptions options) (Utf8.decodeText bytes) = .ok lowered)
    (notReadable : ¬IsReadable lowered) :
    compile bytes (Anchoring.search.applyTo options) =
      .error { code := ResultCode.internal, description := .engineOwn } := by
  rw [@compile_eq_of_lower _ (Anchoring.search.applyTo options) _ isLowered]
  exact if_neg notReadable

end Backtracking

namespace Pattern

open Lowering Backtracking

/-- A pattern whose code for every anchoring is a lowered pattern: its groups, its names, and so
every rendering. -/
structure IsCodeOf (lowered : Lowered) (pattern : Pattern EngineState) (engines : EngineState) :
    Prop where
  groupCount : pattern.groupCount = lowered.captureCount
  names : pattern.names = GroupNames.ofTable lowered.names
  code : ∀ anchoring, ∃ own : BacktrackCode, own.lowered = lowered ∧
    EngineKind.code? .backtracking engines (pattern.variants.variant anchoring).handle = some own

section Compile

variable (isLogged : Bool) {source : Text} {flags : Number} (settings : PatternSettings)
  {parsed : Flags} (isParsed : Flags.ofNumber flags = .ok parsed) (trace : Trace EngineState)

include isParsed

/-- What the engine reads in the bytes decides what is compiled. -/
theorem compile_of_lower {lowered : Lowered}
    (isLowered : lower (loweringOptions parsed.compileOptions)
      (Utf8.decodeText (Utf8.encode (PatternText.ofSource source parsed).text)) = .ok lowered)
    (isReadable : IsReadable lowered) :
    ∃ pattern after,
      (compile EngineKind.backtracking.engine isLogged source flags settings).run trace =
        (.ok pattern, after) ∧ pattern.IsCodeOf lowered after.engines := by
  obtain ⟨regex, isRead⟩ := Option.isSome_iff_exists.mp isReadable
  have compiled := compile_of_read isLowered isRead
  obtain ⟨pattern, after, ran, isCompiled, names⟩ := @exists_isCompiled .backtracking isLogged
    source flags settings parsed isParsed trace _ compiled
    fun _ => exists_compile_of_plain compiled
  refine ⟨pattern, after, ran, isCompiled.groupCount, names, fun anchoring => ?_⟩
  rcases compile_cases (EngineKind.follows_codeModel .backtracking) isLogged source isParsed
    settings rfl trace with ⟨rejection, _, -, failed⟩ | ⟨pattern', after', -, ran', -, isHeld⟩
  · rw [ran] at failed
    cases failed
  · rw [ran] at ran'
    cases ran'
    obtain ⟨-, own, isOwn, isCode⟩ := isHeld anchoring
    rw [EngineKind.compiled, CompileOptions.ofBits?_toBits] at isOwn
    exact ⟨own, lowered_of_compile isLowered isOwn, isCode⟩

/-- An expression that cannot be read is refused without a place. -/
theorem compile_of_not_readable {lowered : Lowered}
    (isLowered : lower (loweringOptions parsed.compileOptions)
      (Utf8.decodeText (Utf8.encode (PatternText.ofSource source parsed).text)) = .ok lowered)
    (notReadable : ¬IsReadable lowered) :
    ((compile EngineKind.backtracking.engine isLogged source flags settings).run trace).1 =
      .error (.badPattern .engineOwn source (-1)) := by
  have rejected := Backtracking.compile_of_not_readable isLowered notReadable
  have isRefused := @compile_rejected .backtracking isLogged source flags settings parsed isParsed
    trace _ rejected
  rw [PatternText.source_ofSource] at isRefused
  exact isRefused

/-- A well-formed expression that no byte order mark starts is lowered as it is written: compiling
fails where lowering does, at the same offset, or it comes to the lowered pattern for every
anchoring, unless the plain rendering cannot be read. -/
theorem source_survives_bytes (isWellFormed : source.IsWellFormed)
    (noMark : source.head? ≠ some 0xFEFF) (notCanonical : parsed.canonicalEquivalence = false) :
    match lower (loweringOptions parsed.compileOptions) source with
    | .error failure =>
        ((compile EngineKind.backtracking.engine isLogged source flags settings).run trace).1 =
          .error (.badPattern (.text failure.cause.message) source (failure.offset source))
    | .ok lowered =>
        if IsReadable lowered then
          ∃ pattern after,
            (compile EngineKind.backtracking.engine isLogged source flags settings).run trace =
              (.ok pattern, after) ∧ pattern.IsCodeOf lowered after.engines
        else
          ((compile EngineKind.backtracking.engine isLogged source flags settings).run trace).1 =
            .error (.badPattern .engineOwn source (-1)) := by
  have same : PatternText.ofSource source parsed = ⟨source, source, id⟩ := by
    rw [PatternText.ofSource, notCanonical]
    rfl
  have isText : Utf8.decodeText (Utf8.encode (PatternText.ofSource source parsed).text) =
      source := by
    rw [same, isWellFormed.decodeText_encode noMark]
  cases outcome : lower (loweringOptions parsed.compileOptions) source with
  | error failure =>
      have wellFormed : (PatternText.ofSource source parsed).text.toWellFormed = source := by
        rw [same, isWellFormed.toWellFormed_eq]
      have failed := @compile_of_lower_failure isLogged source noMark flags parsed isParsed settings
        trace failure (wellFormed.symm ▸ outcome)
      rwa [wellFormed, same] at failed
  | ok lowered =>
      rw [← isText] at outcome
      dsimp only
      split
      · next isReadable =>
          exact compile_of_lower isLogged settings isParsed trace outcome isReadable
      · next notReadable =>
          exact compile_of_not_readable isLogged settings isParsed trace outcome notReadable

end Compile

/-- A named group and a letter beyond ASCII. -/
theorem source_survives_bytes_of_named_group :
    ∃ lowered pattern after,
      lower {} (Text.ofString "(?<n>" ++ 0xE9 :: Text.ofString ")") = .ok lowered ∧
      (compile EngineKind.backtracking.engine false
        (Text.ofString "(?<n>" ++ 0xE9 :: Text.ofString ")") (.ofNat 0) {}).run ⟨{}, []⟩ =
        (.ok pattern, after) ∧ pattern.IsCodeOf lowered after.engines := by
  have evaluated : (match lower {} (Text.ofString "(?<n>" ++ 0xE9 :: Text.ofString ")") with
      | .ok lowered => decide (IsReadable lowered)
      | .error _ => false) = true := by
    decide +kernel
  have isParsed : Flags.ofNumber (.ofNat 0) = .ok {} := rfl
  have survives := source_survives_bytes false {} isParsed ⟨{}, []⟩
    (by decide : (Text.ofString "(?<n>" ++ 0xE9 :: Text.ofString ")").IsWellFormed) (by decide) rfl
  rw [show loweringOptions (Flags.compileOptions {}) = {} from rfl] at survives
  cases outcome : lower {} (Text.ofString "(?<n>" ++ 0xE9 :: Text.ofString ")") with
  | error failure =>
      rw [outcome] at evaluated
      contradiction
  | ok lowered =>
      rw [outcome] at evaluated survives
      dsimp only at survives
      rw [if_pos (of_decide_eq_true evaluated)] at survives
      obtain ⟨pattern, after, ran, isCode⟩ := survives
      exact ⟨lowered, pattern, after, rfl, ran, isCode⟩

/-- Of an expression that starts with a byte order mark, the code is that of what follows. -/
theorem source_loses_byte_order_mark :
    ∃ lowered pattern after, ∃ own : BacktrackCode,
      lower {} (0xFEFF :: Text.ofString "a") = .ok lowered ∧
      (compile EngineKind.backtracking.engine false (0xFEFF :: Text.ofString "a") (.ofNat 0)
        {}).run ⟨{}, []⟩ = (.ok pattern, after) ∧
      EngineKind.code? .backtracking after.engines pattern.variants.search.handle = some own ∧
      lowered.render {} = 0xFEFF :: Text.ofString "a" ∧
      own.lowered.render {} = Text.ofString "a" := by
  have marked : (match lower {} (0xFEFF :: Text.ofString "a") with
      | .ok lowered => lowered.render {} == 0xFEFF :: Text.ofString "a"
      | .error _ => false) = true := by
    decide +kernel
  have plain : (match lower {} (Text.ofString "a") with
      | .ok lowered => decide (IsReadable lowered) && lowered.render {} == Text.ofString "a"
      | .error _ => false) = true := by
    decide +kernel
  have isRead : Utf8.decodeText (Utf8.encode (0xFEFF :: Text.ofString "a")) = Text.ofString "a" :=
    Utf8.decodeText_encode_cons (by decide)
  have isParsed : Flags.ofNumber (.ofNat 0) = .ok {} := rfl
  cases outcome : lower {} (0xFEFF :: Text.ofString "a") with
  | error failure =>
      rw [outcome] at marked
      contradiction
  | ok lowered =>
      cases isBehind : lower {} (Text.ofString "a") with
      | error failure =>
          rw [isBehind] at plain
          contradiction
      | ok behind =>
          rw [outcome] at marked
          rw [isBehind] at plain
          obtain ⟨isReadable, rendered⟩ := Bool.and_eq_true_iff.mp plain
          rw [← isRead] at isBehind
          obtain ⟨pattern, after, ran, isCode⟩ := compile_of_lower false {} isParsed ⟨{}, []⟩
            isBehind (of_decide_eq_true isReadable)
          obtain ⟨own, rfl, isOwn⟩ := isCode.code .search
          exact ⟨lowered, pattern, after, own, rfl, ran, isOwn, beq_iff_eq.mp marked,
            beq_iff_eq.mp rendered⟩

end Pattern

end RegexMatching
