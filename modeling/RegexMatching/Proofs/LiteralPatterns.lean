import RegexMatching.Proofs.LiteralSearches
import RegexMatching.Proofs.Quoting

/-!
# Patterns for literal text

A pattern stands for its own text where it is flagged as literal, and a quoted text stands for
the text that has been quoted.  Matchers of such a pattern find the occurrences of the text from
left to right, whichever engine they use, and match all of a subject only if it is the text.
-/

namespace RegexMatching

/-! ## Compiling literal text -/

namespace Lowering

/-- A literal pattern is lowered to its own source. -/
theorem lower_literal {options : Options} (isLiteral : options.literal = true) (text : Text) :
    lower options text = .ok (.ofPieces options ([escapeLiteral text].map Piece.source) {}) :=
  if_pos isLiteral

/-- Quoting adds no surrogates. -/
theorem isWellFormed_quote (text : Text) : (quote text).IsWellFormed ↔ text.IsWellFormed := by
  have backslash : ∀ rest : Text, Text.IsWellFormed (0x5C :: rest) ↔ rest.IsWellFormed :=
    fun _ => Text.isWellFormed_cons rfl rfl
  have opening : ∀ rest : Text, Text.IsWellFormed (0x51 :: rest) ↔ rest.IsWellFormed :=
    fun _ => Text.isWellFormed_cons rfl rfl
  have closing : ∀ rest : Text, Text.IsWellFormed (0x45 :: rest) ↔ rest.IsWellFormed :=
    fun _ => Text.isWellFormed_cons rfl rfl
  have behind : ∀ front rest : Text, Text.IsWellFormed (front ++ 0x5C :: rest) ↔
      front.IsWellFormed ∧ rest.IsWellFormed :=
    fun front rest => (Text.isWellFormed_append front rfl).trans
      (and_congr_right fun _ => backslash rest)
  induction text using quote_induction with
  | unmarked text isUnmarked isQuoted =>
      rw [isQuoted]
      change Text.IsWellFormed (0x5C :: 0x51 :: (text ++ 0x5C :: [0x45])) ↔ _
      rw [backslash, opening, behind, closing]
      exact and_iff_left Text.isWellFormed_nil
  | marked front back isUnmarked isQuoted ih =>
      rw [isQuoted]
      change Text.IsWellFormed
          (0x5C :: 0x51 :: (front ++ 0x5C :: 0x45 :: 0x5C :: 0x5C :: 0x45 :: quote back)) ↔
        Text.IsWellFormed (front ++ 0x5C :: 0x45 :: back)
      rw [backslash, opening, behind, closing, backslash, backslash, closing, behind, closing]
      exact and_congr_right fun _ => ih

end Lowering

namespace Pattern

/-- A pattern whose code looks for a text as it stands. -/
structure StandsFor (kind : EngineKind) (pattern : Pattern EngineState) (needle : Text)
    (engines : EngineState) : Prop where
  isPlain : pattern.canonicalEquivalence = false
  looksFor : ∃ flags plain, pattern.IsCompiled kind flags plain engines ∧
    kind.LooksFor plain needle.points

theorem StandsFor.of_heldAs {kind : EngineKind} {pattern : Pattern EngineState} {needle : Text}
    {engines held : EngineState} (standsFor : pattern.StandsFor kind needle engines)
    (heldAs : HeldAs kind pattern engines held) : pattern.StandsFor kind needle held := by
  obtain ⟨isPlain, flags, plain, isCompiled, looksFor⟩ := standsFor
  exact ⟨isPlain, flags, plain, isCompiled.of_heldAs heldAs, looksFor⟩

theorem StandsFor.isOffered {kind : EngineKind} {pattern : Pattern EngineState} {needle : Text}
    {engines : EngineState} (standsFor : pattern.StandsFor kind needle engines) :
    pattern.IsOffered := by
  obtain ⟨-, flags, plain, isCompiled, -⟩ := standsFor
  exact isCompiled.isOffered

/-- Where code that looks for a text is compiled for every anchoring, so is the pattern. -/
theorem exists_standsFor (kind : EngineKind) {source needle : Text} {flags : Number}
    {parsed : Flags} (isParsed : Flags.ofNumber flags = .ok parsed)
    (notDecomposed : parsed.canonicalEquivalence = false) {plain : kind.Code}
    (compiled : kind.backend.compile (Utf8.encode source)
      (Anchoring.search.applyTo parsed.compileOptions) = .ok plain)
    (compiledOwn : ∀ anchoring : Anchoring, ∃ own,
      kind.backend.compile (Utf8.encode source) (anchoring.applyTo parsed.compileOptions) = .ok own)
    (looksFor : kind.LooksFor plain needle.points) (noNames : kind.backend.names plain = [])
    (isLogged : Bool) (settings : PatternSettings) (trace : Trace EngineState) :
    ∃ pattern after,
      (compile kind.engine isLogged source flags settings).run trace = (.ok pattern, after) ∧
      pattern.StandsFor kind needle after.engines ∧ pattern.groupCount = 0 ∧
      pattern.names = [] := by
  have patternText : (PatternText.ofSource source parsed).text = source := by
    rw [PatternText.ofSource, notDecomposed]
    rfl
  rw [← patternText] at compiled compiledOwn
  obtain ⟨pattern, after, ran, isCompiled, names⟩ :=
    exists_isCompiled isLogged settings isParsed trace compiled fun _ => compiledOwn
  refine ⟨pattern, after, ran, ⟨?_, parsed, plain, isCompiled, looksFor⟩, ?_, ?_⟩
  · exact isCompiled.canonicalEquivalence.trans notDecomposed
  · exact isCompiled.groupCount.trans looksFor.noGroups
  · rw [names, noNames]
    rfl

/-- A pattern that is lowered to the source of a text stands for the text. -/
theorem exists_standsFor_of_lowered {source needle : Text} {flags : Number} {parsed : Flags}
    (isParsed : Flags.ofNumber flags = .ok parsed)
    (notDecomposed : parsed.canonicalEquivalence = false)
    (isCased : parsed.caseInsensitive = false) {sources : List Text}
    (isSource : sources.flatten = Lowering.escapeLiteral needle)
    (isLowered : Lowering.lower (Backtracking.loweringOptions parsed.compileOptions)
        (Utf8.decodeText (Utf8.encode source)) =
      .ok (.ofPieces (Backtracking.loweringOptions parsed.compileOptions)
        (sources.map Lowering.Piece.source) {}))
    (isLogged : Bool) (settings : PatternSettings) (trace : Trace EngineState) :
    ∃ pattern after,
      (compile EngineKind.backtracking.engine isLogged source flags settings).run trace =
        (.ok pattern, after) ∧
      pattern.StandsFor .backtracking needle after.engines ∧ pattern.groupCount = 0 ∧
      pattern.names = [] := by
  have isRead : Backtrack.Regex.ofPoints?
      (Lowering.Lowered.render (.ofPieces (Backtracking.loweringOptions parsed.compileOptions)
        (sources.map Lowering.Piece.source) {}) {}).points parsed.caseInsensitive =
        some (.literal needle.points) := by
    rw [Lowering.render_ofPieces_sources, isSource, isCased]
    exact Backtrack.ofPoints?_escapeLiteral needle false
  have compiled := Backtracking.compile_of_read isLowered isRead
  exact exists_standsFor .backtracking isParsed notDecomposed compiled
    (Backtracking.exists_compile_of_plain compiled) (Backtracking.looksFor rfl isRead) rfl
    isLogged settings trace

/-- A literal pattern stands for its own text, on either engine. -/
theorem exists_standsFor_of_literal (kind : EngineKind) {needle : Text}
    (isWellFormed : needle.IsWellFormed) (noMark : needle.head? ≠ some 0xFEFF) {flags : Number}
    {unixLines multiline dotAll : Bool}
    (isParsed : Flags.ofNumber flags = .ok { literal := true, unixLines, multiline, dotAll })
    (isLogged : Bool) (settings : PatternSettings) (trace : Trace EngineState) :
    ∃ pattern after,
      (compile kind.engine isLogged needle flags settings).run trace = (.ok pattern, after) ∧
      pattern.StandsFor kind needle after.engines ∧ pattern.groupCount = 0 ∧
      pattern.names = [] := by
  cases kind with
  | backtracking =>
      have isSource : [Lowering.escapeLiteral needle].flatten = Lowering.escapeLiteral needle :=
        List.append_nil _
      refine exists_standsFor_of_lowered isParsed rfl rfl isSource ?_ isLogged settings trace
      rw [isWellFormed.decodeText_encode noMark]
      exact Lowering.lower_literal rfl needle
  | linear =>
      let options := Flags.compileOptions { literal := true, unixLines, multiline, dotAll }
      have isRead : Linear.Regex.ofPoints?
          (LinearTime.escapeLiteral (Utf8.decode (Utf8.encode needle))) { multiline, dotAll } =
            some (.literal needle.points) := by
        rw [isWellFormed.decode_encode noMark]
        exact Linear.ofPoints?_escaped needle.points rfl
      have compiled : ∀ anchoring : Anchoring, EngineKind.linear.backend.compile
          (Utf8.encode needle) (anchoring.applyTo options) =
          .ok ⟨LinearTime.escapeLiteral (Utf8.decode (Utf8.encode needle)), { multiline, dotAll },
            .literal needle.points, anchoring != .search, anchoring == .whole⟩ :=
        fun anchoring => @LinearTime.compile_of_read _ (anchoring.applyTo options) rfl _ isRead
      rw [isWellFormed.decode_encode noMark] at compiled
      exact exists_standsFor .linear isParsed rfl (compiled .search)
        (fun anchoring => ⟨_, compiled anchoring⟩) (LinearTime.looksFor needle.points rfl) rfl
        isLogged settings trace

end Pattern

/-! ## Matching with literal text -/

namespace Matcher

section Finding

variable {kind : EngineKind} {pattern : Pattern EngineState} {engines : EngineState}
  {needle text : Text} (standsFor : pattern.StandsFor kind needle engines)
  (needleFormed : needle.IsWellFormed) (textFormed : text.IsWellFormed)
  (noMark : text.head? ≠ some 0xFEFF) {matcher : Matcher EngineState} {start : Nat}

include standsFor needleFormed textFormed noMark

/-- One search: nothing is left to find, or the first place that is left is found, and the search
goes on behind it. -/
theorem HasGotTo.step_literal (hasGot : matcher.HasGotTo pattern text start) :
    (foundBy (heldAnswer kind engines) matcher = .ok none ∧
        keepApart needle.length start (needle.indicesOf text) = []) ∨
      ∃ (snapshot : Snapshot) (index next : Nat),
        foundBy (heldAnswer kind engines) matcher = .ok (some snapshot) ∧
        snapshot.spans = some [⟨index, index + needle.length⟩] ∧
        keepApart needle.length start (needle.indicesOf text) =
          index :: keepApart needle.length next (needle.indicesOf text) ∧
        (Call.find.result (heldAnswer kind engines) matcher).2.HasGotTo pattern text next := by
  obtain ⟨isPlain, flags, plain, isCompiled, looksFor⟩ := standsFor
  by_cases behind : text.length < start
  · refine .inl ⟨hasGot.foundBy_behind behind _, keepApart_of_lt fun index mem => ?_⟩
    have inside := List.mem_range.mp (List.mem_filter.mp mem).1
    omega
  obtain ⟨position, inside, rfl⟩ :=
    Text.exists_position (hasGot.boundary (Nat.not_lt.mp behind))
  have searched := looksFor.finds (.ofBytes (Utf8.encode text)) position
  rw [textFormed.points_ofBytes noMark] at searched
  cases isFirst : firstAt? needle.points text.points position with
  | none =>
      rw [isFirst] at searched
      exact .inl ⟨hasGot.foundBy_none isCompiled isPlain noMark inside rfl searched,
        Text.keepApart_of_firstAt?_eq_none needleFormed inside isFirst⟩
  | some first =>
      rw [isFirst] at searched
      obtain ⟨snapshot, isFound, spans_eq, hasGot'⟩ :=
        hasGot.foundBy_some isCompiled isPlain noMark inside rfl searched
      refine .inr ⟨snapshot, _, _, isFound, ?_,
        Text.keepApart_of_firstAt?_eq_some needleFormed inside isFirst, hasGot'⟩
      rw [spans_eq, isCompiled.groupCount, looksFor.noGroups, Nat.zero_add, List.map_singleton,
        toSlots_eq_self List.length_singleton, Text.unitSpan,
        Text.unitsBefore_of_standsAt (List.find?_some isFirst), Int.natCast_add]

/-- Successive searches find the places that are left, and none of them fails. -/
theorem HasGotTo.foundCalls_literal (count : Nat) (hasGot : matcher.HasGotTo pattern text start) :
    (matchesOf (Matcher.foundCalls (heldAnswer kind engines) count matcher)).map (·.spans) =
        ((keepApart needle.length start (needle.indicesOf text)).take count).map
          (fun index : Nat => some [⟨index, index + needle.length⟩]) ∧
      ∀ outcome ∈ Matcher.foundCalls (heldAnswer kind engines) count matcher,
        outcome.isOk = true := by
  let listed (count start : Nat) : List (List Span) :=
    ((keepApart needle.length start (needle.indicesOf text)).take count).map
      fun index : Nat => [⟨index, index + needle.length⟩]
  have step : ∀ {matcher : Matcher EngineState} {start : Nat} (count : Nat),
      matcher.HasGotTo pattern text start →
      (foundBy (heldAnswer kind engines) matcher = .ok none ∧ listed (count + 1) start = []) ∨
        ∃ snapshot spans next,
          foundBy (heldAnswer kind engines) matcher = .ok (some snapshot) ∧
          snapshot.spans = some spans ∧ listed (count + 1) start = spans :: listed count next ∧
          (Call.find.result (heldAnswer kind engines) matcher).2.HasGotTo pattern text next := by
    intro matcher start count hasGot
    rcases hasGot.step_literal standsFor needleFormed textFormed noMark with
      ⟨notFound, ended⟩ | ⟨snapshot, index, next, isFound, spans_eq, goesOn, hasGot'⟩
    · exact .inl ⟨notFound, by simp only [listed, ended, List.take_nil, List.map_nil]⟩
    · refine .inr ⟨snapshot, _, next, isFound, spans_eq, ?_, hasGot'⟩
      simp only [listed, goesOn, List.take_succ_cons, List.map_cons]
  have found := foundCalls_of_step (fun _ => rfl) step count hasGot
  rwa [List.map_map] at found

omit needleFormed in
/-- All of a text is matched only if it is the text that is looked for. -/
theorem HasGotTo.matchWhole_literal (hasGot : matcher.HasGotTo pattern text 0) :
    (Call.matchWhole.result (heldAnswer kind engines) matcher).1 =
      .ok (decide (text = needle)) := by
  obtain ⟨isPlain, flags, plain, isCompiled, looksFor⟩ := standsFor
  have attempt := hasGot.seen.attempted isCompiled isPlain noMark (Nat.zero_le _)
    (Text.unitsBefore_zero _) .whole
  rw [looksFor.matchesWhole, textFormed.points_ofBytes noMark] at attempt
  rw [Call.result]
  change (matcher.seen.conclude .whole
    (matcher.seen.attempted _ matcher.regionStart .whole)).1 = _
  rw [hasGot.fromStart, attempt]
  by_cases same : text = needle
  · rw [if_pos (congrArg Text.points same), decide_eq_true same]
    rfl
  · have differ : text.points ≠ needle.points := fun samePoints =>
      same (by rw [← Text.ofPoints_points text, samePoints, Text.ofPoints_points])
    rw [if_neg differ, decide_eq_false same]
    rfl

end Finding

/-- A new matcher of a pattern that stands for a text finds the occurrences of the text, and matches
all of the subject if that is the text. -/
theorem create_of_standsFor {kind : EngineKind} {pattern : Pattern EngineState}
    {engines : EngineState} {needle text : Text}
    (standsFor : pattern.StandsFor kind needle engines) (needleFormed : needle.IsWellFormed)
    (textFormed : text.IsWellFormed) (noMark : text.head? ≠ some 0xFEFF)
    {before : Trace EngineState} (heldAs : Pattern.HeldAs kind pattern engines before.engines)
    {settings : MatcherSettings} (isTotal : settings.partialMatching = false) :
    ∃ matcher created, (create pattern text settings).run before = (.ok matcher, created) ∧
      (∀ count,
        (∀ outcome ∈ findCalls count ⟨matcher, created⟩, outcome.isOk = true) ∧
        (matchesOf (findCalls count ⟨matcher, created⟩)).map (·.spans) =
          ((needle.occurrences text).take count).map fun span => some [span]) ∧
      (matchWhole.exec ⟨matcher, created⟩).1 = .ok (decide (text = needle)) := by
  have isHeld := standsFor.of_heldAs heldAs
  obtain ⟨-, flags, plain, isCompiled, -⟩ := isHeld
  have isOpen := isCompiled.isOpen
  have isCreated := create_run_of_supported isOpen
    (fun isPartial => absurd (isTotal.symm.trans isPartial) Bool.false_ne_true) text before
  obtain ⟨matcher, created, isCreated⟩ :
      ∃ matcher created, (create pattern text settings).run before = (.ok matcher, created) :=
    ⟨_, _, isCreated⟩
  have hasGot := hasGotTo_of_create isCompiled.isOffered isCreated
  obtain ⟨-, rfl⟩ := create_eq_ok isCompiled.isOffered isCreated
  have answers := kind.answersBy (kind.code? created.engines)
  rw [← isCompiled.engine, ← hasGot.pattern_eq] at answers
  refine ⟨matcher, created, isCreated, fun count => ?_, ?_⟩
  · obtain ⟨found, isOk⟩ :=
      hasGot.foundCalls_literal (standsFor.of_heldAs heldAs) needleFormed textFormed noMark count
    rw [findCalls_eq count hasGot.consistent answers rfl]
    refine ⟨isOk, found.trans ?_⟩
    rw [Text.occurrences, ← List.map_take, List.map_map]
    rfl
  · have isUsable : kind.code? created.engines = kind.code? created.engines := rfl
    obtain ⟨after, -, executed⟩ := Call.matchWhole.make_exec_eq hasGot.consistent answers isUsable
    change (Call.matchWhole.make.exec ⟨matcher, created⟩).1 = _
    rw [executed]
    exact hasGot.matchWhole_literal (standsFor.of_heldAs heldAs) textFormed noMark

end Matcher

/-! ## Literal and quoted patterns -/

namespace Pattern

open Lowering (quote escapeLiteral)

/-- Quoted text is lowered to the source of the text, as a literal pattern is, without groups, names
and anchors and whatever the options are.  That source is read as the code points of the text one
after the other.  So the pattern compiles, and matches all of a subject if that is the text. -/
theorem quote_stands_for_text (text : Text) :
    (∀ options : Lowering.Options, options.literal = false →
      ∃ lowered literally, Lowering.lower options (quote text) = .ok lowered ∧
        Lowering.lower { options with literal := true } text = .ok literally ∧
        lowered.captureCount = 0 ∧ lowered.names = [] ∧
        (∀ anchor, Lowering.Piece.anchor anchor ∉ lowered.pieces) ∧
        ∀ edges, lowered.render edges = escapeLiteral text ∧
          literally.render edges = escapeLiteral text) ∧
    (∀ caseless, Backtrack.Regex.ofPoints? (escapeLiteral text).points caseless =
      some { node := .ofPoints text.points, captureCount := 0, caseless }) ∧
    (text.IsWellFormed → ∀ (flags : Number) (parsed : Flags), Flags.ofNumber flags = .ok parsed →
      parsed.literal = false → parsed.caseInsensitive = false →
      parsed.canonicalEquivalence = false →
      ∀ (isLogged : Bool) (settings : PatternSettings) (trace : Trace EngineState),
      ∃ pattern after,
        (compile EngineKind.backtracking.engine isLogged (quote text) flags settings).run trace =
          (.ok pattern, after) ∧
        ∀ subject : Text, subject.IsWellFormed → subject.head? ≠ some 0xFEFF →
          ∀ before : Trace EngineState,
            HeldAs .backtracking pattern after.engines before.engines →
          ∀ matcherSettings : MatcherSettings, matcherSettings.partialMatching = false →
          ∃ matcher created,
            (Matcher.create pattern subject matcherSettings).run before = (.ok matcher, created) ∧
            (Matcher.matchWhole.exec ⟨matcher, created⟩).1 = .ok (decide (subject = text))) := by
  refine ⟨fun options notLiteral => ?_, Backtrack.ofPoints?_escapeLiteral text, ?_⟩
  · obtain ⟨sources, isSource, isLowered⟩ := Lowering.lower_quote notLiteral text
    refine ⟨_, _, isLowered, Lowering.lower_literal rfl text, rfl, rfl, fun anchor mem => ?_,
      fun edges => ⟨?_, ?_⟩⟩
    · obtain ⟨source, -, same⟩ := List.mem_map.mp mem
      cases same
    · rw [Lowering.render_ofPieces_sources, isSource]
    · rw [Lowering.render_ofPieces_sources]
      exact List.append_nil _
  · intro isWellFormed flags parsed isParsed notLiteral isCased notDecomposed isLogged settings trace
    have notLiteral' : (Backtracking.loweringOptions parsed.compileOptions).literal = false :=
      notLiteral
    obtain ⟨sources, isSource, isLowered⟩ := Lowering.lower_quote notLiteral' text
    have sameText : Utf8.decodeText (Utf8.encode (quote text)) = quote text :=
      ((Lowering.isWellFormed_quote text).mpr isWellFormed).decodeText_encode
        (show some 0x5C ≠ some 0xFEFF by decide)
    rw [← sameText] at isLowered
    obtain ⟨pattern, after, compiled, standsFor, -, -⟩ := exists_standsFor_of_lowered isParsed
      notDecomposed isCased isSource isLowered isLogged settings trace
    refine ⟨pattern, after, compiled, ?_⟩
    intro subject subjectFormed noMark before heldAs matcherSettings isTotal
    obtain ⟨matcher, created, isCreated, -, matched⟩ :=
      Matcher.create_of_standsFor standsFor isWellFormed subjectFormed noMark heldAs isTotal
    exact ⟨matcher, created, isCreated, matched⟩

/-- With comments in the pattern, a quoted text that has an end mark, a blank and a hash in it. -/
theorem quote_stands_for_text_commented :
    (∃ lowered, Lowering.lower { extended := true } (quote (Text.ofString "a\\E #(")) =
        .ok lowered ∧
      lowered.captureCount = 0 ∧ lowered.render {} = Text.ofString "a\\\\E #\\(") ∧
    ∃ pattern after matcher created,
      (compile EngineKind.backtracking.engine false (quote (Text.ofString "a\\E #(")) (.ofNat 4)
        {}).run ⟨{}, []⟩ = (.ok pattern, after) ∧
      (Matcher.create pattern (Text.ofString "a\\E #(") {}).run after = (.ok matcher, created) ∧
      (Matcher.matchWhole.exec ⟨matcher, created⟩).1 = .ok true := by
  obtain ⟨areLowered, -, compiles⟩ := quote_stands_for_text (Text.ofString "a\\E #(")
  constructor
  · obtain ⟨lowered, _, isLowered, -, noGroups, -, -, rendered⟩ := areLowered { extended := true } rfl
    exact ⟨lowered, isLowered, noGroups, (rendered {}).1⟩
  · have isParsed : Flags.ofNumber (.ofNat 4) = .ok { comments := true } := by rfl
    obtain ⟨pattern, after, compiled, matchesText⟩ :=
      compiles (by decide) (.ofNat 4) _ isParsed rfl rfl rfl false {} ⟨{}, []⟩
    obtain ⟨matcher, created, isCreated, matched⟩ :=
      matchesText (Text.ofString "a\\E #(") (by decide) (by decide) after (fun _ => rfl) {} rfl
    exact ⟨pattern, after, matcher, created, compiled, isCreated, matched⟩

end Pattern

end RegexMatching
