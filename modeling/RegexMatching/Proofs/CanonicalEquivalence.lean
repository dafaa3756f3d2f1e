import RegexMatching.Proofs.CanonicalSearches
import RegexMatching.Proofs.CompiledCode

/-!
# Texts of one decomposition

Under canonical equivalence an engine gets decomposed text only, of the expression and of the
subject.  So it makes no difference which of the texts with that decomposition was given, but
for the offsets that are reported.
-/

namespace RegexMatching

open Utf8 (bytesBefore)

/-! ## Outcomes up to spans -/

/-- Whether two outcomes are the same fault, or none. -/
def SameFault {α β : Type} (first : Except Fault α) (second : Except Fault β) : Prop :=
  first.map (fun _ => ()) = second.map fun _ => ()

theorem SameFault.map {α β α' β' : Type} {first : Except Fault α} {second : Except Fault β}
    (same : SameFault first second) (change : α → α') (change' : β → β') :
    SameFault (first.map change) (second.map change') := by
  cases first <;> cases second <;> exact same

theorem sameFault_mapM {α β γ : Type} {read : α → Except Fault β} {read' : α → Except Fault γ}
    (same : ∀ value, SameFault (read value) (read' value)) (values : List α) :
    SameFault (values.mapM read) (values.mapM read') := by
  induction values with
  | nil => rfl
  | cons value rest ih =>
      rw [List.mapM_cons, List.mapM_cons]
      have sameHead := same value
      cases outcome : read value with
      | error fault =>
          cases outcome' : read' value with
          | error fault' =>
              rw [outcome, outcome'] at sameHead
              exact sameHead
          | ok head' =>
              rw [outcome, outcome'] at sameHead
              cases sameHead
      | ok head =>
          cases outcome' : read' value with
          | error fault' =>
              rw [outcome, outcome'] at sameHead
              cases sameHead
          | ok head' => exact ih.map (head :: ·) (head' :: ·)

namespace CanonicalText

/-- The start of a text is the start of its decomposition. -/
theorem toNormalized_zero (text : Text) : (ofText text).toNormalized 0 = 0 := by
  rw [toNormalized_eq (Nat.zero_le _)]
  cases cut : segments text with
  | nil => rfl
  | cons segment rest =>
      have isProper := (text.areProper_segments segment (cut ▸ List.mem_cons_self)).1
      rw [normalizedFloor, if_pos isProper]

theorem normalizedFloor_length (segments : List Segment) :
    normalizedFloor segments (segments.flatMap Segment.source).length =
      (segments.flatMap Segment.normalized).length := by
  induction segments with
  | nil => rfl
  | cons segment rest ih =>
      rw [List.flatMap_cons, List.flatMap_cons, List.length_append, List.length_append,
        normalizedFloor, if_neg (by omega), Nat.add_sub_cancel_left, ih]

/-- The end of a text is the end of its decomposition. -/
theorem toNormalized_length (text : Text) :
    (ofText text).toNormalized text.length = (ofText text).normalized.length := by
  have atEnd := normalizedFloor_length (segments text)
  rw [Text.flatMap_segments] at atEnd
  rw [toNormalized_eq (Nat.le_refl _), atEnd]
  rfl

end CanonicalText

namespace Matcher

variable {σ : Type} {engine : Engine σ} {model : CodeModel σ} {flags : Flags}
  {isDedicated : Bool}

/-! ## Unused matchers -/

/-- A matcher on the whole of a text in decomposition that has not been used. -/
structure IsUnused (matcher : Matcher σ) : Prop where
  consistent : matcher.Consistent
  isCanonical : matcher.pattern.canonicalEquivalence = true
  fromStart : matcher.regionStart = 0
  toEnd : matcher.regionEnd = matcher.text.length
  previous : matcher.previous = none
  isExhausted : matcher.isExhausted = false

namespace IsUnused

variable {matcher : Matcher σ} (unused : matcher.IsUnused)

include unused

theorem seen : matcher.seen.IsUnused :=
  ⟨unused.consistent.seen, unused.isCanonical, unused.fromStart, unused.toEnd, unused.previous,
    unused.isExhausted⟩

theorem searchedText_eq : matcher.searchedText = decomposedText matcher.text.points := by
  rw [searchedText, unused.isCanonical, ← CanonicalText.normalized_ofText]
  rfl

theorem viewStart_eq : matcher.viewStart = 0 := by
  rw [viewStart, unused.fromStart, unused.consistent.ofSubject_eq_toNormalized unused.isCanonical,
    CanonicalText.toNormalized_zero]
  exact Text.ceilIndex_eq_self (Text.isBoundary_zero _)

theorem viewEnd_eq : matcher.viewEnd = matcher.searchedText.length := by
  rw [viewEnd, unused.toEnd, unused.consistent.ofSubject_eq_toNormalized unused.isCanonical,
    CanonicalText.toNormalized_length, ← searchedText_eq_normalized unused.isCanonical]
  exact Text.floorIndex_eq_self (Text.isBoundary_length _)

theorem viewText_eq : matcher.viewText = decomposedText matcher.text.points := by
  rw [viewText, unused.viewStart_eq, unused.viewEnd_eq, Text.between, List.take_length,
    List.drop_zero, unused.searchedText_eq]

theorem placeOf?_zero : matcher.placeOf? 0 = some 0 := by
  rw [placeOf?, unused.viewStart_eq,
    unused.consistent.ofSubject_eq_toNormalized unused.isCanonical,
    CanonicalText.toNormalized_zero, Text.ceilIndex_eq_self (Text.isBoundary_zero _)]
  rfl

theorem lacksLineEdges_eq : matcher.lacksLineEdges = false := by
  rw [lacksLineEdges, unused.fromStart, unused.toEnd]
  simp

theorem matchOptions_eq (variant : CodeVariant) : matcher.matchOptions variant =
    { variant.options with
      notBol := false, notEol := false, partialSoft := matcher.partialMatching } := by
  rw [matchOptions, unused.fromStart, unused.toEnd]
  simp

/-- A call on an unused matcher is a search from the start of the text. -/
theorem make_exec (call : Call) (trace : Trace σ) : call.make.exec ⟨matcher, trace⟩ =
    (search 0 call.anchoring).exec ⟨matcher, trace⟩ := by
  cases call with
  | find =>
      have next : matcher.nextStart? = some 0 := by
        rw [nextStart?_eq, behind, unused.previous, unused.fromStart]
        exact if_neg (Int.not_lt.mpr (by simp))
      rw [Call.make, find_exec, if_neg (by rw [unused.isExhausted]; exact Bool.false_ne_true)]
      dsimp only
      rw [next]
      rfl
  | lookingAt => rw [Call.make, lookingAt_exec]; rw [unused.fromStart]; rfl
  | matchWhole => rw [Call.make, matchWhole_exec]; rw [unused.fromStart]; rfl

end IsUnused

/-! ## Calls on unused matchers -/

/-- What the engine answers to a call on a text: the code of a pattern, compiled from bytes,
searches the text from its start on. -/
def answerOn (model : CodeModel σ) (bytes : Bytes) (flags : Flags) (isDedicated isPartial : Bool)
    (text : Text) (anchoring : Anchoring) : Except Fault Report :=
  model.answer bytes
    ((if isDedicated then anchoring else .search).applyTo flags.compileOptions).toBits
    (Utf8.encode text) (bytesBefore text 0)
    { (if isDedicated then {} else anchoring.matchOptions : MatchOptions) with
      notBol := false, notEol := false, partialSoft := isPartial }.toBits

end Matcher

/-- Whether a match was found. -/
def MatchState.isFound : MatchState → Bool
  | .found _ _ => true
  | _ => false

namespace Matcher

variable {σ : Type} {engine : Engine σ} {model : CodeModel σ} {flags : Flags}
  {isDedicated : Bool}

theorem conclude_fst (matcher : Matcher σ) (anchoring : Anchoring)
    (attempted : Except Fault MatchState) :
    (matcher.conclude anchoring attempted).1 = attempted.map MatchState.isFound := by
  cases attempted with
  | error fault => rfl
  | ok state => cases state <;> rfl

/-- A call on an unused matcher comes to what the answer on the decomposed text says. -/
theorem IsUnused.make_exec_fst (follows : engine.Follows model) {matcher : Matcher σ}
    (unused : matcher.IsUnused) (isOf : matcher.pattern.IsOf engine flags isDedicated)
    {bytes : Bytes} {trace : Trace σ}
    (isHeld : matcher.pattern.IsHeld model bytes flags isDedicated trace.engines) (call : Call) :
    (call.make.exec ⟨matcher, trace⟩).1 =
      ((matcher.pattern.adapter.outcomeOf (answerOn model bytes flags isDedicated
          matcher.partialMatching (decomposedText matcher.text.points) call.anchoring)).bind
        (matcher.seen.stateOf matcher.seen.seenView.byteStart)).map MatchState.isFound := by
  have answered : ((engine.exchange (matcher.seen.requestAt 0 call.anchoring)).run
      trace.engines).1 = answerOn model bytes flags isDedicated matcher.partialMatching
        (decomposedText matcher.text.points) call.anchoring := by
    rw [follows.answers _ _ bytes _ (isHeld call.anchoring), requestAt, unused.seen.viewText_eq,
      unused.seen.matchOptions_eq]
    dsimp only
    rw [show matcher.seen.pattern = matcher.pattern from rfl, isOf.options]
    rfl
  rw [unused.make_exec, search_exec unused.consistent]
  dsimp only
  rw [conclude_fst, unused.seen.consistent.attempt_run (Nat.zero_le _),
    unused.seen.lacksLineEdges_eq, if_neg Bool.false_ne_true, unused.seen.placeOf?_zero]
  dsimp only
  rw [show matcher.seen.pattern = matcher.pattern from rfl, isOf.engine_eq, answered]

/-- Spans are taken back without regard to where they end up. -/
theorem sameFault_subjectSpans {searched searched' : SearchedText}
    (same : searched.coordinates = searched'.coordinates) (byteStart : Nat)
    (captures : List Span) :
    SameFault (subjectSpans searched byteStart captures)
      (subjectSpans searched' byteStart captures) := by
  refine sameFault_mapM (fun capture => ?_) captures
  split
  · rfl
  · rw [SearchedText.toSubject, SearchedText.toSubject, same]
    cases searched'.coordinates.unitAt (capture.start.toNat + byteStart) with
    | error fault => rfl
    | ok start =>
        cases searched'.coordinates.unitAt (capture.stop.toNat + byteStart) with
        | error fault => rfl
        | ok stop => cases searched.canonical <;> cases searched'.canonical <;> rfl

theorem stateOf_isFound {matcher matcher' : Matcher σ}
    (same : matcher.searched.coordinates = matcher'.searched.coordinates) (byteStart : Nat)
    (outcome : Except Fault Outcome) :
    (outcome.bind (matcher.stateOf byteStart)).map MatchState.isFound =
      (outcome.bind (matcher'.stateOf byteStart)).map MatchState.isFound := by
  cases outcome with
  | error fault => rfl
  | ok outcome =>
      cases outcome with
      | noMatch => rfl
      | partialMatch => rfl
      | matched captures mark =>
          have spans := sameFault_subjectSpans same byteStart captures
          simp only [Except.bind, stateOf]
          cases read : subjectSpans matcher.searched byteStart captures <;>
            cases read' : subjectSpans matcher'.searched byteStart captures <;>
            rw [read, read'] at spans <;>
            cases spans <;> rfl

/-- Calls on unused matchers come to the same where the texts have the same decomposition and
the patterns were compiled from the same bytes. -/
theorem IsUnused.make_exec_eq (follows : engine.Follows model) {matcher matcher' : Matcher σ}
    (unused : matcher.IsUnused) (unused' : matcher'.IsUnused)
    (isOf : matcher.pattern.IsOf engine flags isDedicated)
    (isOf' : matcher'.pattern.IsOf engine flags isDedicated) {bytes : Bytes}
    {trace trace' : Trace σ}
    (isHeld : matcher.pattern.IsHeld model bytes flags isDedicated trace.engines)
    (isHeld' : matcher'.pattern.IsHeld model bytes flags isDedicated trace'.engines)
    (sameText : decomposedText matcher.text.points = decomposedText matcher'.text.points)
    (samePartial : matcher.partialMatching = matcher'.partialMatching) (call : Call) :
    (call.make.exec ⟨matcher, trace⟩).1 = (call.make.exec ⟨matcher', trace'⟩).1 := by
  have sameOutcome : matcher.pattern.adapter.outcomeOf = matcher'.pattern.adapter.outcomeOf := by
    funext exchanged
    unfold Adapter.outcomeOf Adapter.failure
    rw [isOf.engine_eq, isOf'.engine_eq]
  have sameSearched : matcher.searchedText = matcher'.searchedText := by
    rw [unused.searchedText_eq, unused'.searchedText_eq, sameText]
  have sameCoordinates : matcher.seen.searched.coordinates =
      matcher'.seen.searched.coordinates := by
    rw [unused.seen.consistent.coordinates, unused'.seen.consistent.coordinates]
    exact congrArg Coordinates.ofText sameSearched
  have sameStart : matcher.seen.seenView.byteStart = matcher'.seen.seenView.byteStart := by
    rw [seenView, seenView, unused.seen.viewStart_eq, unused'.seen.viewStart_eq]
    exact congrArg (bytesBefore · 0) sameSearched
  rw [unused.make_exec_fst follows isOf isHeld, unused'.make_exec_fst follows isOf' isHeld',
    sameText, samePartial, sameOutcome, sameStart]
  exact stateOf_isFound sameCoordinates _ _

/-- A pattern under canonical equivalence makes an unused matcher, or refuses to match
partially. -/
theorem create_cases {pattern : Pattern σ} (isOf : pattern.IsOf engine flags isDedicated)
    (isCanonical : flags.canonicalEquivalence = true) (text : Text) (settings : MatcherSettings)
    (trace : Trace σ) :
    if settings.partialMatching && !engine.capabilities.partialMatching then
      ∃ after, (create pattern text settings).run trace =
        (.error (.noPartialMatching engine.name), after)
    else
      ∃ matcher after, (create pattern text settings).run trace = (.ok matcher, after) ∧
        matcher.IsUnused ∧ matcher.pattern = pattern ∧ matcher.text = text ∧
        matcher.partialMatching = settings.partialMatching ∧
        after.engines = (engine.makeStack.run trace.engines).2 := by
  obtain rfl := isOf.engine_eq
  rw [create_run, isOf.isOpen, if_neg Bool.false_ne_true]
  dsimp only
  split
  · next refused =>
      refine ⟨_, Prod.ext ?_ rfl⟩
      exact if_pos refused
  · next supported =>
      have isSupported : settings.partialMatching = true → canMatchPartially pattern = true := by
        intro isPartial
        rw [canMatchPartially]
        simpa [isPartial] using supported
      rw [usePartialMatching_of_supported isSupported]
      refine ⟨_, _, rfl, ⟨?_, ?_, rfl, rfl, rfl, rfl⟩, rfl, rfl, rfl, rfl⟩
      · have fresh := initial_consistent isOf.isOpen text settings.anchoringBounds
          (pattern.adapter.engine.makeStack.run trace.engines).1
        exact ⟨fresh.searched, fresh.region_le, fresh.regionEnd_le, fresh.view, isSupported,
          fresh.isOpen⟩
      · exact isOf.canonicalEquivalence.trans isCanonical

end Matcher

/-- Under canonical equivalence an engine is given the decomposition of an expression. -/
theorem PatternText.ofSource_eq (source : Text) {flags : Flags}
    (isCanonical : flags.canonicalEquivalence = true) :
    (ofSource source flags).text = decomposedText source.points ∧
      (ofSource source flags).source = source := by
  rw [ofSource, if_pos isCanonical]
  exact ⟨CanonicalText.normalized_ofText source, rfl⟩

namespace Pattern

open Matcher (Call create)

variable {σ : Type} {engine : Engine σ} {model : CodeModel σ}

/-- The decomposition of a text by segments is that of the whole text.  So expressions of one
decomposition are compiled alike under canonical equivalence, or refused for the same reason,
and calls on unused matchers of texts of one decomposition come to the same. -/
theorem equivalents_agree (follows : engine.Follows model) (isLogged : Bool)
    {source source' : Text}
    (sameSource : decomposedText source.points = decomposedText source'.points) {flags : Number}
    {parsed : Flags} (isParsed : Flags.ofNumber flags = .ok parsed)
    (isCanonical : parsed.canonicalEquivalence = true) (settings : PatternSettings)
    (trace trace' : Trace σ) :
    (∀ text : Text, (CanonicalText.ofText text).normalized = decomposedText text.points) ∧
    ((∃ description index index' after after',
      (compile engine isLogged source flags settings).run trace =
        (.error (.badPattern description source index), after) ∧
      (compile engine isLogged source' flags settings).run trace' =
        (.error (.badPattern description source' index'), after')) ∨
    ∃ pattern pattern' after after',
      (compile engine isLogged source flags settings).run trace = (.ok pattern, after) ∧
      (compile engine isLogged source' flags settings).run trace' = (.ok pattern', after') ∧
      ∀ text text' : Text, decomposedText text.points = decomposedText text'.points →
      ∀ (matcherSettings : MatcherSettings) (before before' : Trace σ),
        pattern.StaysHeld model after.engines before.engines →
        pattern'.StaysHeld model after'.engines before'.engines →
        (∃ fault started started',
          (create pattern text matcherSettings).run before = (.error fault, started) ∧
          (create pattern' text' matcherSettings).run before' = (.error fault, started')) ∨
        ∃ matcher matcher' started started',
          (create pattern text matcherSettings).run before = (.ok matcher, started) ∧
          (create pattern' text' matcherSettings).run before' = (.ok matcher', started') ∧
          ∀ call : Call, (call.make.exec ⟨matcher, started⟩).1 =
            (call.make.exec ⟨matcher', started'⟩).1) := by
  refine ⟨CanonicalText.normalized_ofText, ?_⟩
  have decomposed := fun source => PatternText.ofSource_eq source isCanonical
  -- Of a source only its decomposition gets to the compiler, and of a text to a match call.
  have cases := compile_cases follows isLogged source isParsed settings rfl trace
  have cases' := compile_cases follows isLogged source' isParsed settings rfl trace'
  dsimp only at cases cases'
  rw [(decomposed source).1, (decomposed source).2] at cases
  rw [(decomposed source').1, (decomposed source').2, ← sameSource] at cases'
  rcases cases with ⟨rejection, after, refused, ran⟩ | ⟨pattern, after, accepted, ran, isOf, isHeld⟩
  · rcases cases' with ⟨rejection', after', refused', ran'⟩ | ⟨_, _, accepted', -⟩
    · obtain rfl := Option.some.inj (refused.symm.trans refused')
      exact .inl ⟨rejection.description, _, _, after, after', ran, ran'⟩
    · rw [refused] at accepted'
      contradiction
  · rcases cases' with ⟨_, _, refused', -⟩ | ⟨pattern', after', -, ran', isOf', isHeld'⟩
    · rw [accepted] at refused'
      contradiction
    · refine .inr ⟨pattern, pattern', after, after', ran, ran', ?_⟩
      intro text text' sameText matcherSettings before before' stays stays'
      have created := Matcher.create_cases isOf isCanonical text matcherSettings before
      have created' := Matcher.create_cases isOf' isCanonical text' matcherSettings before'
      split at created
      · next refused =>
          rw [if_pos refused] at created'
          obtain ⟨started, made⟩ := created
          obtain ⟨started', made'⟩ := created'
          exact .inl ⟨_, started, started', made, made'⟩
      · next supported =>
          rw [if_neg supported] at created'
          obtain ⟨matcher, started, made, unused, rfl, rfl, isPartial, sameEngines⟩ := created
          obtain ⟨matcher', started', made', unused', rfl, rfl, isPartial', sameEngines'⟩ :=
            created'
          refine .inr ⟨matcher, matcher', started, started', made, made', fun call => ?_⟩
          have held : matcher.pattern.IsHeld model (Utf8.encode (decomposedText source.points))
              parsed _ started.engines := fun anchoring => by
            rw [sameEngines]
            exact follows.makeStack_keeps _ _ _ _ (isHeld.of_staysHeld stays anchoring)
          have held' : matcher'.pattern.IsHeld model (Utf8.encode (decomposedText source.points))
              parsed _ started'.engines := fun anchoring => by
            rw [sameEngines']
            exact follows.makeStack_keeps _ _ _ _ (isHeld'.of_staysHeld stays' anchoring)
          exact unused.make_exec_eq follows unused' isOf isOf' held held' sameText
            (isPartial.trans isPartial'.symm) call

/-- Accents in either order, in the expression and in the text, on the engine that backtracks. -/
theorem equivalents_agree_accents :
    ∃ pattern pattern' matcher matcher' after after',
      (compile EngineKind.backtracking.engine false [0x61, 0x301, 0x323] (.ofNat 128) {}).run
        ⟨{}, []⟩ = (.ok pattern, after) ∧
      (compile EngineKind.backtracking.engine false [0x61, 0x323, 0x301] (.ofNat 128) {}).run
        ⟨{}, []⟩ = (.ok pattern', after') ∧
      ((create pattern [0x61, 0x323, 0x301] {}).run after).1 = .ok matcher ∧
      ((create pattern' [0x61, 0x301, 0x323] {}).run after').1 = .ok matcher' ∧
      ∀ call : Call, (call.make.exec ⟨matcher, ((create pattern [0x61, 0x323, 0x301] {}).run
          after).2⟩).1 =
        (call.make.exec ⟨matcher', ((create pattern' [0x61, 0x301, 0x323] {}).run
          after').2⟩).1 := by
  have isParsed : Flags.ofNumber (.ofNat 128) = .ok (Flags.ofWord 128) := rfl
  have points : Text.points [0x61, 0x301, 0x323] = [0x61, 0x301, 0x323] := rfl
  have points' : Text.points [0x61, 0x323, 0x301] = [0x61, 0x323, 0x301] := rfl
  have same : decomposedText (Text.points [0x61, 0x301, 0x323]) =
      decomposedText (Text.points [0x61, 0x323, 0x301]) := by
    rw [points, points', decomposedText, decomposedText, Unicode.canonicalDecomposition_accents,
      Unicode.canonicalDecomposition_ordered_accents]
  have isText : (PatternText.ofSource [0x61, 0x301, 0x323] (Flags.ofWord 128)).text =
      [0x61, 0x323, 0x301] := by
    rw [(PatternText.ofSource_eq _ rfl).1, points, decomposedText,
      Unicode.canonicalDecomposition_accents]
    rfl
  have accepted : EngineKind.backtracking.codeModel.refusal? (Utf8.encode [0x61, 0x323, 0x301])
      (Flags.ofWord 128).compileOptions true = none := by
    unfold CodeModel.refusal? EngineKind.codeModel
    decide +kernel
  have follows := EngineKind.backtracking.follows_codeModel
  have cases := @compile_cases _ _ _ follows false [0x61, 0x301, 0x323] _ _ isParsed {} true rfl
    ⟨{}, []⟩
  dsimp only at cases
  rw [isText] at cases
  rcases (equivalents_agree follows false same isParsed rfl {} ⟨{}, []⟩ ⟨{}, []⟩).2 with
    ⟨description, index, -, after, -, failed, -⟩ |
    ⟨pattern, pattern', after, after', ran, ran', agree⟩
  · rcases cases with ⟨rejection, -, refused, -⟩ | ⟨pattern, _, -, compiled, -⟩
    · rw [accepted] at refused
      contradiction
    · rw [failed] at compiled
      cases compiled
  · rcases agree [0x61, 0x323, 0x301] [0x61, 0x301, 0x323] same.symm {} after after'
      (fun _ _ _ => id) (fun _ _ _ => id) with
      ⟨fault, started, -, failed, -⟩ | ⟨matcher, matcher', started, started', made, made', calls⟩
    · rcases cases with ⟨rejection, -, refused, -⟩ | ⟨other, _, -, compiled, isOf, -⟩
      · rw [accepted] at refused
        contradiction
      · obtain ⟨same, -⟩ := Prod.mk.inj (ran.symm.trans compiled)
        obtain rfl := Except.ok.inj same
        have created := Matcher.create_cases isOf rfl [0x61, 0x323, 0x301] {} after
        rw [if_neg (by decide)] at created
        obtain ⟨matcher, _, created, -⟩ := created
        rw [failed] at created
        cases created
    · refine ⟨pattern, pattern', matcher, matcher', after, after', ran, ran', ?_, ?_, ?_⟩
      · rw [made]
      · rw [made']
      · rw [made, made']
        exact calls

end Pattern

end RegexMatching
