import RegexMatching.Pattern.Survey
import RegexMatching.Proofs.EndAnchoring
import RegexMatching.Proofs.RegionIsolation
import RegexMatching.Proofs.Searches

/-!
# Anchored code and anchored calls

A pattern that backtracks can be compiled once for each way of anchoring, or once for all of
them.  Matchers of the two patterns differ in their patterns only, and after the same calls
they still do: every attempt of one comes to what the attempt of the other comes to.
-/

namespace RegexMatching

/-! ## Reports -/

/-- Code that searches alike under options that are honoured alike reports alike. -/
theorem Backend.report_congr {κ : Type} {backend : Backend κ} {code code' : κ}
    {options options' : MatchOptions}
    (sameCount : backend.captureCount code = backend.captureCount code')
    (sameHonours : backend.honours options = backend.honours options')
    (sameSearch : ∀ text position,
      backend.search code text position options = backend.search code' text position options')
    (subject : Bytes) (start : Int) :
    backend.report (some code) subject start options.toBits =
      backend.report (some code') subject start options'.toBits := by
  simp only [report, answer, MatchOptions.ofBits?_toBits, sameCount, sameHonours, sameSearch]

/-- Whether a call is honoured does not depend on its anchoring. -/
theorem EngineKind.honours_eq (kind : EngineKind) (options options' : MatchOptions)
    (notBol notEol partialSoft : Bool) :
    kind.backend.honours { options with notBol, notEol, partialSoft } =
      kind.backend.honours { options' with notBol, notEol, partialSoft } := by
  cases kind <;> rfl

/-- Patterns with the same plain code report alike on every call for an anchoring. -/
theorem Pattern.IsCompiled.report_eq {kind : EngineKind} {flags : Flags} {plain : kind.Code}
    {pattern other : Pattern EngineState} {engines engines' : EngineState}
    (isCompiled : pattern.IsCompiled kind flags plain engines)
    (isCompiled' : other.IsCompiled kind flags plain engines') (anchoring : Anchoring)
    (notBol notEol : Bool) (subject : Bytes) (start : Int) :
    kind.backend.report (kind.code? engines' (other.variants.variant anchoring).handle) subject
        start { (other.variants.variant anchoring).options with
          notBol, notEol, partialSoft := false }.toBits =
      kind.backend.report (kind.code? engines (pattern.variants.variant anchoring).handle) subject
        start { (pattern.variants.variant anchoring).options with
          notBol, notEol, partialSoft := false }.toBits := by
  obtain ⟨own, stored, sameCount, sameSearch⟩ := isCompiled.own anchoring
  obtain ⟨own', stored', sameCount', sameSearch'⟩ := isCompiled'.own anchoring
  rw [stored, stored']
  exact Backend.report_congr (sameCount'.trans sameCount.symm) (kind.honours_eq _ _ _ _ _)
    (fun text position => (sameSearch' text position notBol notEol).trans
      (sameSearch text position notBol notEol).symm) subject start

/-! ## Patterns in the place of others -/

namespace Matcher

variable {σ : Type}

/-- The matcher with another pattern in the place of its own, and as it was otherwise. -/
def replacePattern (matcher : Matcher σ) (pattern : Pattern σ) : Matcher σ :=
  { matcher with pattern }

theorem initial_replacePattern {pattern other : Pattern σ}
    (same : other.canonicalEquivalence = pattern.canonicalEquivalence) (text : Text)
    (anchoringBounds : Bool) (stack : Handle) :
    (initial pattern text anchoringBounds stack).replacePattern other =
      initial other text anchoringBounds stack := by
  rw [initial, initial, same]
  rfl

theorem usePartialMatching_replacePattern {matcher : Matcher σ} {other : Pattern σ}
    (same : other.adapter.engine = matcher.pattern.adapter.engine) (value : Bool) :
    (matcher.replacePattern other).usePartialMatching value =
      (matcher.usePartialMatching value).map (·.replacePattern other) := by
  rw [usePartialMatching, usePartialMatching, canMatchPartially, canMatchPartially]
  change (if value && !other.adapter.engine.capabilities.partialMatching then
    Except.error (Fault.noPartialMatching other.adapter.engine.name) else _) = _
  rw [same]
  split <;> rfl

theorem region_replacePattern (matcher : Matcher σ) (other : Pattern σ) (start stop : Number) :
    (matcher.replacePattern other).region start stop =
      (matcher.region start stop).map (·.replacePattern other) := by
  have sameText : (matcher.replacePattern other).text = matcher.text := rfl
  rw [region, region, sameText]
  cases start.toIndex? matcher.text.length with
  | none => rfl
  | some first =>
      cases stop.toIndex? matcher.text.length with
      | none => rfl
      | some last =>
          dsimp only
          split <;> rfl

theorem conclude_replacePattern (matcher : Matcher σ) (other : Pattern σ) (anchoring : Anchoring)
    (attempted : Except Fault MatchState) :
    (matcher.replacePattern other).conclude anchoring attempted =
      ((matcher.conclude anchoring attempted).1,
        (matcher.conclude anchoring attempted).2.replacePattern other) := by
  cases attempted with
  | error fault => rfl
  | ok state => cases state <;> rfl

section SameText

variable {matcher : Matcher σ} {other : Pattern σ}
  (same : other.canonicalEquivalence = matcher.pattern.canonicalEquivalence)

include same

/-- Patterns that read their subjects in the same way see the same. -/
theorem searchedText_replacePattern :
    (matcher.replacePattern other).searchedText = matcher.searchedText :=
  congrArg (SearchedText.textOf matcher.text) same

theorem viewStart_replacePattern : (matcher.replacePattern other).viewStart = matcher.viewStart :=
  congrArg (·.ceilIndex (matcher.searched.ofSubject matcher.regionStart))
    (searchedText_replacePattern same)

theorem viewEnd_replacePattern : (matcher.replacePattern other).viewEnd = matcher.viewEnd :=
  congrArg (·.floorIndex (matcher.searched.ofSubject matcher.regionEnd))
    (searchedText_replacePattern same)

theorem viewText_replacePattern : (matcher.replacePattern other).viewText = matcher.viewText := by
  rw [viewText, searchedText_replacePattern same, viewStart_replacePattern same,
    viewEnd_replacePattern same, viewText]

theorem seenView_replacePattern : (matcher.replacePattern other).seenView = matcher.seenView := by
  rw [seenView, viewText_replacePattern same, searchedText_replacePattern same,
    viewStart_replacePattern same, viewEnd_replacePattern same, seenView]

theorem placeOf?_replacePattern (start : Nat) :
    (matcher.replacePattern other).placeOf? start = matcher.placeOf? start := by
  rw [placeOf?, searchedText_replacePattern same, viewStart_replacePattern same,
    viewEnd_replacePattern same]
  rfl

theorem seen_replacePattern :
    (matcher.replacePattern other).seen = matcher.seen.replacePattern other := by
  rw [seen, seenView_replacePattern same]
  rfl

theorem Consistent.replacePattern (consistent : matcher.Consistent)
    (isOpen : other.isClosed = false) (isTotal : matcher.partialMatching = false) :
    (matcher.replacePattern other).Consistent where
  searched := by
    rw [show (matcher.replacePattern other).pattern.canonicalEquivalence =
      matcher.pattern.canonicalEquivalence from same]
    exact consistent.searched
  region_le := consistent.region_le
  regionEnd_le := consistent.regionEnd_le
  view := consistent.view
  partialMatching := fun isPartial => absurd (isTotal.symm.trans isPartial) Bool.false_ne_true
  isOpen

end SameText

/-! ## Calls -/

section Twins

variable {kind : EngineKind} {flags : Flags} {plain : kind.Code} {engines engines' : EngineState}
  {matcher : Matcher EngineState} {other : Pattern EngineState}
  (consistent : matcher.Consistent)
  (isCompiled : matcher.pattern.IsCompiled kind flags plain engines)
  (isCompiled' : other.IsCompiled kind flags plain engines')

include consistent isCompiled isCompiled'

/-- An attempt comes to the same with either pattern. -/
theorem attempted_replacePattern (start : Nat) (anchoring : Anchoring) :
    (matcher.replacePattern other).attempted (kind.backend.answering (kind.code? engines')) start
        anchoring =
      matcher.attempted (kind.backend.answering (kind.code? engines)) start anchoring := by
  have same : other.canonicalEquivalence = matcher.pattern.canonicalEquivalence :=
    isCompiled'.canonicalEquivalence.trans isCompiled.canonicalEquivalence.symm
  have sameEngine : other.adapter.engine = matcher.pattern.adapter.engine :=
    isCompiled'.engine.trans isCompiled.engine.symm
  have sameOutcome : (matcher.replacePattern other).pattern.adapter.outcomeOf =
      matcher.pattern.adapter.outcomeOf := by
    funext exchanged
    change other.adapter.outcomeOf exchanged = _
    unfold Adapter.outcomeOf Adapter.failure
    rw [sameEngine]
  have sameEdges : (matcher.replacePattern other).lacksLineEdges = matcher.lacksLineEdges := by
    unfold lacksLineEdges
    change (_ && !other.adapter.engine.capabilities.lineBoundaryOptions) = _
    rw [sameEngine]
    rfl
  have sameReport : ∀ place,
      (kind.backend.answering (kind.code? engines')).to
          ((matcher.replacePattern other).requestAt place anchoring) =
        (kind.backend.answering (kind.code? engines)).to (matcher.requestAt place anchoring) := by
    intro place
    have isTotal := consistent.partialMatching_eq_false isCompiled.isOffered
    unfold requestAt matchOptions
    rw [viewText_replacePattern same]
    change kind.backend.report _ _ _ { (other.variants.variant anchoring).options with
        notBol := _, notEol := _, partialSoft := matcher.partialMatching }.toBits =
      kind.backend.report _ _ _ { (matcher.pattern.variants.variant anchoring).options with
        notBol := _, notEol := _, partialSoft := matcher.partialMatching }.toBits
    rw [isTotal]
    exact isCompiled.report_eq isCompiled' anchoring _ _ _ _
  unfold attempted
  rw [sameEdges, placeOf?_replacePattern same, sameOutcome, seenView_replacePattern same]
  simp only [sameReport]
  rw [show (matcher.replacePattern other).pattern.adapter.engine.name =
    matcher.pattern.adapter.engine.name from congrArg Engine.name sameEngine]
  rfl

/-- A call comes to the same with either pattern, and the matchers still differ in their
patterns only. -/
theorem result_replacePattern (call : Call) :
    call.result (kind.backend.answering (kind.code? engines')) (matcher.replacePattern other) =
      ((call.result (kind.backend.answering (kind.code? engines)) matcher).1,
        (call.result (kind.backend.answering (kind.code? engines)) matcher).2.replacePattern
          other) := by
  have same : other.canonicalEquivalence = matcher.pattern.canonicalEquivalence :=
    isCompiled'.canonicalEquivalence.trans isCompiled.canonicalEquivalence.symm
  have search : ∀ start anchoring,
      (matcher.replacePattern other).seen.conclude anchoring
          ((matcher.replacePattern other).seen.attempted
            (kind.backend.answering (kind.code? engines')) start anchoring) =
        ((matcher.seen.conclude anchoring (matcher.seen.attempted
            (kind.backend.answering (kind.code? engines)) start anchoring)).1,
          (matcher.seen.conclude anchoring (matcher.seen.attempted
            (kind.backend.answering (kind.code? engines)) start anchoring)).2.replacePattern
              other) := by
    intro start anchoring
    rw [seen_replacePattern same,
      attempted_replacePattern consistent.seen isCompiled isCompiled', conclude_replacePattern]
  cases call with
  | find =>
      have sameExhausted : (matcher.replacePattern other).isExhausted = matcher.isExhausted := rfl
      have sameNext : (matcher.replacePattern other).nextStart? = matcher.nextStart? := rfl
      rw [Call.result, Call.result, sameExhausted, sameNext]
      by_cases isExhausted : matcher.isExhausted = true
      · rw [if_pos isExhausted, if_pos isExhausted]
      · rw [if_neg isExhausted, if_neg isExhausted]
        cases matcher.nextStart? with
        | none => rfl
        | some start => exact search start .search
  | lookingAt => exact search _ .lookingAt
  | matchWhole => exact search _ .whole

/-- Any calls come to the same with either pattern. -/
theorem callResults_replacePattern (calls : List Call) {trace trace' : Trace EngineState}
    (held : kind.code? trace.engines = kind.code? engines)
    (held' : kind.code? trace'.engines = kind.code? engines') :
    callResults calls ⟨matcher.replacePattern other, trace'⟩ =
      callResults calls ⟨matcher, trace⟩ := by
  induction calls generalizing matcher trace trace' with
  | nil => rfl
  | cons call rest ih =>
      have same : other.canonicalEquivalence = matcher.pattern.canonicalEquivalence :=
        isCompiled'.canonicalEquivalence.trans isCompiled.canonicalEquivalence.symm
      have isTotal := consistent.partialMatching_eq_false isCompiled.isOffered
      have answers := kind.answersBy (kind.code? engines)
      have answers' := kind.answersBy (kind.code? engines')
      rw [← isCompiled.engine] at answers
      rw [← isCompiled'.engine] at answers'
      obtain ⟨after, heldAfter, made⟩ := call.make_exec_eq consistent answers held
      obtain ⟨after', heldAfter', made'⟩ := call.make_exec_eq
        (consistent.replacePattern same isCompiled'.isOpen isTotal) answers' held'
      rw [result_replacePattern consistent isCompiled isCompiled'] at made'
      have task := call.sameTask_result (kind.backend.answering (kind.code? engines)) matcher
      rw [callResults, callResults, made, made']
      dsimp only
      rw [ih (call.consistent_result _ consistent) (task.pattern ▸ isCompiled) heldAfter
        heldAfter']
      rfl

end Twins

end Matcher

/-! ## Compiling -/

/-- A fresh matcher of another pattern of the same plain code differs in its pattern only, and
is refused for the same reasons. -/
theorem Survey.freshMatcher_replacePattern {kind : EngineKind} {flags : Flags} {plain : kind.Code}
    {pattern other : Pattern EngineState} {engines engines' : EngineState}
    (isCompiled : pattern.IsCompiled kind flags plain engines)
    (isCompiled' : other.IsCompiled kind flags plain engines') (text : Text)
    (settings : MatcherSettings) (region : Option (Number × Number))
    (trace trace' : Trace EngineState) :
    (freshMatcher other text settings region).run trace' =
      (((freshMatcher pattern text settings region).run trace).1.map (·.replacePattern other),
        trace') := by
  have same : other.canonicalEquivalence = pattern.canonicalEquivalence :=
    isCompiled'.canonicalEquivalence.trans isCompiled.canonicalEquivalence.symm
  have sameEngine : other.adapter.engine = pattern.adapter.engine :=
    isCompiled'.engine.trans isCompiled.engine.symm
  rw [freshMatcher_run isCompiled'.isOffered isCompiled'.isOpen,
    freshMatcher_run isCompiled.isOffered isCompiled.isOpen,
    ← Matcher.initial_replacePattern same, Matcher.usePartialMatching_replacePattern sameEngine]
  cases (Matcher.initial pattern text settings.anchoringBounds 0).usePartialMatching
    settings.partialMatching with
  | error fault => rfl
  | ok matcher =>
      rcases region with _ | ⟨start, stop⟩
      · rfl
      · exact Prod.ext (matcher.region_replacePattern other start stop) rfl

namespace Pattern

open Matcher (callResults)

/-- A pattern that backtracks is compiled with code for each way of anchoring exactly when it is
compiled without, and refused for the same reason.  Fresh matchers of the two patterns are
refused for the same reasons, and any calls on them come to the same. -/
theorem precompiling_agrees (isLogged : Bool) (source : Text) (flags : Number)
    (settings settings' : PatternSettings) (trace trace' : Trace EngineState) :
    (∃ fault,
      ((compile EngineKind.backtracking.engine isLogged source flags settings).run trace).1 =
        .error fault ∧
      ((compile EngineKind.backtracking.engine isLogged source flags settings').run trace').1 =
        .error fault) ∨
    ∃ pattern pattern' after after',
      (compile EngineKind.backtracking.engine isLogged source flags settings).run trace =
        (.ok pattern, after) ∧
      (compile EngineKind.backtracking.engine isLogged source flags settings').run trace' =
        (.ok pattern', after') ∧
      ∀ (text : Text) (matcherSettings : MatcherSettings) (region : Option (Number × Number))
        (before before' : Trace EngineState),
        HeldAs .backtracking pattern after.engines before.engines →
        HeldAs .backtracking pattern' after'.engines before'.engines →
        (∃ fault,
          ((Survey.freshMatcher pattern text matcherSettings region).run before).1 =
            .error fault ∧
          ((Survey.freshMatcher pattern' text matcherSettings region).run before').1 =
            .error fault) ∨
        ∃ matcher matcher',
          (Survey.freshMatcher pattern text matcherSettings region).run before =
            (.ok matcher, before) ∧
          (Survey.freshMatcher pattern' text matcherSettings region).run before' =
            (.ok matcher', before') ∧
          ∀ calls, callResults calls ⟨matcher, before⟩ = callResults calls ⟨matcher', before'⟩ := by
  cases isParsed : Flags.ofNumber flags with
  | error fault =>
      exact .inl ⟨fault, compile_of_flags _ _ _ isParsed, compile_of_flags _ _ _ isParsed⟩
  | ok parsed =>
      cases compiled : EngineKind.backtracking.backend.compile
        (Utf8.encode (PatternText.ofSource source parsed).text)
        (Anchoring.search.applyTo parsed.compileOptions) with
      | error rejection =>
          exact .inl ⟨_, compile_rejected _ _ isParsed _ compiled,
            compile_rejected _ _ isParsed _ compiled⟩
      | ok plain =>
          have compiledOwn : ∀ anchoring : Anchoring, ∃ own,
              EngineKind.backtracking.backend.compile
                (Utf8.encode (PatternText.ofSource source parsed).text)
                (anchoring.applyTo parsed.compileOptions) = .ok own :=
            Backtracking.exists_compile_of_plain compiled
          obtain ⟨pattern, after, ran, isCompiled, -⟩ :=
            exists_isCompiled isLogged settings isParsed trace compiled fun _ => compiledOwn
          obtain ⟨pattern', after', ran', isCompiled', -⟩ :=
            exists_isCompiled isLogged settings' isParsed trace' compiled fun _ => compiledOwn
          refine .inr ⟨pattern, pattern', after, after', ran, ran', ?_⟩
          intro text matcherSettings region before before' heldAs heldAs'
          have isHeld := isCompiled.of_heldAs heldAs
          have isHeld' := isCompiled'.of_heldAs heldAs'
          have fresh' := Survey.freshMatcher_replacePattern isHeld isHeld' text matcherSettings
            region before before'
          have fresh := Survey.freshMatcher_run isHeld.isOffered isHeld.isOpen text matcherSettings
            region before
          rcases made : (Survey.freshMatcher pattern text matcherSettings region).run before with
            ⟨outcome, unchanged⟩
          rw [made] at fresh fresh'
          obtain rfl : unchanged = before := congrArg Prod.snd fresh
          cases outcome with
          | error fault => exact .inl ⟨fault, rfl, congrArg Prod.fst fresh'⟩
          | ok matcher =>
              obtain ⟨consistent, rfl⟩ := Survey.consistent_of_freshMatcher made
              exact .inr ⟨matcher, matcher.replacePattern pattern', rfl, fresh', fun calls =>
                (Matcher.callResults_replacePattern consistent isHeld isHeld' calls rfl rfl).symm⟩

/-- Code for each way of anchoring, and code for all of them, on a region behind a letter. -/
theorem precompiling_agrees_behind_letter :
    ∃ pattern pattern' after after' matcher matcher',
      (compile EngineKind.backtracking.engine false [0x61] (.ofNat 0)
        { precompileAnchoredVariants := true }).run ⟨{}, []⟩ = (.ok pattern, after) ∧
      (compile EngineKind.backtracking.engine false [0x61] (.ofNat 0)
        { precompileAnchoredVariants := false }).run ⟨{}, []⟩ = (.ok pattern', after') ∧
      pattern.variants.handles.length = 3 ∧ pattern'.variants.handles.length = 1 ∧
      (Survey.freshMatcher pattern [0x62, 0x61] {} (some (.ofNat 1, .ofNat 2))).run after =
        (.ok matcher, after) ∧
      (Survey.freshMatcher pattern' [0x62, 0x61] {} (some (.ofNat 1, .ofNat 2))).run after' =
        (.ok matcher', after') ∧
      callResults [.lookingAt, .find, .matchWhole, .find] ⟨matcher, after⟩ =
        callResults [.lookingAt, .find, .matchWhole, .find] ⟨matcher', after'⟩ := by
  have evaluated : (match (compile EngineKind.backtracking.engine false [0x61] (.ofNat 0)
        { precompileAnchoredVariants := true }).run ⟨{}, []⟩ with
      | (.ok pattern, after) => pattern.variants.handles.length == 3 &&
          ((Survey.freshMatcher pattern [0x62, 0x61] {} (some (.ofNat 1, .ofNat 2))).run
            after).1.isOk
      | (.error _, _) => false) = true := by decide +kernel
  have evaluated' : (match (compile EngineKind.backtracking.engine false [0x61] (.ofNat 0)
        { precompileAnchoredVariants := false }).run ⟨{}, []⟩ with
      | (.ok pattern, _) => pattern.variants.handles.length == 1
      | (.error _, _) => false) = true := by decide +kernel
  rcases precompiling_agrees false [0x61] (.ofNat 0) { precompileAnchoredVariants := true }
    { precompileAnchoredVariants := false } ⟨{}, []⟩ ⟨{}, []⟩ with
    ⟨fault, failed, -⟩ | ⟨pattern, pattern', after, after', compiled, compiled', agree⟩
  · split at evaluated
    · next compiled => exact absurd (congrArg Prod.fst compiled |>.symm.trans failed) nofun
    · contradiction
  · rw [compiled, Bool.and_eq_true] at evaluated
    rw [compiled'] at evaluated'
    rcases agree [0x62, 0x61] {} (some (.ofNat 1, .ofNat 2)) after after' (fun _ => rfl)
      (fun _ => rfl) with ⟨fault, failed, -⟩ | ⟨matcher, matcher', fresh, fresh', same⟩
    · exact absurd evaluated.2 (failed ▸ Bool.false_ne_true)
    · exact ⟨pattern, pattern', after, after', matcher, matcher', compiled, compiled',
        beq_iff_eq.mp evaluated.1, beq_iff_eq.mp evaluated', fresh, fresh', same _⟩

end Pattern

end RegexMatching
