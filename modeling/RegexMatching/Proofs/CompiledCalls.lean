import RegexMatching.Proofs.Anchorings
import RegexMatching.Proofs.Variants

/-!
# Calls on compiled patterns

A call on a matcher fails for many reasons, but for a syntax that cannot be read only where the
engine does.  So a matcher whose pattern was compiled fails for its syntax only where the code
lacks the variant that the matcher asks for.
-/

namespace RegexMatching

/-- The faults of a syntax that an engine finds it cannot read after all. -/
def Fault.IsLateSyntax (fault : Fault) : Prop :=
  fault.kind = .backtrackSyntax ∨ fault.kind = .linearSyntax

theorem EngineKind.isLateSyntax_variantFault (kind : EngineKind) :
    kind.variantFault.IsLateSyntax := by
  cases kind
  · exact .inl rfl
  · exact .inr rfl

namespace Matcher

variable {σ : Type}

/-! ## Where syntax faults come from -/

/-- A step fails where the map over a list fails. -/
theorem exists_error_of_mapM {α β : Type} {step : α → Except Fault β} {items : List α}
    {fault : Fault} (failed : items.mapM step = .error fault) :
    ∃ item ∈ items, step item = .error fault := by
  induction items with
  | nil => contradiction
  | cons item rest ih =>
      rw [List.mapM_cons] at failed
      cases once : step item with
      | error cause =>
          rw [once] at failed
          cases failed
          exact ⟨item, List.mem_cons_self, once⟩
      | ok value =>
          rw [once] at failed
          cases others : rest.mapM step with
          | error cause =>
              rw [others] at failed
              cases failed
              obtain ⟨other, mem, isFault⟩ := ih others
              exact ⟨other, List.mem_cons_of_mem _ mem, isFault⟩
          | ok values =>
              rw [others] at failed
              cases failed

/-- Captures that have no place in the subject are out of range. -/
theorem kind_of_subjectSpans {searched : SearchedText} {byteStart : Nat} {captures : List Span}
    {fault : Fault} (failed : subjectSpans searched byteStart captures = .error fault) :
    fault.kind = .range := by
  rw [subjectSpans_eq] at failed
  obtain ⟨capture, -, failed⟩ := exists_error_of_mapM failed
  have unitAt : ∀ {byte cause}, searched.coordinates.unitAt byte = .error cause →
      cause.kind = .range := by
    intro byte cause failed
    rw [Coordinates.unitAt] at failed
    split at failed
    · contradiction
    · cases failed
      rfl
  rw [subjectSpan] at failed
  split at failed
  · contradiction
  · rw [SearchedText.toSubject] at failed
    cases atStart : searched.coordinates.unitAt (capture.start.toNat + byteStart) with
    | error cause =>
        rw [atStart] at failed
        cases failed
        exact unitAt atStart
    | ok first =>
        rw [atStart] at failed
        cases atStop : searched.coordinates.unitAt (capture.stop.toNat + byteStart) with
        | error cause =>
            rw [atStop] at failed
            cases failed
            exact unitAt atStop
        | ok last =>
            rw [atStop] at failed
            cases isCanonical : searched.canonical <;> (simp [isCanonical] at failed; cases failed)

/-- What is made of a report fails for no syntax. -/
theorem eq_error_of_outcomeOf {matcher : Matcher σ} {adapter : Adapter σ}
    {answered : Except Fault Report} {byteStart : Nat} {fault : Fault}
    (isLateSyntax : fault.IsLateSyntax)
    (failed : (adapter.outcomeOf answered).bind (matcher.stateOf byteStart) = .error fault) :
    answered = .error fault := by
  cases answered with
  | error cause => exact congrArg Except.error (Except.error.inj failed)
  | ok report =>
      exfalso
      unfold Adapter.outcomeOf at failed
      dsimp only at failed
      split at failed
      · simp only [Except.bind, stateOf] at failed
        cases translated : subjectSpans matcher.searched byteStart report.captures with
        | ok spans =>
            rw [translated] at failed
            contradiction
        | error cause =>
            rw [translated] at failed
            cases failed
            have isRange := kind_of_subjectSpans translated
            rcases isLateSyntax with isKind | isKind <;> cases isRange.symm.trans isKind
      split at failed
      · contradiction
      split at failed
      · contradiction
      · cases failed
        rcases isLateSyntax with isKind | isKind <;>
          · simp only [Adapter.failure, Fault.kind] at isKind
            split at isKind <;> cases isKind

/-- An attempt fails for a syntax only if the engine does. -/
theorem exists_answer_of_attempted {answer : MatchFunction} {matcher : Matcher σ} {start : Nat}
    {anchoring : Anchoring} {fault : Fault} (isLateSyntax : fault.IsLateSyntax)
    (failed : matcher.attempted answer start anchoring = .error fault) :
    ∃ place, answer.to (matcher.requestAt place anchoring) = .error fault := by
  unfold attempted at failed
  split at failed
  · cases failed
    rcases isLateSyntax with isKind | isKind <;> cases isKind
  · split at failed
    · contradiction
    · next place _ => exact ⟨place, eq_error_of_outcomeOf isLateSyntax failed⟩

/-! ## Calls -/

section Calls

variable {kind : EngineKind} {bytes : Bytes} {options : CompileOptions} {code : kind.Code}
  (compiled : kind.backend.compile bytes options = .ok code)

include compiled

/-- A search with compiled code fails for a syntax only if the code lacks the variant that the
matcher asks for. -/
theorem lacksVariant_of_search {configuration : Configuration EngineState}
    (consistent : configuration.matcher.Consistent)
    (isKind : configuration.matcher.pattern.adapter.engine = kind.engine) {anchoring : Anchoring}
    (stored : kind.code? configuration.trace.engines
      (configuration.matcher.pattern.variants.variant anchoring).handle = some code)
    {start : Nat} (inside : start ≤ configuration.matcher.text.length) {fault : Fault}
    (isLateSyntax : fault.IsLateSyntax)
    (failed : ((search start anchoring).exec configuration).1 = .error fault) :
    kind.LacksVariant code (configuration.matcher.matchOptions
      (configuration.matcher.pattern.variants.variant anchoring)) := by
  have answers := kind.answersBy (kind.code? configuration.trace.engines)
  rw [← isKind] at answers
  obtain ⟨place, failed⟩ := exists_answer_of_attempted isLateSyntax
    (attempted_of_search_error consistent answers inside rfl failed)
  change kind.backend.report (kind.code? configuration.trace.engines
    (configuration.matcher.pattern.variants.variant anchoring).handle) _ _
    (configuration.matcher.matchOptions
      (configuration.matcher.pattern.variants.variant anchoring)).toBits = _ at failed
  rw [stored] at failed
  obtain ⟨-, call, isRead, -, lacks⟩ := EngineKind.lacksVariant_of_report compiled failed
  rw [MatchOptions.ofBits?_toBits] at isRead
  exact Option.some.inj isRead ▸ lacks

variable {matcher : Matcher EngineState} (consistent : matcher.Consistent)
  (isKind : matcher.pattern.adapter.engine = kind.engine) {trace : Trace EngineState}

include consistent isKind

theorem lacksVariant_of_call (call : Call)
    (stored : kind.code? trace.engines
      (matcher.pattern.variants.variant call.anchoring).handle = some code)
    {fault : Fault} (isLateSyntax : fault.IsLateSyntax)
    (failed : (call.make.exec ⟨matcher, trace⟩).1 = .error fault) :
    kind.LacksVariant code
      (matcher.matchOptions (matcher.pattern.variants.variant call.anchoring)) := by
  obtain ⟨start, inside, ran⟩ := Call.exists_make_exec_eq_search consistent failed
  rw [ran] at failed
  exact @lacksVariant_of_search kind bytes options code compiled ⟨matcher, trace⟩
    consistent isKind call.anchoring stored start inside fault isLateSyntax failed

theorem lacksVariant_of_findFrom
    (stored : kind.code? trace.engines
      (matcher.pattern.variants.variant .search).handle = some code)
    (start : Number) {fault : Fault} (isLateSyntax : fault.IsLateSyntax)
    (failed : ((findFrom start).exec ⟨matcher, trace⟩).1 = .error fault) :
    kind.LacksVariant code
      (matcher.reset.matchOptions (matcher.pattern.variants.variant .search)) := by
  obtain isRefused | ⟨index, inside, ran⟩ := findFrom_exec_cases start ⟨matcher, trace⟩
  · rw [isRefused] at failed
    cases failed
    rcases isLateSyntax with isKind | isKind <;> cases isKind
  · rw [ran] at failed
    exact @lacksVariant_of_search kind bytes options code compiled ⟨matcher.reset, trace⟩
      consistent.reset isKind .search stored index inside fault isLateSyntax failed

end Calls

/-- A matcher on a region of a text, with a new pattern without flags. -/
def ofRegion (kind : EngineKind) (source text : Text) (settings : MatcherSettings)
    (region : Option (Number × Number)) : Work EngineState (Matcher EngineState) := do
  let pattern ← Pattern.compile kind.engine false source (.ofNat 0) {}
  Survey.freshMatcher pattern text settings region

/-- A matcher of a new pattern is reachable, and its pattern is one of the engine. -/
theorem reachable_ofRegion {kind : EngineKind} {source text : Text} {settings : MatcherSettings}
    {region : Option (Number × Number)} {trace after : Trace EngineState}
    {matcher : Matcher EngineState}
    (made : (ofRegion kind source text settings region).run trace = (.ok matcher, after)) :
    matcher.Reachable Pattern.IsOffered (fun _ => True) ∧
      matcher.pattern.adapter.engine = kind.engine := by
  rw [ofRegion, Work.run_bind] at made
  split at made
  · next pattern before compiled =>
      obtain ⟨flags, plain, -, -, isCompiled⟩ := Pattern.isCompiled_of_compile compiled
      obtain ⟨-, samePattern⟩ := Survey.consistent_of_freshMatcher made
      refine ⟨?_, samePattern ▸ isCompiled.engine⟩
      rw [Survey.freshMatcher, Work.run_bind] at made
      split at made
      · next fresh between isCreated =>
          have reached : fresh.Reachable Pattern.IsOffered fun _ => True :=
            .created isCompiled.isOffered trivial isCreated
          rcases region with _ | ⟨start, stop⟩
          · cases made
            exact reached
          · have restricted : fresh.region start stop = .ok matcher :=
              congrArg Prod.fst made
            have performed := reached.performed (.region start stop) trivial between trivial
            rw [perform, Matching.exec_bind, change_exec, Work.run_ofExcept, restricted]
              at performed
            exact performed
      · cases made
  · cases made

/-- A call on a matcher that can be made, and the fault that it ends in. -/
theorem exists_fault_of_kind {make : Work EngineState (Matcher EngineState)} {call : Call}
    {errorKind : ErrorKind}
    (evaluated : (match make.run ⟨{}, []⟩ with
      | (.ok matcher, trace) =>
          match (call.make.exec ⟨matcher, trace⟩).1 with
          | .error fault => fault.kind == errorKind
          | .ok _ => false
      | (.error _, _) => false) = true) :
    ∃ (matcher : Matcher EngineState) (trace : Trace EngineState) (fault : Fault),
      make.run ⟨{}, []⟩ = (.ok matcher, trace) ∧
      (call.make.exec ⟨matcher, trace⟩).1 = .error fault ∧ fault.kind = errorKind := by
  rcases made : make.run ⟨{}, []⟩ with ⟨_ | matcher, trace⟩
  · rw [made] at evaluated
    contradiction
  · rw [made] at evaluated
    dsimp only at evaluated
    split at evaluated
    · next fault failed => exact ⟨matcher, trace, fault, rfl, failed, beq_iff_eq.mp evaluated⟩
    · contradiction

end Matcher

end RegexMatching
