import RegexMatching.Proofs.Blueprints
import RegexMatching.Proofs.CaptureBounds
import RegexMatching.Proofs.GroupTables
import RegexMatching.Proofs.OfferedEngines

/-!
# Matches with a span for every group

All code of a pattern has the groups that the pattern counts, and its handles never come to stand
for other code.  So whatever match a matcher holds has a span for every group of its pattern, and
every name and every number of a group leads to one of them.
-/

namespace RegexMatching

/-! ## Groups of compiled code -/

theorem exists_of_bind_eq_ok {ε α β : Type} {outcome : Except ε α} {next : α → Except ε β}
    {result : β} (bound : outcome.bind next = .ok result) :
    ∃ value, outcome = .ok value ∧ next value = .ok result := by
  cases outcome with
  | error fault => cases bound
  | ok value => exact ⟨value, rfl, bound⟩

theorem exists_of_map_eq_ok {ε α β : Type} {outcome : Except ε α} {next : α → β} {result : β}
    (mapped : outcome.map next = .ok result) :
    ∃ value, outcome = .ok value ∧ next value = result := by
  cases outcome with
  | error fault => cases mapped
  | ok value => exact ⟨value, rfl, Except.ok.inj mapped⟩

theorem length_of_mapM_eq_ok {ε α β : Type} {step : α → Except ε β} {items : List α}
    {values : List β} (all : items.mapM step = .ok values) : items.length = values.length := by
  induction items generalizing values with
  | nil =>
      cases all
      rfl
  | cons item rest ih =>
      rw [List.mapM_cons] at all
      obtain ⟨value, -, all⟩ := exists_of_bind_eq_ok all
      obtain ⟨others, isRest, same⟩ := exists_of_bind_eq_ok all
      cases same
      exact congrArg (· + 1) (ih isRest)

namespace EngineKind

variable {kind : EngineKind}

theorem compile_of_codeFor {text : PatternText} {flags : Flags} {anchoring : Anchoring}
    {code : kind.Code} (made : kind.codeFor text flags anchoring = .ok code) :
    kind.backend.compile (Utf8.encode text.text) (anchoring.applyTo flags.compileOptions) =
      .ok code := by
  rw [codeFor, compiled, CompileOptions.ofBits?_toBits] at made
  dsimp only at made
  cases outcome : kind.backend.compile (Utf8.encode text.text)
      (anchoring.applyTo flags.compileOptions) with
  | error rejection =>
      rw [outcome] at made
      cases made
  | ok code =>
      rw [outcome] at made
      cases made
      rfl

/-- What all code of an expression has in common: its number of groups, which the names fit. -/
structure Blueprint.IsEven (blueprint : kind.Blueprint) : Prop where
  captureCount : ∀ anchoring, kind.backend.captureCount (blueprint.code anchoring) =
    kind.backend.captureCount (blueprint.code .search)
  names : ∀ entry ∈ kind.backend.names (blueprint.code .search),
    entry.Fits (kind.backend.captureCount (blueprint.code .search))

theorem isEven_of_codesFor {text : PatternText} {flags : Flags} {settings : PatternSettings}
    {blueprint : kind.Blueprint} (made : kind.codesFor text flags settings = .ok blueprint) :
    blueprint.IsEven := by
  rw [codesFor] at made
  obtain ⟨search, isSearch, made⟩ := exists_of_bind_eq_ok made
  have compiled := compile_of_codeFor isSearch
  have names : ∀ entry ∈ kind.backend.names search,
      entry.Fits (kind.backend.captureCount search) :=
    fun entry mem => (names_fit compiled entry mem).1
  split at made
  · obtain ⟨lookingAt, isLookingAt, made⟩ := exists_of_bind_eq_ok made
    obtain ⟨whole, isWhole, rfl⟩ := exists_of_map_eq_ok made
    refine ⟨fun anchoring => ?_, names⟩
    cases anchoring with
    | search => rfl
    | lookingAt => exact (search_own compiled (compile_of_codeFor isLookingAt)).1
    | whole => exact (search_own compiled (compile_of_codeFor isWhole)).1
  · cases made
    exact ⟨fun _ => rfl, names⟩

theorem isEven_of_blueprint {source : Text} {flags : Number} {settings : PatternSettings}
    {blueprint : kind.Blueprint} (made : kind.blueprint source flags settings = .ok blueprint) :
    blueprint.IsEven := by
  rw [EngineKind.blueprint] at made
  obtain ⟨parsed, -, made⟩ := exists_of_bind_eq_ok made
  exact isEven_of_codesFor made

end EngineKind

/-! ## Patterns -/

/-- A pattern of an engine whose names stand for its groups.  The code that its handles stand for,
as long as they do, has these groups. -/
structure Pattern.Counts {σ : Type} {kind : EngineKind} (base : StoreEngine σ kind)
    (pattern : Pattern σ) (state : σ) : Prop where
  engine : pattern.adapter.engine = base.engine
  isBelow : ∀ anchoring, (pattern.variants.variant anchoring).handle < base.next state
  captureCount : ∀ anchoring code,
    base.code? state (pattern.variants.variant anchoring).handle = some code →
      kind.backend.captureCount code = pattern.groupCount
  distinguishes : pattern.names.Distinguishes
  fits : ∀ entry ∈ pattern.names, entry.Fits pattern.groupCount

namespace Pattern.Counts

variable {σ : Type} {kind : EngineKind} {base : StoreEngine σ kind} {pattern : Pattern σ}
  {before after state : σ}

/-- A new pattern counts the groups of all its code. -/
theorem of_isBuilt {source : Text} {flags : Number} {blueprint : kind.Blueprint}
    (isEven : blueprint.IsEven) (built : pattern.IsBuilt base source flags blueprint before after) :
    pattern.Counts base after where
  engine := built.engine
  isBelow anchoring := (built.stands anchoring).isBelow
  captureCount anchoring code isCode := by
    obtain rfl := Option.some.inj ((built.stands anchoring).code?_eq.symm.trans isCode)
    rw [built.groupCount]
    exact isEven.captureCount anchoring
  distinguishes := built.names ▸ (GroupNames.distinguishes_ofTable _).1
  fits entry mem := by
    rw [built.names] at mem
    rw [built.groupCount]
    exact isEven.names entry ((GroupNames.distinguishes_ofTable _).2 entry mem)

/-- A pattern goes on counting the groups of its code while the engine is used. -/
theorem age (counts : pattern.Counts base before) (ages : base.Ages before after) :
    pattern.Counts base after :=
  { counts with
    isBelow := fun anchoring => Int.lt_of_lt_of_le (counts.isBelow anchoring) ages.next_le
    captureCount := fun anchoring code isCode => counts.captureCount anchoring code
      (ages.code?_of_code? _ code (counts.isBelow anchoring) isCode) }

/-- A match that the code of the pattern finds has its groups. -/
theorem groupCount_of_exchange (counts : pattern.Counts base state) {anchoring : Anchoring}
    {request : Request} (isCode : request.code = (pattern.variants.variant anchoring).handle)
    {report : Report}
    (exchanged : ((pattern.adapter.engine.exchange request).run state).1 = .ok report)
    (isMatch : report.isMatch = true) : report.groupCount = pattern.groupCount := by
  rw [counts.engine, (base.exchange_spec request state).1, isCode] at exchanged
  cases stored : base.code? state (pattern.variants.variant anchoring).handle with
  | none =>
      rw [stored] at exchanged
      cases exchanged
      cases isMatch
  | some code =>
      rw [stored] at exchanged
      obtain ⟨answer, answered, rfl⟩ := exists_of_map_eq_ok exchanged
      cases answer with
      | code result =>
          have isNegative := Backend.code_neg_of_answer answered
          exact absurd (of_decide_eq_true isMatch) (Int.not_le.mpr isNegative)
      | captures count offsets => exact counts.captureCount anchoring code stored

end Pattern.Counts

/-! ## Matchers -/

/-- A pattern of an engine on offer whose names stand for its groups. -/
def Pattern.IsCounted (isCaching : Bool) (state : SharedState) (pattern : Pattern SharedState) :
    Prop :=
  ∃ kind : EngineKind, pattern.Counts (kind.shared isCaching) state

variable {isCaching : Bool}

namespace Pattern.IsCounted

variable {pattern : Pattern SharedState} {before after : SharedState}

theorem isOffered (isCounted : pattern.IsCounted isCaching before) :
    pattern.adapter.engine.IsOffered isCaching := by
  obtain ⟨kind, counts⟩ := isCounted
  exact ⟨kind, counts.engine⟩

theorem age (isCounted : pattern.IsCounted isCaching before)
    (ages : SharedState.Ages isCaching before after) : pattern.IsCounted isCaching after := by
  obtain ⟨kind, counts⟩ := isCounted
  exact ⟨kind, counts.age (ages kind)⟩

end Pattern.IsCounted

namespace Matcher

/-- A matcher whose match, if it holds one, has a span for every group of its pattern. -/
structure IsComplete (isCaching : Bool) (state : SharedState) (matcher : Matcher SharedState) :
    Prop where
  isCounted : matcher.pattern.IsCounted isCaching state
  length : ∀ spans mark, matcher.state = .found spans mark →
    spans.length = matcher.pattern.groupCount + 1

namespace IsComplete

variable {matcher other : Matcher SharedState} {before after : SharedState}

theorem age (isComplete : matcher.IsComplete isCaching before)
    (ages : SharedState.Ages isCaching before after) : matcher.IsComplete isCaching after :=
  ⟨isComplete.isCounted.age ages, isComplete.length⟩

/-- Without a match nothing is missing. -/
theorem of_unfound (isCounted : matcher.pattern.IsCounted isCaching before)
    (unfound : ∀ spans mark, matcher.state ≠ .found spans mark) :
    matcher.IsComplete isCaching before :=
  ⟨isCounted, fun spans mark isFound => absurd isFound (unfound spans mark)⟩

/-- What an attempt finds has a span for every group. -/
theorem length_of_attempt (isComplete : matcher.IsComplete isCaching before) {view : RegionView}
    {start : Nat} {anchoring : Anchoring} {trace : Trace SharedState}
    (isState : trace.engines = before) {spans : List Span} {mark : Option Text}
    (attempted : ((matcher.attempt view start anchoring).run trace).1 = .ok (.found spans mark)) :
    spans.length = matcher.pattern.groupCount + 1 := by
  obtain ⟨kind, counts⟩ := isComplete.isCounted
  rw [attempt_run] at attempted
  cases asked : matcher.request? view start anchoring with
  | error fault =>
      rw [asked] at attempted
      cases attempted
  | ok request? =>
      rw [asked] at attempted
      cases request? with
      | none => cases attempted
      | some request =>
          obtain ⟨report, exchanged, isMatch, translated, -⟩ := exists_report_of_found attempted
          rw [isState] at exchanged
          have groups := counts.groupCount_of_exchange (handles_of_request? asked).1 exchanged
            isMatch
          rw [← length_of_mapM_eq_ok translated, Report.captures, List.length_map,
            List.length_range, groups]

theorem settle (isComplete : matcher.IsComplete isCaching before) (anchoring : Anchoring)
    {state : MatchState} (length : ∀ spans mark, state = .found spans mark →
      spans.length = matcher.pattern.groupCount + 1) :
    (matcher.settle anchoring state).IsComplete isCaching before := by
  cases state with
  | fresh => exact .of_unfound isComplete.isCounted nofun
  | noMatch isPartial => exact .of_unfound isComplete.isCounted nofun
  | found spans mark => exact ⟨isComplete.isCounted, length⟩

end IsComplete

end Matcher

/-! ## Steps and changes -/

open Matcher

/-- A configuration whose matcher is complete. -/
def Configuration.IsComplete (isCaching : Bool) (configuration : Configuration SharedState) :
    Prop :=
  configuration.matcher.IsComplete isCaching configuration.trace.engines

namespace Configuration.IsComplete

variable {before after : Configuration SharedState}

theorem search (isComplete : before.IsComplete isCaching) (start : Nat) (anchoring : Anchoring) :
    ((Matcher.search start anchoring).exec before).2.IsComplete isCaching := by
  rw [search_exec_view]
  cases before.matcher.regionView with
  | error fault => exact isComplete
  | ok view =>
      dsimp only
      have sees : { before.matcher with view := some view }.IsComplete isCaching
          before.trace.engines := ⟨isComplete.isCounted, isComplete.length⟩
      generalize { before.matcher with view := some view } = matcher at sees ⊢
      have ages := related_attempt SharedState.Ages.keptByCalls sees.isCounted.isOffered view start
        anchoring before.trace
      cases attempted : ((matcher.attempt view start anchoring).run before.trace).1 with
      | error fault => exact sees.age ages
      | ok state =>
          refine (sees.age ages).settle anchoring fun spans mark isFound => ?_
          subst isFound
          exact sees.length_of_attempt rfl attempted

/-- A step leaves a complete matcher. -/
theorem step (isComplete : before.IsComplete isCaching) (step : Step before after) :
    after.IsComplete isCaching := by
  cases step with
  | search start anchoring inside => exact isComplete.search start anchoring
  | exhaust => exact .of_unfound isComplete.isCounted nofun
  | clearMatch => exact .of_unfound isComplete.isCounted nofun
  | reset => exact .of_unfound isComplete.isCounted nofun
  | append template =>
      obtain ⟨cursor, appended⟩ := exists_appendReplacement_eq before.matcher template
      rw [appended]
      exact ⟨isComplete.isCounted, isComplete.length⟩

theorem steps (isComplete : before.IsComplete isCaching) (steps : Steps before after) :
    after.IsComplete isCaching :=
  steps.preserve (fun _ _ step isComplete => isComplete.step step) isComplete

/-- Steps leave all complete matchers complete, as handles stand for no other code behind them. -/
theorem ages_of_steps (isComplete : before.IsComplete isCaching) (steps : Steps before after) :
    SharedState.Ages isCaching before.trace.engines after.trace.engines :=
  (steps.keeps SharedState.Ages.keptByCalls isComplete.isCounted.isOffered).2

/-- So does a change, if the patterns that the matcher may switch to count their groups. -/
theorem change (isComplete : before.IsComplete isCaching)
    (change : Change (Pattern.IsCounted isCaching before.trace.engines) before after) :
    after.IsComplete isCaching := by
  have dropped := SharedState.Ages.keptByCalls.dropStack isComplete.isCounted.isOffered
    before.matcher.stack before.trace.engines
  cases change with
  | resetTo text => exact .of_unfound isComplete.isCounted nofun
  | region restricted =>
      obtain ⟨first, last, -, -, -, rfl⟩ := region_eq_ok restricted
      exact .of_unfound isComplete.isCounted nofun
  | useAnchoringBounds value => exact .of_unfound isComplete.isCounted nofun
  | usePartialMatching changed =>
      obtain ⟨rfl, -⟩ := usePartialMatching_eq_ok changed
      exact ⟨isComplete.isCounted, isComplete.length⟩
  | @usePattern pattern isCounted isOpen =>
      have made := SharedState.Ages.keptByCalls.makeStack isCounted.isOffered
        (before.matcher.pattern.adapter.engine.dropStack before.matcher.stack |>.run
          before.trace.engines).2
      exact .of_unfound (isCounted.age (SharedState.Ages.persists.trans dropped made)) nofun
  | close =>
      exact ⟨isComplete.isCounted.age dropped, isComplete.length⟩

/-- An operation leaves a complete matcher, whatever it comes to. -/
theorem perform {operation : Operation SharedState} (isComplete : before.IsComplete isCaching)
    (isAllowed : operation.Allowed (Pattern.IsCounted isCaching before.trace.engines)) :
    ((Matcher.perform operation).exec before).2.IsComplete isCaching :=
  (perform_steps_or_change operation isAllowed before).elim isComplete.steps isComplete.change

theorem ages_of_perform {operation : Operation SharedState}
    (isComplete : before.IsComplete isCaching)
    (isAllowed : operation.Allowed (Pattern.IsCounted isCaching before.trace.engines)) :
    SharedState.Ages isCaching before.trace.engines
      ((Matcher.perform operation).exec before).2.trace.engines :=
  (perform_keeps SharedState.Ages.keptByCalls
    (isAllowed.mono fun _ isCounted => isCounted.isOffered) before
      isComplete.isCounted.isOffered).2

end Configuration.IsComplete

/-! ## New patterns and matchers -/

section Work

variable {trace : Trace SharedState} {state : SharedState}

/-- A pattern that has been compiled counts its groups. -/
theorem Pattern.isCounted_of_compile (kind : EngineKind) {isLogged : Bool} {source : Text}
    {flags : Number} {settings : PatternSettings} {pattern : Pattern SharedState}
    (compiled : ((compile (kind.sharedEngine isCaching) isLogged source flags settings).run
      trace).1 = .ok pattern) :
    pattern.IsCounted isCaching
      ((compile (kind.sharedEngine isCaching) isLogged source flags settings).run
        trace).2.engines := by
  obtain ⟨outcome, after, ran, -, built⟩ :=
    (kind.shared isCaching).compile_pattern_spec isLogged source flags settings trace
  change (compile (kind.sharedEngine isCaching) _ _ _ _).run trace = _ at ran
  rw [ran] at compiled ⊢
  cases made : kind.blueprint source flags settings with
  | error fault =>
      rw [made] at built
      rw [built] at compiled
      cases compiled
  | ok blueprint =>
      rw [made] at built
      obtain ⟨_, same, built⟩ := built
      obtain rfl := Except.ok.inj (same.symm.trans compiled)
      exact ⟨kind, .of_isBuilt (EngineKind.isEven_of_blueprint made) built⟩

/-- A pattern that has been closed differs in its adapter at most. -/
theorem Pattern.exists_eq_of_close {pattern closed : Pattern SharedState}
    (isClosed : (pattern.close.run trace).1 = .ok closed) :
    ∃ adapter isClosed, closed = { pattern with adapter, isClosed } := by
  rw [close] at isClosed
  split at isClosed
  · obtain rfl := Except.ok.inj isClosed
    exact ⟨pattern.adapter, pattern.isClosed, rfl⟩
  · rw [Work.run_bind] at isClosed
    rcases ran : (pattern.adapter.releaseAll pattern.variants.handles).run trace with
      ⟨outcome, after⟩
    rw [ran] at isClosed
    cases outcome with
    | error fault => cases isClosed
    | ok adapter =>
        obtain rfl := Except.ok.inj isClosed
        exact ⟨adapter, true, rfl⟩

/-- A pattern that has been closed goes on counting its groups. -/
theorem Pattern.IsCounted.close {pattern closed : Pattern SharedState}
    (isCounted : pattern.IsCounted isCaching trace.engines)
    (isClosed : (pattern.close.run trace).1 = .ok closed) :
    closed.IsCounted isCaching (pattern.close.run trace).2.engines := by
  obtain ⟨kind, counts⟩ := isCounted
  obtain ⟨ages, isEngine⟩ :=
    close_keeps SharedState.Ages.persists kind.compilesWithin_ages counts.engine trace
  have aged := counts.age (ages kind)
  have isEngine := isEngine closed isClosed
  obtain ⟨adapter, isClosed, rfl⟩ := exists_eq_of_close isClosed
  exact ⟨kind, isEngine, aged.isBelow, aged.captureCount, aged.distinguishes, aged.fits⟩

theorem Matcher.isComplete_of_create {pattern : Pattern SharedState} {text : Text}
    {settings : MatcherSettings} {matcher : Matcher SharedState}
    (isCounted : pattern.IsCounted isCaching trace.engines)
    (isCreated : ((create pattern text settings).run trace).1 = .ok matcher) :
    matcher.IsComplete isCaching ((create pattern text settings).run trace).2.engines := by
  obtain ⟨-, stack, isInitial⟩ := exists_initial_of_create (Prod.ext isCreated rfl)
  obtain ⟨rfl, -⟩ := usePartialMatching_eq_ok isInitial
  have ages := (create_keeps SharedState.Ages.keptByCalls isCounted.isOffered text settings trace).1
  exact .of_unfound (isCounted.age ages) nofun

end Work

/-! ## Lookups -/

/-- Where a group has a span, its start and its end are next to each other. -/
theorem getElem?_indexList {spans : List Span} {group : Nat} {span : Span}
    (isSpan : spans[group]? = some span) :
    (indexList spans)[group * 2]? = some span.start ∧
      (indexList spans)[group * 2 + 1]? = some span.stop := by
  induction spans generalizing group with
  | nil => cases isSpan
  | cons first rest ih =>
      cases group with
      | zero =>
          obtain rfl := Option.some.inj isSpan
          exact ⟨rfl, rfl⟩
      | succ group =>
          rw [Nat.succ_mul]
          exact ih isSpan

/-- Lookups read inside the starts and ends of the match that a snapshot holds, if it holds one:
each name leads to its group, and whatever number or name is accepted leads to a start and an
end. -/
structure Snapshot.ReadsInside (snapshot : Snapshot) (spans : List Span) : Prop where
  length : (indexList spans).length = 2 * (snapshot.groupCount + 1)
  named : ∀ entry ∈ snapshot.names,
    (GroupRef.name entry.name).resolve snapshot.groupCount snapshot.names =
        .ok (.ofNat entry.group) ∧
      (GroupRef.name entry.name).index snapshot.groupCount snapshot.names = .ok entry.group
  accepted : ∀ ref number,
    GroupRef.resolve ref snapshot.groupCount snapshot.names = .ok number →
      ∃ group span, ref.index snapshot.groupCount snapshot.names = .ok group ∧
        snapshot.span ref = .ok (some span) ∧ (indexList spans)[group * 2]? = some span.start ∧
        (indexList spans)[group * 2 + 1]? = some span.stop

namespace GroupRef

variable {ref : GroupRef} {count : Nat} {names : GroupNames}

/-- A number or a name that is accepted leads to a group. -/
theorem exists_index_of_resolve {number : Number}
    (accepted : ref.resolve count names = .ok number) :
    ∃ group, ref.index count names = .ok group := by
  cases ref with
  | name wanted =>
      cases found : names.group? wanted with
      | none =>
          rw [resolve, found] at accepted
          cases accepted
      | some group => exact ⟨group, by rw [index, found]⟩
  | number given =>
      cases found : given.toIndex? count with
      | none =>
          rw [resolve, found] at accepted
          cases accepted
      | some group => exact ⟨group, by rw [index, found]⟩

/-- Only groups of the pattern are accepted, if its names stand for its groups. -/
theorem le_of_index (fits : ∀ entry ∈ names, entry.Fits count) {group : Nat}
    (isGroup : ref.index count names = .ok group) : group ≤ count := by
  cases ref with
  | name wanted =>
      cases found : names.group? wanted with
      | none =>
          rw [index, found] at isGroup
          cases isGroup
      | some other =>
          rw [index, found] at isGroup
          obtain rfl := Except.ok.inj isGroup
          obtain ⟨entry, isEntry, rfl⟩ := Option.map_eq_some_iff.mp found
          exact (fits entry (List.mem_of_find?_eq_some isEntry)).le_count
  | number given =>
      cases found : given.toIndex? count with
      | none =>
          rw [index, found] at isGroup
          cases isGroup
      | some other =>
          rw [index, found] at isGroup
          obtain rfl := Except.ok.inj isGroup
          exact Matcher.toIndex?_le found

end GroupRef

/-- In a match that has a span for every group every lookup reads inside. -/
theorem Matcher.IsComplete.readsInside {matcher : Matcher SharedState} {state : SharedState}
    (isComplete : matcher.IsComplete isCaching state) {spans : List Span}
    (isFound : matcher.snapshot.spans = some spans) :
    matcher.snapshot.ReadsInside spans := by
  obtain ⟨kind, counts⟩ := isComplete.isCounted
  have length : spans.length = matcher.pattern.groupCount + 1 := by
    rw [snapshot] at isFound
    split at isFound
    · next isState =>
        obtain rfl := Option.some.inj isFound
        exact isComplete.length _ _ isState
    · cases isFound
  constructor
  · rw [length_indexList, length]
    rfl
  · intro entry mem
    have found := counts.distinguishes entry mem
    constructor
    · rw [GroupRef.resolve, show matcher.snapshot.names.group? entry.name = _ from found]
    · rw [GroupRef.index, show matcher.snapshot.names.group? entry.name = _ from found]
  · intro ref number accepted
    obtain ⟨group, isGroup⟩ := GroupRef.exists_index_of_resolve accepted
    have inside : group < spans.length :=
      length ▸ Nat.lt_succ_of_le (GroupRef.le_of_index counts.fits isGroup)
    have isSpan := List.getElem?_eq_getElem inside
    refine ⟨group, spans[group], isGroup, ?_, getElem?_indexList isSpan⟩
    rw [Snapshot.span, isFound, isGroup]
    exact congrArg Except.ok isSpan

end RegexMatching
