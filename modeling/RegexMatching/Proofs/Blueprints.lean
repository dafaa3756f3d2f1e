import RegexMatching.Proofs.StoreEngines

/-!
# What patterns are compiled to

On an engine with a store an expression is compiled to the same code whatever else is in the store,
or fails for the same fault, and either way the code that was there before stays.  Closing a pattern
takes away the code of its own handles only.
-/

namespace RegexMatching

namespace EngineKind

/-- What a pattern is compiled to. -/
structure Blueprint (kind : EngineKind) where
  canonicalEquivalence : Bool
  options : Anchoring → MatchOptions
  code : Anchoring → kind.Code

variable (kind : EngineKind)

/-- The code for one anchoring, or why there is none. -/
def codeFor (text : PatternText) (flags : Flags) (anchoring : Anchoring) :
    Except Fault kind.Code :=
  (kind.compiled (Utf8.encode text.text)
    (anchoring.applyTo flags.compileOptions).toBits).mapError fun rejection =>
      Adapter.syntaxFault text.text rejection text.toSource text.source

/-- Plain code for every anchoring. -/
def Blueprint.shared {kind : EngineKind} (flags : Flags) (plain : kind.Code) : Blueprint kind where
  canonicalEquivalence := flags.canonicalEquivalence
  options := Anchoring.matchOptions
  code := fun _ => plain

/-- Code of its own for every anchoring. -/
def Blueprint.dedicated {kind : EngineKind} (flags : Flags) (search lookingAt whole : kind.Code) :
    Blueprint kind where
  canonicalEquivalence := flags.canonicalEquivalence
  options := fun _ => {}
  code
    | .search => search
    | .lookingAt => lookingAt
    | .whole => whole

/-- The code for all anchorings, or why there is none. -/
def codesFor (text : PatternText) (flags : Flags) (settings : PatternSettings) :
    Except Fault (Blueprint kind) :=
  (kind.codeFor text flags .search).bind fun search =>
    if Pattern.isDedicated kind settings then
      (kind.codeFor text flags .lookingAt).bind fun lookingAt =>
        (kind.codeFor text flags .whole).map fun whole => .dedicated flags search lookingAt whole
    else
      .ok (.shared flags search)

/-- What an expression is compiled to, or why it is not. -/
def blueprint (source : Text) (flags : Number) (settings : PatternSettings) :
    Except Fault (Blueprint kind) :=
  (Flags.ofNumber flags).bind fun parsed =>
    kind.codesFor (PatternText.ofSource source parsed) parsed settings

end EngineKind

namespace StoreEngine

variable {σ : Type} {kind : EngineKind} {base : StoreEngine σ kind}

/-! ## Single steps -/

variable {adapter : Adapter σ}

/-- Code for one anchoring gets the next handle, or the store stays as it is. -/
theorem compileVariant_spec (isEngine : adapter.engine = base.engine) (text : PatternText)
    (flags : Flags) (anchoring : Anchoring) (trace : Trace σ) :
    match kind.codeFor text flags anchoring with
    | .error fault => ∃ after,
        (Pattern.compileVariant adapter text flags anchoring).run trace = (.error fault, after) ∧
          base.store after.engines = base.store trace.engines
    | .ok code => ∃ released after,
        (Pattern.compileVariant adapter text flags anchoring).run trace =
          (.ok (base.next trace.engines, { adapter with released }), after) ∧
        base.store after.engines = ((base.store trace.engines).addCode code).2 := by
  have spec := base.compile_spec (Utf8.encode text.text)
    (anchoring.applyTo flags.compileOptions).toBits trace.engines
  rw [← isEngine] at spec
  rw [Pattern.compileVariant, Adapter.compile, Work.run_bind, Work.run_ofAction,
    EngineKind.codeFor]
  generalize (adapter.engine.compile (Utf8.encode text.text)
    (anchoring.applyTo flags.compileOptions).toBits).run trace.engines = ran at spec ⊢
  rcases ran with ⟨result, engines⟩
  cases compiled : kind.compiled (Utf8.encode text.text)
      (anchoring.applyTo flags.compileOptions).toBits with
  | error rejection =>
      rw [compiled] at spec
      obtain ⟨rfl, same⟩ := spec
      obtain ⟨logged, recorded, sameEngines⟩ := Work.exists_run_record adapter.isLogged
        (.compileError adapter.engine.name rejection.code rejection.offset) { trace with engines }
      refine ⟨logged, ?_, sameEngines ▸ same⟩
      dsimp only
      rw [Work.run_bind, recorded]
      rfl
  | ok code =>
      rw [compiled] at spec
      obtain ⟨rfl, same⟩ := spec
      exact ⟨adapter.released.filter (· != base.next trace.engines), { trace with engines }, rfl,
        same⟩

/-- Releasing code in turn takes away that code only. -/
theorem releaseAll_spec (isEngine : adapter.engine = base.engine) (codes : List Handle)
    (trace : Trace σ) :
    ∃ adapter' after, (adapter.releaseAll codes).run trace = (.ok adapter', after) ∧
      adapter'.engine = base.engine ∧
      base.Guards (· ∉ codes) trace.engines after.engines := by
  induction codes generalizing adapter trace with
  | nil => exact ⟨adapter, trace, rfl, isEngine, .of_store_eq rfl⟩
  | cons code rest ih =>
      have notMem : ∀ handle, handle ∉ code :: rest → handle ∉ rest :=
        fun _ notMem mem => notMem (List.mem_cons_of_mem code mem)
      rw [Adapter.releaseAll, Adapter.release]
      split
      · obtain ⟨adapter', after, ran, isEngine', guards⟩ := ih isEngine trace
        exact ⟨adapter', after, ran, isEngine', guards.mono notMem⟩
      · obtain ⟨logged, recorded, sameEngines⟩ := Work.exists_run_record adapter.isLogged
          (.release adapter.engine.name code)
          { trace with engines := ((adapter.engine.release code).run trace.engines).2 }
        have dropped : base.Guards (· ∉ code :: rest) trace.engines logged.engines := by
          rw [sameEngines, isEngine]
          exact .dropCode (base.release_spec code trace.engines)
            (not_not.mpr List.mem_cons_self)
        obtain ⟨adapter', after, ran, isEngine', guards⟩ :=
          @ih { adapter with released := code :: adapter.released } isEngine logged
        refine ⟨adapter', after, ?_, isEngine', dropped.trans (guards.mono notMem)⟩
        rw [Work.run_bind, Work.run_bind, Work.run_ofAction]
        dsimp only
        rw [Work.run_bind, recorded]
        exact ran

/-! ## Compiling -/

/-- A handle of code that was not there before. -/
structure Stands (base : StoreEngine σ kind) (before after : σ) (handle : Handle)
    (code : kind.Code) : Prop where
  isFresh : base.next before ≤ handle
  isBelow : handle < base.next after
  code?_eq : base.code? after handle = some code

variable {before between after : σ} {handle : Handle} {code : kind.Code}

/-- Code that is added stands behind the next handle. -/
theorem Stands.addCode (added : base.store after = ((base.store before).addCode code).2) :
    base.Stands before after (base.next before) code where
  isFresh := Int.le_refl _
  isBelow := by
    rw [next, next, added]
    exact Int.lt_succ _
  code?_eq := by
    rw [code?, added]
    exact List.lookup_cons_self

/-- Code that stands behind a handle stands there as long as it is guarded. -/
theorem Stands.guarded (stands : base.Stands before between handle code)
    (guards : base.Guards (· < base.next between) between after) :
    base.Stands before after handle code where
  isFresh := stands.isFresh
  isBelow := Int.lt_of_lt_of_le stands.isBelow guards.next_le
  code?_eq := (guards.code?_eq handle stands.isBelow).trans stands.code?_eq

theorem Stands.since (stands : base.Stands between after handle code)
    (next_le : base.next before ≤ base.next between) : base.Stands before after handle code :=
  { stands with isFresh := Int.le_trans next_le stands.isFresh }

/-- Work that guards all code that was there before goes on guarding it. -/
theorem Guards.andThen (first : base.Guards (· < base.next before) before between)
    (second : base.Guards (· < base.next between) between after) :
    base.Guards (· < base.next before) before after :=
  first.trans (second.mono fun _ isBelow => Int.lt_of_lt_of_le isBelow first.next_le)

/-- Code that is fresh is released without harm to older code. -/
theorem Guards.withoutFresh {codes : List Handle}
    (first : base.Guards (· < base.next before) before between)
    (guards : base.Guards (· ∉ codes) between after)
    (areFresh : ∀ code ∈ codes, base.next before ≤ code) :
    base.Guards (· < base.next before) before after :=
  first.trans (guards.mono fun _ isBelow mem => absurd isBelow (Int.not_lt.mpr (areFresh _ mem)))

theorem capabilities_eq (base : StoreEngine σ kind) :
    base.engine.capabilities = kind.engine.capabilities := by
  rw [base.actsLike.capabilities]
  cases kind <;> rfl

/-- Anchored code comes to fresh handles.  When it cannot be had, the plain code is released with
what there is of it. -/
theorem compileDedicated_spec (isEngine : adapter.engine = base.engine) (text : PatternText)
    (flags : Flags) {search : Handle} {first : σ} (isFresh : base.next first ≤ search)
    (trace : Trace σ) (guards : base.Guards (· < base.next first) first trace.engines) :
    match (kind.codeFor text flags .lookingAt).bind fun lookingAt =>
        (kind.codeFor text flags .whole).map fun whole => (lookingAt, whole) with
    | .error fault => ∃ after,
        (Pattern.compileDedicated adapter text flags search).run trace = (.error fault, after) ∧
          base.Guards (· < base.next first) first after.engines
    | .ok (lookingAt, whole) => ∃ variants released after,
        (Pattern.compileDedicated adapter text flags search).run trace =
          (.ok (variants, { adapter with released }), after) ∧
        base.Guards (· < base.next trace.engines) trace.engines after.engines ∧
        variants.search = { handle := search } ∧ variants.lookingAt.options = {} ∧
        variants.whole.options = {} ∧
        base.Stands trace.engines after.engines variants.lookingAt.handle lookingAt ∧
        base.Stands trace.engines after.engines variants.whole.handle whole := by
  have second := compileVariant_spec isEngine text flags .lookingAt trace
  rw [Pattern.compileDedicated, Work.run_bind, Work.run_onFailure]
  cases compiled : kind.codeFor text flags .lookingAt with
  | error fault =>
      rw [compiled] at second
      obtain ⟨between, ran, same⟩ := second
      obtain ⟨_, after, released, -, guards'⟩ := releaseAll_spec isEngine [search] between
      rw [ran]
      dsimp only
      rw [released]
      refine ⟨after, rfl, (guards.trans (.of_store_eq same)).withoutFresh guards' ?_⟩
      simpa using isFresh
  | ok lookingAt =>
      rw [compiled] at second
      obtain ⟨released, between, ran, added⟩ := second
      have guards' := Guards.addCode added
      have stands := Stands.addCode added
      rw [ran]
      dsimp only [Except.bind]
      rw [Work.run_bind, Work.run_onFailure]
      have third := @compileVariant_spec σ kind base { adapter with released } isEngine text flags
        .whole between
      cases compiled' : kind.codeFor text flags .whole with
      | error fault =>
          rw [compiled'] at third
          obtain ⟨behind, ran', same⟩ := third
          obtain ⟨_, after, released, -, guards''⟩ := @releaseAll_spec σ kind base
            { adapter with released } isEngine [search, base.next trace.engines] behind
          rw [ran']
          dsimp only
          rw [released]
          refine ⟨after, rfl, ((guards.andThen guards').trans (.of_store_eq same)).withoutFresh
            guards'' ?_⟩
          simpa using ⟨isFresh, guards.next_le⟩
      | ok whole =>
          rw [compiled'] at third
          obtain ⟨released', after, ran', added'⟩ := third
          rw [ran']
          have guards'' := Guards.addCode added'
          exact ⟨_, released', after, rfl, guards'.andThen guards'', rfl, rfl, rfl,
            stands.guarded guards'', (Stands.addCode added').since guards'.next_le⟩

/-- Code for every anchoring comes to fresh handles, or nothing of it stays compiled. -/
theorem compileVariants_spec (isEngine : adapter.engine = base.engine) (text : PatternText)
    (flags : Flags) (settings : PatternSettings) (trace : Trace σ) :
    match kind.codesFor text flags settings with
    | .error fault => ∃ after,
        (Pattern.compileVariants adapter text flags settings).run trace = (.error fault, after) ∧
          base.Guards (· < base.next trace.engines) trace.engines after.engines
    | .ok blueprint => ∃ variants released after,
        (Pattern.compileVariants adapter text flags settings).run trace =
          (.ok (variants, { adapter with released }), after) ∧
        base.Guards (· < base.next trace.engines) trace.engines after.engines ∧
        blueprint.canonicalEquivalence = flags.canonicalEquivalence ∧
        ∀ anchoring : Anchoring,
          (variants.variant anchoring).options = blueprint.options anchoring ∧
            base.Stands trace.engines after.engines (variants.variant anchoring).handle
              (blueprint.code anchoring) := by
  have first := compileVariant_spec isEngine text flags .search trace
  rw [Pattern.compileVariants, Work.run_bind, EngineKind.codesFor]
  cases compiled : kind.codeFor text flags .search with
  | error fault =>
      rw [compiled] at first
      obtain ⟨after, ran, same⟩ := first
      rw [ran]
      exact ⟨after, rfl, .of_store_eq same⟩
  | ok plain =>
      rw [compiled] at first
      obtain ⟨released, after, ran, added⟩ := first
      rw [ran]
      dsimp only [Except.bind]
      -- The plain code stands from here on, whatever the other variants come to.
      have guards := Guards.addCode added
      have stands := Stands.addCode added
      have isChosen : (settings.precompileAnchoredVariants &&
          adapter.engine.capabilities.anchoredVariants) = Pattern.isDedicated kind settings := by
        rw [isEngine, base.capabilities_eq, Pattern.isDedicated]
      rw [isChosen]
      by_cases dedicated : Pattern.isDedicated kind settings = true
      · rw [if_pos dedicated, if_pos dedicated]
        have rest := @compileDedicated_spec σ kind base { adapter with released } isEngine text
          flags _ trace.engines stands.isFresh after guards
        cases anchored : kind.codeFor text flags .lookingAt with
        | error fault =>
            rw [anchored] at rest
            exact rest
        | ok lookingAt =>
            cases anchored' : kind.codeFor text flags .whole with
            | error fault =>
                rw [anchored, anchored'] at rest
                exact rest
            | ok whole =>
                rw [anchored, anchored'] at rest
                obtain ⟨variants, released, after', ran', guards', isSearch, options, options',
                  isLookingAt, isWhole⟩ := rest
                refine ⟨variants, released, after', ran', guards.andThen guards', rfl,
                  fun anchoring => ?_⟩
                cases anchoring with
                | search =>
                    rw [CodeVariants.variant, isSearch]
                    exact ⟨rfl, stands.guarded guards'⟩
                | lookingAt => exact ⟨options, isLookingAt.since guards.next_le⟩
                | whole => exact ⟨options', isWhole.since guards.next_le⟩
      · rw [if_neg dedicated, if_neg dedicated, Work.run_bind]
        obtain ⟨logged, recorded, sameEngines⟩ := Work.exists_run_record adapter.isLogged
          (.variantFallback adapter.engine.name text.source
            (if adapter.engine.capabilities.anchoredVariants then .disabled else .unsupported))
          after
        rw [recorded]
        refine ⟨.shared (base.next trace.engines), released, logged, rfl, sameEngines ▸ guards, rfl,
          fun anchoring => ?_⟩
        rw [sameEngines]
        cases anchoring <;> exact ⟨rfl, stands⟩

end StoreEngine

/-- A pattern that has just been compiled to a blueprint: it is open, and its code was not there
before. -/
structure Pattern.IsBuilt {σ : Type} {kind : EngineKind} (pattern : Pattern σ)
    (base : StoreEngine σ kind) (source : Text) (flags : Number) (blueprint : kind.Blueprint)
    (before after : σ) : Prop where
  engine : pattern.adapter.engine = base.engine
  source : pattern.source = source
  flags : pattern.flags = flags
  canonicalEquivalence : pattern.canonicalEquivalence = blueprint.canonicalEquivalence
  options : ∀ anchoring,
    (pattern.variants.variant anchoring).options = blueprint.options anchoring
  stands : ∀ anchoring, base.Stands before after (pattern.variants.variant anchoring).handle
    (blueprint.code anchoring)
  groupCount : pattern.groupCount = kind.backend.captureCount (blueprint.code .search)
  names : pattern.names = GroupNames.ofTable (kind.backend.names (blueprint.code .search))
  isOpen : pattern.isClosed = false

namespace StoreEngine

variable {σ : Type} {kind : EngineKind} {base : StoreEngine σ kind}

/-- An expression is compiled to its blueprint, or fails as it says, and older code stays. -/
theorem compile_pattern_spec (isLogged : Bool) (source : Text) (flags : Number)
    (settings : PatternSettings) (trace : Trace σ) :
    ∃ outcome after,
      (Pattern.compile base.engine isLogged source flags settings).run trace = (outcome, after) ∧
      base.Guards (· < base.next trace.engines) trace.engines after.engines ∧
      match kind.blueprint source flags settings with
      | .error fault => outcome = .error fault
      | .ok blueprint => ∃ pattern, outcome = .ok pattern ∧
          pattern.IsBuilt base source flags blueprint trace.engines after.engines := by
  rw [Pattern.compile, Work.run_bind, Work.run_ofExcept, EngineKind.blueprint]
  cases Flags.ofNumber flags with
  | error fault => exact ⟨_, _, rfl, .of_store_eq rfl, rfl⟩
  | ok parsed =>
      dsimp only [Except.bind]
      rw [Work.run_bind]
      have compiled := @compileVariants_spec σ kind base { engine := base.engine, isLogged } rfl
        (PatternText.ofSource source parsed) parsed settings trace
      cases codes : kind.codesFor (PatternText.ofSource source parsed) parsed settings with
      | error fault =>
          rw [codes] at compiled
          obtain ⟨after, ran, guards⟩ := compiled
          rw [ran]
          exact ⟨_, _, rfl, guards, rfl⟩
      | ok blueprint =>
          rw [codes] at compiled
          obtain ⟨variants, released, after, ran, guards, sameReading, stands⟩ := compiled
          rw [ran]
          dsimp only
          obtain ⟨logged, recorded, sameEngines⟩ :=
            Work.exists_run_record isLogged (.compile base.engine.name source flags) after
          obtain ⟨count, sameStore⟩ :=
            base.captureCount_spec variants.search.handle logged.engines
          obtain ⟨table, sameStore'⟩ := base.nameTable_spec variants.search.handle
            ((base.engine.captureCount variants.search.handle).run logged.engines).2
          rw [Work.run_bind, recorded]
          dsimp only
          rw [Work.run_bind, Adapter.captureCount, Work.run_ofAction]
          dsimp only
          rw [Work.run_bind, Adapter.nameTable, Work.run_ofAction]
          dsimp only
          generalize ((base.engine.captureCount variants.search.handle).run logged.engines) =
            counted at count sameStore table sameStore' ⊢
          generalize ((base.engine.nameTable variants.search.handle).run counted.2) =
            named at table sameStore' ⊢
          have isSearch : base.code? after.engines variants.search.handle =
              some (blueprint.code .search) := (stands .search).2.code?_eq
          have isAfter : base.store named.2 = base.store after.engines :=
            sameEngines ▸ sameStore'.trans sameStore
          refine ⟨_, _, rfl, guards.trans (.of_store_eq isAfter), _, rfl, rfl, rfl, rfl,
            sameReading.symm, fun anchoring => (stands anchoring).1, fun anchoring => ?_, ?_, ?_,
            rfl⟩
          · exact (stands anchoring).2.guarded (.of_store_eq isAfter)
          · rw [sameEngines, isSearch] at count
            exact count
          · rw [code?, sameStore, sameEngines] at table
            change _ = ((base.code? after.engines variants.search.handle).map _).getD [] at table
            rw [isSearch] at table
            exact congrArg GroupNames.ofTable table

/-- Closing a pattern takes away the code of its own handles only. -/
theorem close_pattern_spec {pattern : Pattern σ} (isEngine : pattern.adapter.engine = base.engine)
    (trace : Trace σ) :
    ∃ closed after, pattern.close.run trace = (.ok closed, after) ∧
      closed.adapter.engine = base.engine ∧ closed.variants = pattern.variants ∧
      base.Guards (fun handle => ∀ anchoring,
        (pattern.variants.variant anchoring).handle ≠ handle) trace.engines after.engines := by
  rw [Pattern.close]
  split
  · exact ⟨pattern, trace, rfl, isEngine, rfl, .of_store_eq rfl⟩
  · obtain ⟨adapter, after, ran, isEngine', guards⟩ :=
      releaseAll_spec isEngine pattern.variants.handles trace
    refine ⟨{ pattern with adapter, isClosed := true }, after, ?_, isEngine', rfl,
      guards.mono fun handle isOther mem => ?_⟩
    · rw [Work.run_bind, ran]
      rfl
    · rw [CodeVariants.handles, List.mem_eraseDups] at mem
      simp only [List.mem_cons, List.not_mem_nil, or_false] at mem
      rcases mem with rfl | rfl | rfl
      · exact isOther .search rfl
      · exact isOther .lookingAt rfl
      · exact isOther .whole rfl

end StoreEngine

end RegexMatching
