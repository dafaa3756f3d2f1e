import RegexMatching.Pattern.Survey
import RegexMatching.Proofs.AnswerSpans

/-!
# Patterns of the engines on offer

A pattern is compiled once for each way of anchoring, or once for all of them and asked for
the anchoring by every call.  Either way a call for an anchoring searches as the plain code
does under the options of that anchoring, for as long as the engines hold the code.
-/

namespace RegexMatching

/-! ## Options -/

namespace CompileOptions

/-- Options are read back from their number. -/
theorem ofBits?_toBits (options : CompileOptions) : ofBits? options.toBits = some options := by
  have all : ∀ caseless dotAll multiline literal extended unicodeClasses anchored endAnchored
      newlineLf : Bool,
      ofBits? (toBits ⟨caseless, dotAll, multiline, literal, extended, unicodeClasses, anchored,
        endAnchored, newlineLf⟩) = some ⟨caseless, dotAll, multiline, literal, extended,
          unicodeClasses, anchored, endAnchored, newlineLf⟩ := by
    decide +kernel
  exact all ..

end CompileOptions

/-- What a call for an anchoring asks for. -/
def Anchoring.ask (anchoring : Anchoring) (notBol notEol : Bool) : MatchOptions :=
  { anchoring.matchOptions with notBol, notEol }

/-! ## Code for an anchoring -/

namespace EngineKind

/-- Code that was compiled for an anchoring searches as plain code that is asked for it. -/
theorem search_own {kind : EngineKind} {bytes : Bytes} {options : CompileOptions}
    {plain own : kind.Code} {anchoring : Anchoring}
    (compiled : kind.backend.compile bytes (Anchoring.search.applyTo options) = .ok plain)
    (compiled' : kind.backend.compile bytes (anchoring.applyTo options) = .ok own) :
    kind.backend.captureCount own = kind.backend.captureCount plain ∧
      ∀ (text : PointText) (position : Nat) (notBol notEol : Bool),
        kind.backend.search own text position { notBol, notEol } =
          kind.backend.search plain text position (anchoring.ask notBol notEol) := by
  cases kind with
  | backtracking =>
      simp only [backend, Backtracking.backend, Backtracking.compile, Anchoring.applyTo]
        at compiled compiled'
      split at compiled
      · contradiction
      · next lowered isLowered =>
          simp only [isLowered] at compiled'
          split at compiled
          · split at compiled'
            · cases compiled
              cases compiled'
              refine ⟨rfl, fun text position notBol notEol => ?_⟩
              cases anchoring <;> rfl
            · contradiction
          · contradiction
  | linear =>
      simp only [backend, LinearTime.backend, LinearTime.compile, LinearTime.refusal?,
        Anchoring.applyTo] at compiled compiled'
      split at compiled
      · contradiction
      · next isAllowed =>
          simp only [isAllowed] at compiled'
          split at compiled
          · contradiction
          · next regex isRead =>
              simp only [isRead] at compiled'
              cases compiled
              cases compiled'
              refine ⟨rfl, fun text position notBol notEol => ?_⟩
              cases anchoring <;> rfl

/-- The engines with one more code of a kind. -/
def withCode (kind : EngineKind) (engines : EngineState) (code : kind.Code) : EngineState :=
  kind.setStore ((kind.store engines).addCode code).2 engines

/-- The handle that the next code of a kind gets. -/
def nextHandle (kind : EngineKind) (engines : EngineState) : Handle :=
  (kind.store engines).nextHandle

@[simp]
theorem nextHandle_withCode (kind : EngineKind) (engines : EngineState) (code : kind.Code) :
    kind.nextHandle (kind.withCode engines code) = kind.nextHandle engines + 1 := by
  rw [nextHandle, withCode, kind.isPart_store.get_set]
  rfl

theorem code?_withCode (kind : EngineKind) (engines : EngineState) (code : kind.Code)
    (handle : Handle) :
    kind.code? (kind.withCode engines code) handle =
      if handle = kind.nextHandle engines then some code else kind.code? engines handle := by
  rw [code?, withCode, kind.isPart_store.get_set]
  change List.lookup handle ((kind.nextHandle engines, code) :: (kind.store engines).codes) = _
  rw [List.lookup_cons]
  by_cases same : handle = kind.nextHandle engines
  · rw [if_pos same, beq_iff_eq.mpr same]
  · rw [if_neg same, beq_eq_false_iff_ne.mpr same]
    rfl

theorem code?_withCode_self (kind : EngineKind) (engines : EngineState) (code : kind.Code) :
    kind.code? (kind.withCode engines code) (kind.nextHandle engines) = some code := by
  rw [code?_withCode, if_pos rfl]

theorem code?_withCode_of_lt {kind : EngineKind} {engines : EngineState} {handle : Handle}
    (isOld : handle < kind.nextHandle engines) (code : kind.Code) :
    kind.code? (kind.withCode engines code) handle = kind.code? engines handle := by
  rw [code?_withCode, if_neg (Int.ne_of_lt isOld)]

/-- Codes that are added one after another are held under handles in this order. -/
theorem code?_of_three (kind : EngineKind) (engines : EngineState)
    (first second third : kind.Code) :
    let held := kind.withCode (kind.withCode (kind.withCode engines first) second) third
    kind.code? held (kind.nextHandle engines) = some first ∧
      kind.code? held (kind.nextHandle engines + 1) = some second ∧
      kind.code? held (kind.nextHandle engines + 2) = some third := by
  have isSecond : kind.nextHandle engines + 1 = kind.nextHandle (kind.withCode engines first) :=
    (nextHandle_withCode kind engines first).symm
  have isThird : kind.nextHandle engines + 2 =
      kind.nextHandle (kind.withCode (kind.withCode engines first) second) := by
    rw [nextHandle_withCode, nextHandle_withCode, Int.add_assoc]
    rfl
  have grows (engines : EngineState) (code : kind.Code) :
      kind.nextHandle engines < kind.nextHandle (kind.withCode engines code) := by
    rw [nextHandle_withCode]
    exact Int.lt_succ _
  refine ⟨?_, ?_, ?_⟩
  · rw [code?_withCode_of_lt (Int.lt_trans (grows _ _) (grows _ _)),
      code?_withCode_of_lt (grows _ _), code?_withCode_self]
  · rw [isSecond, code?_withCode_of_lt (grows _ _), code?_withCode_self]
  · rw [isThird, code?_withCode_self]

/-- Compiling acts on the store of its kind. -/
theorem compile_run_store (kind : EngineKind) (bytes : Bytes) (options : Int)
    (engines : EngineState) :
    (kind.engine.compile bytes options).run engines =
      ((kind.backend.compileInto bytes options (kind.store engines)).1,
        kind.setStore (kind.backend.compileInto bytes options (kind.store engines)).2 engines) := by
  cases kind <;> rfl

/-- Compiling fails and leaves the engines as they are, or adds the code. -/
theorem compile_run (kind : EngineKind) (bytes : Bytes) (options : CompileOptions)
    (engines : EngineState) :
    (kind.engine.compile bytes options.toBits).run engines =
      match kind.backend.compile bytes options with
      | .error rejection => (.rejected rejection, engines)
      | .ok code => (.compiled (kind.nextHandle engines), kind.withCode engines code) := by
  rw [compile_run_store, Backend.compileInto, CompileOptions.ofBits?_toBits]
  dsimp only
  cases kind.backend.compile bytes options with
  | error rejection => exact Prod.ext rfl (kind.isPart_store.set_get engines)
  | ok code => rfl

end EngineKind

/-! ## Compiling a pattern -/

/-- Work that ends well ends with a value. -/
theorem Work.exists_run_eq_ok {σ α : Type} (work : Work σ α) (trace : Trace σ)
    (isOk : (work.run trace).1.isOk = true) :
    ∃ value after, work.run trace = (.ok value, after) := by
  rcases ran : work.run trace with ⟨outcome, after⟩
  rw [ran] at isOk
  cases outcome with
  | ok value => exact ⟨value, after, rfl⟩
  | error fault => contradiction

/-- Logging leaves the engines alone. -/
theorem Work.exists_run_record {σ : Type} (isLogged : Bool) (event : Event) (trace : Trace σ) :
    ∃ after, (record isLogged event).run trace = (.ok (), after) ∧
      after.engines = trace.engines := by
  refine ⟨_, rfl, ?_⟩
  split <;> rfl

namespace Pattern

variable {kind : EngineKind}

section Variant

variable (adapter : Adapter EngineState) (isKind : adapter.engine = kind.engine)
  {text : PatternText} {flags : Flags} {anchoring : Anchoring} (trace : Trace EngineState)

include isKind

/-- Compiling for an anchoring fails as the backend does. -/
theorem compileVariant_rejected {rejection : Rejection}
    (rejected : kind.backend.compile (Utf8.encode text.text)
      (anchoring.applyTo flags.compileOptions) = .error rejection) :
    ∃ after, (compileVariant adapter text flags anchoring).run trace =
      (.error (Adapter.syntaxFault text.text rejection text.toSource text.source), after) := by
  have compiled := kind.compile_run (Utf8.encode text.text)
    (anchoring.applyTo flags.compileOptions) trace.engines
  rw [rejected] at compiled
  refine ⟨((compileVariant adapter text flags anchoring).run trace).2, Prod.ext ?_ rfl⟩
  rw [compileVariant, Adapter.compile, Work.run_bind, Work.run_ofAction, isKind, compiled]
  rfl

/-- Code for an anchoring is kept under a fresh handle. -/
theorem compileVariant_compiled {code : kind.Code}
    (isCode : kind.backend.compile (Utf8.encode text.text)
      (anchoring.applyTo flags.compileOptions) = .ok code) :
    ∃ released, (compileVariant adapter text flags anchoring).run trace =
      (.ok (kind.nextHandle trace.engines, { adapter with released }),
        { trace with engines := kind.withCode trace.engines code }) := by
  have compiled := kind.compile_run (Utf8.encode text.text)
    (anchoring.applyTo flags.compileOptions) trace.engines
  rw [isCode] at compiled
  refine ⟨adapter.released.filter (· != kind.nextHandle trace.engines), ?_⟩
  rw [compileVariant, Adapter.compile, Work.run_bind, Work.run_ofAction, isKind, compiled]
  rfl

end Variant

/-- Whether anchored code is compiled next to plain code. -/
def isDedicated (kind : EngineKind) (settings : PatternSettings) : Bool :=
  settings.precompileAnchoredVariants && kind.engine.capabilities.anchoredVariants

section Variants

variable (adapter : Adapter EngineState) (isKind : adapter.engine = kind.engine)
  {text : PatternText} {flags : Flags} (settings : PatternSettings) (trace : Trace EngineState)

include isKind

theorem compileVariants_fails {rejection : Rejection}
    (rejected : kind.backend.compile (Utf8.encode text.text)
      (Anchoring.search.applyTo flags.compileOptions) = .error rejection) :
    ((compileVariants adapter text flags settings).run trace).1 =
      .error (Adapter.syntaxFault text.text rejection text.toSource text.source) := by
  obtain ⟨after, ran⟩ := compileVariant_rejected adapter isKind trace rejected
  rw [compileVariants, Work.run_bind, ran]

/-- Plain code serves every anchoring. -/
theorem compileVariants_shared (isShared : isDedicated kind settings = false) {plain : kind.Code}
    (compiled : kind.backend.compile (Utf8.encode text.text)
      (Anchoring.search.applyTo flags.compileOptions) = .ok plain) :
    ∃ released after, (compileVariants adapter text flags settings).run trace =
        (.ok (.shared (kind.nextHandle trace.engines), { adapter with released }), after) ∧
      after.engines = kind.withCode trace.engines plain := by
  obtain ⟨released, ran⟩ := compileVariant_compiled adapter isKind trace compiled
  rw [isDedicated, ← isKind] at isShared
  refine ⟨released, ((compileVariants adapter text flags settings).run trace).2,
    Prod.ext ?_ rfl, ?_⟩
  · rw [compileVariants, Work.run_bind, ran]
    dsimp only
    rw [isShared, if_neg Bool.false_ne_true, Work.run_bind]
    rfl
  · rw [compileVariants, Work.run_bind, ran]
    dsimp only
    rw [isShared, if_neg Bool.false_ne_true, Work.run_bind]
    change (if adapter.isLogged then _ else _ : Trace EngineState).engines = _
    split <;> rfl

/-- Every anchoring has code of its own. -/
theorem compileVariants_dedicated (dedicated : isDedicated kind settings = true)
    {plain atStart whole : kind.Code}
    (compiled : kind.backend.compile (Utf8.encode text.text)
      (Anchoring.search.applyTo flags.compileOptions) = .ok plain)
    (compiledAtStart : kind.backend.compile (Utf8.encode text.text)
      (Anchoring.lookingAt.applyTo flags.compileOptions) = .ok atStart)
    (compiledWhole : kind.backend.compile (Utf8.encode text.text)
      (Anchoring.whole.applyTo flags.compileOptions) = .ok whole) :
    ∃ released after, (compileVariants adapter text flags settings).run trace =
        (.ok (⟨{ handle := kind.nextHandle trace.engines },
          { handle := kind.nextHandle trace.engines + 1 },
          { handle := kind.nextHandle trace.engines + 2 }⟩, { adapter with released }), after) ∧
      after.engines =
        kind.withCode (kind.withCode (kind.withCode trace.engines plain) atStart) whole := by
  obtain ⟨released, ran⟩ := compileVariant_compiled adapter isKind trace compiled
  obtain ⟨released', ran'⟩ := compileVariant_compiled { adapter with released } isKind
    { trace with engines := kind.withCode trace.engines plain } compiledAtStart
  obtain ⟨released'', ran''⟩ := compileVariant_compiled { adapter with released := released' } isKind
    { trace with engines := kind.withCode (kind.withCode trace.engines plain) atStart }
    compiledWhole
  rw [isDedicated, ← isKind] at dedicated
  refine ⟨released'', { trace with
    engines := kind.withCode (kind.withCode (kind.withCode trace.engines plain) atStart) whole },
    ?_, rfl⟩
  rw [compileVariants, Work.run_bind, ran]
  dsimp only
  rw [dedicated, if_pos rfl, compileDedicated, Work.run_bind, Work.run_onFailure, ran']
  dsimp only
  rw [Work.run_bind, Work.run_onFailure, ran'']
  simp only [EngineKind.nextHandle_withCode, Int.add_assoc]
  rfl

/-- Without code for one anchoring there is none for any. -/
theorem compileVariants_dedicated_fails (dedicated : isDedicated kind settings = true)
    {plain : kind.Code} {anchoring : Anchoring} {rejection : Rejection}
    (compiled : kind.backend.compile (Utf8.encode text.text)
      (Anchoring.search.applyTo flags.compileOptions) = .ok plain)
    (rejected : kind.backend.compile (Utf8.encode text.text)
      (anchoring.applyTo flags.compileOptions) = .error rejection) :
    ∃ fault, ((compileVariants adapter text flags settings).run trace).1 = .error fault := by
  obtain ⟨released, ran⟩ := compileVariant_compiled adapter isKind trace compiled
  rw [isDedicated, ← isKind] at dedicated
  rw [compileVariants, Work.run_bind, ran]
  dsimp only
  rw [dedicated, if_pos rfl, compileDedicated, Work.run_bind, Work.run_onFailure]
  cases atStart : kind.backend.compile (Utf8.encode text.text)
    (Anchoring.lookingAt.applyTo flags.compileOptions) with
  | error rejection' =>
      obtain ⟨after, ran'⟩ := compileVariant_rejected { adapter with released } isKind
        { trace with engines := kind.withCode trace.engines plain } atStart
      rw [ran']
      exact ⟨_, rfl⟩
  | ok atStartCode =>
      obtain ⟨released', ran'⟩ := compileVariant_compiled { adapter with released } isKind
        { trace with engines := kind.withCode trace.engines plain } atStart
      cases anchoring with
      | search =>
          rw [compiled] at rejected
          contradiction
      | lookingAt =>
          rw [atStart] at rejected
          contradiction
      | whole =>
          obtain ⟨after, ran''⟩ := compileVariant_rejected
            { adapter with released := released' } isKind
            { trace with engines := kind.withCode (kind.withCode trace.engines plain) atStartCode }
            rejected
          rw [ran']
          dsimp only
          rw [Work.run_bind, Work.run_onFailure, ran'']
          exact ⟨_, rfl⟩

end Variants

/-! ## Compiled patterns -/

/-- A pattern of a backend, with plain code and the code for every anchoring.  A call for an
anchoring searches as the plain code does when it is asked for the anchoring. -/
structure IsCompiled (kind : EngineKind) (flags : Flags) (plain : kind.Code)
    (pattern : Pattern EngineState) (engines : EngineState) : Prop where
  engine : pattern.adapter.engine = kind.engine
  isOpen : pattern.isClosed = false
  canonicalEquivalence : pattern.canonicalEquivalence = flags.canonicalEquivalence
  groupCount : pattern.groupCount = kind.backend.captureCount plain
  own : ∀ anchoring, ∃ own,
    kind.code? engines (pattern.variants.variant anchoring).handle = some own ∧
      kind.backend.captureCount own = kind.backend.captureCount plain ∧
      ∀ (text : PointText) (position : Nat) (notBol notEol : Bool),
        kind.backend.search own text position
            { (pattern.variants.variant anchoring).options with
              notBol, notEol, partialSoft := false } =
          kind.backend.search plain text position (anchoring.ask notBol notEol)

/-- A pattern of an engine on offer. -/
def IsOffered (pattern : Pattern EngineState) : Prop :=
  ∃ kind : EngineKind, pattern.adapter.engine = kind.engine

theorem IsCompiled.isOffered {flags : Flags} {plain : kind.Code} {pattern : Pattern EngineState}
    {engines : EngineState} (isCompiled : pattern.IsCompiled kind flags plain engines) :
    pattern.IsOffered :=
  ⟨kind, isCompiled.engine⟩

/-- Engines that hold the code of a pattern as others do. -/
def HeldAs (kind : EngineKind) (pattern : Pattern EngineState) (engines held : EngineState) :
    Prop :=
  ∀ anchoring, kind.code? held (pattern.variants.variant anchoring).handle =
    kind.code? engines (pattern.variants.variant anchoring).handle

theorem IsCompiled.of_heldAs {flags : Flags} {plain : kind.Code} {pattern : Pattern EngineState}
    {engines held : EngineState} (isCompiled : pattern.IsCompiled kind flags plain engines)
    (heldAs : HeldAs kind pattern engines held) : pattern.IsCompiled kind flags plain held :=
  { isCompiled with
    own := fun anchoring => by
      rw [heldAs anchoring]
      exact isCompiled.own anchoring }

theorem captureCount_run (kind : EngineKind) (code : Handle) (engines : EngineState) :
    (kind.engine.captureCount code).run engines =
      (((kind.code? engines code).map kind.backend.captureCount).getD 0, engines) := by
  cases kind <;> rfl

theorem nameTable_run (kind : EngineKind) (code : Handle) (engines : EngineState) :
    (kind.engine.nameTable code).run engines =
      (((kind.code? engines code).map kind.backend.names).getD [], engines) := by
  cases kind <;> rfl

/-- Behind its code, compiling a pattern only reads what the code says. -/
theorem compile_run (kind : EngineKind) (isLogged : Bool) (source : Text) {flags : Number}
    (settings : PatternSettings) {parsed : Flags} (isParsed : Flags.ofNumber flags = .ok parsed)
    (trace : Trace EngineState) :
    match (compileVariants { engine := kind.engine, isLogged } (PatternText.ofSource source parsed)
        parsed settings).run trace with
    | (.error fault, _) =>
        ((compile kind.engine isLogged source flags settings).run trace).1 = .error fault
    | (.ok (variants, adapter), after) =>
        adapter.engine = kind.engine →
        ∃ after', (compile kind.engine isLogged source flags settings).run trace =
            (.ok { adapter, source, flags, variants
                   canonicalEquivalence := parsed.canonicalEquivalence
                   groupCount := ((kind.code? after.engines variants.search.handle).map
                     kind.backend.captureCount).getD 0
                   names := GroupNames.ofTable (((kind.code? after.engines
                     variants.search.handle).map kind.backend.names).getD []) }, after') ∧
          after'.engines = after.engines := by
  rcases compiled : (compileVariants { engine := kind.engine, isLogged }
    (PatternText.ofSource source parsed) parsed settings).run trace with ⟨outcome, after⟩
  cases outcome with
  | error fault =>
      dsimp only
      rw [compile, Work.run_bind, Work.run_ofExcept, isParsed]
      dsimp only
      rw [Work.run_bind, compiled]
  | ok made =>
      rcases made with ⟨variants, adapter⟩
      dsimp only
      intro isKind
      obtain ⟨logged, recorded, engines_eq⟩ := Work.exists_run_record isLogged
        (.compile kind.engine.name source flags) after
      refine ⟨logged, ?_, engines_eq⟩
      rw [compile, Work.run_bind, Work.run_ofExcept, isParsed]
      dsimp only
      rw [Work.run_bind, compiled]
      dsimp only
      rw [Work.run_bind, recorded]
      dsimp only
      rw [Work.run_bind, Adapter.captureCount, Work.run_ofAction, isKind, captureCount_run,
        engines_eq]
      dsimp only
      rw [Work.run_bind, Adapter.nameTable, Work.run_ofAction, isKind, nameTable_run]
      dsimp only
      rw [← engines_eq]
      rfl

section Compile

variable (isLogged : Bool) {source : Text} {flags : Number} (settings : PatternSettings)
  {parsed : Flags} (isParsed : Flags.ofNumber flags = .ok parsed) (trace : Trace EngineState)

theorem compile_of_flags {fault : Fault} (refused : Flags.ofNumber flags = .error fault) :
    ((compile kind.engine isLogged source flags settings).run trace).1 = .error fault := by
  rw [compile, Work.run_bind, Work.run_ofExcept, refused]

include isParsed

/-- A pattern is refused as its code is. -/
theorem compile_of_variants_error {fault : Fault}
    (failed : ((compileVariants { engine := kind.engine, isLogged }
      (PatternText.ofSource source parsed) parsed settings).run trace).1 = .error fault) :
    ((compile kind.engine isLogged source flags settings).run trace).1 = .error fault := by
  have ran := compile_run kind isLogged source settings isParsed trace
  rcases tried : (compileVariants { engine := kind.engine, isLogged }
    (PatternText.ofSource source parsed) parsed settings).run trace with ⟨outcome, after⟩
  rw [tried] at ran failed
  dsimp only at failed
  subst failed
  exact ran

/-- Without plain code the pattern is refused. -/
theorem compile_rejected {rejection : Rejection}
    (rejected : kind.backend.compile (Utf8.encode (PatternText.ofSource source parsed).text)
      (Anchoring.search.applyTo parsed.compileOptions) = .error rejection) :
    ((compile kind.engine isLogged source flags settings).run trace).1 =
      .error (Adapter.syntaxFault (PatternText.ofSource source parsed).text rejection
        (PatternText.ofSource source parsed).toSource
        (PatternText.ofSource source parsed).source) :=
  compile_of_variants_error isLogged settings isParsed trace
    (compileVariants_fails { engine := kind.engine, isLogged } rfl settings trace rejected)

/-- Without code for an anchoring that has its own, the pattern is refused. -/
theorem compile_dedicated_fails (dedicated : isDedicated kind settings = true)
    {plain : kind.Code} {anchoring : Anchoring} {rejection : Rejection}
    (compiled : kind.backend.compile (Utf8.encode (PatternText.ofSource source parsed).text)
      (Anchoring.search.applyTo parsed.compileOptions) = .ok plain)
    (rejected : kind.backend.compile (Utf8.encode (PatternText.ofSource source parsed).text)
      (anchoring.applyTo parsed.compileOptions) = .error rejection) :
    ∃ fault, ((compile kind.engine isLogged source flags settings).run trace).1 =
      .error fault := by
  obtain ⟨fault, failed⟩ := compileVariants_dedicated_fails { engine := kind.engine, isLogged } rfl
    settings trace dedicated compiled rejected
  exact ⟨fault, compile_of_variants_error isLogged settings isParsed trace failed⟩

/-- Once there is code for every anchoring, the pattern is compiled from it. -/
theorem exists_isCompiled_of_variants {variants : CodeVariants} {adapter : Adapter EngineState}
    {made : Trace EngineState} {plain : kind.Code}
    (ran : (compileVariants { engine := kind.engine, isLogged }
      (PatternText.ofSource source parsed) parsed settings).run trace =
        (.ok (variants, adapter), made))
    (isKind : adapter.engine = kind.engine)
    (held : kind.code? made.engines variants.search.handle = some plain)
    (own : ∀ anchoring, ∃ own,
      kind.code? made.engines (variants.variant anchoring).handle = some own ∧
        kind.backend.captureCount own = kind.backend.captureCount plain ∧
        ∀ (text : PointText) (position : Nat) (notBol notEol : Bool),
          kind.backend.search own text position
              { (variants.variant anchoring).options with
                notBol, notEol, partialSoft := false } =
            kind.backend.search plain text position (anchoring.ask notBol notEol)) :
    ∃ pattern after, (compile kind.engine isLogged source flags settings).run trace =
        (.ok pattern, after) ∧ pattern.IsCompiled kind parsed plain after.engines ∧
      pattern.names = GroupNames.ofTable (kind.backend.names plain) := by
  have compiled := compile_run kind isLogged source settings isParsed trace
  rw [ran] at compiled
  obtain ⟨after, compiled, engines_eq⟩ := compiled isKind
  rw [held] at compiled
  exact ⟨_, after, compiled, ⟨isKind, rfl, rfl, rfl, engines_eq ▸ own⟩, rfl⟩

/-- With plain code, and code for every anchoring that needs its own, the pattern is compiled. -/
theorem exists_isCompiled {plain : kind.Code}
    (compiled : kind.backend.compile (Utf8.encode (PatternText.ofSource source parsed).text)
      (Anchoring.search.applyTo parsed.compileOptions) = .ok plain)
    (compiledOwn : isDedicated kind settings = true → ∀ anchoring : Anchoring, ∃ own,
      kind.backend.compile (Utf8.encode (PatternText.ofSource source parsed).text)
        (anchoring.applyTo parsed.compileOptions) = .ok own) :
    ∃ pattern after, (compile kind.engine isLogged source flags settings).run trace =
        (.ok pattern, after) ∧ pattern.IsCompiled kind parsed plain after.engines ∧
      pattern.names = GroupNames.ofTable (kind.backend.names plain) := by
  cases dedicated : isDedicated kind settings with
  | false =>
      obtain ⟨released, made, ran, engines_eq⟩ := compileVariants_shared
        { engine := kind.engine, isLogged } rfl settings trace dedicated compiled
      have held : kind.code? made.engines (kind.nextHandle trace.engines) = some plain := by
        rw [engines_eq, EngineKind.code?_withCode_self]
      refine exists_isCompiled_of_variants isLogged settings isParsed trace ran rfl held
        fun anchoring => ⟨plain, ?_, rfl, ?_⟩
      · cases anchoring <;> exact held
      · intro text position notBol notEol
        cases anchoring <;> rfl
  | true =>
      obtain ⟨atStart, compiledAtStart⟩ := compiledOwn dedicated .lookingAt
      obtain ⟨whole, compiledWhole⟩ := compiledOwn dedicated .whole
      obtain ⟨released, made, ran, engines_eq⟩ := compileVariants_dedicated
        { engine := kind.engine, isLogged } rfl settings trace dedicated compiled compiledAtStart
        compiledWhole
      obtain ⟨held, heldAtStart, heldWhole⟩ :=
        engines_eq ▸ kind.code?_of_three trace.engines plain atStart whole
      refine exists_isCompiled_of_variants isLogged settings isParsed trace ran rfl held
        fun anchoring => ?_
      cases anchoring with
      | search => exact ⟨plain, held, rfl, fun _ _ _ _ => rfl⟩
      | lookingAt => exact ⟨atStart, heldAtStart, EngineKind.search_own compiled compiledAtStart⟩
      | whole => exact ⟨whole, heldWhole, EngineKind.search_own compiled compiledWhole⟩

end Compile

section Compiled

variable {isLogged : Bool} {source : Text} {flags : Number} {settings : PatternSettings}
  {trace after : Trace EngineState} {pattern : Pattern EngineState}
  (compiled : (compile kind.engine isLogged source flags settings).run trace = (.ok pattern, after))

include compiled

/-- A compiled pattern has plain code, which its names are from, and the code for every
anchoring. -/
theorem exists_plain_of_compile :
    ∃ parsed plain, Flags.ofNumber flags = .ok parsed ∧
      kind.backend.compile (Utf8.encode (PatternText.ofSource source parsed).text)
        (Anchoring.search.applyTo parsed.compileOptions) = .ok plain ∧
      pattern.IsCompiled kind parsed plain after.engines ∧
      pattern.names = GroupNames.ofTable (kind.backend.names plain) := by
  have notFailed : ∀ fault, ((compile kind.engine isLogged source flags settings).run trace).1 ≠
      .error fault := by
    rw [compiled]
    exact fun fault => nofun
  cases isParsed : Flags.ofNumber flags with
  | error fault => exact absurd (compile_of_flags _ _ _ isParsed) (notFailed fault)
  | ok parsed =>
      cases isPlain : kind.backend.compile (Utf8.encode (PatternText.ofSource source parsed).text)
        (Anchoring.search.applyTo parsed.compileOptions) with
      | error rejection => exact absurd (compile_rejected _ _ isParsed _ isPlain) (notFailed _)
      | ok plain =>
          have compiledOwn : isDedicated kind settings = true → ∀ anchoring : Anchoring, ∃ own,
              kind.backend.compile (Utf8.encode (PatternText.ofSource source parsed).text)
                (anchoring.applyTo parsed.compileOptions) = .ok own := by
            intro dedicated anchoring
            cases tried : kind.backend.compile
              (Utf8.encode (PatternText.ofSource source parsed).text)
              (anchoring.applyTo parsed.compileOptions) with
            | ok own => exact ⟨own, rfl⟩
            | error rejection =>
                obtain ⟨fault, failed⟩ :=
                  compile_dedicated_fails isLogged settings isParsed trace dedicated isPlain tried
                exact absurd failed (notFailed fault)
          obtain ⟨made, trace', ran, isCompiled, names_eq⟩ :=
            exists_isCompiled isLogged settings isParsed trace isPlain compiledOwn
          rw [compiled] at ran
          cases ran
          exact ⟨parsed, plain, rfl, isPlain, isCompiled, names_eq⟩

theorem isCompiled_of_compile :
    ∃ parsed plain, Flags.ofNumber flags = .ok parsed ∧
      kind.backend.compile (Utf8.encode (PatternText.ofSource source parsed).text)
        (Anchoring.search.applyTo parsed.compileOptions) = .ok plain ∧
      pattern.IsCompiled kind parsed plain after.engines := by
  obtain ⟨parsed, plain, isParsed, isPlain, isCompiled, -⟩ := exists_plain_of_compile compiled
  exact ⟨parsed, plain, isParsed, isPlain, isCompiled⟩

end Compiled

end Pattern

end RegexMatching
