import RegexMatching.Proofs.Compiling

/-!
# Engines that follow what was compiled

An engine may accept an expression, and match with it, by nothing but the bytes and options it
was given.  Then a pattern stands for the bytes and options of its expression for as long as
the engine holds its code.  The engines on offer are of this kind.
-/

namespace RegexMatching

/-! ## What an engine follows -/

/-- What compiling and matching depend on. -/
structure CodeModel (σ : Type) where
  /-- A handle stands for code that was compiled from bytes under options. -/
  holds : σ → Handle → Bytes → Int → Prop
  /-- Why bytes are not compiled under options, if they are not. -/
  verdict : Bytes → Int → Option Rejection
  /-- What code says about a subject, from a start under options of the match call. -/
  answer : Bytes → Int → Bytes → Int → Int → Except Fault Report

namespace CodeModel

variable {σ : Type}

/-- An action that leaves what handles stand for. -/
def Keeps {α : Type} (model : CodeModel σ) (action : StateM σ α) : Prop :=
  ∀ engines handle bytes options, model.holds engines handle bytes options →
    model.holds (action.run engines).2 handle bytes options

/-- The anchorings that are compiled, in turn. -/
def compiledFor (isDedicated : Bool) : List Anchoring :=
  if isDedicated then [.search, .lookingAt, .whole] else [.search]

/-- Why there is no pattern of some bytes, if there is none. -/
def refusal? (model : CodeModel σ) (bytes : Bytes) (options : CompileOptions)
    (isDedicated : Bool) : Option Rejection :=
  (compiledFor isDedicated).findSome? fun anchoring =>
    model.verdict bytes (anchoring.applyTo options).toBits

end CodeModel

/-- An engine that compiles by the verdict and answers by the code that is held. -/
structure Engine.Follows {σ : Type} (engine : Engine σ) (model : CodeModel σ) : Prop where
  rejects : ∀ bytes options engines rejection, model.verdict bytes options = some rejection →
    ((engine.compile bytes options).run engines).1 = .rejected rejection
  accepts : ∀ bytes options engines, model.verdict bytes options = none → ∃ handle,
    ((engine.compile bytes options).run engines).1 = .compiled handle ∧
      model.holds ((engine.compile bytes options).run engines).2 handle bytes options
  answers : ∀ request engines bytes options, model.holds engines request.code bytes options →
    ((engine.exchange request).run engines).1 =
      model.answer bytes options request.subject request.start request.options
  compile_keeps : ∀ bytes options, model.Keeps (engine.compile bytes options)
  captureCount_keeps : ∀ code, model.Keeps (engine.captureCount code)
  nameTable_keeps : ∀ code, model.Keeps (engine.nameTable code)
  makeStack_keeps : model.Keeps engine.makeStack

/-! ## Patterns as code -/

namespace Pattern

variable {σ : Type} {engine : Engine σ} {model : CodeModel σ}

/-- A pattern of an engine, compiled once for each anchoring or once for all. -/
structure IsOf (pattern : Pattern σ) (engine : Engine σ) (flags : Flags) (isDedicated : Bool) :
    Prop where
  engine_eq : pattern.adapter.engine = engine
  isOpen : pattern.isClosed = false
  canonicalEquivalence : pattern.canonicalEquivalence = flags.canonicalEquivalence
  options : ∀ anchoring, (pattern.variants.variant anchoring).options =
    if isDedicated then {} else anchoring.matchOptions

/-- Whether the engines hold the code of a pattern for every anchoring. -/
def IsHeld (model : CodeModel σ) (pattern : Pattern σ) (bytes : Bytes) (flags : Flags)
    (isDedicated : Bool) (engines : σ) : Prop :=
  ∀ anchoring : Anchoring, model.holds engines (pattern.variants.variant anchoring).handle bytes
    ((if isDedicated then anchoring else .search).applyTo flags.compileOptions).toBits

/-- Engines that still hold whatever a pattern stood for. -/
def StaysHeld (model : CodeModel σ) (pattern : Pattern σ) (engines later : σ) : Prop :=
  ∀ anchoring bytes options,
    model.holds engines (pattern.variants.variant anchoring).handle bytes options →
    model.holds later (pattern.variants.variant anchoring).handle bytes options

theorem IsHeld.of_staysHeld {pattern : Pattern σ} {bytes : Bytes} {flags : Flags}
    {isDedicated : Bool} {engines later : σ}
    (isHeld : pattern.IsHeld model bytes flags isDedicated engines)
    (stays : pattern.StaysHeld model engines later) :
    pattern.IsHeld model bytes flags isDedicated later :=
  fun anchoring => stays anchoring _ _ (isHeld anchoring)

section Compile

variable (follows : engine.Follows model) {adapter : Adapter σ}
  (isEngine : adapter.engine = engine) {text : PatternText} {flags : Flags}

include follows isEngine

/-- Code is refused by the verdict, or it is held behind a handle and whatever was held is held
still. -/
theorem compileVariant_cases (anchoring : Anchoring) (trace : Trace σ) :
    (∃ rejection after, model.verdict (Utf8.encode text.text)
        (anchoring.applyTo flags.compileOptions).toBits = some rejection ∧
      (compileVariant adapter text flags anchoring).run trace =
        (.error (Adapter.syntaxFault text.text rejection text.toSource text.source), after)) ∨
    ∃ handle released after, model.verdict (Utf8.encode text.text)
        (anchoring.applyTo flags.compileOptions).toBits = none ∧
      (compileVariant adapter text flags anchoring).run trace =
        (.ok (handle, { adapter with released }), after) ∧
      model.holds after.engines handle (Utf8.encode text.text)
        (anchoring.applyTo flags.compileOptions).toBits ∧
      ∀ handle bytes options, model.holds trace.engines handle bytes options →
        model.holds after.engines handle bytes options := by
  cases verdict : model.verdict (Utf8.encode text.text)
    (anchoring.applyTo flags.compileOptions).toBits with
  | some rejection =>
      have compiled := follows.rejects _ _ trace.engines _ verdict
      refine .inl ⟨rejection, ((compileVariant adapter text flags anchoring).run trace).2, rfl,
        Prod.ext ?_ rfl⟩
      rw [compileVariant, Adapter.compile, Work.run_bind, Work.run_ofAction, isEngine, compiled]
      rfl
  | none =>
      obtain ⟨handle, compiled, isHeld⟩ := follows.accepts _ _ trace.engines verdict
      refine .inr ⟨handle, adapter.released.filter (· != handle), { trace with engines := _ }, rfl,
        ?_, isHeld, follows.compile_keeps _ _ trace.engines⟩
      rw [compileVariant, Adapter.compile, Work.run_bind, Work.run_ofAction, isEngine, compiled]
      rfl

/-- Compiling for all anchorings fails by the first refusal, or the code of all is held. -/
theorem compileVariants_cases (settings : PatternSettings) {isDedicated : Bool}
    (isChosen : (settings.precompileAnchoredVariants && engine.capabilities.anchoredVariants) =
      isDedicated) (trace : Trace σ) :
    (∃ rejection after,
      model.refusal? (Utf8.encode text.text) flags.compileOptions isDedicated = some rejection ∧
      (compileVariants adapter text flags settings).run trace =
        (.error (Adapter.syntaxFault text.text rejection text.toSource text.source), after)) ∨
    ∃ variants released after,
      model.refusal? (Utf8.encode text.text) flags.compileOptions isDedicated = none ∧
      (compileVariants adapter text flags settings).run trace =
        (.ok (variants, { adapter with released }), after) ∧
      ∀ anchoring : Anchoring,
        (variants.variant anchoring).options =
          (if isDedicated then {} else anchoring.matchOptions) ∧
        model.holds after.engines (variants.variant anchoring).handle (Utf8.encode text.text)
          ((if isDedicated then anchoring else .search).applyTo
            flags.compileOptions).toBits := by
  subst isEngine
  rw [compileVariants, Work.run_bind, CodeModel.refusal?]
  rcases @compileVariant_cases σ _ model follows adapter rfl text flags .search trace with
    ⟨rejection, after, verdict, ran⟩ | ⟨search, released, after, verdict, ran, isHeld, -⟩
  · refine .inl ⟨rejection, after, ?_, by rw [ran]⟩
    cases isDedicated <;> simp [CodeModel.compiledFor, verdict]
  rw [ran]
  dsimp only
  rw [isChosen]
  cases isDedicated with
  | false =>
      obtain ⟨logged, recorded, sameEngines⟩ := Work.exists_run_record adapter.isLogged
        (.variantFallback adapter.engine.name text.source
          (if adapter.engine.capabilities.anchoredVariants then .disabled else .unsupported)) after
      refine .inr ⟨.shared search, released, logged, by simp [CodeModel.compiledFor, verdict], ?_,
        fun anchoring => ?_⟩
      · rw [if_neg Bool.false_ne_true, Work.run_bind, recorded]
        rfl
      · rw [sameEngines]
        cases anchoring <;> exact ⟨rfl, isHeld⟩
  | true =>
      rw [if_pos rfl, compileDedicated, Work.run_bind, Work.run_onFailure]
      rcases @compileVariant_cases σ _ model follows { adapter with released } rfl text
        flags .lookingAt after with
        ⟨rejection, after', verdict', ran'⟩ |
        ⟨lookingAt, released', after', verdict', ran', isHeld', keeps'⟩
      · exact .inl ⟨rejection, _, by simp [CodeModel.compiledFor, verdict, verdict'],
          by rw [ran']⟩
      rw [ran']
      dsimp only
      rw [Work.run_bind, Work.run_onFailure]
      rcases @compileVariant_cases σ _ model follows { adapter with released := released' }
        rfl text flags .whole after' with
        ⟨rejection, after'', verdict'', ran''⟩ |
        ⟨whole, released'', after'', verdict'', ran'', isHeld'', keeps''⟩
      · exact .inl ⟨rejection, _, by simp [CodeModel.compiledFor, verdict, verdict', verdict''],
          by rw [ran'']⟩
      refine .inr ⟨⟨{ handle := search }, { handle := lookingAt }, { handle := whole }⟩, released'',
        after'', by simp [CodeModel.compiledFor, verdict, verdict', verdict''], by rw [ran'']; rfl,
        fun anchoring => ?_⟩
      cases anchoring with
      | search => exact ⟨rfl, keeps'' _ _ _ (keeps' _ _ _ isHeld)⟩
      | lookingAt => exact ⟨rfl, keeps'' _ _ _ isHeld'⟩
      | whole => exact ⟨rfl, isHeld''⟩

end Compile

/-- Compiling fails by the first refusal, or comes to a pattern whose code is held. -/
theorem compile_cases (follows : engine.Follows model) (isLogged : Bool) (source : Text)
    {flags : Number} {parsed : Flags} (isParsed : Flags.ofNumber flags = .ok parsed)
    (settings : PatternSettings) {isDedicated : Bool}
    (isChosen : (settings.precompileAnchoredVariants && engine.capabilities.anchoredVariants) =
      isDedicated) (trace : Trace σ) :
    let text := PatternText.ofSource source parsed
    (∃ rejection after,
      model.refusal? (Utf8.encode text.text) parsed.compileOptions isDedicated = some rejection ∧
      (compile engine isLogged source flags settings).run trace =
        (.error (Adapter.syntaxFault text.text rejection text.toSource text.source), after)) ∨
    ∃ pattern after,
      model.refusal? (Utf8.encode text.text) parsed.compileOptions isDedicated = none ∧
      (compile engine isLogged source flags settings).run trace = (.ok pattern, after) ∧
      pattern.IsOf engine parsed isDedicated ∧
      pattern.IsHeld model (Utf8.encode text.text) parsed isDedicated after.engines := by
  intro text
  rw [compile, Work.run_bind, Work.run_ofExcept, isParsed]
  dsimp only
  rw [Work.run_bind]
  rcases @compileVariants_cases σ engine model follows { engine, isLogged } rfl text parsed settings
    isDedicated isChosen trace with
    ⟨rejection, after, refused, ran⟩ | ⟨variants, released, after, accepted, ran, isHeld⟩
  · exact .inl ⟨rejection, after, refused, by rw [ran]⟩
  obtain ⟨logged, recorded, sameEngines⟩ :=
    Work.exists_run_record isLogged (.compile engine.name source flags) after
  let counted := (engine.captureCount variants.search.handle).run logged.engines
  let named := (engine.nameTable variants.search.handle).run counted.2
  refine .inr ⟨{ adapter := { engine, isLogged, released }, source, flags, variants
                 canonicalEquivalence := parsed.canonicalEquivalence
                 groupCount := counted.1
                 names := GroupNames.ofTable named.1 },
    { logged with engines := named.2 }, accepted, ?_,
    ⟨rfl, rfl, rfl, fun anchoring => (isHeld anchoring).1⟩, fun anchoring => ?_⟩
  · rw [ran]
    dsimp only
    rw [Work.run_bind, recorded]
    dsimp only
    rw [Work.run_bind, Adapter.captureCount, Work.run_ofAction]
    dsimp only
    rw [Work.run_bind, Adapter.nameTable, Work.run_ofAction]
    rfl
  · exact follows.nameTable_keeps _ _ _ _ _ (follows.captureCount_keeps _ _ _ _ _
      (sameEngines ▸ (isHeld anchoring).2))

end Pattern

/-! ## The engines on offer -/

namespace EngineKind

/-- What compiling bytes under options comes to. -/
def compiled (kind : EngineKind) (bytes : Bytes) (options : Int) : Except Rejection kind.Code :=
  match CompileOptions.ofBits? options with
  | none =>
      .error { code := ResultCode.badOption
               description := .text (Text.ofString "unknown compile option bits") }
  | some options => kind.backend.compile bytes options

/-- Handles of code are below the next one, which is given out once. -/
def codeModel (kind : EngineKind) : CodeModel EngineState where
  holds engines handle bytes options := handle < kind.nextHandle engines ∧
    ∃ code, kind.compiled bytes options = .ok code ∧ kind.code? engines handle = some code
  verdict bytes options :=
    match kind.compiled bytes options with
    | .error rejection => some rejection
    | .ok _ => none
  answer bytes options := kind.backend.report (kind.compiled bytes options).toOption

/-- Compiling fails and leaves the engines as they are, or adds the code, whatever the options. -/
theorem compile_run_compiled (kind : EngineKind) (bytes : Bytes) (options : Int)
    (engines : EngineState) :
    (kind.engine.compile bytes options).run engines =
      match kind.compiled bytes options with
      | .error rejection => (.rejected rejection, engines)
      | .ok code => (.compiled (kind.nextHandle engines), kind.withCode engines code) := by
  have unchanged : kind.setStore (kind.store engines) engines = engines :=
    kind.isPart_store.set_get engines
  rw [compile_run_store, Backend.compileInto, compiled]
  cases CompileOptions.ofBits? options with
  | none => exact Prod.ext rfl unchanged
  | some options =>
      dsimp only
      cases kind.backend.compile bytes options with
      | error rejection => exact Prod.ext rfl unchanged
      | ok code => rfl

theorem verdict_codeModel {kind : EngineKind} {bytes : Bytes} {options : Int} {code : kind.Code}
    (isCompiled : kind.compiled bytes options = .ok code) :
    kind.codeModel.verdict bytes options = none := by
  rw [codeModel]
  dsimp only
  rw [isCompiled]

theorem follows_codeModel (kind : EngineKind) : kind.engine.Follows kind.codeModel where
  rejects := by
    intro bytes options engines rejection rejected
    rw [compile_run_compiled]
    cases outcome : kind.compiled bytes options with
    | error other =>
        rw [codeModel] at rejected
        dsimp only at rejected
        rw [outcome] at rejected
        rw [Option.some.inj rejected]
    | ok code =>
        rw [verdict_codeModel outcome] at rejected
        cases rejected
  accepts := by
    intro bytes options engines accepted
    rw [compile_run_compiled]
    cases outcome : kind.compiled bytes options with
    | error other =>
        rw [codeModel] at accepted
        dsimp only at accepted
        rw [outcome] at accepted
        cases accepted
    | ok code =>
        refine ⟨kind.nextHandle engines, rfl, ?_, code, outcome, ?_⟩
        · rw [nextHandle_withCode]
          exact Int.lt_succ _
        · rw [code?_withCode, if_pos rfl]
  answers := by
    rintro request engines bytes options ⟨-, code, isCompiled, isCode⟩
    rw [(kind.answersBy (kind.code? engines)).report_eq request engines rfl, MatchFunction.to,
      Backend.answering, isCode, codeModel]
    dsimp only
    rw [isCompiled]
    rfl
  compile_keeps := by
    rintro bytes options engines handle bytes' options' ⟨less, code, isCompiled, isCode⟩
    rw [compile_run_compiled]
    cases kind.compiled bytes options with
    | error rejection => exact ⟨less, code, isCompiled, isCode⟩
    | ok other =>
        refine ⟨?_, code, isCompiled, ?_⟩
        · rw [nextHandle_withCode]
          exact Int.lt_trans less (Int.lt_succ _)
        · rw [code?_withCode, if_neg (Int.ne_of_lt less), isCode]
  captureCount_keeps := by
    intro code engines handle bytes options isHeld
    rw [Pattern.captureCount_run]
    exact isHeld
  nameTable_keeps := by
    intro code engines handle bytes options isHeld
    rw [Pattern.nameTable_run]
    exact isHeld
  makeStack_keeps := by
    intro engines handle bytes options isHeld
    cases kind <;> exact isHeld

end EngineKind

end RegexMatching
