import RegexMatching.Proofs.ReleasedHandles

/-!
# Engines on offer side by side

Engines of several kinds share a state, in which each has a store of its own.  Whatever any of them
is asked for, the handles of all kinds only go up, and none comes to stand for other code.
-/

namespace RegexMatching

/-! ## Match calls as operations -/

namespace Engine

variable {σ : Type} (engine : Engine σ)

/-- What is read of match data is read by operations. -/
theorem exists_readReport_behind (code data : Handle) (result : Int) (state : σ) :
    ∃ operations,
      ((engine.readReport code data result).run state).2 = engine.behind state operations := by
  rw [readReport]
  split
  · exact ⟨[.captureCount code, .captureOffsets data, .mark data], rfl⟩
  · exact ⟨[], rfl⟩

/-- A match call consists of operations. -/
theorem exists_exchange_behind (request : Request) (state : σ) :
    ∃ operations, ((engine.exchange request).run state).2 = engine.behind state operations := by
  let made := (engine.createMatchData request.code).run state
  let call : List Operation :=
    [.createMatchData request.code,
      .run request.code request.subject request.start request.options made.1 request.stack]
  rw [exchange_run]
  dsimp only
  rcases ran : (engine.run request.code request.subject request.start request.options made.1
    request.stack).run.run made.2 with ⟨outcome, after⟩
  have called : engine.behind state call = after := congrArg Prod.snd ran
  cases outcome with
  | error fault =>
      refine ⟨call ++ [.freeMatchData made.1], ?_⟩
      rw [behind_append, called]
      rfl
  | ok result =>
      obtain ⟨operations, isRead⟩ :=
        engine.exists_readReport_behind request.code made.1 result after
      refine ⟨call ++ operations ++ [.freeMatchData made.1], ?_⟩
      rw [behind_append, behind_append, called, ← isRead]
      rfl

end Engine

/-! ## All kinds -/

/-- A later state, in which the handles of all kinds stand for no other code than they stood for. -/
def SharedState.Ages (isCaching : Bool) (before after : SharedState) : Prop :=
  ∀ kind : EngineKind, (kind.shared isCaching).Ages before after

namespace SharedState.Ages

variable {isCaching : Bool}

theorem persists : Persists (Ages isCaching) where
  refl state _ := .refl state
  trans first second kind := (first kind).trans (second kind)

/-- An operation of one kind leaves the stores of the others. -/
theorem operation (kind : EngineKind) (state : SharedState) (operation : Engine.Operation) :
    Ages isCaching state ((kind.sharedEngine isCaching).after state operation) := by
  intro other
  by_cases same : other = kind
  · subst same
    exact (other.shared isCaching).ages_after state operation
  · apply StoreEngine.Ages.of_store_eq
    cases kind <;> cases other
    · exact absurd rfl same
    · cases isCaching <;> cases operation <;> rfl
    · cases isCaching <;> cases operation <;> rfl
    · exact absurd rfl same

theorem operations (kind : EngineKind) (state : SharedState) (operations : List Engine.Operation) :
    Ages isCaching state ((kind.sharedEngine isCaching).behind state operations) := by
  induction operations generalizing state with
  | nil => exact persists.refl state
  | cons first rest ih => exact persists.trans (operation kind state first) (ih _)

end SharedState.Ages

/-- Whether an engine is on offer. -/
def Engine.IsOffered (isCaching : Bool) (engine : Engine SharedState) : Prop :=
  ∃ kind : EngineKind, engine = kind.sharedEngine isCaching

variable {isCaching : Bool}

/-- Match calls of patterns on offer make no handle stand for other code. -/
theorem SharedState.Ages.keptByCalls :
    KeptByCalls (SharedState.Ages isCaching) fun pattern =>
      pattern.adapter.engine.IsOffered isCaching where
  toPersists := persists
  exchange := by
    rintro pattern ⟨kind, isEngine⟩ request state
    obtain ⟨operations, isBehind⟩ :=
      (kind.sharedEngine isCaching).exists_exchange_behind request state
    rw [isEngine, isBehind]
    exact .operations kind state operations
  makeStack := by
    rintro pattern ⟨kind, isEngine⟩ state
    rw [isEngine, Engine.makeStack, (kind.sharedEngine_actsLike isCaching).createStack]
    exact persists.refl state
  dropStack := by
    rintro pattern ⟨kind, isEngine⟩ stack state
    rw [isEngine, Engine.dropStack, (kind.sharedEngine_actsLike isCaching).releaseStack]
    exact persists.refl state

/-- Compiling and releasing make no handle stand for other code. -/
theorem EngineKind.compilesWithin_ages (kind : EngineKind) :
    (kind.sharedEngine isCaching).CompilesWithin (SharedState.Ages isCaching) where
  compile pattern options state := .operation kind state (.compile pattern options)
  captureCount code state := .operation kind state (.captureCount code)
  nameTable code state := .operation kind state (.nameTable code)
  release code state := .operation kind state (.release code)

end RegexMatching
