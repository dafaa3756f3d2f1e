import RegexMatching.Proofs.StoreEngines

/-!
# Handles that have been released

Whatever an engine on a store is asked for, its handles only go up, and none comes to stand for
other code.  So a handle that was released answers no match call from then on, and it is not given
out again.
-/

namespace RegexMatching

variable {σ : Type}

/-- An operation of an engine. -/
inductive Engine.Operation where
  | compile (pattern : Bytes) (options : Int)
  | captureCount (code : Handle)
  | nameTable (code : Handle)
  | createMatchData (code : Handle)
  | captureOffsets (data : Handle)
  | mark (data : Handle)
  | freeMatchData (data : Handle)
  | run (code : Handle) (subject : Bytes) (start options : Int) (data stack : Handle)
  | release (code : Handle)

namespace Engine

/-- The state of an engine after an operation. -/
def after (engine : Engine σ) (state : σ) : Operation → σ
  | .compile pattern options => ((engine.compile pattern options).run state).2
  | .captureCount code => ((engine.captureCount code).run state).2
  | .nameTable code => ((engine.nameTable code).run state).2
  | .createMatchData code => ((engine.createMatchData code).run state).2
  | .captureOffsets data => ((engine.captureOffsets data).run state).2
  | .mark data => ((engine.mark data).run state).2
  | .freeMatchData data => ((engine.freeMatchData data).run state).2
  | .run code subject start options data stack =>
      ((engine.run code subject start options data stack).run.run state).2
  | .release code => ((engine.release code).run state).2

/-- The state of an engine behind some operations. -/
def behind (engine : Engine σ) (state : σ) (operations : List Operation) : σ :=
  operations.foldl engine.after state

theorem behind_append (engine : Engine σ) (state : σ) (operations later : List Operation) :
    engine.behind state (operations ++ later) =
      engine.behind (engine.behind state operations) later :=
  List.foldl_append

end Engine

namespace Backend

variable {κ : Type} (backend : Backend κ)

/-- Room for captures takes no code away. -/
theorem codes_createMatchData (code : Handle) (store : Store κ) :
    (backend.createMatchData code store).2.codes = store.codes := by
  rw [createMatchData]
  cases store.code? code <;> rfl

/-- A match call changes match data only. -/
theorem codes_run (code : Handle) (subject : Bytes) (start options : Int) (data : Handle)
    (store : Store κ) :
    (backend.run code subject start options data store).2.codes = store.codes := by
  rw [run]
  split
  · split <;> rfl
  · rfl

end Backend

namespace StoreEngine

variable {kind : EngineKind} {base : StoreEngine σ kind} {before between after : σ}

/-- A later state, in which the handles that had been given out stand for no other code than they
stood for. -/
structure Ages (base : StoreEngine σ kind) (before after : σ) : Prop where
  next_le : base.next before ≤ base.next after
  code?_of_code? : ∀ handle code, handle < base.next before → base.code? after handle = some code →
    base.code? before handle = some code

namespace Ages

theorem refl (state : σ) : base.Ages state state :=
  ⟨Int.le_refl _, fun _ _ _ isCode => isCode⟩

theorem trans (first : base.Ages before between) (second : base.Ages between after) :
    base.Ages before after where
  next_le := Int.le_trans first.next_le second.next_le
  code?_of_code? handle code isBelow isCode :=
    first.code?_of_code? handle code isBelow
      (second.code?_of_code? handle code (Int.lt_of_lt_of_le isBelow first.next_le) isCode)

/-- No handle that had been given out has got code since. -/
theorem code?_eq_none (ages : base.Ages before after) {handle : Handle}
    (isBelow : handle < base.next before) (isNone : base.code? before handle = none) :
    base.code? after handle = none := by
  rw [Option.eq_none_iff_forall_ne_some] at isNone ⊢
  exact fun code isCode => isNone code (ages.code?_of_code? handle code isBelow isCode)

/-- Where all code stays, no handle gets other code. -/
theorem of_guards (guards : base.Guards (· < base.next before) before after) :
    base.Ages before after where
  next_le := guards.next_le
  code?_of_code? handle _ isBelow isCode := (guards.code?_eq handle isBelow).symm.trans isCode

/-- The same store in another state. -/
theorem of_store_eq (same : base.store after = base.store before) : base.Ages before after :=
  of_guards (.of_store_eq same)

/-- Code that is dropped leaves its handle without code, and others as they were. -/
theorem of_dropCode {code : Handle}
    (dropped : base.store after = (base.store before).dropCode code) :
    base.Ages before after where
  next_le := by
    rw [next, next, dropped]
    exact Int.le_refl _
  code?_of_code? handle found _ isCode := by
    rw [code?, dropped] at isCode
    by_cases same : code = handle
    · subst same
      cases (lookup_filter_self code _).symm.trans isCode
    · exact (lookup_filter_ne same _).symm.trans isCode

end Ages

/-! ## Single operations -/

/-- A store with the same codes and no smaller handles guards all code. -/
theorem Guards.of_codes_eq {owned : Handle → Prop}
    (next_le : base.next before ≤ base.next after)
    (same : (base.store after).codes = (base.store before).codes) :
    base.Guards owned before after where
  next_le := next_le
  code?_eq handle _ := congrArg (List.lookup handle) same

theorem ages_after (state : σ) (operation : Engine.Operation) :
    base.Ages state (base.engine.after state operation) := by
  cases operation with
  | compile pattern options =>
      have spec := base.compile_spec pattern options state
      cases compiled : kind.compiled pattern options with
      | error rejection =>
          rw [compiled] at spec
          exact .of_store_eq spec.2
      | ok code =>
          rw [compiled] at spec
          exact .of_guards (.addCode spec.2)
  | captureCount code => exact .of_store_eq (base.captureCount_spec code state).2
  | nameTable code => exact .of_store_eq (base.nameTable_spec code state).2
  | captureOffsets data =>
      exact .of_store_eq ((base.actsLike.captureOffsets data).run_eq state).2
  | mark data => exact .of_store_eq ((base.actsLike.mark data).run_eq state).2
  | createMatchData code =>
      have made := ((base.actsLike.createMatchData code).run_eq state).2
      refine .of_guards (.of_codes_eq ?_ ?_)
      · rw [next, next, Engine.after, made]
        exact Rises.createMatchData kind.backend code (base.store state)
      · rw [Engine.after, made]
        exact kind.backend.codes_createMatchData code (base.store state)
  | freeMatchData data =>
      have freed := ((base.actsLike.freeMatchData data).run_eq state).2
      refine .of_guards (.of_codes_eq ?_ ?_)
      · rw [next, next, Engine.after, freed]
        exact Int.le_refl _
      · rw [Engine.after, freed]
        rfl
  | run code subject start options data stack =>
      have ran := ((base.actsLike.run code subject start options data stack).run_eq state).2
      refine .of_guards (.of_codes_eq ?_ ?_)
      · rw [next, next, Engine.after, ran]
        exact Rises.run kind.backend code subject start options data stack (base.store state)
      · rw [Engine.after, ran]
        exact kind.backend.codes_run code subject start options data (base.store state)
  | release code => exact .of_dropCode (base.release_spec code state)

/-! ## Any operations -/

theorem ages_behind (state : σ) (operations : List Engine.Operation) :
    base.Ages state (base.engine.behind state operations) := by
  induction operations generalizing state with
  | nil => exact .refl state
  | cons operation rest ih => exact (ages_after state operation).trans (ih _)

/-- A handle that was given out, and has no code. -/
structure IsSpent (base : StoreEngine σ kind) (state : σ) (handle : Handle) : Prop where
  isBelow : handle < base.next state
  code?_eq_none : base.code? state handle = none

theorem IsSpent.age {handle : Handle} (isSpent : base.IsSpent before handle)
    (ages : base.Ages before after) : base.IsSpent after handle :=
  ⟨Int.lt_of_lt_of_le isSpent.isBelow ages.next_le,
    ages.code?_eq_none isSpent.isBelow isSpent.code?_eq_none⟩

/-- What compiling gives out is the next handle. -/
theorem eq_next_of_compiled {pattern : Bytes} {options : Int} {state : σ} {code : Handle}
    (compiled : ((base.engine.compile pattern options).run state).1 = .compiled code) :
    code = base.next state ∧
      base.next ((base.engine.compile pattern options).run state).2 = base.next state + 1 := by
  have spec := base.compile_spec pattern options state
  cases outcome : kind.compiled pattern options with
  | error rejection =>
      rw [outcome, compiled] at spec
      cases spec.1
  | ok added =>
      rw [outcome, compiled] at spec
      refine ⟨CompileResult.compiled.inj spec.1, ?_⟩
      rw [next, spec.2]
      rfl

/-- A handle is spent once it was released, whatever was done since it was given out. -/
theorem isSpent_of_released {pattern : Bytes} {options : Int} {state : σ} {code : Handle}
    (compiled : ((base.engine.compile pattern options).run state).1 = .compiled code)
    (operations later : List Engine.Operation) :
    base.IsSpent
      (base.engine.behind state
        (.compile pattern options :: operations ++ .release code :: later)) code := by
  obtain ⟨rfl, next_eq⟩ := eq_next_of_compiled compiled
  rw [Engine.behind_append]
  have aged : base.Ages (base.engine.after state (.compile pattern options))
      (base.engine.behind state (.compile pattern options :: operations)) :=
    ages_behind _ operations
  generalize base.engine.behind state (.compile pattern options :: operations) = between at aged ⊢
  have isBelow : base.next state < base.next between := by
    refine Int.lt_of_lt_of_le ?_ aged.next_le
    rw [Engine.after, next_eq]
    exact Int.lt_succ _
  have released : base.IsSpent (base.engine.after between (.release (base.next state)))
      (base.next state) := by
    refine ⟨Int.lt_of_lt_of_le isBelow (ages_after between _).next_le, ?_⟩
    rw [code?, Engine.after, base.release_spec]
    exact lookup_filter_self _ _
  exact released.age (ages_behind _ later)

/-! ## What a spent handle is good for -/

namespace IsSpent

variable {state : σ} {code : Handle} (isSpent : base.IsSpent state code)

include isSpent

/-- A spent handle answers no match call. -/
theorem run_eq (subject : Bytes) (start options : Int) (data stack : Handle) :
    ((base.engine.run code subject start options data stack).run.run state).1 =
      .ok ResultCode.badHandle := by
  refine ((base.actsLike.run code subject start options data stack).run_eq state).1.trans ?_
  change (kind.backend.run code subject start options data (base.store state)).1 = _
  rw [Backend.run, show (base.store state).code? code = none from isSpent.code?_eq_none]

/-- A spent handle is not given out for code. -/
theorem compile_ne (pattern : Bytes) (options : Int) :
    ((base.engine.compile pattern options).run state).1 ≠ .compiled code := fun compiled =>
  Int.ne_of_lt isSpent.isBelow (eq_next_of_compiled compiled).1

/-- A spent handle is not given out for match data. -/
theorem createMatchData_ne (isHandle : code ≠ 0) (other : Handle) :
    ((base.engine.createMatchData other).run state).1 ≠ code := by
  rw [((base.actsLike.createMatchData other).run_eq state).1]
  change (kind.backend.createMatchData other (base.store state)).1 ≠ code
  rw [Backend.createMatchData]
  cases (base.store state).code? other with
  | none => exact isHandle.symm
  | some compiled => exact Int.ne_of_gt isSpent.isBelow

end IsSpent

end StoreEngine

end RegexMatching
