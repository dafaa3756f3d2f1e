import RegexMatching.Proofs.Caching
import RegexMatching.Proofs.CompiledCode
import RegexMatching.Proofs.KeptRelations

/-!
# Engines on a store

An engine that acts like one on offer has a store.  What its calls come to depends on the code in
the store only, every handle is fresh, and the code of a handle stays until the handle is released.
A handle that has been released stands for nothing from then on.
-/

namespace RegexMatching

/-! ## Handles only go up -/

/-- An action after which the next handle is no smaller. -/
def Rises {κ α : Type} (action : StateM (Store κ) α) : Prop :=
  ∀ store, store.nextHandle ≤ (action.run store).2.nextHandle

namespace Rises

variable {κ α β : Type}

theorem bind {action : StateM (Store κ) α} {next : α → StateM (Store κ) β} (first : Rises action)
    (second : ∀ value, Rises (next value)) : Rises (action >>= next) :=
  fun store => Int.le_trans (first store) (second _ _)

variable (backend : Backend κ)

theorem createMatchData (code : Handle) : Rises (backend.toEngine.createMatchData code) := by
  intro store
  change store.nextHandle ≤ (backend.createMatchData code store).2.nextHandle
  rw [Backend.createMatchData]
  cases store.code? code with
  | none => exact Int.le_refl _
  | some compiled => exact Int.le_add_one (Int.le_refl _)

theorem run (code : Handle) (subject : Bytes) (start options : Int) (data stack : Handle) :
    Rises (backend.toEngine.run code subject start options data stack).run := by
  intro store
  change store.nextHandle ≤ (backend.run code subject start options data store).2.nextHandle
  rw [Backend.run]
  split
  · split <;> exact Int.le_refl _
  · exact Int.le_refl _

/-- A match call leaves no handle to be given out again. -/
theorem exchange (request : Request) : Rises (backend.toEngine.exchange request) := by
  refine (createMatchData backend request.code).bind fun data => ?_
  refine (run backend _ _ _ _ data _).bind fun outcome => ?_
  have read : ∀ result, Rises (backend.toEngine.readReport request.code data result) := by
    intro result store
    rw [Engine.readReport]
    split <;> exact Int.le_refl _
  have freed : ∀ report : Except Fault Report,
      Rises (do backend.toEngine.freeMatchData data; return report) := fun _ _ => Int.le_refl _
  cases outcome with
  | error fault => exact freed (.error fault)
  | ok result =>
      exact Rises.bind (fun store => read result store) freed

end Rises

/-- What is not kept under another key is not looked up under this one. -/
theorem lookup_filter_ne {α : Type} {handle other : Handle} (isOther : other ≠ handle)
    (entries : List (Handle × α)) :
    (entries.filter fun entry => entry.1 != other).lookup handle = entries.lookup handle := by
  induction entries with
  | nil => rfl
  | cons entry rest ih =>
      rw [List.filter_cons, List.lookup_cons]
      by_cases isDropped : entry.1 = other
      · have isLater : (handle == entry.1) = false :=
          beq_eq_false_iff_ne.mpr fun same => isOther (isDropped ▸ same.symm)
        rw [if_neg (by rw [bne_iff_ne]; exact not_not.mpr isDropped), isLater, ih]
      · rw [if_pos (bne_iff_ne.mpr isDropped), List.lookup_cons, ih]

/-- What is kept under a key is looked up no longer once it is taken out. -/
theorem lookup_filter_self {α : Type} (handle : Handle) (entries : List (Handle × α)) :
    (entries.filter fun entry => entry.1 != handle).lookup handle = none := by
  rw [List.lookup_eq_none_iff]
  intro entry mem
  rw [bne_comm]
  exact (List.mem_filter.mp mem).2

/-! ## Engines on a store -/

/-- An engine that acts like the engine of a kind, on a store that is read off its state. -/
structure StoreEngine (σ : Type) (kind : EngineKind) where
  engine : Engine σ
  store : σ → Store kind.Code
  actsLike : engine.ActsLike kind.backend.toEngine store

/-- Compiling comes to what is compiled without a store, which takes it in. -/
theorem EngineKind.compileInto_eq (kind : EngineKind) (bytes : Bytes) (options : Int)
    (store : Store kind.Code) :
    kind.backend.compileInto bytes options store =
      match kind.compiled bytes options with
      | .error rejection => (.rejected rejection, store)
      | .ok code => (.compiled store.nextHandle, (store.addCode code).2) := by
  rw [Backend.compileInto, compiled]
  cases CompileOptions.ofBits? options with
  | none => rfl
  | some options =>
      dsimp only
      cases kind.backend.compile bytes options <;> rfl

/-- The engine of a kind, with or without keeping what it builds. -/
def EngineKind.shared (kind : EngineKind) (isCaching : Bool) : StoreEngine SharedState kind where
  engine := kind.sharedEngine isCaching
  store := kind.sharedStore isCaching
  actsLike := kind.sharedEngine_actsLike isCaching

namespace StoreEngine

variable {σ : Type} {kind : EngineKind} (base : StoreEngine σ kind)

/-- The code that a handle stands for. -/
def code? (state : σ) (handle : Handle) : Option kind.Code :=
  (base.store state).code? handle

/-- The handle that is given out next. -/
def next (state : σ) : Handle :=
  (base.store state).nextHandle

/-- A match call reports on the code of its handle, and the code stays. -/
theorem exchange_spec (request : Request) (state : σ) :
    ((base.engine.exchange request).run state).1 =
        kind.backend.report (base.code? state request.code) request.subject request.start
          request.options ∧
      base.code? ((base.engine.exchange request).run state).2 = base.code? state ∧
      base.next state ≤ base.next ((base.engine.exchange request).run state).2 := by
  obtain ⟨sameReport, sameStore⟩ := (base.actsLike.exchange request).run_eq state
  obtain ⟨report, sameCodes⟩ := kind.backend.exchange_toEngine request (base.store state)
  refine ⟨sameReport.trans report, funext fun handle => ?_, ?_⟩
  · rw [code?, sameStore, Store.code?, sameCodes]
    rfl
  · rw [next, next, sameStore]
    exact Rises.exchange kind.backend request (base.store state)

/-- Compiling leaves the store as it is, or adds code under the next handle. -/
theorem compile_spec (bytes : Bytes) (options : Int) (state : σ) :
    match kind.compiled bytes options with
    | .error rejection =>
        ((base.engine.compile bytes options).run state).1 = .rejected rejection ∧
          base.store ((base.engine.compile bytes options).run state).2 = base.store state
    | .ok code =>
        ((base.engine.compile bytes options).run state).1 = .compiled (base.next state) ∧
          base.store ((base.engine.compile bytes options).run state).2 =
            ((base.store state).addCode code).2 := by
  have reads := (base.actsLike.compile bytes options).run_eq state
  have compiles : (kind.backend.toEngine.compile bytes options).run (base.store state) = _ :=
    kind.compileInto_eq bytes options (base.store state)
  rw [compiles] at reads
  cases compiled : kind.compiled bytes options <;>
  · rw [compiled] at reads
    exact reads

theorem release_spec (code : Handle) (state : σ) :
    base.store ((base.engine.release code).run state).2 = (base.store state).dropCode code :=
  ((base.actsLike.release code).run_eq state).2

theorem captureCount_spec (code : Handle) (state : σ) :
    ((base.engine.captureCount code).run state).1 =
        ((base.code? state code).map kind.backend.captureCount).getD 0 ∧
      base.store ((base.engine.captureCount code).run state).2 = base.store state :=
  (base.actsLike.captureCount code).run_eq state

theorem nameTable_spec (code : Handle) (state : σ) :
    ((base.engine.nameTable code).run state).1 =
        ((base.code? state code).map kind.backend.names).getD [] ∧
      base.store ((base.engine.nameTable code).run state).2 = base.store state :=
  (base.actsLike.nameTable code).run_eq state

/-! ## Handles whose code stays -/

/-- A later state in which some handles stand for what they stood for. -/
structure Guards (owned : Handle → Prop) (before after : σ) : Prop where
  next_le : base.next before ≤ base.next after
  code?_eq : ∀ handle, owned handle → base.code? after handle = base.code? before handle

variable {base} {owned : Handle → Prop} {before between after : σ}

namespace Guards

theorem of_store_eq (same : base.store after = base.store before) :
    base.Guards owned before after where
  next_le := by rw [next, next, same]
  code?_eq handle _ := by rw [code?, code?, same]

theorem trans (first : base.Guards owned before between)
    (second : base.Guards owned between after) : base.Guards owned before after where
  next_le := Int.le_trans first.next_le second.next_le
  code?_eq handle isOwned :=
    (second.code?_eq handle isOwned).trans (first.code?_eq handle isOwned)

theorem mono {fewer : Handle → Prop} (guards : base.Guards owned before after)
    (implied : ∀ handle, fewer handle → owned handle) : base.Guards fewer before after :=
  ⟨guards.next_le, fun handle isOwned => guards.code?_eq handle (implied handle isOwned)⟩

/-- New code takes the place of no other. -/
theorem addCode {code : kind.Code}
    (added : base.store after = ((base.store before).addCode code).2) :
    base.Guards (· < base.next before) before after where
  next_le := by
    rw [next, next, added]
    exact Int.le_add_one (Int.le_refl _)
  code?_eq handle isBelow := by
    have isOther : (handle == base.next before) = false :=
      beq_eq_false_iff_ne.mpr (Int.ne_of_lt isBelow)
    rw [code?, added]
    change List.lookup handle ((base.next before, code) :: (base.store before).codes) = _
    rw [List.lookup_cons, isOther]
    rfl

/-- Code that is dropped takes no other with it. -/
theorem dropCode {code : Handle} (dropped : base.store after = (base.store before).dropCode code)
    (unowned : ¬owned code) : base.Guards owned before after where
  next_le := by
    rw [next, next, dropped]
    exact Int.le_refl _
  code?_eq handle isOwned := by
    rw [code?, dropped]
    have isOther : code ≠ handle := by
      rintro rfl
      exact unowned isOwned
    exact lookup_filter_ne isOther _

/-- States that guard some handles, one after the other. -/
theorem persists (owned : Handle → Prop) : Persists (base.Guards owned) :=
  ⟨fun _ => .of_store_eq rfl, fun first second => first.trans second⟩

/-- Match calls change no code at all. -/
theorem keptByCalls (owned : Handle → Prop) :
    KeptByCalls (base.Guards owned) fun pattern => pattern.adapter.engine = base.engine where
  toPersists := persists owned
  exchange := by
    intro pattern isEngine request state
    rw [isEngine]
    obtain ⟨-, sameCode, next_le⟩ := base.exchange_spec request state
    exact ⟨next_le, fun handle _ => congrFun sameCode handle⟩
  makeStack := by
    intro pattern isEngine state
    rw [isEngine, Engine.makeStack, base.actsLike.createStack]
    exact .of_store_eq rfl
  dropStack := by
    intro pattern isEngine stack state
    rw [isEngine, Engine.dropStack, base.actsLike.releaseStack]
    exact .of_store_eq rfl

end Guards

end StoreEngine

end RegexMatching
