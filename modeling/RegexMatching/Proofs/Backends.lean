import RegexMatching.Engine.Pool
import RegexMatching.Proofs.Answers

/-!
# Engines made from backends

An engine made from a backend keeps code and match data in a store.  A match call on it
changes no code, and what it reports depends on the code of its handle only, so such an
engine answers by a function for as long as the code stays.
-/

namespace RegexMatching

/-! ## Engines on a part of a state -/

/-- A part of a state that can be read and replaced. -/
structure IsPart {σ τ : Type} (get : σ → τ) (set : τ → σ → σ) : Prop where
  get_set : ∀ part state, get (set part state) = part
  set_set : ∀ part other state, set part (set other state) = set part state
  set_get : ∀ state, set (get state) state = state

/-- An action on a part of a state. -/
def liftPart {σ τ α : Type} (get : σ → τ) (set : τ → σ → σ) (action : StateM τ α) : StateM σ α :=
  fun state => ((action.run (get state)).1, set (action.run (get state)).2 state)

section LiftPart

variable {σ τ α β : Type} {get : σ → τ} {set : τ → σ → σ}

theorem liftPart_bind (isPart : IsPart get set) (action : StateM τ α) (next : α → StateM τ β) :
    (liftPart get set action >>= fun value => liftPart get set (next value)) =
      liftPart get set (action >>= next) := by
  funext state
  change (((next (action (get state)).1) (get (set (action (get state)).2 state))).1,
    set ((next (action (get state)).1) (get (set (action (get state)).2 state))).2
      (set (action (get state)).2 state)) = _
  rw [isPart.get_set, isPart.set_set]
  rfl

theorem liftPart_pure (isPart : IsPart get set) (value : α) :
    liftPart get set (pure value) = pure value :=
  funext fun state => Prod.ext rfl (isPart.set_get state)

end LiftPart

namespace Engine

variable {σ τ : Type} {get : σ → τ} {set : τ → σ → σ}

theorem readReport_onPart (isPart : IsPart get set) (engine : Engine τ) (code data : Handle)
    (result : Int) :
    (engine.onPart get set).readReport code data result =
      liftPart get set (engine.readReport code data result) := by
  unfold readReport
  split
  · rw [← liftPart_bind isPart]
    refine bind_congr fun groupCount => ?_
    rw [← liftPart_bind isPart]
    refine bind_congr fun offsets => ?_
    rw [← liftPart_bind isPart]
    exact bind_congr fun mark => (liftPart_pure isPart _).symm
  · exact (liftPart_pure isPart _).symm

/-- A match call on a part of a state leaves the rest alone. -/
theorem exchange_onPart (isPart : IsPart get set) (engine : Engine τ) (request : Request) :
    (engine.onPart get set).exchange request = liftPart get set (engine.exchange request) := by
  unfold exchange
  rw [← liftPart_bind isPart]
  refine bind_congr fun data => ?_
  rw [← liftPart_bind isPart]
  refine bind_congr fun outcome => ?_
  have ending : ∀ report : Except Fault Report,
      (do (engine.onPart get set).freeMatchData data; return report) =
        liftPart get set (do engine.freeMatchData data; return report) := by
    intro report
    rw [← liftPart_bind isPart]
    exact bind_congr fun _ => (liftPart_pure isPart _).symm
  cases outcome with
  | error fault => exact ending (.error fault)
  | ok result =>
      have read : Except.ok (ε := Fault) <$> (engine.onPart get set).readReport request.code data
          result = liftPart get set (Except.ok <$> engine.readReport request.code data result) := by
        rw [readReport_onPart isPart]
        rfl
      dsimp only
      rw [read, ← liftPart_bind isPart]
      exact bind_congr ending

end Engine

/-! ## Match calls on a store -/

/-- The report of an answer, by the number of groups. -/
def Answer.toReport (groupCount : Nat) : Answer → Report
  | .code result => { result }
  | .captures count offsets => { result := count, groupCount, offsets }

namespace Backend

variable {κ : Type}

/-- What a match call reports on stored code, if its handle has any. -/
def report (backend : Backend κ) (code? : Option κ) (subject : Bytes) (start options : Int) :
    Except Fault Report :=
  match code? with
  | none => .ok { result := ResultCode.badHandle }
  | some code =>
      (backend.answer code (backend.captureCount code + 1) subject start options).map
        (Answer.toReport (backend.captureCount code))

/-- An answer without captures is no match. -/
theorem code_neg_of_answer {backend : Backend κ} {code : κ} {slots : Nat} {subject : Bytes}
    {start options result : Int}
    (answered : backend.answer code slots subject start options = .ok (.code result)) :
    result < 0 := by
  unfold answer at answered
  split at answered
  · cases answered
    decide
  split at answered
  · cases answered
    decide
  split at answered
  · cases answered
    decide
  dsimp only at answered
  split at answered
  · cases answered
    decide
  · rename_i text _ _ _ _ position _
    cases found : backend.search code _ position _ with
    | error fault =>
        rw [found] at answered
        cases answered
    | ok spans? =>
        rw [found] at answered
        cases spans? with
        | none =>
            cases answered
            decide
        | some spans => cases answered

/-- A match call on match data at hand answers, and leaves an answer with captures there. -/
theorem run_addMatchData (backend : Backend κ) {code : κ} {request : Request} {store : Store κ}
    (stored : store.code? request.code = some code) :
    let made := store.addMatchData (List.replicate ((backend.captureCount code + 1) * 2) (-1))
    backend.run request.code request.subject request.start request.options made.1 made.2 =
      match backend.answer code (backend.captureCount code + 1) request.subject request.start
          request.options with
      | .error fault => (.error fault, made.2)
      | .ok (.code result) => (.ok result, made.2)
      | .ok (.captures count offsets) => (.ok count, made.2.setMatchData made.1 offsets) := by
  intro made
  have storedStill : made.2.code? request.code = some code := stored
  have atHand : made.2.matchData? made.1 =
      some (List.replicate ((backend.captureCount code + 1) * 2) (-1)) :=
    List.lookup_cons_self
  rw [run, storedStill, atHand]
  dsimp only
  rewrite [List.length_replicate, Nat.mul_div_cancel _ (Nat.succ_pos 1)]
  cases backend.answer code (backend.captureCount code + 1) request.subject request.start
    request.options with
  | error fault => rfl
  | ok answer => cases answer <;> rfl

/-- What is read of a match is what the store holds. -/
theorem readReport_toEngine (backend : Backend κ) (code data : Handle) {result : Int}
    (isMatch : 0 ≤ result) (store : Store κ) :
    (backend.toEngine.readReport code data result).run store =
      ({ result
         groupCount := ((store.code? code).map backend.captureCount).getD 0
         offsets := (store.matchData? data).getD [] }, store) := by
  rw [Engine.readReport, if_pos isMatch]
  rfl

theorem matchData?_setMatchData (store : Store κ) (offsets offsets' : List Int) :
    ((store.addMatchData offsets).2.setMatchData (store.addMatchData offsets).1
      offsets').matchData? (store.addMatchData offsets).1 = some offsets' := by
  simp [Store.matchData?, Store.setMatchData, Store.addMatchData]

/-- A match call makes its match data, answers and frees the data, and the code stays. -/
theorem exchange_toEngine (backend : Backend κ) (request : Request) (store : Store κ) :
    ((backend.toEngine.exchange request).run store).1 =
        backend.report (store.code? request.code) request.subject request.start
          request.options ∧
      ((backend.toEngine.exchange request).run store).2.codes = store.codes := by
  rw [Engine.exchange_run]
  cases stored : store.code? request.code with
  | none =>
      have made : (backend.toEngine.createMatchData request.code).run store = (0, store) := by
        change backend.createMatchData request.code store = _
        rw [createMatchData, stored]
      have ran : (backend.toEngine.run request.code request.subject request.start request.options 0
          request.stack).run.run store = (.ok ResultCode.badHandle, store) := by
        change backend.run _ _ _ _ _ store = _
        rw [run, stored]
      simp only [made, ran,
        Engine.readReport_of_neg _ _ _ (show ResultCode.badHandle < 0 by decide)]
      exact ⟨rfl, rfl⟩
  | some code =>
      have made : (backend.toEngine.createMatchData request.code).run store =
          store.addMatchData (List.replicate ((backend.captureCount code + 1) * 2) (-1)) := by
        change backend.createMatchData request.code store = _
        rw [createMatchData, stored]
      have ran : (backend.toEngine.run request.code request.subject request.start request.options
          (store.addMatchData _).1 request.stack).run.run (store.addMatchData _).2 = _ :=
        backend.run_addMatchData stored
      simp only [made, ran, report]
      cases answered : backend.answer code (backend.captureCount code + 1) request.subject
          request.start request.options with
      | error fault => exact ⟨rfl, rfl⟩
      | ok answer =>
          cases answer with
          | code result =>
              simp only [Engine.readReport_of_neg _ _ _ (code_neg_of_answer answered)]
              exact ⟨rfl, rfl⟩
          | captures count offsets =>
              simp only [readReport_toEngine backend _ _ (Int.natCast_nonneg count),
                matchData?_setMatchData]
              refine ⟨?_, rfl⟩
              change Except.ok (Report.mk count (((store.code? request.code).map _).getD 0) _ _) = _
              rw [stored]
              rfl

/-- The answers to match calls where handles stand for the given code. -/
def answering (backend : Backend κ) (code? : Handle → Option κ) : MatchFunction :=
  fun handle => backend.report (code? handle)

end Backend

/-! ## The engines on offer -/

namespace EngineKind

/-- The code of an engine. -/
def Code : EngineKind → Type
  | backtracking => BacktrackCode
  | linear => LinearCode

/-- How an engine matches. -/
def backend : (kind : EngineKind) → Backend kind.Code
  | backtracking => Backtracking.backend
  | linear => LinearTime.backend

/-- What an engine owns. -/
def store : (kind : EngineKind) → EngineState → Store kind.Code
  | backtracking => EngineState.backtracking
  | linear => EngineState.linear

/-- Replace what an engine owns. -/
def setStore : (kind : EngineKind) → Store kind.Code → EngineState → EngineState
  | backtracking => fun part state => { state with backtracking := part }
  | linear => fun part state => { state with linear := part }

/-- The engine of a kind. -/
abbrev engine (kind : EngineKind) : Engine EngineState :=
  (EngineChoice.known kind).engine

theorem isPart_store (kind : EngineKind) : IsPart kind.store kind.setStore := by
  cases kind <;> exact ⟨fun _ _ => rfl, fun _ _ _ => rfl, fun _ => rfl⟩

theorem engine_eq (kind : EngineKind) :
    kind.engine = kind.backend.toEngine.onPart kind.store kind.setStore := by
  cases kind <;> rfl

/-- The code that a handle stands for. -/
def code? (kind : EngineKind) (engines : EngineState) (handle : Handle) : Option kind.Code :=
  (kind.store engines).code? handle

/-- An engine on offer answers by the code that its handles stand for. -/
theorem answersBy (kind : EngineKind) (code? : Handle → Option kind.Code) :
    kind.engine.AnswersBy (fun engines => kind.code? engines = code?)
      (kind.backend.answering code?) where
  report_eq := by
    rintro request engines rfl
    rw [kind.engine_eq, Engine.exchange_onPart kind.isPart_store]
    exact (kind.backend.exchange_toEngine request (kind.store engines)).1
  exchange_usable := by
    rintro request engines rfl
    rw [kind.engine_eq, Engine.exchange_onPart kind.isPart_store]
    funext handle
    change (kind.store (kind.setStore _ engines)).codes.lookup handle = _
    rw [kind.isPart_store.get_set, (kind.backend.exchange_toEngine request (kind.store engines)).2]
    rfl

end EngineKind

end RegexMatching
