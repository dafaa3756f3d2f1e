import RegexMatching.Proofs.Reachable

/-!
# A ledger of handles

An audited engine acts as it would unaudited, and every handle that it hands out or takes back
is entered in a ledger.  Searching, whatever an engine answers and however it fails, frees the
match data that it makes and leaves all code with its owner.
-/

namespace RegexMatching

/-- The handles among some numbers: zero is none. -/
def handlesAmong (numbers : List Handle) : List Handle :=
  numbers.filter (· != 0)

theorem mem_handlesAmong {handle : Handle} {numbers : List Handle} :
    handle ∈ handlesAmong numbers ↔ handle ∈ numbers ∧ handle ≠ 0 := by
  rw [handlesAmong, List.mem_filter, bne_iff_ne]

theorem handlesAmong_cons (number : Handle) (rest : List Handle) :
    handlesAmong (number :: rest) =
      if number = 0 then handlesAmong rest else number :: handlesAmong rest := by
  by_cases isZero : number = 0
  · rw [if_pos isZero, isZero]
    rfl
  · rw [if_neg isZero]
    exact List.filter_cons_of_pos (bne_iff_ne.mpr isZero)

theorem handlesAmong_append (numbers numbers' : List Handle) :
    handlesAmong (numbers ++ numbers') = handlesAmong numbers ++ handlesAmong numbers' :=
  List.filter_append ..

/-- The handles that engines handed out and took back, the latest last. -/
structure Ledger where
  /-- Handles of code that was compiled. -/
  issued : List Handle := []
  /-- Code that engines were told to release. -/
  released : List Handle := []
  /-- Match data that was made. -/
  made : List Handle := []
  /-- Match data that engines were told to free. -/
  freed : List Handle := []
deriving DecidableEq, Repr

namespace Ledger

/-- Enter what compiling came to. -/
def compile (ledger : Ledger) : CompileResult → Ledger
  | .compiled handle => { ledger with issued := ledger.issued ++ handlesAmong [handle] }
  | .rejected _ => ledger

def release (ledger : Ledger) (code : Handle) : Ledger :=
  { ledger with released := ledger.released ++ [code] }

def make (ledger : Ledger) (data : Handle) : Ledger :=
  { ledger with made := ledger.made ++ [data] }

def free (ledger : Ledger) (data : Handle) : Ledger :=
  { ledger with freed := ledger.freed ++ [data] }

/-! ## Movements -/

/-- From one moment to a later one, code with the handles `taken` was compiled and code with the
handles `given`, none of which is zero, was released, and the match data made in between is the
match data freed. -/
structure Moves (before after : Ledger) (taken given : List Handle) : Prop where
  issued : after.issued = before.issued ++ taken
  released : after.released = before.released ++ given
  areHandles : 0 ∉ given
  matchData : ∃ used, after.made = before.made ++ used ∧ after.freed = before.freed ++ used

/-- No code was compiled and none was released. -/
abbrev Idles (before after : Ledger) : Prop :=
  Moves before after [] []

variable {before between after : Ledger}

theorem Idles.refl (ledger : Ledger) : ledger.Idles ledger :=
  ⟨(List.append_nil _).symm, (List.append_nil _).symm, List.not_mem_nil,
    [], (List.append_nil _).symm, (List.append_nil _).symm⟩

theorem moves_compile (ledger : Ledger) (handle : Handle) :
    ledger.Moves (ledger.compile (.compiled handle)) (handlesAmong [handle]) [] :=
  ⟨rfl, (List.append_nil _).symm, List.not_mem_nil,
    [], (List.append_nil _).symm, (List.append_nil _).symm⟩

theorem moves_release (ledger : Ledger) {code : Handle} (isHandle : code ≠ 0) :
    ledger.Moves (ledger.release code) [] [code] :=
  ⟨(List.append_nil _).symm, rfl, fun mem => isHandle (List.mem_singleton.mp mem).symm,
    [], (List.append_nil _).symm, (List.append_nil _).symm⟩

theorem idles_make_free (ledger : Ledger) (data : Handle) :
    ledger.Idles ((ledger.make data).free data) :=
  ⟨(List.append_nil _).symm, (List.append_nil _).symm, List.not_mem_nil, [data], rfl, rfl⟩

theorem Moves.trans {taken given taken' given' : List Handle}
    (moves : Moves before between taken given) (moves' : Moves between after taken' given') :
    Moves before after (taken ++ taken') (given ++ given') where
  issued := by rw [moves'.issued, moves.issued, List.append_assoc]
  released := by rw [moves'.released, moves.released, List.append_assoc]
  areHandles := fun mem =>
    (List.mem_append.mp mem).elim moves.areHandles moves'.areHandles
  matchData := by
    obtain ⟨used, made, freed⟩ := moves.matchData
    obtain ⟨used', made', freed'⟩ := moves'.matchData
    refine ⟨used ++ used', ?_, ?_⟩
    · rw [made', made, List.append_assoc]
    · rw [freed', freed, List.append_assoc]

theorem Idles.trans (idles : Idles before between) (idles' : Idles between after) :
    Idles before after :=
  Moves.trans idles idles'

theorem Idles.moves {taken given : List Handle} (idles : Idles before between)
    (moves : Moves between after taken given) : Moves before after taken given :=
  Moves.trans idles moves

theorem Moves.idles {taken given : List Handle} (moves : Moves before between taken given)
    (idles : Idles between after) : Moves before after taken given := by
  simpa only [List.append_nil] using moves.trans idles

end Ledger

/-! ## Audited engines -/

/-- Engines and the ledger of their handles. -/
structure Audited (σ : Type) where
  engines : σ
  ledger : Ledger := {}

/-- Let an action be entered in the ledger. -/
def Audited.entering {σ α : Type} (action : StateM σ α) (enter : Ledger → α → Ledger) :
    StateM (Audited σ) α := fun audited =>
  let (value, engines) := action.run audited.engines
  (value, { engines, ledger := enter audited.ledger value })

namespace Engine

variable {σ : Type}

/-- An engine whose handles are entered in a ledger. -/
def audited (engine : Engine σ) : Engine (Audited σ) :=
  { engine.onPart Audited.engines fun engines audited => { audited with engines } with
    compile := fun pattern options =>
      Audited.entering (engine.compile pattern options) Ledger.compile
    createMatchData := fun code =>
      Audited.entering (engine.createMatchData code) Ledger.make
    freeMatchData := fun data =>
      Audited.entering (engine.freeMatchData data) fun ledger _ => ledger.free data
    release := fun code =>
      Audited.entering (engine.release code) fun ledger _ => ledger.release code }

/-- Reading a report moves no handle. -/
theorem audited_readReport_ledger (engine : Engine σ) (code data : Handle) (result : Int)
    (audited : Audited σ) :
    ((engine.audited.readReport code data result).run audited).2.ledger = audited.ledger := by
  unfold readReport
  split <;> rfl

/-- A match call makes match data and frees it, however the call ends. -/
theorem audited_exchange_idles (engine : Engine σ) (request : Request) (audited : Audited σ) :
    audited.ledger.Idles ((engine.audited.exchange request).run audited).2.ledger := by
  have made : (engine.audited.createMatchData request.code).run audited =
      (((engine.createMatchData request.code).run audited.engines).1,
        { engines := ((engine.createMatchData request.code).run audited.engines).2
          ledger := audited.ledger.make
            ((engine.createMatchData request.code).run audited.engines).1 }) := rfl
  rw [exchange_run, made]
  dsimp only
  generalize (engine.createMatchData request.code).run audited.engines = data
  have ran : ((engine.audited.run request.code request.subject request.start request.options
      data.1 request.stack).run.run ⟨data.2, audited.ledger.make data.1⟩).2.ledger =
        audited.ledger.make data.1 := rfl
  rcases ended : (engine.audited.run request.code request.subject request.start request.options
    data.1 request.stack).run.run ⟨data.2, audited.ledger.make data.1⟩ with ⟨outcome, after⟩
  rw [ended] at ran
  -- Whatever the engine did before, freeing the data is entered last.
  have freed : ∀ last : Audited σ, last.ledger = audited.ledger.make data.1 →
      audited.ledger.Idles ((engine.audited.freeMatchData data.1).run last).2.ledger := by
    intro last same
    change audited.ledger.Idles (last.ledger.free data.1)
    rw [same]
    exact audited.ledger.idles_make_free data.1
  cases outcome with
  | error fault => exact freed after ran
  | ok result =>
      exact freed _ ((engine.audited_readReport_ledger request.code data.1 result after).trans ran)

/-- A stack is not in the ledger. -/
theorem audited_makeStack_run (engine : Engine σ) (audited : Audited σ) :
    engine.audited.makeStack.run audited =
      ((engine.makeStack.run audited.engines).1,
        { audited with engines := (engine.makeStack.run audited.engines).2 }) := by
  unfold makeStack
  rw [show engine.audited.createStack = engine.createStack.map fun create audited =>
    ((create.run audited.engines).1, { audited with engines := (create.run audited.engines).2 })
    from rfl, show engine.audited.capabilities = engine.capabilities from rfl]
  cases engine.createStack with
  | none => rfl
  | some create =>
      dsimp only [Option.map]
      split <;> rfl

theorem audited_dropStack_run (engine : Engine σ) (stack : Handle) (audited : Audited σ) :
    (engine.audited.dropStack stack).run audited =
      ((), { audited with engines := ((engine.dropStack stack).run audited.engines).2 }) := by
  unfold dropStack
  rw [show engine.audited.releaseStack = engine.releaseStack.map fun release stack audited =>
    (((release stack).run audited.engines).1,
      { audited with engines := ((release stack).run audited.engines).2 }) from rfl]
  cases engine.releaseStack with
  | none => rfl
  | some release =>
      dsimp only [Option.map]
      split <;> rfl

end Engine

/-- A pattern of some audited engine. -/
def Pattern.IsAudited {σ : Type} (pattern : Pattern (Audited σ)) : Prop :=
  ∃ engine : Engine σ, pattern.adapter.engine = engine.audited

end RegexMatching
