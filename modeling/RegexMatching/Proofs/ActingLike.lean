import RegexMatching.Engine.Caching
import RegexMatching.Proofs.Backends

/-!
# Engines that act like simpler ones

An engine acts like a simpler one if there is a reading of its state under which all of its
operations are those of the simpler one.  An engine on a part of a state acts like the engine, and
an engine that keeps what it builds acts like one that builds everything anew.
-/

namespace RegexMatching

variable {σ τ υ α β : Type}

/-- An action whose value and effect can be read off a simpler action on what is read of the
state. -/
def ReadsAs (read : σ → τ) (action : StateM σ α) (simple : StateM τ α) : Prop :=
  ∀ state, simple.run (read state) = ((action.run state).1, read (action.run state).2)

namespace ReadsAs

variable {read : σ → τ}

/-- What an action comes to is told by the simpler action, and so is what is read afterwards. -/
theorem run_eq {action : StateM σ α} {simple : StateM τ α} (reads : ReadsAs read action simple)
    (state : σ) :
    (action.run state).1 = (simple.run (read state)).1 ∧
      read (action.run state).2 = (simple.run (read state)).2 := by
  rw [reads state]
  exact ⟨rfl, rfl⟩

theorem pure (value : α) : ReadsAs read (pure value) (pure value) :=
  fun _ => rfl

theorem bind {action : StateM σ α} {simple : StateM τ α} {next : α → StateM σ β}
    {simpleNext : α → StateM τ β} (first : ReadsAs read action simple)
    (second : ∀ value, ReadsAs read (next value) (simpleNext value)) :
    ReadsAs read (action >>= next) (simple >>= simpleNext) := by
  intro state
  rw [StateT.run_bind, first state]
  exact second (action.run state).1 (action.run state).2

theorem map {action : StateM σ α} {simple : StateM τ α} (value : α → β)
    (reads : ReadsAs read action simple) :
    ReadsAs read (value <$> action) (value <$> simple) := by
  intro state
  rw [StateT.run_map, reads state, StateT.run_map]
  rfl

end ReadsAs

/-- An engine whose operations are those of a simpler one, as far as what is read of its state is
concerned. -/
structure Engine.ActsLike (engine : Engine σ) (simple : Engine τ) (read : σ → τ) : Prop where
  name : engine.name = simple.name
  capabilities : engine.capabilities = simple.capabilities
  errorMessage : engine.errorMessage = simple.errorMessage
  createStack : engine.createStack = none
  releaseStack : engine.releaseStack = none
  compile : ∀ pattern options,
    ReadsAs read (engine.compile pattern options) (simple.compile pattern options)
  captureCount : ∀ code, ReadsAs read (engine.captureCount code) (simple.captureCount code)
  nameTable : ∀ code, ReadsAs read (engine.nameTable code) (simple.nameTable code)
  createMatchData : ∀ code,
    ReadsAs read (engine.createMatchData code) (simple.createMatchData code)
  captureOffsets : ∀ data, ReadsAs read (engine.captureOffsets data) (simple.captureOffsets data)
  mark : ∀ data, ReadsAs read (engine.mark data) (simple.mark data)
  freeMatchData : ∀ data, ReadsAs read (engine.freeMatchData data) (simple.freeMatchData data)
  run : ∀ code subject start options data stack,
    ReadsAs read (engine.run code subject start options data stack).run
      (simple.run code subject start options data stack).run
  release : ∀ code, ReadsAs read (engine.release code) (simple.release code)

namespace Engine.ActsLike

variable {engine : Engine σ} {simple : Engine τ} {read : σ → τ}

theorem readReport (like : engine.ActsLike simple read) (code data : Handle) (result : Int) :
    ReadsAs read (engine.readReport code data result) (simple.readReport code data result) := by
  unfold Engine.readReport
  split
  · exact (like.captureCount code).bind fun _ => (like.captureOffsets data).bind fun _ =>
      (like.mark data).bind fun _ => .pure _
  · exact .pure _

/-- Match calls are read like match calls. -/
theorem exchange (like : engine.ActsLike simple read) (request : Request) :
    ReadsAs read (engine.exchange request) (simple.exchange request) := by
  refine (like.createMatchData request.code).bind fun data => ?_
  refine (like.run request.code request.subject request.start request.options data
    request.stack).bind fun outcome => ?_
  cases outcome with
  | error fault => exact (like.freeMatchData data).bind fun _ => .pure _
  | ok result =>
      exact ((like.readReport request.code data result).map Except.ok).bind fun _ =>
        (like.freeMatchData data).bind fun _ => .pure _

/-- On a part of a state an engine acts like on the part alone. -/
theorem onPart (like : engine.ActsLike simple read) (get : υ → σ) (set : σ → υ → υ)
    (get_set : ∀ part state, get (set part state) = part) :
    (engine.onPart get set).ActsLike simple fun state => read (get state) := by
  have lifted : ∀ {α : Type} {action : StateM σ α} {simple : StateM τ α},
      ReadsAs read action simple →
      ReadsAs (fun state => read (get state)) (liftPart get set action) simple := by
    intro α action simple reads state
    rw [reads (get state)]
    exact Prod.ext rfl (congrArg read (get_set _ state).symm)
  exact
    { name := like.name
      capabilities := like.capabilities
      errorMessage := like.errorMessage
      createStack := by rw [Engine.onPart, like.createStack]; rfl
      releaseStack := by rw [Engine.onPart, like.releaseStack]; rfl
      compile := fun pattern options => lifted (like.compile pattern options)
      captureCount := fun code => lifted (like.captureCount code)
      nameTable := fun code => lifted (like.nameTable code)
      createMatchData := fun code => lifted (like.createMatchData code)
      captureOffsets := fun data => lifted (like.captureOffsets data)
      mark := fun data => lifted (like.mark data)
      freeMatchData := fun data => lifted (like.freeMatchData data)
      run := fun code subject start options data stack =>
        lifted (like.run code subject start options data stack)
      release := fun code => lifted (like.release code) }

end Engine.ActsLike

/-- An engine made from a backend acts like itself. -/
theorem Backend.actsLike {κ : Type} (backend : Backend κ) :
    backend.toEngine.ActsLike backend.toEngine id where
  name := rfl
  capabilities := rfl
  errorMessage := rfl
  createStack := rfl
  releaseStack := rfl
  compile _ _ _ := rfl
  captureCount _ _ := rfl
  nameTable _ _ := rfl
  createMatchData _ _ := rfl
  captureOffsets _ _ := rfl
  mark _ _ := rfl
  freeMatchData _ _ := rfl
  run _ _ _ _ _ _ _ := rfl
  release _ _ := rfl

end RegexMatching
