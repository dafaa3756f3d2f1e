import RegexMatching.Proofs.Exchange

/-!
# The custody of execution stacks

A tracked engine acts as it would untracked, and writes down every execution stack that it makes or
takes back and every one that a match call comes with.  Whoever has stacks in custody asks for one
only while holding none, gives back the one that is held, and matches with that one.
-/

namespace RegexMatching

/-- An execution stack: the number of the engine that made it, and its handle there. -/
structure ExecutionStack where
  engine : Nat
  handle : Handle
deriving DecidableEq, Repr

/-- The stack of an engine that a handle stands for.  Zero stands for none. -/
def stackOf? (engine : Nat) (handle : Handle) : Option ExecutionStack :=
  if handle = 0 then none else some ⟨engine, handle⟩

@[simp]
theorem stackOf?_zero (engine : Nat) : stackOf? engine 0 = none :=
  rfl

/-- What happens to execution stacks. -/
inductive StackEvent where
  | made (stack : ExecutionStack)
  | dropped (stack : ExecutionStack)
  /-- An engine got a match call with a handle. -/
  | used (engine : Nat) (handle : Handle)
deriving DecidableEq, Repr

/-- The stacks that were made, the latest last. -/
def stacksMade (events : List StackEvent) : List ExecutionStack :=
  events.filterMap fun
    | .made stack => some stack
    | _ => none

/-- The stacks that were taken back, the latest last. -/
def stacksDropped (events : List StackEvent) : List ExecutionStack :=
  events.filterMap fun
    | .dropped stack => some stack
    | _ => none

/-! ## Custody -/

/-- Events that are in order for whoever holds one stack or none, and what is held afterwards. -/
inductive Custody : Option ExecutionStack → List StackEvent → Option ExecutionStack → Prop
  | nil (held : Option ExecutionStack) : Custody held [] held
  | made {stack : ExecutionStack} {events : List StackEvent} {last : Option ExecutionStack}
      (rest : Custody (some stack) events last) : Custody none (.made stack :: events) last
  | dropped {stack : ExecutionStack} {events : List StackEvent} {last : Option ExecutionStack}
      (rest : Custody none events last) : Custody (some stack) (.dropped stack :: events) last
  | used {held last : Option ExecutionStack} {engine : Nat} {handle : Handle}
      {events : List StackEvent} (isHeld : held = stackOf? engine handle)
      (rest : Custody held events last) : Custody held (.used engine handle :: events) last

namespace Custody

variable {held between last : Option ExecutionStack} {events events' : List StackEvent}

theorem append (first : Custody held events between) (second : Custody between events' last) :
    Custody held (events ++ events') last := by
  induction first with
  | nil _ => exact second
  | made _ ih => exact .made (ih second)
  | dropped _ ih => exact .dropped (ih second)
  | used isHeld _ ih => exact .used isHeld (ih second)

/-- In the middle of events that are in order something is held, too. -/
theorem split (custody : Custody held (events ++ events') last) :
    ∃ between, Custody held events between ∧ Custody between events' last := by
  induction events generalizing held with
  | nil => exact ⟨held, .nil held, custody⟩
  | cons event events ih =>
      cases custody with
      | made rest =>
          obtain ⟨between, first, second⟩ := ih rest
          exact ⟨between, .made first, second⟩
      | dropped rest =>
          obtain ⟨between, first, second⟩ := ih rest
          exact ⟨between, .dropped first, second⟩
      | used isHeld rest =>
          obtain ⟨between, first, second⟩ := ih rest
          exact ⟨between, .used isHeld first, second⟩

/-- The stacks that were there and those made are the stacks given back, in the same order, and the
stack that is held. -/
theorem balance (custody : Custody held events last) :
    held.toList ++ stacksMade events = stacksDropped events ++ last.toList := by
  induction custody with
  | nil held => exact List.append_nil _
  | made _ ih => exact ih
  | dropped _ ih => exact congrArg _ ih
  | used _ _ ih => exact ih

/-- What a match call comes with is held by then. -/
theorem eq_of_used {engine : Nat} {handle : Handle}
    (custody : Custody held (.used engine handle :: events) last) :
    held = stackOf? engine handle := by
  cases custody with
  | used isHeld _ => exact isHeld

theorem giveBack (held : Option ExecutionStack) :
    Custody held (held.toList.map .dropped) none := by
  cases held with
  | none => exact .nil none
  | some stack => exact .dropped (.nil none)

theorem take (taken : Option ExecutionStack) : Custody none (taken.toList.map .made) taken := by
  cases taken with
  | none => exact .nil none
  | some stack => exact .made (.nil (some stack))

end Custody

/-- At any moment the stacks made so far are those given back, each to the engine that made it, and
one more at most, with which the engine is asked for matches. -/
structure StacksInOrder (events : List StackEvent) : Prop where
  dropped : ∀ {earlier}, earlier <+: events →
    ∃ held : Option ExecutionStack, stacksMade earlier = stacksDropped earlier ++ held.toList
  used : ∀ {earlier engine handle}, earlier ++ [.used engine handle] <+: events →
    stacksMade earlier = stacksDropped earlier ++ (stackOf? engine handle).toList

theorem Custody.inOrder {events : List StackEvent} {last : Option ExecutionStack}
    (custody : Custody none events last) : StacksInOrder events where
  dropped := by
    rintro earlier ⟨later, rfl⟩
    obtain ⟨held, custody, -⟩ := custody.split
    exact ⟨held, custody.balance⟩
  used := by
    rintro earlier engine handle ⟨later, rfl⟩
    rw [List.append_assoc] at custody
    obtain ⟨held, custody, rest⟩ := custody.split
    rw [← rest.eq_of_used]
    exact custody.balance

/-- What happened between two moments, by a log that only grows. -/
def loggedSince {τ : Type} (log : τ → List StackEvent) (before after : τ) : List StackEvent :=
  (log after).drop (log before).length

theorem loggedSince_eq {τ : Type} {log : τ → List StackEvent} {before after : τ}
    {events : List StackEvent} (logged : log after = log before ++ events) :
    loggedSince log before after = events := by
  rw [loggedSince, logged, List.drop_left]

/-- From one moment to a later one, custody has passed from one stack or none to another. -/
def CustodyPasses {τ : Type} (log : τ → List StackEvent) (held held' : Option ExecutionStack)
    (before after : τ) : Prop :=
  ∃ events, log after = log before ++ events ∧ Custody held events held'

namespace CustodyPasses

variable {τ : Type} {log : τ → List StackEvent} {held held' held'' : Option ExecutionStack}
  {before between after : τ}

theorem of_eq (same : log after = log before) (held : Option ExecutionStack) :
    CustodyPasses log held held before after :=
  ⟨[], by rw [same, List.append_nil], .nil held⟩

theorem trans (first : CustodyPasses log held held' before between)
    (second : CustodyPasses log held' held'' between after) :
    CustodyPasses log held held'' before after := by
  obtain ⟨events, logged, custody⟩ := first
  obtain ⟨events', logged', custody'⟩ := second
  refine ⟨events ++ events', ?_, custody.append custody'⟩
  rw [logged', logged, List.append_assoc]

end CustodyPasses

/-! ## Tracked engines -/

/-- Engines and what has happened to their stacks, the latest last. -/
structure Tracked (σ : Type) where
  engines : σ
  log : List StackEvent := []

/-- Let an action be noted. -/
def Tracked.noting {σ α : Type} (action : StateM σ α) (note : α → List StackEvent) :
    StateM (Tracked σ) α := fun tracked =>
  let (value, engines) := action.run tracked.engines
  (value, { engines, log := tracked.log ++ note value })

namespace Engine

variable {σ : Type}

/-- A numbered engine that notes what happens to its stacks. -/
def tracked (engine : Engine σ) (number : Nat) : Engine (Tracked σ) :=
  { engine.onPart Tracked.engines fun engines tracked => { tracked with engines } with
    createStack := engine.createStack.map fun create =>
      Tracked.noting create fun handle => (stackOf? number handle).toList.map .made
    releaseStack := engine.releaseStack.map fun release handle =>
      Tracked.noting (release handle) fun _ =>
        (stackOf? number handle).toList.map .dropped
    run := fun code subject start options data stack =>
      ExceptT.mk <| Tracked.noting (engine.run code subject start options data stack).run
        fun _ => [.used number stack] }

/-- An engine that makes execution stacks takes them back. -/
def TakesBack (engine : Engine σ) : Prop :=
  engine.capabilities.executionStack = true → engine.createStack.isSome = true →
    engine.releaseStack.isSome = true

end Engine

/-- Actions that leave a reading of the engines as it is. -/
def Leaves {τ α β : Type} (reading : τ → α) (action : StateM τ β) : Prop :=
  ∀ state, reading (action.run state).2 = reading state

theorem Leaves.pure {τ α β : Type} {reading : τ → α} (value : β) :
    Leaves reading (pure value : StateM τ β) :=
  fun _ => rfl

theorem Leaves.bind {τ α β γ : Type} {reading : τ → α} {action : StateM τ β}
    {next : β → StateM τ γ} (first : Leaves reading action)
    (second : ∀ value, Leaves reading (next value)) : Leaves reading (action >>= next) :=
  fun state => (second _ _).trans (first state)

namespace Engine

variable {τ : Type}

/-- An engine whose stacks can be followed in a log, where it has a number. -/
structure Tracks (engine : Engine τ) (number : Nat) (log : τ → List StackEvent) : Prop where
  compile : ∀ pattern options, Leaves log (engine.compile pattern options)
  captureCount : ∀ code, Leaves log (engine.captureCount code)
  nameTable : ∀ code, Leaves log (engine.nameTable code)
  createMatchData : ∀ code, Leaves log (engine.createMatchData code)
  captureOffsets : ∀ data, Leaves log (engine.captureOffsets data)
  mark : ∀ data, Leaves log (engine.mark data)
  freeMatchData : ∀ data, Leaves log (engine.freeMatchData data)
  release : ∀ code, Leaves log (engine.release code)
  run : ∀ code subject start options data stack state,
    log ((engine.run code subject start options data stack).run.run state).2 =
      log state ++ [.used number stack]
  makeStack : ∀ state, log (engine.makeStack.run state).2 =
    log state ++ (stackOf? number (engine.makeStack.run state).1).toList.map .made
  /-- Who makes stacks is able to take them back. -/
  isSome_releaseStack : ∀ state, (engine.makeStack.run state).1 ≠ 0 →
    engine.releaseStack.isSome = true
  dropStack : ∀ handle state, (handle ≠ 0 → engine.releaseStack.isSome = true) →
    log ((engine.dropStack handle).run state).2 =
      log state ++ (stackOf? number handle).toList.map .dropped

variable {engine : Engine τ} {number : Nat} {log : τ → List StackEvent}

/-- A match call, from making its match data to freeing it, is noted once. -/
theorem Tracks.exchange (tracks : engine.Tracks number log) (request : Request) (state : τ) :
    log ((engine.exchange request).run state).2 = log state ++ [.used number request.stack] := by
  have reads : ∀ data result, Leaves log (engine.readReport request.code data result) := by
    intro data result
    unfold readReport
    split
    · exact (tracks.captureCount _).bind fun _ => (tracks.captureOffsets _).bind fun _ =>
        (tracks.mark _).bind fun _ => .pure _
    · exact .pure _
  rw [exchange_run]
  dsimp only
  have ran := tracks.run request.code request.subject request.start request.options
    ((engine.createMatchData request.code).run state).1 request.stack
    ((engine.createMatchData request.code).run state).2
  rw [tracks.createMatchData] at ran
  rw [← ran]
  rcases (engine.run request.code request.subject request.start request.options
    ((engine.createMatchData request.code).run state).1 request.stack).run.run
      ((engine.createMatchData request.code).run state).2 with ⟨outcome, after⟩
  cases outcome with
  | error fault => exact tracks.freeMatchData _ after
  | ok result => exact (tracks.freeMatchData _ _).trans (reads _ result after)

/-- An engine has one number in a log. -/
theorem Tracks.number_eq {number' : Nat} (tracks : engine.Tracks number log)
    (tracks' : engine.Tracks number' log) (state : τ) : number = number' := by
  have logged := tracks.run 0 [] 0 0 0 0 state
  rw [tracks'.run, List.append_cancel_left_eq, List.cons.injEq, StackEvent.used.injEq] at logged
  exact logged.1.1.symm

/-- A tracked engine that takes its stacks back is followed in its log. -/
theorem tracked_tracks {σ : Type} {engine : Engine σ} (takesBack : engine.TakesBack)
    (number : Nat) : (engine.tracked number).Tracks number Tracked.log where
  compile _ _ _ := rfl
  captureCount _ _ := rfl
  nameTable _ _ := rfl
  createMatchData _ _ := rfl
  captureOffsets _ _ := rfl
  mark _ _ := rfl
  freeMatchData _ _ := rfl
  release _ _ := rfl
  run _ _ _ _ _ _ _ := rfl
  makeStack := by
    intro state
    have isCreate : (engine.tracked number).createStack = engine.createStack.map fun create =>
      Tracked.noting create fun handle =>
        (stackOf? number handle).toList.map .made := rfl
    rw [Engine.makeStack, isCreate]
    cases engine.createStack with
    | none => exact (List.append_nil _).symm
    | some create =>
        dsimp only [Option.map]
        split
        · rfl
        · exact (List.append_nil _).symm
  isSome_releaseStack := by
    intro state
    have isRelease : (engine.tracked number).releaseStack.isSome = engine.releaseStack.isSome :=
      Option.isSome_map
    have isCreate : (engine.tracked number).createStack.isSome = engine.createStack.isSome :=
      Option.isSome_map
    have isAble : (engine.tracked number).capabilities = engine.capabilities := rfl
    rw [Engine.makeStack, isRelease, isAble]
    cases created : (engine.tracked number).createStack with
    | none => exact fun isHandle => absurd rfl isHandle
    | some create =>
        rw [created] at isCreate
        dsimp only
        split
        · next needsStack => exact fun _ => takesBack needsStack isCreate.symm
        · exact fun isHandle => absurd rfl isHandle
  dropStack := by
    intro handle state isAble
    have isRelease : (engine.tracked number).releaseStack = engine.releaseStack.map
        fun release handle => Tracked.noting (release handle) fun _ =>
          (stackOf? number handle).toList.map .dropped := rfl
    -- Handle zero stands for no stack, so dropping it notes nothing.
    by_cases isZero : handle = 0
    · subst isZero
      rw [Engine.dropStack]
      cases (engine.tracked number).releaseStack <;> exact (List.append_nil _).symm
    · have isSome := isAble isZero
      rw [Engine.dropStack]
      rw [isRelease] at isSome ⊢
      cases releases : engine.releaseStack with
      | none =>
          rw [releases] at isSome
          cases isSome
      | some release =>
          dsimp only [Option.map]
          rw [if_neg isZero]
          rfl

end Engine

end RegexMatching
