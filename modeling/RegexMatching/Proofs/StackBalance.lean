import RegexMatching.Engine.Scripted
import RegexMatching.Proofs.Acts
import RegexMatching.Proofs.Custody

/-!
# The stacks of a matcher

A matcher is in custody of its execution stack.  It makes one when it is created and when it
switches to another pattern, gives it back before it switches and when it is closed, each time to
the engine that made it, and matches with it.  This goes on in steps and changes, whatever the
engines answer.
-/

namespace RegexMatching

/-- A pattern of an engine whose stacks can be followed in a log. -/
def Pattern.IsTracked {τ : Type} (log : τ → List StackEvent) (pattern : Pattern τ) : Prop :=
  ∃ number, pattern.adapter.engine.Tracks number log

/-- A pattern of one of some engines, which are tracked under their numbers. -/
def Pattern.IsTrackedBy {σ : Type} (engines : Nat → Engine σ) (pattern : Pattern (Tracked σ)) :
    Prop :=
  ∃ number, pattern.adapter.engine = (engines number).tracked number

namespace Matcher

variable {τ : Type} {log : τ → List StackEvent} {number : Nat}

/-! ## Steps -/

/-- From an earlier configuration to a later one, the matcher goes on with the same pattern and the
same stack, and nothing has happened to the stack than that it was used. -/
structure UsesStack (log : τ → List StackEvent) (number : Nat) (before after : Configuration τ) :
    Prop where
  pattern : after.matcher.pattern = before.matcher.pattern
  stack : after.matcher.stack = before.matcher.stack
  passes : CustodyPasses log (stackOf? number before.matcher.stack)
    (stackOf? number before.matcher.stack) before.trace.engines after.trace.engines

namespace UsesStack

variable {before between after : Configuration τ}

theorem of_eq (pattern : after.matcher.pattern = before.matcher.pattern)
    (stack : after.matcher.stack = before.matcher.stack) (trace : after.trace = before.trace) :
    UsesStack log number before after :=
  ⟨pattern, stack, .of_eq (by rw [trace]) _⟩

theorem trans (first : UsesStack log number before between)
    (second : UsesStack log number between after) : UsesStack log number before after := by
  have passes := second.passes
  rw [first.stack] at passes
  exact ⟨second.pattern.trans first.pattern, second.stack.trans first.stack,
    first.passes.trans passes⟩

end UsesStack

/-- An attempt uses the stack of the matcher once at most. -/
theorem attempt_passes {matcher : Matcher τ}
    (tracks : matcher.pattern.adapter.engine.Tracks number log) (view : RegionView) (start : Nat)
    (anchoring : Anchoring) (trace : Trace τ) :
    CustodyPasses log (stackOf? number matcher.stack) (stackOf? number matcher.stack) trace.engines
      ((matcher.attempt view start anchoring).run trace).2.engines := by
  rw [attempt_run]
  cases asked : matcher.request? view start anchoring with
  | error fault => exact .of_eq rfl _
  | ok request? =>
      cases request? with
      | none => exact .of_eq rfl _
      | some request =>
          refine ⟨[.used number matcher.stack], ?_, .used rfl (.nil _)⟩
          rw [← (handles_of_request? asked).2]
          exact tracks.exchange request trace.engines

theorem search_usesStack {configuration : Configuration τ}
    (tracks : configuration.matcher.pattern.adapter.engine.Tracks number log) (start : Nat)
    (anchoring : Anchoring) :
    UsesStack log number configuration ((search start anchoring).exec configuration).2 := by
  rw [search_exec_view]
  cases configuration.matcher.regionView with
  | error fault => exact .of_eq rfl rfl rfl
  | ok view =>
      dsimp only
      have sees : UsesStack log number configuration
          { configuration with matcher := { configuration.matcher with view := some view } } :=
        .of_eq rfl rfl rfl
      apply sees.trans
      generalize isSeen : { configuration.matcher with view := some view } = matcher
      have tracks' : matcher.pattern.adapter.engine.Tracks number log := by
        rw [← isSeen]
        exact tracks
      have passes := attempt_passes tracks' view start anchoring configuration.trace
      cases ((matcher.attempt view start anchoring).run configuration.trace).1 with
      | error fault => exact ⟨rfl, rfl, passes⟩
      | ok state => cases state <;> exact ⟨rfl, rfl, passes⟩

theorem Step.usesStack {before after : Configuration τ} (step : Step before after)
    (tracks : before.matcher.pattern.adapter.engine.Tracks number log) :
    UsesStack log number before after := by
  cases step with
  | search start anchoring inside => exact search_usesStack tracks start anchoring
  | exhaust => exact .of_eq rfl rfl rfl
  | clearMatch => exact .of_eq rfl rfl rfl
  | reset => exact .of_eq rfl rfl rfl
  | append template =>
      obtain ⟨cursor, appended⟩ := exists_appendReplacement_eq before.matcher template
      rw [appended]
      exact .of_eq rfl rfl rfl

theorem Steps.usesStack {before after : Configuration τ} (steps : Steps before after)
    (tracks : before.matcher.pattern.adapter.engine.Tracks number log) :
    UsesStack log number before after := by
  induction steps with
  | refl => exact .of_eq rfl rfl rfl
  | tail _ step ih =>
      apply ih.trans
      apply step.usesStack
      rw [ih.pattern]
      exact tracks

/-! ## Changes -/

/-- A matcher holds its stack as a stack of the engine of its pattern, which can take it back. -/
structure Holds (log : τ → List StackEvent) (number : Nat) (matcher : Matcher τ) : Prop where
  tracks : matcher.pattern.adapter.engine.Tracks number log
  isAble : matcher.stack ≠ 0 → matcher.pattern.adapter.engine.releaseStack.isSome = true

/-- From an earlier configuration to a later one, the matcher has kept custody of its stack. -/
def KeepsCustody (log : τ → List StackEvent) (before after : Configuration τ) : Prop :=
  ∀ number, before.matcher.Holds log number → ∃ number',
    CustodyPasses log (stackOf? number before.matcher.stack) (stackOf? number' after.matcher.stack)
        before.trace.engines after.trace.engines ∧
      after.matcher.Holds log number'

theorem Holds.of_eq {matcher other : Matcher τ} (holds : matcher.Holds log number)
    (pattern : other.pattern = matcher.pattern) (stack : other.stack = matcher.stack) :
    other.Holds log number := by
  constructor
  · rw [pattern]
    exact holds.tracks
  · rw [pattern, stack]
    exact holds.isAble

variable {before between after : Configuration τ}

theorem UsesStack.keepsCustody (uses : ∀ number,
      before.matcher.pattern.adapter.engine.Tracks number log →
        UsesStack log number before after) : KeepsCustody log before after := by
  intro number holds
  obtain ⟨pattern, stack, passes⟩ := uses number holds.tracks
  refine ⟨number, ?_, holds.of_eq pattern stack⟩
  rw [stack]
  exact passes

theorem Steps.keepsCustody (steps : Steps before after) : KeepsCustody log before after :=
  UsesStack.keepsCustody fun _ => steps.usesStack

/-- A stack that was made is held by a matcher of its engine. -/
theorem holds_makeStack {matcher : Matcher τ} {state : τ}
    (tracks : matcher.pattern.adapter.engine.Tracks number log)
    (isMade : matcher.stack = (matcher.pattern.adapter.engine.makeStack.run state).1) :
    matcher.Holds log number := by
  refine ⟨tracks, ?_⟩
  rw [isMade]
  exact tracks.isSome_releaseStack state

/-- The old stack goes back to the old engine before the new engine makes one. -/
theorem switch_keepsCustody (configuration : Configuration τ) {pattern : Pattern τ}
    (isTracked : pattern.IsTracked log) :
    KeepsCustody log configuration (configuration.switch pattern) := by
  intro number holds
  obtain ⟨number', tracks⟩ := isTracked
  have dropped := holds.tracks.dropStack configuration.matcher.stack configuration.trace.engines
    holds.isAble
  have gives : CustodyPasses log _ none _ _ := ⟨_, dropped, Custody.giveBack _⟩
  exact ⟨number', gives.trans ⟨_, tracks.makeStack _, Custody.take _⟩, holds_makeStack tracks rfl⟩

theorem closed_passes {configuration : Configuration τ}
    (holds : configuration.matcher.Holds log number) :
    CustodyPasses log (stackOf? number configuration.matcher.stack) none
      configuration.trace.engines configuration.closed.trace.engines :=
  ⟨_, holds.tracks.dropStack configuration.matcher.stack configuration.trace.engines holds.isAble,
    Custody.giveBack _⟩

variable {allowed : Pattern τ → Prop}
  (isTracked : ∀ pattern, allowed pattern → pattern.IsTracked log)

include isTracked

theorem Change.keepsCustody (change : Change allowed before after) :
    KeepsCustody log before after := by
  cases change with
  | resetTo text => exact UsesStack.keepsCustody fun _ _ => .of_eq rfl rfl rfl
  | region restricted =>
      obtain ⟨first, last, -, -, -, rfl⟩ := region_eq_ok restricted
      exact UsesStack.keepsCustody fun _ _ => .of_eq rfl rfl rfl
  | useAnchoringBounds value => exact UsesStack.keepsCustody fun _ _ => .of_eq rfl rfl rfl
  | usePartialMatching changed =>
      obtain ⟨rfl, -⟩ := usePartialMatching_eq_ok changed
      exact UsesStack.keepsCustody fun _ _ => .of_eq rfl rfl rfl
  | usePattern isAllowed isOpen => exact switch_keepsCustody before (isTracked _ isAllowed)
  | close =>
      intro number holds
      exact ⟨number, closed_passes holds, holds.tracks, fun isHandle => absurd rfl isHandle⟩

/-- An act that switches to tracked patterns only keeps custody, also when it fails. -/
theorem act_keepsCustody {act : Act τ} (isAllowed : act.Allowed allowed)
    (configuration : Configuration τ) :
    KeepsCustody log configuration (act.make.exec configuration).2 := by
  cases act with
  | perform operation =>
      rcases perform_steps_or_change operation isAllowed configuration with steps | change
      · exact steps.keepsCustody
      · exact change.keepsCustody isTracked
  | advance iteration =>
      rw [Act.make, Matching.exec_bind_pure]
      exact (next_steps iteration configuration).keepsCustody

omit isTracked

/-! ## Runs -/

/-- A new matcher holds the stack that was made for it. -/
theorem create_passes {pattern : Pattern τ}
    (tracks : pattern.adapter.engine.Tracks number log) {text : Text}
    {settings : MatcherSettings} {trace after : Trace τ} {matcher : Matcher τ}
    (isCreated : (create pattern text settings).run trace = (.ok matcher, after)) :
    CustodyPasses log none (stackOf? number matcher.stack) trace.engines after.engines ∧
      matcher.Holds log number := by
  rw [create_run] at isCreated
  split at isCreated
  · cases congrArg Prod.fst isCreated
  · obtain ⟨changed, rfl⟩ := Prod.mk.inj isCreated
    obtain ⟨rfl, -⟩ := usePartialMatching_eq_ok changed
    exact ⟨⟨_, tracks.makeStack trace.engines, Custody.take _⟩, holds_makeStack tracks rfl⟩

/-- What happens to stacks during the visits to a matcher.  What others do in between is left
out. -/
def stackEvents (log : τ → List StackEvent) : List (Visit τ) → Matcher τ → List StackEvent
  | [], _ => []
  | visit :: rest, matcher =>
      loggedSince log visit.trace.engines
          (visit.act.make.exec ⟨matcher, visit.trace⟩).2.trace.engines ++
        stackEvents log rest (visit.result matcher).2

/-- Over all visits to a matcher, its custody goes from its stack to the stack it has then. -/
theorem visits_custody (isTracked : ∀ pattern, allowed pattern → pattern.IsTracked log)
    {visits : List (Visit τ)} (isAllowed : ∀ visit ∈ visits, visit.act.Allowed allowed)
    {matcher : Matcher τ} (holds : matcher.Holds log number) :
    ∃ number', Custody (stackOf? number matcher.stack) (stackEvents log visits matcher)
        (stackOf? number' (matcher.behindVisits visits).stack) ∧
      (matcher.behindVisits visits).Holds log number' := by
  induction visits generalizing matcher number with
  | nil => exact ⟨number, .nil _, holds⟩
  | cons visit rest ih =>
      rw [List.forall_mem_cons] at isAllowed
      obtain ⟨number', ⟨events, logged, custody⟩, holds'⟩ :=
        act_keepsCustody isTracked isAllowed.1 ⟨matcher, visit.trace⟩ number holds
      obtain ⟨number'', custody', holds''⟩ := ih isAllowed.2 holds'
      refine ⟨number'', ?_, holds''⟩
      rw [stackEvents, loggedSince_eq logged]
      exact custody.append custody'

theorem behindVisits_append (matcher : Matcher τ) (visits visits' : List (Visit τ)) :
    matcher.behindVisits (visits ++ visits') =
      (matcher.behindVisits visits).behindVisits visits' :=
  List.foldl_append ..

theorem perform_close_exec (configuration : Configuration τ) :
    (perform .close).exec configuration = (.ok .done, configuration.closed) := by
  rw [perform, Matching.exec_bind, change_exec, close_run]
  rfl

/-- Whatever was done before, a matcher that was just closed has no stack. -/
theorem stack_behind_close (matcher : Matcher τ) (visits : List (Visit τ)) (trace : Trace τ) :
    (matcher.behindVisits (visits ++ [⟨.perform .close, trace⟩])).stack = 0 := by
  rw [behindVisits_append]
  change ((perform .close).exec ⟨matcher.behindVisits visits, trace⟩).2.matcher.stack = 0
  rw [perform_close_exec]
  rfl

/-- The stacks made for a matcher and not yet given back are its stack, if it has one.  They are
given back once at most, to the engines that made them, and match calls come with the stack that is
held or none.  A matcher that was closed last has left no stack behind. -/
theorem stacks_balance {σ : Type} {engines : Nat → Engine σ}
    (takesBack : ∀ number, (engines number).TakesBack) {pattern : Pattern (Tracked σ)}
    (isOf : pattern.IsTrackedBy engines) {text : Text} {settings : MatcherSettings}
    {trace created : Trace (Tracked σ)} {matcher : Matcher (Tracked σ)}
    (isCreated : (create pattern text settings).run trace = (.ok matcher, created))
    (visits : List (Visit (Tracked σ)))
    (isAllowed : ∀ visit ∈ visits, visit.act.Allowed (Pattern.IsTrackedBy engines)) :
    let events := loggedSince Tracked.log trace.engines created.engines ++
      stackEvents Tracked.log visits matcher
    let last := matcher.behindVisits visits
    (∃ number, last.pattern.adapter.engine = (engines number).tracked number ∧
      stacksMade events = stacksDropped events ++ (stackOf? number last.stack).toList) ∧
      StacksInOrder events ∧
      ∀ earlier closing, visits = earlier ++ [⟨.perform .close, closing⟩] →
        last.stack = 0 ∧ stacksMade events = stacksDropped events := by
  have isTracked : ∀ pattern : Pattern (Tracked σ), pattern.IsTrackedBy engines →
      ∃ number, pattern.adapter.engine = (engines number).tracked number ∧
        pattern.adapter.engine.Tracks number Tracked.log := by
    rintro pattern ⟨number, isEngine⟩
    refine ⟨number, isEngine, ?_⟩
    rw [isEngine]
    exact Engine.tracked_tracks (takesBack number) number
  obtain ⟨number, -, tracks⟩ := isTracked pattern isOf
  obtain ⟨⟨made, logged, custody⟩, holds⟩ := create_passes tracks isCreated
  obtain ⟨number', custody', holds'⟩ := visits_custody
    (fun pattern isOf => (isTracked pattern isOf).imp fun _ both => both.2) isAllowed holds
  have reached : matcher.Reachable (Pattern.IsTrackedBy engines) fun _ => True :=
    .created isOf trivial isCreated
  obtain ⟨number'', isEngine, tracks'⟩ := isTracked _
    (reached.behindVisits fun visit mem => ⟨isAllowed visit mem, trivial⟩).consistent.2
  obtain rfl := tracks'.number_eq holds'.tracks trace.engines
  have whole := custody.append custody'
  rw [← loggedSince_eq logged] at whole
  dsimp only
  refine ⟨⟨number'', isEngine, whole.balance⟩, whole.inOrder, fun earlier closing ends => ?_⟩
  have isClosed : (matcher.behindVisits visits).stack = 0 := by
    rw [ends]
    exact stack_behind_close matcher earlier closing
  refine ⟨isClosed, ?_⟩
  have balance := whole.balance
  rw [isClosed, stackOf?_zero, Option.toList_none, List.append_nil] at balance
  exact balance

/-! ## Switching between engines -/

/-- Acts that follow one another, with nothing in between. -/
def inTurn : List (Act τ) → Matcher τ → Trace τ → List (Visit τ)
  | [], _, _ => []
  | act :: rest, matcher, trace =>
      let done := (act.make.exec ⟨matcher, trace⟩).2
      ⟨act, trace⟩ :: inTurn rest done.matcher done.trace

theorem act_mem_of_mem_inTurn {acts : List (Act τ)} {matcher : Matcher τ} {trace : Trace τ}
    {visit : Visit τ} (mem : visit ∈ inTurn acts matcher trace) : visit.act ∈ acts := by
  induction acts generalizing matcher trace with
  | nil => cases mem
  | cons act rest ih =>
      rcases List.mem_cons.mp mem with rfl | mem
      · exact List.mem_cons_self
      · exact List.mem_cons_of_mem _ (ih mem)

/-- Engine 0 has execution stacks, and all others do without. -/
def oneWithStacks (number : Nat) : Engine Recording :=
  Script.toEngine {
    capabilities :=
      { anchoredVariants := false
        partialMatching := false
        lineBoundaryOptions := true
        executionStack := number == 0 } }

/-- A pattern of one of these engines. -/
def patternOf (number : Nat) (isClosed : Bool) : Pattern (Tracked Recording) where
  adapter := { engine := (oneWithStacks number).tracked number, isLogged := false }
  source := [0x61]
  flags := .ofNat 0
  canonicalEquivalence := false
  variants := .shared 1
  groupCount := 0
  names := []
  isClosed

/-- Over to an engine without stacks and back, to a pattern that is closed, and past the end. -/
def backAndForth : List (Act (Tracked Recording)) :=
  [.perform .find, .perform (.usePattern (patternOf 1 false)), .perform .find,
    .perform (.usePattern (patternOf 0 false)), .perform (.usePattern (patternOf 0 true)),
    .perform .matchWhole, .perform .close, .perform .close,
    .perform (.usePattern (patternOf 0 false)), .perform .close]

theorem stacks_balance_back_and_forth :
    let trace : Trace (Tracked Recording) := ⟨⟨{}, []⟩, []⟩
    let created : Trace (Tracked Recording) :=
      ⟨⟨{ nextHandle := 2, stacksCreated := [1] }, [.made ⟨0, 1⟩]⟩, []⟩
    let matcher := initial (patternOf 0 false) [0x61] true 1
    let events := loggedSince Tracked.log trace.engines created.engines ++
      stackEvents Tracked.log (inTurn backAndForth matcher created) matcher
    (create (patternOf 0 false) [0x61] {}).run trace = (.ok matcher, created) ∧
      events = [.made ⟨0, 1⟩, .used 0 1, .dropped ⟨0, 1⟩, .used 1 0, .made ⟨0, 4⟩, .used 0 4,
        .dropped ⟨0, 4⟩, .made ⟨0, 6⟩, .dropped ⟨0, 6⟩] ∧
      StacksInOrder events := by
  have takesBack : ∀ number, (oneWithStacks number).TakesBack := fun _ _ _ => rfl
  have isOf : ∀ number isClosed, (patternOf number isClosed).IsTrackedBy oneWithStacks :=
    fun number _ => ⟨number, rfl⟩
  have isCreated : (create (patternOf 0 false) [0x61] {}).run ⟨⟨{}, []⟩, []⟩ =
      (.ok (initial (patternOf 0 false) [0x61] true 1),
        ⟨⟨{ nextHandle := 2, stacksCreated := [1] }, [.made ⟨0, 1⟩]⟩, []⟩) := rfl
  have allowed : ∀ act ∈ backAndForth,
      act.Allowed (Pattern.IsTrackedBy oneWithStacks) := by
    simp [backAndForth, Act.Allowed, Operation.Allowed, isOf]
  refine ⟨isCreated, by decide +kernel, ?_⟩
  exact (stacks_balance takesBack (isOf 0 false) isCreated _
    fun visit mem => allowed visit.act (act_mem_of_mem_inTurn mem)).2.1

end Matcher

end RegexMatching
