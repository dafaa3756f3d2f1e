import RegexMatching.Proofs.Step

/-!
# Reachable matchers

A matcher is reachable when it can be got by creating it and then performing
operations and taking iterators further, on engines that are used by others in
between.  Every reachable matcher is consistent.
-/

namespace RegexMatching

namespace Matcher

variable {σ : Type}

/-! ## Creating -/

/-- A matcher as it is made, before its settings are checked. -/
def initial (pattern : Pattern σ) (text : Text) (anchoringBounds : Bool) (stack : Handle) :
    Matcher σ where
  pattern
  text
  stack
  searched := .ofText text pattern.canonicalEquivalence
  view := none
  regionStart := 0
  regionEnd := text.length
  anchoringBounds
  partialMatching := false
  state := .fresh
  previous := none
  isExhausted := false
  appendCursor := 0

theorem initial_consistent {pattern : Pattern σ} (isOpen : pattern.isClosed = false) (text : Text)
    (anchoringBounds : Bool) (stack : Handle) :
    (initial pattern text anchoringBounds stack).Consistent where
  searched := rfl
  region_le := Nat.zero_le _
  regionEnd_le := Nat.le_refl _
  view := by
    intro view mem
    contradiction
  partialMatching := by
    intro isPartial
    contradiction
  isOpen

/-- A closed pattern makes no matcher.  Another one makes a stack first. -/
theorem create_run (pattern : Pattern σ) (text : Text) (settings : MatcherSettings)
    (trace : Trace σ) :
    (create pattern text settings).run trace =
      if pattern.isClosed then (.error .patternClosed, trace)
      else
        let made := pattern.adapter.engine.makeStack.run trace.engines
        ((initial pattern text settings.anchoringBounds made.1).usePartialMatching
            settings.partialMatching,
          { trace with engines := made.2 }) := by
  unfold create
  cases pattern.isClosed with
  | true => rfl
  | false =>
      simp only [Bool.false_eq_true, if_false, Work.run_bind, Adapter.createStack_run]
      rfl

/-! ## What keeps a matcher consistent -/

theorem usePartialMatching_eq_ok {matcher changed : Matcher σ} {value : Bool}
    (isChanged : matcher.usePartialMatching value = .ok changed) :
    changed = { matcher with partialMatching := value } ∧
      (value = true → canMatchPartially matcher.pattern = true) := by
  unfold usePartialMatching at isChanged
  split at isChanged
  · contradiction
  · next allowed =>
      rw [Except.ok.injEq] at isChanged
      constructor
      · exact isChanged.symm
      · intro isPartial
        simpa [isPartial] using allowed

theorem usePartialMatching_of_supported {matcher : Matcher σ} {value : Bool}
    (supported : value = true → canMatchPartially matcher.pattern = true) :
    matcher.usePartialMatching value = .ok { matcher with partialMatching := value } := by
  refine if_neg ?_
  cases value with
  | false => exact Bool.false_ne_true
  | true =>
      rw [supported rfl]
      exact Bool.false_ne_true

/-- An open pattern makes a matcher with any settings that its engine supports. -/
theorem create_run_of_supported {pattern : Pattern σ} (isOpen : pattern.isClosed = false)
    {settings : MatcherSettings}
    (supported : settings.partialMatching = true → canMatchPartially pattern = true) (text : Text)
    (trace : Trace σ) :
    (create pattern text settings).run trace =
      let made := pattern.adapter.engine.makeStack.run trace.engines
      (.ok { initial pattern text settings.anchoringBounds made.1 with
          partialMatching := settings.partialMatching },
        { trace with engines := made.2 }) := by
  rw [create_run, isOpen, if_neg Bool.false_ne_true]
  dsimp only
  rw [usePartialMatching_of_supported supported]

/-- A matcher that starts again with a region of its text. -/
def restrictedTo (matcher : Matcher σ) (first last : Nat) : Matcher σ :=
  { matcher.reset with regionStart := first, regionEnd := last }

/-- A region that is taken lies in the text. -/
theorem region_eq_ok {matcher restricted : Matcher σ} {start stop : Number}
    (isRestricted : matcher.region start stop = .ok restricted) :
    ∃ first last, start.toIndex? matcher.text.length = some first ∧
      stop.toIndex? matcher.text.length = some last ∧ first ≤ last ∧
      restricted = matcher.restrictedTo first last := by
  unfold region at isRestricted
  cases atStart : start.toIndex? matcher.text.length with
  | none =>
      rw [atStart] at isRestricted
      contradiction
  | some first =>
      cases atStop : stop.toIndex? matcher.text.length with
      | none =>
          rw [atStart, atStop] at isRestricted
          contradiction
      | some last =>
          rw [atStart, atStop] at isRestricted
          dsimp only at isRestricted
          split at isRestricted
          · contradiction
          · next ordered =>
              rw [Except.ok.injEq] at isRestricted
              exact ⟨first, last, rfl, rfl, Nat.not_lt.mp ordered, isRestricted.symm⟩

namespace Consistent

variable {matcher : Matcher σ} (consistent : matcher.Consistent)

include consistent

theorem settle (anchoring : Anchoring) (state : MatchState) :
    (matcher.settle anchoring state).Consistent := by
  cases state <;>
    exact ⟨consistent.searched, consistent.region_le, consistent.regionEnd_le, consistent.view,
      consistent.partialMatching, consistent.isOpen⟩

theorem conclude (anchoring : Anchoring) (attempted : Except Fault MatchState) :
    (matcher.conclude anchoring attempted).2.Consistent := by
  cases attempted with
  | error fault => exact consistent
  | ok state => exact consistent.settle anchoring state

theorem clearMatch : matcher.clearMatch.Consistent :=
  ⟨consistent.searched, consistent.region_le, consistent.regionEnd_le, consistent.view,
    consistent.partialMatching, consistent.isOpen⟩

/-- Any region of the text will do, as long as nothing has been seen of it. -/
theorem restrictedTo {first last : Nat} (ordered : first ≤ last)
    (inside : last ≤ matcher.text.length) : (matcher.restrictedTo first last).Consistent where
  searched := consistent.searched
  region_le := ordered
  regionEnd_le := inside
  view := by
    intro view mem
    contradiction
  partialMatching := consistent.partialMatching
  isOpen := consistent.isOpen

theorem reset : matcher.reset.Consistent :=
  consistent.restrictedTo (Nat.zero_le _) (Nat.le_refl _)

theorem region {restricted : Matcher σ} {start stop : Number}
    (isRestricted : matcher.region start stop = .ok restricted) : restricted.Consistent := by
  rcases region_eq_ok isRestricted with ⟨first, last, -, atStop, ordered, rfl⟩
  exact consistent.restrictedTo ordered (toIndex?_le atStop)

theorem resetTo (text : Text) : (matcher.resetTo text).Consistent where
  searched := rfl
  region_le := Nat.zero_le _
  regionEnd_le := Nat.le_refl _
  view := by
    intro view mem
    contradiction
  partialMatching := consistent.partialMatching
  isOpen := consistent.isOpen

theorem useAnchoringBounds (value : Bool) : (matcher.useAnchoringBounds value).Consistent :=
  ⟨consistent.searched, consistent.region_le, consistent.regionEnd_le, consistent.view,
    consistent.partialMatching, consistent.isOpen⟩

theorem usePartialMatching {changed : Matcher σ} {value : Bool}
    (isChanged : matcher.usePartialMatching value = .ok changed) : changed.Consistent := by
  rcases usePartialMatching_eq_ok isChanged with ⟨rfl, supported⟩
  exact ⟨consistent.searched, consistent.region_le, consistent.regionEnd_le, consistent.view,
    supported, consistent.isOpen⟩

theorem append (template : Text) : (matcher.appendReplacement template).2.Consistent := by
  rcases exists_appendReplacement_eq matcher template with ⟨cursor, appended⟩
  rw [appended]
  exact ⟨consistent.searched, consistent.region_le, consistent.regionEnd_le, consistent.view,
    consistent.partialMatching, consistent.isOpen⟩

end Consistent

/-- The subject is prepared for the new pattern, or was prepared in that way before. -/
theorem Consistent.switch {configuration : Configuration σ}
    (consistent : configuration.matcher.Consistent) {pattern : Pattern σ}
    (isOpen : pattern.isClosed = false) :
    (configuration.switch pattern).matcher.Consistent := by
  have supported : (configuration.matcher.partialMatching && canMatchPartially pattern) = true →
      canMatchPartially pattern = true := fun both => (Bool.and_eq_true_iff.mp both).2
  simp only [Configuration.switch, prepareFor]
  split
  · next same =>
      refine ⟨?_, consistent.region_le, consistent.regionEnd_le, consistent.view, supported,
        isOpen⟩
      exact consistent.searched.trans (congrArg _ same.symm)
  · refine ⟨rfl, consistent.region_le, consistent.regionEnd_le, ?_, supported, isOpen⟩
    intro view mem
    contradiction

theorem Consistent.closed {configuration : Configuration σ}
    (consistent : configuration.matcher.Consistent) :
    configuration.closed.matcher.Consistent :=
  ⟨consistent.searched, consistent.region_le, consistent.regionEnd_le, consistent.view,
    consistent.partialMatching, consistent.isOpen⟩

/-- A step keeps a matcher consistent. -/
theorem Step.consistent {before after : Configuration σ} (step : Step before after)
    (consistent : before.matcher.Consistent) : after.matcher.Consistent := by
  cases step with
  | search start anchoring inside =>
      rw [search_exec consistent]
      exact consistent.seen.conclude anchoring _
  | exhaust => exact consistent.settle .search (.noMatch false)
  | clearMatch => exact consistent.clearMatch
  | reset => exact consistent.reset
  | append template => exact consistent.append template

/-- A change keeps a matcher consistent. -/
theorem Change.consistent {allowed : Pattern σ → Prop} {before after : Configuration σ}
    (change : Change allowed before after) (consistent : before.matcher.Consistent) :
    after.matcher.Consistent := by
  cases change with
  | resetTo text => exact consistent.resetTo text
  | region restricted => exact consistent.region restricted
  | useAnchoringBounds value => exact consistent.useAnchoringBounds value
  | usePartialMatching changed => exact consistent.usePartialMatching changed
  | usePattern isAllowed isOpen => exact consistent.switch isOpen
  | close => exact consistent.closed

/-! ## Reachable matchers -/

/-- The matchers that a caller can get at with `allowed` patterns, while the engines
are `usable` whenever they are called. -/
inductive Reachable (allowed : Pattern σ → Prop) (usable : σ → Prop) : Matcher σ → Prop
  | created {pattern : Pattern σ} {text : Text} {settings : MatcherSettings}
      {matcher : Matcher σ} {trace after : Trace σ} (isAllowed : allowed pattern)
      (isUsable : usable trace.engines)
      (isCreated : (create pattern text settings).run trace = (.ok matcher, after)) :
      Reachable allowed usable matcher
  | performed {matcher : Matcher σ} (reached : Reachable allowed usable matcher)
      (operation : Operation σ) (isAllowed : operation.Allowed allowed) (trace : Trace σ)
      (isUsable : usable trace.engines) :
      Reachable allowed usable ((perform operation).exec ⟨matcher, trace⟩).2.matcher
  | advanced {matcher : Matcher σ} (reached : Reachable allowed usable matcher)
      (iteration : Iteration) (trace : Trace σ) (isUsable : usable trace.engines) :
      Reachable allowed usable (iteration.next.exec ⟨matcher, trace⟩).2.matcher

variable {allowed : Pattern σ → Prop} {usable : σ → Prop}

/-- What steps preserve, any number of them preserves. -/
theorem Steps.preserve {property : Configuration σ → Prop}
    (preserved : ∀ before after, Step before after → property before → property after)
    {before after : Configuration σ} (steps : Steps before after) (holds : property before) :
    property after := by
  induction steps with
  | refl => exact holds
  | tail _ step ih => exact preserved _ _ step ih

/-- What holds of every new matcher, and is preserved by steps and changes on usable
engines, holds of every reachable matcher. -/
theorem Reachable.induction (property : Matcher σ → Prop)
    (created : ∀ {pattern text settings matcher trace after}, allowed pattern →
      (create pattern text settings).run trace = (.ok matcher, after) → property matcher)
    (stepped : ∀ {before after}, Step before after → usable before.trace.engines →
      property before.matcher → property after.matcher ∧ usable after.trace.engines)
    (changed : ∀ {before after}, Change allowed before after → usable before.trace.engines →
      property before.matcher → property after.matcher)
    {matcher : Matcher σ} (reached : Reachable allowed usable matcher) : property matcher := by
  have run : ∀ {before after : Configuration σ}, Steps before after →
      usable before.trace.engines → property before.matcher → property after.matcher := by
    intro before after steps isUsable holds
    have both := @Steps.preserve σ
      (fun configuration => property configuration.matcher ∧ usable configuration.trace.engines)
      (fun _ _ step both => stepped step both.2 both.1) before after steps ⟨holds, isUsable⟩
    exact both.1
  induction reached with
  | created isAllowed isUsable isCreated => exact created isAllowed isCreated
  | @performed matcher _ operation isAllowed trace isUsable ih =>
      rcases perform_steps_or_change operation isAllowed ⟨matcher, trace⟩ with steps | change
      · exact run steps isUsable ih
      · exact changed change isUsable ih
  | @advanced matcher _ iteration trace isUsable ih =>
      exact run (next_steps iteration ⟨matcher, trace⟩) isUsable ih

theorem Reachable.mono {usable' : σ → Prop} (weaker : ∀ engines, usable engines → usable' engines)
    {matcher : Matcher σ} (reached : Reachable allowed usable matcher) :
    Reachable allowed usable' matcher := by
  induction reached with
  | created isAllowed isUsable isCreated =>
      exact .created isAllowed (weaker _ isUsable) isCreated
  | performed _ operation isAllowed trace isUsable ih =>
      exact .performed ih operation isAllowed trace (weaker _ isUsable)
  | advanced _ iteration trace isUsable ih =>
      exact .advanced ih iteration trace (weaker _ isUsable)

/-- Only an open pattern makes a matcher, which then differs from the initial one in its
settings at most. -/
theorem exists_initial_of_create {pattern : Pattern σ} {text : Text} {settings : MatcherSettings}
    {matcher : Matcher σ} {trace after : Trace σ}
    (isCreated : (create pattern text settings).run trace = (.ok matcher, after)) :
    pattern.isClosed = false ∧ ∃ stack,
      (initial pattern text settings.anchoringBounds stack).usePartialMatching
        settings.partialMatching = .ok matcher := by
  rw [create_run] at isCreated
  cases isOpen : pattern.isClosed with
  | true =>
      rw [isOpen, if_pos rfl] at isCreated
      cases congrArg Prod.fst isCreated
  | false =>
      rw [isOpen, if_neg Bool.false_ne_true] at isCreated
      exact ⟨rfl, _, congrArg Prod.fst isCreated⟩

theorem create_consistent {pattern : Pattern σ} {text : Text} {settings : MatcherSettings}
    {matcher : Matcher σ} {trace after : Trace σ}
    (isCreated : (create pattern text settings).run trace = (.ok matcher, after)) :
    matcher.Consistent ∧ matcher.pattern = pattern := by
  obtain ⟨isOpen, stack, changed⟩ := exists_initial_of_create isCreated
  constructor
  · exact (initial_consistent isOpen text settings.anchoringBounds stack).usePartialMatching
      changed
  · rw [(usePartialMatching_eq_ok changed).1]
    rfl

/-- A step goes on with the same pattern and the same text. -/
theorem Step.same {before after : Configuration σ} (step : Step before after)
    (consistent : before.matcher.Consistent) :
    after.matcher.pattern = before.matcher.pattern ∧
      after.matcher.text = before.matcher.text := by
  cases step with
  | search start anchoring inside =>
      rw [search_exec consistent]
      dsimp only
      generalize ((before.matcher.seen.attempt before.matcher.seen.seenView start anchoring).run
        before.trace).1 = attempted
      cases attempted with
      | error fault => exact ⟨rfl, rfl⟩
      | ok state => cases state <;> exact ⟨rfl, rfl⟩
  | exhaust => exact ⟨rfl, rfl⟩
  | clearMatch => exact ⟨rfl, rfl⟩
  | reset => exact ⟨rfl, rfl⟩
  | append template =>
      rcases exists_appendReplacement_eq before.matcher template with ⟨cursor, appended⟩
      rw [appended]
      exact ⟨rfl, rfl⟩

/-- A change keeps the pattern or switches to an allowed one. -/
theorem Change.isAllowed {before after : Configuration σ} (change : Change allowed before after)
    (isAllowed : allowed before.matcher.pattern) : allowed after.matcher.pattern := by
  cases change with
  | resetTo text => exact isAllowed
  | region restricted =>
      rcases region_eq_ok restricted with ⟨first, last, -, -, -, rfl⟩
      exact isAllowed
  | useAnchoringBounds value => exact isAllowed
  | usePartialMatching changed =>
      rcases usePartialMatching_eq_ok changed with ⟨rfl, -⟩
      exact isAllowed
  | usePattern isAllowed' isOpen => exact isAllowed'
  | close => exact isAllowed

/-- The parts of a reachable matcher fit together, and its pattern is allowed. -/
theorem Reachable.consistent {matcher : Matcher σ} (reached : Reachable allowed usable matcher) :
    matcher.Consistent ∧ allowed matcher.pattern := by
  have everywhere : Reachable allowed (fun _ => True) matcher := reached.mono fun _ _ => trivial
  apply everywhere.induction fun matcher => matcher.Consistent ∧ allowed matcher.pattern
  · intro pattern text settings matcher trace after isAllowed isCreated
    rcases create_consistent isCreated with ⟨consistent, rfl⟩
    exact ⟨consistent, isAllowed⟩
  · intro before after step _ both
    refine ⟨⟨step.consistent both.1, ?_⟩, trivial⟩
    rw [(step.same both.1).1]
    exact both.2
  · intro before after change _ both
    exact ⟨change.consistent both.1, change.isAllowed both.2⟩

/-! ## Held matches -/

/-- Matchers that hold the same match, or lack one, in the same region of the same text. -/
structure HoldsSame (matcher other : Matcher σ) : Prop where
  pattern : other.pattern = matcher.pattern
  text : other.text = matcher.text
  regionStart : other.regionStart = matcher.regionStart
  regionEnd : other.regionEnd = matcher.regionEnd
  state : other.state = matcher.state

theorem create_state {pattern : Pattern σ} {text : Text} {settings : MatcherSettings}
    {matcher : Matcher σ} {trace after : Trace σ}
    (isCreated : (create pattern text settings).run trace = (.ok matcher, after)) :
    matcher.state = .fresh := by
  obtain ⟨-, stack, changed⟩ := exists_initial_of_create isCreated
  rw [(usePartialMatching_eq_ok changed).1]
  rfl

/-- What holds without a match, depends on the match and its region only, and is preserved by
searches on usable engines, holds of every reachable matcher. -/
theorem Reachable.held_induction (property : Matcher σ → Prop)
    (unfound : ∀ {matcher : Matcher σ}, (∀ spans mark, matcher.state ≠ .found spans mark) →
      property matcher)
    (same : ∀ {matcher other : Matcher σ}, matcher.HoldsSame other → property matcher →
      property other)
    (searched : ∀ {configuration : Configuration σ} {start : Nat} (anchoring : Anchoring),
      configuration.matcher.Consistent → allowed configuration.matcher.pattern →
      start ≤ configuration.matcher.text.length → usable configuration.trace.engines →
      property configuration.matcher →
      property ((search start anchoring).exec configuration).2.matcher ∧
        usable ((search start anchoring).exec configuration).2.trace.engines)
    {matcher : Matcher σ} (reached : Reachable allowed usable matcher) : property matcher := by
  -- Steps are understood of consistent matchers only, so the induction carries that along.
  have both : (matcher.Consistent ∧ allowed matcher.pattern) ∧ property matcher := by
    apply reached.induction fun matcher =>
      (matcher.Consistent ∧ allowed matcher.pattern) ∧ property matcher
    · intro pattern text settings matcher trace after isAllowed isCreated
      have isFresh := create_state isCreated
      rcases create_consistent isCreated with ⟨consistent, rfl⟩
      refine ⟨⟨consistent, isAllowed⟩, unfound fun spans mark => ?_⟩
      rw [isFresh]
      exact nofun
    · rintro before after step isUsable ⟨⟨consistent, isAllowed⟩, holds⟩
      refine ⟨⟨⟨step.consistent consistent, ?_⟩, ?_⟩, ?_⟩
      · rw [(step.same consistent).1]
        exact isAllowed
      · cases step with
        | search start anchoring inside =>
            exact (searched anchoring consistent isAllowed (inside consistent) isUsable holds).1
        | exhaust => exact unfound fun _ _ => nofun
        | clearMatch => exact unfound fun _ _ => nofun
        | reset => exact unfound fun _ _ => nofun
        | append template =>
            rcases exists_appendReplacement_eq before.matcher template with ⟨cursor, appended⟩
            rw [appended]
            exact @same before.matcher _ ⟨rfl, rfl, rfl, rfl, rfl⟩ holds
      · cases step with
        | search start anchoring inside =>
            exact (searched anchoring consistent isAllowed (inside consistent) isUsable holds).2
        | exhaust => exact isUsable
        | clearMatch => exact isUsable
        | reset => exact isUsable
        | append template => exact isUsable
    · rintro before after change - ⟨⟨consistent, isAllowed⟩, holds⟩
      refine ⟨⟨change.consistent consistent, change.isAllowed isAllowed⟩, ?_⟩
      cases change with
      | resetTo text => exact unfound fun _ _ => nofun
      | region restricted =>
          rcases region_eq_ok restricted with ⟨first, last, -, -, -, rfl⟩
          exact unfound fun _ _ => nofun
      | useAnchoringBounds value => exact unfound fun _ _ => nofun
      | usePartialMatching changed =>
          rcases usePartialMatching_eq_ok changed with ⟨rfl, -⟩
          exact @same before.matcher _ ⟨rfl, rfl, rfl, rfl, rfl⟩ holds
      | usePattern isAllowed isOpen => exact unfound fun _ _ => nofun
      | close => exact @same before.matcher _ ⟨rfl, rfl, rfl, rfl, rfl⟩ holds
  exact both.2

end Matcher

end RegexMatching
