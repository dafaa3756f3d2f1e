import Mathlib.Logic.Relation
import RegexMatching.Matcher.Operation
import RegexMatching.Proofs.Attempt

/-!
# Operations in steps

An operation on a matcher either searches, in any number of steps that keep the
pattern, the text and the settings, or makes one change that asks no engine for a
match.  What every step and every change preserves, every operation preserves.
-/

namespace RegexMatching

namespace Matcher

variable {σ : Type}

/-! ## Searching operations -/

theorem find_exec (configuration : Configuration σ) :
    find.exec configuration =
      if configuration.matcher.isExhausted then (.ok false, configuration)
      else
        match configuration.matcher.nextStart? with
        | some start => (search start .search).exec configuration
        | none =>
            (.ok false,
              { configuration with
                matcher := configuration.matcher.settle .search (.noMatch false) }) := by
  simp only [find, Matching.exec_bind, Matching.exec_get]
  split
  · rfl
  · cases configuration.matcher.nextStart? <;> rfl

theorem findFrom_exec (start : Number) (configuration : Configuration σ) :
    (findFrom start).exec configuration =
      match start.toIndex? configuration.matcher.text.length with
      | none => (.error (.startOutOfRange start), configuration)
      | some index =>
          (search index .search).exec
            { configuration with matcher := configuration.matcher.reset } := by
  simp only [findFrom, Matching.exec_bind, Matching.exec_get]
  cases start.toIndex? configuration.matcher.text.length with
  | none => rfl
  | some index => rfl

theorem lookingAt_exec (configuration : Configuration σ) :
    lookingAt.exec configuration =
      (search configuration.matcher.regionStart .lookingAt).exec configuration := by
  simp only [lookingAt, Matching.exec_bind, Matching.exec_get]

theorem matchWhole_exec (configuration : Configuration σ) :
    matchWhole.exec configuration =
      (search configuration.matcher.regionStart .whole).exec configuration := by
  simp only [matchWhole, Matching.exec_bind, Matching.exec_get]

/-! ## Where a search goes on -/

/-- The offset behind a span, one code point further when the span is empty. -/
def stepBehind (text : Text) (span : Span) : Int :=
  if span.start = span.stop then
    let isPair := decide (0 ≤ span.stop) && text.isPairAt span.stop.toNat
    span.stop + (if isPair then 2 else 1)
  else
    span.stop

/-- The offset behind the last match, or where the region starts. -/
def behind (matcher : Matcher σ) : Int :=
  match matcher.previous with
  | none => matcher.regionStart
  | some span => stepBehind matcher.text span

theorem nextStart?_eq (matcher : Matcher σ) :
    matcher.nextStart? =
      if (matcher.regionEnd : Int) < max matcher.behind matcher.regionStart then none
      else some (max matcher.behind matcher.regionStart).toNat :=
  rfl

theorem eq_max_of_nextStart? {matcher : Matcher σ} {start : Nat}
    (next : matcher.nextStart? = some start) :
    (start : Int) = max matcher.behind matcher.regionStart ∧ start ≤ matcher.regionEnd := by
  rw [nextStart?_eq] at next
  split at next
  · contradiction
  · rw [Option.some.injEq] at next
    omega

/-- A search goes on inside the region. -/
theorem mem_region_of_nextStart? {matcher : Matcher σ} {start : Nat}
    (next : matcher.nextStart? = some start) :
    matcher.regionStart ≤ start ∧ start ≤ matcher.regionEnd := by
  obtain ⟨goesOn, inside⟩ := eq_max_of_nextStart? next
  omega

/-- The search for the next match finds nothing, unless it is a search from where it goes on. -/
theorem exists_find_exec_eq_search {configuration : Configuration σ}
    (isTried : (find.exec configuration).1 ≠ .ok false) :
    ∃ start, configuration.matcher.nextStart? = some start ∧
      find.exec configuration = (search start .search).exec configuration := by
  rw [find_exec] at isTried ⊢
  split at isTried
  · exact absurd rfl isTried
  · next notExhausted =>
    rw [if_neg notExhausted]
    cases next : configuration.matcher.nextStart? with
    | none =>
        rw [next] at isTried
        exact absurd rfl isTried
    | some start => exact ⟨start, rfl, rfl⟩

theorem toIndex?_le {number : Number} {bound index : Nat}
    (isIndex : number.toIndex? bound = some index) : index ≤ bound := by
  unfold Number.toIndex? at isIndex
  split at isIndex
  · split at isIndex
    · next le =>
        rw [Option.some.injEq] at isIndex
        exact isIndex ▸ le
    · contradiction
  · contradiction

/-- A search from an offset is refused, or starts again and searches from inside the text. -/
theorem findFrom_exec_cases (start : Number) (configuration : Configuration σ) :
    (findFrom start).exec configuration = (.error (.startOutOfRange start), configuration) ∨
      ∃ index ≤ configuration.matcher.text.length,
        (findFrom start).exec configuration =
          (search index .search).exec
            { configuration with matcher := configuration.matcher.reset } := by
  rw [findFrom_exec]
  cases isIndex : start.toIndex? configuration.matcher.text.length with
  | none => exact .inl rfl
  | some index => exact .inr ⟨index, toIndex?_le isIndex, rfl⟩

end Matcher

/-! ## Switching and closing -/

namespace Configuration

variable {σ : Type}

/-- A matcher that has switched to another pattern, with a stack of its engine. -/
def switch (configuration : Configuration σ) (pattern : Pattern σ) : Configuration σ :=
  let matcher := configuration.matcher
  let dropped := (matcher.pattern.adapter.engine.dropStack matcher.stack).run
    configuration.trace.engines
  let made := pattern.adapter.engine.makeStack.run dropped.2
  { matcher := Matcher.clearMatch { matcher.prepareFor pattern with
      pattern
      stack := made.1
      partialMatching := matcher.partialMatching && Matcher.canMatchPartially pattern }
    trace := { configuration.trace with engines := made.2 } }

/-- A matcher that has given its stack back. -/
def closed (configuration : Configuration σ) : Configuration σ :=
  let matcher := configuration.matcher
  let dropped := (matcher.pattern.adapter.engine.dropStack matcher.stack).run
    configuration.trace.engines
  { matcher := { matcher with stack := 0 }
    trace := { configuration.trace with engines := dropped.2 } }

end Configuration

namespace Matcher

variable {σ : Type}

theorem usePattern_run (configuration : Configuration σ) (pattern : Pattern σ) :
    (configuration.matcher.usePattern pattern).run configuration.trace =
      if pattern.isClosed then (.error .closedPatternGiven, configuration.trace)
      else
        (.ok (configuration.switch pattern).matcher, (configuration.switch pattern).trace) := by
  unfold usePattern
  cases pattern.isClosed with
  | true => rfl
  | false =>
      simp only [Bool.false_eq_true, if_false, Work.run_bind, Adapter.releaseStack_run,
        Adapter.createStack_run]
      rfl

theorem close_run (configuration : Configuration σ) :
    configuration.matcher.close.run configuration.trace =
      (.ok configuration.closed.matcher, configuration.closed.trace) := by
  rw [close, Work.run_bind, Adapter.releaseStack_run]
  rfl

/-- Appending moves the append position at most. -/
theorem exists_appendReplacement_eq (matcher : Matcher σ) (template : Text) :
    ∃ cursor, (matcher.appendReplacement template).2 = { matcher with appendCursor := cursor } := by
  unfold appendReplacement
  split
  · dsimp only
    split
    · exact ⟨matcher.appendCursor, rfl⟩
    · exact ⟨_, rfl⟩
  · exact ⟨matcher.appendCursor, rfl⟩

/-! ## Steps and changes -/

/-- One step of a searching operation. -/
inductive Step : Configuration σ → Configuration σ → Prop
  | search (configuration : Configuration σ) (start : Nat) (anchoring : Anchoring)
      (inside : configuration.matcher.Consistent → start ≤ configuration.matcher.text.length) :
      Step configuration ((search start anchoring).exec configuration).2
  | exhaust (configuration : Configuration σ) :
      Step configuration
        { configuration with matcher := configuration.matcher.settle .search (.noMatch false) }
  | clearMatch (configuration : Configuration σ) :
      Step configuration { configuration with matcher := configuration.matcher.clearMatch }
  | reset (configuration : Configuration σ) :
      Step configuration { configuration with matcher := configuration.matcher.reset }
  | append (configuration : Configuration σ) (template : Text) :
      Step configuration
        { configuration with matcher := (configuration.matcher.appendReplacement template).2 }

/-- Any number of steps. -/
abbrev Steps : Configuration σ → Configuration σ → Prop :=
  Relation.ReflTransGen Step

/-- A change that asks for no match.  The patterns that a matcher may switch to are
`allowed`. -/
inductive Change (allowed : Pattern σ → Prop) : Configuration σ → Configuration σ → Prop
  | resetTo (configuration : Configuration σ) (text : Text) :
      Change allowed configuration
        { configuration with matcher := configuration.matcher.resetTo text }
  | region (configuration : Configuration σ) {start stop : Number} {matcher : Matcher σ}
      (restricted : configuration.matcher.region start stop = .ok matcher) :
      Change allowed configuration { configuration with matcher }
  | useAnchoringBounds (configuration : Configuration σ) (value : Bool) :
      Change allowed configuration
        { configuration with matcher := configuration.matcher.useAnchoringBounds value }
  | usePartialMatching (configuration : Configuration σ) {value : Bool} {matcher : Matcher σ}
      (changed : configuration.matcher.usePartialMatching value = .ok matcher) :
      Change allowed configuration { configuration with matcher }
  | usePattern (configuration : Configuration σ) {pattern : Pattern σ}
      (isAllowed : allowed pattern) (isOpen : pattern.isClosed = false) :
      Change allowed configuration (configuration.switch pattern)
  | close (configuration : Configuration σ) : Change allowed configuration configuration.closed

/-! ## What searches keep -/

/-- A relation between an earlier configuration and a later one that holds across one search,
none, and several in turn. -/
structure KeptBySearches (kept : Configuration σ → Configuration σ → Prop) : Prop where
  refl : ∀ configuration, kept configuration configuration
  trans : ∀ {before between after}, kept before between → kept between after → kept before after
  find : ∀ configuration, kept configuration (find.exec configuration).2

namespace KeptBySearches

variable {kept : Configuration σ → Configuration σ → Prop} (isKept : KeptBySearches kept)

include isKept

theorem bind {α β : Type} {matching : Matching σ α} {next : α → Matching σ β}
    {configuration : Configuration σ} (first : kept configuration (matching.exec configuration).2)
    (second : ∀ value after, kept after ((next value).exec after).2) :
    kept configuration ((matching >>= next).exec configuration).2 := by
  rw [Matching.exec_bind]
  rcases executed : matching.exec configuration with ⟨outcome, after⟩
  rw [executed] at first
  cases outcome with
  | error fault => exact first
  | ok value => exact isKept.trans first (second value after)

theorem findAll (count : Nat) (configuration : Configuration σ) :
    kept configuration ((Matcher.findAll count).exec configuration).2 := by
  induction count generalizing configuration with
  | zero => exact isKept.refl configuration
  | succ count ih =>
      apply isKept.bind (isKept.find configuration)
      intro isFound after
      cases isFound with
      | false => exact isKept.refl after
      | true =>
          apply isKept.bind (isKept.refl after)
          intro matcher after'
          exact isKept.bind (ih after') fun _ _ => isKept.refl _

/-- Only the first step of an iterator forgets the last match. -/
theorem next {iteration : Iteration} (clears : iteration = .notStarted →
      ∀ configuration, kept configuration
        { configuration with matcher := configuration.matcher.clearMatch })
    (configuration : Configuration σ) :
    kept configuration (iteration.next.exec configuration).2 := by
  have searches : ∀ configuration, kept configuration
      ((do
        if ← Matcher.find then
          return some (← get).snapshot
        else
          return none : Matching σ (Option Snapshot)).exec configuration).2 := by
    intro configuration
    apply isKept.bind (isKept.find configuration)
    intro isFound after
    cases isFound <;> exact isKept.refl after
  cases iteration with
  | ended => exact isKept.refl configuration
  | running => exact searches configuration
  | notStarted => exact isKept.trans (clears rfl configuration) (searches _)

theorem results (clears : ∀ configuration, kept configuration
      { configuration with matcher := configuration.matcher.clearMatch })
    (iteration : Iteration) (count : Nat) (configuration : Configuration σ) :
    kept configuration ((Matcher.results iteration count).exec configuration).2 := by
  induction count generalizing iteration configuration with
  | zero => exact isKept.refl configuration
  | succ count ih =>
      apply isKept.bind (isKept.next (fun _ => clears) configuration)
      intro snapshot? after
      cases snapshot? with
      | none => exact isKept.refl after
      | some snapshot => exact isKept.bind (ih _ after) fun _ _ => isKept.refl _

end KeptBySearches

/-! ## Searching operations in steps -/

/-- Work in two parts takes the steps of both. -/
theorem steps_bind {α β : Type} {matching : Matching σ α} {next : α → Matching σ β}
    {configuration : Configuration σ}
    (first : Steps configuration (matching.exec configuration).2)
    (second : ∀ value after, matching.exec configuration = (.ok value, after) →
      Steps after ((next value).exec after).2) :
    Steps configuration ((matching >>= next).exec configuration).2 := by
  rw [Matching.exec_bind]
  rcases executed : matching.exec configuration with ⟨outcome, after⟩
  rw [executed] at first
  cases outcome with
  | error fault => exact first
  | ok value => exact first.trans (second value after executed)

theorem find_steps (configuration : Configuration σ) :
    Steps configuration (find.exec configuration).2 := by
  rw [find_exec]
  split
  · exact .refl
  · cases next : configuration.matcher.nextStart? with
    | none => exact .single (.exhaust configuration)
    | some start =>
        exact .single (.search configuration start .search
          fun consistent =>
            Nat.le_trans (mem_region_of_nextStart? next).2 consistent.regionEnd_le)

theorem findFrom_steps (start : Number) (configuration : Configuration σ) :
    Steps configuration ((findFrom start).exec configuration).2 := by
  rw [findFrom_exec]
  cases index : start.toIndex? configuration.matcher.text.length with
  | none => exact .refl
  | some index' =>
      exact .head (.reset configuration) (.single (.search _ index' .search
        fun _ => toIndex?_le index))

theorem lookingAt_steps (configuration : Configuration σ) :
    Steps configuration (lookingAt.exec configuration).2 := by
  rw [lookingAt_exec]
  apply Relation.ReflTransGen.single
  apply Step.search configuration _ .lookingAt
  intro consistent
  exact consistent.regionStart_le

theorem matchWhole_steps (configuration : Configuration σ) :
    Steps configuration (matchWhole.exec configuration).2 := by
  rw [matchWhole_exec]
  apply Relation.ReflTransGen.single
  apply Step.search configuration _ .whole
  intro consistent
  exact consistent.regionStart_le

theorem steps_keptBySearches : KeptBySearches (@Steps σ) where
  refl _ := .refl
  trans first second := first.trans second
  find := find_steps

/-- A step of an iterator over matches is a search, behind a fresh start if it is the
first. -/
theorem next_steps (iteration : Iteration) (configuration : Configuration σ) :
    Steps configuration (iteration.next.exec configuration).2 :=
  steps_keptBySearches.next (fun _ configuration => .single (.clearMatch configuration))
    configuration

theorem findAll_steps (count : Nat) (configuration : Configuration σ) :
    Steps configuration ((findAll count).exec configuration).2 :=
  steps_keptBySearches.findAll count configuration

theorem results_steps (iteration : Iteration) (count : Nat) (configuration : Configuration σ) :
    Steps configuration ((results iteration count).exec configuration).2 :=
  steps_keptBySearches.results (fun configuration => .single (.clearMatch configuration))
    iteration count configuration

theorem appendNext_steps (replacement : Replacement) (number : Nat) (written : Text)
    (configuration : Configuration σ) :
    Steps configuration ((appendNext replacement number written).exec configuration).2 := by
  rw [appendNext, Matching.exec_bind, Matching.exec_get]
  dsimp only
  rw [Matching.exec_bind, Matching.exec_ofWork, Work.run_ofExcept]
  cases replacement.templateFor number configuration.matcher.snapshot with
  | error fault => exact .refl
  | ok template =>
      have appended : Step configuration
          { configuration with
            matcher := (configuration.matcher.appendReplacement template).2 } :=
        .append configuration template
      dsimp only
      rw [Matching.exec_bind, Matching.exec_set]
      dsimp only
      cases (configuration.matcher.appendReplacement template).1.fault with
      | some fault => exact .single appended
      | none => exact .single appended

theorem replaceFrom_steps (replacement : Replacement) (all : Bool) (fuel number : Nat)
    (written : Text) (configuration : Configuration σ) :
    Steps configuration
      ((replaceFrom replacement all fuel number written).exec configuration).2 := by
  induction fuel generalizing number written configuration with
  | zero => exact .refl
  | succ fuel ih =>
      apply steps_bind (appendNext_steps replacement number written configuration)
      intro written' after _
      cases all with
      | false => exact .refl
      | true =>
          apply steps_bind (find_steps after)
          intro isMore after' _
          cases isMore with
          | true => exact ih _ _ after'
          | false => exact .refl

theorem replace_steps (replacement : Replacement) (all : Bool) (configuration : Configuration σ) :
    Steps configuration ((replace replacement all).exec configuration).2 := by
  rw [replace, Matching.exec_bind, Matching.exec_modify]
  refine .head (.reset configuration) (steps_bind (find_steps _) fun isFound after _ => ?_)
  cases isFound with
  | true =>
      exact replaceFrom_steps replacement all (matchLimit + after.matcher.text.length) 0 [] after
  | false => exact .refl

/-! ## All operations -/

/-- Whether an operation switches to allowed patterns only. -/
def Operation.Allowed (allowed : Pattern σ → Prop) : Operation σ → Prop
  | .usePattern pattern => allowed pattern
  | _ => True

theorem Operation.Allowed.mono {allowed weaker : Pattern σ → Prop} {operation : Operation σ}
    (isAllowed : operation.Allowed allowed)
    (implied : ∀ pattern, allowed pattern → weaker pattern) : operation.Allowed weaker := by
  cases operation with
  | usePattern pattern => exact implied pattern isAllowed
  | _ => trivial

theorem change_exec (work : Matcher σ → Work σ (Matcher σ)) (configuration : Configuration σ) :
    (change work).exec configuration =
      match (work configuration.matcher).run configuration.trace with
      | (.ok matcher, trace) => (.ok (), ⟨matcher, trace⟩)
      | (.error fault, trace) => (.error fault, { configuration with trace }) := by
  simp only [change, Matching.exec_bind, Matching.exec_get, Matching.exec_ofWork]
  rcases (work configuration.matcher).run configuration.trace with ⟨outcome, trace⟩
  cases outcome <;> rfl

theorem perform_appendReplacement_exec (template : Text) (configuration : Configuration σ) :
    (perform (.appendReplacement template)).exec configuration =
      (match (configuration.matcher.appendReplacement template).1.fault with
        | some fault => .error fault
        | none => .ok .done,
        { configuration with
          matcher := (configuration.matcher.appendReplacement template).2 }) := by
  rw [perform, Matching.exec_bind, Matching.exec_get]
  dsimp only
  rw [Matching.exec_bind, Matching.exec_set]
  dsimp only
  cases (configuration.matcher.appendReplacement template).1.fault <;> rfl

theorem perform_appendReplacement (template : Text) (configuration : Configuration σ) :
    ((perform (.appendReplacement template)).exec configuration).2 =
      { configuration with
        matcher := (configuration.matcher.appendReplacement template).2 } := by
  rw [perform_appendReplacement_exec]

/-- An operation either searches in steps or makes one change at most. -/
theorem perform_steps_or_change {allowed : Pattern σ → Prop} (operation : Operation σ)
    (isAllowed : operation.Allowed allowed) (configuration : Configuration σ) :
    Steps configuration ((perform operation).exec configuration).2 ∨
      Change allowed configuration ((perform operation).exec configuration).2 := by
  cases operation with
  | ask query => exact .inl .refl
  | find => exact .inl (steps_bind (find_steps configuration) fun _ _ _ => .refl)
  | findFrom start =>
      exact .inl (steps_bind (findFrom_steps start configuration) fun _ _ _ => .refl)
  | lookingAt => exact .inl (steps_bind (lookingAt_steps configuration) fun _ _ _ => .refl)
  | matchWhole => exact .inl (steps_bind (matchWhole_steps configuration) fun _ _ _ => .refl)
  | hasPartialMatch => exact .inl .refl
  | mark => exact .inl .refl
  | regionStart => exact .inl .refl
  | regionEnd => exact .inl .refl
  | source => exact .inl .refl
  | describe => exact .inl .refl
  | findAll count =>
      exact .inl (steps_bind (findAll_steps count configuration) fun _ _ _ => .refl)
  | results count =>
      exact .inl (steps_bind (results_steps .notStarted count configuration) fun _ _ _ => .refl)
  | region start stop =>
      rw [perform, Matching.exec_bind, change_exec, Work.run_ofExcept]
      cases restricted : configuration.matcher.region start stop with
      | error fault => exact .inl .refl
      | ok matcher => exact .inr (.region configuration restricted)
  | reset => exact .inl (.single (.reset configuration))
  | resetTo text => exact .inr (.resetTo configuration text)
  | useAnchoringBounds value => exact .inr (.useAnchoringBounds configuration value)
  | usePartialMatching value =>
      rw [perform, Matching.exec_bind, change_exec, Work.run_ofExcept]
      cases changed : configuration.matcher.usePartialMatching value with
      | error fault => exact .inl .refl
      | ok matcher => exact .inr (.usePartialMatching configuration changed)
  | usePattern pattern =>
      rw [perform, Matching.exec_bind, change_exec, usePattern_run]
      cases isOpen : pattern.isClosed with
      | true => exact .inl .refl
      | false => exact .inr (.usePattern configuration isAllowed isOpen)
  | appendReplacement template =>
      rw [perform_appendReplacement]
      exact .inl (.single (.append configuration template))
  | appendTail => exact .inl .refl
  | replaceAll replacement =>
      exact .inl (steps_bind (replace_steps replacement true configuration) fun _ _ _ => .refl)
  | replaceFirst replacement =>
      exact .inl (steps_bind (replace_steps replacement false configuration) fun _ _ _ => .refl)
  | close =>
      rw [perform, Matching.exec_bind, change_exec, close_run]
      exact .inr (.close configuration)

end Matcher

end RegexMatching
