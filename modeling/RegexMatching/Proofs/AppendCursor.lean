import RegexMatching.Proofs.Acts
import RegexMatching.Proofs.CanonicalSearches
import RegexMatching.Proofs.SearchLoops

/-!
# Where appending goes on

Appending a replacement moves the append position to the end of the match that is held,
whichever match that is.  The position stays in the region.  It goes forward as long as matches
are only searched for behind one another; an attempt at the region start, or a search that
starts again without a reset, may hold a match in front of it.
-/

namespace RegexMatching

namespace Matcher

variable {σ : Type} {usable : σ → Prop} {allowed : Pattern σ → Prop}

/-! ## What a search holds -/

/-- A match that an attempt finds lies behind its start and inside the region. -/
theorem attempt_inside {matcher : Matcher σ} (consistent : matcher.Consistent)
    (isPlain : matcher.pattern.canonicalEquivalence = false)
    (places : matcher.pattern.PlacesMatches usable) {start : Nat}
    (inside : start ≤ matcher.text.length) (anchoring : Anchoring) {trace : Trace σ}
    (isUsable : usable trace.engines) {spans : List Span} {mark : Option Text}
    (found : ((matcher.attempt matcher.seenView start anchoring).run trace).1 =
      .ok (.found spans mark)) :
    ∃ span, spans.head? = some span ∧ (start : Int) ≤ span.start ∧ span.start ≤ span.stop ∧
      span.stop ≤ matcher.regionEnd := by
  obtain ⟨place, report, starts, exchanged, isMatch, translated, -⟩ :=
    consistent.exists_report_of_attempt inside found
  have atPlace := consistent.isBoundary_of_placeOf? inside starts
  have placed := places.report_placed anchoring _ _ _ _ _ report isUsable
    (Utf8.isBoundary_bytesBefore atPlace) exchanged isMatch
  exact consistent.exists_span_of_placesMatch isPlain inside starts placed translated

/-- What a search from an offset on may make of a matcher. -/
inductive SearchEnd (matcher : Matcher σ) (start : Nat) (anchoring : Anchoring) :
    Matcher σ → Prop
  | failed : SearchEnd matcher start anchoring matcher.seen
  | fresh : SearchEnd matcher start anchoring (matcher.seen.settle anchoring .fresh)
  | noMatch (isPartial : Bool) :
      SearchEnd matcher start anchoring (matcher.seen.settle anchoring (.noMatch isPartial))
  | found {spans : List Span} {span : Span} (mark : Option Text)
      (isFirst : spans.head? = some span) (le_start : (start : Int) ≤ span.start)
      (ordered : span.start ≤ span.stop) (stop_le : span.stop ≤ matcher.regionEnd) :
      SearchEnd matcher start anchoring (matcher.seen.settle anchoring (.found spans mark))

theorem search_exec_end {configuration : Configuration σ}
    (consistent : configuration.matcher.Consistent)
    (isPlain : configuration.matcher.pattern.canonicalEquivalence = false)
    (places : configuration.matcher.pattern.PlacesMatches usable) {start : Nat}
    (inside : start ≤ configuration.matcher.text.length) (anchoring : Anchoring)
    (isUsable : usable configuration.trace.engines) :
    configuration.matcher.SearchEnd start anchoring
        ((search start anchoring).exec configuration).2.matcher ∧
      usable ((search start anchoring).exec configuration).2.trace.engines := by
  refine ⟨?_, search_usable consistent places.exchange_usable start anchoring isUsable⟩
  rw [search_exec consistent]
  dsimp only
  cases attempted : ((configuration.matcher.seen.attempt configuration.matcher.seen.seenView start
    anchoring).run configuration.trace).1 with
  | error fault => exact .failed
  | ok state =>
      cases state with
      | fresh => exact .fresh
      | noMatch isPartial => exact .noMatch isPartial
      | found spans mark =>
          obtain ⟨span, isFirst, leStart, ordered, leStop⟩ :=
            attempt_inside consistent.seen isPlain places inside anchoring isUsable attempted
          exact .found mark isFirst leStart ordered leStop

/-! ## The append position and the region -/

/-- A matcher that appends inside its region: a match that is held lies there, and so does the
append position. -/
structure AppendsInside (matcher : Matcher σ) : Prop where
  cursor_nonneg : 0 ≤ matcher.appendCursor
  cursor_le : matcher.appendCursor ≤ matcher.regionEnd
  held : ∀ spans mark, matcher.state = .found spans mark → ∃ span, spans.head? = some span ∧
    0 ≤ span.start ∧ span.start ≤ span.stop ∧ span.stop ≤ matcher.regionEnd

/-- The match that is held has a span, and appending moves the append position to its end. -/
theorem appendReplacement_of_found {matcher : Matcher σ} {spans : List Span}
    {mark : Option Text} {span : Span} (isFound : matcher.state = .found spans mark)
    (isFirst : spans.head? = some span) (template : Text) :
    matcher.appendReplacement template =
      let expansion := Template.expand matcher.snapshot.captures template
      (expansion.after (matcher.text.slice matcher.appendCursor span.start),
        if expansion.fault.isSome then matcher
        else { matcher with appendCursor := span.stop }) := by
  rw [appendReplacement, isFound]
  dsimp only
  rw [isFirst]
  cases faulty : (Template.expand matcher.snapshot.captures template).fault with
  | some fault => simp [Expansion.after, faulty]
  | none => simp [Expansion.after, faulty]

/-- Switching to another pattern keeps the append position and the region. -/
theorem appendCursor_switch (configuration : Configuration σ) (pattern : Pattern σ) :
    (configuration.switch pattern).matcher.appendCursor = configuration.matcher.appendCursor ∧
      (configuration.switch pattern).matcher.regionEnd = configuration.matcher.regionEnd := by
  change (configuration.matcher.prepareFor pattern).appendCursor = _ ∧
    (configuration.matcher.prepareFor pattern).regionEnd = _
  unfold prepareFor
  split <;> exact ⟨rfl, rfl⟩

theorem SearchEnd.appendsInside {matcher after : Matcher σ} {start : Nat} {anchoring : Anchoring}
    (ended : matcher.SearchEnd start anchoring after) (inside : matcher.AppendsInside) :
    after.AppendsInside := by
  cases ended with
  | failed => exact ⟨inside.cursor_nonneg, inside.cursor_le, inside.held⟩
  | fresh =>
      refine ⟨inside.cursor_nonneg, inside.cursor_le, fun spans mark isFound => ?_⟩
      cases isFound
  | noMatch isPartial =>
      refine ⟨inside.cursor_nonneg, inside.cursor_le, fun spans mark isFound => ?_⟩
      cases isFound
  | found mark isFirst leStart ordered leStop =>
      refine ⟨inside.cursor_nonneg, inside.cursor_le, fun spans' mark' isFound => ?_⟩
      cases isFound
      exact ⟨_, isFirst, Int.le_trans (Int.natCast_nonneg start) leStart, ordered, leStop⟩

/-- Without a match, only the append position counts. -/
theorem AppendsInside.of_fresh {matcher : Matcher σ} (isFresh : matcher.state = .fresh)
    (nonneg : 0 ≤ matcher.appendCursor) (le : matcher.appendCursor ≤ matcher.regionEnd) :
    matcher.AppendsInside := by
  refine ⟨nonneg, le, fun spans mark isFound => ?_⟩
  rw [isFresh] at isFound
  cases isFound

theorem AppendsInside.append {matcher : Matcher σ} (inside : matcher.AppendsInside)
    (template : Text) : (matcher.appendReplacement template).2.AppendsInside := by
  cases state : matcher.state with
  | fresh =>
      rw [appendReplacement, state]
      exact inside
  | noMatch isPartial =>
      rw [appendReplacement, state]
      exact inside
  | found spans mark =>
      obtain ⟨span, isFirst, leStart, ordered, leStop⟩ := inside.held spans mark state
      rw [appendReplacement_of_found state isFirst]
      dsimp only
      split
      · exact inside
      · exact ⟨Int.le_trans leStart ordered, leStop, inside.held⟩

section Reachable

variable (places : ∀ pattern, allowed pattern → pattern.canonicalEquivalence = false ∧
  pattern.PlacesMatches usable)

include places

theorem Step.appendsInside {before after : Configuration σ} (step : Step before after)
    (consistent : before.matcher.Consistent) (isAllowed : allowed before.matcher.pattern)
    (isUsable : usable before.trace.engines) (inside : before.matcher.AppendsInside) :
    after.matcher.AppendsInside ∧ usable after.trace.engines := by
  cases step with
  | search start anchoring startInside =>
      have plain := places _ isAllowed
      have ended := search_exec_end consistent plain.1 plain.2 (startInside consistent) anchoring
        isUsable
      exact ⟨ended.1.appendsInside inside, ended.2⟩
  | exhaust =>
      refine ⟨⟨inside.cursor_nonneg, inside.cursor_le, fun spans mark isFound => ?_⟩, isUsable⟩
      cases isFound
  | clearMatch =>
      exact ⟨.of_fresh rfl inside.cursor_nonneg inside.cursor_le, isUsable⟩
  | reset => exact ⟨.of_fresh rfl (Int.le_refl 0) (Int.natCast_nonneg _), isUsable⟩
  | append template => exact ⟨inside.append template, isUsable⟩

omit places in
theorem Change.appendsInside {before after : Configuration σ}
    (change : Change allowed before after) (inside : before.matcher.AppendsInside) :
    after.matcher.AppendsInside := by
  cases change with
  | resetTo text => exact .of_fresh rfl (Int.le_refl 0) (Int.natCast_nonneg _)
  | region restricted =>
      rcases region_eq_ok restricted with ⟨first, last, -, -, -, rfl⟩
      exact .of_fresh rfl (Int.le_refl 0) (Int.natCast_nonneg _)
  | useAnchoringBounds value => exact .of_fresh rfl inside.cursor_nonneg inside.cursor_le
  | usePartialMatching changed =>
      rcases usePartialMatching_eq_ok changed with ⟨rfl, -⟩
      exact ⟨inside.cursor_nonneg, inside.cursor_le, inside.held⟩
  | @usePattern pattern isAllowed isOpen =>
      have kept := appendCursor_switch before pattern
      refine .of_fresh rfl ?_ ?_
      · rw [kept.1]
        exact inside.cursor_nonneg
      · rw [kept.1, kept.2]
        exact inside.cursor_le
  | close => exact ⟨inside.cursor_nonneg, inside.cursor_le, inside.held⟩

/-- Every reachable matcher appends inside its region. -/
theorem Reachable.appendsInside {matcher : Matcher σ}
    (reached : matcher.Reachable allowed usable) : matcher.AppendsInside := by
  have all : (matcher.Consistent ∧ allowed matcher.pattern) ∧ matcher.AppendsInside := by
    apply reached.induction fun matcher =>
      (matcher.Consistent ∧ allowed matcher.pattern) ∧ matcher.AppendsInside
    · intro pattern text settings matcher trace after isAllowed isCreated
      obtain ⟨-, stack, changed⟩ := exists_initial_of_create isCreated
      have isFresh := create_state isCreated
      rcases create_consistent isCreated with ⟨consistent, rfl⟩
      have created := (usePartialMatching_eq_ok changed).1
      refine ⟨⟨consistent, isAllowed⟩, .of_fresh isFresh ?_ ?_⟩
      · rw [created]
        exact Int.le_refl 0
      · rw [created]
        exact Int.natCast_nonneg _
    · rintro before after step isUsable ⟨⟨consistent, isAllowed⟩, inside⟩
      have kept := step.appendsInside places consistent isAllowed isUsable inside
      exact ⟨⟨⟨step.consistent consistent, (step.same consistent).1 ▸ isAllowed⟩, kept.1⟩, kept.2⟩
    · rintro before after change - ⟨⟨consistent, isAllowed⟩, inside⟩
      exact ⟨⟨change.consistent consistent, change.isAllowed isAllowed⟩,
        change.appendsInside inside⟩
  exact all.2

end Reachable

/-! ## One act -/

/-- The span of the match that is held. -/
def heldSpan? (matcher : Matcher σ) : Option Span :=
  matcher.snapshot.spans.bind List.head?

theorem heldSpan?_of_found {matcher : Matcher σ} {spans : List Span} {mark : Option Text}
    (isFound : matcher.state = .found spans mark) : matcher.heldSpan? = spans.head? := by
  rw [heldSpan?, snapshot, isFound]
  rfl

namespace Act

/-- Whether an act starts appending over, with the position at the start of the text. -/
def startsOver (act : Act σ) (matcher : Matcher σ) : Bool :=
  match act with
  | perform (.findFrom start) => (start.toIndex? matcher.text.length).isSome
  | perform (.region start stop) => (matcher.region start stop).isOk
  | perform .reset | perform (.resetTo _) | perform (.replaceAll _)
  | perform (.replaceFirst _) => true
  | _ => false

/-- What an act pushes of the subject in front of a replacement. -/
def gap? (act : Act σ) (matcher : Matcher σ) : Option Span :=
  match act with
  | perform (.appendReplacement template) =>
      if (matcher.appendReplacement template).1.fault.isSome then none
      else matcher.heldSpan?.map fun span => ⟨matcher.appendCursor, span.start⟩
  | _ => none

theorem gap?_eq_none {act : Act σ}
    (notAppend : ∀ template, act ≠ .perform (.appendReplacement template))
    (matcher : Matcher σ) : act.gap? matcher = none := by
  unfold gap?
  split
  · next template => exact absurd rfl (notAppend template)
  · rfl

end Act

theorem search_exec_appendCursor (start : Nat) (anchoring : Anchoring)
    (configuration : Configuration σ) :
    ((search start anchoring).exec configuration).2.matcher.appendCursor =
      configuration.matcher.appendCursor := by
  have moved := search_exec_moveAppend start anchoring configuration.matcher configuration.trace
    configuration.matcher.appendCursor
  exact congrArg (fun done => done.2.matcher.appendCursor) moved

/-- Searches leave the append position. -/
theorem appendCursor_keptBySearches : KeptBySearches fun before after : Configuration σ =>
    after.matcher.appendCursor = before.matcher.appendCursor where
  refl _ := rfl
  trans first second := second.trans first
  find configuration := by
    have moved := find_exec_moveAppend configuration.matcher configuration.trace
      configuration.matcher.appendCursor
    exact congrArg (fun done => done.2.matcher.appendCursor) moved

/-- Appending a replacement pushes the gap in front of the match and what the template makes, and
moves the append position behind the match.  A fault leaves the position. -/
theorem appendReplacement_cases {matcher : Matcher σ} (inside : matcher.AppendsInside)
    (template : Text) :
    (matcher.appendReplacement template).2 = matcher ∧
        (Act.perform (.appendReplacement template)).gap? matcher = none ∨
      ∃ span, matcher.heldSpan? = some span ∧
        (Act.perform (.appendReplacement template)).gap? matcher =
          some ⟨matcher.appendCursor, span.start⟩ ∧
        matcher.written (.appendReplacement template) =
          matcher.text.slice matcher.appendCursor span.start ++
            (Template.expand matcher.snapshot.captures template).output ∧
        (matcher.appendReplacement template).2 = { matcher with appendCursor := span.stop } := by
  cases state : matcher.state with
  | fresh =>
      left
      rw [Act.gap?, appendReplacement, state]
      exact ⟨rfl, rfl⟩
  | noMatch isPartial =>
      left
      rw [Act.gap?, appendReplacement, state]
      exact ⟨rfl, rfl⟩
  | found spans mark =>
      obtain ⟨span, isFirst, -, -, -⟩ := inside.held spans mark state
      have isHeld : matcher.heldSpan? = some span := (heldSpan?_of_found state).trans isFirst
      have appended := appendReplacement_of_found state isFirst template
      cases faulty : (Template.expand matcher.snapshot.captures template).fault with
      | some fault =>
          left
          rw [Act.gap?, appended]
          simp [Expansion.after, faulty]
      | none =>
          refine .inr ⟨span, isHeld, ?_, ?_, ?_⟩
          · rw [Act.gap?, appended, isHeld]
            simp [Expansion.after, faulty]
          · rw [written, appended]
            rfl
          · rw [appended]
            dsimp only
            rw [faulty, ← state]
            rfl

/-- Only starting over and appending move the append position. -/
theorem Visit.appendCursor_eq (visit : Visit σ) {matcher : Matcher σ}
    (goesOn : visit.act.startsOver matcher = false)
    (notAppend : ∀ template, visit.act ≠ .perform (.appendReplacement template)) :
    (visit.result matcher).2.appendCursor = matcher.appendCursor := by
  have isKept := @appendCursor_keptBySearches σ
  rcases visit with ⟨act, trace⟩
  cases act with
  | advance iteration =>
      rw [result, Act.make, Matching.exec_bind_pure]
      exact isKept.next (fun _ _ => rfl) ⟨matcher, trace⟩
  | perform operation =>
      cases operation with
      | ask query => rfl
      | find =>
          rw [result, Act.make, perform, Matching.exec_bind_pure]
          exact isKept.find ⟨matcher, trace⟩
      | findFrom start =>
          have isOutside : start.toIndex? matcher.text.length = none :=
            Option.not_isSome_iff_eq_none.mp (Bool.eq_false_iff.mp goesOn)
          rw [result, Act.make, perform, Matching.exec_bind_pure, findFrom_exec, isOutside]
      | lookingAt =>
          rw [result, Act.make, perform, Matching.exec_bind_pure, lookingAt_exec]
          exact search_exec_appendCursor ..
      | matchWhole =>
          rw [result, Act.make, perform, Matching.exec_bind_pure, matchWhole_exec]
          exact search_exec_appendCursor ..
      | hasPartialMatch => rfl
      | mark => rfl
      | regionStart => rfl
      | regionEnd => rfl
      | source => rfl
      | describe => rfl
      | findAll count =>
          rw [result, Act.make, perform, Matching.exec_bind_pure]
          exact isKept.findAll count ⟨matcher, trace⟩
      | results count =>
          rw [result, Act.make, perform, Matching.exec_bind_pure]
          exact isKept.results (fun _ => rfl) .notStarted count ⟨matcher, trace⟩
      | region start stop =>
          rw [result, Act.make, perform, Matching.exec_bind, change_exec, Work.run_ofExcept]
          rw [Act.startsOver] at goesOn
          cases restricted : matcher.region start stop with
          | error fault => rfl
          | ok other =>
              rw [restricted] at goesOn
              cases goesOn
      | reset => cases goesOn
      | resetTo text => cases goesOn
      | useAnchoringBounds value => rfl
      | usePartialMatching value =>
          rw [result, Act.make, perform, Matching.exec_bind, change_exec, Work.run_ofExcept]
          cases changed : matcher.usePartialMatching value with
          | error fault => rfl
          | ok other =>
              rcases usePartialMatching_eq_ok changed with ⟨rfl, -⟩
              rfl
      | usePattern pattern =>
          rw [result, Act.make, perform, Matching.exec_bind, change_exec, usePattern_run]
          cases pattern.isClosed with
          | true => rfl
          | false => exact (appendCursor_switch ⟨matcher, trace⟩ pattern).1
      | appendReplacement template => exact absurd rfl (notAppend template)
      | appendTail => rfl
      | replaceAll replacement => cases goesOn
      | replaceFirst replacement => cases goesOn
      | close =>
          rw [result, Act.make, perform, Matching.exec_bind, change_exec, close_run]
          rfl

/-- An act that does not start over leaves the append position and pushes no gap, or appends the
replacement of the match that is held and moves the position to its end. -/
theorem Visit.appendCursor_cases (visit : Visit σ) {matcher : Matcher σ}
    (inside : matcher.AppendsInside) (goesOn : visit.act.startsOver matcher = false) :
    (visit.result matcher).2.appendCursor = matcher.appendCursor ∧
        visit.act.gap? matcher = none ∨
      ∃ template span, visit.act = .perform (.appendReplacement template) ∧
        matcher.heldSpan? = some span ∧
        visit.act.gap? matcher = some ⟨matcher.appendCursor, span.start⟩ ∧
        matcher.written (.appendReplacement template) =
          matcher.text.slice matcher.appendCursor span.start ++
            (Template.expand matcher.snapshot.captures template).output ∧
        (visit.result matcher).2.appendCursor = span.stop := by
  by_cases isAppend : ∃ template, visit.act = .perform (.appendReplacement template)
  · rcases visit with ⟨act, trace⟩
    obtain ⟨template, rfl⟩ := isAppend
    rw [result, Act.make, perform_appendReplacement]
    rcases appendReplacement_cases inside template with ⟨same, noGap⟩ | ⟨span, isHeld, rest⟩
    · exact .inl ⟨congrArg appendCursor same, noGap⟩
    · exact .inr ⟨template, span, rfl, isHeld, rest.1, rest.2.1, congrArg appendCursor rest.2.2⟩
  · have notAppend : ∀ template, visit.act ≠ .perform (.appendReplacement template) :=
      fun template isAct => isAppend ⟨template, isAct⟩
    exact .inl ⟨visit.appendCursor_eq goesOn notAppend, Act.gap?_eq_none notAppend matcher⟩

/-! ## Keeping pace -/

/-- A matcher whose append position has not got ahead of the search: the search goes on behind
it, and the match that is held, from which the search goes on, does not end in front of it. -/
structure InPace (matcher : Matcher σ) : Prop where
  cursor_le : matcher.appendCursor ≤ max matcher.behind matcher.regionStart
  held : ∀ spans mark, matcher.state = .found spans mark → ∃ span, spans.head? = some span ∧
    matcher.previous = some span ∧ span.start ≤ span.stop ∧ matcher.appendCursor ≤ span.stop

namespace InPace

variable {matcher : Matcher σ}

theorem of_unfound (unfound : ∀ spans mark, matcher.state ≠ .found spans mark)
    (le : matcher.appendCursor ≤ max matcher.behind matcher.regionStart) : matcher.InPace :=
  ⟨le, fun spans mark isFound => absurd isFound (unfound spans mark)⟩

/-- With the position at the start of the text, everything lies behind it. -/
theorem of_atStart (isFresh : matcher.state = .fresh) (atStart : matcher.appendCursor = 0) :
    matcher.InPace := by
  refine of_unfound (fun spans mark isFound => ?_) ?_
  · rw [isFresh] at isFound
    cases isFound
  · omega

/-- A search that does not start in front of the append position keeps pace. -/
theorem searched (inPace : matcher.InPace) {start : Nat} {anchoring : Anchoring}
    {after : Matcher σ} (ended : matcher.SearchEnd start anchoring after)
    (le_start : matcher.appendCursor ≤ start) : after.InPace := by
  cases ended with
  | failed => exact ⟨inPace.cursor_le, inPace.held⟩
  | fresh => exact of_unfound (fun spans mark isFound => by cases isFound) inPace.cursor_le
  | noMatch isPartial =>
      exact of_unfound (fun spans mark isFound => by cases isFound) inPace.cursor_le
  | @found spans span mark isFirst leSpan ordered leStop =>
      have atSpan := @behind_of_previous σ (matcher.seen.settle anchoring (.found spans mark)) span
        isFirst ordered
      have sameCursor : (matcher.seen.settle anchoring (.found spans mark)).appendCursor =
          matcher.appendCursor := rfl
      refine ⟨by omega, fun spans' mark' isFound => ?_⟩
      cases isFound
      exact ⟨span, isFirst, isFirst, ordered, by omega⟩

/-- Appending goes on behind the match that is held, where the search goes on as well. -/
theorem append (inPace : matcher.InPace) (template : Text) :
    (matcher.appendReplacement template).2.InPace ∧
      matcher.appendCursor ≤ (matcher.appendReplacement template).2.appendCursor := by
  cases state : matcher.state with
  | fresh =>
      rw [appendReplacement, state]
      exact ⟨inPace, Int.le_refl _⟩
  | noMatch isPartial =>
      rw [appendReplacement, state]
      exact ⟨inPace, Int.le_refl _⟩
  | found spans mark =>
      obtain ⟨span, isFirst, isPrevious, ordered, leStop⟩ := inPace.held spans mark state
      rw [appendReplacement_of_found state isFirst]
      dsimp only
      split
      · exact ⟨inPace, Int.le_refl _⟩
      · have atSpan := behind_of_previous isPrevious ordered
        refine ⟨⟨Int.le_trans atSpan.2 (Int.le_max_left _ _), fun spans' mark' isFound => ?_⟩,
          leStop⟩
        obtain ⟨rfl, -⟩ := MatchState.found.inj (state.symm.trans isFound)
        exact ⟨span, isFirst, isPrevious, ordered, Int.le_refl _⟩

end InPace

/-- A configuration in which searches and appends keep pace. -/
structure OnPace (usable : σ → Prop) (configuration : Configuration σ) : Prop where
  consistent : configuration.matcher.Consistent
  isPlain : configuration.matcher.pattern.canonicalEquivalence = false
  places : configuration.matcher.pattern.PlacesMatches usable
  isUsable : usable configuration.trace.engines
  inPace : configuration.matcher.InPace

namespace OnPace

variable {configuration : Configuration σ}

theorem search (onPace : OnPace usable configuration) {start : Nat}
    (inside : start ≤ configuration.matcher.text.length)
    (le_start : configuration.matcher.appendCursor ≤ start) (anchoring : Anchoring) :
    OnPace usable ((Matcher.search start anchoring).exec configuration).2 := by
  have ended := search_exec_end onPace.consistent onPace.isPlain onPace.places inside anchoring
    onPace.isUsable
  have step := Step.search configuration start anchoring fun _ => inside
  have same := (step.same onPace.consistent).1
  exact ⟨step.consistent onPace.consistent, same ▸ onPace.isPlain, same ▸ onPace.places, ended.2,
    onPace.inPace.searched ended.1 le_start⟩

theorem find (onPace : OnPace usable configuration) :
    OnPace usable (Matcher.find.exec configuration).2 := by
  rw [find_exec]
  split
  · exact onPace
  cases next : configuration.matcher.nextStart? with
  | none =>
      exact ⟨onPace.consistent.settle .search (.noMatch false), onPace.isPlain, onPace.places,
        onPace.isUsable,
        .of_unfound (fun spans mark isFound => by cases isFound) onPace.inPace.cursor_le⟩
  | some start =>
      obtain ⟨goesOn, inRegion⟩ := eq_max_of_nextStart? next
      refine onPace.search (Nat.le_trans inRegion onPace.consistent.regionEnd_le) ?_ .search
      -- The search goes on where the position has not got to yet.
      have behindCursor := onPace.inPace.cursor_le
      omega

theorem keptBySearches : KeptBySearches fun before after : Configuration σ =>
    OnPace usable before → OnPace usable after where
  refl _ := id
  trans first second := second ∘ first
  find _ := find

/-- A matcher that appends from the start of the text on is on pace. -/
theorem of_atStart {matcher : Matcher σ} {trace : Trace σ} (consistent : matcher.Consistent)
    (isPlain : matcher.pattern.canonicalEquivalence = false)
    (places : matcher.pattern.PlacesMatches usable) (isUsable : usable trace.engines)
    (isFresh : matcher.state = .fresh) (atStart : matcher.appendCursor = 0) :
    OnPace usable ⟨matcher, trace⟩ :=
  ⟨consistent, isPlain, places, isUsable, .of_atStart isFresh atStart⟩

theorem appendNext (replacement : Replacement) (number : Nat) (written : Text)
    (onPace : OnPace usable configuration) :
    OnPace usable ((Matcher.appendNext replacement number written).exec configuration).2 := by
  rw [Matcher.appendNext, Matching.exec_bind, Matching.exec_get]
  dsimp only
  rw [Matching.exec_bind, Matching.exec_ofWork, Work.run_ofExcept]
  cases replacement.templateFor number configuration.matcher.snapshot with
  | error fault => exact onPace
  | ok template =>
      have same := (Step.append configuration template).same onPace.consistent
      have appended : OnPace usable
          ⟨(configuration.matcher.appendReplacement template).2, configuration.trace⟩ :=
        ⟨onPace.consistent.append template, same.1 ▸ onPace.isPlain, same.1 ▸ onPace.places,
          onPace.isUsable, (onPace.inPace.append template).1⟩
      dsimp only
      rw [Matching.exec_bind, Matching.exec_set]
      dsimp only
      cases (configuration.matcher.appendReplacement template).1.fault with
      | some fault => exact appended
      | none => exact appended

theorem replaceFrom (replacement : Replacement) (all : Bool) (fuel number : Nat) (written : Text)
    (onPace : OnPace usable configuration) :
    OnPace usable
      ((Matcher.replaceFrom replacement all fuel number written).exec configuration).2 := by
  induction fuel generalizing number written configuration with
  | zero => exact onPace
  | succ fuel ih =>
      refine keptBySearches.bind (appendNext replacement number written) (fun written' after => ?_)
        onPace
      cases all with
      | false => exact id
      | true =>
          refine keptBySearches.bind find fun isMore after' => ?_
          cases isMore with
          | true => exact ih _ _
          | false => exact id

end OnPace

/-! ## Runs between two resets -/

/-- Whether an act goes on with the search, if it searches at all, and starts nothing again. -/
def Act.goesOn : Act σ → Bool
  | .perform .lookingAt | .perform .matchWhole | .advance .notStarted => false
  | .perform operation => !operation.restarts
  | .advance _ => true

theorem Act.startsOver_of_goesOn {act : Act σ} (goesOn : act.goesOn = true)
    (matcher : Matcher σ) : act.startsOver matcher = false := by
  cases act with
  | advance iteration => rfl
  | perform operation => cases operation <;> first | rfl | contradiction

/-- An act that goes on switches to no other pattern. -/
theorem Act.allowed_of_goesOn {act : Act σ} (goesOn : act.goesOn = true) : act.Allowed allowed := by
  cases act with
  | advance iteration => trivial
  | perform operation => cases operation <;> trivial

/-- A matcher that is new or has just started appending over. -/
inductive Started (allowed : Pattern σ → Prop) (usable : σ → Prop) : Matcher σ → Prop
  | created {pattern : Pattern σ} {text : Text} {settings : MatcherSettings}
      {matcher : Matcher σ} {trace after : Trace σ} (isAllowed : allowed pattern)
      (isUsable : usable trace.engines)
      (isCreated : (create pattern text settings).run trace = (.ok matcher, after)) :
      Started allowed usable matcher
  | startedOver {matcher : Matcher σ} (reached : matcher.Reachable allowed usable)
      {visit : Visit σ} (isAllowed : visit.act.Allowed allowed)
      (isUsable : usable visit.trace.engines) (startsOver : visit.act.startsOver matcher = true) :
      Started allowed usable (visit.result matcher).2

theorem Started.reachable {matcher : Matcher σ} (started : matcher.Started allowed usable) :
    matcher.Reachable allowed usable := by
  cases started with
  | created isAllowed isUsable isCreated => exact .created isAllowed isUsable isCreated
  | startedOver reached isAllowed isUsable startsOver => exact reached.visit isAllowed isUsable

/-- Starting over puts a matcher on pace, also where the search that follows fails. -/
theorem Visit.inPace_of_startsOver {matcher : Matcher σ} (consistent : matcher.Consistent)
    (isPlain : matcher.pattern.canonicalEquivalence = false)
    (places : matcher.pattern.PlacesMatches usable) (visit : Visit σ)
    (isUsable : usable visit.trace.engines) (startsOver : visit.act.startsOver matcher = true) :
    (visit.result matcher).2.InPace := by
  -- Each of these calls resets the matcher first, and a reset matcher is on pace.
  have resetPace : OnPace usable ⟨matcher.reset, visit.trace⟩ :=
    .of_atStart consistent.reset isPlain places isUsable rfl rfl
  have replacing : ∀ replacement all, OnPace usable
      ((replace replacement all).exec ⟨matcher, visit.trace⟩).2 := by
    intro replacement all
    rw [replace, Matching.exec_bind, Matching.exec_modify]
    refine OnPace.keptBySearches.bind OnPace.find (fun isFound after => ?_) resetPace
    cases isFound with
    | false => exact id
    | true => exact OnPace.replaceFrom replacement all (matchLimit + after.matcher.text.length) 0 []
  rcases visit with ⟨act, trace⟩
  cases act with
  | advance iteration => contradiction
  | perform operation =>
      cases operation with
      | findFrom start =>
          rw [result, Act.make, perform, Matching.exec_bind_pure, findFrom_exec]
          cases isIndex : start.toIndex? matcher.text.length with
          | none =>
              rw [Act.startsOver, isIndex] at startsOver
              contradiction
          | some index =>
              exact (resetPace.search (toIndex?_le isIndex) (Int.natCast_nonneg index)
                .search).inPace
      | region start stop =>
          rw [result, Act.make, perform, Matching.exec_bind, change_exec, Work.run_ofExcept]
          cases restricted : matcher.region start stop with
          | error fault =>
              rw [Act.startsOver, restricted] at startsOver
              contradiction
          | ok other =>
              rcases region_eq_ok restricted with ⟨first, last, -, -, -, rfl⟩
              exact .of_atStart rfl rfl
      | reset => exact resetPace.inPace
      | resetTo text => exact .of_atStart rfl rfl
      | replaceAll replacement =>
          rw [result, Act.make, perform, replaceAll, Matching.exec_bind_pure]
          exact (replacing replacement true).inPace
      | replaceFirst replacement =>
          rw [result, Act.make, perform, replaceFirst, Matching.exec_bind_pure]
          exact (replacing replacement false).inPace
      | _ => contradiction

theorem Started.inPace (places : ∀ pattern, allowed pattern →
      pattern.canonicalEquivalence = false ∧ pattern.PlacesMatches usable)
    {matcher : Matcher σ} (started : matcher.Started allowed usable) : matcher.InPace := by
  cases started with
  | created isAllowed isUsable isCreated =>
      obtain ⟨-, stack, changed⟩ := exists_initial_of_create isCreated
      refine .of_atStart (create_state isCreated) ?_
      rw [(usePartialMatching_eq_ok changed).1]
      rfl
  | @startedOver matcher reached visit isAllowed isUsable startsOver =>
      have both := reached.consistent
      have plain := places _ both.2
      exact visit.inPace_of_startsOver both.1 plain.1 plain.2 isUsable startsOver

/-- An act that goes on keeps pace. -/
theorem Visit.inPace {matcher : Matcher σ} (consistent : matcher.Consistent)
    (isPlain : matcher.pattern.canonicalEquivalence = false)
    (places : matcher.pattern.PlacesMatches usable) (inPace : matcher.InPace) (visit : Visit σ)
    (isUsable : usable visit.trace.engines) (goesOn : visit.act.goesOn = true) :
    (visit.result matcher).2.InPace := by
  have onPace : OnPace usable ⟨matcher, visit.trace⟩ :=
    ⟨consistent, isPlain, places, isUsable, inPace⟩
  rcases visit with ⟨act, trace⟩
  cases act with
  | advance iteration =>
      rw [result, Act.make, Matching.exec_bind_pure]
      refine (OnPace.keptBySearches.next ?_ _ onPace).inPace
      rintro rfl
      contradiction
  | perform operation =>
      cases operation with
      | ask query => exact inPace
      | find =>
          rw [result, Act.make, perform, Matching.exec_bind_pure]
          exact onPace.find.inPace
      | hasPartialMatch => exact inPace
      | mark => exact inPace
      | regionStart => exact inPace
      | regionEnd => exact inPace
      | source => exact inPace
      | describe => exact inPace
      | findAll count =>
          rw [result, Act.make, perform, Matching.exec_bind_pure]
          exact (OnPace.keptBySearches.findAll count _ onPace).inPace
      | usePartialMatching value =>
          rw [result, Act.make, perform, Matching.exec_bind, change_exec, Work.run_ofExcept]
          cases changed : matcher.usePartialMatching value with
          | error fault => exact inPace
          | ok other =>
              rcases usePartialMatching_eq_ok changed with ⟨rfl, -⟩
              exact ⟨inPace.cursor_le, inPace.held⟩
      | appendReplacement template =>
          rw [result, Act.make, perform_appendReplacement]
          exact (inPace.append template).1
      | appendTail => exact inPace
      | close =>
          rw [result, Act.make, perform, Matching.exec_bind, change_exec, close_run]
          exact ⟨inPace.cursor_le, inPace.held⟩
      | _ => contradiction

/-- The parts of the subject that acts push in front of replacements, and the tail behind them. -/
def pushedParts : List (Visit σ) → Matcher σ → List Span
  | [], matcher => [⟨matcher.appendCursor, matcher.regionEnd⟩]
  | visit :: rest, matcher =>
      (visit.act.gap? matcher).toList ++ pushedParts rest (visit.result matcher).2

theorem exists_found_of_heldSpan? {matcher : Matcher σ} {span : Span}
    (isHeld : matcher.heldSpan? = some span) :
    ∃ spans mark, matcher.state = .found spans mark ∧ spans.head? = some span := by
  unfold heldSpan? snapshot at isHeld
  cases state : matcher.state with
  | fresh => simp [state] at isHeld
  | noMatch isPartial => simp [state] at isHeld
  | found spans mark =>
      rw [state] at isHeld
      exact ⟨spans, mark, rfl, isHeld⟩

/-- On pace, an act that goes on pushes what lies between the old position and the new one. -/
theorem Visit.cursor_le (visit : Visit σ) {matcher : Matcher σ} (inside : matcher.AppendsInside)
    (inPace : matcher.InPace) (goesOn : visit.act.goesOn = true) :
    matcher.appendCursor ≤ (visit.result matcher).2.appendCursor ∧
      ∀ gap ∈ (visit.act.gap? matcher).toList, gap.start = matcher.appendCursor ∧
        gap.stop ≤ (visit.result matcher).2.appendCursor := by
  rcases visit.appendCursor_cases inside (Act.startsOver_of_goesOn goesOn matcher) with
    ⟨same, noGap⟩ | ⟨template, span, -, isHeld, isGap, -, moved⟩
  · refine ⟨same ▸ Int.le_refl _, fun gap mem => ?_⟩
    rw [noGap] at mem
    cases mem
  · obtain ⟨spans, mark, isFound, isFirst⟩ := exists_found_of_heldSpan? isHeld
    obtain ⟨span', isFirst', -, ordered, leStop⟩ := inPace.held spans mark isFound
    obtain rfl := Option.some.inj (isFirst.symm.trans isFirst')
    refine ⟨moved ▸ leStop, fun gap mem => ?_⟩
    rw [isGap, Option.toList_some, List.mem_singleton] at mem
    rw [mem, moved]
    exact ⟨rfl, ordered⟩

section Runs

variable (places : ∀ pattern, allowed pattern →
  pattern.canonicalEquivalence = false ∧ pattern.PlacesMatches usable)

include places

/-- A run that goes on from a matcher on pace pushes part behind part. -/
theorem pushedParts_pairwise (visits : List (Visit σ)) {matcher : Matcher σ}
    (reached : matcher.Reachable allowed usable) (inPace : matcher.InPace)
    (goOn : ∀ visit ∈ visits, visit.act.goesOn = true ∧ usable visit.trace.engines) :
    (pushedParts visits matcher).Pairwise (fun earlier later => earlier.stop ≤ later.start) ∧
      (∀ part ∈ pushedParts visits matcher, matcher.appendCursor ≤ part.start) ∧
      matcher.appendCursor ≤ (matcher.behindVisits visits).appendCursor := by
  induction visits generalizing matcher with
  | nil =>
      refine ⟨List.pairwise_singleton _ _, fun part mem => ?_, Int.le_refl _⟩
      rw [pushedParts, List.mem_singleton] at mem
      rw [mem]
  | cons visit rest ih =>
      have both := reached.consistent
      have plain := places _ both.2
      obtain ⟨goesOn, isUsable⟩ := goOn visit List.mem_cons_self
      have isAllowed : visit.act.Allowed allowed := Act.allowed_of_goesOn goesOn
      have moved := visit.cursor_le (reached.appendsInside places) inPace goesOn
      obtain ⟨pairwise, behindCursor, monotone⟩ := ih (reached.visit isAllowed isUsable)
        (visit.inPace both.1 plain.1 plain.2 inPace isUsable goesOn)
        fun other mem => goOn other (List.mem_cons_of_mem visit mem)
      refine ⟨List.pairwise_append.mpr ⟨?_, pairwise, fun gap isGap later isLater => ?_⟩,
        fun part mem => ?_, Int.le_trans moved.1 monotone⟩
      · cases visit.act.gap? matcher with
        | none => exact .nil
        | some gap => exact List.pairwise_singleton _ gap
      · exact Int.le_trans (moved.2 gap isGap).2 (behindCursor later isLater)
      · rcases List.mem_append.mp mem with isGap | isLater
        · exact Int.le_of_eq (moved.2 part isGap).1.symm
        · exact Int.le_trans moved.1 (behindCursor part isLater)

/-- A run that goes on keeps pace. -/
theorem InPace.behindVisits (visits : List (Visit σ)) {matcher : Matcher σ}
    (reached : matcher.Reachable allowed usable) (inPace : matcher.InPace)
    (goOn : ∀ visit ∈ visits, visit.act.goesOn = true ∧ usable visit.trace.engines) :
    (matcher.behindVisits visits).Reachable allowed usable ∧
      (matcher.behindVisits visits).InPace := by
  induction visits generalizing matcher with
  | nil => exact ⟨reached, inPace⟩
  | cons visit rest ih =>
      have both := reached.consistent
      have plain := places _ both.2
      obtain ⟨goesOn, isUsable⟩ := goOn visit List.mem_cons_self
      exact ih (reached.visit (Act.allowed_of_goesOn goesOn) isUsable)
        (visit.inPace both.1 plain.1 plain.2 inPace isUsable goesOn)
        fun other mem => goOn other (List.mem_cons_of_mem visit mem)

/-- The append position lies in the region.  Unless an act starts over, it leaves the position or
appends the replacement of the match that is held and moves the position to the end of that
match: so the position goes back exactly where that end lies in front of it.  From one reset to
the next, as long as no attempt is made at the region start and no search starts again, the
position never goes back, and the parts of the subject that are pushed, the tail included, lie
one behind the other. -/
theorem appendCursor_moves :
    (∀ matcher : Matcher σ, matcher.Reachable allowed usable →
      (0 ≤ matcher.appendCursor ∧ matcher.appendCursor ≤ matcher.regionEnd) ∧
      ∀ visit : Visit σ, visit.act.startsOver matcher = false →
        (visit.result matcher).2.appendCursor = matcher.appendCursor ∧
            visit.act.gap? matcher = none ∨
          ∃ template span, visit.act = .perform (.appendReplacement template) ∧
            matcher.heldSpan? = some span ∧
            visit.act.gap? matcher = some ⟨matcher.appendCursor, span.start⟩ ∧
            matcher.written (.appendReplacement template) =
              matcher.text.slice matcher.appendCursor span.start ++
                (Template.expand matcher.snapshot.captures template).output ∧
            (visit.result matcher).2.appendCursor = span.stop) ∧
    ∀ started : Matcher σ, started.Started allowed usable → ∀ earlier later : List (Visit σ),
      (∀ visit ∈ earlier ++ later, visit.act.goesOn = true ∧ usable visit.trace.engines) →
      (started.behindVisits earlier).appendCursor ≤
          (started.behindVisits (earlier ++ later)).appendCursor ∧
        (pushedParts (earlier ++ later) started).Pairwise fun earlier later =>
          earlier.stop ≤ later.start := by
  constructor
  · intro matcher reached
    have inside := reached.appendsInside places
    exact ⟨⟨inside.cursor_nonneg, inside.cursor_le⟩, fun visit goesOn =>
      visit.appendCursor_cases inside goesOn⟩
  · intro started isStarted earlier later goOn
    have inPace := isStarted.inPace places
    have behind := inPace.behindVisits places earlier isStarted.reachable fun visit mem =>
      goOn visit (List.mem_append_left later mem)
    have rest := pushedParts_pairwise places later behind.1 behind.2 fun visit mem =>
      goOn visit (List.mem_append_right earlier mem)
    have whole := pushedParts_pairwise places (earlier ++ later) isStarted.reachable inPace goOn
    refine ⟨?_, whole.1⟩
    rw [behindVisits, behindVisits, List.foldl_append]
    exact rest.2.2

end Runs

/-! ## The empty pattern -/

/-- Two searches with a replacement behind the second one: the position moves behind the unit
between the two matches. -/
theorem appendCursor_moves_empty :
    let visits : List (Visit Int) := [⟨.perform .find, ⟨0, []⟩⟩, ⟨.perform .find, ⟨0, []⟩⟩,
      ⟨.perform (.appendReplacement []), ⟨0, []⟩⟩]
    let started := initial .ofEmptyPattern [0x61, 0x61] true 0
    started.Started (· = .ofEmptyPattern) (fun _ => True) ∧
      (started.behindVisits (visits.take 2)).appendCursor = 0 ∧
      (started.behindVisits visits).appendCursor = 1 ∧
      (pushedParts visits started).Pairwise fun earlier later => earlier.stop ≤ later.start := by
  have isCreated : (create .ofEmptyPattern [0x61, 0x61] {}).run ⟨0, []⟩ =
      (.ok (initial .ofEmptyPattern [0x61, 0x61] true 0), ⟨0, []⟩) := rfl
  have isStarted : (initial .ofEmptyPattern [0x61, 0x61] true 0).Started
      (· = .ofEmptyPattern) fun _ => True := .created rfl trivial isCreated
  have places : ∀ pattern, pattern = Pattern.ofEmptyPattern →
      pattern.canonicalEquivalence = false ∧ pattern.PlacesMatches fun _ => True := by
    rintro pattern rfl
    exact ⟨rfl, Pattern.placesMatches_of_emptyEngine rfl⟩
  have moves := (appendCursor_moves places).2 _ isStarted
    [⟨.perform .find, ⟨0, []⟩⟩, ⟨.perform .find, ⟨0, []⟩⟩]
    [⟨.perform (.appendReplacement []), ⟨0, []⟩⟩]
  refine ⟨isStarted, by decide +kernel, by decide +kernel, (moves ?_).2⟩
  intro visit mem
  refine ⟨?_, trivial⟩
  rw [List.mem_append, List.mem_pair, List.mem_singleton] at mem
  rcases mem with (rfl | rfl) | rfl <;> rfl

/-- An attempt at the region start holds a match in front of the append position.  Appending its
replacement takes the position back, and the tail pushes the unit behind it a second time. -/
theorem appendCursor_goes_back :
    let visits : List (Visit Int) := [⟨.perform .find, ⟨0, []⟩⟩, ⟨.perform .find, ⟨0, []⟩⟩,
      ⟨.perform (.appendReplacement []), ⟨0, []⟩⟩, ⟨.perform .lookingAt, ⟨0, []⟩⟩,
      ⟨.perform (.appendReplacement []), ⟨0, []⟩⟩]
    let started := initial .ofEmptyPattern [0x61, 0x61] true 0
    Pattern.ofEmptyPattern.PlacesMatches (fun _ => True) ∧
      started.Started (· = .ofEmptyPattern) (fun _ => True) ∧
      (∀ visit ∈ visits, ∀ matcher, visit.act.startsOver matcher = false) ∧
      (started.behindVisits (visits.take 3)).appendCursor = 1 ∧
      (started.behindVisits visits).appendCursor = 0 ∧
      pushedParts visits started = [⟨0, 1⟩, ⟨1, 0⟩, ⟨0, 2⟩] := by
  have isCreated : (create .ofEmptyPattern [0x61, 0x61] {}).run ⟨0, []⟩ =
      (.ok (initial .ofEmptyPattern [0x61, 0x61] true 0), ⟨0, []⟩) := rfl
  refine ⟨Pattern.placesMatches_of_emptyEngine rfl, .created rfl trivial isCreated,
    fun visit mem matcher => ?_, by decide +kernel, by decide +kernel, by decide +kernel⟩
  simp only [List.mem_cons, List.not_mem_nil, or_false] at mem
  rcases mem with rfl | rfl | rfl | rfl | rfl <;> rfl

end Matcher

end RegexMatching
