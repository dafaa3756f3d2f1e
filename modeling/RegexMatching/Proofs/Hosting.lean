import RegexMatching.Proofs.Counterparts

/-!
# What is done in sessions that host another one

What a party does in a session that hosts another one agrees with what it does in the hosted
session, step by step.  What others do spares the party: the session goes on hosting the other one,
which is not touched.
-/

namespace RegexMatching

variable {σ α α' β β' : Type} {kind : EngineKind} (hosting : Hosting σ kind) (own : Counterparts)

/-- Scripts that come to the same in two sessions of which one hosts the other, and leave such
sessions behind. -/
def Scripting.Agrees (script : Scripting σ α) (script' : Scripting σ α') (alike : α → α' → Prop) :
    Prop :=
  ∀ crowd alone, hosting.Hosts own crowd alone →
    Option.Rel (fun done done' => alike done.1 done'.1 ∧ hosting.Hosts own done.2 done'.2)
      (script.run crowd) (script'.run alone)

/-- A script that spares a hosted session, and comes to good values. -/
def Scripting.Spares (script : Scripting σ α) (good : α → Prop) : Prop :=
  ∀ crowd alone value after, hosting.Hosts own crowd alone →
    script.run crowd = some (value, after) → hosting.Hosts own after alone ∧ good value

variable {hosting own}

namespace Scripting.Agrees

variable {script : Scripting σ α} {script' : Scripting σ α'} {alike : α → α' → Prop}
  {alike' : β → β' → Prop}

theorem pure {value : α} {value' : α'} (isAlike : alike value value') :
    Scripting.Agrees hosting own (pure value : Scripting σ α) (pure value') alike :=
  fun _ _ hosts => .some ⟨isAlike, hosts⟩

theorem bind {next : α → Scripting σ β} {next' : α' → Scripting σ β'}
    (first : Scripting.Agrees hosting own script script' alike)
    (second : ∀ value value', alike value value' →
      Scripting.Agrees hosting own (next value) (next' value') alike') :
    Scripting.Agrees hosting own (script >>= next) (script' >>= next') alike' := by
  intro crowd alone hosts
  have related := first crowd alone hosts
  rw [StateT.run_bind, StateT.run_bind]
  generalize script.run crowd = ran, script'.run alone = ran' at related ⊢
  cases related with
  | none => exact .none
  | some done => exact second _ _ done.1 _ _ done.2

theorem mono {weaker : α → α' → Prop} (agrees : Scripting.Agrees hosting own script script' alike)
    (implied : ∀ value value', alike value value' → weaker value value') :
    Scripting.Agrees hosting own script script' weaker := by
  intro crowd alone hosts
  have related := agrees crowd alone hosts
  generalize script.run crowd = ran, script'.run alone = ran' at related ⊢
  cases related with
  | none => exact .none
  | some done => exact .some ⟨implied _ _ done.1, done.2⟩

theorem get : Scripting.Agrees hosting own (get : Scripting σ (Session σ)) get
    (hosting.Hosts own) :=
  fun _ _ hosts => .some ⟨hosts, hosts⟩

theorem lift {option : Option α} {option' : Option α'} (related : Option.Rel alike option option') :
    Scripting.Agrees hosting own (liftM option : Scripting σ α) (liftM option') alike := by
  intro crowd alone hosts
  cases related with
  | none => exact .none
  | some isAlike => exact .some ⟨isAlike, hosts⟩

theorem modify {change change' : Session σ → Session σ}
    (keeps : ∀ crowd alone, hosting.Hosts own crowd alone →
      hosting.Hosts own (change crowd) (change' alone)) :
    Scripting.Agrees hosting own (modify change : Scripting σ PUnit) (modify change') Eq :=
  fun crowd alone hosts => .some ⟨rfl, keeps crowd alone hosts⟩

theorem mapM {script script' : β → Scripting σ α}
    (agrees : ∀ value, Scripting.Agrees hosting own (script value) (script' value) Eq)
    (values : List β) :
    Scripting.Agrees hosting own (values.mapM script) (values.mapM script') Eq := by
  induction values with
  | nil => exact .pure rfl
  | cons value values ih =>
      rw [List.mapM_cons, List.mapM_cons]
      refine (agrees value).bind ?_
      rintro first _ rfl
      exact ih.bind fun _ _ same => .pure (congrArg (first :: ·) same)

end Scripting.Agrees

namespace Scripting.Spares

variable {script : Scripting σ α} {good : α → Prop} {good' : β → Prop}

theorem pure {value : α} (isGood : good value) :
    Scripting.Spares hosting own (pure value : Scripting σ α) good := by
  intro crowd alone value' after hosts ran
  obtain ⟨rfl, rfl⟩ := Prod.mk.inj (Option.some.inj ran)
  exact ⟨hosts, isGood⟩

theorem bind {next : α → Scripting σ β} (first : Scripting.Spares hosting own script good)
    (second : ∀ value, good value → Scripting.Spares hosting own (next value) good') :
    Scripting.Spares hosting own (script >>= next) good' := by
  intro crowd alone value after hosts ran
  rw [StateT.run_bind] at ran
  obtain ⟨⟨between, crowd'⟩, ran', ran''⟩ := Option.bind_eq_some_iff.mp ran
  obtain ⟨hosts', isGood⟩ := first crowd alone between crowd' hosts ran'
  exact second between isGood crowd' alone value after hosts' ran''

theorem get : Scripting.Spares hosting own (get : Scripting σ (Session σ))
    fun crowd => ∃ alone, hosting.Hosts own crowd alone := by
  intro crowd alone value after hosts ran
  obtain ⟨rfl, rfl⟩ := Prod.mk.inj (Option.some.inj ran)
  exact ⟨hosts, alone, hosts⟩

theorem lift {option : Option α} (isGood : ∀ value, option = some value → good value) :
    Scripting.Spares hosting own (liftM option : Scripting σ α) good := by
  intro crowd alone value after hosts ran
  obtain ⟨value', isSome, same⟩ := Option.bind_eq_some_iff.mp ran
  obtain ⟨rfl, rfl⟩ := Prod.mk.inj (Option.some.inj same)
  exact ⟨hosts, isGood _ isSome⟩

theorem modify {change : Session σ → Session σ}
    (keeps : ∀ crowd alone, hosting.Hosts own crowd alone →
      hosting.Hosts own (change crowd) alone) :
    Scripting.Spares hosting own (modify change : Scripting σ PUnit) fun _ => True := by
  intro crowd alone value after hosts ran
  obtain ⟨rfl, rfl⟩ := Prod.mk.inj (Option.some.inj ran)
  exact ⟨keeps crowd alone hosts, trivial⟩

theorem mapM {next : β → Scripting σ α}
    (spares : ∀ value, Scripting.Spares hosting own (next value) good) (values : List β) :
    Scripting.Spares hosting own (values.mapM next) fun _ => True := by
  induction values with
  | nil => exact .pure trivial
  | cons value values ih =>
      rw [List.mapM_cons]
      exact (spares value).bind fun _ _ => ih.bind fun _ _ => .pure trivial

end Scripting.Spares

namespace Session

/-! ## What the party does -/

section Agrees

variable {label : Label}

theorem patternNumber_agrees (isOwn : label ∈ hosting.share.patterns) :
    Scripting.Agrees hosting own (patternNumber label) (patternNumber label) own.patterns :=
  Scripting.Agrees.get.bind fun _ _ hosts => .lift (hosts.patternNumbers.ofOwn label isOwn)

theorem matcherNumber_agrees (isOwn : label ∈ hosting.share.matchers) :
    Scripting.Agrees hosting own (matcherNumber label) (matcherNumber label) own.matchers :=
  Scripting.Agrees.get.bind fun _ _ hosts => .lift (hosts.matcherNumbers.ofOwn label isOwn)

theorem patternAt_agrees {number number' : Nat} (isOwn : own.patterns number number') :
    Scripting.Agrees hosting own (patternAt number) (patternAt number')
      (Pattern.Twins (hosting.pair own)) := by
  refine Scripting.Agrees.get.bind fun crowd alone hosts => .lift ?_
  obtain ⟨pattern, twin, found, found', twins⟩ := hosts.patterns.ofOwn isOwn
  rw [found, found']
  exact .some twins

theorem pattern_agrees (isOwn : label ∈ hosting.share.patterns) :
    Scripting.Agrees hosting own (pattern label) (pattern label)
      (Pattern.Twins (hosting.pair own)) :=
  (patternNumber_agrees isOwn).bind fun _ _ isOwn' => patternAt_agrees isOwn'

theorem matcherAt_agrees {number number' : Nat} (isOwn : own.matchers number number') :
    Scripting.Agrees hosting own (matcherAt number) (matcherAt number')
      (Matcher.Twins (hosting.pair own)) := by
  refine Scripting.Agrees.get.bind fun crowd alone hosts => .lift ?_
  obtain ⟨matcher, twin, found, found', twins⟩ := hosts.matchers.ofOwn isOwn
  rw [found, found']
  exact .some twins

theorem work_agrees {action : Work σ α} {action' : Work σ α'} {alike : α → α' → Prop}
    (agrees : Work.Agrees (hosting.pair own) action action' alike) :
    Scripting.Agrees hosting own (work action) (work action') (EndedAlike alike) := by
  intro crowd alone hosts
  obtain ⟨endAlike, linked⟩ := agrees crowd.trace alone.trace hosts.linked
  exact .some ⟨endAlike, { hosts with linked }⟩

/-- Work that comes to the same. -/
theorem sameWork_agrees {action action' : Work σ α}
    (agrees : Work.Agrees (hosting.pair own) action action' Eq) :
    Scripting.Agrees hosting own (work action) (work action') Eq :=
  (work_agrees agrees).mono fun _ _ => EndedAlike.eq

theorem matching_agrees {number number' : Nat} (isOwn : own.matchers number number')
    {action action' : Matching σ α}
    (agrees : Matching.Agrees (hosting.pair own) action action' Eq) :
    Scripting.Agrees hosting own (matching number action) (matching number' action') Eq := by
  refine (matcherAt_agrees isOwn).bind fun matcher twin twins crowd alone hosts => ?_
  obtain ⟨endAlike, twins', linked⟩ :=
    agrees ⟨matcher, crowd.trace⟩ ⟨twin, alone.trace⟩ twins hosts.linked
  exact .some ⟨endAlike.eq,
    { hosts with linked, matchers := hosts.matchers.setBoth isOwn twins' }⟩

theorem setIterator_agrees (isOwn : label ∈ hosting.share.iterators)
    {iterator iterator' : SessionIterator σ}
    (isAlike : SessionIterator.Alike (hosting.pair own) own iterator iterator') :
    Scripting.Agrees hosting own (setIterator label iterator) (setIterator label iterator') Eq :=
  .modify fun _ _ hosts => { hosts with iterators := hosts.iterators.setOwn isOwn isAlike }

theorem streaming_agrees (isOwn : label ∈ hosting.share.iterators) {number number' : Nat}
    (isOwn' : own.patterns number number') {stream twin : PieceStream σ}
    (twins : stream.Twins (hosting.pair own) twin) {action action' : Streaming σ α}
    (agrees : Streaming.Agrees (hosting.pair own) action action' Eq) :
    Scripting.Agrees hosting own (streaming label number stream action)
      (streaming label number' twin action') Eq := by
  refine Scripting.Agrees.get.bind fun crowd alone hosts crowd' alone' hosts' => ?_
  obtain ⟨endAlike, twins', linked⟩ :=
    agrees stream twin crowd.trace alone.trace twins hosts.linked
  exact .some ⟨endAlike.eq, { hosts with
    linked
    iterators := hosts.iterators.setOwn isOwn (.pieces isOwn' twins') }⟩

theorem appendTo_agrees (isOwn : label ∈ hosting.share.sinks) (text : Text) :
    Scripting.Agrees hosting own (appendTo label text) (appendTo label text) Eq := by
  intro crowd alone hosts
  have related := hosts.sinks.ofOwn label isOwn
  have same : crowd.sinks.lookup label = alone.sinks.lookup label := by
    generalize crowd.sinks.lookup label = sink?, alone.sinks.lookup label = sink'? at related
    cases related with
    | none => rfl
    | some same => rw [same]
  have sameWhole : (crowd.sinks.lookup label).getD [] ++ text =
      (alone.sinks.lookup label).getD [] ++ text := by
    rw [same]
  exact .some ⟨sameWhole, { hosts with sinks := hosts.sinks.setOwn isOwn sameWhole }⟩

end Agrees

/-! ## What others do -/

section Spares

variable {label : Label}

/-- What others look up has no counterpart, if it goes by a label of theirs. -/
theorem patternNumber_spares (label : Label) :
    Scripting.Spares hosting own (patternNumber label : Scripting σ Nat) fun number =>
      label ∉ hosting.share.patterns → IsOther own.patterns own.patternCount number :=
  Scripting.Spares.get.bind fun _ ⟨_, hosts⟩ => .lift fun number found isOther =>
    hosts.patternNumbers.ofOther label isOther number found

theorem matcherNumber_spares (label : Label) :
    Scripting.Spares hosting own (matcherNumber label : Scripting σ Nat) fun number =>
      label ∉ hosting.share.matchers → IsOther own.matchers own.matcherCount number :=
  Scripting.Spares.get.bind fun _ ⟨_, hosts⟩ => .lift fun number found isOther =>
    hosts.matcherNumbers.ofOther label isOther number found

theorem patternAt_spares (number : Nat) :
    Scripting.Spares hosting own (patternAt number : Scripting σ _) fun pattern =>
      pattern.adapter.engine = hosting.base.engine ∧
        ((∀ number', ¬own.patterns number number') → pattern.IsForeign hosting.base own) := by
  refine Scripting.Spares.get.bind fun _ ⟨_, hosts⟩ => .lift fun pattern found =>
    ⟨?_, hosts.patterns.ofOther found⟩
  rcases hosts.patterns.own_or_foreign found with ⟨twin, twins⟩ | isForeign
  · exact twins.engine
  · exact isForeign.engine

theorem pattern_spares (label : Label) :
    Scripting.Spares hosting own (pattern label : Scripting σ _) fun pattern =>
      pattern.adapter.engine = hosting.base.engine :=
  (patternNumber_spares label).bind fun number _ crowd alone pattern after hosts ran =>
    (patternAt_spares number crowd alone pattern after hosts ran).imp_right And.left

theorem matcherAt_spares (number : Nat) :
    Scripting.Spares hosting own (matcherAt number : Scripting σ _) fun matcher =>
      matcher.pattern.adapter.engine = hosting.base.engine := by
  refine Scripting.Spares.get.bind fun _ ⟨_, hosts⟩ => .lift fun matcher found => ?_
  rcases hosts.matchers.own_or_foreign found with ⟨twin, twins⟩ | isForeign
  · exact twins.pattern.engine
  · exact isForeign

theorem work_spares {action : Work σ α} {good : α → Prop}
    (keeps : action.Keeps (hosting.base.Guards own.IsOwned) good) :
    Scripting.Spares hosting own (work action) fun outcome =>
      ∀ value, outcome = .ok value → good value := by
  intro crowd alone outcome after hosts ran
  obtain ⟨rfl, rfl⟩ := Prod.mk.inj (Option.some.inj ran)
  obtain ⟨guards, isGood⟩ := keeps crowd.trace
  exact ⟨{ hosts with linked := hosts.linked.left guards }, isGood⟩

theorem matching_spares {number : Nat} (isOther : IsOther own.matchers own.matcherCount number)
    {action : Matching σ α}
    (keeps : ∀ configuration, Matcher.Keeps (hosting.base.Guards own.IsOwned)
      (fun pattern => pattern.adapter.engine = hosting.base.engine) configuration
      (action.exec configuration).2) :
    Scripting.Spares hosting own (matching number action) fun _ => True := by
  refine (matcherAt_spares number).bind ?_
  intro matcher isEngine crowd alone outcome after hosts ran
  obtain ⟨rfl, rfl⟩ := Prod.mk.inj (Option.some.inj ran)
  obtain ⟨isEngine', guards⟩ := keeps ⟨matcher, crowd.trace⟩ isEngine
  exact ⟨{ hosts with
    linked := hosts.linked.left guards
    matchers := hosts.matchers.setOther isOther.unowned isEngine' }, trivial⟩

theorem setIterator_spares (isOther : label ∉ hosting.share.iterators)
    (iterator : SessionIterator σ) (isForeign : iterator.IsForeign hosting.base own) :
    Scripting.Spares hosting own (setIterator label iterator) fun _ => True :=
  .modify fun _ _ hosts => { hosts with iterators := hosts.iterators.setOther isOther isForeign }

theorem streaming_spares (isOther : label ∉ hosting.share.iterators) (number : Nat)
    {stream : PieceStream σ}
    (isOf : stream.IsOf fun pattern => pattern.adapter.engine = hosting.base.engine)
    {action : Streaming σ α}
    (keeps : action.Keeps (hosting.base.Guards own.IsOwned)
      (fun pattern => pattern.adapter.engine = hosting.base.engine) fun _ => True) :
    Scripting.Spares hosting own (streaming label number stream action) fun _ => True := by
  intro crowd alone outcome after hosts ran
  obtain ⟨rfl, rfl⟩ := Prod.mk.inj (Option.some.inj ran)
  obtain ⟨isOf', guards, -⟩ := keeps stream crowd.trace isOf
  exact ⟨{ hosts with
    linked := hosts.linked.left guards
    iterators := hosts.iterators.setOther isOther isOf' }, trivial⟩

theorem appendTo_spares (isOther : label ∉ hosting.share.sinks) (text : Text) :
    Scripting.Spares hosting own (appendTo label text : Scripting σ Text) fun _ => True := by
  intro crowd alone whole after hosts ran
  obtain ⟨rfl, rfl⟩ := Prod.mk.inj (Option.some.inj ran)
  exact ⟨{ hosts with sinks := hosts.sinks.setOther isOther trivial }, trivial⟩

end Spares

end Session

end RegexMatching
