import RegexMatching.Proofs.Hosting
import RegexMatching.Proofs.Newcomers

/-!
# The commands of a party and of others

A command of a party comes to the same in a session that many share and in a session of the party
alone.  A command of others has no counterpart.  Either way the one session goes on hosting the
other.
-/

namespace RegexMatching

variable {σ α β : Type} {kind : EngineKind}

/-! ## Who may do what -/

/-- Whether a command goes by the labels of a party only.  The party keeps its patterns open, and
it does not ask for the handles of code, which depend on what others compile. -/
def Command.Within (share : Share) : Command σ → Prop
  | .compile label .. => label ∈ share.patterns
  | .testOnce .. => True
  | .code .. => False
  | .closePattern _ => False
  | .isClosed pattern => pattern ∈ share.patterns
  | .source pattern => pattern ∈ share.patterns
  | .split pattern .. => pattern ∈ share.patterns
  | .pieces pattern _ => pattern ∈ share.patterns
  | .occursIn pattern _ => pattern ∈ share.patterns
  | .matchesWhole pattern _ => pattern ∈ share.patterns
  | .openPieces label pattern _ => label ∈ share.iterators ∧ pattern ∈ share.patterns
  | .makeMatcher label pattern .. => label ∈ share.matchers ∧ pattern ∈ share.patterns
  | .operate matcher operation =>
      matcher ∈ share.matchers ∧ operation.Allowed fun _ => False
  | .usePattern matcher pattern => matcher ∈ share.matchers ∧ pattern ∈ share.patterns
  | .append matcher sink operation =>
      matcher ∈ share.matchers ∧ sink ∈ share.sinks ∧ operation.Allowed fun _ => False
  | .readSink sink => sink ∈ share.sinks
  | .openResults label matcher => label ∈ share.iterators ∧ matcher ∈ share.matchers
  | .next iterator => iterator ∈ share.iterators
  | .closeIterator iterator => iterator ∈ share.iterators
  | .keep label matcher => label ∈ share.snapshots ∧ matcher ∈ share.matchers
  | .ask snapshot _ => snapshot ∈ share.snapshots

/-- Whether a command leaves alone what a party calls by labels of its own.  Others may make
matchers of the patterns of the party and search with these patterns, but they do not close them. -/
def Command.Apart (share : Share) (engine : Engine σ) : Command σ → Prop
  | .compile label .. => label ∉ share.patterns
  | .closePattern pattern => pattern ∉ share.patterns
  | .openPieces label .. => label ∉ share.iterators
  | .makeMatcher label .. => label ∉ share.matchers
  | .operate matcher operation =>
      matcher ∉ share.matchers ∧ operation.Allowed (·.adapter.engine = engine)
  | .usePattern matcher _ => matcher ∉ share.matchers
  | .append matcher sink operation =>
      matcher ∉ share.matchers ∧ sink ∉ share.sinks ∧
        operation.Allowed (·.adapter.engine = engine)
  | .readSink sink => sink ∉ share.sinks
  | .openResults label matcher => label ∉ share.iterators ∧ matcher ∉ share.matchers
  | .next iterator => iterator ∉ share.iterators
  | .closeIterator iterator => iterator ∉ share.iterators
  | .keep label _ => label ∉ share.snapshots
  | _ => True

/-! ## Scripts after which more belongs together -/

variable (hosting : Hosting σ kind) (own : Counterparts)

/-- Scripts that come to the same in two sessions of which one hosts the other, and leave the one
hosting the other. -/
def Scripting.EndsAlike (script script' : Scripting σ α) : Prop :=
  ∀ crowd alone, hosting.Hosts own crowd alone →
    Option.Rel
      (fun done done' => done.1 = done'.1 ∧ ∃ own', hosting.Hosts own' done.2 done'.2)
      (script.run crowd) (script'.run alone)

/-- A script that leaves a session hosting the other one. -/
def Scripting.LeavesHosting (script : Scripting σ α) : Prop :=
  ∀ crowd alone value after, hosting.Hosts own crowd alone →
    script.run crowd = some (value, after) → ∃ own', hosting.Hosts own' after alone

variable {hosting own}

namespace Scripting

theorem Agrees.endsAlike {script script' : Scripting σ α}
    (agrees : Scripting.Agrees hosting own script script' Eq) :
    Scripting.EndsAlike hosting own script script' := by
  intro crowd alone hosts
  have related := agrees crowd alone hosts
  generalize script.run crowd = ran, script'.run alone = ran' at related ⊢
  cases related with
  | none => exact .none
  | some done => exact .some ⟨done.1, own, done.2⟩

/-- Scripts that end alike follow scripts that agree. -/
theorem Agrees.endingAlike {γ : Type} {script : Scripting σ α} {script' : Scripting σ β}
    {alike : α → β → Prop} {next : α → Scripting σ γ} {next' : β → Scripting σ γ}
    (first : Scripting.Agrees hosting own script script' alike)
    (second : ∀ value value', alike value value' →
      Scripting.EndsAlike hosting own (next value) (next' value')) :
    Scripting.EndsAlike hosting own (script >>= next) (script' >>= next') := by
  intro crowd alone hosts
  have related := first crowd alone hosts
  rw [StateT.run_bind, StateT.run_bind]
  generalize script.run crowd = ran, script'.run alone = ran' at related ⊢
  cases related with
  | none => exact .none
  | some done => exact second _ _ done.1 _ _ done.2

theorem Spares.leavesHosting {script : Scripting σ α}
    (spares : Scripting.Spares hosting own script fun _ => True) :
    Scripting.LeavesHosting hosting own script :=
  fun crowd alone value after hosts ran => ⟨own, (spares crowd alone value after hosts ran).1⟩

/-- A script that leaves a session hosting follows one that spares the hosted session. -/
theorem Spares.leavingHosting {script : Scripting σ α} {good : α → Prop}
    {next : α → Scripting σ β} (first : Scripting.Spares hosting own script good)
    (second : ∀ value, good value → Scripting.LeavesHosting hosting own (next value)) :
    Scripting.LeavesHosting hosting own (script >>= next) := by
  intro crowd alone value after hosts ran
  rw [StateT.run_bind] at ran
  obtain ⟨⟨between, crowd'⟩, ran', ran''⟩ := Option.bind_eq_some_iff.mp ran
  obtain ⟨hosts', isGood⟩ := first crowd alone between crowd' hosts ran'
  exact second between isGood crowd' alone value after hosts' ran''

end Scripting

namespace Session

/-! ## The commands of the party -/

section Within

variable {label : Label}

theorem compile_endsAlike (isOwn : label ∈ hosting.share.patterns) (engine : Label)
    (source : Text) (flags : Number) (settings : PatternSettings) :
    Scripting.EndsAlike hosting own (compile label engine source flags settings)
      (compile label engine source flags settings) := by
  refine Scripting.Agrees.get.endingAlike fun before before' hosts => ?_
  refine (Scripting.Agrees.lift (hosts.lookup_engines engine)).endingAlike ?_
  rintro _ _ ⟨rfl, rfl⟩ crowd alone hosts
  obtain ⟨outcome, outcome', after, after', ran, ran', guards, guards', compiled⟩ :=
    hosting.base.compile_alike hosting.other before.isLogged before'.isLogged source flags
      settings crowd.trace alone.trace
  rw [run_work_bind, run_work_bind, ran, ran']
  cases compiled with
  | error fault => exact .some ⟨rfl, own, hosts.setTraces guards guards'⟩
  | @ok pattern twin built =>
      obtain ⟨blueprint, built, built'⟩ := built
      have hosts' := (hosts.setTraces guards guards').addPattern isOwn built built'
        hosts.linked.bound_le
      refine .some ⟨?_, _, hosts'⟩
      rw [built.source, built'.source, built.flags, built'.flags, built.canonicalEquivalence,
        built'.canonicalEquivalence, built.groupCount, built'.groupCount, built.names,
        built'.names]

theorem makeMatcher_endsAlike {other : Label} (isOwn : label ∈ hosting.share.matchers)
    (isOwn' : other ∈ hosting.share.patterns) (text : Text) (settings : MatcherSettings) :
    Scripting.EndsAlike hosting own (makeMatcher label other text settings)
      (makeMatcher label other text settings) := by
  refine (pattern_agrees isOwn').endingAlike fun pattern twin twins => ?_
  refine (work_agrees (Matcher.create_agrees twins text settings)).endingAlike ?_
  intro outcome outcome' endAlike
  cases endAlike with
  | error fault => exact (Scripting.Agrees.pure rfl).endsAlike
  | ok twins' => exact fun crowd alone hosts => .some ⟨rfl, _, hosts.addMatcher isOwn twins'⟩

theorem next_agrees (isOwn : label ∈ hosting.share.iterators) :
    Scripting.Agrees hosting own (next label) (next label) Eq := by
  refine Scripting.Agrees.get.bind fun crowd alone hosts => ?_
  refine (Scripting.Agrees.lift (hosts.iterators.ofOwn label isOwn)).bind ?_
  intro iterator iterator' isAlike
  cases isAlike with
  | snapshots isOwn' iteration =>
      refine (matching_agrees isOwn' (Matcher.next_agrees iteration)).bind ?_
      rintro outcome _ rfl
      exact (setIterator_agrees isOwn (.snapshots isOwn' _)).bind fun _ _ _ => .pure rfl
  | pieces isOwn' twins =>
      refine (patternAt_agrees isOwn').bind fun pattern twin twins' => ?_
      exact (streaming_agrees isOwn isOwn' twins (PieceStream.next_agrees twins')).bind
        fun _ _ same => .pure (congrArg _ same)

theorem closeIterator_agrees (isOwn : label ∈ hosting.share.iterators) :
    Scripting.Agrees hosting own (closeIterator label) (closeIterator label) Eq := by
  refine Scripting.Agrees.get.bind fun crowd alone hosts => ?_
  refine (Scripting.Agrees.lift (hosts.iterators.ofOwn label isOwn)).bind ?_
  intro iterator iterator' isAlike
  cases isAlike with
  | snapshots isOwn' iteration =>
      exact (setIterator_agrees isOwn (.snapshots isOwn' .ended)).bind fun _ _ _ => .pure rfl
  | pieces isOwn' twins =>
      exact (streaming_agrees isOwn isOwn' twins PieceStream.close_agrees).bind
        fun _ _ same => .pure (congrArg _ same)

/-- A command of the party comes to the same in both sessions. -/
theorem run_endsAlike {command : Command σ} (isWithin : command.Within hosting.share) :
    Scripting.EndsAlike hosting own (run command) (run command) := by
  cases command with
  | code => exact isWithin.elim
  | closePattern => exact isWithin.elim
  | compile label engine source flags settings =>
      exact compile_endsAlike isWithin engine source flags settings
  | makeMatcher label pattern text settings =>
      exact makeMatcher_endsAlike isWithin.1 isWithin.2 text settings
  | testOnce engine source text =>
      refine (Scripting.Agrees.get.bind fun crowd alone hosts => ?_).endsAlike
      refine (Scripting.Agrees.lift (hosts.lookup_engines engine)).bind ?_
      rintro _ _ ⟨rfl, rfl⟩
      exact (sameWork_agrees (StoreEngine.testOnce_agrees source text)).bind
        fun _ _ same => .pure (congrArg _ same)
  | isClosed label =>
      refine ((pattern_agrees isWithin).bind fun pattern twin twins => ?_).endsAlike
      rw [twins.same]
      exact .pure rfl
  | source label =>
      refine ((pattern_agrees isWithin).bind fun pattern twin twins => ?_).endsAlike
      rw [twins.same]
      exact .pure rfl
  | split label text rule =>
      refine ((pattern_agrees isWithin).bind fun pattern twin twins => ?_).endsAlike
      exact (sameWork_agrees (Pattern.split_agrees twins text rule)).bind
        fun _ _ same => .pure (congrArg _ same)
  | pieces label text =>
      refine ((pattern_agrees isWithin).bind fun pattern twin twins => ?_).endsAlike
      exact (sameWork_agrees (Pattern.pieces_agrees twins text)).bind
        fun _ _ same => .pure (congrArg _ same)
  | occursIn label texts =>
      refine ((pattern_agrees isWithin).bind fun pattern twin twins => ?_).endsAlike
      refine (Scripting.Agrees.mapM (fun text =>
        sameWork_agrees (Pattern.occursIn_agrees twins text)) texts).bind ?_
      rintro outcomes _ rfl
      exact .pure rfl
  | matchesWhole label texts =>
      refine ((pattern_agrees isWithin).bind fun pattern twin twins => ?_).endsAlike
      refine (Scripting.Agrees.mapM (fun text =>
        sameWork_agrees (Pattern.matchesWhole_agrees twins text)) texts).bind ?_
      rintro outcomes _ rfl
      exact .pure rfl
  | openPieces label pattern text =>
      refine ((patternNumber_agrees isWithin.2).bind fun number number' isOwn => ?_).endsAlike
      exact (setIterator_agrees isWithin.1 (.pieces isOwn (.notStarted text))).bind
        fun _ _ _ => .pure rfl
  | operate label operation =>
      exact ((matcherNumber_agrees isWithin.1).bind fun number number' isOwn =>
        matching_agrees isOwn (Matcher.perform_agrees isWithin.2)).endsAlike
  | usePattern label other =>
      refine ((matcherNumber_agrees isWithin.1).bind fun number number' isOwn => ?_).endsAlike
      exact (pattern_agrees isWithin.2).bind fun pattern twin twins =>
        matching_agrees isOwn (Matcher.perform_usePattern_agrees twins)
  | append label sink operation =>
      refine ((matcherNumber_agrees isWithin.1).bind fun number number' isOwn => ?_).endsAlike
      refine (matcherAt_agrees isOwn).bind fun matcher twin twins => ?_
      rw [twins.written_eq operation]
      refine (appendTo_agrees isWithin.2.1 _).bind ?_
      rintro whole _ rfl
      exact (matching_agrees isOwn (Matcher.perform_agrees isWithin.2.2)).bind
        fun _ _ same => .pure (congrArg _ same)
  | readSink sink =>
      refine ((appendTo_agrees isWithin []).bind ?_).endsAlike
      rintro whole _ rfl
      exact .pure rfl
  | openResults label matcher =>
      refine ((matcherNumber_agrees isWithin.2).bind fun number number' isOwn => ?_).endsAlike
      exact (setIterator_agrees isWithin.1 (.snapshots isOwn .notStarted)).bind
        fun _ _ _ => .pure rfl
  | next label => exact (next_agrees isWithin).endsAlike
  | closeIterator label => exact (closeIterator_agrees isWithin).endsAlike
  | keep label matcher =>
      refine ((matcherNumber_agrees isWithin.2).bind fun number number' isOwn => ?_).endsAlike
      refine (matcherAt_agrees isOwn).bind fun matcher twin twins => ?_
      rw [twins.snapshot_eq]
      refine (Scripting.Agrees.modify fun crowd alone hosts => ?_).bind fun _ _ _ => .pure rfl
      exact { hosts with snapshots := hosts.snapshots.setOwn isWithin.1 rfl }
  | ask label query =>
      refine (Scripting.Agrees.get.bind fun crowd alone hosts => ?_).endsAlike
      refine (Scripting.Agrees.lift (hosts.snapshots.ofOwn label isWithin)).bind ?_
      rintro snapshot _ rfl
      exact .pure rfl

end Within

/-! ## The commands of others -/

section Apart

variable {label : Label}

theorem compile_leavesHosting (isOther : label ∉ hosting.share.patterns) (engine : Label)
    (source : Text) (flags : Number) (settings : PatternSettings) :
    Scripting.LeavesHosting hosting own (compile label engine source flags settings) := by
  intro crowd alone value after hosts ran
  rw [compile] at ran
  obtain ⟨_, found, ran⟩ := exists_of_run_read ran
  obtain rfl := hosts.eq_engine found
  obtain ⟨outcome, trace, compiles, guards, compiled⟩ :=
    hosting.base.compile_pattern_spec crowd.isLogged source flags settings crowd.trace
  rw [run_work_bind, compiles] at ran
  have hosts' := hosts.setTraces guards (.of_store_eq rfl)
  cases planned : kind.blueprint source flags settings with
  | error fault =>
      rw [planned] at compiled
      obtain rfl := compiled
      obtain ⟨rfl, rfl⟩ := Prod.mk.inj (Option.some.inj ran)
      exact ⟨own, hosts'⟩
  | ok blueprint =>
      rw [planned] at compiled
      obtain ⟨pattern, rfl, built⟩ := compiled
      obtain ⟨rfl, rfl⟩ := Prod.mk.inj (Option.some.inj ran)
      exact ⟨_, hosts'.addForeignPattern isOther built fun _ isOwned =>
        isOwned.elim fun _ => hosts.linked.isBelow⟩

theorem testOnce_spares (engine : Label) (source text : Text) :
    Scripting.Spares hosting own (run (.testOnce engine source text)) fun _ => True := by
  intro crowd alone value after hosts ran
  rw [run] at ran
  obtain ⟨_, found, ran⟩ := exists_of_run_read ran
  obtain rfl := hosts.eq_engine found
  rw [run_work_bind] at ran
  obtain ⟨rfl, rfl⟩ := Prod.mk.inj (Option.some.inj ran)
  exact ⟨hosts.setTraces (hosting.base.testOnce_guards source text crowd.trace)
    (.of_store_eq rfl), trivial⟩

/-- A pattern of others is closed without harm to the code of the party. -/
theorem closePattern_spares (isOther : label ∉ hosting.share.patterns) :
    Scripting.Spares hosting own (closePattern label) fun _ => True := by
  refine (patternNumber_spares label).bind fun number isOther' => ?_
  refine (patternAt_spares number).bind fun pattern ⟨_, isForeign⟩ => ?_
  have isForeign' := isForeign (isOther' isOther).unowned
  have closes : pattern.close.Keeps (hosting.base.Guards own.IsOwned)
      (Pattern.IsForeign hosting.base own) := by
    intro trace
    obtain ⟨closed, after, ran, isEngine, sameVariants, guards⟩ :=
      StoreEngine.close_pattern_spec isForeign'.engine trace
    rw [ran]
    refine ⟨guards.mono fun handle isOwned anchoring same => ?_, ?_⟩
    · exact isForeign'.unowned anchoring (same ▸ isOwned)
    · rintro _ ⟨⟩
      exact ⟨isEngine, sameVariants ▸ isForeign'.isBelow, sameVariants ▸ isForeign'.unowned⟩
  refine (work_spares closes).bind fun outcome isForeign'' => ?_
  cases outcome with
  | error fault => exact .pure trivial
  | ok closed =>
      refine (Scripting.Spares.modify fun crowd alone hosts => ?_).bind fun _ _ => .pure trivial
      exact { hosts with
        patterns := hosts.patterns.setOther (isOther' isOther).unowned (isForeign'' closed rfl) }

theorem makeMatcher_leavesHosting (isOther : label ∉ hosting.share.matchers) (other : Label)
    (text : Text) (settings : MatcherSettings) :
    Scripting.LeavesHosting hosting own (makeMatcher label other text settings) := by
  refine (pattern_spares other).leavingHosting fun pattern isEngine => ?_
  have creates := Matcher.create_keeps (StoreEngine.Guards.keptByCalls own.IsOwned) isEngine text
    settings
  refine (work_spares creates).leavingHosting fun outcome isEngine' => ?_
  cases outcome with
  | error fault => exact (Scripting.Spares.pure trivial).leavesHosting
  | ok matcher =>
      intro crowd alone value after hosts ran
      obtain ⟨rfl, rfl⟩ := Prod.mk.inj (Option.some.inj ran)
      exact ⟨_, hosts.addForeignMatcher isOther (isEngine' matcher rfl)⟩

theorem next_spares (isOther : label ∉ hosting.share.iterators) :
    Scripting.Spares hosting own (next label) fun _ => True := by
  refine Scripting.Spares.get.bind fun crowd ⟨_, hosts⟩ => ?_
  refine (Scripting.Spares.lift (hosts.iterators.ofOther label isOther)).bind ?_
  intro iterator isForeign
  have kept := @StoreEngine.Guards.keptByCalls σ kind hosting.base own.IsOwned
  cases iterator with
  | snapshots number iteration =>
      refine (matching_spares isForeign fun configuration =>
        (Matcher.next_steps iteration configuration).keeps kept).bind fun outcome _ => ?_
      exact (setIterator_spares isOther (.snapshots number (.after outcome)) isForeign).bind
        fun _ _ => .pure trivial
  | pieces number stream =>
      refine (patternAt_spares number).bind fun pattern ⟨isEngine, _⟩ => ?_
      exact (streaming_spares isOther number isForeign
        (PieceStream.next_keeps kept isEngine)).bind fun _ _ => .pure trivial

theorem closeIterator_spares (isOther : label ∉ hosting.share.iterators) :
    Scripting.Spares hosting own (closeIterator label) fun _ => True := by
  refine Scripting.Spares.get.bind fun crowd ⟨_, hosts⟩ => ?_
  refine (Scripting.Spares.lift (hosts.iterators.ofOther label isOther)).bind ?_
  intro iterator isForeign
  cases iterator with
  | snapshots number iteration =>
      exact (setIterator_spares isOther (.snapshots number .ended) isForeign).bind
        fun _ _ => .pure trivial
  | pieces number stream =>
      exact (streaming_spares isOther number isForeign
        (PieceStream.close_keeps (StoreEngine.Guards.keptByCalls own.IsOwned))).bind
          fun _ _ => .pure trivial

/-- A command of others leaves the session hosting that of the party. -/
theorem run_leavesHosting {command : Command σ}
    (isApart : command.Apart hosting.share hosting.base.engine) :
    Scripting.LeavesHosting hosting own (run command) := by
  have kept := @StoreEngine.Guards.keptByCalls σ kind hosting.base own.IsOwned
  cases command with
  | compile label engine source flags settings =>
      exact compile_leavesHosting isApart engine source flags settings
  | makeMatcher label pattern text settings =>
      exact makeMatcher_leavesHosting isApart pattern text settings
  | testOnce engine source text => exact (testOnce_spares engine source text).leavesHosting
  | closePattern label => exact (closePattern_spares isApart).leavesHosting
  | code label anchoring =>
      exact ((pattern_spares label).bind fun _ _ => .pure trivial).leavesHosting
  | isClosed label =>
      exact ((pattern_spares label).bind fun _ _ => .pure trivial).leavesHosting
  | source label =>
      exact ((pattern_spares label).bind fun _ _ => .pure trivial).leavesHosting
  | split label text rule =>
      refine ((pattern_spares label).bind fun _ isEngine => ?_).leavesHosting
      exact (work_spares (Pattern.split_keeps kept isEngine text rule)).bind
        fun _ _ => .pure trivial
  | pieces label text =>
      refine ((pattern_spares label).bind fun _ isEngine => ?_).leavesHosting
      exact (work_spares (Pattern.pieces_keeps kept isEngine text)).bind fun _ _ => .pure trivial
  | occursIn label texts =>
      refine ((pattern_spares label).bind fun _ isEngine => ?_).leavesHosting
      exact (Scripting.Spares.mapM (fun text =>
        work_spares (Pattern.occursIn_keeps kept isEngine text)) texts).bind
          fun _ _ => .pure trivial
  | matchesWhole label texts =>
      refine ((pattern_spares label).bind fun _ isEngine => ?_).leavesHosting
      exact (Scripting.Spares.mapM (fun text =>
        work_spares (Pattern.matchesWhole_keeps kept isEngine text)) texts).bind
          fun _ _ => .pure trivial
  | openPieces label pattern text =>
      refine ((patternNumber_spares pattern).bind fun number _ => ?_).leavesHosting
      exact (setIterator_spares isApart (.pieces number (.notStarted text)) trivial).bind
        fun _ _ => .pure trivial
  | operate label operation =>
      exact ((matcherNumber_spares label).bind fun number isOther =>
        matching_spares (isOther isApart.1) (Matcher.perform_keeps kept isApart.2)).leavesHosting
  | usePattern label other =>
      refine ((matcherNumber_spares label).bind fun number isOther => ?_).leavesHosting
      exact (pattern_spares other).bind fun pattern isEngine =>
        matching_spares (isOther isApart)
          (@Matcher.perform_keeps σ _ _ kept (.usePattern pattern) isEngine)
  | append label sink operation =>
      refine ((matcherNumber_spares label).bind fun number isOther => ?_).leavesHosting
      refine (matcherAt_spares number).bind fun matcher _ => ?_
      refine (appendTo_spares isApart.2.1 _).bind fun whole _ => ?_
      exact (matching_spares (isOther isApart.1) (Matcher.perform_keeps kept isApart.2.2)).bind
        fun _ _ => .pure trivial
  | readSink sink =>
      exact ((appendTo_spares isApart []).bind fun _ _ => .pure trivial).leavesHosting
  | openResults label matcher =>
      refine ((matcherNumber_spares matcher).bind fun number isOther => ?_).leavesHosting
      exact (setIterator_spares isApart.1 (.snapshots number .notStarted)
        (isOther isApart.2)).bind fun _ _ => .pure trivial
  | next label => exact (next_spares isApart).leavesHosting
  | closeIterator label => exact (closeIterator_spares isApart).leavesHosting
  | keep label matcher =>
      refine ((matcherNumber_spares matcher).bind fun number _ => ?_).leavesHosting
      refine (matcherAt_spares number).bind fun matcher _ => ?_
      refine (Scripting.Spares.modify fun crowd alone hosts => ?_).bind fun _ _ => .pure trivial
      exact { hosts with snapshots := hosts.snapshots.setOther isApart trivial }
  | ask label query =>
      refine (Scripting.Spares.get.bind fun crowd _ => ?_).leavesHosting
      exact (Scripting.Spares.lift fun _ _ => trivial).bind fun _ _ => .pure trivial

end Apart

end Session

end RegexMatching
