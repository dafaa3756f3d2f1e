import RegexMatching.Proofs.CompleteMatches
import RegexMatching.Proofs.HandleBalance

/-!
# Lookups of groups in sessions

Whatever is done in a session with engines on offer, each of its patterns counts the groups of its
code and each of its matchers has, in the match it holds, a span for every group.  So a group that
is looked up by a name or a number of its pattern is found in every match of the session.
-/

namespace RegexMatching

/-! ## Contracts of scripts -/

/-- Behind a script that is run in a good session, its value and the session are good. -/
def Scripting.Ensures {σ α : Type} (before : Session σ → Prop) (script : Scripting σ α)
    (after : α → Session σ → Prop) : Prop :=
  ∀ session value next, before session → script.run session = some (value, next) →
    after value next

namespace Scripting.Ensures

variable {σ α β : Type} {before : Session σ → Prop} {script : Scripting σ α}
  {after : α → Session σ → Prop}

theorem pure {value : α} (isGood : ∀ session, before session → after value session) :
    Scripting.Ensures before (pure value) after := by
  intro session value' next holds ran
  obtain ⟨rfl, rfl⟩ := Prod.mk.inj (Option.some.inj ran)
  exact isGood session holds

theorem bind {next : α → Scripting σ β} {behind : β → Session σ → Prop}
    (first : Scripting.Ensures before script after)
    (second : ∀ value, Scripting.Ensures (after value) (next value) behind) :
    Scripting.Ensures before (script >>= next) behind := by
  intro session value last holds ran
  rw [StateT.run_bind] at ran
  obtain ⟨⟨between, session'⟩, ran', ran''⟩ := Option.bind_eq_some_iff.mp ran
  exact second between session' value last (first session between session' holds ran') ran''

theorem mono {stronger : Session σ → Prop} {weaker : α → Session σ → Prop}
    (ensures : Scripting.Ensures before script after)
    (implied : ∀ session, stronger session → before session)
    (implied' : ∀ value session, after value session → weaker value session) :
    Scripting.Ensures stronger script weaker :=
  fun session value next holds ran =>
    implied' value next (ensures session value next (implied session holds) ran)

/-- What holds whatever the session is may be used all along. -/
theorem given {fact : Prop} (ensures : fact → Scripting.Ensures before script after) :
    Scripting.Ensures (fun session => fact ∧ before session) script after :=
  fun session value next holds ran => ensures holds.1 session value next holds.2 ran

theorem get :
    Scripting.Ensures before get fun value session => value = session ∧ before session := by
  intro session value next holds ran
  obtain ⟨rfl, rfl⟩ := Prod.mk.inj (Option.some.inj ran)
  exact ⟨rfl, holds⟩

theorem lift (option : Option α) :
    Scripting.Ensures before (liftM option) fun value session =>
      option = some value ∧ before session := by
  intro session value next holds ran
  obtain ⟨value', isSome, same⟩ := Option.bind_eq_some_iff.mp ran
  obtain ⟨rfl, rfl⟩ := Prod.mk.inj (Option.some.inj same)
  exact ⟨isSome, holds⟩

theorem modifyGet {change : Session σ → α × Session σ}
    (isGood : ∀ session, before session → after (change session).1 (change session).2) :
    Scripting.Ensures before (modifyGet change) after := by
  intro session value next holds ran
  have same : change session = (value, next) := Option.some.inj ran
  have isGood := isGood session holds
  rw [same] at isGood
  exact isGood

/-- What is done for all values in turn keeps what each keeps. -/
theorem mapM {step : β → Scripting σ α}
    (keeps : ∀ value, Scripting.Ensures before (step value) fun _ => before) (values : List β) :
    Scripting.Ensures before (values.mapM step) fun _ => before := by
  induction values with
  | nil => exact .pure fun _ holds => holds
  | cons value values ih =>
      rw [List.mapM_cons]
      exact (keeps value).bind fun _ => ih.bind fun _ => .pure fun _ holds => holds

end Scripting.Ensures

/-! ## Sessions with engines on offer -/

namespace Session

/-- A new session with engines on offer. -/
def offering (isLogged isCaching : Bool) (offered : List (Label × EngineKind))
    (state : SharedState) : Session SharedState where
  isLogged
  trace := { engines := state }
  engines := offered.map fun (label, kind) => (label, kind.sharedEngine isCaching)

/-- A session with engines on offer, in which all patterns count their groups and all matches have
a span for every group. -/
structure IsComplete (isCaching : Bool) (session : Session SharedState) : Prop where
  engines : ∀ entry ∈ session.engines, entry.2.IsOffered isCaching
  patterns : ∀ pattern ∈ session.patterns, pattern.IsCounted isCaching session.trace.engines
  matchers : ∀ matcher ∈ session.matchers, matcher.IsComplete isCaching session.trace.engines
  iterators : ∀ label number stream, (label, .pieces number stream) ∈ session.iterators →
    stream.IsOf fun pattern => pattern.adapter.engine.IsOffered isCaching
  snapshots : ∀ label snapshot spans, (label, snapshot) ∈ session.snapshots →
    snapshot.spans = some spans → snapshot.ReadsInside spans

variable {isCaching : Bool} {session : Session SharedState} {α : Type}

namespace IsComplete

/-- The engines were used. -/
theorem setTrace (isComplete : session.IsComplete isCaching) {trace : Trace SharedState}
    (ages : SharedState.Ages isCaching session.trace.engines trace.engines) :
    IsComplete isCaching { session with trace } :=
  { isComplete with
    patterns := fun pattern mem => (isComplete.patterns pattern mem).age ages
    matchers := fun matcher mem => (isComplete.matchers matcher mem).age ages }

theorem setIterator (isComplete : session.IsComplete isCaching) (label : Label)
    {iterator : SessionIterator SharedState}
    (isOf : ∀ number stream, iterator = .pieces number stream →
      stream.IsOf fun pattern => pattern.adapter.engine.IsOffered isCaching) :
    IsComplete isCaching { session with iterators := (label, iterator) :: session.iterators } :=
  { isComplete with
    iterators := by
      intro label' number stream mem
      rcases List.mem_cons.mp mem with same | mem
      · exact isOf number stream (congrArg Prod.snd same).symm
      · exact isComplete.iterators label' number stream mem }

end IsComplete

/-! ## What labels stand for -/

section Labels

variable {before : Session SharedState → Prop}

theorem patternNumber_ensures (label : Label) :
    Scripting.Ensures before (patternNumber label) fun _ => before :=
  Scripting.Ensures.get.bind fun _ =>
    (Scripting.Ensures.lift _).mono (fun _ holds => holds) fun _ _ holds => holds.2.2

theorem matcherNumber_ensures (label : Label) :
    Scripting.Ensures before (matcherNumber label) fun _ => before :=
  Scripting.Ensures.get.bind fun _ =>
    (Scripting.Ensures.lift _).mono (fun _ holds => holds) fun _ _ holds => holds.2.2

variable (isComplete : ∀ session, before session → session.IsComplete isCaching)

include isComplete

theorem patternAt_ensures (number : Nat) :
    Scripting.Ensures before (patternAt number) fun pattern session =>
      pattern.IsCounted isCaching session.trace.engines ∧ before session := by
  refine Scripting.Ensures.get.bind fun session => (Scripting.Ensures.lift _).mono
    (fun _ holds => holds) ?_
  rintro pattern _ ⟨found, rfl, holds⟩
  exact ⟨(isComplete session holds).patterns _ (Array.mem_of_getElem? found), holds⟩

theorem pattern_ensures (label : Label) :
    Scripting.Ensures before (pattern label) fun pattern session =>
      pattern.IsCounted isCaching session.trace.engines ∧ before session :=
  (patternNumber_ensures label).bind fun number => patternAt_ensures isComplete number

/-- Patterns are of engines on offer. -/
theorem patternAt_isOffered (number : Nat) :
    Scripting.Ensures before (patternAt number) fun pattern session =>
      pattern.adapter.engine.IsOffered isCaching ∧ before session :=
  (patternAt_ensures isComplete number).mono (fun _ holds => holds)
    fun _ _ holds => ⟨holds.1.isOffered, holds.2⟩

theorem pattern_isOffered (label : Label) :
    Scripting.Ensures before (pattern label) fun pattern session =>
      pattern.adapter.engine.IsOffered isCaching ∧ before session :=
  (patternNumber_ensures label).bind fun number => patternAt_isOffered isComplete number

theorem matcherAt_ensures (number : Nat) :
    Scripting.Ensures before (matcherAt number) fun matcher session =>
      matcher.IsComplete isCaching session.trace.engines ∧ before session := by
  refine Scripting.Ensures.get.bind fun session => (Scripting.Ensures.lift _).mono
    (fun _ holds => holds) ?_
  rintro matcher _ ⟨found, rfl, holds⟩
  exact ⟨(isComplete session holds).matchers _ (Array.mem_of_getElem? found), holds⟩

end Labels

/-! ## Work of engines -/

/-- Work that makes no handle stand for other code leaves a complete session. -/
theorem work_ensures {action : Work SharedState α} {good : α → Prop}
    (keeps : action.Keeps (SharedState.Ages isCaching) good) :
    Scripting.Ensures (IsComplete isCaching) (work action) fun _ => IsComplete isCaching := by
  intro session outcome next isComplete ran
  obtain ⟨rfl, rfl⟩ := Prod.mk.inj (Option.some.inj ran)
  exact isComplete.setTrace (keeps session.trace).1

/-- Work with a matcher that leaves it complete leaves a complete session. -/
theorem matching_ensures {before : Session SharedState → Prop} {action : Matching SharedState α}
    (number : Nat) (isComplete : ∀ session, before session → session.IsComplete isCaching)
    (keeps : ∀ session matcher, before session →
      matcher.IsComplete isCaching session.trace.engines →
        (action.exec ⟨matcher, session.trace⟩).2.IsComplete isCaching ∧
          SharedState.Ages isCaching session.trace.engines
            (action.exec ⟨matcher, session.trace⟩).2.trace.engines) :
    Scripting.Ensures before (matching number action) fun _ => IsComplete isCaching := by
  refine (matcherAt_ensures isComplete number).bind fun matcher => .modifyGet ?_
  rintro session ⟨isComplete', holds⟩
  obtain ⟨isComplete'', ages⟩ := keeps session matcher holds isComplete'
  have aged := (isComplete session holds).setTrace ages
  refine { aged with matchers := fun other mem => ?_ }
  rcases Array.mem_or_eq_of_mem_setIfInBounds mem with mem | rfl
  · exact aged.matchers other mem
  · exact isComplete''

theorem steps_ensures (number : Nat) {action : Matching SharedState α}
    (steps : ∀ configuration, Matcher.Steps configuration (action.exec configuration).2) :
    Scripting.Ensures (IsComplete isCaching) (matching number action)
      fun _ => IsComplete isCaching :=
  matching_ensures number (fun _ isComplete => isComplete) fun session matcher _ isComplete =>
    have isComplete : Configuration.IsComplete isCaching ⟨matcher, session.trace⟩ := isComplete
    ⟨isComplete.steps (steps _), isComplete.ages_of_steps (steps _)⟩

/-- An operation leaves a complete session, if the pattern it may bring with it counts its groups. -/
theorem perform_ensures {before : Session SharedState → Prop} (number : Nat)
    {operation : Matcher.Operation SharedState}
    (isComplete : ∀ session, before session → session.IsComplete isCaching)
    (isAllowed : ∀ session, before session →
      operation.Allowed (Pattern.IsCounted isCaching session.trace.engines)) :
    Scripting.Ensures before (matching number (Matcher.perform operation))
      fun _ => IsComplete isCaching :=
  matching_ensures number isComplete fun session matcher holds isComplete =>
    have isComplete : Configuration.IsComplete isCaching ⟨matcher, session.trace⟩ := isComplete
    ⟨isComplete.perform (isAllowed session holds),
      isComplete.ages_of_perform (isAllowed session holds)⟩

theorem setIterator_ensures (label : Label) {iterator : SessionIterator SharedState}
    (isOf : ∀ number stream, iterator = .pieces number stream →
      stream.IsOf fun pattern => pattern.adapter.engine.IsOffered isCaching) :
    Scripting.Ensures (IsComplete isCaching) (setIterator label iterator)
      fun _ => IsComplete isCaching :=
  .modifyGet fun _ isComplete => isComplete.setIterator label isOf

theorem streaming_ensures (label : Label) (number : Nat) {stream : PieceStream SharedState}
    (isOf : stream.IsOf fun pattern => pattern.adapter.engine.IsOffered isCaching)
    {action : Streaming SharedState α} {good : α → Prop}
    (keeps : action.Keeps (SharedState.Ages isCaching)
      (fun pattern => pattern.adapter.engine.IsOffered isCaching) good) :
    Scripting.Ensures (IsComplete isCaching) (streaming label number stream action)
      fun _ => IsComplete isCaching := by
  intro session outcome next isComplete ran
  obtain ⟨rfl, rfl⟩ := Prod.mk.inj (Option.some.inj ran)
  obtain ⟨isOf', ages, -⟩ := keeps stream session.trace isOf
  refine (isComplete.setTrace ages).setIterator label fun _ _ same => ?_
  obtain ⟨rfl, rfl⟩ := SessionIterator.pieces.inj same
  exact isOf'

theorem setSnapshots_ensures (label : Label) (number : Nat) (iteration : Iteration) :
    Scripting.Ensures (IsComplete isCaching) (setIterator label (.snapshots number iteration))
      fun _ => IsComplete isCaching :=
  setIterator_ensures label fun _ _ same => by cases same

theorem appendTo_ensures (sink : Label) (text : Text) :
    Scripting.Ensures (IsComplete isCaching) (appendTo sink text) fun _ => IsComplete isCaching :=
  .modifyGet fun _ isComplete => { isComplete with }

/-! ## Commands -/

/-- Work that makes no handle stand for other code leaves a complete session, and what it comes to
is good behind it. -/
theorem obtaining_ensures (good : SharedState → α → Prop) {before : Session SharedState → Prop}
    {action : Work SharedState α}
    (isComplete : ∀ session, before session → session.IsComplete isCaching)
    (works : ∀ session, before session →
      SharedState.Ages isCaching session.trace.engines (action.run session.trace).2.engines ∧
        ∀ value, (action.run session.trace).1 = .ok value →
          good (action.run session.trace).2.engines value) :
    Scripting.Ensures before (work action) fun outcome session =>
      session.IsComplete isCaching ∧ ∀ value, outcome = .ok value →
        good session.trace.engines value := by
  intro session outcome next holds ran
  obtain ⟨rfl, rfl⟩ := Prod.mk.inj (Option.some.inj ran)
  obtain ⟨ages, isGood⟩ := works session holds
  exact ⟨(isComplete session holds).setTrace ages, isGood⟩

/-- Compiling adds a pattern that counts its groups. -/
theorem compile_ensures (label engine : Label) (source : Text) (flags : Number)
    (settings : PatternSettings) :
    Scripting.Ensures (IsComplete isCaching) (compile label engine source flags settings)
      fun _ => IsComplete isCaching := by
  refine Scripting.Ensures.get.bind fun session => (Scripting.Ensures.lift _).bind fun engine => ?_
  refine (obtaining_ensures (Pattern.IsCounted isCaching) (fun _ holds => holds.2.2) ?_).bind
    fun outcome => ?_
  · rintro _ ⟨found, rfl, isComplete⟩
    obtain ⟨kind, rfl⟩ := isComplete.engines _ (mem_of_lookup found)
    exact ⟨(Pattern.compile_keeps SharedState.Ages.persists kind.compilesWithin_ages
      session.isLogged source flags settings session.trace).1,
      fun pattern => Pattern.isCounted_of_compile kind⟩
  · cases outcome with
    | error fault => exact .pure fun _ holds => holds.1
    | ok pattern =>
        refine (Scripting.Ensures.modifyGet ?_).bind fun _ => .pure fun _ holds => holds
        rintro session ⟨isComplete, isCounted⟩
        refine { isComplete with patterns := fun other mem => ?_ }
        rcases Array.mem_push.mp mem with mem | rfl
        · exact isComplete.patterns other mem
        · exact isCounted other rfl

/-- A pattern that is closed goes on counting its groups. -/
theorem closePattern_ensures (label : Label) :
    Scripting.Ensures (IsComplete isCaching) (closePattern label)
      fun _ => IsComplete isCaching := by
  refine (patternNumber_ensures label).bind fun number =>
    (patternAt_ensures (fun _ isComplete => isComplete) number).bind fun pattern => ?_
  refine (obtaining_ensures (Pattern.IsCounted isCaching) (fun _ holds => holds.2) ?_).bind
    fun outcome => ?_
  · rintro session ⟨isCounted, isComplete⟩
    obtain ⟨kind, isEngine⟩ := isCounted.isOffered
    exact ⟨(Pattern.close_keeps SharedState.Ages.persists kind.compilesWithin_ages isEngine
      session.trace).1, fun closed => isCounted.close⟩
  · cases outcome with
    | error fault => exact .pure fun _ holds => holds.1
    | ok closed =>
        refine (Scripting.Ensures.modifyGet ?_).bind fun _ => .pure fun _ holds => holds
        rintro session ⟨isComplete, isCounted⟩
        refine { isComplete with patterns := fun other mem => ?_ }
        rcases Array.mem_or_eq_of_mem_setIfInBounds mem with mem | rfl
        · exact isComplete.patterns other mem
        · exact isCounted other rfl

/-- A new matcher holds no match. -/
theorem makeMatcher_ensures (label pattern : Label) (text : Text) (settings : MatcherSettings) :
    Scripting.Ensures (IsComplete isCaching) (makeMatcher label pattern text settings)
      fun _ => IsComplete isCaching := by
  refine (pattern_ensures (fun _ isComplete => isComplete) pattern).bind fun pattern => ?_
  refine (obtaining_ensures (Matcher.IsComplete isCaching) (fun _ holds => holds.2) ?_).bind
    fun outcome => ?_
  · rintro session ⟨isCounted, isComplete⟩
    exact ⟨(Matcher.create_keeps SharedState.Ages.keptByCalls isCounted.isOffered text settings
      session.trace).1, fun matcher => Matcher.isComplete_of_create isCounted⟩
  · cases outcome with
    | error fault => exact .pure fun _ holds => holds.1
    | ok matcher =>
        refine (Scripting.Ensures.modifyGet ?_).bind fun _ => .pure fun _ holds => holds
        rintro session ⟨isComplete, isComplete'⟩
        refine { isComplete with matchers := fun other mem => ?_ }
        rcases Array.mem_push.mp mem with mem | rfl
        · exact isComplete.matchers other mem
        · exact isComplete' other rfl

/-- A test on the spot makes no handle stand for other code. -/
theorem testOnce_keeps (kind : EngineKind) (source text : Text) :
    (Pattern.testOnce (kind.sharedEngine isCaching) source text).Keeps
      (SharedState.Ages isCaching) fun _ => True := by
  have persists : Persists (SharedState.Ages isCaching) := SharedState.Ages.persists
  have kept := @SharedState.Ages.keptByCalls isCaching
  apply (Pattern.compile_keeps persists kind.compilesWithin_ages _ _ _ _).bind persists
  rintro pattern ⟨isEngine, -⟩
  have tests := (Matcher.create_keeps kept ⟨kind, isEngine⟩ text {}).bind persists
    fun matcher isOffered => Work.Keeps.on isOffered fun configuration =>
      (Matcher.matchWhole_steps configuration).keeps kept
  exact tests.lastly persists
    ((Pattern.close_keeps persists kind.compilesWithin_ages isEngine).discard persists)

theorem testOnce_ensures (engine : Label) (source text : Text) :
    Scripting.Ensures (IsComplete isCaching) (run (.testOnce engine source text))
      fun _ => IsComplete isCaching := by
  intro session reply next isComplete ran
  rw [run] at ran
  obtain ⟨_, found, ran⟩ := exists_of_run_read ran
  obtain ⟨kind, rfl⟩ := isComplete.engines _ (mem_of_lookup found)
  rw [run_work_bind] at ran
  obtain ⟨rfl, rfl⟩ := Prod.mk.inj (Option.some.inj ran)
  exact isComplete.setTrace (testOnce_keeps kind source text session.trace).1

/-- Streams of pieces among the iterators search with engines on offer. -/
theorem iterator_ensures (label : Label) (session : Session SharedState) :
    Scripting.Ensures (fun current => session = current ∧ current.IsComplete isCaching)
      (liftM (session.iterators.lookup label)) fun iterator current =>
        (∀ number stream, iterator = .pieces number stream →
          stream.IsOf fun pattern => pattern.adapter.engine.IsOffered isCaching) ∧
        current.IsComplete isCaching := by
  refine (Scripting.Ensures.lift _).mono (fun _ holds => holds) ?_
  rintro iterator _ ⟨found, rfl, isComplete⟩
  exact ⟨fun number stream same => isComplete.iterators label number stream
    (same ▸ mem_of_lookup found), isComplete⟩

theorem next_ensures (label : Label) :
    Scripting.Ensures (IsComplete isCaching) (next label) fun _ => IsComplete isCaching := by
  refine Scripting.Ensures.get.bind fun session => (iterator_ensures label session).bind
    fun iterator => .given fun isOf => ?_
  cases iterator with
  | snapshots number iteration =>
      exact (steps_ensures number (Matcher.next_steps iteration)).bind fun outcome =>
        (setSnapshots_ensures label number _).bind fun _ => .pure fun _ holds => holds
  | pieces number stream =>
      refine (patternAt_isOffered (fun _ holds => holds) number).bind
        fun pattern => .given fun isOffered => ?_
      exact (streaming_ensures label number (isOf number stream rfl)
        (PieceStream.next_keeps SharedState.Ages.keptByCalls isOffered)).bind
          fun _ => .pure fun _ holds => holds

theorem closeIterator_ensures (label : Label) :
    Scripting.Ensures (IsComplete isCaching) (closeIterator label)
      fun _ => IsComplete isCaching := by
  refine Scripting.Ensures.get.bind fun session => (iterator_ensures label session).bind
    fun iterator => .given fun isOf => ?_
  cases iterator with
  | snapshots number iteration =>
      exact (setSnapshots_ensures label number _).bind fun _ => .pure fun _ holds => holds
  | pieces number stream =>
      exact (streaming_ensures label number (isOf number stream rfl)
        (PieceStream.close_keeps SharedState.Ages.keptByCalls)).bind
          fun _ => .pure fun _ holds => holds

/-- A match that is kept has a span for every group. -/
theorem keep_ensures (label matcher : Label) :
    Scripting.Ensures (IsComplete isCaching) (run (.keep label matcher))
      fun _ => IsComplete isCaching := by
  refine (matcherNumber_ensures matcher).bind fun number =>
    (matcherAt_ensures (fun _ holds => holds) number).bind fun matcher =>
      (Scripting.Ensures.modifyGet ?_).bind fun _ => .pure fun _ holds => holds
  rintro session ⟨isComplete', isComplete⟩
  refine { isComplete with snapshots := fun label' snapshot spans mem isFound => ?_ }
  rcases List.mem_cons.mp mem with same | mem
  · cases same
    exact isComplete'.readsInside isFound
  · exact isComplete.snapshots label' snapshot spans mem isFound

/-- A command that brings no patterns with it leaves a complete session. -/
theorem run_ensures {command : Command SharedState} (isAllowed : command.Allowed fun _ => False) :
    Scripting.Ensures (IsComplete isCaching) (run command) fun _ => IsComplete isCaching := by
  cases command with
  | compile label engine source flags settings =>
      exact compile_ensures label engine source flags settings
  | testOnce engine source text => exact testOnce_ensures engine source text
  | closePattern label => exact closePattern_ensures label
  | next label => exact next_ensures label
  | closeIterator label => exact closeIterator_ensures label
  | makeMatcher label pattern text settings =>
      exact makeMatcher_ensures label pattern text settings
  | keep label matcher => exact keep_ensures label matcher
  | code label anchoring =>
      exact (pattern_isOffered (fun _ holds => holds) label).bind fun _ =>
        .pure fun _ holds => holds.2
  | isClosed label =>
      exact (pattern_isOffered (fun _ holds => holds) label).bind fun _ =>
        .pure fun _ holds => holds.2
  | source label =>
      exact (pattern_isOffered (fun _ holds => holds) label).bind fun _ =>
        .pure fun _ holds => holds.2
  | split label text rule =>
      exact (pattern_isOffered (fun _ holds => holds) label).bind fun pattern =>
        .given fun isOffered => (work_ensures
          (Pattern.split_keeps SharedState.Ages.keptByCalls isOffered text rule)).bind
            fun _ => .pure fun _ holds => holds
  | pieces label text =>
      exact (pattern_isOffered (fun _ holds => holds) label).bind fun pattern =>
        .given fun isOffered => (work_ensures
          (Pattern.pieces_keeps SharedState.Ages.keptByCalls isOffered text)).bind
            fun _ => .pure fun _ holds => holds
  | occursIn label texts =>
      exact (pattern_isOffered (fun _ holds => holds) label).bind fun pattern =>
        .given fun isOffered => (Scripting.Ensures.mapM (fun text => work_ensures
          (Pattern.occursIn_keeps SharedState.Ages.keptByCalls isOffered text)) texts).bind
            fun _ => .pure fun _ holds => holds
  | matchesWhole label texts =>
      exact (pattern_isOffered (fun _ holds => holds) label).bind fun pattern =>
        .given fun isOffered => (Scripting.Ensures.mapM (fun text => work_ensures
          (Pattern.matchesWhole_keeps SharedState.Ages.keptByCalls isOffered text)) texts).bind
            fun _ => .pure fun _ holds => holds
  | openPieces label pattern text =>
      refine (patternNumber_ensures pattern).bind fun number => (setIterator_ensures label ?_).bind
        fun _ => .pure fun _ holds => holds
      rintro _ _ ⟨⟩
      trivial
  | openResults label matcher =>
      exact (matcherNumber_ensures matcher).bind fun number =>
        (setSnapshots_ensures label number _).bind fun _ => .pure fun _ holds => holds
  | operate label operation =>
      exact (matcherNumber_ensures label).bind fun number =>
        perform_ensures number (fun _ holds => holds) fun _ _ => isAllowed.mono fun _ => False.elim
  | usePattern label other =>
      exact (matcherNumber_ensures label).bind fun number =>
        (pattern_ensures (fun _ holds => holds) other).bind fun pattern =>
          perform_ensures number (fun _ holds => holds.2) fun _ holds => holds.1
  | append label sink operation =>
      refine (matcherNumber_ensures label).bind fun number =>
        (matcherAt_ensures (fun _ holds => holds) number).bind fun matcher =>
          ((appendTo_ensures sink _).mono (fun _ holds => holds.2) fun _ _ holds => holds).bind
            fun whole => ?_
      exact (perform_ensures number (fun _ holds => holds)
        fun _ _ => Matcher.Operation.Allowed.mono isAllowed fun _ => False.elim).bind
          fun _ => .pure fun _ holds => holds
  | readSink sink =>
      exact (appendTo_ensures sink []).bind fun _ => .pure fun _ holds => holds
  | ask label query =>
      exact Scripting.Ensures.get.bind fun _ => (Scripting.Ensures.lift _).bind
        fun _ => .pure fun _ holds => holds.2.2

/-! ## Whole sessions -/

/-- Commands leave a complete session. -/
theorem IsComplete.after {commands : List (Command SharedState)}
    (isComplete : session.IsComplete isCaching)
    (allowed : ∀ command ∈ commands, command.Allowed fun _ => False) :
    (session.after commands).IsComplete isCaching := by
  induction commands generalizing session with
  | nil => exact isComplete
  | cons command rest ih =>
      obtain ⟨isAllowed, allowed'⟩ := List.forall_mem_cons.mp allowed
      rw [Session.after, List.foldl_cons]
      cases ran : (run command).run session with
      | none => exact ih isComplete allowed'
      | some done => exact ih (run_ensures isAllowed session done.1 done.2 isComplete ran) allowed'

theorem isComplete_offering (isLogged isCaching : Bool) (offered : List (Label × EngineKind))
    (state : SharedState) : (offering isLogged isCaching offered state).IsComplete isCaching where
  engines := by
    intro entry mem
    obtain ⟨⟨label, kind⟩, -, rfl⟩ := List.mem_map.mp mem
    exact ⟨kind, rfl⟩
  patterns := fun _ mem => absurd mem (Array.not_mem_empty _)
  matchers := fun _ mem => absurd mem (Array.not_mem_empty _)
  iterators := fun _ _ _ mem => absurd mem List.not_mem_nil
  snapshots := fun _ _ _ mem => absurd mem List.not_mem_nil

/-- The names of a lowered pattern are identifiers that differ, in the order of their groups, which
are groups of the pattern.  And whatever is done in a session with engines on offer, in each match
that a matcher holds, at the end of the session or in the course of a search from there, and in each
match that was kept, lookups by any name and any number that is accepted read inside. -/
theorem lookups_read_inside (isLogged isCaching : Bool) (offered : List (Label × EngineKind))
    (state : SharedState) (commands : List (Command SharedState))
    (allowed : ∀ command ∈ commands, command.Allowed fun _ => False) :
    (∀ options pattern lowered, Lowering.lower options pattern = .ok lowered →
      Lowering.IsNameTable lowered.names lowered.captureCount) ∧
    let session := (offering isLogged isCaching offered state).after commands
    (∀ matcher ∈ session.matchers, ∀ configuration,
      Matcher.Steps ⟨matcher, session.trace⟩ configuration →
      ∀ spans, configuration.matcher.snapshot.spans = some spans →
        configuration.matcher.snapshot.ReadsInside spans) ∧
    ∀ label snapshot spans, (label, snapshot) ∈ session.snapshots →
      snapshot.spans = some spans → snapshot.ReadsInside spans := by
  have isComplete := (isComplete_offering isLogged isCaching offered state).after allowed
  refine ⟨fun _ _ _ => Lowering.isNameTable_of_lower, ?_, isComplete.snapshots⟩
  intro matcher mem configuration steps spans isFound
  have start : Configuration.IsComplete isCaching ⟨matcher, _⟩ := isComplete.matchers matcher mem
  exact Matcher.IsComplete.readsInside (start.steps steps) isFound

/-- A pattern of which a match sets the second of two named groups, and the match kept while the
matcher goes on to another pattern. -/
def secondOfTwo : List (Command SharedState) :=
  [.compile "p" "engine" (Text.ofString "(?<left>a)|(?<right>b)") (.ofNat 0) {},
    .makeMatcher "m" "p" (Text.ofString "xb") {}, .operate "m" .find, .keep "s" "m",
    .compile "q" "engine" (Text.ofString "x") (.ofNat 0) {}, .usePattern "m" "q",
    .closePattern "p", .operate "m" .find]

theorem lookups_read_inside_secondOfTwo :
    let session := (offering false true [("engine", .backtracking)] {}).after secondOfTwo
    (∃ lowered, Lowering.lower {} (Text.ofString "(?<left>a)|(?<right>b)") = .ok lowered ∧
        lowered.names = [⟨Text.ofString "left", 1⟩, ⟨Text.ofString "right", 2⟩] ∧
        Lowering.IsNameTable lowered.names lowered.captureCount) ∧
      (session.snapshots.map fun entry => entry.2.spans.map Matcher.indexList) =
        [some [1, 2, -1, -1, 1, 2]] ∧
      (session.matchers.map fun matcher => matcher.snapshot.spans.map Matcher.indexList) =
        #[some [0, 1]] ∧
      (∀ matcher ∈ session.matchers, ∀ spans, matcher.snapshot.spans = some spans →
        matcher.snapshot.ReadsInside spans) ∧
      ∀ label snapshot spans, (label, snapshot) ∈ session.snapshots →
        snapshot.spans = some spans → snapshot.ReadsInside spans := by
  have allowed : ∀ command ∈ secondOfTwo, command.Allowed fun _ => False := by
    simp [secondOfTwo, Command.Allowed, Matcher.Operation.Allowed]
  obtain ⟨isNameTable, areInside, areInside'⟩ :=
    lookups_read_inside false true [("engine", .backtracking)] {} secondOfTwo allowed
  have names : (Lowering.lower {} (Text.ofString "(?<left>a)|(?<right>b)")).map
        Lowering.Lowered.names =
      .ok [⟨Text.ofString "left", 1⟩, ⟨Text.ofString "right", 2⟩] := by
    decide +kernel
  obtain ⟨lowered, isLowered, areNames⟩ := exists_of_map_eq_ok names
  refine ⟨⟨lowered, isLowered, areNames, isNameTable _ _ _ isLowered⟩, ?_, ?_, ?_, areInside'⟩
  · decide +kernel
  · decide +kernel
  · exact fun matcher mem => areInside matcher mem _ .refl

end Session

end RegexMatching
