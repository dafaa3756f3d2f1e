import RegexMatching.Proofs.CodeHandles
import RegexMatching.Proofs.StackBalance

/-!
# What is left behind

Splitting and testing make a matcher of their own and close it, and a stream of pieces closes its
matcher when it ends.  So they leave nothing behind, however they end.  The exceptions are a test on
the spot, which closes its pattern but not its matcher, and a matcher that cannot be had because the
engine reports no partial matches, as its stack is made before that is found out.
-/

namespace RegexMatching

variable {τ α : Type} {log : τ → List StackEvent} {number : Nat}

/-- Custody that passes from one stack to the same one, as long as one likes. -/
theorem persists_custody (log : τ → List StackEvent) (held : Option ExecutionStack) :
    Persists (CustodyPasses log held held) where
  refl _ := .of_eq rfl held
  trans first second := first.trans second

/-- An audited engine is followed in the log of the engine that is audited. -/
theorem Engine.Tracks.audited {engine : Engine τ} (tracks : engine.Tracks number log) :
    engine.audited.Tracks number fun audited => log audited.engines where
  compile pattern options state := tracks.compile pattern options state.engines
  captureCount code state := tracks.captureCount code state.engines
  nameTable code state := tracks.nameTable code state.engines
  createMatchData code state := tracks.createMatchData code state.engines
  captureOffsets data state := tracks.captureOffsets data state.engines
  mark data state := tracks.mark data state.engines
  freeMatchData data state := tracks.freeMatchData data state.engines
  release code state := tracks.release code state.engines
  run code subject start options data stack state :=
    tracks.run code subject start options data stack state.engines
  makeStack state := by
    rw [engine.audited_makeStack_run]
    exact tracks.makeStack state.engines
  isSome_releaseStack state isHandle := by
    rw [engine.audited_makeStack_run] at isHandle
    exact Option.isSome_map.trans (tracks.isSome_releaseStack state.engines isHandle)
  dropStack handle state isAble := by
    rw [engine.audited_dropStack_run]
    exact tracks.dropStack handle state.engines fun isHandle =>
      Option.isSome_map.symm.trans (isAble isHandle)

/-! ## Matchers of their own -/

theorem Matcher.close_passes {matcher : Matcher τ} (holds : matcher.Holds log number)
    (trace : Trace τ) :
    CustodyPasses log (stackOf? number matcher.stack) none trace.engines
      (matcher.close.run trace).2.engines := by
  have holds' : (Configuration.mk matcher trace).matcher.Holds log number := holds
  rw [(close_run ⟨matcher, trace⟩ :)]
  exact closed_passes holds'

/-- Without settings a matcher is refused before a stack is made for it. -/
theorem Matcher.eq_of_create_error {pattern : Pattern τ} {text : Text} {fault : Fault}
    {trace made : Trace τ}
    (refused : (Matcher.create pattern text {}).run trace = (.error fault, made)) :
    made = trace := by
  rw [Matcher.create_run] at refused
  split at refused
  · exact (Prod.mk.inj refused).2.symm
  · cases congrArg Prod.fst refused

/-- Work with a matcher of its own gives back the stack that it makes, also when it fails. -/
theorem Pattern.withMatcher_givesBack {pattern : Pattern τ}
    (tracks : pattern.adapter.engine.Tracks number log) (text : Text) {matching : Matching τ α}
    (steps : ∀ configuration, Matcher.Steps configuration (matching.exec configuration).2) :
    (pattern.withMatcher text matching).Keeps (CustodyPasses log none none) fun _ => True := by
  intro trace
  refine ⟨?_, fun _ _ => trivial⟩
  rw [withMatcher, Work.run_bind]
  rcases created : (Matcher.create pattern text {}).run trace with ⟨outcome, made⟩
  cases outcome with
  | error fault =>
      obtain rfl := Matcher.eq_of_create_error created
      exact .of_eq rfl none
  | ok matcher =>
      obtain ⟨takes, holds⟩ := Matcher.create_passes tracks created
      have uses := (steps ⟨matcher, made⟩).usesStack holds.tracks
      dsimp only
      rw [Work.run_finally, Matching.run_on, Matcher.discard_close_run]
      exact (takes.trans uses.passes).trans (Matcher.close_passes holds _)

theorem Pattern.split_givesBack {pattern : Pattern τ}
    (tracks : pattern.adapter.engine.Tracks number log) (text : Text) (rule : SplitRule) :
    (pattern.split text rule).Keeps (CustodyPasses log none none) fun _ => True :=
  (withMatcher_givesBack tracks text
    (collectPieces_steps rule text (matchLimit + text.length) 0 ⟨[], 0⟩)).bind
      (persists_custody log none) fun _ _ => .pure (persists_custody log none) trivial

/-! ## Streams of pieces -/

namespace PieceStream

/-- The stack of the matcher of a stream; zero when there is none. -/
def stack : PieceStream τ → Handle
  | running matcher .. => matcher.stack
  | _ => 0

/-- A stream whose matcher, if there is one, holds its stack. -/
def Holds (log : τ → List StackEvent) (number : Nat) : PieceStream τ → Prop
  | running matcher .. => matcher.Holds log number
  | _ => True

/-- From engines at one moment to a stream and engines at a later one, custody has passed to the
stream. -/
structure Takes (log : τ → List StackEvent) (number : Nat) (held : Option ExecutionStack)
    (before : τ) (stream : PieceStream τ) (after : τ) : Prop where
  holds : stream.Holds log number
  passes : CustodyPasses log held (stackOf? number stream.stack) before after

theorem Takes.before {held held' : Option ExecutionStack} {before between after : τ}
    {stream : PieceStream τ} (takes : Takes log number held between stream after)
    (passes : CustodyPasses log held' held before between) :
    Takes log number held' before stream after :=
  ⟨takes.holds, passes.trans takes.passes⟩

/-- The search for a piece uses the stack of the matcher. -/
theorem searchPiece_uses {pattern : Pattern τ}
    (tracks : pattern.adapter.engine.Tracks number log) {stack : Handle} {matcher : Matcher τ}
    (isPattern : matcher.pattern = pattern) (isStack : matcher.stack = stack)
    (fuel held : Nat) (index : Int) :
    (searchPiece matcher fuel held index).Keeps
      (CustodyPasses log (stackOf? number stack) (stackOf? number stack))
      fun searched => searched.2.1.pattern = pattern ∧ searched.2.1.stack = stack := by
  have persists := persists_custody log (stackOf? number stack)
  induction fuel generalizing matcher held index with
  | zero => exact .pure persists ⟨isPattern, isStack⟩
  | succ fuel ih =>
      have searches : (Matching.on (do let isFound ← Matcher.find; return (isFound, ← get))
          matcher).Keeps (CustodyPasses log (stackOf? number stack) (stackOf? number stack))
          fun found => found.2.pattern = pattern ∧ found.2.stack = stack := by
        subst isPattern isStack
        intro trace
        have uses := (Matcher.find_steps ⟨matcher, trace⟩).usesStack tracks
        rw [Matching.run_on, Matching.exec_bind]
        rcases ran : Matcher.find.exec ⟨matcher, trace⟩ with ⟨outcome, after⟩
        rw [ran] at uses
        cases outcome with
        | error fault => exact ⟨uses.passes, fun _ same => by cases same⟩
        | ok isFound =>
            exact ⟨uses.passes, fun _ same => by cases same; exact ⟨uses.pattern, uses.stack⟩⟩
      apply searches.bind persists
      rintro ⟨isFound, found⟩ ⟨isPattern', isStack'⟩
      cases isFound with
      | false => exact .pure persists ⟨isPattern', isStack'⟩
      | true =>
          dsimp only
          rw [if_pos rfl]
          split
          · exact ih isPattern' isStack' _ _
          · exact .pure persists ⟨isPattern', isStack'⟩

/-- A stream that has done something: it has taken over custody, and has ended unless it hands out
a piece. -/
structure Goes (log : τ → List StackEvent) (number : Nat) (held : Option ExecutionStack)
    (before : τ) (ran : (Except Fault (Option Text) × PieceStream τ) × Trace τ) : Prop where
  takes : Takes log number held before ran.1.2 ran.2.engines
  ends : (∀ piece, ran.1.1 ≠ .ok (some piece)) → ran.1.2 = ended

theorem handOut_goes {matcher : Matcher τ} (holds : matcher.Holds log number) (ready : List Text)
    (index : Int) (isSearched : Bool) (stream : PieceStream τ) (trace : Trace τ) :
    Goes log number (stackOf? number matcher.stack) trace.engines
      (((handOut matcher ready index isSearched).run stream).run trace) := by
  cases ready with
  | cons piece ready => exact ⟨⟨holds, .of_eq rfl _⟩, fun isNone => absurd rfl (isNone piece)⟩
  | nil =>
      rw [handOut_nil_run]
      exact ⟨⟨trivial, Matcher.close_passes holds trace⟩, fun _ => rfl⟩

/-- A search that fails closes the matcher. -/
theorem advance_goes {matcher : Matcher τ} (holds : matcher.Holds log number) (index : Int)
    (stream : PieceStream τ) (trace : Trace τ) :
    Goes log number (stackOf? number matcher.stack) trace.engines
      (((advance matcher index).run stream).run trace) := by
  obtain ⟨uses, same⟩ := searchPiece_uses holds.tracks rfl rfl
    (matchLimit + matcher.text.length) 0 index trace
  rw [advance, Streaming.run_bind, run_ofWork, Work.run_onFailure]
  rcases ran : (searchPiece matcher (matchLimit + matcher.text.length) 0 index).run trace with
    ⟨outcome, after⟩
  rw [ran] at uses same
  cases outcome with
  | error fault =>
      exact ⟨⟨trivial, uses.trans (Matcher.close_passes holds after)⟩, fun _ => rfl⟩
  | ok searched =>
      rcases searched with ⟨ready, found, index', isSearched⟩
      obtain ⟨pattern, stack⟩ := same _ rfl
      have goes := handOut_goes (holds.of_eq pattern stack) ready index' isSearched stream after
      refine ⟨goes.takes.before ?_, goes.ends⟩
      dsimp only at stack
      rw [stack]
      exact uses

/-- Taking one more piece. -/
theorem next_goes {pattern : Pattern τ} (tracks : pattern.adapter.engine.Tracks number log)
    {stream : PieceStream τ} (holds : stream.Holds log number) (trace : Trace τ) :
    Goes log number (stackOf? number stream.stack) trace.engines
      (((next pattern).run stream).run trace) := by
  cases stream with
  | ended => exact ⟨⟨trivial, .of_eq rfl _⟩, fun _ => rfl⟩
  | running matcher ready index isSearched =>
      change Goes _ _ _ _ (((if ready.isEmpty && !isSearched then advance matcher index
        else handOut matcher ready index isSearched).run _).run trace)
      split
      · exact advance_goes holds index _ trace
      · exact handOut_goes holds ready index isSearched _ trace
  | notStarted text =>
      change Goes _ _ _ _ ((((if text.isEmpty then (do
          set (ended : PieceStream τ)
          return some text)
        else (do
          let matcher ← ofWork (Matcher.create pattern text {})
          advance matcher 0)) : Streaming τ (Option Text)).run _).run trace)
      split
      · exact ⟨⟨trivial, .of_eq rfl _⟩, fun isNone => absurd rfl (isNone text)⟩
      · rw [Streaming.run_bind, run_ofWork]
        rcases created : (Matcher.create pattern text {}).run trace with ⟨outcome, made⟩
        cases outcome with
        | error fault =>
            obtain rfl := Matcher.eq_of_create_error created
            exact ⟨⟨trivial, .of_eq rfl _⟩, fun _ => rfl⟩
        | ok matcher =>
            obtain ⟨takes, holds'⟩ := Matcher.create_passes tracks created
            have goes := advance_goes holds' 0 (.notStarted text) made
            exact ⟨goes.takes.before takes, goes.ends⟩

theorem close_takes {stream : PieceStream τ} (holds : stream.Holds log number) (trace : Trace τ) :
    let ran := ((close : Streaming τ Unit).run stream).run trace
    ran.1.2 = ended ∧
      CustodyPasses log (stackOf? number stream.stack) none trace.engines ran.2.engines := by
  cases stream with
  | ended => exact ⟨rfl, .of_eq rfl _⟩
  | notStarted text => exact ⟨rfl, .of_eq rfl _⟩
  | running matcher ready index isSearched =>
      change ((((ofWork (discard matcher.close))).run ended).run trace).1.2 = _ ∧
        CustodyPasses _ _ _ _ ((((ofWork (discard matcher.close))).run ended).run trace).2.engines
      rw [run_ofWork, Matcher.discard_close_run]
      exact ⟨rfl, Matcher.close_passes holds trace⟩

end PieceStream

/-- What a caller does with a stream of pieces: take one more piece, or close it. -/
inductive PieceAct where
  | next
  | close
deriving DecidableEq, Repr

/-- Carry out an act. -/
def PieceAct.make (pattern : Pattern τ) : PieceAct → Streaming τ (Option Text)
  | next => PieceStream.next pattern
  | close => do
      PieceStream.close
      return none

/-- An act on engines as they are at that time. -/
structure PieceVisit (τ : Type) where
  act : PieceAct
  trace : Trace τ

/-- What a visit to a stream comes to, and the stream and the engines afterwards. -/
def PieceVisit.run (visit : PieceVisit τ) (pattern : Pattern τ) (stream : PieceStream τ) :
    (Except Fault (Option Text) × PieceStream τ) × Trace τ :=
  ((visit.act.make pattern).run stream).run visit.trace

theorem PieceVisit.goes {pattern : Pattern τ} (tracks : pattern.adapter.engine.Tracks number log)
    {stream : PieceStream τ} (holds : stream.Holds log number) (visit : PieceVisit τ) :
    PieceStream.Goes log number (stackOf? number stream.stack) visit.trace.engines
      (visit.run pattern stream) := by
  rcases visit with ⟨act, trace⟩
  cases act with
  | next => exact PieceStream.next_goes tracks holds trace
  | close =>
      have closes := PieceStream.close_takes holds trace
      rw [run, PieceAct.make, Streaming.run_bind]
      rcases ran : ((PieceStream.close : Streaming τ Unit).run stream).run trace with
        ⟨⟨outcome, stream'⟩, after⟩
      rw [ran] at closes
      obtain ⟨rfl, passes⟩ := closes
      cases outcome <;> exact ⟨⟨trivial, passes⟩, fun _ => rfl⟩

namespace PieceStream

/-- The stream behind some visits. -/
def behind (pattern : Pattern τ) (stream : PieceStream τ) (visits : List (PieceVisit τ)) :
    PieceStream τ :=
  visits.foldl (fun stream visit => (visit.run pattern stream).1.2) stream

/-- The engines before and after each of some visits. -/
def moments (pattern : Pattern τ) : List (PieceVisit τ) → PieceStream τ → List (τ × τ)
  | [], _ => []
  | visit :: rest, stream =>
      (visit.trace.engines, (visit.run pattern stream).2.engines) ::
        moments pattern rest (visit.run pattern stream).1.2

/-- What happens to stacks during some visits. -/
def visitEvents (log : τ → List StackEvent) (pattern : Pattern τ) (visits : List (PieceVisit τ))
    (stream : PieceStream τ) : List StackEvent :=
  (moments pattern visits stream).flatMap fun moment => loggedSince log moment.1 moment.2

/-- Over all visits to a stream, custody goes from its stack to the stack it has then. -/
theorem visits_goes {pattern : Pattern τ} (tracks : pattern.adapter.engine.Tracks number log)
    (visits : List (PieceVisit τ)) {stream : PieceStream τ} (holds : stream.Holds log number) :
    Custody (stackOf? number stream.stack) (visitEvents log pattern visits stream)
        (stackOf? number (behind pattern stream visits).stack) ∧
      (behind pattern stream visits).Holds log number := by
  induction visits generalizing stream with
  | nil => exact ⟨.nil _, holds⟩
  | cons visit rest ih =>
      obtain ⟨holds', events, logged, custody⟩ := (visit.goes tracks holds).takes
      obtain ⟨custody', holds''⟩ := ih holds'
      refine ⟨?_, holds''⟩
      rw [visitEvents, moments, List.flatMap_cons, loggedSince_eq logged]
      exact custody.append custody'

/-- A stream that hands out no piece has ended. -/
theorem behind_eq_ended {pattern : Pattern τ} (tracks : pattern.adapter.engine.Tracks number log)
    {stream : PieceStream τ} (holds : stream.Holds log number) (earlier : List (PieceVisit τ))
    {visit : PieceVisit τ}
    (isNone : ∀ piece, (visit.run pattern (behind pattern stream earlier)).1.1 ≠ .ok (some piece)) :
    behind pattern stream (earlier ++ [visit]) = ended := by
  have goes := visit.goes tracks (visits_goes tracks earlier holds).2
  rw [behind, List.foldl_append]
  exact goes.ends isNone

theorem moments_idle {σ : Type} {pattern : Pattern (Audited σ)} (isAudited : pattern.IsAudited)
    (visits : List (PieceVisit (Audited σ))) {stream : PieceStream (Audited σ)}
    (isAudited' : stream.IsAudited) :
    ∀ moment ∈ moments pattern visits stream, moment.1.ledger.Idles moment.2.ledger := by
  induction visits generalizing stream with
  | nil => exact fun _ mem => absurd mem List.not_mem_nil
  | cons visit rest ih =>
      have acts : (visit.act.make pattern).Idles fun _ => True := by
        cases visit.act with
        | next => exact next_idles isAudited
        | close =>
            apply Streaming.Keeps.bind keptByCalls_idles.toPersists close_idles
            exact fun _ _ => .pure keptByCalls_idles.toPersists trivial
      obtain ⟨isAudited'', idles, -⟩ := acts stream visit.trace isAudited'
      rw [moments, List.forall_mem_cons]
      exact ⟨idles, ih isAudited''⟩

end PieceStream

/-! ## What stays -/

/-- Compiling, asking about code and releasing it are no matter of stacks. -/
theorem Engine.Tracks.compilesWithin {engine : Engine τ} (tracks : engine.Tracks number log)
    (held : Option ExecutionStack) : engine.CompilesWithin (CustodyPasses log held held) where
  compile pattern options state := .of_eq (tracks.compile pattern options state) held
  captureCount code state := .of_eq (tracks.captureCount code state) held
  nameTable code state := .of_eq (tracks.nameTable code state) held
  release code state := .of_eq (tracks.release code state) held

/-- The stack that is left when no matcher can be had: the one that was made before this was found
out.  A closed pattern is found out at once. -/
def Matcher.unclaimed (number : Nat) (pattern : Pattern τ) (engines : τ) :
    Option ExecutionStack :=
  if pattern.isClosed then none
  else stackOf? number (pattern.adapter.engine.makeStack.run engines).1

theorem Matcher.create_passes_of_error {pattern : Pattern τ}
    (tracks : pattern.adapter.engine.Tracks number log) {text : Text}
    {settings : MatcherSettings} {trace after : Trace τ} {fault : Fault}
    (failed : (create pattern text settings).run trace = (.error fault, after)) :
    CustodyPasses log none (unclaimed number pattern trace.engines) trace.engines
      after.engines := by
  rw [create_run] at failed
  rw [unclaimed]
  cases isClosed : pattern.isClosed with
  | true =>
      rw [isClosed, if_pos rfl] at failed
      obtain ⟨-, rfl⟩ := Prod.mk.inj failed
      exact .of_eq rfl none
  | false =>
      rw [isClosed, if_neg Bool.false_ne_true] at failed
      obtain ⟨-, rfl⟩ := Prod.mk.inj failed
      exact ⟨_, tracks.makeStack trace.engines, Custody.take _⟩

/-- The stack that is left of a test on the spot: the one of its matcher, if there is a matcher. -/
def Pattern.unclosed (number : Nat) (engine : Engine τ) (source : Text) (trace : Trace τ) :
    Option ExecutionStack :=
  match (compile engine false source (.ofNat 0) {}).run trace with
  | (.ok _, compiled) => stackOf? number (engine.makeStack.run compiled.engines).1
  | (.error _, _) => none

theorem Pattern.testOnce_passes {engine : Engine τ} (tracks : engine.Tracks number log)
    (source text : Text) (trace : Trace τ) :
    CustodyPasses log none (unclosed number engine source trace) trace.engines
      ((testOnce engine source text).run trace).2.engines := by
  rw [testOnce, Work.run_bind, unclosed]
  obtain ⟨passes, isNew⟩ := compile_keeps (persists_custody log none) (tracks.compilesWithin none)
    false source (.ofNat 0) {} trace
  rcases ran : (compile engine false source (.ofNat 0) {}).run trace with ⟨outcome, compiled⟩
  rw [ran] at passes isNew
  cases outcome with
  | error fault => exact passes
  | ok pattern =>
      obtain ⟨rfl, isOpen⟩ := isNew pattern rfl
      obtain ⟨matcher, made, created, isStack⟩ : ∃ matcher made,
          (Matcher.create pattern text {}).run compiled = (.ok matcher, made) ∧
            matcher.stack = (pattern.adapter.engine.makeStack.run compiled.engines).1 :=
        ⟨_, _, Matcher.create_run_of_supported isOpen (fun isPartial => by cases isPartial) text
          compiled, rfl⟩
      obtain ⟨takes, holds⟩ := Matcher.create_passes tracks created
      have uses := (Matcher.matchWhole_steps ⟨matcher, made⟩).usesStack holds.tracks
      have persists := persists_custody log (stackOf? number matcher.stack)
      have closes := (close_keeps persists (tracks.compilesWithin _) rfl).discard persists
      dsimp only
      rw [← isStack, Work.run_finally, Work.run_bind, created]
      exact (passes.trans (takes.trans uses.passes)).trans (closes _).1

/-! ## What is left behind -/

/-- An engine whose handles and stacks are followed. -/
def Engine.followed {σ : Type} (engine : Engine σ) : Engine (Audited (Tracked σ)) :=
  (engine.tracked 0).audited

variable {σ : Type}

/-- Between two moments stacks were made and given back in order, and no more of them is left than
`held`. -/
def LeavesStack (before after : Audited (Tracked σ)) (held : Option ExecutionStack) : Prop :=
  ∃ events, after.engines.log = before.engines.log ++ events ∧ StacksInOrder events ∧
    stacksMade events = stacksDropped events ++ held.toList

/-- Between two moments all stacks that were made were given back, all match data that was made was
freed, and no code was compiled or released. -/
structure LeavesNothing (before after : Audited (Tracked σ)) : Prop where
  custody : LeavesStack before after none
  handles : before.ledger.Idles after.ledger

theorem CustodyPasses.leavesStack {held : Option ExecutionStack}
    {before after : Audited (Tracked σ)}
    (passes : CustodyPasses (fun audited => audited.engines.log) none held before after) :
    LeavesStack before after held := by
  obtain ⟨events, logged, custody⟩ := passes
  exact ⟨events, logged, custody.inOrder, custody.balance⟩

/-- Splitting and testing leave nothing behind, however they end, and so does a stream of pieces
that has no more pieces, has failed or was closed.  A matcher that cannot be had leaves the stack
that was made for it, and a test on the spot leaves the stack of its matcher, but no code. -/
theorem leftovers {engine : Engine σ} (takesBack : engine.TakesBack) :
    (∀ pattern : Pattern (Audited (Tracked σ)), pattern.adapter.engine = engine.followed →
      ∀ text trace,
        (∀ rule, LeavesNothing trace.engines ((pattern.split text rule).run trace).2.engines) ∧
        LeavesNothing trace.engines ((pattern.occursIn text).run trace).2.engines ∧
        LeavesNothing trace.engines ((pattern.matchesWhole text).run trace).2.engines ∧
        ∀ settings fault after,
          (Matcher.create pattern text settings).run trace = (.error fault, after) →
            trace.engines.ledger.Idles after.engines.ledger ∧
            LeavesStack trace.engines after.engines
              (Matcher.unclaimed 0 pattern trace.engines)) ∧
    (∀ pattern : Pattern (Audited (Tracked σ)), pattern.adapter.engine = engine.followed →
      ∀ text (visits : List (PieceVisit (Audited (Tracked σ)))),
        let stream := PieceStream.notStarted text
        let events :=
          PieceStream.visitEvents (fun audited => audited.engines.log) pattern visits stream
        let last := PieceStream.behind pattern stream visits
        (∀ moment ∈ PieceStream.moments pattern visits stream,
          moment.1.ledger.Idles moment.2.ledger) ∧
        StacksInOrder events ∧
        stacksMade events = stacksDropped events ++ (stackOf? 0 last.stack).toList ∧
        ∀ earlier visit, visits = earlier ++ [visit] →
          (∀ piece, (visit.run pattern (PieceStream.behind pattern stream earlier)).1.1 ≠
            .ok (some piece)) →
          stacksMade events = stacksDropped events) ∧
    ∀ source text trace,
      let after := ((Pattern.testOnce engine.followed source text).run trace).2
      trace.engines.ledger.Undoes after.engines.ledger ∧
        LeavesStack trace.engines after.engines
          (Pattern.unclosed 0 engine.followed source trace) := by
  have tracks := (Engine.tracked_tracks takesBack 0).audited
  refine ⟨fun pattern isEngine text trace => ?_, fun pattern isEngine text visits => ?_,
    fun source text trace => ?_⟩
  · have isAudited : pattern.IsAudited := ⟨_, isEngine⟩
    have tracks' := tracks
    rw [← Engine.followed, ← isEngine] at tracks'
    refine ⟨fun rule => ⟨?_, (Pattern.split_idles isAudited text rule trace).1⟩,
      ⟨?_, (Pattern.occursIn_idles isAudited text trace).1⟩,
      ⟨?_, (Pattern.matchesWhole_idles isAudited text trace).1⟩,
      fun settings fault after failed => ⟨?_, ?_⟩⟩
    · exact (Pattern.split_givesBack tracks' text rule trace).1.leavesStack
    · exact (Pattern.withMatcher_givesBack tracks' text Matcher.find_steps trace).1.leavesStack
    · exact (Pattern.withMatcher_givesBack tracks' text Matcher.matchWhole_steps
        trace).1.leavesStack
    · have idles := (Matcher.create_idles isAudited text settings trace).1
      rw [failed] at idles
      exact idles
    · exact (Matcher.create_passes_of_error tracks' failed).leavesStack
  · have isAudited : pattern.IsAudited := ⟨_, isEngine⟩
    have tracks' := tracks
    rw [← Engine.followed, ← isEngine] at tracks'
    obtain ⟨custody, -⟩ := PieceStream.visits_goes tracks' visits
      (show (PieceStream.notStarted text).Holds _ 0 from trivial)
    refine ⟨PieceStream.moments_idle isAudited visits trivial, custody.inOrder, custody.balance,
      fun earlier visit ends isNone => ?_⟩
    have isEnded := PieceStream.behind_eq_ended tracks'
      (show (PieceStream.notStarted text).Holds _ 0 from trivial) earlier isNone
    have balance := custody.balance
    rw [← ends] at isEnded
    rw [isEnded] at balance
    exact balance.trans (List.append_nil _)
  · exact ⟨Pattern.testOnce_undoes (engine.tracked 0) source text trace,
      (Pattern.testOnce_passes tracks source text trace).leavesStack⟩

/-! ## An engine with stacks -/

/-- An engine that finds no match, has execution stacks and reports no partial matches. -/
def stackKeeper : Engine Recording :=
  Script.toEngine {
    capabilities :=
      { anchoredVariants := false
        partialMatching := false
        lineBoundaryOptions := true
        executionStack := true } }

namespace stackKeeper

def pattern : Pattern (Audited (Tracked Recording)) where
  adapter := { engine := stackKeeper.followed, isLogged := false }
  source := [0x61]
  flags := .ofNat 0
  canonicalEquivalence := false
  variants := .shared 1
  groupCount := 0
  names := []

/-- Engines that have done nothing yet. -/
def start : Trace (Audited (Tracked Recording)) :=
  ⟨{ engines := { engines := {} } }, []⟩

end stackKeeper

theorem leftovers_split :
    let after := ((stackKeeper.pattern.split [0x61] {}).run stackKeeper.start).2
    after.engines.engines.log = [.made ⟨0, 1⟩, .used 0 1, .dropped ⟨0, 1⟩] ∧
      after.engines.ledger = { made := [2], freed := [2] } ∧
      LeavesNothing stackKeeper.start.engines after.engines := by
  have takesBack : stackKeeper.TakesBack := fun _ _ => rfl
  refine ⟨by decide +kernel, by decide +kernel, ?_⟩
  exact ((leftovers takesBack).1 stackKeeper.pattern rfl [0x61] stackKeeper.start).1 {}

/-- A test on the spot and a matcher that cannot be had leave a stack behind. -/
theorem leaves_stack_of_testOnce_and_create :
    let tested := ((Pattern.testOnce stackKeeper.followed [0x61] [0x61]).run stackKeeper.start).2
    let refused := ((Matcher.create stackKeeper.pattern [0x61]
      { partialMatching := true }).run stackKeeper.start)
    tested.engines.engines.log = [.made ⟨0, 2⟩, .used 0 2] ∧
      ¬LeavesStack stackKeeper.start.engines tested.engines none ∧
      refused.1 = .error (.noPartialMatching (Text.ofString "scripted")) ∧
      refused.2.engines.engines.log = [.made ⟨0, 1⟩] ∧
      ¬LeavesStack stackKeeper.start.engines refused.2.engines none := by
  have isLeft : ∀ {after : Audited (Tracked Recording)} {events : List StackEvent},
      after.engines.log = events → stacksMade events ≠ stacksDropped events →
        ¬LeavesStack stackKeeper.start.engines after none := by
    rintro after events logged unequal ⟨events', logged', -, balance⟩
    obtain rfl : events = events' := logged.symm.trans logged'
    exact unequal (balance.trans (List.append_nil _))
  have tested : ((Pattern.testOnce stackKeeper.followed [0x61] [0x61]).run
      stackKeeper.start).2.engines.engines.log = [.made ⟨0, 2⟩, .used 0 2] := by
    decide +kernel
  have refused : ((Matcher.create stackKeeper.pattern [0x61] { partialMatching := true }).run
      stackKeeper.start).2.engines.engines.log = [.made ⟨0, 1⟩] := by
    decide +kernel
  exact ⟨tested, isLeft tested (by decide), rfl, refused, isLeft refused (by decide)⟩

end RegexMatching
