import RegexMatching.Session
import RegexMatching.Engine.Scripted
import RegexMatching.Proofs.CodeHandles

/-!
# The balance of handles in a session

Between the commands of a session no match data is live, and the live code is the code of the
patterns that have not been closed.  No command but compiling and closing moves code at all, and
each of these two moves it between the engine and one pattern.
-/

namespace RegexMatching

/-- Whether a command brings allowed patterns only into a session. -/
def Command.Allowed {σ : Type} (allowed : Pattern σ → Prop) : Command σ → Prop
  | .operate _ operation => operation.Allowed allowed
  | .append _ _ operation => operation.Allowed allowed
  | _ => True

namespace Session

variable {σ : Type}

/-- A new session with audited engines. -/
def audited (isLogged : Bool) (engines : List (Label × Engine σ)) (state : σ) :
    Session (Audited σ) where
  isLogged
  trace := { engines := { engines := state } }
  engines := engines.map fun (label, engine) => (label, engine.audited)

/-- The session behind some commands.  A command with a label that stands for nothing is not
carried out. -/
def after (session : Session σ) (commands : List (Command σ)) : Session σ :=
  commands.foldl (fun session command =>
    (((run command).run session).map Prod.snd).getD session) session

def ledger (session : Session (Audited σ)) : Ledger :=
  session.trace.engines.ledger

/-- The code handles that the patterns of a session hold. -/
def held (session : Session σ) : List Handle :=
  session.patterns.toList.flatMap Pattern.held

/-- Everything in a session works with audited engines. -/
structure IsAudited (session : Session (Audited σ)) : Prop where
  engines : ∀ entry ∈ session.engines, ∃ engine : Engine σ, entry.2 = engine.audited
  patterns : ∀ pattern ∈ session.patterns, pattern.IsKept
  matchers : ∀ matcher ∈ session.matchers, matcher.pattern.IsAudited
  iterators : ∀ label number stream, (label, .pieces number stream) ∈ session.iterators →
    stream.IsAudited

/-- No match data is live, and the code that was compiled is the code that was released and the
code that patterns hold.  Zero has not been released. -/
structure IsBalanced (session : Session (Audited σ)) : Prop where
  matchData : session.ledger.made = session.ledger.freed
  code : session.ledger.issued.Perm (session.ledger.released ++ session.held)
  areHandles : 0 ∉ session.ledger.released

/-! ## Sessions that go on -/

/-- A later session, with the same patterns and no code moved in between. -/
structure Idles (before after : Session (Audited σ)) : Prop where
  isAudited : after.IsAudited
  patterns : after.patterns = before.patterns
  ledger : before.ledger.Idles after.ledger

/-- A later session, balanced if the earlier one was and no handle was issued twice. -/
structure Continues (before after : Session (Audited σ)) : Prop where
  isAudited : after.IsAudited
  issued : before.ledger.issued <+: after.ledger.issued
  isBalanced : after.ledger.issued.Nodup → before.IsBalanced → after.IsBalanced

variable {before between after : Session (Audited σ)}

theorem Idles.refl {session : Session (Audited σ)} (isAudited : session.IsAudited) :
    session.Idles session :=
  ⟨isAudited, rfl, .refl _⟩

theorem Idles.trans (idles : before.Idles between) (idles' : between.Idles after) :
    before.Idles after :=
  ⟨idles'.isAudited, idles'.patterns.trans idles.patterns, idles.ledger.trans idles'.ledger⟩

theorem Continues.refl {session : Session (Audited σ)} (isAudited : session.IsAudited) :
    session.Continues session :=
  ⟨isAudited, List.prefix_refl _, fun _ isBalanced => isBalanced⟩

theorem Continues.trans (continues : before.Continues between)
    (continues' : between.Continues after) : before.Continues after where
  isAudited := continues'.isAudited
  issued := continues.issued.trans continues'.issued
  isBalanced := fun distinct isBalanced =>
    continues'.isBalanced distinct
      (continues.isBalanced (distinct.sublist continues'.issued.sublist) isBalanced)

/-- Match data stays balanced wherever code moves. -/
theorem IsBalanced.made_eq_freed {taken given : List Handle} (isBalanced : before.IsBalanced)
    (moves : before.ledger.Moves after.ledger taken given) :
    after.ledger.made = after.ledger.freed := by
  obtain ⟨used, made, freed⟩ := moves.matchData
  rw [made, freed, isBalanced.matchData]

/-- All code that patterns get was compiled meanwhile, and all code that they no longer hold was
released. -/
theorem continues_of_moves {taken given : List Handle} (isAudited : after.IsAudited)
    (moves : before.ledger.Moves after.ledger taken given)
    (held : taken.Nodup → (before.held ++ taken).Perm (given ++ after.held)) :
    before.Continues after where
  isAudited
  issued := moves.issued ▸ List.prefix_append _ _
  isBalanced := by
    intro distinct isBalanced
    have distinct' : taken.Nodup := by
      rw [moves.issued] at distinct
      exact distinct.sublist (List.sublist_append_right _ _)
    have areHandles : 0 ∉ after.ledger.released := by
      rw [moves.released, List.mem_append, not_or]
      exact ⟨isBalanced.areHandles, moves.areHandles⟩
    refine ⟨isBalanced.made_eq_freed moves, ?_, areHandles⟩
    calc after.ledger.issued
      _ = before.ledger.issued ++ taken := moves.issued
      List.Perm _ (before.ledger.released ++ before.held ++ taken) :=
        isBalanced.code.append_right taken
      List.Perm _ (before.ledger.released ++ (given ++ after.held)) := by
        rw [List.append_assoc]
        exact (held distinct').append_left _
      _ = after.ledger.released ++ after.held := by
        rw [moves.released, List.append_assoc]

theorem Idles.continues (idles : before.Idles after) : before.Continues after := by
  apply continues_of_moves idles.isAudited idles.ledger
  intro _
  rw [List.append_nil, List.nil_append, held, held, idles.patterns]

end Session

/-! ## Scripts that move no code -/

/-- Work in a session that moves no code and comes to values of some kind. -/
def Scripting.Idles {σ α : Type} (script : Scripting (Audited σ) α) (kind : α → Prop) : Prop :=
  ∀ session value after, session.IsAudited → script.run session = some (value, after) →
    session.Idles after ∧ kind value

namespace Scripting.Idles

variable {σ α β : Type} {script : Scripting (Audited σ) α} {kind : α → Prop} {kind' : β → Prop}

theorem pure {value : α} (isKind : kind value) :
    (pure value : Scripting (Audited σ) α).Idles kind := by
  intro session value' after isAudited ran
  obtain ⟨rfl, rfl⟩ := Prod.mk.inj (Option.some.inj ran)
  exact ⟨.refl isAudited, isKind⟩

theorem bind {next : α → Scripting (Audited σ) β} (first : script.Idles kind)
    (second : ∀ value, kind value → (next value).Idles kind') : (script >>= next).Idles kind' := by
  intro session value after isAudited ran
  rw [StateT.run_bind] at ran
  obtain ⟨⟨between, session'⟩, ran', ran''⟩ := Option.bind_eq_some_iff.mp ran
  obtain ⟨idles, isKind⟩ := first session between session' isAudited ran'
  obtain ⟨idles', isKind'⟩ := second between isKind session' value after idles.isAudited ran''
  exact ⟨idles.trans idles', isKind'⟩

theorem mono {weaker : α → Prop} (idles : script.Idles kind)
    (implied : ∀ value, kind value → weaker value) : script.Idles weaker :=
  fun session value after isAudited ran =>
    (idles session value after isAudited ran).imp_right (implied value)

theorem get : (get : Scripting (Audited σ) (Session (Audited σ))).Idles
    Session.IsAudited := by
  intro session value after isAudited ran
  obtain ⟨rfl, rfl⟩ := Prod.mk.inj (Option.some.inj ran)
  exact ⟨.refl isAudited, isAudited⟩

theorem lift (option : Option α) :
    (liftM option : Scripting (Audited σ) α).Idles fun value => option = some value := by
  intro session value after isAudited ran
  obtain ⟨value', isSome, same⟩ := Option.bind_eq_some_iff.mp ran
  obtain ⟨rfl, rfl⟩ := Prod.mk.inj (Option.some.inj same)
  exact ⟨.refl isAudited, isSome⟩

theorem modify {change : Session (Audited σ) → Session (Audited σ)}
    (idles : ∀ session : Session (Audited σ), session.IsAudited → session.Idles (change session)) :
    (modify change : Scripting (Audited σ) PUnit).Idles fun _ => True := by
  intro session value after isAudited ran
  obtain ⟨rfl, rfl⟩ := Prod.mk.inj (Option.some.inj ran)
  exact ⟨idles session isAudited, trivial⟩

/-- What is done for all values in turn. -/
theorem mapM {next : β → Scripting (Audited σ) α} (idles : ∀ value, (next value).Idles kind)
    (values : List β) : (values.mapM next).Idles fun _ => True := by
  induction values with
  | nil => exact .pure trivial
  | cons value values ih =>
      rw [List.mapM_cons]
      exact (idles value).bind fun _ _ => ih.bind fun _ _ => .pure trivial

end Scripting.Idles

namespace Session

variable {σ α : Type}

/-! ## What labels stand for -/

theorem patternNumber_idles (label : Label) :
    (patternNumber label : Scripting (Audited σ) Nat).Idles fun _ => True :=
  Scripting.Idles.get.bind fun _ _ => (Scripting.Idles.lift _).mono fun _ _ => trivial

theorem matcherNumber_idles (label : Label) :
    (matcherNumber label : Scripting (Audited σ) Nat).Idles fun _ => True :=
  Scripting.Idles.get.bind fun _ _ => (Scripting.Idles.lift _).mono fun _ _ => trivial

theorem patternAt_idles (number : Nat) :
    (patternAt number : Scripting (Audited σ) _).Idles Pattern.IsAudited :=
  Scripting.Idles.get.bind fun _ isAudited => (Scripting.Idles.lift _).mono fun _ found =>
    (isAudited.patterns _ (Array.mem_of_getElem? found)).isAudited

theorem pattern_idles (label : Label) :
    (pattern label : Scripting (Audited σ) _).Idles Pattern.IsAudited :=
  (patternNumber_idles label).bind fun number _ => patternAt_idles number

theorem matcherAt_idles (number : Nat) :
    (matcherAt number : Scripting (Audited σ) _).Idles fun matcher =>
      matcher.pattern.IsAudited :=
  Scripting.Idles.get.bind fun _ isAudited => (Scripting.Idles.lift _).mono fun _ found =>
    isAudited.matchers _ (Array.mem_of_getElem? found)

/-! ## Work of engines -/

theorem isAudited_setTrace {session : Session (Audited σ)} (isAudited : session.IsAudited)
    (trace : Trace (Audited σ)) : IsAudited { session with trace } :=
  ⟨isAudited.engines, isAudited.patterns, isAudited.matchers, isAudited.iterators⟩

theorem work_idles {action : Work (Audited σ) α} {kind : α → Prop} (idles : action.Idles kind) :
    (work action).Idles fun outcome => ∀ value, outcome = .ok value → kind value := by
  intro session outcome after isAudited ran
  obtain ⟨rfl, rfl⟩ := Prod.mk.inj (Option.some.inj ran)
  obtain ⟨idles', isKind⟩ := idles session.trace
  exact ⟨⟨isAudited_setTrace isAudited _, rfl, idles'⟩, isKind⟩

/-- A matcher that stays with audited engines takes the place of another one. -/
theorem isAudited_setMatcher {session : Session (Audited σ)} (isAudited : session.IsAudited)
    (number : Nat) {matcher : Matcher (Audited σ)} (isAudited' : matcher.pattern.IsAudited)
    (trace : Trace (Audited σ)) :
    IsAudited { session with
      trace
      matchers := session.matchers.setIfInBounds number matcher } where
  engines := isAudited.engines
  patterns := isAudited.patterns
  matchers := by
    intro other mem
    rcases Array.mem_or_eq_of_mem_setIfInBounds mem with mem | rfl
    · exact isAudited.matchers other mem
    · exact isAudited'
  iterators := isAudited.iterators

theorem matching_idles {action : Matching (Audited σ) α} (number : Nat)
    (idles : ∀ configuration, Matcher.Idles configuration (action.exec configuration).2) :
    (matching number action).Idles fun _ => True := by
  apply (matcherAt_idles number).bind
  intro matcher isAudited' session outcome after isAudited ran
  obtain ⟨rfl, rfl⟩ := Prod.mk.inj (Option.some.inj ran)
  obtain ⟨isAudited'', idles'⟩ := idles ⟨matcher, session.trace⟩ isAudited'
  exact ⟨⟨isAudited_setMatcher isAudited number isAudited'' _, rfl, idles'⟩, trivial⟩

theorem isAudited_setIterator {session : Session (Audited σ)} (isAudited : session.IsAudited)
    (label : Label) {iterator : SessionIterator (Audited σ)}
    (isAudited' : ∀ number stream, iterator = .pieces number stream → stream.IsAudited) :
    IsAudited { session with iterators := (label, iterator) :: session.iterators } where
  engines := isAudited.engines
  patterns := isAudited.patterns
  matchers := isAudited.matchers
  iterators := by
    intro label' number stream mem
    rcases List.mem_cons.mp mem with same | mem
    · exact isAudited' number stream (congrArg Prod.snd same).symm
    · exact isAudited.iterators label' number stream mem

theorem setIterator_idles (label : Label) {iterator : SessionIterator (Audited σ)}
    (isAudited : ∀ number stream, iterator = .pieces number stream → stream.IsAudited) :
    (setIterator label iterator).Idles fun _ => True :=
  .modify fun _ isAudited' =>
    ⟨isAudited_setIterator isAudited' label isAudited, rfl, .refl _⟩

theorem setSnapshots_idles (label : Label) (number : Nat) (iteration : Iteration) :
    (setIterator label (.snapshots number iteration) : Scripting (Audited σ) Unit).Idles
      fun _ => True :=
  setIterator_idles label fun _ _ same => by cases same

theorem streaming_idles (label : Label) (number : Nat) {stream : PieceStream (Audited σ)}
    (isAudited : stream.IsAudited) {action : Streaming (Audited σ) α}
    (idles : action.Idles fun _ => True) :
    (streaming label number stream action).Idles fun _ => True := by
  intro session outcome after isAudited' ran
  obtain ⟨rfl, rfl⟩ := Prod.mk.inj (Option.some.inj ran)
  obtain ⟨isAudited'', idles', -⟩ := idles stream session.trace isAudited
  refine ⟨⟨isAudited_setIterator (isAudited_setTrace isAudited' _) label ?_, rfl, idles'⟩,
    trivial⟩
  intro _ _ same
  obtain ⟨rfl, rfl⟩ := SessionIterator.pieces.inj same
  exact isAudited''

theorem appendTo_idles (sink : Label) (text : Text) :
    (appendTo sink text : Scripting (Audited σ) Text).Idles fun _ => True := by
  intro session whole after isAudited ran
  obtain ⟨rfl, rfl⟩ := Prod.mk.inj (Option.some.inj ran)
  exact ⟨⟨⟨isAudited.engines, isAudited.patterns, isAudited.matchers, isAudited.iterators⟩, rfl,
    .refl _⟩, trivial⟩

/-! ## Commands that move no code -/

theorem makeMatcher_idles (label pattern : Label) (text : Text) (settings : MatcherSettings) :
    (makeMatcher label pattern text settings : Scripting (Audited σ) _).Idles fun _ => True := by
  apply (pattern_idles pattern).bind
  intro pattern isAudited
  apply (work_idles (Matcher.create_idles isAudited text settings)).bind
  intro outcome isAudited'
  cases outcome with
  | error fault => exact .pure trivial
  | ok matcher =>
      refine (Scripting.Idles.modify fun session isAudited'' => ?_).bind fun _ _ => .pure trivial
      refine ⟨⟨isAudited''.engines, isAudited''.patterns, fun other mem => ?_,
        isAudited''.iterators⟩, rfl, .refl _⟩
      rcases Array.mem_push.mp mem with mem | rfl
      · exact isAudited''.matchers other mem
      · exact isAudited' other rfl

/-- What a label stands for is listed under it. -/
theorem mem_of_lookup {label : Label} {value : α} {entries : List (Label × α)}
    (found : entries.lookup label = some value) : (label, value) ∈ entries := by
  obtain ⟨before, behind, rfl, -⟩ := List.lookup_eq_some_iff.mp found
  exact List.mem_append_right _ List.mem_cons_self

theorem iterator_idles (label : Label) (iterators : List (Label × SessionIterator (Audited σ)))
    (isAudited : ∀ label number stream, (label, .pieces number stream) ∈ iterators →
      stream.IsAudited) :
    (liftM (iterators.lookup label) : Scripting (Audited σ) (SessionIterator (Audited σ))).Idles
      fun iterator => ∀ number stream, iterator = .pieces number stream → stream.IsAudited :=
  (Scripting.Idles.lift _).mono fun _ found number stream same =>
    isAudited label number stream (same ▸ mem_of_lookup found)

theorem next_idles (label : Label) :
    (next label : Scripting (Audited σ) _).Idles fun _ => True := by
  apply Scripting.Idles.get.bind
  intro session isAudited
  apply (iterator_idles label _ isAudited.iterators).bind
  intro iterator isAudited'
  cases iterator with
  | snapshots number iteration =>
      refine (matching_idles number fun configuration =>
        (Matcher.next_steps iteration configuration).idles).bind fun outcome _ => ?_
      exact (setSnapshots_idles label number _).bind fun _ _ => .pure trivial
  | pieces number stream =>
      apply (patternAt_idles number).bind
      intro pattern isAudited''
      exact (streaming_idles label number (isAudited' number stream rfl)
        (PieceStream.next_idles isAudited'')).bind fun _ _ => .pure trivial

theorem closeIterator_idles (label : Label) :
    (closeIterator label : Scripting (Audited σ) _).Idles fun _ => True := by
  apply Scripting.Idles.get.bind
  intro session isAudited
  apply (iterator_idles label _ isAudited.iterators).bind
  intro iterator isAudited'
  cases iterator with
  | snapshots number iteration =>
      exact (setSnapshots_idles label number .ended).bind fun _ _ => .pure trivial
  | pieces number stream =>
      exact (streaming_idles label number (isAudited' number stream rfl)
        PieceStream.close_idles).bind fun _ _ => .pure trivial

/-! ## Commands that move code -/

/-- Work comes first, and the rest of a script is run behind it. -/
theorem run_work_bind {β : Type} (action : Work σ α) (next : Except Fault α → Scripting σ β)
    (session : Session σ) :
    (work action >>= next).run session =
      (next (action.run session.trace).1).run
        { session with trace := (action.run session.trace).2 } :=
  rfl

/-- A script goes on with what it reads of the session, if that is there. -/
theorem exists_of_run_read {β : Type} {read : Session σ → Option α}
    {next : Session σ → α → Scripting σ β} {session : Session σ} {result : β × Session σ}
    (ran : (do
      let session ← get
      let value ← read session
      next session value : Scripting σ β).run session = some result) :
    ∃ value, read session = some value ∧ (next session value).run session = some result := by
  obtain ⟨⟨value, between⟩, lifted, rest⟩ := Option.bind_eq_some_iff.mp ran
  obtain ⟨value', isRead, same⟩ := Option.bind_eq_some_iff.mp lifted
  obtain ⟨rfl, rfl⟩ := Prod.mk.inj (Option.some.inj same)
  exact ⟨value', isRead, rest⟩

variable {session next : Session (Audited σ)} {reply : Except Fault Reply}

/-- The engine of a label of a session is audited. -/
theorem IsAudited.exists_engine (isAudited : session.IsAudited) {label : Label}
    {engine : Engine (Audited σ)} (found : session.engines.lookup label = some engine) :
    ∃ unaudited : Engine σ, engine = unaudited.audited :=
  isAudited.engines _ (mem_of_lookup found)

/-- A session in which code was compiled and released again. -/
theorem continues_of_undoes (isAudited : next.IsAudited) (same : next.patterns = session.patterns)
    (undoes : session.ledger.Undoes next.ledger) : session.Continues next := by
  obtain ⟨taken, given, moves, all⟩ := undoes
  apply continues_of_moves isAudited moves
  intro distinct
  rw [all distinct, held, held, same]
  exact List.perm_append_comm

/-- Compiling adds a pattern with the code that was compiled, or leaves no code behind. -/
theorem compile_continues {label engine : Label} {source : Text} {flags : Number}
    {settings : PatternSettings} (isAudited : session.IsAudited)
    (ran : (compile label engine source flags settings).run session = some (reply, next)) :
    session.Continues next ∧
      ∀ fault, reply = .error fault → session.ledger.Undoes next.ledger := by
  rw [compile] at ran
  obtain ⟨_, found, ran⟩ := exists_of_run_read ran
  obtain ⟨engine, rfl⟩ := isAudited.exists_engine found
  rw [run_work_bind] at ran
  have moves := Pattern.compile_moves engine session.isLogged source flags settings session.trace
  rcases compiled : (Pattern.compile engine.audited session.isLogged source flags settings).run
    session.trace with ⟨outcome, trace⟩
  rw [compiled] at moves ran
  cases outcome with
  | error fault =>
      obtain ⟨rfl, rfl⟩ := Prod.mk.inj (Option.some.inj ran)
      exact ⟨continues_of_undoes (isAudited_setTrace isAudited trace) rfl moves,
        fun _ _ => moves⟩
  | ok pattern =>
      obtain ⟨rfl, rfl⟩ := Prod.mk.inj (Option.some.inj ran)
      obtain ⟨isKept, taken, moves, all⟩ := moves
      refine ⟨continues_of_moves ?_ moves fun distinct => ?_, fun _ same => by cases same⟩
      · refine ⟨isAudited.engines, fun other mem => ?_, isAudited.matchers, isAudited.iterators⟩
        rcases Array.mem_push.mp mem with mem | rfl
        · exact isAudited.patterns other mem
        · exact isKept
      · rw [held, held, Array.toList_push, List.flatMap_append, List.flatMap_singleton,
          all distinct, List.nil_append]

theorem testOnce_continues {engine : Label} {source text : Text} (isAudited : session.IsAudited)
    (ran : (run (.testOnce engine source text)).run session = some (reply, next)) :
    session.Continues next := by
  rw [run] at ran
  obtain ⟨_, found, ran⟩ := exists_of_run_read ran
  obtain ⟨engine, rfl⟩ := isAudited.exists_engine found
  rw [run_work_bind] at ran
  obtain ⟨rfl, rfl⟩ := Prod.mk.inj (Option.some.inj ran)
  exact continues_of_undoes (isAudited_setTrace isAudited _) rfl
    (Pattern.testOnce_undoes engine source text session.trace)

/-- What is collected from a list loses what comes from an element that is replaced by one from
which nothing comes. -/
theorem flatMap_set_perm {β γ : Type} (collect : β → List γ) {values : List β} {number : Nat}
    {value value' : β} (found : values[number]? = some value) (isEmpty : collect value' = []) :
    (values.flatMap collect).Perm
      (collect value ++ (values.set number value').flatMap collect) := by
  induction values generalizing number with
  | nil => cases found
  | cons first rest ih =>
      cases number with
      | zero =>
          obtain rfl := Option.some.inj found
          rw [List.set_cons_zero, List.flatMap_cons, List.flatMap_cons, isEmpty, List.nil_append]
      | succ number =>
          rw [List.set_cons_succ, List.flatMap_cons, List.flatMap_cons]
          calc collect first ++ rest.flatMap collect
            List.Perm _ (collect first ++ (collect value ++
                (rest.set number value').flatMap collect)) := (ih found).append_left _
            List.Perm _ (collect value ++ (collect first ++
                (rest.set number value').flatMap collect)) := List.perm_append_comm_assoc ..

/-- Closing releases the code of one pattern, which holds none from then on. -/
theorem closePattern_continues {label : Label} (isAudited : session.IsAudited)
    (ran : (closePattern label).run session = some (reply, next)) : session.Continues next := by
  simp only [closePattern, patternNumber, patternAt, bind_assoc] at ran
  obtain ⟨number, -, ran⟩ := exists_of_run_read ran
  obtain ⟨pattern, found, ran⟩ := exists_of_run_read ran
  rw [run_work_bind] at ran
  obtain ⟨closed, trace, closes, isKept, isClosed, moves⟩ :=
    Pattern.close_moves (isAudited.patterns _ (Array.mem_of_getElem? found)) session.trace
  rw [closes] at ran
  obtain ⟨rfl, rfl⟩ := Prod.mk.inj (Option.some.inj ran)
  refine @continues_of_moves σ session _ _ _ ?_ moves ?_
  · refine ⟨isAudited.engines, fun other mem => ?_, isAudited.matchers, isAudited.iterators⟩
    rcases Array.mem_or_eq_of_mem_setIfInBounds mem with mem | rfl
    · exact isAudited.patterns other mem
    · exact isKept
  · intro _
    rw [List.append_nil, held, held, Array.toList_setIfInBounds]
    apply flatMap_set_perm
    · rw [Array.getElem?_toList]
      exact found
    · rw [Pattern.held, isClosed, if_pos rfl]

/-! ## Whole sessions -/

/-- What moves no code keeps a session balanced. -/
theorem continues_of_idles {script : Scripting (Audited σ) (Except Fault Reply)}
    (idles : script.Idles fun _ => True) (isAudited : session.IsAudited)
    (ran : script.run session = some (reply, next)) : session.Continues next :=
  (idles session reply next isAudited ran).1.continues

/-- A command keeps a session balanced. -/
theorem run_continues {command : Command (Audited σ)}
    (isAllowed : command.Allowed Pattern.IsAudited) (isAudited : session.IsAudited)
    (ran : (run command).run session = some (reply, next)) : session.Continues next := by
  cases command with
  | compile label engine source flags settings => exact (compile_continues isAudited ran).1
  | testOnce engine source text => exact testOnce_continues isAudited ran
  | closePattern label => exact closePattern_continues isAudited ran
  | code label anchoring =>
      exact continues_of_idles ((pattern_idles label).bind fun _ _ => .pure trivial) isAudited ran
  | isClosed label =>
      exact continues_of_idles ((pattern_idles label).bind fun _ _ => .pure trivial) isAudited ran
  | source label =>
      exact continues_of_idles ((pattern_idles label).bind fun _ _ => .pure trivial) isAudited ran
  | split label text rule =>
      refine continues_of_idles ((pattern_idles label).bind fun _ isAudited => ?_) isAudited ran
      exact (work_idles (Pattern.split_idles isAudited text rule)).bind fun _ _ => .pure trivial
  | pieces label text =>
      refine continues_of_idles ((pattern_idles label).bind fun _ isAudited => ?_) isAudited ran
      exact (work_idles (Pattern.pieces_idles isAudited text)).bind fun _ _ => .pure trivial
  | occursIn label texts =>
      refine continues_of_idles ((pattern_idles label).bind fun _ isAudited => ?_) isAudited ran
      exact (Scripting.Idles.mapM (fun text =>
        work_idles (Pattern.occursIn_idles isAudited text)) texts).bind fun _ _ => .pure trivial
  | matchesWhole label texts =>
      refine continues_of_idles ((pattern_idles label).bind fun _ isAudited => ?_) isAudited ran
      exact (Scripting.Idles.mapM (fun text =>
        work_idles (Pattern.matchesWhole_idles isAudited text)) texts).bind fun _ _ => .pure trivial
  | openPieces label pattern text =>
      refine continues_of_idles ((patternNumber_idles pattern).bind fun _ _ => ?_) isAudited ran
      refine (setIterator_idles label fun _ _ same => ?_).bind fun _ _ => .pure trivial
      obtain ⟨rfl, rfl⟩ := SessionIterator.pieces.inj same
      trivial
  | makeMatcher label pattern text settings =>
      exact continues_of_idles (makeMatcher_idles label pattern text settings) isAudited ran
  | operate label operation =>
      refine continues_of_idles ((matcherNumber_idles label).bind fun number _ => ?_) isAudited ran
      exact matching_idles number (Matcher.perform_idles isAllowed)
  | usePattern label other =>
      refine continues_of_idles ((matcherNumber_idles label).bind fun number _ => ?_) isAudited ran
      exact (pattern_idles other).bind fun pattern isAudited' =>
        matching_idles number
          (@Matcher.perform_idles σ (.usePattern pattern) isAudited')
  | append label sink operation =>
      refine continues_of_idles ((matcherNumber_idles label).bind fun number _ => ?_) isAudited ran
      refine (matcherAt_idles number).bind fun matcher _ => ?_
      refine (appendTo_idles sink _).bind fun whole _ => ?_
      exact (matching_idles number (Matcher.perform_idles isAllowed)).bind fun _ _ => .pure trivial
  | readSink sink =>
      exact continues_of_idles ((appendTo_idles sink []).bind fun _ _ => .pure trivial)
        isAudited ran
  | openResults label matcher =>
      refine continues_of_idles ((matcherNumber_idles matcher).bind fun number _ => ?_)
        isAudited ran
      exact (setSnapshots_idles label number .notStarted).bind fun _ _ => .pure trivial
  | next label => exact continues_of_idles (next_idles label) isAudited ran
  | closeIterator label => exact continues_of_idles (closeIterator_idles label) isAudited ran
  | keep label matcher =>
      refine continues_of_idles ((matcherNumber_idles matcher).bind fun number _ => ?_)
        isAudited ran
      refine (matcherAt_idles number).bind fun matcher _ => ?_
      refine (Scripting.Idles.modify fun session isAudited' => ?_).bind fun _ _ => .pure trivial
      exact ⟨⟨isAudited'.engines, isAudited'.patterns, isAudited'.matchers,
        isAudited'.iterators⟩, rfl, .refl _⟩
  | ask label query =>
      refine continues_of_idles (Scripting.Idles.get.bind fun _ _ => ?_) isAudited ran
      exact (Scripting.Idles.lift _).bind fun _ _ => .pure trivial

/-- Commands keep a session balanced. -/
theorem after_continues (commands : List (Command (Audited σ)))
    (allowed : ∀ command ∈ commands, command.Allowed Pattern.IsAudited)
    (isAudited : session.IsAudited) : session.Continues (session.after commands) := by
  induction commands generalizing session with
  | nil => exact .refl isAudited
  | cons command rest ih =>
      obtain ⟨isAllowed, allowed'⟩ := List.forall_mem_cons.mp allowed
      rw [after, List.foldl_cons]
      cases ran : (run command).run session with
      | none => exact ih allowed' isAudited
      | some done =>
          have continues := run_continues isAllowed isAudited ran
          exact continues.trans (ih allowed' continues.isAudited)

theorem audited_isAudited (isLogged : Bool) (engines : List (Label × Engine σ)) (state : σ) :
    (audited isLogged engines state).IsAudited where
  engines := by
    intro entry mem
    obtain ⟨⟨label, engine⟩, -, rfl⟩ := List.mem_map.mp mem
    exact ⟨engine, rfl⟩
  patterns := fun _ mem => absurd mem (Array.not_mem_empty _)
  matchers := fun _ mem => absurd mem (Array.not_mem_empty _)
  iterators := fun _ _ _ mem => absurd mem List.not_mem_nil

theorem audited_isBalanced (isLogged : Bool) (engines : List (Label × Engine σ)) (state : σ) :
    (audited isLogged engines state).IsBalanced :=
  ⟨rfl, .refl _, List.not_mem_nil⟩

theorem mem_held {session : Session σ} {handle : Handle} :
    handle ∈ session.held ↔
      ∃ pattern ∈ session.patterns,
        pattern.isClosed = false ∧ handle ∈ handlesAmong pattern.variants.handles := by
  rw [held, List.mem_flatMap]
  constructor
  · rintro ⟨pattern, mem, isHeld⟩
    rw [Pattern.held] at isHeld
    cases isClosed : pattern.isClosed with
    | true =>
        rw [isClosed, if_pos rfl] at isHeld
        cases isHeld
    | false =>
        rw [isClosed, if_neg Bool.false_ne_true] at isHeld
        exact ⟨pattern, Array.mem_toList_iff.mp mem, isClosed, isHeld⟩
  · rintro ⟨pattern, mem, isClosed, isHeld⟩
    refine ⟨pattern, Array.mem_toList_iff.mpr mem, ?_⟩
    rw [Pattern.held, isClosed, if_neg Bool.false_ne_true]
    exact isHeld

/-- Behind any commands, with engines that issue no handle twice, no match data is live; the code
that is live is the code of the patterns that have not been closed; no code was released twice
and zero was not released; and a compile command that fails releases what it obtained. -/
theorem handles_balance (isLogged : Bool) (engines : List (Label × Engine σ)) (state : σ)
    (commands : List (Command (Audited σ)))
    (allowed : ∀ command ∈ commands, command.Allowed Pattern.IsAudited)
    (distinct : ((audited isLogged engines state).after commands).ledger.issued.Nodup) :
    let session := (audited isLogged engines state).after commands
    session.ledger.made = session.ledger.freed ∧
      (∀ handle, handle ∈ session.ledger.issued ∧ handle ∉ session.ledger.released ↔
        ∃ pattern ∈ session.patterns,
          pattern.isClosed = false ∧ handle ∈ handlesAmong pattern.variants.handles) ∧
      session.ledger.released.Nodup ∧ 0 ∉ session.ledger.released ∧
      ∀ label engine source flags settings fault next,
        (run (.compile label engine source flags settings)).run session =
          some (.error fault, next) →
        next.ledger.issued.Nodup →
        ∃ obtained, next.ledger.issued = session.ledger.issued ++ obtained ∧
          next.ledger.released = session.ledger.released ++ obtained := by
  intro session
  have continues := after_continues commands allowed (audited_isAudited isLogged engines state)
  have isBalanced := continues.isBalanced distinct (audited_isBalanced isLogged engines state)
  have apart : (session.ledger.released ++ session.held).Nodup :=
    isBalanced.code.nodup_iff.mp distinct
  obtain ⟨once, -, disjoint⟩ := List.nodup_append.mp apart
  refine ⟨isBalanced.matchData, fun handle => ?_, once, isBalanced.areHandles, ?_⟩
  · rw [← mem_held, isBalanced.code.mem_iff, List.mem_append]
    constructor
    · rintro ⟨isReleased | isHeld, unreleased⟩
      · exact absurd isReleased unreleased
      · exact isHeld
    · intro isHeld
      exact ⟨.inr isHeld, fun isReleased => disjoint _ isReleased _ isHeld rfl⟩
  · intro label engine source flags settings fault next ran distinct'
    obtain ⟨taken, given, moves, all⟩ := (compile_continues continues.isAudited ran).2 fault rfl
    rw [moves.issued] at distinct'
    obtain rfl := all (distinct'.sublist (List.sublist_append_right _ _))
    exact ⟨given, moves.issued, moves.released⟩

/-- An engine with anchored code that fails its sixth compile call and its second match call. -/
def sixthFails : Script where
  capabilities :=
    { anchoredVariants := true
      partialMatching := false
      lineBoundaryOptions := true
      executionStack := false }
  compileFailures := [(5, { code := 101, description := .engineOwn })]
  answers := [{ result := 1, offsets := [0, 1] }, { result := ResultCode.matchLimit }]

/-- A pattern that is closed twice, while a matcher still uses it, and a pattern that cannot be
compiled. -/
def twoPatterns : List (Command (Audited Recording)) :=
  [.compile "p" "engine" [0x61] (.ofNat 0) {}, .makeMatcher "m" "p" [0x61] {},
    .operate "m" .find, .compile "q" "engine" [0x61] (.ofNat 0) {}, .closePattern "p",
    .operate "m" .matchWhole, .closePattern "p"]

theorem handles_balance_sixthFails :
    let session := (audited false [("engine", sixthFails.toEngine)] {}).after twoPatterns
    session.ledger =
        { issued := [1, 2, 3, 5, 6], released := [5, 6, 1, 2, 3]
          made := [4, 7], freed := [4, 7] } ∧
      session.ledger.issued.Nodup ∧ session.ledger.made = session.ledger.freed ∧
      session.ledger.released.Nodup ∧ 0 ∉ session.ledger.released := by
  have allowed : ∀ command ∈ twoPatterns, command.Allowed Pattern.IsAudited := by
    simp [twoPatterns, Command.Allowed, Matcher.Operation.Allowed]
  have distinct : ((audited false [("engine", sixthFails.toEngine)] {}).after
      twoPatterns).ledger.issued.Nodup := by
    decide +kernel
  obtain ⟨matchData, -, once, areHandles, -⟩ :=
    handles_balance false [("engine", sixthFails.toEngine)] {} twoPatterns allowed distinct
  refine ⟨?_, distinct, matchData, once, areHandles⟩
  decide +kernel

end Session

end RegexMatching
