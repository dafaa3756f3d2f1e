import RegexMatching.Proofs.Reachable
import RegexMatching.Proofs.SearchLoops

/-!
# Relations that work keeps

Everything that is done with a matcher, splitting and streaming included, calls its engine in three
ways only: it makes match calls, makes stacks and gives them back.  A relation between engines
before and after that each of these keeps is kept by all of it, and the matchers and streams it
comes to go on with patterns of the same kind.
-/

namespace RegexMatching

/-- A relation between earlier engines and later ones that is no matter of how often it is
considered. -/
structure Persists {τ : Type} (related : τ → τ → Prop) : Prop where
  refl : ∀ state, related state state
  trans : ∀ {before between after}, related before between → related between after →
    related before after

/-- A relation between earlier engines and later ones that the calls of patterns of some kind
keep. -/
structure KeptByCalls {τ : Type} (related : τ → τ → Prop) (kind : Pattern τ → Prop) : Prop
    extends Persists related where
  exchange : ∀ {pattern}, kind pattern → ∀ request state,
    related state ((pattern.adapter.engine.exchange request).run state).2
  makeStack : ∀ {pattern}, kind pattern → ∀ state,
    related state (pattern.adapter.engine.makeStack.run state).2
  dropStack : ∀ {pattern}, kind pattern → ∀ stack state,
    related state ((pattern.adapter.engine.dropStack stack).run state).2

variable {τ α β : Type} {related : τ → τ → Prop} {kind : Pattern τ → Prop}

/-! ## Steps -/

namespace Matcher

/-- If the earlier configuration has a pattern of some kind, so does the later one, and the engines
are related. -/
def Keeps (related : τ → τ → Prop) (kind : Pattern τ → Prop) (before after : Configuration τ) :
    Prop :=
  kind before.matcher.pattern →
    kind after.matcher.pattern ∧ related before.trace.engines after.trace.engines

variable (kept : KeptByCalls related kind)

include kept

theorem related_attempt {matcher : Matcher τ} (isKind : kind matcher.pattern) (view : RegionView)
    (start : Nat) (anchoring : Anchoring) (trace : Trace τ) :
    related trace.engines ((matcher.attempt view start anchoring).run trace).2.engines := by
  rw [attempt_run]
  cases matcher.request? view start anchoring with
  | error fault => exact kept.refl _
  | ok request? =>
      cases request? with
      | none => exact kept.refl _
      | some request => exact kept.exchange isKind request trace.engines

theorem Keeps.of_eq {before after : Configuration τ}
    (samePattern : after.matcher.pattern = before.matcher.pattern)
    (sameTrace : after.trace = before.trace) : Keeps related kind before after := by
  intro isKind
  rw [samePattern, sameTrace]
  exact ⟨isKind, kept.refl _⟩

theorem Keeps.trans {before between after : Configuration τ}
    (first : Keeps related kind before between) (second : Keeps related kind between after) :
    Keeps related kind before after := by
  intro isKind
  obtain ⟨isKind', related⟩ := first isKind
  obtain ⟨isKind'', related'⟩ := second isKind'
  exact ⟨isKind'', kept.trans related related'⟩

theorem keeps_search (start : Nat) (anchoring : Anchoring) (configuration : Configuration τ) :
    Keeps related kind configuration ((search start anchoring).exec configuration).2 := by
  intro isKind
  rw [search_exec_view]
  cases configuration.matcher.regionView with
  | error fault => exact ⟨isKind, kept.refl _⟩
  | ok view =>
      dsimp only
      have isKind' : kind { configuration.matcher with view := some view }.pattern := isKind
      generalize { configuration.matcher with view := some view } = matcher at isKind' ⊢
      have attempted := related_attempt kept isKind' view start anchoring configuration.trace
      cases ((matcher.attempt view start anchoring).run configuration.trace).1 with
      | error fault => exact ⟨isKind', attempted⟩
      | ok state => cases state <;> exact ⟨isKind', attempted⟩

theorem Step.keeps {before after : Configuration τ} (step : Step before after) :
    Keeps related kind before after := by
  cases step with
  | search start anchoring inside => exact keeps_search kept start anchoring before
  | exhaust => exact .of_eq kept rfl rfl
  | clearMatch => exact .of_eq kept rfl rfl
  | reset => exact .of_eq kept rfl rfl
  | append template =>
      obtain ⟨cursor, appended⟩ := exists_appendReplacement_eq before.matcher template
      rw [appended]
      exact .of_eq kept rfl rfl

theorem Steps.keeps {before after : Configuration τ} (steps : Steps before after) :
    Keeps related kind before after := by
  induction steps with
  | refl => exact .of_eq kept rfl rfl
  | tail _ step ih => exact ih.trans kept (step.keeps kept)

theorem Change.keeps {before after : Configuration τ} (change : Change kind before after) :
    Keeps related kind before after := by
  intro isKind
  refine ⟨change.isAllowed isKind, ?_⟩
  cases change with
  | resetTo text => exact kept.refl _
  | region restricted => exact kept.refl _
  | useAnchoringBounds value => exact kept.refl _
  | usePartialMatching changed => exact kept.refl _
  | @usePattern pattern isKind' isOpen =>
      exact kept.trans (kept.dropStack isKind _ _) (kept.makeStack isKind' _)
  | close => exact kept.dropStack isKind _ _

/-- An operation that switches to patterns of the kind only keeps the relation. -/
theorem perform_keeps {operation : Operation τ} (isAllowed : operation.Allowed kind)
    (configuration : Configuration τ) :
    Keeps related kind configuration ((perform operation).exec configuration).2 :=
  (perform_steps_or_change operation isAllowed configuration).elim (Steps.keeps kept)
    (Change.keeps kept)

end Matcher

/-! ## Work -/

/-- Work that keeps a relation between engines before and after, and comes to good values if it does
not fail. -/
def Work.Keeps (related : τ → τ → Prop) (work : Work τ α) (good : α → Prop) : Prop :=
  ∀ trace, related trace.engines (work.run trace).2.engines ∧
    ∀ value, (work.run trace).1 = .ok value → good value

namespace Work.Keeps

variable (persists : Persists related) {work : Work τ α} {good : α → Prop} {good' : β → Prop}

include persists

theorem pure {value : α} (isGood : good value) : (pure value : Work τ α).Keeps related good :=
  fun _ => ⟨persists.refl _, fun _ same => Except.ok.inj same ▸ isGood⟩

theorem throw (fault : Fault) : (throw fault : Work τ α).Keeps related good :=
  fun _ => ⟨persists.refl _, fun _ same => by cases same⟩

theorem ofExcept (outcome : Except Fault α) :
    (Work.ofExcept outcome : Work τ α).Keeps related fun value => outcome = .ok value :=
  fun _ => ⟨persists.refl _, fun _ same => same⟩

theorem record (isLogged : Bool) (event : Event) :
    (Work.record isLogged event : Work τ Unit).Keeps related fun _ => True := by
  intro trace
  cases isLogged <;> exact ⟨persists.refl _, fun _ _ => trivial⟩

theorem bind {next : α → Work τ β} (first : work.Keeps related good)
    (second : ∀ value, good value → (next value).Keeps related good') :
    (work >>= next).Keeps related good' := by
  intro trace
  obtain ⟨keeps, isGood⟩ := first trace
  rw [run_bind]
  rcases ran : work.run trace with ⟨outcome, after⟩
  rw [ran] at keeps isGood
  cases outcome with
  | error fault => exact ⟨keeps, fun _ same => by cases same⟩
  | ok value =>
      obtain ⟨keeps', isGood'⟩ := second value (isGood value rfl) after
      exact ⟨persists.trans keeps keeps', isGood'⟩

theorem discard (keeps : work.Keeps related good) :
    (discard work).Keeps related fun _ => True :=
  keeps.bind persists fun _ _ => .pure persists trivial

theorem lastly {last : Work τ Unit} (first : work.Keeps related good)
    (ends : last.Keeps related fun _ => True) :
    (work.finally last).Keeps related fun _ => True := by
  intro trace
  rw [run_finally]
  exact ⟨persists.trans (first trace).1 (ends _).1, fun _ _ => trivial⟩

theorem onFailure {cleanup : Work τ β} (first : work.Keeps related good)
    (cleans : cleanup.Keeps related good') : (work.onFailure cleanup).Keeps related good := by
  intro trace
  obtain ⟨keeps, isGood⟩ := first trace
  rw [run_onFailure]
  rcases ran : work.run trace with ⟨outcome, after⟩
  rw [ran] at keeps isGood
  cases outcome with
  | error fault =>
      exact ⟨persists.trans keeps (cleans after).1, fun _ same => by cases same⟩
  | ok value => exact ⟨keeps, isGood⟩

omit persists

theorem ofAction {action : StateM τ α} (keeps : ∀ state, related state (action.run state).2) :
    (Work.ofAction action).Keeps related fun _ => True :=
  fun trace => ⟨keeps trace.engines, fun _ _ => trivial⟩

/-- Work with a matcher of its own. -/
theorem on {matcher : Matcher τ} {matching : Matching τ α} (isKind : kind matcher.pattern)
    (keeps : ∀ configuration,
      Matcher.Keeps related kind configuration (matching.exec configuration).2) :
    (matching.on matcher).Keeps related fun _ => True := by
  intro trace
  rw [Matching.run_on]
  exact ⟨(keeps ⟨matcher, trace⟩ isKind).2, fun _ _ => trivial⟩

end Work.Keeps

namespace Matcher

variable (kept : KeptByCalls related kind)

include kept

theorem create_keeps {pattern : Pattern τ} (isKind : kind pattern) (text : Text)
    (settings : MatcherSettings) :
    (create pattern text settings).Keeps related fun matcher => kind matcher.pattern := by
  intro trace
  constructor
  · rw [create_run]
    cases pattern.isClosed with
    | true => exact kept.refl _
    | false => exact kept.makeStack isKind trace.engines
  · intro matcher isCreated
    rw [(create_consistent (Prod.ext isCreated rfl)).2]
    exact isKind

theorem close_keeps {matcher : Matcher τ} (isKind : kind matcher.pattern) :
    matcher.close.Keeps related fun _ => True := by
  intro trace
  rw [(close_run ⟨matcher, trace⟩ :)]
  exact ⟨kept.dropStack isKind _ _, fun _ _ => trivial⟩

end Matcher

/-! ## Compiling and closing -/

/-- An engine whose code can be made, asked about and released while a relation is kept. -/
structure Engine.CompilesWithin (related : τ → τ → Prop) (engine : Engine τ) : Prop where
  compile : ∀ pattern options state, related state ((engine.compile pattern options).run state).2
  captureCount : ∀ code state, related state ((engine.captureCount code).run state).2
  nameTable : ∀ code state, related state ((engine.nameTable code).run state).2
  release : ∀ code state, related state ((engine.release code).run state).2

section Compiling

variable (persists : Persists related) {engine : Engine τ}
  (within : engine.CompilesWithin related) {adapter : Adapter τ}

include persists within

theorem Adapter.compile_keeps (isEngine : adapter.engine = engine) (pattern : Text)
    (options : Int) (mapIndex : Int → Int) (displayed : Text) :
    (adapter.compile pattern options mapIndex displayed).Keeps related fun compiled =>
      compiled.2.engine = engine := by
  obtain rfl := isEngine
  apply (Work.Keeps.ofAction (within.compile _ _)).bind persists
  intro result _
  cases result with
  | compiled handle => exact .pure persists rfl
  | rejected rejection =>
      exact (Work.Keeps.record persists _ _).bind persists fun _ _ => .throw persists _

theorem Adapter.release_keeps (isEngine : adapter.engine = engine) (code : Handle) :
    (adapter.release code).Keeps related fun released => released.engine = engine := by
  obtain rfl := isEngine
  rw [release]
  split
  · exact .pure persists rfl
  · exact (Work.Keeps.ofAction (within.release code)).bind persists fun _ _ =>
      (Work.Keeps.record persists _ _).bind persists fun _ _ => .pure persists rfl

theorem Adapter.releaseAll_keeps (isEngine : adapter.engine = engine) (codes : List Handle) :
    (adapter.releaseAll codes).Keeps related fun released => released.engine = engine := by
  induction codes generalizing adapter with
  | nil => exact .pure persists isEngine
  | cons code rest ih =>
      exact (Adapter.release_keeps persists within isEngine code).bind persists
        fun _ isEngine' => ih isEngine'

namespace Pattern

theorem compileDedicated_keeps (isEngine : adapter.engine = engine) (text : PatternText)
    (flags : Flags) (search : Handle) :
    (compileDedicated adapter text flags search).Keeps related fun compiled =>
      compiled.2.engine = engine := by
  apply ((Adapter.compile_keeps persists within isEngine _ _ _ _).onFailure persists
    (Adapter.releaseAll_keeps persists within isEngine _)).bind persists
  rintro ⟨lookingAt, adapter'⟩ isEngine'
  exact ((Adapter.compile_keeps persists within isEngine' _ _ _ _).onFailure persists
    (Adapter.releaseAll_keeps persists within isEngine' _)).bind persists
      fun _ isEngine'' => .pure persists isEngine''

theorem compileVariants_keeps (isEngine : adapter.engine = engine) (text : PatternText)
    (flags : Flags) (settings : PatternSettings) :
    (compileVariants adapter text flags settings).Keeps related fun compiled =>
      compiled.2.engine = engine := by
  apply (Adapter.compile_keeps persists within isEngine _ _ _ _).bind persists
  rintro ⟨search, adapter'⟩ isEngine'
  dsimp only
  split
  · exact compileDedicated_keeps persists within isEngine' text flags search
  · exact (Work.Keeps.record persists _ _).bind persists fun _ _ => .pure persists isEngine'

/-- A new pattern is open and a pattern of the engine it was compiled with. -/
theorem compile_keeps (isLogged : Bool) (source : Text) (flags : Number)
    (settings : PatternSettings) :
    (compile engine isLogged source flags settings).Keeps related fun pattern =>
      pattern.adapter.engine = engine ∧ pattern.isClosed = false := by
  apply (Work.Keeps.ofExcept persists _).bind persists
  intro parsed _
  apply (compileVariants_keeps persists within rfl _ _ _).bind persists
  rintro ⟨variants, adapter'⟩ isEngine
  apply (Work.Keeps.record persists _ _).bind persists
  intro _ _
  apply (Work.Keeps.ofAction (isEngine ▸ within.captureCount _)).bind persists
  intro groupCount _
  apply (Work.Keeps.ofAction (isEngine ▸ within.nameTable _)).bind persists
  intro table _
  exact .pure persists ⟨isEngine, rfl⟩

theorem close_keeps {pattern : Pattern τ} (isEngine : pattern.adapter.engine = engine) :
    pattern.close.Keeps related fun closed => closed.adapter.engine = engine := by
  rw [close]
  split
  · exact .pure persists isEngine
  · exact (Adapter.releaseAll_keeps persists within isEngine _).bind persists
      fun _ isEngine' => .pure persists isEngine'

end Pattern

end Compiling

/-! ## Splitting and testing -/

namespace Pattern

theorem collectPieces_steps (rule : SplitRule) (text : Text) (fuel splits : Nat)
    (collected : Pieces) (configuration : Configuration τ) :
    Matcher.Steps configuration
      ((collectPieces rule text fuel splits collected).exec configuration).2 := by
  induction fuel generalizing splits collected configuration with
  | zero => exact .refl
  | succ fuel ih =>
      apply Matcher.steps_bind (Matcher.find_steps configuration)
      intro isFound after _
      cases isFound with
      | false => exact .refl
      | true =>
          simp only [Bool.not_true, Bool.false_eq_true, if_false]
          split
          · exact .refl
          · apply Matcher.steps_bind .refl
            intro matcher after' _
            split
            · exact ih splits collected after'
            · exact ih _ _ after'

variable (kept : KeptByCalls related kind) {pattern : Pattern τ} (isKind : kind pattern)

include kept isKind

theorem withMatcher_keeps (text : Text) {matching : Matching τ α}
    (steps : ∀ configuration, Matcher.Steps configuration (matching.exec configuration).2) :
    (pattern.withMatcher text matching).Keeps related fun _ => True := by
  apply (Matcher.create_keeps kept isKind text {}).bind kept.toPersists
  intro matcher isKind'
  exact (Work.Keeps.on isKind' fun configuration => (steps configuration).keeps kept).lastly
    kept.toPersists ((Matcher.close_keeps kept isKind').discard kept.toPersists)

theorem occursIn_keeps (text : Text) : (pattern.occursIn text).Keeps related fun _ => True :=
  withMatcher_keeps kept isKind text Matcher.find_steps

theorem matchesWhole_keeps (text : Text) :
    (pattern.matchesWhole text).Keeps related fun _ => True :=
  withMatcher_keeps kept isKind text Matcher.matchWhole_steps

theorem split_keeps (text : Text) (rule : SplitRule) :
    (pattern.split text rule).Keeps related fun _ => True :=
  (withMatcher_keeps kept isKind text
    (collectPieces_steps rule text (matchLimit + text.length) 0 ⟨[], 0⟩)).bind kept.toPersists
      fun _ _ => .pure kept.toPersists trivial

end Pattern

/-! ## Piece by piece -/

/-- A stream that searches with a pattern of some kind, if it searches at all. -/
def PieceStream.IsOf (kind : Pattern τ → Prop) : PieceStream τ → Prop
  | .running matcher .. => kind matcher.pattern
  | _ => True

/-- Work with a stream that keeps a relation between engines and the kind of the pattern, and comes
to good values if it does not fail. -/
def Streaming.Keeps (related : τ → τ → Prop) (kind : Pattern τ → Prop)
    (streaming : Streaming τ α) (good : α → Prop) : Prop :=
  ∀ stream trace, stream.IsOf kind →
    let ran := (streaming.run stream).run trace
    ran.1.2.IsOf kind ∧ related trace.engines ran.2.engines ∧
      ∀ value, ran.1.1 = .ok value → good value

/-- Work in two parts fails with the first part, or goes on with the second. -/
theorem Streaming.run_bind (streaming : Streaming τ α) (next : α → Streaming τ β)
    (stream : PieceStream τ) (trace : Trace τ) :
    ((streaming >>= next).run stream).run trace =
      match (streaming.run stream).run trace with
      | ((.ok value, stream), trace) => ((next value).run stream).run trace
      | ((.error fault, stream), trace) => ((.error fault, stream), trace) := by
  change
    (ExceptT.bindCont next ((streaming.run stream).run trace).1.1
      ((streaming.run stream).run trace).1.2).run ((streaming.run stream).run trace).2 = _
  rcases (streaming.run stream).run trace with ⟨⟨outcome, stream'⟩, trace'⟩
  cases outcome <;> rfl

/-- A failure of the engines ends the stream. -/
theorem PieceStream.run_ofWork (work : Work τ α) (stream : PieceStream τ) (trace : Trace τ) :
    ((PieceStream.ofWork work).run stream).run trace =
      match work.run trace with
      | (.ok value, trace) => ((.ok value, stream), trace)
      | (.error fault, trace) => ((.error fault, .ended), trace) :=
  rfl

/-- Work fails with its last work, or comes to what it came to before that. -/
theorem Work.run_finally_fst (work : Work τ α) (last : Work τ Unit) (trace : Trace τ) :
    ((work.finally last).run trace).1 =
      match (last.run (work.run trace).2).1 with
      | .error fault => .error fault
      | .ok () => (work.run trace).1 := by
  rcases ran : work.run trace with ⟨outcome, after⟩
  rcases ran' : last.run after with ⟨ending, after'⟩
  have applied : work trace = (outcome, after) := ran
  have applied' : last after = (ending, after') := ran'
  simp only [Work.finally, ExceptT.run, ExceptT.mk, applied, applied']
  cases outcome <;> cases ending <;> rfl

/-- Work comes to what it came to before last work that does not fail. -/
theorem Work.run_finally_of_ok (work : Work τ α) {last : Work τ Unit} (trace : Trace τ)
    (isOk : (last.run (work.run trace).2).1 = .ok ()) :
    ((work.finally last).run trace).1 = (work.run trace).1 := by
  rw [run_finally_fst, isOk]

theorem Matcher.discard_close_run (matcher : Matcher τ) (trace : Trace τ) :
    (discard matcher.close).run trace = (.ok (), (matcher.close.run trace).2) := by
  change (matcher.close >>= fun _ => pure ()).run trace = _
  rw [Work.run_bind, (close_run ⟨matcher, trace⟩ :)]
  rfl

namespace PieceStream

/-- With nothing to hand out a stream ends, and its matcher is closed. -/
theorem handOut_nil_run (matcher : Matcher τ) (index : Int) (isSearched : Bool)
    (stream : PieceStream τ) (trace : Trace τ) :
    ((handOut matcher [] index isSearched).run stream).run trace =
      ((.ok none, ended), (matcher.close.run trace).2) := by
  change (((do ofWork (discard matcher.close); return none :
    Streaming τ (Option Text))).run ended).run trace = _
  rw [Streaming.run_bind, run_ofWork, Matcher.discard_close_run]
  rfl

end PieceStream

namespace Streaming.Keeps

variable (persists : Persists related) {streaming : Streaming τ α} {good : α → Prop}
  {good' : β → Prop}

include persists

theorem pure {value : α} (isGood : good value) :
    (pure value : Streaming τ α).Keeps related kind good :=
  fun _ _ isKind => ⟨isKind, persists.refl _, fun _ same => Except.ok.inj same ▸ isGood⟩

theorem get : (get : Streaming τ (PieceStream τ)).Keeps related kind (PieceStream.IsOf kind) :=
  fun _ _ isKind => ⟨isKind, persists.refl _, fun _ same => Except.ok.inj same ▸ isKind⟩

theorem set {stream : PieceStream τ} (isKind : stream.IsOf kind) :
    (set stream : Streaming τ PUnit).Keeps related kind fun _ => True :=
  fun _ _ _ => ⟨isKind, persists.refl _, fun _ _ => trivial⟩

theorem bind {next : α → Streaming τ β} (first : streaming.Keeps related kind good)
    (second : ∀ value, good value → (next value).Keeps related kind good') :
    (streaming >>= next).Keeps related kind good' := by
  intro stream trace isKind
  obtain ⟨isKind', keeps, isGood⟩ := first stream trace isKind
  rw [run_bind]
  rcases ran : (streaming.run stream).run trace with ⟨⟨outcome, stream'⟩, trace'⟩
  rw [ran] at isKind' keeps isGood
  cases outcome with
  | error fault => exact ⟨isKind', keeps, fun _ same => by cases same⟩
  | ok value =>
      obtain ⟨isKind'', keeps', isGood'⟩ :=
        second value (isGood value rfl) stream' trace' isKind'
      exact ⟨isKind'', persists.trans keeps keeps', isGood'⟩

omit persists

theorem ofWork {work : Work τ α} (keeps : work.Keeps related good) :
    (PieceStream.ofWork work).Keeps related kind good := by
  intro stream trace isKind
  obtain ⟨keeps', isGood⟩ := keeps trace
  rw [PieceStream.run_ofWork]
  rcases ran : work.run trace with ⟨outcome, trace'⟩
  rw [ran] at keeps' isGood
  cases outcome with
  | error fault => exact ⟨trivial, keeps', fun _ same => by cases same⟩
  | ok value => exact ⟨isKind, keeps', isGood⟩

end Streaming.Keeps

namespace PieceStream

variable (kept : KeptByCalls related kind)

theorem isOf_ended : (ended : PieceStream τ).IsOf kind :=
  trivial

include kept

theorem searchPiece_keeps {matcher : Matcher τ} (isKind : kind matcher.pattern)
    (fuel held : Nat) (index : Int) :
    (searchPiece matcher fuel held index).Keeps related fun searched =>
      kind searched.2.1.pattern := by
  induction fuel generalizing matcher held index with
  | zero => exact .pure kept.toPersists isKind
  | succ fuel ih =>
      have searches : (Matching.on (do let isFound ← Matcher.find; return (isFound, ← get))
          matcher).Keeps related fun found => kind found.2.pattern := by
        intro trace
        have keeps := (Matcher.find_steps ⟨matcher, trace⟩).keeps kept isKind
        rw [Matching.run_on, Matching.exec_bind]
        rcases ran : Matcher.find.exec ⟨matcher, trace⟩ with ⟨outcome, after⟩
        rw [ran] at keeps
        cases outcome with
        | error fault => exact ⟨keeps.2, fun _ same => by cases same⟩
        | ok isFound => exact ⟨keeps.2, fun _ same => by cases same; exact keeps.1⟩
      apply searches.bind kept.toPersists
      rintro ⟨isFound, found⟩ isKind'
      cases isFound with
      | false => exact .pure kept.toPersists isKind'
      | true =>
          dsimp only
          rw [if_pos rfl]
          split
          · exact ih isKind' _ _
          · exact .pure kept.toPersists isKind'

theorem handOut_keeps {matcher : Matcher τ} (isKind : kind matcher.pattern)
    (ready : List Text) (index : Int) (isSearched : Bool) :
    (handOut matcher ready index isSearched).Keeps related kind fun _ => True := by
  cases ready with
  | cons piece ready =>
      have stays : (running matcher ready index isSearched).IsOf kind := isKind
      exact (Streaming.Keeps.set kept.toPersists stays).bind kept.toPersists
        fun _ _ => .pure kept.toPersists trivial
  | nil =>
      apply (Streaming.Keeps.set kept.toPersists isOf_ended).bind kept.toPersists
      intro _ _
      exact (Streaming.Keeps.ofWork
        ((Matcher.close_keeps kept isKind).discard kept.toPersists)).bind kept.toPersists
          fun _ _ => .pure kept.toPersists trivial

theorem advance_keeps {matcher : Matcher τ} (isKind : kind matcher.pattern) (index : Int) :
    (advance matcher index).Keeps related kind fun _ => True := by
  have searches := (searchPiece_keeps kept isKind (matchLimit + matcher.text.length) 0
    index).onFailure kept.toPersists (Matcher.close_keeps kept isKind)
  apply (Streaming.Keeps.ofWork searches).bind kept.toPersists
  rintro ⟨ready, matcher', index', isSearched⟩ isKind'
  exact handOut_keeps kept isKind' ready index' isSearched

theorem next_keeps {pattern : Pattern τ} (isKind : kind pattern) :
    (next pattern).Keeps related kind fun _ => True := by
  apply (Streaming.Keeps.get kept.toPersists).bind kept.toPersists
  intro stream isKind'
  cases stream with
  | ended => exact .pure kept.toPersists trivial
  | running matcher ready index isSearched =>
      dsimp only
      split
      · exact advance_keeps kept isKind' index
      · exact handOut_keeps kept isKind' ready index isSearched
  | notStarted text =>
      dsimp only
      split
      · exact (Streaming.Keeps.set kept.toPersists isOf_ended).bind kept.toPersists
          fun _ _ => .pure kept.toPersists trivial
      · apply (Streaming.Keeps.ofWork (Matcher.create_keeps kept isKind text {})).bind
          kept.toPersists
        intro matcher isKind''
        exact advance_keeps kept isKind'' 0

theorem close_keeps : (close : Streaming τ Unit).Keeps related kind fun _ => True := by
  apply (Streaming.Keeps.get kept.toPersists).bind kept.toPersists
  intro stream isKind
  apply (Streaming.Keeps.set kept.toPersists isOf_ended).bind kept.toPersists
  intro _ _
  cases stream with
  | running matcher ready index isSearched =>
      exact .ofWork ((Matcher.close_keeps kept isKind).discard kept.toPersists)
  | ended => exact .pure kept.toPersists trivial
  | notStarted text => exact .pure kept.toPersists trivial

theorem rest_keeps {pattern : Pattern τ} (isKind : kind pattern) (count : Nat) :
    (rest pattern count).Keeps related kind fun _ => True := by
  induction count with
  | zero => exact .pure kept.toPersists trivial
  | succ count ih =>
      apply (next_keeps kept isKind).bind kept.toPersists
      intro piece? _
      cases piece? with
      | none => exact .pure kept.toPersists trivial
      | some piece => exact ih.bind kept.toPersists fun _ _ => .pure kept.toPersists trivial

end PieceStream

theorem Pattern.pieces_keeps (kept : KeptByCalls related kind) {pattern : Pattern τ}
    (isKind : kind pattern) (text : Text) :
    (pattern.pieces text).Keeps related fun _ => True := by
  intro trace
  obtain ⟨-, keeps, -⟩ :=
    PieceStream.rest_keeps kept isKind (matchLimit + text.length) (.notStarted text) trace
      trivial
  exact ⟨keeps, fun _ _ => trivial⟩

end RegexMatching
