import RegexMatching.Proofs.KeptRelations

/-!
# Patterns and matchers that are twins

Twins are made for two engines and differ in nothing but the engine and the handles of the code,
which stands for the same on both sides.  As long as the engines answer alike, everything that is
done with two twins comes to the same and leaves twins behind: searches, replacements, splits and
streams of pieces.
-/

namespace RegexMatching

variable {σ α α' β β' : Type}

/-! ## Twins -/

/-- Two engines without stacks that answer alike about code whose handles belong together, as long
as their states are linked. -/
structure EnginePair (σ : Type) where
  engine : Engine σ
  other : Engine σ
  /-- A handle of the one engine and a handle of the other, which belong together. -/
  handles : Handle → Handle → Prop
  /-- A state of the one engine and a state of the other, in which they do. -/
  linked : σ → σ → Prop
  name : engine.name = other.name
  capabilities : engine.capabilities = other.capabilities
  errorMessage : engine.errorMessage = other.errorMessage
  createStack : engine.createStack = none
  createStack' : other.createStack = none
  releaseStack : engine.releaseStack = none
  releaseStack' : other.releaseStack = none
  exchange : ∀ {state state' : σ}, linked state state' →
    ∀ {request : Request} {code : Handle}, handles request.code code →
      ((engine.exchange request).run state).1 =
          ((other.exchange { request with code }).run state').1 ∧
        linked ((engine.exchange request).run state).2
          ((other.exchange { request with code }).run state').2

variable (pair : EnginePair σ)

/-- Patterns that differ in their engines and in the handles of their code only. -/
structure Pattern.Twins (pattern twin : Pattern σ) : Prop where
  engine : pattern.adapter.engine = pair.engine
  engine' : twin.adapter.engine = pair.other
  same : twin = { pattern with adapter := twin.adapter, variants := twin.variants }
  options : ∀ anchoring,
    (pattern.variants.variant anchoring).options = (twin.variants.variant anchoring).options
  handles : ∀ anchoring, pair.handles (pattern.variants.variant anchoring).handle
    (twin.variants.variant anchoring).handle

/-- Matchers that differ in their patterns only, which are twins. -/
structure Matcher.Twins (matcher twin : Matcher σ) : Prop where
  same : twin = { matcher with pattern := twin.pattern }
  pattern : matcher.pattern.Twins pair twin.pattern

/-- Streams that have come to the same, with matchers that are twins. -/
inductive PieceStream.Twins : PieceStream σ → PieceStream σ → Prop
  | notStarted (text : Text) : Twins (.notStarted text) (.notStarted text)
  | running {matcher twin : Matcher σ} (twins : matcher.Twins pair twin) (ready : List Text)
      (index : Int) (isSearched : Bool) :
      Twins (.running matcher ready index isSearched) (.running twin ready index isSearched)
  | ended : Twins .ended .ended

/-- Work that ended with the same fault, or with values that are alike. -/
inductive EndedAlike (alike : α → β → Prop) : Except Fault α → Except Fault β → Prop
  | ok {value : α} {value' : β} (isAlike : alike value value') :
      EndedAlike alike (.ok value) (.ok value')
  | error (fault : Fault) : EndedAlike alike (.error fault) (.error fault)

theorem EndedAlike.eq {outcome outcome' : Except Fault α} (same : EndedAlike Eq outcome outcome') :
    outcome = outcome' := by
  cases same with
  | ok isAlike => rw [isAlike]
  | error fault => rfl

theorem EndedAlike.refl (outcome : Except Fault α) : EndedAlike Eq outcome outcome := by
  cases outcome with
  | ok value => exact .ok rfl
  | error fault => exact .error fault

/-! ## Work in parallel -/

/-- Work that ends alike in linked states, and leaves linked states. -/
def Work.Agrees (work : Work σ α) (work' : Work σ β) (alike : α → β → Prop) : Prop :=
  ∀ trace trace', pair.linked trace.engines trace'.engines →
    EndedAlike alike (work.run trace).1 (work'.run trace').1 ∧
      pair.linked (work.run trace).2.engines (work'.run trace').2.engines

/-- Work that ends alike on twins in linked states, and leaves twins in linked states. -/
def Matching.Agrees (matching : Matching σ α) (matching' : Matching σ β) (alike : α → β → Prop) :
    Prop :=
  ∀ configuration configuration' : Configuration σ,
    configuration.matcher.Twins pair configuration'.matcher →
    pair.linked configuration.trace.engines configuration'.trace.engines →
    EndedAlike alike (matching.exec configuration).1 (matching'.exec configuration').1 ∧
      (matching.exec configuration).2.matcher.Twins pair
        (matching'.exec configuration').2.matcher ∧
      pair.linked (matching.exec configuration).2.trace.engines
        (matching'.exec configuration').2.trace.engines

/-- Work that ends alike on streams that are twins, and leaves twins. -/
def Streaming.Agrees (streaming : Streaming σ α) (streaming' : Streaming σ β)
    (alike : α → β → Prop) : Prop :=
  ∀ (stream twin : PieceStream σ) (trace trace' : Trace σ), stream.Twins pair twin →
    pair.linked trace.engines trace'.engines →
    let ran := (streaming.run stream).run trace
    let ran' := (streaming'.run twin).run trace'
    EndedAlike alike ran.1.1 ran'.1.1 ∧ ran.1.2.Twins pair ran'.1.2 ∧
      pair.linked ran.2.engines ran'.2.engines

variable {pair}

namespace Work.Agrees

variable {alike : α → α' → Prop} {alike' : β → β' → Prop} {work : Work σ α} {work' : Work σ α'}

theorem pure {value : α} {value' : α'} (isAlike : alike value value') :
    Work.Agrees pair (pure value : Work σ α) (pure value') alike :=
  fun _ _ linked => ⟨.ok isAlike, linked⟩

theorem ofExcept {outcome : Except Fault α} {outcome' : Except Fault α'}
    (endAlike : EndedAlike alike outcome outcome') :
    Work.Agrees pair (Work.ofExcept outcome : Work σ α) (Work.ofExcept outcome') alike :=
  fun _ _ linked => ⟨endAlike, linked⟩

theorem bind {next : α → Work σ β} {next' : α' → Work σ β'}
    (first : Work.Agrees pair work work' alike)
    (second : ∀ value value', alike value value' →
      Work.Agrees pair (next value) (next' value') alike') :
    Work.Agrees pair (work >>= next) (work' >>= next') alike' := by
  intro trace trace' linked
  obtain ⟨endAlike, linked'⟩ := first trace trace' linked
  rw [run_bind, run_bind]
  generalize work.run trace = ran, work'.run trace' = ran' at endAlike linked' ⊢
  rcases ran with ⟨outcome, after⟩
  rcases ran' with ⟨outcome', after'⟩
  cases endAlike with
  | error fault => exact ⟨.error fault, linked'⟩
  | ok isAlike => exact second _ _ isAlike after after' linked'

theorem discard (agrees : Work.Agrees pair work work' alike) :
    Work.Agrees pair (discard work) (discard work') Eq :=
  agrees.bind fun _ _ _ => .pure rfl

/-- Last work that agrees follows work that agrees. -/
theorem lastly {last last' : Work σ Unit} (first : Work.Agrees pair work work' alike)
    (ends : Work.Agrees pair last last' Eq) :
    Work.Agrees pair (work.finally last) (work'.finally last') alike := by
  intro trace trace' linked
  obtain ⟨endAlike, linked'⟩ := first trace trace' linked
  obtain ⟨endAlike', linked''⟩ := ends _ _ linked'
  rw [run_finally, run_finally, run_finally_fst, run_finally_fst]
  refine ⟨?_, linked''⟩
  generalize (last.run (work.run trace).2).1 = ending, (last'.run (work'.run trace').2).1 =
    ending' at endAlike'
  cases endAlike' with
  | error fault => exact .error fault
  | ok _ => exact endAlike

theorem onFailure {cleanup : Work σ β} {cleanup' : Work σ β'}
    (first : Work.Agrees pair work work' alike)
    (cleans : Work.Agrees pair cleanup cleanup' alike') :
    Work.Agrees pair (work.onFailure cleanup) (work'.onFailure cleanup') alike := by
  intro trace trace' linked
  obtain ⟨endAlike, linked'⟩ := first trace trace' linked
  rw [run_onFailure, run_onFailure]
  generalize work.run trace = ran, work'.run trace' = ran' at endAlike linked' ⊢
  rcases ran with ⟨outcome, after⟩
  rcases ran' with ⟨outcome', after'⟩
  cases endAlike with
  | error fault => exact ⟨.error fault, (cleans after after' linked').2⟩
  | ok isAlike => exact ⟨.ok isAlike, linked'⟩

end Work.Agrees

namespace Matching.Agrees

variable {alike : α → α' → Prop} {alike' : β → β' → Prop} {matching : Matching σ α}
  {matching' : Matching σ α'}

theorem pure {value : α} {value' : α'} (isAlike : alike value value') :
    Matching.Agrees pair (pure value : Matching σ α) (pure value') alike :=
  fun _ _ twins linked => ⟨.ok isAlike, twins, linked⟩

theorem throw (fault : Fault) :
    Matching.Agrees pair (throw fault : Matching σ α) (throw fault : Matching σ α') alike :=
  fun _ _ twins linked => ⟨.error fault, twins, linked⟩

theorem get : Matching.Agrees pair (get : Matching σ (Matcher σ)) get (Matcher.Twins pair) :=
  fun _ _ twins linked => ⟨.ok twins, twins, linked⟩

theorem set {matcher twin : Matcher σ} (twins : matcher.Twins pair twin) :
    Matching.Agrees pair (set matcher : Matching σ PUnit) (set twin) Eq :=
  fun _ _ _ linked => ⟨.ok rfl, twins, linked⟩

theorem modify {change : Matcher σ → Matcher σ}
    (keeps : ∀ {matcher twin : Matcher σ}, matcher.Twins pair twin →
      (change matcher).Twins pair (change twin)) :
    Matching.Agrees pair (modify change : Matching σ PUnit) (modify change) Eq :=
  fun _ _ twins linked => ⟨.ok rfl, keeps twins, linked⟩

theorem ofWork {work : Work σ α} {work' : Work σ α'} (agrees : Work.Agrees pair work work' alike) :
    Matching.Agrees pair (Matching.ofWork work) (Matching.ofWork work') alike :=
  fun configuration configuration' twins linked =>
    ⟨(agrees configuration.trace configuration'.trace linked).1, twins,
      (agrees configuration.trace configuration'.trace linked).2⟩

theorem bind {next : α → Matching σ β} {next' : α' → Matching σ β'}
    (first : Matching.Agrees pair matching matching' alike)
    (second : ∀ value value', alike value value' →
      Matching.Agrees pair (next value) (next' value') alike') :
    Matching.Agrees pair (matching >>= next) (matching' >>= next') alike' := by
  intro configuration configuration' twins linked
  obtain ⟨endAlike, twins', linked'⟩ := first configuration configuration' twins linked
  rw [exec_bind, exec_bind]
  generalize matching.exec configuration = ran, matching'.exec configuration' =
    ran' at endAlike twins' linked' ⊢
  rcases ran with ⟨outcome, after⟩
  rcases ran' with ⟨outcome', after'⟩
  cases endAlike with
  | error fault => exact ⟨.error fault, twins', linked'⟩
  | ok isAlike => exact second _ _ isAlike after after' twins' linked'

/-- Work that goes on with the same value on both sides. -/
theorem goOn {matching matching' : Matching σ α} {next : α → Matching σ β}
    {next' : α → Matching σ β'} (first : Matching.Agrees pair matching matching' Eq)
    (second : ∀ value, Matching.Agrees pair (next value) (next' value) alike') :
    Matching.Agrees pair (matching >>= next) (matching' >>= next') alike' :=
  first.bind fun value _ same => same ▸ second value

theorem on {matcher twin : Matcher σ} (agrees : Matching.Agrees pair matching matching' alike)
    (twins : matcher.Twins pair twin) :
    Work.Agrees pair (matching.on matcher) (matching'.on twin) alike := by
  intro trace trace' linked
  rw [run_on, run_on]
  obtain ⟨endAlike, -, linked'⟩ := agrees ⟨matcher, trace⟩ ⟨twin, trace'⟩ twins linked
  exact ⟨endAlike, linked'⟩

end Matching.Agrees

namespace Streaming.Agrees

variable {alike : α → α' → Prop} {alike' : β → β' → Prop} {streaming : Streaming σ α}
  {streaming' : Streaming σ α'}

theorem pure {value : α} {value' : α'} (isAlike : alike value value') :
    Streaming.Agrees pair (pure value : Streaming σ α) (pure value') alike :=
  fun _ _ _ _ twins linked => ⟨.ok isAlike, twins, linked⟩

theorem get :
    Streaming.Agrees pair (get : Streaming σ (PieceStream σ)) get (PieceStream.Twins pair) :=
  fun _ _ _ _ twins linked => ⟨.ok twins, twins, linked⟩

theorem set {stream twin : PieceStream σ} (twins : stream.Twins pair twin) :
    Streaming.Agrees pair (set stream : Streaming σ PUnit) (set twin) Eq :=
  fun _ _ _ _ _ linked => ⟨.ok rfl, twins, linked⟩

theorem bind {next : α → Streaming σ β} {next' : α' → Streaming σ β'}
    (first : Streaming.Agrees pair streaming streaming' alike)
    (second : ∀ value value', alike value value' →
      Streaming.Agrees pair (next value) (next' value') alike') :
    Streaming.Agrees pair (streaming >>= next) (streaming' >>= next') alike' := by
  intro stream twin trace trace' twins linked
  obtain ⟨endAlike, twins', linked'⟩ := first stream twin trace trace' twins linked
  rw [run_bind, run_bind]
  generalize (streaming.run stream).run trace = ran, (streaming'.run twin).run trace' =
    ran' at endAlike twins' linked' ⊢
  rcases ran with ⟨⟨outcome, stream'⟩, after⟩
  rcases ran' with ⟨⟨outcome', twin'⟩, after'⟩
  cases endAlike with
  | error fault => exact ⟨.error fault, twins', linked'⟩
  | ok isAlike => exact second _ _ isAlike stream' twin' after after' twins' linked'

theorem ofWork {work : Work σ α} {work' : Work σ α'} (agrees : Work.Agrees pair work work' alike) :
    Streaming.Agrees pair (PieceStream.ofWork work) (PieceStream.ofWork work') alike := by
  intro stream twin trace trace' twins linked
  obtain ⟨endAlike, linked'⟩ := agrees trace trace' linked
  rw [PieceStream.run_ofWork, PieceStream.run_ofWork]
  generalize work.run trace = ran, work'.run trace' = ran' at endAlike linked' ⊢
  rcases ran with ⟨outcome, after⟩
  rcases ran' with ⟨outcome', after'⟩
  cases endAlike with
  | error fault => exact ⟨.error fault, .ended, linked'⟩
  | ok isAlike => exact ⟨.ok isAlike, twins, linked'⟩

end Streaming.Agrees

/-! ## What twins have in common -/

/-- A matcher with other code in its pattern. -/
def Matcher.withCode (matcher : Matcher σ) (adapter : Adapter σ) (variants : CodeVariants) :
    Matcher σ :=
  { matcher with pattern := { matcher.pattern with adapter, variants } }

namespace Matcher.Twins

variable {matcher twin : Matcher σ}

/-- A twin is the matcher with other code. -/
theorem eq_withCode (twins : matcher.Twins pair twin) :
    twin = matcher.withCode twin.pattern.adapter twin.pattern.variants :=
  twins.same.trans (congrArg (fun pattern => { matcher with pattern }) twins.pattern.same)

/-- What is read of a matcher without its code is the same for twins. -/
theorem read_eq (twins : matcher.Twins pair twin) {read : Matcher σ → α}
    (isApart : ∀ (matcher : Matcher σ) (adapter : Adapter σ) (variants : CodeVariants),
      read (matcher.withCode adapter variants) = read matcher) : read matcher = read twin := by
  rw [twins.eq_withCode]
  exact (isApart matcher _ _).symm

/-- Twins stay twins under a change that the code has no part in. -/
theorem change (twins : matcher.Twins pair twin) (change : Matcher σ → Matcher σ)
    (isApart : ∀ (matcher : Matcher σ) (adapter : Adapter σ) (variants : CodeVariants),
      change (matcher.withCode adapter variants) = (change matcher).withCode adapter variants)
    (keepsPattern : ∀ matcher : Matcher σ, (change matcher).pattern = matcher.pattern) :
    (change matcher).Twins pair (change twin) where
  same := by
    have changed := (congrArg change twins.eq_withCode).trans (isApart matcher _ _)
    rw [withCode, keepsPattern matcher, ← twins.pattern.same] at changed
    rw [keepsPattern twin]
    exact changed
  pattern := by
    rw [keepsPattern, keepsPattern]
    exact twins.pattern

theorem snapshot_eq (twins : matcher.Twins pair twin) : matcher.snapshot = twin.snapshot :=
  twins.read_eq fun _ _ _ => rfl

theorem toText_eq (twins : matcher.Twins pair twin) : matcher.toText = twin.toText :=
  twins.read_eq fun _ _ _ => rfl

theorem source_eq (twins : matcher.Twins pair twin) :
    matcher.pattern.source = twin.pattern.source := by
  rw [twins.pattern.same]

theorem settle (twins : matcher.Twins pair twin) (anchoring : Anchoring) (state : MatchState) :
    (matcher.settle anchoring state).Twins pair (twin.settle anchoring state) :=
  twins.change (·.settle anchoring state) (fun _ _ _ => by cases state <;> rfl)
    fun _ => by cases state <;> rfl

theorem see (twins : matcher.Twins pair twin) (view : RegionView) :
    Matcher.Twins pair { matcher with view := some view } { twin with view := some view } :=
  twins.change ({ · with view := some view }) (fun _ _ _ => rfl) fun _ => rfl

theorem clearMatch (twins : matcher.Twins pair twin) :
    matcher.clearMatch.Twins pair twin.clearMatch :=
  twins.change Matcher.clearMatch (fun _ _ _ => rfl) fun _ => rfl

theorem reset (twins : matcher.Twins pair twin) : matcher.reset.Twins pair twin.reset :=
  twins.change Matcher.reset (fun _ _ _ => rfl) fun _ => rfl

end Matcher.Twins

/-! ## Match calls -/

namespace Matcher

variable {matcher twin : Matcher σ}

/-- Twins ask their engines for the same, each with its own handle. -/
theorem Twins.request?_eq (twins : matcher.Twins pair twin) (view : RegionView) (start : Nat)
    (anchoring : Anchoring) :
    twin.request? view start anchoring =
      (matcher.request? view start anchoring).map fun request? => request?.map fun request =>
        { request with code := (twin.pattern.variants.variant anchoring).handle } := by
  have sameOptions : twin.matchOptions (twin.pattern.variants.variant anchoring) =
      matcher.matchOptions (matcher.pattern.variants.variant anchoring) := by
    rw [twins.same, matchOptions, matchOptions, twins.pattern.options anchoring]
  have sameSearched : twin.searched = matcher.searched := by
    rw [twins.same]
  have sameStack : twin.stack = matcher.stack := by
    rw [twins.same]
  rw [request?, request?, sameOptions, sameSearched, sameStack, twins.pattern.engine,
    twins.pattern.engine', pair.name, pair.capabilities]
  dsimp only
  split
  · rfl
  cases matcher.searched.coordinates.ceilByteAt (matcher.searched.ofSubject start) with
  | error fault => rfl
  | ok byte =>
      dsimp only [Except.map]
      split <;> rfl

/-- Attempts of twins come to the same. -/
theorem Twins.attempt_agrees (twins : matcher.Twins pair twin) (view : RegionView) (start : Nat)
    (anchoring : Anchoring) :
    Work.Agrees pair (matcher.attempt view start anchoring) (twin.attempt view start anchoring)
      Eq := by
  intro trace trace' linked
  rw [attempt_run, attempt_run, twins.request?_eq]
  cases asked : matcher.request? view start anchoring with
  | error fault => exact ⟨.error fault, linked⟩
  | ok request? =>
      cases request? with
      | none => exact ⟨.ok rfl, linked⟩
      | some request =>
          have sameState : ∀ outcome, twin.stateOf view.byteStart outcome =
              matcher.stateOf view.byteStart outcome := by
            rw [twins.same]
            intro outcome
            cases outcome <;> rfl
          have belong : pair.handles request.code
              (twin.pattern.variants.variant anchoring).handle :=
            (handles_of_request? asked).1 ▸ twins.pattern.handles anchoring
          obtain ⟨sameReport, linked'⟩ := pair.exchange linked belong
          dsimp only [Except.map, Option.map]
          rw [twins.pattern.engine, twins.pattern.engine', ← sameReport]
          refine ⟨?_, linked'⟩
          have sameOutcome : twin.pattern.adapter.outcomeOf
              ((pair.engine.exchange request).run trace.engines).1 =
                matcher.pattern.adapter.outcomeOf
                  ((pair.engine.exchange request).run trace.engines).1 := by
            rw [Adapter.outcomeOf.eq_def, Adapter.outcomeOf.eq_def]
            simp only [Adapter.failure, twins.pattern.engine, twins.pattern.engine',
              pair.errorMessage]
          rw [sameOutcome, funext sameState]
          exact .refl _

/-! ## Searches -/

theorem search_agrees (start : Nat) (anchoring : Anchoring) :
    Matching.Agrees pair (search start anchoring) (search start anchoring) Eq := by
  refine Matching.Agrees.get.bind fun matcher twin twins => ?_
  have sameView : matcher.regionView = twin.regionView := twins.read_eq fun _ _ _ => rfl
  rw [← sameView]
  refine (Matching.Agrees.ofWork (.ofExcept (.refl _))).goOn fun view => ?_
  refine (Matching.Agrees.modify fun twins => twins.see view).goOn fun _ => ?_
  refine Matching.Agrees.get.bind fun matcher twin twins => ?_
  refine (Matching.Agrees.ofWork (twins.attempt_agrees view start anchoring)).goOn fun state => ?_
  have settled : (matcher.settle anchoring state).Twins pair (twin.settle anchoring state) :=
    twins.settle anchoring state
  refine (Matching.Agrees.set settled).goOn fun _ => .pure ?_
  rw [hasMatch, hasMatch, settled.snapshot_eq]

theorem find_agrees : Matching.Agrees pair (find : Matching σ Bool) find Eq := by
  refine Matching.Agrees.get.bind fun matcher twin twins => ?_
  have sameEnd : matcher.isExhausted = twin.isExhausted := twins.read_eq fun _ _ _ => rfl
  have sameNext : matcher.nextStart? = twin.nextStart? := twins.read_eq fun _ _ _ => rfl
  rw [← sameEnd, ← sameNext]
  split
  · exact .pure rfl
  · cases matcher.nextStart? with
    | some start => exact search_agrees start .search
    | none => exact (Matching.Agrees.set (twins.settle _ _)).goOn fun _ => .pure rfl

theorem findFrom_agrees (start : Number) :
    Matching.Agrees pair (findFrom start : Matching σ Bool) (findFrom start) Eq := by
  refine Matching.Agrees.get.bind fun matcher twin twins => ?_
  have sameText : matcher.text = twin.text := twins.read_eq fun _ _ _ => rfl
  rw [← sameText]
  cases start.toIndex? matcher.text.length with
  | none => exact .throw _
  | some index =>
      exact (Matching.Agrees.set twins.reset).goOn fun _ => search_agrees index .search

theorem lookingAt_agrees : Matching.Agrees pair (lookingAt : Matching σ Bool) lookingAt Eq := by
  refine Matching.Agrees.get.bind fun matcher twin twins => ?_
  have sameStart : matcher.regionStart = twin.regionStart := twins.read_eq fun _ _ _ => rfl
  exact sameStart ▸ search_agrees matcher.regionStart .lookingAt

theorem matchWhole_agrees : Matching.Agrees pair (matchWhole : Matching σ Bool) matchWhole Eq := by
  refine Matching.Agrees.get.bind fun matcher twin twins => ?_
  have sameStart : matcher.regionStart = twin.regionStart := twins.read_eq fun _ _ _ => rfl
  exact sameStart ▸ search_agrees matcher.regionStart .whole

theorem next_agrees (iteration : Iteration) :
    Matching.Agrees pair (iteration.next : Matching σ (Option Snapshot)) iteration.next Eq := by
  have searching : Matching.Agrees pair
      (do
        if ← find then
          return some (← get).snapshot
        else
          return none : Matching σ (Option Snapshot))
      (do
        if ← find then
          return some (← get).snapshot
        else
          return none) Eq := by
    refine find_agrees.goOn fun isFound => ?_
    cases isFound with
    | false => exact .pure rfl
    | true =>
        exact Matching.Agrees.get.bind fun _ _ twins => .pure (congrArg some twins.snapshot_eq)
  cases iteration with
  | ended => exact .pure rfl
  | running => exact searching
  | notStarted =>
      exact (Matching.Agrees.modify fun twins => twins.clearMatch).goOn fun _ => searching

theorem findAll_agrees (count : Nat) :
    Matching.Agrees pair (findAll count : Matching σ (List Snapshot)) (findAll count) Eq := by
  induction count with
  | zero => exact .pure rfl
  | succ count ih =>
      refine find_agrees.goOn fun isFound => ?_
      cases isFound with
      | false => exact .pure rfl
      | true =>
          refine Matching.Agrees.get.bind fun matcher twin twins => ?_
          dsimp only
          rw [twins.snapshot_eq]
          exact ih.goOn fun _ => .pure rfl

theorem results_agrees (iteration : Iteration) (count : Nat) :
    Matching.Agrees pair (results iteration count : Matching σ (List Snapshot))
      (results iteration count) Eq := by
  induction count generalizing iteration with
  | zero => exact .pure rfl
  | succ count ih =>
      refine (next_agrees iteration).goOn fun snapshot? => ?_
      cases snapshot? with
      | none => exact .pure rfl
      | some snapshot => exact (ih _).goOn fun _ => .pure rfl

/-! ## Replacing -/

theorem appendReplacement_withCode (matcher : Matcher σ) (adapter : Adapter σ)
    (variants : CodeVariants) (template : Text) :
    (matcher.withCode adapter variants).appendReplacement template =
      ((matcher.appendReplacement template).1,
        (matcher.appendReplacement template).2.withCode adapter variants) := by
  have sameState : (matcher.withCode adapter variants).state = matcher.state := rfl
  rw [appendReplacement, appendReplacement, sameState]
  cases matcher.state with
  | found spans mark =>
      dsimp only
      by_cases faulty : ((Template.expand matcher.snapshot.captures template).after
          (matcher.text.slice matcher.appendCursor
            (spans.head?.getD .unset).start)).fault.isSome = true
      · rw [if_pos faulty]
        exact if_pos faulty
      · rw [if_neg faulty]
        exact if_neg faulty
  | fresh => rfl
  | noMatch isPartial => rfl

/-- Twins append the same, and stay twins. -/
theorem Twins.appendReplacement (twins : matcher.Twins pair twin) (template : Text) :
    (matcher.appendReplacement template).1 = (twin.appendReplacement template).1 ∧
      (matcher.appendReplacement template).2.Twins pair (twin.appendReplacement template).2 := by
  constructor
  · rw [twins.eq_withCode, appendReplacement_withCode]
  · refine twins.change (fun matcher => (matcher.appendReplacement template).2)
      (fun matcher adapter variants => ?_) fun matcher => ?_
    · rw [appendReplacement_withCode]
    · obtain ⟨cursor, appended⟩ := exists_appendReplacement_eq matcher template
      rw [appended]

theorem Twins.tail_eq (twins : matcher.Twins pair twin) : matcher.tail = twin.tail :=
  twins.read_eq fun _ _ _ => rfl

theorem appendNext_agrees (replacement : Replacement) (number : Nat) (written : Text) :
    Matching.Agrees pair (appendNext replacement number written : Matching σ Text)
      (appendNext replacement number written) Eq := by
  refine Matching.Agrees.get.bind fun matcher twin twins => ?_
  rw [twins.snapshot_eq]
  refine (Matching.Agrees.ofWork (.ofExcept (.refl _))).goOn fun template => ?_
  obtain ⟨sameExpansion, twins'⟩ := twins.appendReplacement template
  dsimp only
  rw [sameExpansion]
  refine (Matching.Agrees.set twins').goOn fun _ => ?_
  cases (twin.appendReplacement template).1.fault with
  | some fault => exact .throw fault
  | none => exact .pure rfl

theorem replaceFrom_agrees (replacement : Replacement) (all : Bool) (fuel number : Nat)
    (written : Text) :
    Matching.Agrees pair (replaceFrom replacement all fuel number written : Matching σ Text)
      (replaceFrom replacement all fuel number written) Eq := by
  have ending : ∀ written : Text, Matching.Agrees pair
      (do return written ++ (← get).tail : Matching σ Text)
      (do return written ++ (← get).tail) Eq := fun written =>
    Matching.Agrees.get.bind fun _ _ twins => .pure (congrArg (written ++ ·) twins.tail_eq)
  induction fuel generalizing number written with
  | zero => exact ending written
  | succ fuel ih =>
      refine (appendNext_agrees replacement number written).goOn fun written => ?_
      cases all with
      | false => exact ending written
      | true =>
          refine find_agrees.goOn fun isMore => ?_
          cases isMore with
          | false => exact ending written
          | true => exact ih (number + 1) written

theorem replace_agrees (replacement : Replacement) (all : Bool) :
    Matching.Agrees pair (replace replacement all : Matching σ Text) (replace replacement all)
      Eq := by
  refine (Matching.Agrees.modify fun twins => twins.reset).goOn fun _ => ?_
  refine find_agrees.goOn fun isFound => ?_
  cases isFound with
  | false =>
      exact Matching.Agrees.get.bind fun _ _ twins => .pure (twins.read_eq fun _ _ _ => rfl)
  | true =>
      refine Matching.Agrees.get.bind fun matcher twin twins => ?_
      have sameText : matcher.text = twin.text := twins.read_eq fun _ _ _ => rfl
      rw [sameText]
      exact replaceFrom_agrees replacement all _ 0 []

/-! ## Configuring -/

theorem Twins.region_alike (twins : matcher.Twins pair twin) (start stop : Number) :
    EndedAlike (Matcher.Twins pair) (matcher.region start stop) (twin.region start stop) := by
  have sameText : matcher.text = twin.text := twins.read_eq fun _ _ _ => rfl
  rw [region, region, ← sameText]
  cases start.toIndex? matcher.text.length with
  | none => exact .error _
  | some first =>
      cases stop.toIndex? matcher.text.length with
      | none => exact .error _
      | some last =>
          dsimp only
          split
          · exact .error _
          · exact .ok (twins.change
              (fun matcher => { matcher.reset with regionStart := first, regionEnd := last })
              (fun _ _ _ => rfl) fun _ => rfl)

theorem Twins.usePartialMatching_alike (twins : matcher.Twins pair twin) (value : Bool) :
    EndedAlike (Matcher.Twins pair) (matcher.usePartialMatching value)
      (twin.usePartialMatching value) := by
  rw [usePartialMatching, usePartialMatching, canMatchPartially, canMatchPartially,
    twins.pattern.engine, twins.pattern.engine', pair.capabilities, pair.name]
  split
  · exact .error _
  · exact .ok (twins.change ({ · with partialMatching := value }) (fun _ _ _ => rfl) fun _ => rfl)

/-- A change that comes to twins for twins. -/
theorem change_agrees {work work' : Matcher σ → Work σ (Matcher σ)}
    (agrees : ∀ matcher twin : Matcher σ, matcher.Twins pair twin →
      Work.Agrees pair (work matcher) (work' twin) (Matcher.Twins pair)) :
    Matching.Agrees pair (change work) (change work') Eq :=
  Matching.Agrees.get.bind fun matcher twin twins =>
    (Matching.Agrees.ofWork (agrees matcher twin twins)).bind fun _ _ twins' => .set twins'

theorem close_agrees (twins : matcher.Twins pair twin) :
    Work.Agrees pair matcher.close twin.close (Matcher.Twins pair) := by
  intro trace trace' linked
  rw [(close_run ⟨matcher, trace⟩ :), (close_run ⟨twin, trace'⟩ :)]
  refine ⟨.ok (twins.change ({ · with stack := 0 }) (fun _ _ _ => rfl) fun _ => rfl), ?_⟩
  simp only [Configuration.closed, Engine.dropStack, twins.pattern.engine, twins.pattern.engine',
    pair.releaseStack, pair.releaseStack']
  exact linked

/-- Matchers of twins are twins. -/
theorem create_agrees {pattern twin : Pattern σ} (twins : pattern.Twins pair twin) (text : Text)
    (settings : MatcherSettings) :
    Work.Agrees pair (create pattern text settings) (create twin text settings)
      (Matcher.Twins pair) := by
  intro trace trace' linked
  have sameClosed : pattern.isClosed = twin.isClosed := by
    rw [twins.same]
  rw [create_run, create_run, ← sameClosed]
  split
  · exact ⟨.error _, linked⟩
  · simp only [Engine.makeStack, twins.engine, twins.engine', pair.createStack,
      pair.createStack']
    have created : (initial pattern text settings.anchoringBounds 0).Twins pair
        (initial twin text settings.anchoringBounds 0) := by
      refine ⟨?_, twins⟩
      rw [initial, initial, twins.same]
    exact ⟨created.usePartialMatching_alike settings.partialMatching, linked⟩

/-- Twins that change over to twins stay twins. -/
theorem usePattern_agrees {matcher other : Matcher σ} (twins : matcher.Twins pair other)
    {pattern twin : Pattern σ} (twins' : pattern.Twins pair twin) :
    Work.Agrees pair (matcher.usePattern pattern) (other.usePattern twin)
      (Matcher.Twins pair) := by
  intro trace trace' linked
  have sameClosed : pattern.isClosed = twin.isClosed := by
    rw [twins'.same]
  rw [(usePattern_run ⟨matcher, trace⟩ pattern :), (usePattern_run ⟨other, trace'⟩ twin :),
    ← sameClosed]
  split
  · exact ⟨.error _, linked⟩
  · simp only [Configuration.switch, Engine.dropStack, Engine.makeStack, canMatchPartially,
      twins.pattern.engine, twins.pattern.engine', twins'.engine, twins'.engine', pair.createStack,
      pair.createStack', pair.releaseStack, pair.releaseStack', pair.capabilities]
    have sameReading : twin.canonicalEquivalence = pattern.canonicalEquivalence := by
      rw [twins'.same]
    have prepared : other.prepareFor twin =
        (matcher.prepareFor pattern).withCode other.pattern.adapter other.pattern.variants := by
      rw [twins.eq_withCode, prepareFor, prepareFor, sameReading]
      change (if pattern.canonicalEquivalence = matcher.pattern.canonicalEquivalence then _
        else _) = _
      split <;> rfl
    have samePartial : other.partialMatching = matcher.partialMatching :=
      (twins.read_eq fun _ _ _ => rfl).symm
    rw [prepared, samePartial]
    exact ⟨.ok ⟨rfl, twins'⟩, linked⟩

/-! ## Operations -/

/-- Work that replies with what it reads of twins. -/
theorem reply_agrees {value : Matcher σ → β}
    (same : ∀ {matcher twin : Matcher σ}, matcher.Twins pair twin → value matcher = value twin) :
    Matching.Agrees pair (do return value (← get) : Matching σ β) (do return value (← get)) Eq :=
  Matching.Agrees.get.bind fun _ _ twins => .pure (same twins)

/-- An operation that brings in no other pattern comes to the same on twins. -/
theorem perform_agrees {operation : Operation σ} (isAllowed : operation.Allowed fun _ => False) :
    Matching.Agrees pair (perform operation) (perform operation) Eq := by
  cases operation with
  | ask query =>
      exact Matching.Agrees.get.bind fun _ _ twins =>
        twins.snapshot_eq ▸ .ofWork (.ofExcept (.refl _))
  | find => exact find_agrees.goOn fun _ => .pure rfl
  | findFrom start => exact (findFrom_agrees start).goOn fun _ => .pure rfl
  | lookingAt => exact lookingAt_agrees.goOn fun _ => .pure rfl
  | matchWhole => exact matchWhole_agrees.goOn fun _ => .pure rfl
  | hasPartialMatch =>
      exact reply_agrees fun twins => congrArg Reply.flag (twins.read_eq fun _ _ _ => rfl)
  | mark => exact reply_agrees fun twins => congrArg Reply.text (twins.read_eq fun _ _ _ => rfl)
  | regionStart =>
      exact reply_agrees fun twins => congrArg Reply.count (twins.read_eq fun _ _ _ => rfl)
  | regionEnd =>
      exact reply_agrees fun twins => congrArg Reply.count (twins.read_eq fun _ _ _ => rfl)
  | source =>
      exact reply_agrees fun twins => congrArg (fun text => Reply.text (some text)) twins.source_eq
  | describe =>
      exact reply_agrees fun twins => congrArg (fun text => Reply.text (some text)) twins.toText_eq
  | findAll count => exact (findAll_agrees count).goOn fun _ => .pure rfl
  | results count => exact (results_agrees .notStarted count).goOn fun _ => .pure rfl
  | region start stop =>
      exact (change_agrees fun _ _ twins => .ofExcept (twins.region_alike start stop)).goOn
        fun _ => .pure rfl
  | reset => exact (Matching.Agrees.modify fun twins => twins.reset).goOn fun _ => .pure rfl
  | resetTo text =>
      exact (Matching.Agrees.modify fun twins =>
        twins.change (·.resetTo text) (fun _ _ _ => rfl) fun _ => rfl).goOn fun _ => .pure rfl
  | useAnchoringBounds value =>
      refine (Matching.Agrees.modify fun twins =>
        twins.change (·.useAnchoringBounds value) (fun _ _ _ => rfl) fun _ => rfl).goOn fun _ => ?_
      exact reply_agrees fun twins => congrArg Reply.flag (twins.read_eq fun _ _ _ => rfl)
  | usePartialMatching value =>
      exact (change_agrees fun _ _ twins =>
        .ofExcept (twins.usePartialMatching_alike value)).goOn fun _ => .pure rfl
  | usePattern pattern => exact isAllowed.elim
  | appendReplacement template =>
      refine Matching.Agrees.get.bind fun matcher twin twins => ?_
      obtain ⟨sameExpansion, twins'⟩ := twins.appendReplacement template
      dsimp only
      rw [sameExpansion]
      refine (Matching.Agrees.set twins').goOn fun _ => ?_
      cases (twin.appendReplacement template).1.fault with
      | some fault => exact .throw fault
      | none => exact .pure rfl
  | appendTail => exact .pure rfl
  | replaceAll replacement => exact (replace_agrees replacement true).goOn fun _ => .pure rfl
  | replaceFirst replacement => exact (replace_agrees replacement false).goOn fun _ => .pure rfl
  | close => exact (change_agrees fun _ _ twins => close_agrees twins).goOn fun _ => .pure rfl

/-- Changing over to twins comes to the same on twins. -/
theorem perform_usePattern_agrees {pattern twin : Pattern σ} (twins : pattern.Twins pair twin) :
    Matching.Agrees pair (perform (.usePattern pattern)) (perform (.usePattern twin)) Eq :=
  (change_agrees fun _ _ twins' => usePattern_agrees twins' twins).goOn fun _ => .pure rfl

theorem Twins.written_eq (twins : matcher.Twins pair twin) (operation : Operation σ) :
    matcher.written operation = twin.written operation := by
  cases operation with
  | appendReplacement template =>
      exact congrArg Expansion.output (twins.appendReplacement template).1
  | appendTail => exact twins.tail_eq
  | _ => rfl

end Matcher

/-! ## Splitting and testing -/

namespace Pattern

variable {pattern twin : Pattern σ}

theorem collectPieces_agrees (rule : SplitRule) (text : Text) (fuel splits : Nat)
    (collected : Pieces) :
    Matching.Agrees pair (collectPieces rule text fuel splits collected : Matching σ Pieces)
      (collectPieces rule text fuel splits collected) Eq := by
  induction fuel generalizing splits collected with
  | zero => exact .pure rfl
  | succ fuel ih =>
      refine Matcher.find_agrees.goOn fun isFound => ?_
      cases isFound with
      | false => exact .pure rfl
      | true =>
          simp only [Bool.not_true, Bool.false_eq_true, if_false]
          split
          · exact .pure rfl
          · refine Matching.Agrees.get.bind fun matcher twin twins => ?_
            have samePrevious : matcher.previous = twin.previous := twins.read_eq fun _ _ _ => rfl
            rw [samePrevious]
            split
            · exact ih splits collected
            · exact ih _ _

variable (twins : pattern.Twins pair twin)

include twins

theorem withMatcher_agrees (text : Text) {matching : Matching σ α}
    (agrees : Matching.Agrees pair matching matching Eq) :
    Work.Agrees pair (pattern.withMatcher text matching) (twin.withMatcher text matching) Eq :=
  (Matcher.create_agrees twins text {}).bind fun _ _ twins' =>
    (agrees.on twins').lastly (Matcher.close_agrees twins').discard

theorem occursIn_agrees (text : Text) :
    Work.Agrees pair (pattern.occursIn text) (twin.occursIn text) Eq :=
  withMatcher_agrees twins text Matcher.find_agrees

theorem matchesWhole_agrees (text : Text) :
    Work.Agrees pair (pattern.matchesWhole text) (twin.matchesWhole text) Eq :=
  withMatcher_agrees twins text Matcher.matchWhole_agrees

theorem split_agrees (text : Text) (rule : SplitRule) :
    Work.Agrees pair (pattern.split text rule) (twin.split text rule) Eq :=
  (withMatcher_agrees twins text (collectPieces_agrees rule text _ 0 ⟨[], 0⟩)).bind
    fun _ _ same => .pure (same ▸ rfl)

end Pattern

/-! ## Piece by piece -/

namespace PieceStream

variable {matcher twin : Matcher σ}

/-- What a search for a piece comes to for twins. -/
def SearchedAlike (pair : EnginePair σ) (found found' : List Text × Matcher σ × Int × Bool) :
    Prop :=
  found.1 = found'.1 ∧ found.2.1.Twins pair found'.2.1 ∧ found.2.2 = found'.2.2

theorem searchPiece_agrees (twins : matcher.Twins pair twin) (fuel held : Nat) (index : Int) :
    Work.Agrees pair (searchPiece matcher fuel held index) (searchPiece twin fuel held index)
      (SearchedAlike pair) := by
  induction fuel generalizing matcher twin held index with
  | zero => exact .pure ⟨rfl, twins, rfl⟩
  | succ fuel ih =>
      have searching : Matching.Agrees pair
          (do let isFound ← Matcher.find; return (isFound, ← get) : Matching σ (Bool × Matcher σ))
          (do let isFound ← Matcher.find; return (isFound, ← get))
          fun found found' => found.1 = found'.1 ∧ found.2.Twins pair found'.2 :=
        Matcher.find_agrees.goOn fun _ =>
          Matching.Agrees.get.bind fun _ _ twins => .pure ⟨rfl, twins⟩
      refine (searching.on twins).bind ?_
      rintro ⟨isFound, found⟩ ⟨_, found'⟩ ⟨rfl, twins'⟩
      have samePrevious : found.previous = found'.previous := twins'.read_eq fun _ _ _ => rfl
      have sameText : found.text = found'.text := twins'.read_eq fun _ _ _ => rfl
      dsimp only at samePrevious sameText ⊢
      rw [samePrevious, sameText]
      cases isFound with
      | false => exact .pure ⟨rfl, twins', rfl⟩
      | true =>
          simp only [if_true]
          split
          · exact ih twins' _ _
          · exact .pure ⟨rfl, twins', rfl⟩

theorem handOut_agrees (twins : matcher.Twins pair twin) (ready : List Text) (index : Int)
    (isSearched : Bool) :
    Streaming.Agrees pair (handOut matcher ready index isSearched)
      (handOut twin ready index isSearched) Eq := by
  cases ready with
  | cons piece ready =>
      exact (Streaming.Agrees.set (.running twins ready index isSearched)).bind
        fun _ _ _ => .pure rfl
  | nil =>
      refine (Streaming.Agrees.set .ended).bind fun _ _ _ => ?_
      exact (Streaming.Agrees.ofWork (Matcher.close_agrees twins).discard).bind
        fun _ _ _ => .pure rfl

theorem advance_agrees (twins : matcher.Twins pair twin) (index : Int) :
    Streaming.Agrees pair (advance matcher index) (advance twin index) Eq := by
  have sameText : matcher.text = twin.text := twins.read_eq fun _ _ _ => rfl
  rw [advance, advance, sameText]
  refine (Streaming.Agrees.ofWork ((searchPiece_agrees twins _ 0 index).onFailure
    (Matcher.close_agrees twins))).bind ?_
  rintro ⟨ready, found, index', isSearched⟩ ⟨_, found', _⟩ ⟨rfl, twins', ⟨⟩⟩
  exact handOut_agrees twins' ready index' isSearched

theorem next_agrees {pattern twin : Pattern σ} (twins : pattern.Twins pair twin) :
    Streaming.Agrees pair (next pattern) (next twin) Eq := by
  refine Streaming.Agrees.get.bind fun stream stream' twins' => ?_
  cases twins' with
  | ended => exact .pure rfl
  | running twins' ready index isSearched =>
      dsimp only
      split
      · exact advance_agrees twins' index
      · exact handOut_agrees twins' ready index isSearched
  | notStarted text =>
      dsimp only
      split
      · exact (Streaming.Agrees.set .ended).bind fun _ _ _ => .pure rfl
      · exact (Streaming.Agrees.ofWork (Matcher.create_agrees twins text {})).bind
          fun _ _ twins'' => advance_agrees twins'' 0

theorem close_agrees : Streaming.Agrees pair (close : Streaming σ Unit) close Eq := by
  refine Streaming.Agrees.get.bind fun stream stream' twins => ?_
  refine (Streaming.Agrees.set .ended).bind fun _ _ _ => ?_
  cases twins with
  | running twins => exact .ofWork (Matcher.close_agrees twins).discard
  | ended => exact .pure rfl
  | notStarted text => exact .pure rfl

theorem rest_agrees {pattern twin : Pattern σ} (twins : pattern.Twins pair twin) (count : Nat) :
    Streaming.Agrees pair (rest pattern count) (rest twin count) Eq := by
  induction count with
  | zero => exact .pure rfl
  | succ count ih =>
      refine (next_agrees twins).bind ?_
      rintro piece? _ rfl
      cases piece? with
      | none => exact .pure rfl
      | some piece => exact ih.bind fun _ _ same => .pure (congrArg (piece :: ·) same)

end PieceStream

theorem Pattern.pieces_agrees {pattern twin : Pattern σ} (twins : pattern.Twins pair twin)
    (text : Text) : Work.Agrees pair (pattern.pieces text) (twin.pieces text) Eq := by
  intro trace trace' linked
  obtain ⟨endAlike, -, linked'⟩ := PieceStream.rest_agrees twins (matchLimit + text.length)
    (.notStarted text) (.notStarted text) trace trace' (.notStarted text) linked
  exact ⟨endAlike, linked'⟩

end RegexMatching
