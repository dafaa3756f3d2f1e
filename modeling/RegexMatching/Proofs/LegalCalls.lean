import RegexMatching.Engine.Scripted
import RegexMatching.Proofs.Reachable

/-!
# Match calls are legal

A watched engine acts as it would unwatched and writes down every match call it
gets.  Whatever engines answer and whatever callers do, a matcher only ever asks
about a part of the searched text that cuts no pair, from a boundary on, under
options that the engine supports.
-/

namespace RegexMatching

/-! ## Watched engines -/

/-- A match call with what the engine that got it is able to do. -/
structure EngineCall where
  capabilities : Capabilities
  request : Request

/-- Engines and the match calls they got, the latest last. -/
structure Watched (σ : Type) where
  engines : σ
  calls : List EngineCall := []

namespace Watched

variable {σ : Type}

/-- Write down a match call. -/
def record (watched : Watched σ) (call : EngineCall) : Watched σ :=
  { watched with calls := watched.calls ++ [call] }

end Watched

namespace Engine

variable {σ : Type}

/-- An engine whose match calls are written down. -/
def watched (engine : Engine σ) : Engine (Watched σ) :=
  { engine.onPart Watched.engines fun engines watched => { watched with engines } with
    run := fun code subject start options data stack =>
      ExceptT.mk fun watched =>
        let (outcome, engines) :=
          (engine.run code subject start options data stack).run watched.engines
        (outcome,
          Watched.record { watched with engines }
            ⟨engine.capabilities, code, subject, start, options, stack⟩) }

theorem watched_run_run (engine : Engine σ) (request : Request) (data : Handle)
    (watched : Watched σ) :
    (engine.watched.run request.code request.subject request.start request.options data
        request.stack).run.run watched =
      let ran := (engine.run request.code request.subject request.start request.options data
        request.stack).run.run watched.engines
      (ran.1,
        { engines := ran.2, calls := watched.calls ++ [⟨engine.capabilities, request⟩] }) :=
  rfl

theorem watched_readReport_run (engine : Engine σ) (code data : Handle) (result : Int)
    (watched : Watched σ) :
    (engine.watched.readReport code data result).run watched =
      let read := (engine.readReport code data result).run watched.engines
      (read.1, { watched with engines := read.2 }) := by
  unfold readReport
  split <;> rfl

/-- A watched engine reports what it would report unwatched, and one match call is
written down. -/
theorem watched_exchange_run (engine : Engine σ) (request : Request) (watched : Watched σ) :
    (engine.watched.exchange request).run watched =
      let exchanged := (engine.exchange request).run watched.engines
      (exchanged.1,
        { engines := exchanged.2
          calls := watched.calls ++ [⟨engine.capabilities, request⟩] }) := by
  have made : (engine.watched.createMatchData request.code).run watched =
      (((engine.createMatchData request.code).run watched.engines).1,
        { watched with
          engines := ((engine.createMatchData request.code).run watched.engines).2 }) := rfl
  rw [exchange_run, exchange_run, made]
  dsimp only
  rw [watched_run_run]
  dsimp only
  rcases (engine.run request.code request.subject request.start request.options
    ((engine.createMatchData request.code).run watched.engines).1 request.stack).run.run
      ((engine.createMatchData request.code).run watched.engines).2 with ⟨outcome, engines⟩
  cases outcome with
  | error fault => rfl
  | ok result =>
      dsimp only
      rw [watched_readReport_run]
      rfl

/-- Making a stack is no match call. -/
theorem watched_makeStack_calls (engine : Engine σ) (watched : Watched σ) :
    (engine.watched.makeStack.run watched).2.calls = watched.calls := by
  unfold makeStack
  rw [show engine.watched.createStack = engine.createStack.map fun create watched =>
    ((create.run watched.engines).1, { watched with engines := (create.run watched.engines).2 })
    from rfl]
  cases engine.createStack with
  | none => rfl
  | some create =>
      dsimp only [Option.map]
      split <;> rfl

/-- Giving a stack back is no match call. -/
theorem watched_dropStack_calls (engine : Engine σ) (stack : Handle) (watched : Watched σ) :
    ((engine.watched.dropStack stack).run watched).2.calls = watched.calls := by
  unfold dropStack
  rw [show engine.watched.releaseStack = engine.releaseStack.map fun release stack watched =>
    (((release stack).run watched.engines).1,
      { watched with engines := ((release stack).run watched.engines).2 }) from rfl]
  cases engine.releaseStack with
  | none => rfl
  | some release =>
      dsimp only [Option.map]
      split <;> rfl

end Engine

/-- A pattern of some watched engine. -/
def Pattern.IsWatched {σ : Type} (pattern : Pattern (Watched σ)) : Prop :=
  ∃ engine : Engine σ, pattern.adapter.engine = engine.watched

/-! ## Legal calls -/

namespace MatchOptions

/-- The bits that an option number may have. -/
def mask : Nat := 0x1f

theorem toBits_le_mask (options : MatchOptions) : options.toBits ≤ mask := by
  rcases options with ⟨anchored, endAnchored, notBol, notEol, partialSoft⟩
  cases anchored <;> cases endAnchored <;> cases notBol <;> cases notEol <;>
    cases partialSoft <;> decide

theorem testBit_toBits (options : MatchOptions) :
    options.toBits.testBit 2 = options.notBol ∧ options.toBits.testBit 3 = options.notEol ∧
      options.toBits.testBit 4 = options.partialSoft := by
  rcases options with ⟨anchored, endAnchored, notBol, notEol, partialSoft⟩
  cases anchored <;> cases endAnchored <;> cases notBol <;> cases notEol <;>
    cases partialSoft <;> decide

end MatchOptions

/-- A match call about a part of `searched` that the engine has to be able to answer. -/
structure EngineCall.Legal (searched : Text) (call : EngineCall) : Prop where
  /-- The subject is a part of the text that cuts no pair. -/
  subject : ∃ first last, first ≤ last ∧ searched.IsBoundary first ∧ searched.IsBoundary last ∧
    call.request.subject = Utf8.encode (searched.between first last)
  /-- The start is a boundary of the subject. -/
  start : ∃ start : Nat, call.request.start = start ∧ Utf8.IsBoundary call.request.subject start
  options_nonneg : 0 ≤ call.request.options
  options_le_mask : call.request.options ≤ MatchOptions.mask
  partialSoft : call.request.options.toNat.testBit 4 = true →
    call.capabilities.partialMatching = true
  lineEdges : call.request.options.toNat.testBit 2 = true ∨
      call.request.options.toNat.testBit 3 = true →
    call.capabilities.lineBoundaryOptions = true

namespace Matcher

variable {σ : Type}

/-- What a consistent matcher asks is legal. -/
theorem Consistent.request_legal {matcher : Matcher σ} (consistent : matcher.Consistent)
    (hasLineEdges : matcher.lacksLineEdges = false) {start place : Nat}
    (inside : start ≤ matcher.text.length) (starts : matcher.placeOf? start = some place)
    (anchoring : Anchoring) :
    EngineCall.Legal matcher.searchedText
      ⟨matcher.pattern.adapter.engine.capabilities, matcher.requestAt place anchoring⟩ where
  subject := ⟨matcher.viewStart, matcher.viewEnd, viewStart_le_viewEnd starts,
    consistent.isBoundary_viewStart, consistent.isBoundary_viewEnd, rfl⟩
  start := ⟨_, rfl, Utf8.isBoundary_bytesBefore (consistent.isBoundary_of_placeOf? inside starts)⟩
  options_nonneg := Int.natCast_nonneg _
  options_le_mask := Int.ofNat_le.mpr (MatchOptions.toBits_le_mask _)
  partialSoft := by
    intro isSet
    have bits := MatchOptions.testBit_toBits
      (matcher.matchOptions (matcher.pattern.variants.variant anchoring))
    exact consistent.partialMatching (bits.2.2.symm.trans isSet)
  lineEdges := by
    intro isSet
    have bits := MatchOptions.testBit_toBits
      (matcher.matchOptions (matcher.pattern.variants.variant anchoring))
    have hasEdge := Bool.or_eq_true_iff.mpr
      (isSet.imp bits.1.symm.trans bits.2.1.symm.trans)
    cases supported : matcher.pattern.adapter.engine.capabilities.lineBoundaryOptions with
    | true => rfl
    | false =>
        have lacks : matcher.lacksLineEdges = true :=
          Bool.and_eq_true_iff.mpr ⟨hasEdge, by rw [supported]; rfl⟩
        rw [hasLineEdges] at lacks
        contradiction

/-! ## Calls made by steps and changes -/

variable {before after : Configuration (Watched σ)}

/-- The match calls made between two moments are legal for a text. -/
def CallsLegally (searched : Text) (before after : Configuration (Watched σ)) : Prop :=
  ∃ calls, after.trace.engines.calls = before.trace.engines.calls ++ calls ∧
    ∀ call ∈ calls, call.Legal searched

theorem CallsLegally.of_calls_eq {searched : Text}
    (same : after.trace.engines.calls = before.trace.engines.calls) :
    CallsLegally searched before after :=
  ⟨[], by rw [same, List.append_nil], fun _ mem => absurd mem List.not_mem_nil⟩

theorem CallsLegally.trans {searched : Text} {middle : Configuration (Watched σ)}
    (first : CallsLegally searched before middle) (second : CallsLegally searched middle after) :
    CallsLegally searched before after := by
  rcases first with ⟨calls, appended, legal⟩
  rcases second with ⟨calls', appended', legal'⟩
  refine ⟨calls ++ calls', ?_, fun call mem => ?_⟩
  · rw [appended', appended, List.append_assoc]
  · rcases List.mem_append.mp mem with mem | mem
    · exact legal call mem
    · exact legal' call mem

/-- A search makes one match call at most, and a legal one. -/
theorem search_callsLegally (consistent : before.matcher.Consistent)
    (isWatched : before.matcher.pattern.IsWatched) {start : Nat}
    (inside : start ≤ before.matcher.text.length) (anchoring : Anchoring) :
    CallsLegally before.matcher.searchedText before
      ((search start anchoring).exec before).2 := by
  rcases isWatched with ⟨engine, watched⟩
  have seen := consistent.seen
  rw [search_exec consistent]
  unfold CallsLegally
  dsimp only
  rw [seen.attempt_run inside]
  cases lacks : before.matcher.seen.lacksLineEdges with
  | true => exact ⟨[], by simp, fun _ mem => absurd mem List.not_mem_nil⟩
  | false =>
      rw [if_neg Bool.false_ne_true]
      cases starts : before.matcher.seen.placeOf? start with
      | none => exact ⟨[], by simp, fun _ mem => absurd mem List.not_mem_nil⟩
      | some place =>
          have legal := seen.request_legal lacks inside starts anchoring
          have engineOf : before.matcher.seen.pattern.adapter.engine = engine.watched := watched
          rw [engineOf] at legal ⊢
          dsimp only
          rw [Engine.watched_exchange_run]
          refine ⟨[_], rfl, fun call mem => ?_⟩
          rw [List.mem_singleton.mp mem]
          exact legal

theorem Step.callsLegally (step : Step before after) (consistent : before.matcher.Consistent)
    (isWatched : before.matcher.pattern.IsWatched) :
    CallsLegally before.matcher.searchedText before after := by
  cases step with
  | search start anchoring inside =>
      exact search_callsLegally consistent isWatched (inside consistent) anchoring
  | exhaust => exact .of_calls_eq rfl
  | clearMatch => exact .of_calls_eq rfl
  | reset => exact .of_calls_eq rfl
  | append template => exact .of_calls_eq rfl

theorem Steps.callsLegally (steps : Steps before after) (consistent : before.matcher.Consistent)
    (isWatched : before.matcher.pattern.IsWatched) :
    CallsLegally before.matcher.searchedText before after := by
  -- The pattern and the text stay, so the searched text stays too.
  have run : after.matcher.Consistent ∧ after.matcher.pattern = before.matcher.pattern ∧
      after.matcher.text = before.matcher.text ∧
      CallsLegally before.matcher.searchedText before after := by
    induction steps with
    | refl => exact ⟨consistent, rfl, rfl, .of_calls_eq rfl⟩
    | @tail middle after _ step ih =>
        rcases ih with ⟨consistent', samePattern, sameText, legal⟩
        rcases step.same consistent' with ⟨samePattern', sameText'⟩
        have sameSearched : middle.matcher.searchedText = before.matcher.searchedText := by
          rw [searchedText, searchedText, samePattern, sameText]
        refine ⟨step.consistent consistent', samePattern'.trans samePattern,
          sameText'.trans sameText, legal.trans ?_⟩
        rw [← sameSearched]
        exact step.callsLegally consistent' (samePattern ▸ isWatched)
  exact run.2.2.2

/-- A change makes no match call. -/
theorem Change.calls_eq (change : Change Pattern.IsWatched before after)
    (isWatched : before.matcher.pattern.IsWatched) :
    after.trace.engines.calls = before.trace.engines.calls := by
  rcases isWatched with ⟨engine, watched⟩
  cases change with
  | resetTo text => rfl
  | region restricted => rfl
  | useAnchoringBounds value => rfl
  | usePartialMatching changed => rfl
  | @usePattern pattern isAllowed isOpen =>
      rcases isAllowed with ⟨engine', watched'⟩
      simp only [Configuration.switch]
      rw [watched, watched', Engine.watched_makeStack_calls, Engine.watched_dropStack_calls]
  | close =>
      simp only [Configuration.closed]
      rw [watched, Engine.watched_dropStack_calls]

/-! ## Calls made by operations -/

/-- A reachable matcher makes legal calls only, whatever it is used for next and
whatever engines have answered or will answer. -/
theorem callsLegally_of_reachable {matcher : Matcher (Watched σ)}
    (reached : matcher.Reachable Pattern.IsWatched fun _ => True) (trace : Trace (Watched σ)) :
    (∀ operation : Operation (Watched σ), operation.Allowed Pattern.IsWatched →
      CallsLegally matcher.searchedText ⟨matcher, trace⟩
        ((perform operation).exec ⟨matcher, trace⟩).2) ∧
    ∀ iteration : Iteration,
      CallsLegally matcher.searchedText ⟨matcher, trace⟩
        (iteration.next.exec ⟨matcher, trace⟩).2 := by
  rcases reached.consistent with ⟨consistent, isWatched⟩
  constructor
  · intro operation isAllowed
    rcases perform_steps_or_change operation isAllowed ⟨matcher, trace⟩ with steps | change
    · exact steps.callsLegally consistent isWatched
    · exact .of_calls_eq (change.calls_eq isWatched)
  · intro iteration
    exact (next_steps iteration ⟨matcher, trace⟩).callsLegally consistent isWatched

/-- A pattern of an engine that follows an empty script. -/
def scriptedPattern : Pattern (Watched Recording) where
  adapter := { engine := (Script.toEngine {}).watched, isLogged := false }
  source := Text.ofString "b"
  flags := .ofNat 0
  canonicalEquivalence := false
  variants := .shared 1
  groupCount := 0
  names := []

theorem callsLegally_find_scripted :
    CallsLegally (Text.ofString "ab")
      ⟨initial scriptedPattern (Text.ofString "ab") true 0, ⟨⟨{}, []⟩, []⟩⟩
      ((perform .find).exec
        ⟨initial scriptedPattern (Text.ofString "ab") true 0, ⟨⟨{}, []⟩, []⟩⟩).2 := by
  have isCreated : (create scriptedPattern (Text.ofString "ab") {}).run ⟨⟨{}, []⟩, []⟩ =
      (.ok (initial scriptedPattern (Text.ofString "ab") true 0), ⟨⟨{}, []⟩, []⟩) := rfl
  have isWatched : scriptedPattern.IsWatched := ⟨_, rfl⟩
  exact (callsLegally_of_reachable (.created isWatched trivial isCreated) _).1 .find trivial

end Matcher

end RegexMatching
