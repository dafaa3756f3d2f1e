import RegexMatching.Proofs.Interleaving
import RegexMatching.Proofs.KeptRelations

/-!
# Splitting at once and piece by piece

A text is split at the matches that successive searches find.  Splitting at once collects all pieces
and drops the empty ones at the end; a stream of pieces holds empty pieces back until one that is
not empty follows.  Both are written out here as functions of the spans that are found, and come to
the same pieces.  The one difference is the empty text, which a stream does not search.
-/

namespace RegexMatching

namespace Matcher

variable {σ : Type} {usable : σ → Prop} {answer : MatchFunction}

/-! ## What successive searches find -/

/-- The spans that successive searches from a configuration on find, up to the search that finds
nothing or fails, and how that search ends. -/
inductive Finds : Configuration σ → List Span → Except Fault Unit → Prop where
  | nothing {before after : Configuration σ} (executed : find.exec before = (.ok false, after))
      (sameText : after.matcher.text = before.matcher.text) : Finds before [] (.ok ())
  | failure {before : Configuration σ} {fault : Fault}
      (failed : (find.exec before).1 = .error fault) : Finds before [] (.error fault)
  | found {before after : Configuration σ} {span : Span} {spans : List Span}
      {ending : Except Fault Unit} (executed : find.exec before = (.ok true, after))
      (isPrevious : after.matcher.previous = some span)
      (sameText : after.matcher.text = before.matcher.text) (rest : Finds after spans ending) :
      Finds before (span :: spans) ending

/-- How the searches end that find the matches among outcomes. -/
def endingOf : List (Except Fault (Option Snapshot)) → Except Fault Unit
  | .ok (some _) :: rest => endingOf rest
  | .error fault :: _ => .error fault
  | _ => .ok ()

/-- A match that is found is the one behind which the search goes on. -/
theorem previous_result {matcher : Matcher σ} {snapshot : Snapshot} {spans : List Span}
    {mark : Option Text} (found : foundBy answer matcher = .ok (some snapshot))
    (isFound : (Call.find.result answer matcher).2.state = .found spans mark) :
    (Call.find.result answer matcher).2.previous = spans.head? := by
  rcases find_result_cases answer matcher with ⟨fault, failed, -⟩ | ⟨isFalse, -⟩ |
    ⟨start, spans', mark', -, -, result⟩
  · rw [foundBy, failed] at found
    cases found
  · rw [foundBy, isFalse] at found
    cases found
  · rw [result] at isFound ⊢
    obtain ⟨rfl, rfl⟩ := MatchState.found.inj isFound
    rfl

/-- Successive searches find the spans of the matches among their outcomes, if one of them finds
nothing or fails. -/
theorem finds_foundCalls (count : Nat) {matcher : Matcher σ} (consistent : matcher.Consistent)
    (isPlain : matcher.pattern.canonicalEquivalence = false)
    (answers : matcher.pattern.adapter.engine.AnswersBy usable answer)
    (promises : answer.Promises Report.PlacesMatch) {trace : Trace σ}
    (isUsable : usable trace.engines) {spans : List Span}
    (reported : (matchesOf (foundCalls answer count matcher)).map (·.span .whole) =
      spans.map fun span => .ok (some span)) (ended : spans.length < count) :
    Finds ⟨matcher, trace⟩ spans (endingOf (foundCalls answer count matcher)) := by
  induction count generalizing matcher trace spans with
  | zero => exact absurd ended (Nat.not_lt_zero _)
  | succ count ih =>
      rcases find_exec_cases consistent isPlain answers promises isUsable with
        ⟨fault, isFault, failed⟩ | ⟨after, traceAfter, isAfter, isNone, executed⟩ |
        ⟨after, traceAfter, spans', mark, span, isAfter, isSome, executed, usableAfter, isFound,
          isFirst⟩
      · rw [foundCalls_eq_replicate _ (by simp [isFault]),
          matchesOf_replicate _ (by simp [isFault])] at reported
        obtain rfl := List.map_eq_nil_iff.mp reported.symm
        rw [foundCalls, isFault]
        exact .failure failed
      · rw [foundCalls_eq_replicate _ (by simp [isNone]),
          matchesOf_replicate _ (by simp [isNone])] at reported
        obtain rfl := List.map_eq_nil_iff.mp reported.symm
        rw [foundCalls, isNone]
        exact .nothing executed (isAfter ▸ (Call.find.sameTask_result answer matcher).text)
      · rw [foundCalls, isSome] at reported
        have isSpan := span_whole isFound isFirst
        cases spans with
        | nil => cases reported
        | cons first rest =>
            obtain ⟨sameSpan, later⟩ := List.cons.inj reported
            obtain rfl := Option.some.inj (Except.ok.inj (isSpan.symm.trans sameSpan))
            have task := Call.find.sameTask_result answer matcher
            have consistentAfter := Call.find.consistent_result answer consistent
            have isPrevious := previous_result isSome (isAfter ▸ isFound)
            rw [foundCalls, isSome]
            rw [← isAfter] at task consistentAfter isPrevious later ⊢
            exact .found executed (isPrevious.trans isFirst) task.text
              (ih consistentAfter (task.pattern ▸ isPlain) (task.pattern ▸ answers) usableAfter
                later (Nat.lt_of_succ_lt_succ ended))

/-- Spans from left to right, that do not overlap and lie behind an index. -/
def AdvanceFrom : Int → List Span → Prop
  | _, [] => True
  | index, span :: spans =>
      index ≤ span.start ∧ span.start ≤ span.stop ∧ AdvanceFrom span.stop spans

theorem advanceFrom_of_pairwise {index : Int} {spans : List Span}
    (pairwise : spans.Pairwise fun earlier later =>
      earlier.start < later.start ∧ earlier.stop ≤ later.start)
    (inside : ∀ span ∈ spans, index ≤ span.start ∧ span.start ≤ span.stop) :
    AdvanceFrom index spans := by
  induction spans generalizing index with
  | nil => trivial
  | cons span rest ih =>
      rw [List.pairwise_cons] at pairwise
      obtain ⟨leStart, ordered⟩ := inside span List.mem_cons_self
      exact ⟨leStart, ordered, ih pairwise.2 fun later mem =>
        ⟨(pairwise.1 later mem).2, (inside later (List.mem_cons_of_mem span mem)).2⟩⟩

/-- The outcomes of successive searches of a new matcher do not depend on its stack. -/
theorem foundCalls_initial (answer : MatchFunction) (count : Nat) (pattern : Pattern σ)
    (text : Text) (stack : Handle) :
    foundCalls answer count (initial pattern text true stack) =
      foundCalls answer count (initial pattern text true 0) :=
  foundCalls_searching answer count rfl

/-- The searches of a new matcher find the spans of the matches among their outcomes, the same ones
wherever its engine is usable, and there are at most as many matches as offsets. -/
theorem exists_finds_foundCalls {pattern : Pattern σ} (isOpen : pattern.isClosed = false)
    (isPlain : pattern.canonicalEquivalence = false)
    (answers : pattern.adapter.engine.AnswersBy usable answer)
    (promises : answer.Promises Report.PlacesMatch) (text : Text) :
    let outcomes := foundCalls answer (text.length + 2) (initial pattern text true 0)
    ∃ spans, (matchesOf outcomes).map (·.span .whole) = spans.map (fun span => .ok (some span)) ∧
      AdvanceFrom 0 spans ∧ (∀ span ∈ spans, span.stop ≤ text.length) ∧
      spans.length ≤ text.length + 1 ∧
      ∀ (stack : Handle) (trace : Trace σ), usable trace.engines →
        Finds ⟨initial pattern text true stack, trace⟩ spans (endingOf outcomes) := by
  have consistent := initial_consistent isOpen text true
  obtain ⟨spans, reported, pairwise, inside⟩ :=
    exists_spans_of_foundCalls (text.length + 2) (consistent 0) isPlain promises
  have atMost := length_matchesOf_foundCalls_le (text.length + 2) (consistent 0) isPlain promises
  have sameLength := congrArg List.length reported
  rw [List.length_map, List.length_map] at sameLength
  have fromStart : ∀ span ∈ spans, 0 ≤ span.start ∧ span.start ≤ span.stop := fun span mem =>
    ⟨Int.le_trans (Int.le_max_right _ _) (inside span mem).1, (inside span mem).2.1⟩
  refine ⟨spans, reported, advanceFrom_of_pairwise pairwise fromStart,
    fun span mem => (inside span mem).2.2, sameLength ▸ atMost, fun stack trace isUsable => ?_⟩
  have same := foundCalls_initial answer (text.length + 2) pattern text stack
  rw [← same] at reported ⊢
  exact finds_foundCalls _ (consistent stack) isPlain answers promises isUsable reported
    (Nat.lt_succ_of_le (sameLength ▸ atMost))

/-- The searches of a new matcher find the same wherever its engine is usable, and there are at
most as many matches as offsets. -/
theorem exists_finds {pattern : Pattern σ} (isOpen : pattern.isClosed = false)
    (isPlain : pattern.canonicalEquivalence = false)
    (answers : pattern.adapter.engine.AnswersBy usable answer)
    (promises : answer.Promises Report.PlacesMatch) (text : Text) :
    ∃ spans ending, AdvanceFrom 0 spans ∧ (∀ span ∈ spans, span.stop ≤ text.length) ∧
      spans.length ≤ text.length + 1 ∧
      ∀ (stack : Handle) (trace : Trace σ), usable trace.engines →
        Finds ⟨initial pattern text true stack, trace⟩ spans ending := by
  obtain ⟨spans, -, found⟩ := exists_finds_foundCalls isOpen isPlain answers promises text
  exact ⟨spans, _, found⟩

end Matcher

/-! ## All at once -/

namespace Pattern

open Matcher (Finds AdvanceFrom)

variable {σ : Type}

/-- The pieces in front of matches at spans, when the searches that find these end in some way. -/
def collectSpans (rule : SplitRule) (text : Text) (ending : Except Fault Unit) :
    Nat → Pieces → List Span → Except Fault Pieces
  | _, collected, [] => ending.map fun _ => collected
  | splits, collected, span :: spans =>
      if !rule.allows splits then
        .ok collected
      else if collected.index = 0 && span.start = 0 && span.stop = 0 then
        collectSpans rule text ending splits collected spans
      else
        let piece := text.slice collected.index span.start
        let delimiter :=
          if rule.withDelimiters then [text.slice span.start span.stop] else []
        collectSpans rule text ending (splits + 1)
          { pieces := collected.pieces ++ piece :: delimiter
            index := span.stop } spans

theorem collectPieces_exec_of_finds (rule : SplitRule) (text : Text) (splits : Nat)
    (collected : Pieces) {configuration : Configuration σ} {spans : List Span}
    {ending : Except Fault Unit} (finds : Finds configuration spans ending) {count : Nat}
    (enough : spans.length < count) :
    ((collectPieces rule text count splits collected).exec configuration).1 =
      collectSpans rule text ending splits collected spans := by
  obtain ⟨count, rfl⟩ := Nat.exists_eq_add_of_le' (Nat.lt_of_le_of_lt (Nat.zero_le _) enough)
  induction finds generalizing count splits collected with
  | nothing executed _ =>
      rw [collectPieces, Matching.exec_bind, executed]
      rfl
  | failure failed => exact Matching.exec_bind_of_error failed _
  | @found before after span spans ending executed isPrevious _ _ ih =>
      obtain ⟨count, rfl⟩ := Nat.exists_eq_add_of_le'
        (Nat.lt_of_le_of_lt (Nat.zero_le _) (Nat.lt_of_succ_lt_succ enough))
      have rest := fun splits collected =>
        ih splits collected count (Nat.lt_of_succ_lt_succ enough)
      rw [collectPieces, Matching.exec_bind, executed, collectSpans]
      dsimp only
      by_cases allows : rule.allows splits = true
      · simp only [allows, Bool.not_true, Bool.false_eq_true, if_false, Matching.exec_bind,
          Matching.exec_get, isPrevious, Option.getD_some]
        split
        · exact rest _ _
        · exact rest _ _
      · simp only [allows]
        rfl

/-- The matcher and the engines when an open pattern has made a matcher of its own for a text. -/
def started (pattern : Pattern σ) (text : Text) (trace : Trace σ) : Configuration σ :=
  let made := pattern.adapter.engine.makeStack.run trace.engines
  ⟨.initial pattern text true made.1, { trace with engines := made.2 }⟩

theorem create_run_of_isOpen {pattern : Pattern σ} (isOpen : pattern.isClosed = false)
    (text : Text) (trace : Trace σ) :
    (Matcher.create pattern text {}).run trace =
      (.ok (pattern.started text trace).matcher, (pattern.started text trace).trace) :=
  Matcher.create_run_of_supported isOpen (fun isPartial => by cases isPartial) text trace

theorem withMatcher_run_of_isOpen {α : Type} {pattern : Pattern σ}
    (isOpen : pattern.isClosed = false) (text : Text) (matching : Matching σ α)
    (trace : Trace σ) :
    ((pattern.withMatcher text matching).run trace).1 =
      (matching.exec (pattern.started text trace)).1 := by
  rw [withMatcher, Work.run_bind, create_run_of_isOpen isOpen]
  dsimp only
  rw [Work.run_finally_of_ok _ _ (by rw [Matcher.discard_close_run]), Matching.run_on]

/-- Splitting at once comes to the pieces at the spans that successive searches find. -/
theorem split_run_of_finds {pattern : Pattern σ} (isOpen : pattern.isClosed = false) (text : Text)
    (rule : SplitRule) (trace : Trace σ) {spans : List Span} {ending : Except Fault Unit}
    (finds : Finds (pattern.started text trace) spans ending)
    (enough : spans.length < matchLimit + text.length) :
    ((pattern.split text rule).run trace).1 =
      (collectSpans rule text ending 0 ⟨[], 0⟩ spans).map (·.complete rule text) := by
  have collected := withMatcher_run_of_isOpen isOpen text
    (collectPieces rule text (matchLimit + text.length) 0 ⟨[], 0⟩) trace
  rw [collectPieces_exec_of_finds rule text 0 ⟨[], 0⟩ finds enough] at collected
  rw [split, Work.run_bind, ← collected]
  rcases (pattern.withMatcher text
    (collectPieces rule text (matchLimit + text.length) 0 ⟨[], 0⟩)).run trace with ⟨outcome, after⟩
  cases outcome <;> rfl

end Pattern

/-! ## Piece by piece -/

namespace PieceStream

open Matcher (Finds AdvanceFrom)

variable {σ : Type}

/-- The pieces that a stream hands out when it has got to an index, holds some empty pieces back,
and finds matches at spans. -/
def yielded (text : Text) : Nat → Int → List Span → List Text
  | held, index, [] =>
      let rest := text.sliceFrom index
      if rest.isEmpty then [] else List.replicate held [] ++ [rest]
  | held, index, span :: spans =>
      let piece := text.slice index span.start
      if piece.isEmpty then
        yielded text (if 0 < span.stop then held + 1 else held) span.stop spans
      else
        List.replicate held [] ++ piece :: yielded text 0 span.stop spans

/-- The search for a piece by what the next search comes to. -/
theorem searchPiece_run (matcher : Matcher σ) (count held : Nat) (index : Int) (trace : Trace σ) :
    (searchPiece matcher (count + 1) held index).run trace =
      match Matcher.find.exec ⟨matcher, trace⟩ with
      | (.error fault, after) => (.error fault, after.trace)
      | (.ok false, after) =>
          (.ok (yielded after.matcher.text held index [], after.matcher, index, true), after.trace)
      | (.ok true, after) =>
          let span := after.matcher.previous.getD .unset
          let piece := after.matcher.text.slice index span.start
          if piece.isEmpty then
            (searchPiece after.matcher count (if 0 < span.stop then held + 1 else held)
              span.stop).run after.trace
          else
            (.ok (List.replicate held [] ++ [piece], after.matcher, span.stop, false),
              after.trace) := by
  rw [searchPiece, Work.run_bind, Matching.run_on, Matching.exec_bind]
  rcases Matcher.find.exec ⟨matcher, trace⟩ with ⟨outcome, after⟩
  cases outcome with
  | error fault => rfl
  | ok isFound =>
      cases isFound with
      | false => rfl
      | true =>
          dsimp only
          rw [Matching.exec_bind, Matching.exec_get]
          dsimp only [Matching.exec_pure]
          rw [if_pos rfl]
          split <;> rfl

/-- The search for a piece finds the next pieces that the stream hands out, or the last ones, or
fails where the searches do. -/
theorem searchPiece_run_of_finds {text : Text} {matcher : Matcher σ} {trace : Trace σ}
    {spans : List Span} {ending : Except Fault Unit}
    (finds : Finds ⟨matcher, trace⟩ spans ending) (isText : matcher.text = text) (held : Nat)
    (index : Int) {count : Nat} (enough : spans.length < count) :
    (∃ ready found index' after later, ready ≠ [] ∧
        (searchPiece matcher count held index).run trace =
          (.ok (ready, found, index', false), after) ∧
        found.text = text ∧ Finds ⟨found, after⟩ later ending ∧ later.length < spans.length ∧
        yielded text held index spans = ready ++ yielded text 0 index' later) ∨
      (∃ found index' after, ending = .ok () ∧
        (searchPiece matcher count held index).run trace =
          (.ok (yielded text held index spans, found, index', true), after)) ∨
      ∃ fault after, ending = .error fault ∧
        (searchPiece matcher count held index).run trace = (.error fault, after) := by
  obtain ⟨count, rfl⟩ := Nat.exists_eq_add_of_le' (Nat.lt_of_le_of_lt (Nat.zero_le _) enough)
  generalize atStart : (⟨matcher, trace⟩ : Configuration σ) = configuration at finds
  -- The induction is on how the searches go, since empty pieces make the stream search on.
  induction finds generalizing matcher trace held index count with
  | @nothing before after executed sameText =>
      subst atStart
      refine .inr (.inl ⟨after.matcher, index, after.trace, rfl, ?_⟩)
      rw [searchPiece_run, executed, ← isText, ← sameText]
  | @failure before fault failed =>
      subst atStart
      refine .inr (.inr ⟨fault, (Matcher.find.exec ⟨matcher, trace⟩).2.trace, rfl, ?_⟩)
      rw [searchPiece_run]
      rcases executed : Matcher.find.exec ⟨matcher, trace⟩ with ⟨outcome, after⟩
      rw [executed] at failed
      obtain rfl : outcome = .error fault := failed
      rfl
  | @found before after span spans ending executed isPrevious sameText rest ih =>
      subst atStart
      obtain ⟨count, rfl⟩ := Nat.exists_eq_add_of_le'
        (Nat.lt_of_le_of_lt (Nat.zero_le _) (Nat.lt_of_succ_lt_succ enough))
      have isText' : after.matcher.text = text := sameText.trans isText
      rw [searchPiece_run, executed, yielded]
      dsimp only
      rw [isPrevious, Option.getD_some, isText']
      by_cases isEmpty : (text.slice index span.start).isEmpty = true
      · rw [if_pos isEmpty, if_pos isEmpty]
        rcases ih isText' (if 0 < span.stop then held + 1 else held) span.stop count
            (Nat.lt_of_succ_lt_succ enough) rfl with
          ⟨ready, found, index', after', later, isReady, run, isText'', finds', less, yields⟩ | last
        · exact .inl ⟨ready, found, index', after', later, isReady, run, isText'', finds',
            Nat.lt_succ_of_lt less, yields⟩
        · exact .inr last
      · rw [if_neg isEmpty, if_neg isEmpty]
        exact .inl ⟨_, after.matcher, span.stop, after.trace, spans,
          List.append_ne_nil_of_right_ne_nil _ (List.cons_ne_nil _ _), rfl, isText', rest,
          Nat.lt_succ_self _, by rw [List.append_assoc, List.singleton_append]⟩

/-! ### Until the end -/

theorem advance_run (matcher : Matcher σ) (index : Int) (stream : PieceStream σ)
    (trace : Trace σ) :
    ((advance matcher index).run stream).run trace =
      match (searchPiece matcher (matchLimit + matcher.text.length) 0 index).run trace with
      | (.ok (ready, found, index, isSearched), after) =>
          ((handOut found ready index isSearched).run stream).run after
      | (.error fault, after) => ((.error fault, ended), (matcher.close.run after).2) := by
  rw [advance, Streaming.run_bind, run_ofWork, Work.run_onFailure]
  rcases (searchPiece matcher (matchLimit + matcher.text.length) 0 index).run trace with
    ⟨outcome, after⟩
  cases outcome <;> rfl

theorem next_run_advance (pattern : Pattern σ) (matcher : Matcher σ) (index : Int)
    (trace : Trace σ) :
    ((next pattern).run (running matcher [] index false)).run trace =
      ((advance matcher index).run (running matcher [] index false)).run trace :=
  rfl

/-- What a search for a piece leads to is handed out like what was ready before. -/
theorem handOut_run (pattern : Pattern σ) (matcher : Matcher σ) {ready : List Text} (index : Int)
    {isSearched : Bool} (isDue : ready ≠ [] ∨ isSearched = true) (stream : PieceStream σ)
    (trace : Trace σ) :
    ((handOut matcher ready index isSearched).run stream).run trace =
      ((next pattern).run (running matcher ready index isSearched)).run trace := by
  cases ready with
  | cons piece ready => rfl
  | nil =>
      obtain rfl := isDue.resolve_left (fun isReady => isReady rfl)
      change _ = ((handOut matcher [] index true).run (running matcher [] index true)).run trace
      rw [handOut_nil_run, handOut_nil_run]

/-- A text with units is searched by a matcher of the stream's own. -/
theorem next_run_of_nonempty (pattern : Pattern σ) {text : Text} (isNonempty : text ≠ [])
    (trace : Trace σ) :
    ((next pattern).run (notStarted text)).run trace =
      match (Matcher.create pattern text {}).run trace with
      | (.ok matcher, made) => ((advance matcher 0).run (notStarted text)).run made
      | (.error fault, made) => ((.error fault, ended), made) := by
  change ((((if text.isEmpty then (do set (ended : PieceStream σ); return some text)
    else (do
      let matcher ← ofWork (Matcher.create pattern text {})
      advance matcher 0)) : Streaming σ (Option Text)).run _).run trace) = _
  rw [if_neg (fun isEmpty => isNonempty (List.isEmpty_iff.mp isEmpty)), Streaming.run_bind,
    run_ofWork]
  rcases (Matcher.create pattern text {}).run trace with ⟨outcome, made⟩
  cases outcome <;> rfl

/-- A stream takes its first step like one that has its matcher already. -/
theorem next_run_notStarted {pattern : Pattern σ} (isOpen : pattern.isClosed = false) {text : Text}
    (isNonempty : text ≠ []) (trace : Trace σ) :
    ((next pattern).run (notStarted text)).run trace =
      ((next pattern).run (running (pattern.started text trace).matcher [] 0 false)).run
        (pattern.started text trace).trace := by
  rw [next_run_of_nonempty pattern isNonempty, Pattern.create_run_of_isOpen isOpen,
    next_run_advance]
  dsimp only
  rw [advance_run, advance_run]
  rcases (searchPiece _ _ 0 0).run _ with ⟨outcome, after⟩
  cases outcome with
  | error fault => rfl
  | ok searched =>
      rcases searched with ⟨ready, found, index, isSearched⟩
      cases ready with
      | cons piece ready => rfl
      | nil => exact (handOut_nil_run ..).trans (handOut_nil_run ..).symm

/-- The pieces that are left, by what the next step comes to. -/
theorem rest_run (pattern : Pattern σ) (count : Nat) (stream : PieceStream σ) (trace : Trace σ) :
    (((rest pattern (count + 1)).run stream).run trace).1.1 =
      match ((next pattern).run stream).run trace with
      | ((.ok (some piece), stream), trace) =>
          (((rest pattern count).run stream).run trace).1.1.map (piece :: ·)
      | ((.ok none, _), _) => .ok []
      | ((.error fault, _), _) => .error fault := by
  rw [rest, Streaming.run_bind]
  rcases ((next pattern).run stream).run trace with ⟨⟨outcome, stream'⟩, trace'⟩
  cases outcome with
  | error fault => rfl
  | ok piece? =>
      cases piece? with
      | none => rfl
      | some piece =>
          dsimp only
          rw [Streaming.run_bind]
          rcases ((rest pattern count).run stream').run trace' with ⟨⟨outcome, stream''⟩, trace''⟩
          cases outcome <;> rfl

theorem rest_run_ready (pattern : Pattern σ) (matcher : Matcher σ) (piece : Text)
    (ready : List Text) (index : Int) (isSearched : Bool) (trace : Trace σ) (count : Nat) :
    (((rest pattern (count + 1)).run (running matcher (piece :: ready) index isSearched)).run
        trace).1.1 =
      (((rest pattern count).run (running matcher ready index isSearched)).run trace).1.1.map
        (piece :: ·) :=
  rest_run pattern count _ trace

/-- What a search has led to is left like what was ready before. -/
theorem rest_run_advance (pattern : Pattern σ) {matcher found : Matcher σ} {index index' : Int}
    {trace after : Trace σ} {ready : List Text} {isSearched : Bool}
    (run : (searchPiece matcher (matchLimit + matcher.text.length) 0 index).run trace =
      (.ok (ready, found, index', isSearched), after))
    (isDue : ready ≠ [] ∨ isSearched = true) (count : Nat) :
    (((rest pattern (count + 1)).run (running matcher [] index false)).run trace).1.1 =
      (((rest pattern (count + 1)).run (running found ready index' isSearched)).run
        after).1.1 := by
  rw [rest_run, rest_run, next_run_advance, advance_run, run]
  dsimp only
  rw [handOut_run pattern found index' isDue]

/-- When the text has been searched, the pieces that are ready are the ones that are left. -/
theorem rest_run_searched (pattern : Pattern σ) (matcher : Matcher σ) (ready : List Text)
    (index : Int) (trace : Trace σ) {count : Nat} (enough : ready.length < count) :
    (((rest pattern count).run (running matcher ready index true)).run trace).1.1 = .ok ready := by
  induction count generalizing ready with
  | zero => exact absurd enough (Nat.not_lt_zero _)
  | succ count ih =>
      cases ready with
      | nil =>
          rw [rest_run,
            ← handOut_run pattern matcher index (.inr rfl) (running matcher [] index true),
            handOut_nil_run]
      | cons piece ready =>
          rw [rest_run_ready, ih ready (Nat.lt_of_succ_lt_succ enough)]
          rfl

/-- The pieces that are left are the ones that are ready and those that the spans to be found
lead to. -/
theorem rest_run_of_finds (pattern : Pattern σ) {text : Text} {matcher : Matcher σ}
    {trace : Trace σ} {spans : List Span} {ending : Except Fault Unit}
    (finds : Finds ⟨matcher, trace⟩ spans ending) (isText : matcher.text = text)
    (few : spans.length < matchLimit + text.length) (ready : List Text) (index : Int)
    {count : Nat} (enough : (ready ++ yielded text 0 index spans).length < count) :
    (((rest pattern count).run (running matcher ready index false)).run trace).1.1 =
      ending.map fun _ => ready ++ yielded text 0 index spans := by
  induction count generalizing matcher trace spans ready index with
  | zero => exact absurd enough (Nat.not_lt_zero _)
  | succ count ih =>
      cases ready with
      | cons piece ready =>
          rw [rest_run_ready, ih finds isText few ready index (Nat.lt_of_succ_lt_succ enough)]
          cases ending <;> rfl
      | nil =>
          rcases searchPiece_run_of_finds finds isText 0 index few with
            ⟨ready, found, index', after, later, isReady, run, isText', finds', less, yields⟩ |
            ⟨found, index', after, rfl, run⟩ | ⟨fault, after, rfl, run⟩
          · rw [← isText] at run
            rw [yields, List.nil_append] at enough ⊢
            rw [rest_run_advance pattern run (.inl isReady)]
            cases ready with
            | nil => exact absurd rfl isReady
            | cons piece ready =>
                rw [rest_run_ready, ih finds' isText' (Nat.lt_trans less few) ready index'
                  (Nat.lt_of_succ_lt_succ enough)]
                cases ending <;> rfl
          · rw [← isText] at run
            rw [rest_run_advance pattern run (.inr rfl), rest_run_searched]
            · rw [isText]
              rfl
            · rw [isText]
              exact enough
          · rw [rest_run, next_run_advance, advance_run, isText, run]
            rfl

end PieceStream

/-! ## Both ways of splitting -/

namespace Pattern

open Matcher (Finds AdvanceFrom)

variable {σ : Type}

theorem dropEmptyTail_append_replicate (pieces : List Text) (count : Nat) :
    dropEmptyTail (pieces ++ List.replicate count []) = dropEmptyTail pieces := by
  rw [dropEmptyTail, dropEmptyTail, List.reverse_append, List.reverse_replicate,
    List.dropWhile_append_of_pos]
  intro piece mem
  rw [List.eq_of_mem_replicate mem]
  rfl

theorem dropEmptyTail_concat (pieces : List Text) {piece : Text} (isNonempty : piece ≠ []) :
    dropEmptyTail (pieces ++ [piece]) = pieces ++ [piece] := by
  have stops : ¬piece.isEmpty = true := fun isEmpty => isNonempty (List.isEmpty_iff.mp isEmpty)
  rw [dropEmptyTail, List.reverse_append, List.reverse_singleton, List.singleton_append,
    List.dropWhile_cons_of_neg stops, List.reverse_cons, List.reverse_reverse]

/-- What is complete when the searching ends: the pieces that were handed out, the empty ones that
are held back, and the text behind the last match. -/
theorem complete_eq_yielded {text : Text} (isNonempty : text ≠ []) {emitted : List Text}
    (held : Nat) {index : Int} (atStart : index = 0 → emitted = [] ∧ held = 0)
    (isFull : dropEmptyTail emitted = emitted) :
    Pieces.complete ⟨emitted ++ List.replicate held [], index⟩ {} text =
      emitted ++ PieceStream.yielded text held index [] := by
  rw [Pieces.complete, PieceStream.yielded]
  dsimp only
  by_cases isStart : index = 0
  · obtain ⟨rfl, rfl⟩ := atStart isStart
    subst isStart
    have whole : text.sliceFrom 0 = text := by simp [Text.sliceFrom, Text.clampOffset]
    rw [if_pos rfl, whole, if_neg (fun isEmpty => isNonempty (List.isEmpty_iff.mp isEmpty))]
    rfl
  · rw [if_neg isStart, if_pos (by decide)]
    by_cases isEmpty : (text.sliceFrom index).isEmpty = true
    · have same : text.sliceFrom index = [] := List.isEmpty_iff.mp isEmpty
      rw [if_pos isEmpty, same, List.append_assoc, ← List.replicate_succ',
        dropEmptyTail_append_replicate, isFull, List.append_nil]
    · have isRest : text.sliceFrom index ≠ [] := fun same => isEmpty (List.isEmpty_iff.mpr same)
      rw [if_neg isEmpty, dropEmptyTail_concat _ isRest, List.append_assoc]

/-- Collecting all pieces and dropping the empty ones at the end comes to what holding empty pieces
back comes to. -/
theorem map_complete_collectSpans {text : Text} (isNonempty : text ≠ [])
    (ending : Except Fault Unit) (splits : Nat) {emitted : List Text} (held : Nat) {index : Int}
    {spans : List Span} (nonneg : 0 ≤ index) (advance : AdvanceFrom index spans)
    (atStart : index = 0 → emitted = [] ∧ held = 0) (isFull : dropEmptyTail emitted = emitted) :
    (collectSpans {} text ending splits ⟨emitted ++ List.replicate held [], index⟩ spans).map
        (·.complete {} text) =
      ending.map fun _ => emitted ++ PieceStream.yielded text held index spans := by
  induction spans generalizing splits emitted held index with
  | nil =>
      rw [collectSpans]
      cases ending with
      | error fault => rfl
      | ok value => exact congrArg Except.ok (complete_eq_yielded isNonempty held atStart isFull)
  | cons span spans ih =>
      obtain ⟨leStart, ordered, later⟩ := advance
      have stopNonneg : 0 ≤ span.stop := Int.le_trans nonneg (Int.le_trans leStart ordered)
      have allows : ({} : SplitRule).allows splits = true := rfl
      rw [collectSpans, allows, PieceStream.yielded]
      simp only [Bool.not_true, Bool.false_eq_true, if_false, Bool.and_eq_true, decide_eq_true_eq]
      -- An empty piece is held back; any other one is emitted with those held back before it.
      by_cases isEmpty : (text.slice index span.start).isEmpty = true
      · have isPiece : text.slice index span.start = [] := List.isEmpty_iff.mp isEmpty
        rw [if_pos isEmpty]
        by_cases atEdge : span.stop = 0
        · -- Nothing but empty matches at the start has been found so far.
          obtain rfl : index = 0 := by omega
          obtain ⟨rfl, rfl⟩ := atStart rfl
          rw [if_pos ⟨⟨rfl, by omega⟩, atEdge⟩, atEdge]
          exact ih splits 0 (Int.le_refl 0) (atEdge ▸ later) (fun _ => ⟨rfl, rfl⟩) rfl
        · have positive : 0 < span.stop := by omega
          rw [if_neg (fun atStart => atEdge atStart.2), if_pos positive, isPiece,
            List.append_assoc, ← List.replicate_succ']
          exact ih (splits + 1) (held + 1) stopNonneg later (fun isStart => absurd isStart atEdge)
            isFull
      · have isPiece : text.slice index span.start ≠ [] :=
          fun same => isEmpty (List.isEmpty_iff.mpr same)
        have isBehind : index < span.start := by
          apply Int.lt_of_not_ge
          intro le
          exact isPiece (text.slice_eq_nil (Int.le_trans nonneg leStart) le)
        rw [if_neg isEmpty, if_neg (by omega)]
        have rest := ih (splits + 1) 0 stopNonneg later (fun isStart => absurd isStart (by omega))
          (dropEmptyTail_concat (emitted ++ List.replicate held []) isPiece)
        rw [List.replicate_zero, List.append_nil] at rest
        rw [rest]
        simp only [List.append_assoc, List.singleton_append]

/-- A text without units has no matches but empty ones at its start. -/
theorem collectSpans_nil (ending : Except Fault Unit) (splits : Nat) {spans : List Span}
    (advance : AdvanceFrom 0 spans) (inside : ∀ span ∈ spans, span.stop ≤ 0) :
    collectSpans {} [] ending splits ⟨[], 0⟩ spans = ending.map fun _ => ⟨[], 0⟩ := by
  induction spans with
  | nil => rfl
  | cons span spans ih =>
      obtain ⟨leStart, ordered, later⟩ := advance
      have stop := inside span List.mem_cons_self
      obtain ⟨isStart, isStop⟩ : span.start = 0 ∧ span.stop = 0 := by omega
      have allows : ({} : SplitRule).allows splits = true := rfl
      rw [collectSpans, allows, isStart, isStop]
      exact ih (isStop ▸ later) fun other mem => inside other (List.mem_cons_of_mem span mem)

/-- Each match leads to one more piece at most. -/
theorem length_yielded_le (text : Text) (held : Nat) (index : Int) (spans : List Span) :
    (PieceStream.yielded text held index spans).length ≤ held + spans.length + 1 := by
  induction spans generalizing held index with
  | nil =>
      rw [PieceStream.yielded]
      split
      · exact Nat.zero_le _
      · simp
  | cons span spans ih =>
      rw [PieceStream.yielded]
      split
      · have bound := ih (if 0 < span.stop then held + 1 else held) span.stop
        have oneMore : (if 0 < span.stop then held + 1 else held) ≤ held + 1 := by
          split <;> omega
        rw [List.length_cons]
        omega
      · have bound := ih 0 span.stop
        simp only [List.length_append, List.length_replicate, List.length_cons]
        omega

variable {usable : σ → Prop} {answer : MatchFunction} {pattern : Pattern σ}

theorem split_run_of_isClosed (isClosed : pattern.isClosed = true) (text : Text) (rule : SplitRule)
    (trace : Trace σ) : ((pattern.split text rule).run trace).1 = .error .patternClosed := by
  rw [split, Work.run_bind, withMatcher, Work.run_bind, Matcher.create_run, if_pos isClosed]

theorem pieces_run (pattern : Pattern σ) (text : Text) (trace : Trace σ) :
    ((pattern.pieces text).run trace).1 =
      (((PieceStream.rest pattern (matchLimit + text.length)).run (.notStarted text)).run
        trace).1.1 :=
  rfl

/-- A text without units is its only piece, and is not searched. -/
theorem pieces_nil_run (pattern : Pattern σ) (trace : Trace σ) :
    ((pattern.pieces []).run trace).1 = .ok [[]] := by
  rw [pieces_run, show matchLimit + ([] : Text).length = matchLimit - 2 + 1 + 1 from rfl,
    PieceStream.rest_run]
  change (((PieceStream.rest pattern (matchLimit - 2 + 1)).run .ended).run trace).1.1.map _ = _
  rw [PieceStream.rest_run]
  rfl

/-- The first step of the search for pieces counts as one turn. -/
theorem exists_turns (text : Text) : ∃ turns, matchLimit + text.length = turns + 1 :=
  Nat.exists_eq_add_of_le' (Nat.le_trans (by decide : 1 ≤ matchLimit) (Nat.le_add_right _ _))

theorem pieces_run_of_isClosed (isClosed : pattern.isClosed = true) {text : Text}
    (isNonempty : text ≠ []) (trace : Trace σ) :
    ((pattern.pieces text).run trace).1 = .error .patternClosed := by
  obtain ⟨turns, isTurns⟩ := exists_turns text
  rw [pieces_run, isTurns, PieceStream.rest_run,
    PieceStream.next_run_of_nonempty pattern isNonempty, Matcher.create_run, if_pos isClosed]

/-- Splitting piece by piece comes to the pieces that are handed out at the spans that successive
searches find. -/
theorem pieces_run_of_finds (isOpen : pattern.isClosed = false) {text : Text}
    (isNonempty : text ≠ []) (trace : Trace σ) {spans : List Span} {ending : Except Fault Unit}
    (finds : Finds (pattern.started text trace) spans ending)
    (few : spans.length + 1 < matchLimit + text.length) :
    ((pattern.pieces text).run trace).1 =
      ending.map fun _ => PieceStream.yielded text 0 0 spans := by
  obtain ⟨turns, isTurns⟩ := exists_turns text
  have atMost := length_yielded_le text 0 0 spans
  have isText : (pattern.started text trace).matcher.text = text := rfl
  have rest := PieceStream.rest_run_of_finds pattern finds isText (Nat.lt_of_succ_lt few) [] 0
    (Nat.lt_of_le_of_lt (by simpa using atMost) few)
  rw [isTurns] at rest
  rw [pieces_run, isTurns, PieceStream.rest_run, PieceStream.next_run_notStarted isOpen isNonempty,
    ← PieceStream.rest_run]
  exact rest

end Pattern

end RegexMatching
