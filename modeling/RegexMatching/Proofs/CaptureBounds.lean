import RegexMatching.Proofs.EmptyPattern
import RegexMatching.Proofs.Reachable

/-!
# Captures lie in the region

As long as engines keep to code points, a match that a matcher holds has a span for
every group, and each span that is set lies in the region and cuts no pair.  Every
step of a searching operation preserves this, and every change either keeps the
match with all that it depends on or drops it.
-/

namespace RegexMatching

open Utf8 (bytesBefore)

/-! ## Engines that keep to code points -/

/-- A pattern whose engine reports code point boundaries, and as many groups as the
pattern has, whenever it is usable. -/
structure Pattern.KeepsToPoints {σ : Type} (usable : σ → Prop) (pattern : Pattern σ) : Prop where
  isPlain : pattern.canonicalEquivalence = false
  /-- A match call leaves the engines usable. -/
  exchange_usable : ∀ request engines, usable engines →
    usable ((pattern.adapter.engine.exchange request).run engines).2
  /-- A match on a text has its groups at code point boundaries and in order. -/
  report_fits : ∀ (anchoring : Anchoring) (text : Text) (start : Nat) (options : Int)
    (stack : Handle) (engines : σ) (report : Report), usable engines →
    Utf8.IsBoundary (Utf8.encode text) start →
    ((pattern.adapter.engine.exchange
      ⟨(pattern.variants.variant anchoring).handle, Utf8.encode text, start, options,
        stack⟩).run engines).1 = .ok report →
    report.isMatch = true →
    report.CutsNoPoint (Utf8.encode text) ∧ report.IsOrdered ∧
      report.groupCount = pattern.groupCount

/-! ## Spans in a region -/

/-- A span is unset, or it lies between two offsets of a text and cuts no pair. -/
def Span.Fits (text : Text) (start stop : Nat) (span : Span) : Prop :=
  span = .unset ∨ ∃ first last : Nat, span = ⟨first, last⟩ ∧ start ≤ first ∧ first ≤ last ∧
    last ≤ stop ∧ text.IsBoundary first ∧ text.IsBoundary last

namespace Matcher

variable {σ : Type} {usable : σ → Prop} {allowed : Pattern σ → Prop}

/-- A state that holds a match has a fitting span for every group. -/
def StateFits (matcher : Matcher σ) (state : MatchState) : Prop :=
  ∀ spans mark, state = .found spans mark →
    spans.length = matcher.pattern.groupCount + 1 ∧
      ∀ span ∈ spans, span.Fits matcher.text matcher.regionStart matcher.regionEnd

/-! ## What an attempt finds -/

section Attempt

variable {matcher : Matcher σ} (consistent : matcher.Consistent)

include consistent

/-- A group at code point boundaries and in order has a fitting span. -/
theorem Consistent.fits_unitSpan (isPlain : matcher.pattern.canonicalEquivalence = false)
    (ordered : matcher.viewStart ≤ matcher.viewEnd) {report : Report} {group : Nat}
    (placed : ∀ first last, report.set? group = some (first, last) →
      (Utf8.IsBoundary (Utf8.encode matcher.viewText) first ∧
        Utf8.IsBoundary (Utf8.encode matcher.viewText) last) ∧ first ≤ last) :
    ((report.unitSpan matcher.viewText group).shift matcher.viewStart).Fits matcher.text
      matcher.regionStart matcher.regionEnd := by
  unfold Report.unitSpan
  cases isSet : report.set? group with
  | none => exact .inl rfl
  | some pair =>
      rcases pair with ⟨first, last⟩
      rcases placed first last isSet with ⟨⟨atFirst, atLast⟩, le⟩
      obtain ⟨first', startLe, -⟩ :=
        consistent.isBoundary_add isPlain ordered (Text.isBoundary_indexAt atFirst).1
      obtain ⟨last', -, leEnd⟩ :=
        consistent.isBoundary_add isPlain ordered (Text.isBoundary_indexAt atLast).1
      have indexLe := Text.indexAt_le atFirst atLast le
      exact .inr ⟨_, _, Span.shift_natCast _ _ _, startLe, Nat.add_le_add_left indexLe _, leEnd,
        first', last'⟩

/-- A match that an attempt finds fits. -/
theorem attempt_fits (keeps : matcher.pattern.KeepsToPoints usable) {start : Nat}
    (inside : start ≤ matcher.text.length) {anchoring : Anchoring} {trace : Trace σ}
    (isUsable : usable trace.engines) {state : MatchState}
    (attempted : ((matcher.attempt matcher.seenView start anchoring).run trace).1 = .ok state) :
    matcher.StateFits state := by
  intro spans mark isFound
  subst isFound
  obtain ⟨place, report, starts, exchanged, isMatch, translated, -⟩ :=
    consistent.exists_report_of_attempt inside attempted
  have ordered := viewStart_le_viewEnd starts
  have atPlace := Utf8.isBoundary_bytesBefore (consistent.isBoundary_of_placeOf? inside starts)
  obtain ⟨cutsNoPoint, isOrdered, groupCount⟩ :=
    keeps.report_fits anchoring _ _ _ _ _ report isUsable atPlace exchanged isMatch
  rw [consistent.subjectSpans_captures keeps.isPlain ordered cutsNoPoint,
    Except.ok.injEq] at translated
  subst translated
  constructor
  · rw [List.length_map, report.length_unitSpans, groupCount]
  · intro span mem
    rcases List.mem_map.mp mem with ⟨unitSpan, unitMem, rfl⟩
    rcases List.mem_map.mp unitMem with ⟨group, -, rfl⟩
    apply consistent.fits_unitSpan keeps.isPlain ordered
    intro first last isSet
    exact ⟨cutsNoPoint group first last isSet, isOrdered group first last isSet⟩

end Attempt

/-! ## Searches -/

/-- A search leaves the engines usable and a fitting state fitting. -/
theorem search_stateFits {configuration : Configuration σ}
    (consistent : configuration.matcher.Consistent)
    (keeps : configuration.matcher.pattern.KeepsToPoints usable) {start : Nat}
    (inside : start ≤ configuration.matcher.text.length) (anchoring : Anchoring)
    (isUsable : usable configuration.trace.engines)
    (fits : configuration.matcher.StateFits configuration.matcher.state) :
    ((search start anchoring).exec configuration).2.matcher.StateFits
        ((search start anchoring).exec configuration).2.matcher.state ∧
      usable ((search start anchoring).exec configuration).2.trace.engines := by
  refine ⟨?_, search_usable consistent keeps.exchange_usable start anchoring isUsable⟩
  rw [search_exec consistent]
  dsimp only
  cases attempted : ((configuration.matcher.seen.attempt configuration.matcher.seen.seenView start
    anchoring).run configuration.trace).1 with
  | error fault => exact fits
  | ok state =>
      have stateFits := attempt_fits consistent.seen keeps inside isUsable attempted
      cases state with
      | fresh => exact stateFits
      | noMatch isPartial => exact stateFits
      | found spans mark => exact stateFits

/-- Whatever match a reachable matcher holds, it fits. -/
theorem Reachable.stateFits (keeps : ∀ pattern, allowed pattern → pattern.KeepsToPoints usable)
    {matcher : Matcher σ} (reached : matcher.Reachable allowed usable) :
    matcher.StateFits matcher.state := by
  apply reached.held_induction fun matcher => matcher.StateFits matcher.state
  · exact fun unfound spans mark isFound => absurd isFound (unfound spans mark)
  · intro matcher other same fits spans mark isFound
    rw [same.state] at isFound
    rw [same.pattern, same.text, same.regionStart, same.regionEnd]
    exact fits spans mark isFound
  · exact fun anchoring consistent isAllowed inside isUsable fits =>
      search_stateFits consistent (keeps _ isAllowed) inside anchoring isUsable fits

/-! ## Captures of reachable matchers -/

/-- Starts and ends of spans, in turn. -/
def indexList (spans : List Span) : List Int :=
  spans.flatMap fun span => [span.start, span.stop]

theorem length_indexList (spans : List Span) : (indexList spans).length = 2 * spans.length := by
  induction spans with
  | nil => rfl
  | cons span rest ih =>
      rw [indexList, List.flatMap_cons, List.length_append, ← indexList, ih, List.length_cons]
      exact Nat.add_comm _ _

/-- The region of a reachable matcher lies in its text.  A match that it holds has a
start and an end for every group, and each group is either unset or lies in the region
and cuts no pair. -/
theorem captures_of_reachable (keeps : ∀ pattern, allowed pattern → pattern.KeepsToPoints usable)
    {matcher : Matcher σ} (reached : matcher.Reachable allowed usable) :
    matcher.regionStart ≤ matcher.regionEnd ∧ matcher.regionEnd ≤ matcher.text.length ∧
    ∀ spans mark, matcher.state = .found spans mark →
      (indexList spans).length = 2 * (matcher.pattern.groupCount + 1) ∧
      ∀ group ≤ matcher.pattern.groupCount,
        (spans[group]? = some ⟨-1, -1⟩ ∧
          ∀ ref : GroupRef, ref.index matcher.pattern.groupCount matcher.pattern.names = .ok group →
            matcher.snapshot.group ref = .ok none) ∨
        ∃ first last : Nat, spans[group]? = some ⟨first, last⟩ ∧
          matcher.regionStart ≤ first ∧ first ≤ last ∧ last ≤ matcher.regionEnd ∧
          matcher.text.IsBoundary first ∧ matcher.text.IsBoundary last ∧
          ∀ ref : GroupRef, ref.index matcher.pattern.groupCount matcher.pattern.names = .ok group →
            matcher.snapshot.group ref = .ok (some (matcher.text.slice first last)) := by
  have consistent := reached.consistent.1
  refine ⟨consistent.region_le, consistent.regionEnd_le, fun spans mark isFound => ?_⟩
  rcases reached.stateFits keeps spans mark isFound with ⟨length, fit⟩
  constructor
  · rw [length_indexList, length]
  · intro group inGroups
    have isIndex : group < spans.length := by
      rw [length]
      exact Nat.lt_succ_of_le inGroups
    have entry := List.getElem?_eq_getElem isIndex
    have captured : ∀ ref : GroupRef,
        ref.index matcher.pattern.groupCount matcher.pattern.names = .ok group →
        matcher.snapshot.group ref = .ok (spans[group].text? matcher.text) := by
      intro ref resolved
      simp only [Snapshot.group, Snapshot.span, snapshot, isFound, resolved, Except.map, entry]
    rcases fit _ (List.getElem_mem isIndex) with isUnset |
      ⟨first, last, isSet, startLe, ordered, leEnd, atFirst, atLast⟩
    · rw [isUnset] at captured entry
      exact .inl ⟨entry, captured⟩
    · rw [isSet] at captured entry
      exact .inr ⟨first, last, entry, startLe, ordered, leEnd, atFirst, atLast, captured⟩

/-- The engine for the empty pattern keeps to code points. -/
theorem keepsToPoints_ofEmptyPattern :
    Pattern.KeepsToPoints (fun _ => True) .ofEmptyPattern where
  isPlain := rfl
  exchange_usable := fun _ _ _ => trivial
  report_fits := by
    intro anchoring text start options stack engines report _ _ exchanged _
    have reported : Except.ok _ = Except.ok report :=
      (congrArg Prod.fst (Engine.exchange_ofEmptyPattern _ engines)).symm.trans exchanged
    obtain rfl := Except.ok.inj reported
    refine ⟨?_, ?_, ?_⟩
    · intro group first last isSet
      rcases emptyReport_set? isSet with ⟨-, rfl, rfl, boundary⟩
      exact ⟨boundary, boundary⟩
    · intro group first last isSet
      rcases emptyReport_set? isSet with ⟨-, rfl, rfl, -⟩
      exact Nat.le_refl _
    · exact groupCount_emptyReport _ _ _

theorem captures_of_empty_match :
    let matcher := ((perform .find).exec
      ⟨initial .ofEmptyPattern [0xD83D, 0xDE00] true 0, ⟨0, []⟩⟩).2.matcher
    matcher.hasMatch = true ∧ ∀ spans mark, matcher.state = .found spans mark →
      (indexList spans).length = 2 * (matcher.pattern.groupCount + 1) := by
  have isCreated : (create .ofEmptyPattern [0xD83D, 0xDE00] {}).run ⟨0, []⟩ =
      (.ok (initial .ofEmptyPattern [0xD83D, 0xDE00] true 0), ⟨0, []⟩) := rfl
  have reached : (initial .ofEmptyPattern [0xD83D, 0xDE00] true 0).Reachable
      (· = Pattern.ofEmptyPattern) fun _ => True := .created rfl trivial isCreated
  have keeps : ∀ pattern, pattern = Pattern.ofEmptyPattern →
      pattern.KeepsToPoints fun _ => True := by
    rintro pattern rfl
    exact keepsToPoints_ofEmptyPattern
  have found : Reachable (· = Pattern.ofEmptyPattern) (fun _ => True)
      ((perform .find).exec
        ⟨initial .ofEmptyPattern [0xD83D, 0xDE00] true 0, ⟨0, []⟩⟩).2.matcher :=
    .performed reached .find trivial _ trivial
  exact ⟨by decide +kernel,
    fun spans mark isFound => ((captures_of_reachable keeps found).2.2 spans mark isFound).1⟩

end Matcher

end RegexMatching
