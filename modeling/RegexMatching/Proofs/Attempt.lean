import RegexMatching.Proofs.Exchange
import RegexMatching.Proofs.RegionView

/-!
# Attempts at a match

An attempt first settles what to ask the engine, then makes one match call, and
then takes the report back to the subject.  On a consistent matcher the first part
only fails where an engine lacks line edges, and the call asks about the part of
the text that is seen, from a boundary of that part on.
-/

namespace RegexMatching

open Utf8 (bytesBefore)

namespace Matcher

variable {σ : Type}

/-! ## Before and after the match call -/

/-- The match call of an attempt.  There is none when the start lies behind the
region. -/
def request? (matcher : Matcher σ) (view : RegionView) (start : Nat) (anchoring : Anchoring) :
    Except Fault (Option Request) :=
  let variant := matcher.pattern.variants.variant anchoring
  let options := matcher.matchOptions variant
  if (options.notBol || options.notEol) &&
      !matcher.pattern.adapter.engine.capabilities.lineBoundaryOptions then
    .error (.noLineBoundaries matcher.pattern.adapter.engine.name)
  else
    (matcher.searched.coordinates.ceilByteAt (matcher.searched.ofSubject start)).map fun byte =>
      let startByte := max byte view.byteStart
      if view.byteEnd < startByte then none
      else
        some {
          code := variant.handle
          subject := view.bytes
          start := (startByte - view.byteStart : Nat)
          options := options.toBits
          stack := matcher.stack }

/-- An attempt asks with the handles of the matcher. -/
theorem handles_of_request? {matcher : Matcher σ} {view : RegionView} {start : Nat}
    {anchoring : Anchoring} {request : Request}
    (asked : matcher.request? view start anchoring = .ok (some request)) :
    request.code = (matcher.pattern.variants.variant anchoring).handle ∧
      request.stack = matcher.stack := by
  simp only [request?] at asked
  split at asked
  · cases asked
  cases aligned : matcher.searched.coordinates.ceilByteAt (matcher.searched.ofSubject start) with
  | error fault =>
      rw [aligned] at asked
      cases asked
  | ok byte =>
      rw [aligned] at asked
      dsimp only [Except.map] at asked
      split at asked
      · cases asked
      · cases asked
        exact ⟨rfl, rfl⟩

/-- What the outcome of a match call says about the subject. -/
def stateOf (matcher : Matcher σ) (byteStart : Nat) : Outcome → Except Fault MatchState
  | .noMatch => .ok (.noMatch false)
  | .partialMatch => .ok (.noMatch true)
  | .matched captures mark =>
      (subjectSpans matcher.searched byteStart captures).map fun spans => .found spans mark

/-- A match is found by a report of one. -/
theorem exists_report_of_found {matcher : Matcher σ} {adapter : Adapter σ}
    {exchanged : Except Fault Report} {byteStart : Nat} {spans : List Span} {mark : Option Text}
    (found : (adapter.outcomeOf exchanged).bind (matcher.stateOf byteStart) =
      .ok (.found spans mark)) :
    ∃ report, exchanged = .ok report ∧ report.isMatch = true ∧
      subjectSpans matcher.searched byteStart report.captures = .ok spans ∧
      report.mark = mark := by
  cases exchanged with
  | error fault => contradiction
  | ok report =>
      unfold Adapter.outcomeOf at found
      cases isMatch : report.isMatch with
      | true =>
          simp only [isMatch, if_true, Except.bind, stateOf] at found
          cases translated : subjectSpans matcher.searched byteStart report.captures with
          | error fault =>
              rw [translated] at found
              contradiction
          | ok spans' =>
              rw [translated] at found
              cases found
              exact ⟨report, rfl, isMatch, translated, rfl⟩
      | false =>
          simp only [isMatch, Bool.false_eq_true, if_false] at found
          split at found
          · cases found
          · split at found <;> cases found

/-- An attempt makes one match call at most. -/
theorem attempt_run (matcher : Matcher σ) (view : RegionView) (start : Nat)
    (anchoring : Anchoring) (trace : Trace σ) :
    (matcher.attempt view start anchoring).run trace =
      match matcher.request? view start anchoring with
      | .error fault => (.error fault, trace)
      | .ok none => (.ok (.noMatch false), trace)
      | .ok (some request) =>
          let exchanged := (matcher.pattern.adapter.engine.exchange request).run trace.engines
          ((matcher.pattern.adapter.outcomeOf exchanged.1).bind (matcher.stateOf view.byteStart),
            { engines := exchanged.2
              events := trace.events ++ matcher.pattern.adapter.eventsOf exchanged.1 }) := by
  simp only [attempt, request?]
  by_cases unsupported :
      ((matcher.matchOptions (matcher.pattern.variants.variant anchoring)).notBol ||
          (matcher.matchOptions (matcher.pattern.variants.variant anchoring)).notEol) &&
        !matcher.pattern.adapter.engine.capabilities.lineBoundaryOptions
  · rw [if_pos unsupported, if_pos unsupported]
    rfl
  · rw [if_neg unsupported, if_neg unsupported, Work.run_bind, Work.run_ofExcept]
    cases matcher.searched.coordinates.ceilByteAt (matcher.searched.ofSubject start) with
    | error fault => rfl
    | ok byte =>
        by_cases behind : view.byteEnd < max byte view.byteStart
        · simp only [Except.map, if_pos behind]
          rfl
        · simp only [Except.map, if_neg behind, Work.run_bind]
          rw [matcher.pattern.adapter.run_run {
            code := (matcher.pattern.variants.variant anchoring).handle
            subject := view.bytes
            start := (max byte view.byteStart - view.byteStart : Nat)
            options := (matcher.matchOptions (matcher.pattern.variants.variant anchoring)).toBits
            stack := matcher.stack }]
          simp only
          generalize (matcher.pattern.adapter.engine.exchange _).run trace.engines = exchanged
          cases matcher.pattern.adapter.outcomeOf exchanged.1 with
          | error fault => rfl
          | ok outcome =>
              cases outcome with
              | noMatch => rfl
              | partialMatch => rfl
              | matched captures mark =>
                  simp only [Except.bind, stateOf, Work.run_bind, Work.run_ofExcept]
                  cases subjectSpans matcher.searched view.byteStart captures <;> rfl

/-- An attempt leaves the engines usable where every match call does. -/
theorem attempt_usable {usable : σ → Prop} {matcher : Matcher σ}
    (keeps : ∀ request engines, usable engines →
      usable ((matcher.pattern.adapter.engine.exchange request).run engines).2)
    (view : RegionView) (start : Nat) (anchoring : Anchoring) {trace : Trace σ}
    (isUsable : usable trace.engines) :
    usable ((matcher.attempt view start anchoring).run trace).2.engines := by
  rw [attempt_run]
  cases matcher.request? view start anchoring with
  | error fault => exact isUsable
  | ok request? =>
      cases request? with
      | none => exact isUsable
      | some request => exact keeps request _ isUsable

/-! ## Attempts on consistent matchers -/

/-- Whether the region has an edge that is no edge of a line, and the engine has no
way of saying so. -/
def lacksLineEdges (matcher : Matcher σ) : Bool :=
  (!matcher.anchoringBounds && 0 < matcher.regionStart ||
      !matcher.anchoringBounds && matcher.regionEnd < matcher.text.length) &&
    !matcher.pattern.adapter.engine.capabilities.lineBoundaryOptions

/-- Where an attempt from an offset of the subject starts in the text that is seen.
There is no such place when the offset lies in a pair that closes the region. -/
def placeOf? (matcher : Matcher σ) (start : Nat) : Option Nat :=
  let place :=
    max (matcher.searchedText.ceilIndex (matcher.searched.ofSubject start)) matcher.viewStart
  if matcher.viewEnd < place then none else some (place - matcher.viewStart)

/-- A region in which an attempt starts has not lost all its code points to its edges. -/
theorem viewStart_le_viewEnd {matcher : Matcher σ} {start place : Nat}
    (starts : matcher.placeOf? start = some place) : matcher.viewStart ≤ matcher.viewEnd := by
  simp only [placeOf?] at starts
  split at starts
  · contradiction
  · next notBehind =>
      exact Nat.le_trans (Nat.le_max_right _ _) (Nat.not_lt.mp notBehind)

/-- The match call of an attempt that starts at a place of the text that is seen. -/
def requestAt (matcher : Matcher σ) (place : Nat) (anchoring : Anchoring) : Request where
  code := (matcher.pattern.variants.variant anchoring).handle
  subject := Utf8.encode matcher.viewText
  start := bytesBefore matcher.viewText place
  options := (matcher.matchOptions (matcher.pattern.variants.variant anchoring)).toBits
  stack := matcher.stack

namespace Consistent

variable {matcher : Matcher σ} (consistent : matcher.Consistent)

include consistent

/-- Where an attempt starts in the searched text is a boundary. -/
theorem isBoundary_max {start : Nat} (inside : start ≤ matcher.text.length) :
    matcher.searchedText.IsBoundary
      (max (matcher.searchedText.ceilIndex (matcher.searched.ofSubject start))
        matcher.viewStart) :=
  (Text.isBoundary_ceilIndex (consistent.ofSubject_le inside)).max consistent.isBoundary_viewStart

/-- An attempt starts at a boundary of the text that is seen. -/
theorem isBoundary_of_placeOf? {start place : Nat} (inside : start ≤ matcher.text.length)
    (starts : matcher.placeOf? start = some place) : matcher.viewText.IsBoundary place := by
  have atMax := consistent.isBoundary_max inside
  have le : matcher.viewStart ≤
      max (matcher.searchedText.ceilIndex (matcher.searched.ofSubject start)) matcher.viewStart :=
    Nat.le_max_right _ _
  simp only [placeOf?] at starts
  generalize max (matcher.searchedText.ceilIndex (matcher.searched.ofSubject start))
    matcher.viewStart = index at atMax le starts
  split at starts
  · contradiction
  · next notBehind =>
      rcases Nat.exists_eq_add_of_le le with ⟨distance, rfl⟩
      rw [Nat.add_sub_cancel_left, Option.some.injEq] at starts
      subst starts
      exact (Text.isBoundary_between_iff consistent.isBoundary_viewStart
        consistent.isBoundary_viewEnd (Nat.not_lt.mp notBehind)).mpr atMax

/-- What an attempt asks the engine. -/
theorem request?_eq {start : Nat} (inside : start ≤ matcher.text.length) (anchoring : Anchoring) :
    matcher.request? matcher.seenView start anchoring =
      if matcher.lacksLineEdges then
        .error (.noLineBoundaries matcher.pattern.adapter.engine.name)
      else
        .ok ((matcher.placeOf? start).map fun place => matcher.requestAt place anchoring) := by
  have atStart := consistent.isBoundary_viewStart
  have atEnd := consistent.isBoundary_viewEnd
  have atCeil := Text.isBoundary_ceilIndex (consistent.ofSubject_le inside)
  have atMax := consistent.isBoundary_max inside
  have le : matcher.viewStart ≤
      max (matcher.searchedText.ceilIndex (matcher.searched.ofSubject start)) matcher.viewStart :=
    Nat.le_max_right _ _
  rw [request?, consistent.coordinates,
    Coordinates.ceilByteAt_ofText _ (consistent.ofSubject_le inside)]
  apply ite_congr rfl (fun _ => rfl)
  intro _
  simp only [Except.map, seenView, placeOf?, Utf8.max_bytesBefore atCeil atStart]
  generalize max (matcher.searchedText.ceilIndex (matcher.searched.ofSubject start))
    matcher.viewStart = index at atMax le
  simp only [Utf8.bytesBefore_lt_iff atEnd atMax]
  split
  · rfl
  · next notBehind =>
      rcases Nat.exists_eq_add_of_le le with ⟨distance, rfl⟩
      have offset := Utf8.bytesBefore_add atStart (Nat.not_lt.mp notBehind)
      simp only [offset, Nat.add_sub_cancel_left]
      rfl

/-- A consistent matcher either cannot ask, or has nothing to ask about, or asks
about the text that is seen from one place on. -/
theorem attempt_run {start : Nat} (inside : start ≤ matcher.text.length) (anchoring : Anchoring)
    (trace : Trace σ) :
    (matcher.attempt matcher.seenView start anchoring).run trace =
      if matcher.lacksLineEdges then
        (.error (.noLineBoundaries matcher.pattern.adapter.engine.name), trace)
      else
        match matcher.placeOf? start with
        | none => (.ok (.noMatch false), trace)
        | some place =>
            let exchanged :=
              (matcher.pattern.adapter.engine.exchange (matcher.requestAt place anchoring)).run
                trace.engines
            ((matcher.pattern.adapter.outcomeOf exchanged.1).bind
                (matcher.stateOf matcher.seenView.byteStart),
              { engines := exchanged.2
                events := trace.events ++ matcher.pattern.adapter.eventsOf exchanged.1 }) := by
  rw [Matcher.attempt_run, consistent.request?_eq inside]
  by_cases lacks : matcher.lacksLineEdges = true
  · rw [if_pos lacks, if_pos lacks]
  · rw [if_neg lacks, if_neg lacks]
    cases matcher.placeOf? start <;> rfl

/-- A match that an attempt finds was reported from the place where it started. -/
theorem exists_report_of_attempt {start : Nat} (inside : start ≤ matcher.text.length)
    {anchoring : Anchoring} {trace : Trace σ} {spans : List Span} {mark : Option Text}
    (found : ((matcher.attempt matcher.seenView start anchoring).run trace).1 =
      .ok (.found spans mark)) :
    ∃ place report, matcher.placeOf? start = some place ∧
      ((matcher.pattern.adapter.engine.exchange (matcher.requestAt place anchoring)).run
        trace.engines).1 = .ok report ∧ report.isMatch = true ∧
      subjectSpans matcher.searched matcher.seenView.byteStart report.captures = .ok spans ∧
      report.mark = mark := by
  rw [consistent.attempt_run inside] at found
  split at found
  · contradiction
  · cases starts : matcher.placeOf? start with
    | none =>
        rw [starts] at found
        cases found
    | some place =>
        rw [starts] at found
        obtain ⟨report, reported⟩ := exists_report_of_found found
        exact ⟨place, report, rfl, reported⟩

end Consistent

/-! ## Searches -/

/-- The matcher once it has seen its region. -/
def seen (matcher : Matcher σ) : Matcher σ :=
  { matcher with view := some matcher.seenView }

/-- How a search ends: with a match or without, or as the attempt failed. -/
def conclude (matcher : Matcher σ) (anchoring : Anchoring) :
    Except Fault MatchState → Except Fault Bool × Matcher σ
  | .ok state => (.ok (matcher.settle anchoring state).hasMatch, matcher.settle anchoring state)
  | .error fault => (.error fault, matcher)

/-- Only a failed attempt fails a search. -/
theorem eq_error_of_conclude {matcher : Matcher σ} {anchoring : Anchoring}
    {attempted : Except Fault MatchState} {fault : Fault}
    (failed : (matcher.conclude anchoring attempted).1 = .error fault) :
    attempted = .error fault := by
  cases attempted with
  | error cause =>
      cases failed
      rfl
  | ok state => cases failed

/-- Only an attempt that finds a match lets a search find one. -/
theorem exists_found_of_conclude {matcher : Matcher σ} {anchoring : Anchoring}
    {attempted : Except Fault MatchState}
    (found : (matcher.conclude anchoring attempted).1 = .ok true) :
    ∃ spans mark, attempted = .ok (.found spans mark) := by
  cases attempted with
  | error cause => cases found
  | ok state =>
      cases state with
      | fresh => cases found
      | noMatch isPartial => cases found
      | found spans mark => exact ⟨spans, mark, rfl⟩

theorem Consistent.seen {matcher : Matcher σ} (consistent : matcher.Consistent) :
    matcher.seen.Consistent where
  searched := consistent.searched
  region_le := consistent.region_le
  regionEnd_le := consistent.regionEnd_le
  view := by
    intro view mem
    rw [← Option.mem_some.mp mem]
    exact consistent.measureRegion_eq
  partialMatching := consistent.partialMatching
  isOpen := consistent.isOpen

/-- A search that can see the region makes an attempt and takes in what it came to. -/
theorem search_exec_view (start : Nat) (anchoring : Anchoring) (configuration : Configuration σ) :
    (search start anchoring).exec configuration =
      match configuration.matcher.regionView with
      | .error fault => (.error fault, configuration)
      | .ok view =>
          let matcher := { configuration.matcher with view := some view }
          let attempt := (matcher.attempt view start anchoring).run configuration.trace
          let concluded := matcher.conclude anchoring attempt.1
          (concluded.1, ⟨concluded.2, attempt.2⟩) := by
  simp only [search, Matching.exec_bind, Matching.exec_get, Matching.exec_ofWork,
    Work.run_ofExcept, Matching.exec_modify]
  cases configuration.matcher.regionView with
  | error fault => rfl
  | ok view =>
      dsimp only
      generalize (attempt { configuration.matcher with view := some view } view start
        anchoring).run configuration.trace = attempt
      rcases attempt with ⟨outcome, trace⟩
      cases outcome <;> rfl

/-- A search of a consistent matcher sees the region. -/
theorem search_exec {configuration : Configuration σ}
    (consistent : configuration.matcher.Consistent) (start : Nat) (anchoring : Anchoring) :
    (search start anchoring).exec configuration =
      let matcher := configuration.matcher.seen
      let attempt := (matcher.attempt matcher.seenView start anchoring).run configuration.trace
      let concluded := matcher.conclude anchoring attempt.1
      (concluded.1, ⟨concluded.2, attempt.2⟩) := by
  rw [search_exec_view, consistent.regionView_eq]
  rfl

/-- A search leaves the engines usable where every match call does. -/
theorem search_usable {usable : σ → Prop} {configuration : Configuration σ}
    (consistent : configuration.matcher.Consistent)
    (keeps : ∀ request engines, usable engines →
      usable ((configuration.matcher.pattern.adapter.engine.exchange request).run engines).2)
    (start : Nat) (anchoring : Anchoring) (isUsable : usable configuration.trace.engines) :
    usable ((search start anchoring).exec configuration).2.trace.engines := by
  rw [search_exec consistent]
  exact @attempt_usable σ usable configuration.matcher.seen keeps _ start anchoring _ isUsable

end Matcher

end RegexMatching
