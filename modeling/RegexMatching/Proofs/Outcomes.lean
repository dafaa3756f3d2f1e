import RegexMatching.Engine.Backtracking

/-!
# Outcomes of backtracking

What a node does with a continuation is to hand it its outcomes one after the other until
one is taken.  The outcomes do not depend on the continuation, and they stay inside the
subject.
-/

namespace RegexMatching

/-- All spans that are set lie in a subject of the given size. -/
def PointSpans.Within (size : Nat) (spans : PointSpans) : Prop :=
  ∀ first last, some (first, last) ∈ spans → first ≤ size ∧ last ≤ size

namespace Backtrack

/-- Captures of a number of groups, inside a subject. -/
structure CapturesFit (size groups : Nat) (captures : Array (Option (Nat × Nat))) : Prop where
  length : captures.size = groups
  within : PointSpans.Within size captures.toList

/-- A place inside a subject, with captures inside it. -/
structure Place.Fits (size groups : Nat) (place : Place) : Prop where
  position_le : place.position ≤ size
  captures_fit : CapturesFit size groups place.captures

/-- An action that hands its outcomes to the continuation in turn. -/
def Enumerates (size groups : Nat) (action : Action) : Prop :=
  ∀ place, place.Fits size groups → ∃ outcomes : List Place,
    (∀ outcome ∈ outcomes, outcome.Fits size groups) ∧
      ∀ next, action place next = outcomes.findSome? next

variable {size groups : Nat}

/-! ## Places -/

/-- A place with nothing captured. -/
theorem Place.fits_start {start : Nat} (groups : Nat) (inside : start ≤ size) :
    Place.Fits size groups ⟨start, Array.replicate groups none⟩ := by
  refine ⟨inside, Array.size_replicate, fun first last mem => ?_⟩
  rw [Array.toList_replicate] at mem
  cases List.eq_of_mem_replicate mem

theorem Place.Fits.moveTo {place : Place} (fits : place.Fits size groups) {position : Nat}
    (inside : position ≤ size) : Place.Fits size groups { place with position } :=
  ⟨inside, fits.captures_fit⟩

theorem CapturesFit.setIfInBounds {captures : Array (Option (Nat × Nat))}
    (fit : CapturesFit size groups captures) (index : Nat) {capture : Option (Nat × Nat)}
    (captureWithin : ∀ first last, capture = some (first, last) → first ≤ size ∧ last ≤ size) :
    CapturesFit size groups (captures.setIfInBounds index capture) := by
  refine ⟨Array.size_setIfInBounds.trans fit.length, fun first last mem => ?_⟩
  rw [Array.toList_setIfInBounds] at mem
  rcases List.mem_or_eq_of_mem_set mem with mem | same
  · exact fit.within first last mem
  · exact captureWithin first last same.symm

theorem CapturesFit.clear {captures : Array (Option (Nat × Nat))}
    (fit : CapturesFit size groups captures) (capturesBefore captureCount : Nat) :
    CapturesFit size groups (clearCaptures captures capturesBefore captureCount) := by
  unfold clearCaptures
  induction List.range captureCount generalizing captures with
  | nil => exact fit
  | cons offset rest ih =>
      exact ih (fit.setIfInBounds _ fun first last isSome => by contradiction)

/-! ## Moving over code points -/

namespace Subject

variable {subject : Subject}

theorem stepOver?_le (isForward : Bool) (test : Nat → Bool) {position after : Nat}
    (inside : position ≤ subject.points.size)
    (moved : subject.stepOver? isForward test position = some after) :
    after ≤ subject.points.size := by
  unfold stepOver? at moved
  split at moved
  · split at moved
    · next point atPosition =>
        have bound := (Array.getElem?_eq_some_iff.mp atPosition).1
        split at moved
        · exact Option.some.inj moved ▸ bound
        · contradiction
    · contradiction
  · split at moved
    · contradiction
    · split at moved
      · split at moved
        · exact Option.some.inj moved ▸ Nat.le_trans (Nat.sub_le _ _) inside
        · contradiction
      · contradiction

theorem stepOverAgain?_le (isForward : Bool) (start stop : Nat) {position after : Nat}
    (inside : position ≤ subject.points.size)
    (moved : subject.stepOverAgain? isForward start stop position = some after) :
    after ≤ subject.points.size := by
  unfold stepOverAgain? at moved
  dsimp only at moved
  split at moved
  · split at moved
    · next agrees =>
        rw [Bool.and_eq_true, decide_eq_true_eq] at agrees
        exact Option.some.inj moved ▸ agrees.1
    · contradiction
  · split at moved
    · exact Option.some.inj moved ▸ Nat.le_trans (Nat.sub_le _ _) inside
    · contradiction

end Subject

/-! ## Actions -/

/-- Outcomes of one action, each gone on with by another, are outcomes. -/
theorem exists_outcomes_bind {outcomes : List Place}
    (fit : ∀ outcome ∈ outcomes, outcome.Fits size groups) {action : Action}
    (enumerates : Enumerates size groups action) :
    ∃ others : List Place, (∀ outcome ∈ others, outcome.Fits size groups) ∧
      ∀ next, outcomes.findSome? (fun outcome => action outcome next) = others.findSome? next := by
  induction outcomes with
  | nil => exact ⟨[], fun outcome mem => by contradiction, fun next => rfl⟩
  | cons outcome rest ih =>
      rw [List.forall_mem_cons] at fit
      obtain ⟨first, firstFit, firstEq⟩ := enumerates outcome fit.1
      obtain ⟨others, othersFit, othersEq⟩ := ih fit.2
      refine ⟨first ++ others, ?_, fun next => ?_⟩
      · intro outcome mem
        rcases List.mem_append.mp mem with mem | mem
        · exact firstFit outcome mem
        · exact othersFit outcome mem
      · rw [List.findSome?_cons, firstEq, othersEq, List.findSome?_append]
        cases first.findSome? next <;> rfl

/-- An action that goes on at one place at most has that place for its outcome. -/
theorem exists_outcomes_of_option {action : Continuation → Option Place} (outcome? : Option Place)
    (fits : ∀ outcome ∈ outcome?, outcome.Fits size groups)
    (same : ∀ next, action next = outcome?.bind next) :
    ∃ outcomes : List Place, (∀ outcome ∈ outcomes, outcome.Fits size groups) ∧
      ∀ next, action next = outcomes.findSome? next := by
  refine ⟨outcome?.toList, fun outcome mem => fits outcome (Option.mem_toList.mp mem),
    fun next => ?_⟩
  rw [same]
  cases outcome? with
  | none => rfl
  | some outcome => exact (List.findSome?_singleton ..).symm

/-- Rounds of a body that enumerates its outcomes enumerate theirs.  The induction is on the
number of rounds left. -/
theorem enumerates_repeatBody {body : Action} (enumerates : Enumerates size groups body)
    (isGreedy : Bool) {clear : Array (Option (Nat × Nat)) → Array (Option (Nat × Nat))}
    (clears : ∀ captures : Array (Option (Nat × Nat)),
      CapturesFit size groups captures → CapturesFit size groups (clear captures))
    (fuel least : Nat) (most : Option Nat) :
    Enumerates size groups (repeatBody body isGreedy clear fuel least most) := by
  induction fuel generalizing least most with
  | zero => exact fun place fits => ⟨[], fun outcome mem => by contradiction, fun next => rfl⟩
  | succ fuel ih =>
      intro place fits
      have itself : ∀ outcome ∈ [place], outcome.Fits size groups := by
        intro outcome mem
        rwa [List.mem_singleton.mp mem]
      by_cases isDone : most = some 0
      · refine ⟨[place], itself, fun next => ?_⟩
        rw [repeatBody, if_pos isDone, List.findSome?_singleton]
      obtain ⟨ends, endsFit, endsEq⟩ := enumerates { place with captures := clear place.captures }
        ⟨fits.position_le, clears _ fits.captures_fit⟩
      -- A round that is not due and takes in nothing is dropped; behind any other one less is left.
      have goesOn : Enumerates size groups fun after next =>
          if least = 0 && after.position = place.position then none
          else repeatBody body isGreedy clear fuel (least - 1) (roundsLeft most) after next := by
        intro after afterFits
        by_cases isIdle : (decide (least = 0) && decide (after.position = place.position)) = true
        · exact ⟨[], fun outcome mem => by contradiction, fun next => if_pos isIdle⟩
        · obtain ⟨outcomes, outcomesFit, same⟩ := ih (least - 1) (roundsLeft most) after afterFits
          exact ⟨outcomes, outcomesFit, fun next => (if_neg isIdle).trans (same next)⟩
      obtain ⟨rounds, roundsFit, roundsEq⟩ := exists_outcomes_bind endsFit goesOn
      have round : ∀ next, body { place with captures := clear place.captures } (fun after =>
          if least = 0 && after.position = place.position then none
          else repeatBody body isGreedy clear fuel (least - 1) (roundsLeft most) after next) =
          rounds.findSome? next := by
        intro next
        rw [endsEq, ← roundsEq]
      by_cases isDue : 0 < least
      · refine ⟨rounds, roundsFit, fun next => ?_⟩
        rw [repeatBody, if_neg isDone, if_pos isDue, round]
      -- The place itself is the last outcome when the rounds are greedy, and the first when lazy.
      cases isGreedy with
      | true =>
          refine ⟨rounds ++ [place], List.forall_mem_append.mpr ⟨roundsFit, itself⟩,
            fun next => ?_⟩
          rw [repeatBody, if_neg isDone, if_neg isDue, if_pos rfl, round, List.findSome?_append,
            List.findSome?_singleton]
          cases rounds.findSome? next <;> rfl
      | false =>
          refine ⟨place :: rounds, List.forall_mem_cons.mpr ⟨fits, roundsFit⟩, fun next => ?_⟩
          rw [repeatBody, if_neg isDone, if_neg isDue, if_neg Bool.false_ne_true,
            List.findSome?_cons]
          cases next place with
          | some final => rfl
          | none => exact round next

/-- A test of a place goes on there or nowhere. -/
theorem exists_outcomes_of_test {place : Place} (fits : place.Fits size groups) (passes : Prop)
    [Decidable passes] :
    ∃ outcomes : List Place, (∀ outcome ∈ outcomes, outcome.Fits size groups) ∧
      ∀ next : Continuation, (if passes then next place else none) = outcomes.findSome? next := by
  refine exists_outcomes_of_option (if passes then some place else none) ?_ ?_
  · split
    · intro outcome mem
      exact Option.mem_some.mp mem ▸ fits
    · exact fun outcome mem => by contradiction
  · intro next
    split <;> rfl

/-- A move to another position goes on there, or nowhere. -/
theorem exists_outcomes_of_move {place : Place} (fits : place.Fits size groups)
    {action : Continuation → Option Place} {position? : Option Nat}
    (inside : ∀ position ∈ position?, position ≤ size)
    (same : ∀ next, action next = position?.bind fun position => next { place with position }) :
    ∃ outcomes : List Place, (∀ outcome ∈ outcomes, outcome.Fits size groups) ∧
      ∀ next, action next = outcomes.findSome? next := by
  refine exists_outcomes_of_option
    (position?.map fun position => { place with position }) ?_ fun next => ?_
  · intro outcome mem
    obtain ⟨position, moved, rfl⟩ := Option.map_eq_some_iff.mp mem
    exact fits.moveTo (inside position moved)
  · rw [same, Option.bind_map]
    rfl

/-- What a group captured between two places inside the subject lies inside. -/
theorem Place.Fits.capture {place after : Place} (fits : place.Fits size groups)
    (afterFits : after.Fits size groups) (isForward : Bool) (index : Nat) :
    Place.Fits size groups
      { after with
        captures := after.captures.setIfInBounds index
          (some (if isForward then (place.position, after.position)
            else (after.position, place.position))) } := by
  refine ⟨afterFits.position_le, afterFits.captures_fit.setIfInBounds index ?_⟩
  intro first last same
  cases isForward with
  | true =>
      cases same
      exact ⟨fits.position_le, afterFits.position_le⟩
  | false =>
      cases same
      exact ⟨afterFits.position_le, fits.position_le⟩

/-- Every node enumerates its outcomes. -/
theorem enumerates_run (subject : Subject) (node : Node) (isForward : Bool) :
    Enumerates subject.points.size groups (node.run subject isForward) := by
  induction node generalizing isForward with
  | empty =>
      intro place fits
      exact exists_outcomes_of_option (some place)
        (fun outcome mem => Option.mem_some.mp mem ▸ fits) fun next => rfl
  | set charClass =>
      intro place fits
      refine exists_outcomes_of_move fits
        (fun position => Subject.stepOver?_le isForward (charClass.contains subject.caseless)
          fits.position_le) fun next => ?_
      rw [Node.run_set]
      cases subject.stepOver? isForward (charClass.contains subject.caseless) place.position <;> rfl
  | sequence first second firstIh secondIh =>
      intro place fits
      -- Backwards the second part runs first, and the first part from where it ends.
      cases isForward with
      | true =>
          obtain ⟨middles, middlesFit, same⟩ := firstIh true place fits
          obtain ⟨outcomes, outcomesFit, same'⟩ := exists_outcomes_bind middlesFit (secondIh true)
          exact ⟨outcomes, outcomesFit, fun next => (same _).trans (same' next)⟩
      | false =>
          obtain ⟨middles, middlesFit, same⟩ := secondIh false place fits
          obtain ⟨outcomes, outcomesFit, same'⟩ := exists_outcomes_bind middlesFit (firstIh false)
          exact ⟨outcomes, outcomesFit, fun next => (same _).trans (same' next)⟩
  | either first second firstIh secondIh =>
      intro place fits
      obtain ⟨outcomes, outcomesFit, same⟩ := firstIh isForward place fits
      obtain ⟨others, othersFit, same'⟩ := secondIh isForward place fits
      refine ⟨outcomes ++ others, List.forall_mem_append.mpr ⟨outcomesFit, othersFit⟩,
        fun next => ?_⟩
      rw [Node.run_either, same, same', List.findSome?_append]
      cases outcomes.findSome? next <;> rfl
  | capture group body ih =>
      intro place fits
      obtain ⟨ends, endsFit, same⟩ := ih isForward place fits
      refine ⟨ends.map _, ?_, fun next => (same _).trans List.findSome?_map.symm⟩
      intro outcome mem
      obtain ⟨after, afterMem, rfl⟩ := List.mem_map.mp mem
      exact fits.capture (endsFit after afterMem) isForward (group - 1)
  | reference group =>
      intro place fits
      cases captured : (place.captures[group - 1]?).join with
      | none =>
          refine exists_outcomes_of_option (some place)
            (fun outcome mem => Option.mem_some.mp mem ▸ fits) fun next => ?_
          rw [Node.run_reference, captured]
          rfl
      | some span =>
          refine exists_outcomes_of_move fits
            (fun position => Subject.stepOverAgain?_le isForward span.1 span.2 fits.position_le)
            fun next => ?_
          rw [Node.run_reference, captured]
          dsimp only
          cases subject.stepOverAgain? isForward span.1 span.2 place.position <;> rfl
  | subjectStart => exact fun place fits => exists_outcomes_of_test fits _
  | subjectEnd => exact fun place fits => exists_outcomes_of_test fits _
  | wordBoundary isNegated => exact fun place fits => exists_outcomes_of_test fits _
  | look isAhead isNegated body ih =>
      intro place fits
      obtain ⟨ends, endsFit, same⟩ := ih isAhead place fits
      -- The first outcome of the body decides; a look does not come back for the others.
      cases found : body.run subject isAhead place some with
      | none =>
          have outcomes := exists_outcomes_of_test fits (isNegated = true)
          simpa only [Node.run_look, found] using outcomes
      | some after =>
          obtain ⟨outcome, mem, taken⟩ :=
            List.exists_of_findSome?_eq_some ((same _).symm.trans found)
          obtain rfl := Option.some.inj taken
          have moved : Place.Fits subject.points.size groups
              { place with captures := outcome.captures } :=
            ⟨fits.position_le, (endsFit outcome mem).captures_fit⟩
          have outcomes := exists_outcomes_of_test moved (isNegated = false)
          cases isNegated <;> simpa [Node.run_look, found] using outcomes
  | repetition body least most isGreedy capturesBefore captureCount ih =>
      intro place fits
      exact enumerates_repeatBody (ih isForward) isGreedy
        (fun captures fit => fit.clear capturesBefore captureCount) _ least most place fits

/-! ## Matches -/

namespace Regex

/-- A match has a span for every group, and lies inside the subject. -/
theorem fits_matchAt {regex : Regex} {points : Array Nat} {start : Nat} {spans : PointSpans}
    (inside : start ≤ points.size) (matched : regex.matchAt points start = some spans) :
    spans.length = regex.captureCount + 1 ∧ spans.Within points.size := by
  unfold matchAt at matched
  obtain ⟨final, ran, rfl⟩ := Option.map_eq_some_iff.mp matched
  obtain ⟨outcomes, outcomesFit, same⟩ :=
    enumerates_run ⟨points, regex.caseless⟩ regex.node true _ (Place.fits_start _ inside)
  obtain ⟨outcome, mem, taken⟩ := List.exists_of_findSome?_eq_some ((same _).symm.trans ran)
  obtain rfl := Option.some.inj taken
  have outcomeFits := outcomesFit _ mem
  refine ⟨congrArg (· + 1) outcomeFits.captures_fit.length, fun first last mem' => ?_⟩
  rcases List.mem_cons.mp mem' with whole | mem'
  · cases whole
    exact ⟨inside, outcomeFits.position_le⟩
  · exact outcomeFits.captures_fit.within first last mem'

/-- The first match is a match at some position that is reached. -/
theorem exists_matchAt_of_firstMatch {regex : Regex} {points : Array Nat} {start count : Nat}
    {spans : PointSpans} (matched : regex.firstMatch points start count = some spans) :
    ∃ position, start ≤ position ∧ position < start + count ∧
      regex.matchAt points position = some spans := by
  induction count generalizing start with
  | zero => cases matched
  | succ count ih =>
      rw [firstMatch] at matched
      cases atStart : regex.matchAt points start with
      | some found =>
          rw [atStart] at matched
          exact ⟨start, Nat.le_refl _, by omega, atStart.trans matched⟩
      | none =>
          rw [atStart] at matched
          obtain ⟨position, le, less, atPosition⟩ := ih matched
          exact ⟨position, by omega, by omega, atPosition⟩

theorem fits_exec {regex : Regex} {isSticky : Bool} {points : Array Nat} {start : Nat}
    {spans : PointSpans} (inside : start ≤ points.size)
    (matched : regex.exec isSticky points start = some spans) :
    spans.length = regex.captureCount + 1 ∧ spans.Within points.size := by
  unfold exec at matched
  split at matched
  · exact fits_matchAt inside matched
  · obtain ⟨position, -, less, atPosition⟩ := exists_matchAt_of_firstMatch matched
    exact fits_matchAt (by omega) atPosition

/-- A match lies inside the subject. -/
theorem within_exec {regex : Regex} {isSticky : Bool} {points : Array Nat} {start : Nat}
    {spans : PointSpans} (inside : start ≤ points.size)
    (matched : regex.exec isSticky points start = some spans) : spans.Within points.size :=
  (fits_exec inside matched).2

end Regex

end Backtrack

end RegexMatching
