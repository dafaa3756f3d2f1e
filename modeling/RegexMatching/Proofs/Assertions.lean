import RegexMatching.Backtrack.Matcher

/-!
# Nodes without captures

A node without captures only moves: it hands on the positions that it leads to, one after
the other.  A node that does not move either is an assertion, and all there is to say about
it is where it holds.  Looking around makes an assertion of a node that moves.
-/

namespace RegexMatching.Backtrack

namespace Node

/-- A node that hands on the positions that it leads to, and changes no captures. -/
def LeadsTo (subject : Subject) (isForward : Bool) (node : Node) (targets : Nat → List Nat) :
    Prop :=
  ∀ (place : Place) (next : Continuation), node.run subject isForward place next =
    (targets place.position).findSome? fun position => next { place with position }

/-- A node that goes on from where it is, exactly where a condition holds. -/
structure Asserts (subject : Subject) (node : Node) (holds : Nat → Prop) : Prop where
  run_of_holds : ∀ {place : Place}, holds place.position → ∀ (isForward : Bool)
    (next : Continuation), node.run subject isForward place next = next place
  run_of_not_holds : ∀ {place : Place}, ¬ holds place.position → ∀ (isForward : Bool)
    (next : Continuation), node.run subject isForward place next = none

variable {subject : Subject} {isForward : Bool} {first second body : Node}
  {targets others : Nat → List Nat} {holds alsoHolds : Nat → Prop}

/-! ## Moving -/

theorem LeadsTo.congr (leads : body.LeadsTo subject isForward targets)
    (same : ∀ position, targets position = others position) :
    body.LeadsTo subject isForward others :=
  funext same ▸ leads

theorem leadsTo_empty : empty.LeadsTo subject isForward fun position => [position] := by
  intro place next
  rw [run_empty, List.findSome?_singleton]

theorem leadsTo_set (charClass : CharClass) :
    (set charClass).LeadsTo subject isForward fun position =>
      (subject.stepOver? isForward (charClass.contains subject.caseless) position).toList := by
  intro place next
  rw [run_set]
  cases moved : subject.stepOver? isForward (charClass.contains subject.caseless)
    place.position with
  | none => simp only [moved, Option.toList_none, List.findSome?_nil]
  | some position => simp only [moved, Option.toList_some, List.findSome?_singleton]

theorem LeadsTo.sequence (isFirst : first.LeadsTo subject true targets)
    (isSecond : second.LeadsTo subject true others) :
    (sequence first second).LeadsTo subject true fun position =>
      (targets position).flatMap others := by
  intro place next
  rw [run_sequence, if_pos rfl, isFirst]
  dsimp only
  induction targets place.position with
  | nil => rfl
  | cons position rest ih =>
      rw [List.findSome?_cons, List.flatMap_cons, List.findSome?_append, isSecond, ih]
      cases (others position).findSome? fun position => next { place with position } <;> rfl

theorem LeadsTo.either (isFirst : first.LeadsTo subject isForward targets)
    (isSecond : second.LeadsTo subject isForward others) :
    (either first second).LeadsTo subject isForward fun position =>
      targets position ++ others position := by
  intro place next
  rw [run_either, isFirst, isSecond, List.findSome?_append]
  cases (targets place.position).findSome? fun position => next { place with position } <;> rfl

/-- An optional body leads to where it leads by moving, and then to where it started. -/
theorem LeadsTo.optional (isBody : body.LeadsTo subject isForward targets)
    (capturesBefore : Nat) :
    (repetition body 0 (some 1) true capturesBefore 0).LeadsTo subject isForward fun position =>
      (targets position).filter (· != position) ++ [position] := by
  intro place next
  have round : body.run subject isForward place (fun after =>
      if after.position = place.position then none else next after) =
      ((targets place.position).filter (· != place.position)).findSome? fun position =>
        next { place with position } := by
    rw [isBody]
    dsimp only
    induction targets place.position with
    | nil => rfl
    | cons position rest ih =>
        rw [List.findSome?_cons, List.filter_cons, ih]
        by_cases same : position = place.position
        · simp [same]
        · rw [if_neg same, if_pos (bne_iff_ne.mpr same), List.findSome?_cons]
  -- The second round of the body has nothing left to do.
  have isLast : ∀ fuel after, repeatBody (body.run subject isForward) true
      (fun captures => clearCaptures captures capturesBefore 0) (fuel + 1) 0 (some 0) after next =
        next after := fun fuel after => by rw [repeatBody, if_pos rfl]
  rw [run_repetition, repeatBody, if_neg (by simp)]
  have cleared : clearCaptures place.captures capturesBefore 0 = place.captures := rfl
  simp only [roundsLeft, Option.map_some, isLast, Nat.lt_irrefl, if_false, if_true, decide_true,
    Bool.true_and, decide_eq_true_eq, cleared, round, List.findSome?_append,
    List.findSome?_singleton]
  cases ((targets place.position).filter (· != place.position)).findSome? fun position =>
    next { place with position } <;> rfl

/-! ## Asserting -/

theorem Asserts.congr (asserts : body.Asserts subject holds)
    (same : ∀ position, holds position ↔ alsoHolds position) : body.Asserts subject alsoHolds :=
  funext (fun position => propext (same position)) ▸ asserts

theorem Asserts.sequence (isFirst : first.Asserts subject holds)
    (isSecond : second.Asserts subject alsoHolds) :
    (sequence first second).Asserts subject fun position =>
      holds position ∧ alsoHolds position where
  run_of_holds := by
    rintro place ⟨holdsFirst, holdsSecond⟩ isForward next
    rw [run_sequence]
    cases isForward with
    | true =>
        rw [if_pos rfl, isFirst.run_of_holds holdsFirst, isSecond.run_of_holds holdsSecond]
    | false =>
        rw [if_neg Bool.false_ne_true, isSecond.run_of_holds holdsSecond,
          isFirst.run_of_holds holdsFirst]
  run_of_not_holds := by
    intro place fails isForward next
    rw [run_sequence]
    by_cases holdsFirst : holds place.position
    · have failsSecond := fun holdsSecond => fails ⟨holdsFirst, holdsSecond⟩
      cases isForward with
      | true =>
          rw [if_pos rfl, isFirst.run_of_holds holdsFirst, isSecond.run_of_not_holds failsSecond]
      | false => rw [if_neg Bool.false_ne_true, isSecond.run_of_not_holds failsSecond]
    · cases isForward with
      | true => rw [if_pos rfl, isFirst.run_of_not_holds holdsFirst]
      | false =>
          by_cases holdsSecond : alsoHolds place.position
          · rw [if_neg Bool.false_ne_true, isSecond.run_of_holds holdsSecond,
              isFirst.run_of_not_holds holdsFirst]
          · rw [if_neg Bool.false_ne_true, isSecond.run_of_not_holds holdsSecond]

theorem Asserts.either (isFirst : first.Asserts subject holds)
    (isSecond : second.Asserts subject alsoHolds) :
    (either first second).Asserts subject fun position =>
      holds position ∨ alsoHolds position where
  run_of_holds := by
    intro place isHeld isForward next
    rw [run_either]
    by_cases holdsFirst : holds place.position
    · rw [isFirst.run_of_holds holdsFirst]
      by_cases holdsSecond : alsoHolds place.position
      · rw [isSecond.run_of_holds holdsSecond]
        cases next place <;> rfl
      · rw [isSecond.run_of_not_holds holdsSecond]
        cases next place <;> rfl
    · rw [isFirst.run_of_not_holds holdsFirst,
        isSecond.run_of_holds (isHeld.resolve_left holdsFirst)]
      rfl
  run_of_not_holds := by
    intro place fails isForward next
    rw [run_either, isFirst.run_of_not_holds fun holdsFirst => fails (.inl holdsFirst),
      isSecond.run_of_not_holds fun holdsSecond => fails (.inr holdsSecond)]
    rfl

/-- An assertion in front of a node leaves where that leads to, or leaves nothing. -/
theorem Asserts.guard [DecidablePred holds] (isFirst : first.Asserts subject holds)
    (isSecond : second.LeadsTo subject true targets) :
    (Node.sequence first second).LeadsTo subject true fun position =>
      if holds position then targets position else [] := by
  intro place next
  rw [run_sequence, if_pos rfl]
  dsimp only
  split
  · next isHeld => rw [isFirst.run_of_holds isHeld, isSecond]
  · next fails => rw [isFirst.run_of_not_holds fails, List.findSome?_nil]

/-- Looking around holds where the body leads anywhere. -/
theorem LeadsTo.look {isAhead : Bool} (isBody : body.LeadsTo subject isAhead targets) :
    (look isAhead false body).Asserts subject fun position => targets position ≠ [] where
  run_of_holds := by
    intro place leads isForward next
    obtain ⟨position, rest, isTargets⟩ := List.exists_cons_of_ne_nil leads
    rw [run_look, isBody, isTargets]
    rfl
  run_of_not_holds := by
    intro place leadsNowhere isForward next
    rw [run_look, isBody, Classical.not_not.mp leadsNowhere]
    rfl

/-- Looking around in vain holds where the body leads nowhere. -/
theorem LeadsTo.lookInVain {isAhead : Bool} (isBody : body.LeadsTo subject isAhead targets) :
    (Node.look isAhead true body).Asserts subject fun position => targets position = [] where
  run_of_holds := by
    intro place leadsNowhere isForward next
    rw [run_look, isBody, leadsNowhere]
    rfl
  run_of_not_holds := by
    intro place leads isForward next
    obtain ⟨position, rest, isTargets⟩ := List.exists_cons_of_ne_nil leads
    rw [run_look, isBody, isTargets]
    rfl

/-- An assertion is an assertion whichever way it is looked at. -/
theorem Asserts.leadsTo [DecidablePred holds] (asserts : body.Asserts subject holds) :
    body.LeadsTo subject isForward fun position => if holds position then [position] else [] := by
  intro place next
  dsimp only
  split
  · next isHeld => rw [asserts.run_of_holds isHeld, List.findSome?_singleton]
  · next fails => rw [asserts.run_of_not_holds fails, List.findSome?_nil]

end Node

end RegexMatching.Backtrack
