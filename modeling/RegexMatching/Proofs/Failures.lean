import RegexMatching.Proofs.EmptyPattern
import RegexMatching.Proofs.Reachable
import RegexMatching.Proofs.Templates

/-!
# Failed operations

An operation that makes one attempt at most fails before it changes anything: all that a failed
search may leave is the view of the region, which is what would be computed anyway.  A search
from an offset has started again by then.  A faulty template has written what stands in front of
the fault.
-/

namespace RegexMatching

namespace Matcher

variable {σ : Type}

/-- A matcher that has not seen its region yet. -/
def unseen (matcher : Matcher σ) : Matcher σ :=
  { matcher with view := none }

/-- Whether an operation makes one attempt at most, without starting again first. -/
def Operation.isSingle : Operation σ → Bool
  | .findFrom _ | .findAll _ | .results _ | .replaceAll _ | .replaceFirst _ => false
  | _ => true

/-- A search that fails leaves the view of the region at most. -/
theorem search_exec_of_error {configuration after : Configuration σ}
    (consistent : configuration.matcher.Consistent) {start : Nat} {anchoring : Anchoring}
    {fault : Fault}
    (failed : (search start anchoring).exec configuration = (.error fault, after)) :
    after.matcher.unseen = configuration.matcher.unseen := by
  rw [search_exec consistent] at failed
  obtain ⟨isError, rfl⟩ := Prod.mk.inj failed
  dsimp only
  rw [eq_error_of_conclude isError]
  rfl

/-- Work fails with what is made of its value exactly when it fails. -/
theorem exec_eq_error_of_bind_pure {α β : Type} {matching : Matching σ α} {value : α → β}
    {configuration after : Configuration σ} {fault : Fault}
    (failed : (matching >>= fun result => pure (value result)).exec configuration =
      (.error fault, after)) : matching.exec configuration = (.error fault, after) := by
  rw [Matching.exec_bind] at failed
  rcases executed : matching.exec configuration with ⟨outcome, after'⟩
  rw [executed] at failed
  cases outcome with
  | error fault' =>
      cases failed
      rfl
  | ok result => cases failed

theorem find_exec_of_error {configuration after : Configuration σ}
    (consistent : configuration.matcher.Consistent) {fault : Fault}
    (failed : find.exec configuration = (.error fault, after)) :
    after.matcher.unseen = configuration.matcher.unseen := by
  have isTried : (find.exec configuration).1 ≠ .ok false := by
    rw [failed]
    nofun
  obtain ⟨start, -, ran⟩ := exists_find_exec_eq_search isTried
  exact search_exec_of_error consistent (ran.symm.trans failed)

/-! ## Faulty templates -/

/-- Without a match nothing is written. -/
theorem appendReplacement_of_unfound {matcher : Matcher σ}
    (unfound : ∀ spans mark, matcher.state ≠ .found spans mark) (template : Text) :
    matcher.appendReplacement template = (⟨[], some .noMatch⟩, matcher) := by
  unfold appendReplacement
  cases state : matcher.state with
  | fresh => rfl
  | noMatch isPartial => rfl
  | found spans mark => exact absurd state (unfound spans mark)

/-- What a faulty replacement comes to: there is no match, or the template splits in front of what
cannot be expanded.  The matcher stays as it is. -/
theorem appendReplacement_of_fault {matcher : Matcher σ} {template : Text} {fault : Fault}
    (faulty : (matcher.appendReplacement template).1.fault = some fault) :
    (matcher.appendReplacement template).2 = matcher ∧
      ((∀ spans mark, matcher.state ≠ .found spans mark) ∧ fault = .noMatch ∧
          matcher.written (.appendReplacement template) = [] ∨
        ∃ spans mark read rest output, matcher.state = .found spans mark ∧
          template = read ++ rest ∧
          Template.Offends matcher.snapshot.captures rest fault ∧
          Template.expand matcher.snapshot.captures read = ⟨output, none⟩ ∧
          matcher.written (.appendReplacement template) =
            matcher.text.slice matcher.appendCursor (spans.head?.getD .unset).start ++ output) := by
  by_cases isFound : ∃ spans mark, matcher.state = .found spans mark
  · obtain ⟨spans, mark, isFound⟩ := isFound
    have appended : matcher.appendReplacement template =
        let expansion := (Template.expand matcher.snapshot.captures template).after
          (matcher.text.slice matcher.appendCursor (spans.head?.getD .unset).start)
        if expansion.fault.isSome then (expansion, matcher)
        else (expansion, { matcher with appendCursor := (spans.head?.getD .unset).stop }) := by
      rw [appendReplacement, isFound]
    cases isFaulty : (Template.expand matcher.snapshot.captures template).fault with
    | none =>
        simp [appended, Expansion.after, isFaulty] at faulty
    | some fault' =>
        simp only [Expansion.after, isFaulty, Option.isSome_some, if_true] at appended
        rw [appended] at faulty
        obtain rfl := Option.some.inj faulty
        obtain ⟨read, rest, isSplit, offends, isOutput⟩ :=
          Template.exists_offends_of_fault isFaulty
        refine ⟨by rw [appended], .inr ⟨spans, mark, read, rest, _, isFound, isSplit, offends,
          isOutput, ?_⟩⟩
        rw [written, appended]
  · have unfound : ∀ spans mark, matcher.state ≠ .found spans mark :=
      fun spans mark found => isFound ⟨spans, mark, found⟩
    rw [written, appendReplacement_of_unfound unfound] at *
    obtain rfl := Option.some.inj faulty
    exact ⟨rfl, .inl ⟨unfound, rfl, rfl⟩⟩

theorem perform_appendReplacement_of_error {configuration after : Configuration σ}
    {template : Text} {fault : Fault}
    (failed : (perform (.appendReplacement template)).exec configuration =
      (.error fault, after)) :
    (configuration.matcher.appendReplacement template).1.fault = some fault ∧
      after = { configuration with
        matcher := (configuration.matcher.appendReplacement template).2 } := by
  rw [perform_appendReplacement_exec] at failed
  obtain ⟨isOutcome, rfl⟩ := Prod.mk.inj failed
  refine ⟨?_, rfl⟩
  cases isFaulty : (configuration.matcher.appendReplacement template).1.fault with
  | none =>
      rw [isFaulty] at isOutcome
      cases isOutcome
  | some fault' =>
      rw [isFaulty] at isOutcome
      cases isOutcome
      rfl

/-! ## All operations -/

/-- A failed operation that makes one attempt at most leaves all but the view of the region. -/
theorem perform_of_error {configuration after : Configuration σ}
    (consistent : configuration.matcher.Consistent) {operation : Operation σ}
    (isSingle : operation.isSingle = true) {fault : Fault}
    (failed : (perform operation).exec configuration = (.error fault, after)) :
    after.matcher.unseen = configuration.matcher.unseen := by
  cases operation with
  | ask query =>
      obtain ⟨-, rfl⟩ := Prod.mk.inj failed
      rfl
  | find => exact find_exec_of_error consistent (exec_eq_error_of_bind_pure failed)
  | lookingAt =>
      have searching := exec_eq_error_of_bind_pure failed
      rw [lookingAt_exec] at searching
      exact search_exec_of_error consistent searching
  | matchWhole =>
      have searching := exec_eq_error_of_bind_pure failed
      rw [matchWhole_exec] at searching
      exact search_exec_of_error consistent searching
  | region start stop =>
      rw [perform, Matching.exec_bind, change_exec, Work.run_ofExcept] at failed
      cases restricted : configuration.matcher.region start stop with
      | error fault' =>
          rw [restricted] at failed
          obtain ⟨-, rfl⟩ := Prod.mk.inj failed
          rfl
      | ok matcher =>
          rw [restricted] at failed
          cases failed
  | usePartialMatching value =>
      rw [perform, Matching.exec_bind, change_exec, Work.run_ofExcept] at failed
      cases changed : configuration.matcher.usePartialMatching value with
      | error fault' =>
          rw [changed] at failed
          obtain ⟨-, rfl⟩ := Prod.mk.inj failed
          rfl
      | ok matcher =>
          rw [changed] at failed
          cases failed
  | usePattern pattern =>
      rw [perform, Matching.exec_bind, change_exec, usePattern_run] at failed
      cases isClosed : pattern.isClosed with
      | true =>
          rw [isClosed] at failed
          obtain ⟨-, rfl⟩ := Prod.mk.inj failed
          rfl
      | false =>
          rw [isClosed] at failed
          cases failed
  | appendReplacement template =>
      obtain ⟨isFaulty, rfl⟩ := perform_appendReplacement_of_error failed
      rw [(appendReplacement_of_fault isFaulty).1]
  | close =>
      rw [perform, Matching.exec_bind, change_exec, close_run] at failed
      cases failed
  | hasPartialMatch => cases failed
  | mark => cases failed
  | regionStart => cases failed
  | regionEnd => cases failed
  | source => cases failed
  | describe => cases failed
  | reset => cases failed
  | resetTo text => cases failed
  | useAnchoringBounds value => cases failed
  | appendTail => cases failed
  | _ => contradiction

/-- A search from an illegal offset does nothing.  From a legal one it starts again first, and
when it then fails it leaves what starting again does. -/
theorem findFrom_of_error {configuration after : Configuration σ}
    (consistent : configuration.matcher.Consistent) {start : Number} {fault : Fault}
    (failed : (perform (.findFrom start)).exec configuration = (.error fault, after)) :
    (start.toIndex? configuration.matcher.text.length = none →
        fault = .startOutOfRange start ∧ after = configuration) ∧
      ∀ index, start.toIndex? configuration.matcher.text.length = some index →
        after.matcher.unseen = configuration.matcher.reset := by
  have searching := exec_eq_error_of_bind_pure failed
  rw [findFrom_exec] at searching
  constructor
  · intro isOutside
    rw [isOutside] at searching
    obtain ⟨isFault, rfl⟩ := Prod.mk.inj searching
    exact ⟨(Except.error.inj isFault).symm, rfl⟩
  · intro index isIndex
    rw [isIndex] at searching
    have left := @search_exec_of_error σ ⟨configuration.matcher.reset, configuration.trace⟩ after
      consistent.reset index .search fault searching
    exact left

/-- Whatever engines answer, a failed operation leaves the matcher as it was.  All that a failed
attempt may leave is the view of the region, as it would be computed anew.  A search from a legal
offset leaves what starting again does.  A faulty replacement has written what lies between the
append position and the match, and the expansion of the template up to what offends. -/
theorem failed_operation_leaves {matcher : Matcher σ}
    (reached : matcher.Reachable (fun _ => True) fun _ => True) {operation : Operation σ}
    {trace : Trace σ} {fault : Fault} {after : Configuration σ}
    (failed : (perform operation).exec ⟨matcher, trace⟩ = (.error fault, after)) :
    (∀ view ∈ after.matcher.view, after.matcher.measureRegion = .ok view) ∧
    (operation.isSingle = true → after.matcher.unseen = matcher.unseen) ∧
    (∀ start, operation = .findFrom start →
      (start.toIndex? matcher.text.length = none →
        fault = .startOutOfRange start ∧ after = ⟨matcher, trace⟩) ∧
      ∀ index, start.toIndex? matcher.text.length = some index →
        after.matcher.unseen = matcher.reset) ∧
    ∀ template, operation = .appendReplacement template →
      after = ⟨matcher, trace⟩ ∧
      ((∀ spans mark, matcher.state ≠ .found spans mark) ∧ fault = .noMatch ∧
          matcher.written operation = [] ∨
        ∃ spans mark read rest output, matcher.state = .found spans mark ∧
          template = read ++ rest ∧
          Template.Offends matcher.snapshot.captures rest fault ∧
          Template.expand matcher.snapshot.captures read = ⟨output, none⟩ ∧
          matcher.written operation =
            matcher.text.slice matcher.appendCursor (spans.head?.getD .unset).start ++
              output) := by
  have consistent := reached.consistent.1
  refine ⟨?_, fun isSingle => perform_of_error consistent isSingle failed, ?_, ?_⟩
  · have afterReached : after.matcher.Reachable (fun _ => True) fun _ => True := by
      have isAllowed : operation.Allowed fun _ => True := by
        cases operation <;> trivial
      have performed := reached.performed operation isAllowed trace trivial
      rwa [failed] at performed
    exact afterReached.consistent.1.view
  · rintro start rfl
    exact findFrom_of_error consistent failed
  · rintro template rfl
    obtain ⟨isFaulty, rfl⟩ := perform_appendReplacement_of_error failed
    have faulty := appendReplacement_of_fault isFaulty
    exact ⟨by rw [faulty.1], faulty.2⟩

/-- Behind a search that found a match, a reference to nothing leaves everything as it is. -/
theorem failed_operation_leaves_match :
    let found := ((perform .find).exec ⟨initial .ofEmptyPattern [0x61] true 0, ⟨0, []⟩⟩).2
    found.matcher.hasMatch = true ∧ ∃ fault,
      (perform (.appendReplacement [CodeUnit.ofChar '$'])).exec found = (.error fault, found) := by
  have isCreated : (create .ofEmptyPattern [0x61] {}).run ⟨0, []⟩ =
      (.ok (initial .ofEmptyPattern [0x61] true 0), ⟨0, []⟩) := rfl
  have reached : ((perform .find).exec ⟨initial .ofEmptyPattern [0x61] true 0,
      ⟨0, []⟩⟩).2.matcher.Reachable (fun _ => True) fun _ => True :=
    .performed (.created trivial trivial isCreated) .find trivial ⟨0, []⟩ trivial
  generalize isFound : ((perform .find).exec ⟨initial .ofEmptyPattern [0x61] true 0,
    ⟨0, []⟩⟩).2 = found at reached
  have isFaulty : ∃ fault,
      (found.matcher.appendReplacement [CodeUnit.ofChar '$']).1.fault = some fault := by
    have offends : Template.Offends found.matcher.snapshot.captures [CodeUnit.ofChar '$']
        .groupIndexMissing := .unreadable rfl rfl
    cases state : found.matcher.state with
    | fresh => exact ⟨.noMatch, by rw [appendReplacement, state]⟩
    | noMatch isPartial => exact ⟨.noMatch, by rw [appendReplacement, state]⟩
    | found spans mark =>
        refine ⟨.groupIndexMissing, ?_⟩
        rw [appendReplacement, state, offends.expand_eq]
        rfl
  obtain ⟨fault, isFaulty⟩ := isFaulty
  have failed := perform_appendReplacement_exec [CodeUnit.ofChar '$'] found
  rw [isFaulty] at failed
  have left := (failed_operation_leaves reached failed).2.2.2 [CodeUnit.ofChar '$'] rfl
  refine ⟨?_, fault, failed.trans (congrArg _ left.1)⟩
  rw [← isFound]
  decide +kernel

end Matcher

end RegexMatching
