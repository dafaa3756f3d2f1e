import RegexMatching.Proofs.CaptureBounds
import RegexMatching.Proofs.Compiling

/-!
# Offsets that both sides accept

A matcher and an engine each keep a table of the offsets of one subject.  They agree on every
text that does not start with a byte order mark: the engine accepts every start it is given,
and the matcher every offset that comes back.  Behind a byte order mark, which the engine does
not read, the two are three bytes apart.
-/

namespace RegexMatching

open Utf8 (bytesBefore)

/-- The fault of an offset that the text or the engine does not accept. -/
def Fault.RefusesOffset (fault : Fault) : Prop :=
  fault.kind = .range ∨
    ∃ isLimit operation message,
      fault = .engineFailed isLimit operation ResultCode.badOffset message

/-! ## Reports -/

/-- A report of an accepted start, with offsets that the subject accepts. -/
def Report.Accepts (report : Report) (subject : Bytes) : Prop :=
  report.result ≠ ResultCode.badOffset ∧ report.CutsNoPoint subject

theorem Report.cutsNoPoint_of_result (result : Int) (subject : Bytes) :
    ({ result } : Report).CutsNoPoint subject := by
  intro group first last isSet
  rw [set?_eq_none rfl] at isSet
  contradiction

namespace EngineKind

/-- A search only fails for a variant that does not compile. -/
theorem search_error {kind : EngineKind} {code : kind.Code} {text : PointText} {position : Nat}
    {options : MatchOptions} {fault : Fault}
    (failed : kind.backend.search code text position options = .error fault) :
    fault = .badBacktrackVariant ∨ fault = .badLinearVariant := by
  cases kind with
  | backtracking =>
      simp only [backend, Backtracking.backend, Backtracking.search] at failed
      split at failed
      · exact .inl (Except.error.inj failed).symm
      · contradiction
  | linear =>
      simp only [backend, LinearTime.backend, LinearTime.search] at failed
      split at failed
      · exact .inr (Except.error.inj failed).symm
      · split at failed <;> contradiction

/-- What a match call on a text comes to, from a boundary on: the start is accepted, and so are
the offsets that come back. -/
theorem accepts_report (kind : EngineKind) (code? : Option kind.Code) {text : Text}
    (noMark : text.head? ≠ some 0xFEFF) {place : Nat} (boundary : text.IsBoundary place)
    (bits : Int) :
    match kind.backend.report code? (Utf8.encode text) (bytesBefore text place) bits with
    | .error fault => fault = .badBacktrackVariant ∨ fault = .badLinearVariant
    | .ok report => report.Accepts (Utf8.encode text) := by
  have withoutMatch : ∀ result : Int, result ≠ ResultCode.badOffset →
      ({ result } : Report).Accepts (Utf8.encode text) := fun result other =>
    ⟨other, Report.cutsNoPoint_of_result result _⟩
  cases code? with
  | none => exact withoutMatch _ (by decide)
  | some code =>
      obtain ⟨position, inside, rfl⟩ := Text.exists_position boundary
      cases isRead : MatchOptions.ofBits? bits with
      | none =>
          rw [Backend.report, Backend.answer, isRead]
          exact withoutMatch _ (by decide)
      | some options =>
          by_cases isHonoured : kind.backend.honours options = true
          · rw [Backend.report_eq_search noMark code inside isRead isHonoured]
            cases found : kind.backend.search code (.ofBytes (Utf8.encode text)) position
              options with
            | error fault => exact search_error found
            | ok spans? =>
                cases spans? with
                | none => exact withoutMatch _ (by decide)
                | some spans =>
                    have size := PointText.size_points_ofBytes_encode noMark
                    have within := kind.keepsInside _ _ _ _ spans (size ▸ inside) found
                    rw [size] at within
                    refine ⟨?_, cutsNoPoint_ofSpans noMark within _ _⟩
                    change ((countUpToLastSet _ : Nat) : Int) ≠ -33
                    omega
          · have refused : (!kind.backend.honours options) = true := by
              rw [Bool.eq_false_iff.mpr isHonoured]
              rfl
            rw [Backend.report, Backend.answer, isRead]
            dsimp only
            rw [if_pos refused]
            exact withoutMatch _ (by decide)

end EngineKind

/-! ## Attempts -/

namespace Matcher

section Attempt

variable {matcher : Matcher EngineState} (consistent : matcher.Consistent)

include consistent

/-- Captures that cut no code point have spans, also where the subject is decomposed. -/
theorem Consistent.exists_subjectSpans (ordered : matcher.viewStart ≤ matcher.viewEnd)
    {report : Report} (cutsNoPoint : report.CutsNoPoint (Utf8.encode matcher.viewText)) :
    ∃ spans, subjectSpans matcher.searched matcher.seenView.byteStart report.captures =
      .ok spans := by
  have each : ∀ group, ∃ span,
      subjectSpan matcher.searched matcher.seenView.byteStart (report.span group) = .ok span := by
    intro group
    unfold Report.span
    cases isSet : report.set? group with
    | none => exact ⟨.unset, rfl⟩
    | some pair =>
        obtain ⟨atFirst, atLast⟩ := cutsNoPoint group pair.1 pair.2 isSet
        exact ⟨_, consistent.subjectSpan_seen ordered atFirst atLast⟩
  choose spanOf spanOf_eq using each
  refine ⟨(List.range (report.groupCount + 1)).map spanOf, ?_⟩
  rw [subjectSpans_eq, Report.captures, List.mapM_map]
  exact mapM_eq_ok fun group _ => spanOf_eq group

/-- An attempt on an engine on offer does not fail for an offset. -/
theorem Consistent.accepts_attempted {kind : EngineKind}
    (noMark : matcher.viewText.head? ≠ some 0xFEFF) (code? : Handle → Option kind.Code)
    {start : Nat} (inside : start ≤ matcher.text.length) {anchoring : Anchoring} {fault : Fault}
    (failed : matcher.attempted (kind.backend.answering code?) start anchoring = .error fault) :
    ¬fault.RefusesOffset := by
  unfold attempted at failed
  split at failed
  · rw [← Except.error.inj failed]
    rintro (isRange | ⟨isLimit, operation, message, same⟩) <;> contradiction
  · cases starts : matcher.placeOf? start with
    | none =>
        rw [starts] at failed
        contradiction
    | some place =>
        rw [starts] at failed
        dsimp only at failed
        have accepts := kind.accepts_report
          (code? (matcher.requestAt place anchoring).code) noMark
          (consistent.isBoundary_of_placeOf? inside starts)
          (matcher.requestAt place anchoring).options
        change (matcher.pattern.adapter.outcomeOf
          (kind.backend.report (code? (matcher.requestAt place anchoring).code)
            (Utf8.encode matcher.viewText) (bytesBefore matcher.viewText place)
            (matcher.requestAt place anchoring).options)).bind _ = _ at failed
        revert accepts failed
        cases kind.backend.report (code? (matcher.requestAt place anchoring).code)
          (Utf8.encode matcher.viewText) (bytesBefore matcher.viewText place)
          (matcher.requestAt place anchoring).options with
        | error cause =>
            intro isVariant failed
            rw [← Except.error.inj failed]
            rintro (isRange | ⟨isLimit, operation, message, same⟩) <;>
              rcases isVariant with rfl | rfl <;> contradiction
        | ok report =>
            intro accepts failed
            obtain ⟨spans, translated⟩ := consistent.exists_subjectSpans
              (viewStart_le_viewEnd starts) accepts.2
            unfold Adapter.outcomeOf at failed
            dsimp only at failed
            split at failed
            · simp only [Except.bind, stateOf, translated, Except.map] at failed
              contradiction
            split at failed
            · contradiction
            split at failed
            · contradiction
            · rw [← Except.error.inj failed, Adapter.failure]
              rintro (isRange | ⟨isLimit, operation, message, same⟩)
              · simp only [Fault.kind] at isRange
                split at isRange <;> contradiction
              · exact accepts.1 (Fault.engineFailed.inj same).2.2.1

end Attempt

/-! ## Calls -/

/-- A search on an engine on offer does not fail for an offset. -/
theorem accepts_search (configuration : Configuration EngineState)
    (consistent : configuration.matcher.Consistent)
    (isOffered : configuration.matcher.pattern.IsOffered)
    (noMark : configuration.matcher.viewText.head? ≠ some 0xFEFF) {start : Nat}
    (inside : start ≤ configuration.matcher.text.length) {anchoring : Anchoring} {fault : Fault}
    (failed : ((search start anchoring).exec configuration).1 = .error fault) :
    ¬fault.RefusesOffset := by
  obtain ⟨kind, isKind⟩ := isOffered
  have answers := kind.answersBy (kind.code? configuration.trace.engines)
  rw [← isKind] at answers
  exact consistent.seen.accepts_attempted noMark _ inside
    (attempted_of_search_error consistent answers inside rfl failed)

/-- A matcher of a new pattern, without flags or settings. -/
def ofSource (kind : EngineKind) (source text : Text) : Work EngineState (Matcher EngineState) := do
  let pattern ← Pattern.compile kind.engine false source (.ofNat 0) {}
  create pattern text {}

theorem reachable_ofSource {kind : EngineKind} {source text : Text}
    {trace after : Trace EngineState} {matcher : Matcher EngineState}
    (made : (ofSource kind source text).run trace = (.ok matcher, after)) :
    matcher.Reachable Pattern.IsOffered fun _ => True := by
  rw [ofSource, Work.run_bind] at made
  split at made
  · next pattern before compiled =>
      obtain ⟨flags, plain, -, -, isCompiled⟩ := Pattern.isCompiled_of_compile compiled
      exact .created isCompiled.isOffered trivial made
  · cases made

end Matcher

end RegexMatching
