import RegexMatching.Proofs.ByteBoundary
import RegexMatching.Proofs.Running

/-!
# Match calls as exchanges

A match call on an engine makes match data, uses it once, reads it when there is a
match, and frees it.  All that the caller learns is one report, and what the
adapter comes back with is a function of that report.
-/

namespace RegexMatching

/-- What an engine is asked in one match call. -/
structure Request where
  code : Handle
  subject : Bytes
  start : Int
  options : Int
  stack : Handle

/-- What an engine lets its caller know about one match call.  Without a match only
the result counts. -/
structure Report where
  result : Int
  /-- How many groups the code has. -/
  groupCount : Nat := 0
  /-- Starts and ends of groups, in turn. -/
  offsets : List Int := []
  mark : Option Text := none

namespace Report

/-- Whether the call found a match. -/
def isMatch (report : Report) : Bool :=
  0 ≤ report.result

/-- The offsets that the engine set for a group.  A positive result counts the
groups that are set, and zero leaves the count open. -/
def set? (report : Report) (group : Nat) : Option (Nat × Nat) :=
  match report.offsets[group * 2]?, report.offsets[group * 2 + 1]? with
  | some start, some stop =>
      if (report.result = 0 ∨ (group : Int) < report.result) ∧ 0 ≤ start ∧ 0 ≤ stop then
        some (start.toNat, stop.toNat)
      else
        none
  | _, _ => none

/-- The span of a group in bytes of the subject. -/
def span (report : Report) (group : Nat) : Span :=
  match report.set? group with
  | some (start, stop) => ⟨start, stop⟩
  | none => .unset

/-- The spans of all groups in bytes of the subject. -/
def captures (report : Report) : List Span :=
  (List.range (report.groupCount + 1)).map report.span

theorem captures_eq_spansOfOffsets {report : Report} (isMatch : report.isMatch = true) :
    spansOfOffsets report.offsets report.result.toNat (report.groupCount + 1) =
      report.captures := by
  have result : 0 ≤ report.result := of_decide_eq_true isMatch
  apply List.map_congr_left
  intro group _
  rw [span, set?]
  cases report.offsets[group * 2]? with
  | none => rfl
  | some start =>
      cases report.offsets[group * 2 + 1]? with
      | none => rfl
      | some stop =>
          have counted : (report.result.toNat = 0 ∨ group < report.result.toNat) ↔
              (report.result = 0 ∨ (group : Int) < report.result) := by omega
          simp only [Bool.and_eq_true, Bool.or_eq_true, decide_eq_true_eq, counted, and_assoc]
          split
          · next isSet =>
              change Span.mk start stop = Span.mk start.toNat stop.toNat
              rw [Int.toNat_of_nonneg isSet.2.1, Int.toNat_of_nonneg isSet.2.2]
          · rfl

end Report

namespace Engine

variable {σ : Type}

/-- What is read of match data after a call: the captures, if there is a match. -/
def readReport (engine : Engine σ) (code data : Handle) (result : Int) : StateM σ Report :=
  if 0 ≤ result then do
    let groupCount ← engine.captureCount code
    let offsets ← engine.captureOffsets data
    let mark ← engine.mark data
    return { result, groupCount, offsets, mark }
  else
    return { result }

theorem readReport_of_neg (engine : Engine σ) (code data : Handle) {result : Int}
    (failed : result < 0) (engines : σ) :
    (engine.readReport code data result).run engines = ({ result }, engines) := by
  rw [readReport, if_neg (Int.not_le.mpr failed)]
  rfl

theorem result_readReport (engine : Engine σ) (code data : Handle) (result : Int) (engines : σ) :
    ((engine.readReport code data result).run engines).1.result = result := by
  unfold readReport
  split <;> rfl

/-- One match call, from making its match data to freeing it. -/
def exchange (engine : Engine σ) (request : Request) : StateM σ (Except Fault Report) := do
  let data ← engine.createMatchData request.code
  let outcome ←
    (engine.run request.code request.subject request.start request.options data
      request.stack).run
  let report ←
    match outcome with
    | .error fault => pure (.error fault)
    | .ok result => .ok <$> engine.readReport request.code data result
  engine.freeMatchData data
  return report

/-- An exchange by what the call on the match data comes to. -/
theorem exchange_run (engine : Engine σ) (request : Request) (engines : σ) :
    (engine.exchange request).run engines =
      let made := (engine.createMatchData request.code).run engines
      match (engine.run request.code request.subject request.start request.options made.1
        request.stack).run.run made.2 with
      | (.error fault, after) =>
          (.error fault, ((engine.freeMatchData made.1).run after).2)
      | (.ok result, after) =>
          let read := (engine.readReport request.code made.1 result).run after
          (.ok read.1, ((engine.freeMatchData made.1).run read.2).2) := by
  simp only [exchange, StateT.run_bind]
  change
    (StateT.run _
      ((engine.run request.code request.subject request.start request.options
        ((engine.createMatchData request.code).run engines).1 request.stack).run.run
          ((engine.createMatchData request.code).run engines).2).2) = _
  rcases (engine.run request.code request.subject request.start request.options
    ((engine.createMatchData request.code).run engines).1 request.stack).run.run
      ((engine.createMatchData request.code).run engines).2 with ⟨outcome, after⟩
  cases outcome <;> rfl

end Engine

namespace Adapter

variable {σ : Type}

/-- The fault of a match call that an engine failed. -/
def failure (adapter : Adapter σ) (code : Int) : Fault :=
  .engineFailed (ResultCode.isLimit code) (Text.ofString "match") code
    (adapter.engine.errorMessage code)

/-- What a report comes to. -/
def outcomeOf (adapter : Adapter σ) : Except Fault Report → Except Fault Outcome
  | .error fault => .error fault
  | .ok report =>
      if report.isMatch then .ok (.matched report.captures report.mark)
      else if report.result = ResultCode.noMatch then .ok .noMatch
      else if report.result = ResultCode.partialMatch then .ok .partialMatch
      else .error (adapter.failure report.result)

/-- The events that a report leads to: an engine that failed a call is logged. -/
def eventsOf (adapter : Adapter σ) : Except Fault Report → List Event
  | .error _ => []
  | .ok report =>
      if report.isMatch ∨ report.result = ResultCode.noMatch ∨
          report.result = ResultCode.partialMatch ∨ !adapter.isLogged then
        []
      else
        [.engineError adapter.engine.name (Text.ofString "match") report.result
          (adapter.engine.errorMessage report.result)]

/-- Match data at hand is used once and read once. -/
theorem matchWith_run (adapter : Adapter σ) (code : Handle) (subject : Bytes)
    (start options : Int) (data stack : Handle) (trace : Trace σ) :
    (adapter.matchWith code subject start options data stack).run trace =
      match (adapter.engine.run code subject start options data stack).run.run trace.engines with
      | (.error fault, engines) => (.error fault, { trace with engines })
      | (.ok result, engines) =>
          let read := (adapter.engine.readReport code data result).run engines
          (adapter.outcomeOf (.ok read.1),
            { engines := read.2
              events := trace.events ++ adapter.eventsOf (.ok read.1) }) := by
  rw [matchWith, Work.run_bind, Work.run_ofFallible]
  rcases (adapter.engine.run code subject start options data stack).run.run trace.engines with
    ⟨outcome, engines⟩
  cases outcome with
  | error fault => rfl
  | ok result =>
      by_cases noMatch : result = ResultCode.noMatch
      · subst noMatch
        simp only [adapter.engine.readReport_of_neg code data
          (show ResultCode.noMatch < 0 by decide)]
        simp [outcomeOf, eventsOf, Report.isMatch, ResultCode.noMatch]
      by_cases partialMatch : result = ResultCode.partialMatch
      · subst partialMatch
        simp only [adapter.engine.readReport_of_neg code data
          (show ResultCode.partialMatch < 0 by decide)]
        simp [outcomeOf, eventsOf, Report.isMatch, ResultCode.noMatch, ResultCode.partialMatch]
      by_cases failed : result < 0
      · have notMatch : ¬0 ≤ result := Int.not_le.mpr failed
        simp only [adapter.engine.readReport_of_neg code data failed, if_neg noMatch,
          if_neg partialMatch, if_pos failed, failMatch, Work.run_bind]
        cases logged : adapter.isLogged <;>
          simp [outcomeOf, eventsOf, Report.isMatch, notMatch, noMatch, partialMatch, logged,
            failure, Work.record, Trace.record]
      · have isMatch : 0 ≤ result := Int.not_lt.mp failed
        have found :
            ((adapter.engine.readReport code data result).run engines).1.isMatch = true := by
          rw [Report.isMatch, Engine.result_readReport]
          exact decide_eq_true isMatch
        simp only [if_neg noMatch, if_neg partialMatch, if_neg failed, outcomeOf, eventsOf, found,
          if_true, true_or, List.append_nil, ← Report.captures_eq_spansOfOffsets found]
        simp only [Engine.readReport, if_pos isMatch]
        rfl

/-- A match call is one exchange, and the rest of it depends on the report only. -/
theorem run_run (adapter : Adapter σ) (request : Request) (trace : Trace σ) :
    (adapter.run request.code request.subject request.start request.options
        request.stack).run trace =
      let exchanged := (adapter.engine.exchange request).run trace.engines
      (adapter.outcomeOf exchanged.1,
        { engines := exchanged.2
          events := trace.events ++ adapter.eventsOf exchanged.1 }) := by
  rw [run, Work.run_bind, Work.run_ofAction]
  simp only [Work.run_finally_ofAction, matchWith_run, Engine.exchange_run]
  rcases (adapter.engine.run request.code request.subject request.start request.options
    ((adapter.engine.createMatchData request.code).run trace.engines).1 request.stack).run.run
      ((adapter.engine.createMatchData request.code).run trace.engines).2 with ⟨outcome, after⟩
  cases outcome with
  | error fault => simp [outcomeOf, eventsOf]
  | ok result => rfl

end Adapter

/-! ## Execution stacks -/

namespace Engine

variable {σ : Type}

/-- A new execution stack; none when the engine does without. -/
def makeStack (engine : Engine σ) : StateM σ Handle :=
  match engine.createStack with
  | some create => if engine.capabilities.executionStack then create else pure 0
  | none => pure 0

/-- Give an execution stack back, if there is one. -/
def dropStack (engine : Engine σ) (stack : Handle) : StateM σ Unit :=
  match engine.releaseStack with
  | some release => if stack = 0 then pure () else release stack
  | none => pure ()

end Engine

namespace Adapter

variable {σ : Type}

theorem createStack_run (adapter : Adapter σ) (trace : Trace σ) :
    adapter.createStack.run trace =
      (.ok (adapter.engine.makeStack.run trace.engines).1,
        { trace with engines := (adapter.engine.makeStack.run trace.engines).2 }) := by
  unfold createStack Engine.makeStack
  cases adapter.engine.createStack with
  | none => rfl
  | some create =>
      dsimp only
      split <;> rfl

theorem releaseStack_run (adapter : Adapter σ) (stack : Handle) (trace : Trace σ) :
    (adapter.releaseStack stack).run trace =
      (.ok (),
        { trace with engines := ((adapter.engine.dropStack stack).run trace.engines).2 }) := by
  unfold releaseStack Engine.dropStack
  cases adapter.engine.releaseStack with
  | none => rfl
  | some release =>
      dsimp only
      split <;> rfl

end Adapter

end RegexMatching
