import RegexMatching.Engine
import RegexMatching.Number

/-!
# Events

What a caller may follow in a log: compiling, the choice of anchored code,
releases, and failures of an engine.  Only failures are of interest to everyone;
the other events are for debugging.
-/

namespace RegexMatching

/-- How widely an event is of interest. -/
inductive EventLevel where
  | info
  | debug
deriving DecidableEq, Repr

/-- Why anchored matching does without code of its own. -/
inductive FallbackReason where
  /-- The caller asked for it. -/
  | disabled
  /-- The engine cannot compile such code. -/
  | unsupported
deriving DecidableEq, Repr

/-- A logged event of a named engine. -/
inductive Event where
  | compileError (engine : Text) (code offset : Int)
  | engineError (engine operation : Text) (code : Int) (message : Text)
  | release (engine : Text) (handle : Handle)
  | variantFallback (engine pattern : Text) (reason : FallbackReason)
  | compile (engine pattern : Text) (flags : Number)

/-- The level an event is logged at. -/
def Event.level : Event → EventLevel
  | engineError .. => .info
  | _ => .debug

/-- Engines at work: their state, and the events logged so far. -/
structure Trace (σ : Type) where
  engines : σ
  events : List Event := []

/-- Work with engines that may fail.  What was done before a failure stays
done. -/
abbrev Work (σ α : Type) := ExceptT Fault (StateM (Trace σ)) α

namespace Trace

variable {σ : Type}

/-- Log an event. -/
def record (trace : Trace σ) (event : Event) : Trace σ :=
  { trace with events := trace.events ++ [event] }

end Trace

/-- Let engines act. -/
def Work.ofAction {σ α : Type} (action : StateM σ α) : Work σ α :=
  ExceptT.mk fun trace =>
    let (value, engines) := action trace.engines
    (.ok value, { trace with engines })

/-- Let engines act in a way that may fail. -/
def Work.ofFallible {σ α : Type} (action : ExceptT Fault (StateM σ) α) : Work σ α :=
  ExceptT.mk fun trace =>
    let (outcome, engines) := action.run trace.engines
    (outcome, { trace with engines })

/-- Log an event, if events are logged. -/
def Work.record {σ : Type} (isLogged : Bool) (event : Event) : Work σ Unit :=
  ExceptT.mk fun trace =>
    (.ok (), if isLogged then trace.record event else trace)

/-- Fail for a cause, or go on with a value. -/
def Work.ofExcept {σ α : Type} (outcome : Except Fault α) : Work σ α :=
  ExceptT.mk fun trace => (outcome, trace)

/-- Clean up when the work fails; it fails all the same. -/
def Work.onFailure {σ α β : Type} (work : Work σ α) (cleanup : Work σ β) : Work σ α :=
  ExceptT.mk fun trace =>
    match work.run trace with
    | (.ok value, trace) => (.ok value, trace)
    | (.error fault, trace) => (.error fault, (cleanup.run trace).2)

/-- Do some last work whether or not the first work failed. -/
def Work.finally {σ α : Type} (work : Work σ α) (last : Work σ Unit) : Work σ α :=
  ExceptT.mk fun trace =>
    let (outcome, trace) := work.run trace
    let (ending, trace) := last.run trace
    match outcome, ending with
    | .ok value, .ok () => (.ok value, trace)
    | _, .error fault => (.error fault, trace)
    | .error fault, .ok () => (.error fault, trace)

end RegexMatching
