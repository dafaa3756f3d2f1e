import RegexMatching.Engine.Event
import RegexMatching.Snapshot
import RegexMatching.Text.Coordinates

/-!
# The single point of contact with an engine

An adapter takes pattern text where the engine takes bytes, makes a syntax error
of what the engine rejects, lets match data live for one call only, and turns
result codes into outcomes.
-/

namespace RegexMatching

/-- The outcome of one match call: the spans of all groups in bytes of the
subject, and the last backtracking mark. -/
inductive Outcome where
  | matched (captures : List Span) (mark : Option Text)
  | noMatch
  | partialMatch

/-- The spans of `count` groups by the offsets an engine reports.  Of these only
the first `set` groups count, or all when `set` is zero. -/
def spansOfOffsets (offsets : List Int) (set count : Nat) : List Span :=
  (List.range count).map fun group =>
    match offsets[group * 2]?, offsets[group * 2 + 1]? with
    | some start, some stop =>
        if (set = 0 || group < set) && 0 ≤ start && 0 ≤ stop then ⟨start, stop⟩
        else .unset
    | _, _ => .unset

/-- An engine and the handles that were released through the adapter. -/
structure Adapter (σ : Type) where
  engine : Engine σ
  /-- Whether events are logged. -/
  isLogged : Bool
  released : List Handle := []

namespace Adapter

variable {σ : Type}

/-! ## Compiling -/

/-- The syntax error for what an engine rejected.  The offending offset is taken
back from bytes to units and on to what the caller wrote. -/
def syntaxFault (pattern : Text) (rejection : Rejection) (mapIndex : Int → Int)
    (displayed : Text) : Fault :=
  let index :=
    if rejection.offset < 0 then -1
    else
      mapIndex ((Coordinates.ofText pattern).floorUnitAt rejection.offset.toNat)
  .badPattern rejection.description displayed index

/-- Compile pattern text.  Errors show `displayed`, into which `mapIndex` takes
the offsets of the pattern. -/
def compile (adapter : Adapter σ) (pattern : Text) (options : Int)
    (mapIndex : Int → Int) (displayed : Text) : Work σ (Handle × Adapter σ) := do
  match ← Work.ofAction (adapter.engine.compile (Utf8.encode pattern) options) with
  | .compiled handle =>
      return (handle,
        { adapter with released := adapter.released.filter (· != handle) })
  | .rejected rejection =>
      Work.record adapter.isLogged
        (.compileError adapter.engine.name rejection.code rejection.offset)
      throw (syntaxFault pattern rejection mapIndex displayed)

def captureCount (adapter : Adapter σ) (code : Handle) : Work σ Nat :=
  Work.ofAction (adapter.engine.captureCount code)

def nameTable (adapter : Adapter σ) (code : Handle) : Work σ (List GroupName) :=
  Work.ofAction (adapter.engine.nameTable code)

/-! ## Matching -/

/-- Log that the engine failed a match call, and fail. -/
def failMatch {α : Type} (adapter : Adapter σ) (code : Int) : Work σ α := do
  let operation := Text.ofString "match"
  let message := adapter.engine.errorMessage code
  Work.record adapter.isLogged
    (.engineError adapter.engine.name operation code message)
  throw (.engineFailed (ResultCode.isLimit code) operation code message)

/-- Match with match data at hand. -/
def matchWith (adapter : Adapter σ) (code : Handle) (subject : Bytes)
    (start options : Int) (data stack : Handle) : Work σ Outcome := do
  let result ←
    Work.ofFallible (adapter.engine.run code subject start options data stack)
  if result = ResultCode.noMatch then
    return .noMatch
  else if result = ResultCode.partialMatch then
    return .partialMatch
  else if result < 0 then
    adapter.failMatch result
  else
    let groups ← adapter.captureCount code
    let offsets ← Work.ofAction (adapter.engine.captureOffsets data)
    let mark ← Work.ofAction (adapter.engine.mark data)
    return .matched (spansOfOffsets offsets result.toNat (groups + 1)) mark

/-- Match code against a subject.  Match data lives for this call only. -/
def run (adapter : Adapter σ) (code : Handle) (subject : Bytes)
    (start options : Int) (stack : Handle) : Work σ Outcome := do
  let data ← Work.ofAction (adapter.engine.createMatchData code)
  (adapter.matchWith code subject start options data stack).finally
    (Work.ofAction (adapter.engine.freeMatchData data))

/-! ## Stacks and releases -/

/-- A new execution stack; none when the engine does without. -/
def createStack (adapter : Adapter σ) : Work σ Handle :=
  match adapter.engine.createStack with
  | some create =>
      if adapter.engine.capabilities.executionStack then Work.ofAction create
      else pure 0
  | none => pure 0

/-- Release an execution stack. -/
def releaseStack (adapter : Adapter σ) (stack : Handle) : Work σ Unit :=
  match adapter.engine.releaseStack with
  | some release => if stack = 0 then pure () else Work.ofAction (release stack)
  | none => pure ()

/-- Release compiled code once; releasing it again does nothing. -/
def release (adapter : Adapter σ) (code : Handle) : Work σ (Adapter σ) :=
  if code = 0 || adapter.released.contains code then
    pure adapter
  else do
    Work.ofAction (adapter.engine.release code)
    Work.record adapter.isLogged (.release adapter.engine.name code)
    return { adapter with released := code :: adapter.released }

/-- Release code in turn. -/
def releaseAll (adapter : Adapter σ) : List Handle → Work σ (Adapter σ)
  | [] => pure adapter
  | code :: rest => do
      let adapter ← adapter.release code
      adapter.releaseAll rest

end Adapter

end RegexMatching
