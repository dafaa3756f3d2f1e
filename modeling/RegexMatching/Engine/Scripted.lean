import RegexMatching.Engine

/-!
# Scripted engines

A scripted engine matches nothing: it hands out the answers of a script in turn
and records every call.  It shows what the callers of an engine ask of it.
-/

namespace RegexMatching

/-- The answer to one match call. -/
structure ScriptedAnswer where
  result : Int
  offsets : List Int := []
  mark : Option Text := none

/-- What a scripted engine answers. -/
structure Script where
  capabilities : Capabilities :=
    { anchoredVariants := false
      partialMatching := false
      lineBoundaryOptions := true
      executionStack := false }
  captureCount : Nat := 0
  names : List GroupName := []
  /-- The compile calls that fail, by their number counted from zero; the last
  entry for a call counts. -/
  compileFailures : List (Nat × Rejection) := []
  /-- Answers to match calls; beyond them there is no match. -/
  answers : List ScriptedAnswer := []
  /-- Words for result codes; the last entry for a code counts. -/
  errorMessages : List (Int × Text) := []

/-- A recorded match call. -/
structure MatchCall where
  code : Handle
  subject : Text
  start : Int
  options : Int
  stack : Handle

/-- What a scripted engine has been asked, and the match data it holds. -/
structure Recording where
  nextHandle : Handle := 1
  compiled : List (Text × Int) := []
  matchCalls : List MatchCall := []
  released : List Handle := []
  stacksCreated : List Handle := []
  stacksReleased : List Handle := []
  liveMatchData : List Handle := []
  /-- Answers by match data, the latest first. -/
  answered : List (Handle × ScriptedAnswer) := []

namespace Recording

/-- Give out the next handle. -/
def takeHandle (recording : Recording) : Handle × Recording :=
  (recording.nextHandle, { recording with nextHandle := recording.nextHandle + 1 })

/-- Forget match data and its answer. -/
def dropMatchData (recording : Recording) (data : Handle) : Recording :=
  { recording with
    liveMatchData := recording.liveMatchData.filter (· != data)
    answered := recording.answered.filter fun entry => entry.1 != data }

end Recording

namespace Script

/-- Record a compile call and answer it. -/
def compile (script : Script) (pattern : Bytes) (options : Int)
    (recording : Recording) : CompileResult × Recording :=
  let call := recording.compiled.length
  let recording :=
    { recording with
      compiled := recording.compiled ++ [(Utf8.decodeText pattern, options)] }
  match script.compileFailures.reverse.lookup call with
  | some rejection => (.rejected rejection, recording)
  | none =>
      let (handle, recording) := recording.takeHandle
      (.compiled handle, recording)

/-- Record a match call and answer it. -/
def run (script : Script) (code : Handle) (subject : Bytes)
    (start options : Int) (data stack : Handle) (recording : Recording) :
    Int × Recording :=
  let call := recording.matchCalls.length
  let recording :=
    { recording with
      matchCalls := recording.matchCalls ++
        [{ code, subject := Utf8.decodeText subject, start, options, stack }] }
  match script.answers[call]? with
  | some answer =>
      (answer.result,
        { recording with answered := (data, answer) :: recording.answered })
  | none => (ResultCode.noMatch, recording)

/-- The engine that follows a script. -/
def toEngine (script : Script) : Engine Recording where
  name := Text.ofString "scripted"
  capabilities := script.capabilities
  compile := script.compile
  captureCount := fun _ recording => (script.captureCount, recording)
  nameTable := fun _ recording => (script.names, recording)
  createMatchData := fun _ recording =>
    let (handle, recording) := recording.takeHandle
    (handle, { recording with liveMatchData := handle :: recording.liveMatchData })
  captureOffsets := fun data recording =>
    (((recording.answered.lookup data).map ScriptedAnswer.offsets).getD [], recording)
  mark := fun data recording =>
    ((recording.answered.lookup data).bind ScriptedAnswer.mark, recording)
  freeMatchData := fun data recording => ((), recording.dropMatchData data)
  createStack := some fun recording =>
    let (handle, recording) := recording.takeHandle
    (handle, { recording with stacksCreated := recording.stacksCreated ++ [handle] })
  releaseStack := some fun stack recording =>
    ((), { recording with stacksReleased := recording.stacksReleased ++ [stack] })
  run := fun code subject start options data stack recording =>
    let (result, recording) :=
      script.run code subject start options data stack recording
    (.ok result, recording)
  errorMessage := fun code =>
    match script.errorMessages.reverse.lookup code with
    | some words => words
    | none => Text.ofString "scripted error " ++ Text.ofInt code
  release := fun code recording =>
    ((), { recording with released := recording.released ++ [code] })

end Script

end RegexMatching
