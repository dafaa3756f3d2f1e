import RegexMatching.Group
import RegexMatching.Options
import RegexMatching.Text.Utf8

/-!
# The contract of an engine

An engine matches bytes.  Compiled code, match data and execution stacks are
handles, which the caller owns and must release; zero is no handle.  All offsets
are byte offsets.  The operations act on a state that is a parameter, so that
several engines can share one.
-/

namespace RegexMatching

/-- A handle on something an engine owns. -/
abbrev Handle := Int

/-- What an engine is able to do. -/
structure Capabilities where
  /-- Anchored variants can be compiled as code of their own. -/
  anchoredVariants : Bool
  /-- Partial matches are reported. -/
  partialMatching : Bool
  /-- Match calls may say that an end of the subject is no end of a line. -/
  lineBoundaryOptions : Bool
  /-- Matching needs an execution stack. -/
  executionStack : Bool
deriving DecidableEq, Repr

/-! ## Return codes -/

namespace ResultCode

def noMatch : Int := -1
def partialMatch : Int := -2
def badHandle : Int := -30
def badOffset : Int := -33
def badOption : Int := -34
def unsupportedOption : Int := -35
def internal : Int := -44
def matchLimit : Int := -47
def depthLimit : Int := -52
def heapLimit : Int := -63

/-- Whether a code says that a resource ran out. -/
def isLimit (code : Int) : Bool :=
  code == matchLimit || code == depthLimit || code == heapLimit

end ResultCode

/-! ## Engines -/

/-- Why a pattern was not compiled, and the byte offset of the fault, which is -1
when unknown. -/
structure Rejection where
  code : Int
  description : Description
  offset : Int := -1

/-- The outcome of compiling. -/
inductive CompileResult where
  | compiled (handle : Handle)
  | rejected (rejection : Rejection)

/-- An engine whose operations act on a state of type `σ`. -/
structure Engine (σ : Type) where
  name : Text
  capabilities : Capabilities
  /-- Compile pattern bytes under option bits. -/
  compile : Bytes → Int → StateM σ CompileResult
  captureCount : Handle → StateM σ Nat
  nameTable : Handle → StateM σ (List GroupName)
  /-- Room for the captures of one match of the given code. -/
  createMatchData : Handle → StateM σ Handle
  /-- Starts and ends of the groups of the last match, in turn. -/
  captureOffsets : Handle → StateM σ (List Int)
  /-- The last backtracking mark passed, where the engine has marks. -/
  mark : Handle → StateM σ (Option Text)
  freeMatchData : Handle → StateM σ Unit
  /-- Absent from engines without execution stacks. -/
  createStack : Option (StateM σ Handle)
  releaseStack : Option (Handle → StateM σ Unit)
  /-- Match code against a subject from a start offset under option bits, with
  match data and a stack.  A positive result counts the groups set. -/
  run : Handle → Bytes → Int → Int → Handle → Handle → ExceptT Fault (StateM σ) Int
  /-- The engine's words for a result code. -/
  errorMessage : Int → Text
  /-- Release compiled code. -/
  release : Handle → StateM σ Unit

namespace Engine

/-- An engine that acts on a part of a larger state. -/
def onPart {σ τ : Type} (engine : Engine τ) (get : σ → τ) (set : τ → σ → σ) :
    Engine σ :=
  let lift {α : Type} (action : StateM τ α) : StateM σ α := fun state =>
    let (value, part) := action (get state)
    (value, set part state)
  { name := engine.name
    capabilities := engine.capabilities
    compile := fun pattern options => lift (engine.compile pattern options)
    captureCount := fun code => lift (engine.captureCount code)
    nameTable := fun code => lift (engine.nameTable code)
    createMatchData := fun code => lift (engine.createMatchData code)
    captureOffsets := fun data => lift (engine.captureOffsets data)
    mark := fun data => lift (engine.mark data)
    freeMatchData := fun data => lift (engine.freeMatchData data)
    createStack := engine.createStack.map lift
    releaseStack := engine.releaseStack.map fun release stack =>
      lift (release stack)
    run := fun code subject start options data stack =>
      ExceptT.mk (lift (engine.run code subject start options data stack).run)
    errorMessage := engine.errorMessage
    release := fun code => lift (engine.release code) }

end Engine

end RegexMatching
