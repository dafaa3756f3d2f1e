import RegexMatching.Engine.Catalog
import RegexMatching.Engine.Store
import RegexMatching.Text.Points

/-!
# Engines from matchers

A `Backend` is what sets one engine apart from another: how it compiles, how it
searches and which options it honours.  `Backend.toEngine` adds what all of them
share: handles, match data, and the checks on the arguments of a match call.
-/

namespace RegexMatching

/-- A way of matching, with code of type `κ`. -/
structure Backend (κ : Type) where
  kind : EngineKind
  compile : Bytes → CompileOptions → Except Rejection κ
  captureCount : κ → Nat
  names : κ → List GroupName
  /-- Whether a match call may ask for the options. -/
  honours : MatchOptions → Bool
  /-- Search a subject from a position on. -/
  search : κ → PointText → Nat → MatchOptions → Except Fault (Option PointSpans)
  /-- Words for the result codes that have some. -/
  errorText? : Int → Option String

/-- The outcome of a match call: a result code, or the offsets of all groups
and how many of them count. -/
inductive Answer where
  | code (code : Int)
  | captures (count : Nat) (offsets : List Int)

/-- How many spans there are up to the last one that is set. -/
def countUpToLastSet (spans : PointSpans) : Nat :=
  (spans.reverse.dropWhile Option.isNone).length

/-- Fill `slots` pairs of offsets from spans. -/
def Answer.ofSpans (text : PointText) (slots : Nat) (spans : PointSpans) : Answer :=
  let kept := spans.take slots
  .captures (countUpToLastSet kept)
    ((kept ++ List.replicate (slots - kept.length) none).flatMap text.spanOffsets)

namespace Backend

variable {κ : Type}

/-- Match code against a subject, with room for the given number of groups.
The start has to lie between two code points. -/
def answer (backend : Backend κ) (code : κ) (slots : Nat) (subject : Bytes)
    (start options : Int) : Except Fault Answer :=
  match MatchOptions.ofBits? options with
  | none => .ok (.code ResultCode.badOption)
  | some options =>
      if !backend.honours options then
        .ok (.code ResultCode.unsupportedOption)
      else if start < 0 || (subject.length : Int) < start then
        .ok (.code ResultCode.badOffset)
      else
        let text := PointText.ofBytes subject
        match text.positionAt? start.toNat with
        | none => .ok (.code ResultCode.badOffset)
        | some position =>
            (backend.search code text position options).map fun
              | none => .code ResultCode.noMatch
              | some spans => .ofSpans text slots spans

/-- Match stored code and store the captures. -/
def run (backend : Backend κ) (code : Handle) (subject : Bytes)
    (start options : Int) (data : Handle) (store : Store κ) :
    Except Fault Int × Store κ :=
  match store.code? code, store.matchData? data with
  | some compiled, some offsets =>
      match backend.answer compiled (offsets.length / 2) subject start options with
      | .error fault => (.error fault, store)
      | .ok (.code result) => (.ok result, store)
      | .ok (.captures count offsets) =>
          (.ok count, store.setMatchData data offsets)
  | _, _ => (.ok ResultCode.badHandle, store)

/-- Compile a pattern and store the code. -/
def compileInto (backend : Backend κ) (pattern : Bytes) (options : Int)
    (store : Store κ) : CompileResult × Store κ :=
  match CompileOptions.ofBits? options with
  | none =>
      (.rejected
        { code := ResultCode.badOption
          description := .text (Text.ofString "unknown compile option bits") },
        store)
  | some options =>
      match backend.compile pattern options with
      | .error rejection => (.rejected rejection, store)
      | .ok code =>
          let (handle, store) := store.addCode code
          (.compiled handle, store)

/-- Make room for the captures of stored code. -/
def createMatchData (backend : Backend κ) (code : Handle) (store : Store κ) :
    Handle × Store κ :=
  match store.code? code with
  | none => (0, store)
  | some compiled =>
      store.addMatchData
        (List.replicate ((backend.captureCount compiled + 1) * 2) (-1))

/-- The words for a result code. -/
def errorMessage (backend : Backend κ) (code : Int) : Text :=
  match backend.errorText? code with
  | some words => Text.ofString words
  | none => Text.ofString "unknown error " ++ Text.ofInt code

/-- The engine that matches in a backend's way.  It has no execution stacks and
no marks. -/
def toEngine (backend : Backend κ) : Engine (Store κ) where
  name := backend.kind.name
  capabilities := backend.kind.capabilities
  compile := backend.compileInto
  captureCount := fun code store =>
    (((store.code? code).map backend.captureCount).getD 0, store)
  nameTable := fun code store =>
    (((store.code? code).map backend.names).getD [], store)
  createMatchData := backend.createMatchData
  captureOffsets := fun data store => ((store.matchData? data).getD [], store)
  mark := fun _ store => (none, store)
  freeMatchData := fun data store => ((), store.dropMatchData data)
  createStack := none
  releaseStack := none
  run := fun code subject start options data _ =>
    ExceptT.mk (backend.run code subject start options data)
  errorMessage := backend.errorMessage
  release := fun code store => ((), store.dropCode code)

end Backend

end RegexMatching
