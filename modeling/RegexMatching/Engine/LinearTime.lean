import RegexMatching.Engine.Backend
import RegexMatching.Linear.Assembly
import RegexMatching.Linear.Matcher

/-!
# The linear-time engine

A pattern is compiled to a program.  A call that has to reach the end of the
subject uses a second program, for the pattern with the end of the text behind it;
a call that has to match at the start searches all the same and drops a match that
lies further on.
-/

namespace RegexMatching

/-- A pattern with the options it was compiled with. -/
structure LinearCode where
  source : List Nat
  flags : Linear.Flags
  regex : Linear.Regex
  anchored : Bool
  endAnchored : Bool

namespace LinearTime

/-! ## Compiling -/

/-- Escape the punctuation that has a meaning. -/
def escapeLiteral (points : List Nat) : List Nat :=
  points.flatMap fun point =>
    if ".*+?^$\x7b\x7d()|[]\\".toList.any (·.toNat == point) then
      ['\\'.toNat, point]
    else
      [point]

/-- What is refused before the pattern is read. -/
def refusal? (options : CompileOptions) : Option String :=
  if options.extended then
    some "extended (comments) mode is not supported by the re2 engine"
  else if options.unicodeClasses then
    some "Unicode character classes are not supported by the re2 engine"
  else
    none

/-- Read a pattern. -/
def compile (bytes : Bytes) (options : CompileOptions) : Except Rejection LinearCode :=
  match refusal? options with
  | some words =>
      .error
        { code := ResultCode.unsupportedOption
          description := .text (Text.ofString words) }
  | none =>
      let pattern := Utf8.decode bytes
      let source := if options.literal then escapeLiteral pattern else pattern
      let flags : Linear.Flags :=
        { caseless := options.caseless
          multiline := options.multiline
          dotAll := options.dotAll }
      match Linear.Regex.ofPoints? source flags with
      | none => .error { code := ResultCode.internal, description := .engineOwn }
      | some regex =>
          .ok { source, flags, regex
                anchored := options.anchored
                endAnchored := options.endAnchored }

/-! ## Searching -/

/-- A pattern with the end of the text behind it. -/
def endAnchor (source : List Nat) : List Nat :=
  "(?:".toList.map Char.toNat ++ source ++ ")\\z".toList.map Char.toNat

/-- The expression for the end anchoring of a match call. -/
def regex? (code : LinearCode) (endAnchored : Bool) : Option Linear.Regex :=
  if endAnchored then
    Linear.Regex.ofPoints? (endAnchor code.source) code.flags
  else
    some code.regex

/-- Search from a position on.  When the match has to start there, a later one
does not count. -/
def search (code : LinearCode) (text : PointText) (position : Nat)
    (options : MatchOptions) : Except Fault (Option PointSpans) :=
  match regex? code (options.endAnchored || code.endAnchored) with
  | none => .error .badLinearVariant
  | some regex =>
      let spans := regex.search text.points position
      let start := (spans.bind (·.head?)).join.map Prod.fst
      if (options.anchored || code.anchored) && start != some position then .ok none
      else .ok spans

/-- Names of groups in the order of the groups. -/
def nameTable (code : LinearCode) : List GroupName :=
  code.regex.names.map fun (name, group) => ⟨Text.ofPoints name, group⟩

/-- Words for the result codes. -/
def errorText? (code : Int) : Option String :=
  [ (ResultCode.noMatch, "no match"),
    (ResultCode.badHandle, "invalid or released handle"),
    (ResultCode.badOffset, "bad offset value"),
    (ResultCode.badOption, "bad option value"),
    (ResultCode.unsupportedOption, "option not supported by the re2 engine"),
    (ResultCode.internal, "internal error") ].lookup code

/-- Matching in linear time: no line edges other than those of the subject, and no
partial matches. -/
def backend : Backend LinearCode where
  kind := .linear
  compile := compile
  captureCount := fun code => code.regex.captureCount
  names := nameTable
  honours := fun options =>
    !options.notBol && !options.notEol && !options.partialSoft
  search := search
  errorText? := errorText?

end LinearTime

end RegexMatching
