import RegexMatching.Backtrack.Assembly
import RegexMatching.Backtrack.Matcher
import RegexMatching.Engine.Backend
import RegexMatching.Lowering.Rendering
import RegexMatching.Text.Coordinates

/-!
# The backtracking engine

A pattern is lowered once.  For every match call the lowered pattern is rendered
for the line edges and the anchoring that the call asks for, and the rendering is
matched by backtracking.  The rendering without any such request is read when the
pattern is compiled, so only the other ones can fail later.
-/

namespace RegexMatching

open Lowering

/-- A lowered pattern and the anchoring it was compiled with. -/
structure BacktrackCode where
  lowered : Lowered
  anchored : Bool
  endAnchored : Bool

namespace BacktrackCode

/-- The anchoring a match call leads to, together with the code's own. -/
def withOwnAnchoring (code : BacktrackCode) (options : MatchOptions) : MatchOptions :=
  { options with
    anchored := options.anchored || code.anchored
    endAnchored := options.endAnchored || code.endAnchored }

/-- A source that only matches at the end of the subject. -/
def endAnchor (source : Text) : Text :=
  Text.ofString "(?:" ++ source ++ Text.ofString ")(?![\\s\\S])"

/-- The expression for the line edges and the end anchoring of a match call. -/
def regex? (code : BacktrackCode) (options : MatchOptions) : Option Backtrack.Regex :=
  let source := code.lowered.render { notBol := options.notBol, notEol := options.notEol }
  let source := if options.endAnchored then endAnchor source else source
  Backtrack.Regex.ofPoints? source.points code.lowered.caseless

end BacktrackCode

/-! ## Compiling and searching -/

namespace Backtracking

/-- Why lowering failed, at the byte where it did. -/
def rejectionOf (pattern : Text) (failure : Failure) : Rejection where
  code := ResultCode.internal
  description := .text failure.cause.message
  offset :=
    match (Coordinates.ofText pattern).byteAt
        (min (failure.offset pattern) pattern.length) with
    | .ok byte => byte
    | .error _ => -1

/-- Lower a pattern, and read its plain rendering. -/
def compile (bytes : Bytes) (options : CompileOptions) :
    Except Rejection BacktrackCode :=
  let pattern := Utf8.decodeText bytes
  let loweringOptions : Lowering.Options :=
    { caseless := options.caseless
      dotAll := options.dotAll
      multiline := options.multiline
      literal := options.literal
      extended := options.extended
      unicodeClasses := options.unicodeClasses
      newlineLf := options.newlineLf }
  match lower loweringOptions pattern with
  | .error failure => .error (rejectionOf pattern failure)
  | .ok lowered =>
      let code : BacktrackCode :=
        { lowered
          anchored := options.anchored
          endAnchored := options.endAnchored }
      if (code.regex? (code.withOwnAnchoring {})).isSome then
        .ok code
      else
        .error { code := ResultCode.internal, description := .engineOwn }

/-- Search from a position on, or match at it only. -/
def search (code : BacktrackCode) (text : PointText) (position : Nat)
    (options : MatchOptions) : Except Fault (Option PointSpans) :=
  let options := code.withOwnAnchoring options
  match code.regex? options with
  | none => .error .badBacktrackVariant
  | some regex => .ok (regex.exec options.anchored text.points position)

/-- Words for the result codes. -/
def errorText? (code : Int) : Option String :=
  [ (ResultCode.noMatch, "no match"),
    (ResultCode.partialMatch, "partial match"),
    (ResultCode.badHandle, "invalid or released handle"),
    (ResultCode.badOffset, "bad offset value"),
    (ResultCode.badOption, "bad option value"),
    (ResultCode.unsupportedOption, "option not supported by this engine"),
    (ResultCode.matchLimit, "match limit exceeded"),
    (ResultCode.depthLimit, "depth limit exceeded"),
    (ResultCode.heapLimit, "heap limit exceeded"),
    (ResultCode.internal, "internal error") ].lookup code

/-- Matching by backtracking: everything but partial matches. -/
def backend : Backend BacktrackCode where
  kind := .backtracking
  compile := compile
  captureCount := fun code => code.lowered.captureCount
  names := fun code => code.lowered.names
  honours := fun options => !options.partialSoft
  search := search
  errorText? := errorText?

end Backtracking

end RegexMatching
