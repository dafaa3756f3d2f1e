import RegexMatching.Lowering.Reader

/-!
# Rendering lowered patterns

Rendering fills in the line anchors for one way of treating the ends of the
subject.  Unless a line feed is the only terminator, a carriage return and a
line feed together are one terminator, and no line edge lies between them.
-/

namespace RegexMatching.Lowering

/-- How the ends of the subject are treated. -/
structure Edges where
  /-- The start of the subject does not begin a line. -/
  notBol : Bool := false
  /-- The end of the subject does not end a line. -/
  notEol : Bool := false
deriving DecidableEq, Repr

/-- A source that never matches. -/
def never : Text :=
  Text.ofString "(?!)"

/-- Any one line terminator. -/
def terminatorSource (newlineLf : Bool) : Text :=
  if newlineLf then Text.ofString "\\n" else bracketed lineTerminators

/-- A line terminator that may be two characters long. -/
def longTerminatorSource (newlineLf : Bool) : Text :=
  if newlineLf then Text.ofString "\\n"
  else
    Text.ofString "(?:\\r\\n|" ++ bracketed lineTerminators ++ Text.ofString ")"

/-- Not between a carriage return and a line feed. -/
def notInsideCrlf (newlineLf : Bool) : Text :=
  if newlineLf then [] else Text.ofString "(?!(?<=\\r)\\n)"

/-- At the end, or before a line terminator there. -/
def softEnd (newlineLf : Bool) : Text :=
  Text.ofString "(?=" ++ longTerminatorSource newlineLf ++ Text.ofString "?" ++
    subjectEndSource ++ Text.ofString ")" ++ notInsideCrlf newlineLf

/-- After a line terminator and before a character. -/
def afterTerminator (newlineLf : Bool) : Text :=
  if newlineLf then Text.ofString "(?<=\\n)(?=[\\s\\S])"
  else
    Text.ofString
      "(?:(?<=[\\n\\u0085\\u2028\\u2029])|(?<=\\r)(?!\\n))(?=[\\s\\S])"

/-- The source of an anchor. -/
def Anchor.render (anchor : Anchor) (multiline newlineLf : Bool) (edges : Edges) :
    Text :=
  match anchor with
  | .subjectEnd => softEnd newlineLf
  | .lineStart =>
      if multiline then
        if edges.notBol then afterTerminator newlineLf
        else
          Text.ofString "(?:" ++ subjectStartSource ++ Text.ofString "|" ++
            afterTerminator newlineLf ++ Text.ofString ")"
      else
        if edges.notBol then never else subjectStartSource
  | .lineEnd =>
      if multiline then
        if edges.notEol then
          Text.ofString "(?=" ++ terminatorSource newlineLf ++
            Text.ofString ")" ++ notInsideCrlf newlineLf
        else
          Text.ofString "(?=" ++ terminatorSource newlineLf ++
            Text.ofString "|" ++ subjectEndSource ++ Text.ofString ")" ++
            notInsideCrlf newlineLf
      else
        if edges.notEol then never else softEnd newlineLf

/-- The source of a piece. -/
def Piece.render (piece : Piece) (multiline newlineLf : Bool) (edges : Edges) :
    Text :=
  match piece with
  | .source text => text
  | .anchor place => place.render multiline newlineLf edges

/-- The source of a lowered pattern for one way of treating the edges. -/
def Lowered.render (lowered : Lowered) (edges : Edges) : Text :=
  lowered.pieces.flatMap fun piece =>
    piece.render lowered.multiline lowered.newlineLf edges

/-! ## Pieces without seams -/

/-- Join neighbouring sources and leave out empty ones. -/
def joinPieces : List Piece → List Piece
  | [] => []
  | .anchor place :: rest => .anchor place :: joinPieces rest
  | .source text :: rest =>
      match joinPieces rest with
      | .source more :: tail => .source (text ++ more) :: tail
      | tail => if text.isEmpty then tail else .source text :: tail

end RegexMatching.Lowering
