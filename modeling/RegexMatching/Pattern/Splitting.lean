import RegexMatching.Matcher.Replacing

/-!
# Splitting and testing

A pattern splits a text around its matches, all at once or piece by piece, and
tests texts.  Every operation uses a matcher of its own and closes it.
-/

namespace RegexMatching

namespace Pattern

variable {σ : Type}

/-- Work with a matcher of its own, which is closed at the end. -/
def withMatcher {α : Type} (pattern : Pattern σ) (text : Text)
    (matching : Matching σ α) : Work σ α := do
  let matcher ← Matcher.create pattern text {}
  (matching.on matcher).finally (discard matcher.close)

/-! ## Testing -/

/-- Whether the pattern is found in a text. -/
def occursIn (pattern : Pattern σ) (text : Text) : Work σ Bool :=
  pattern.withMatcher text Matcher.find

/-- Whether the pattern matches the whole of a text. -/
def matchesWhole (pattern : Pattern σ) (text : Text) : Work σ Bool :=
  pattern.withMatcher text Matcher.matchWhole

/-- Compile an expression, and test whether it matches the whole of a text. -/
def testOnce (engine : Engine σ) (source text : Text) : Work σ Bool := do
  let pattern ← compile engine false source (.ofNat 0) {}
  let test : Work σ Bool := do
    let matcher ← Matcher.create pattern text {}
    Matcher.matchWhole.on matcher
  test.finally (discard pattern.close)

/-! ## Splitting -/

/-- How a text is split. -/
structure SplitRule where
  /-- A positive limit bounds the number of pieces, zero drops empty pieces at
  the end, and any other limit keeps them. -/
  limit : Number := .ofNat 0
  /-- The matches are kept between the pieces. -/
  withDelimiters : Bool := false

/-- Whether one more match may be split at. -/
def SplitRule.allows (rule : SplitRule) (splits : Nat) : Bool :=
  !rule.limit.gt 0 || rule.limit.gt (splits + 1)

/-- Pieces in front of matches, and where the text behind them starts. -/
structure Pieces where
  pieces : List Text
  index : Int

/-- Collect pieces in front of matches. -/
def collectPieces (rule : SplitRule) (text : Text) :
    Nat → Nat → Pieces → Matching σ Pieces
  | 0, _, collected => return collected
  | fuel + 1, splits, collected => do
      if !(← Matcher.find) then
        return collected
      if !rule.allows splits then
        return collected
      let span := (← get).previous.getD .unset
      if collected.index = 0 && span.start = 0 && span.stop = 0 then
        collectPieces rule text fuel splits collected
      else
        let piece := text.slice collected.index span.start
        let delimiter :=
          if rule.withDelimiters then [text.slice span.start span.stop] else []
        collectPieces rule text fuel (splits + 1)
          { pieces := collected.pieces ++ piece :: delimiter
            index := span.stop }

/-- Drop empty pieces at the end. -/
def dropEmptyTail (pieces : List Text) : List Text :=
  (pieces.reverse.dropWhile List.isEmpty).reverse

/-- All pieces, with the text behind the last match. -/
def Pieces.complete (collected : Pieces) (rule : SplitRule) (text : Text) : List Text :=
  if collected.index = 0 then
    [text]
  else
    let pieces := collected.pieces ++ [text.sliceFrom collected.index]
    if rule.limit.equals 0 then dropEmptyTail pieces else pieces

/-- Split a text around the matches of a pattern. -/
def split (pattern : Pattern σ) (text : Text) (rule : SplitRule) :
    Work σ (List Text) := do
  let collected ←
    pattern.withMatcher text
      (collectPieces rule text (matchLimit + text.length) 0 ⟨[], 0⟩)
  return collected.complete rule text

end Pattern

/-! ## Piece by piece -/

/-- The pieces of a text that are yet to come.  Empty pieces are held back until
one that is not empty follows, and so are dropped at the end. -/
inductive PieceStream (σ : Type) where
  /-- Nothing has been done yet. -/
  | notStarted (text : Text)
  /-- Pieces are ready to be handed out; the text behind `index` is to be
  searched unless that has been done. -/
  | running (matcher : Matcher σ) (ready : List Text) (index : Int) (isSearched : Bool)
  | ended

/-- Work with a stream of pieces. -/
abbrev Streaming (σ α : Type) :=
  ExceptT Fault (StateT (PieceStream σ) (StateM (Trace σ))) α

namespace PieceStream

variable {σ : Type}

/-- Work with engines while a stream is at hand.  A failure ends the stream. -/
def ofWork {α : Type} (work : Work σ α) : Streaming σ α :=
  ExceptT.mk fun stream trace =>
    match work.run trace with
    | (.ok value, trace) => ((.ok value, stream), trace)
    | (.error fault, trace) => ((.error fault, ended), trace)

/-- End a stream and close its matcher. -/
def close : Streaming σ Unit := do
  let stream ← get
  set (ended : PieceStream σ)
  match stream with
  | running matcher .. => ofWork (discard matcher.close)
  | _ => return ()

/-- Search for a piece that is not empty.  `held` empty pieces come before it. -/
def searchPiece (matcher : Matcher σ) :
    Nat → Nat → Int → Work σ (List Text × Matcher σ × Int × Bool)
  | 0, _, index => return ([], matcher, index, true)
  | fuel + 1, held, index => do
      let (isFound, found) ←
        Matching.on (do let isFound ← Matcher.find; return (isFound, ← get)) matcher
      if isFound then
        let span := found.previous.getD .unset
        let piece := found.text.slice index span.start
        if piece.isEmpty then
          let held := if 0 < span.stop then held + 1 else held
          searchPiece found fuel held span.stop
        else
          return (List.replicate held [] ++ [piece], found, span.stop, false)
      else
        let rest := found.text.sliceFrom index
        let ready := if rest.isEmpty then [] else List.replicate held [] ++ [rest]
        return (ready, found, index, true)

/-- Hand out a piece that is ready.  Without one the stream ends. -/
def handOut (matcher : Matcher σ) (ready : List Text) (index : Int)
    (isSearched : Bool) : Streaming σ (Option Text) :=
  match ready with
  | piece :: ready => do
      set (running matcher ready index isSearched)
      return some piece
  | [] => do
      set (ended : PieceStream σ)
      ofWork (discard matcher.close)
      return none

/-- Search on and hand out what was found.  The matcher is closed when the
search fails. -/
def advance (matcher : Matcher σ) (index : Int) : Streaming σ (Option Text) := do
  let (ready, matcher, index, isSearched) ←
    ofWork ((searchPiece matcher (matchLimit + matcher.text.length) 0 index).onFailure
      matcher.close)
  handOut matcher ready index isSearched

/-- The next piece, if there is one. -/
def next (pattern : Pattern σ) : Streaming σ (Option Text) := do
  match ← get with
  | ended => return none
  | running matcher ready index isSearched =>
      if ready.isEmpty && !isSearched then advance matcher index
      else handOut matcher ready index isSearched
  | notStarted text =>
      if text.isEmpty then
        set (ended : PieceStream σ)
        return some text
      else
        let matcher ← ofWork (Matcher.create pattern text {})
        advance matcher 0

/-- The pieces that are left, `count` of them at most. -/
def rest (pattern : Pattern σ) : Nat → Streaming σ (List Text)
  | 0 => return []
  | count + 1 => do
      match ← next pattern with
      | some piece => return piece :: (← rest pattern count)
      | none => return []

end PieceStream

/-- All pieces of a text, one by one. -/
def Pattern.pieces {σ : Type} (pattern : Pattern σ) (text : Text) :
    Work σ (List Text) :=
  ExceptT.mk fun trace =>
    let ((outcome, _), trace) :=
      ((PieceStream.rest pattern (matchLimit + text.length)).run (.notStarted text)).run trace
    (outcome, trace)

end RegexMatching
