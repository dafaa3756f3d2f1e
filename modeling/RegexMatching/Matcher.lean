import RegexMatching.Pattern

/-!
# Matchers

A matcher looks for matches of a pattern in a region of one subject.  The engine
sees the bytes of the region only, so nothing outside can influence a match.
Spans come back in bytes of the region and are kept in code units of the subject.
-/

namespace RegexMatching

/-- What the last attempt at a match came to. -/
inductive MatchState where
  /-- There has been no attempt. -/
  | fresh
  /-- There was no match; it may be that only more input was lacking. -/
  | noMatch (isPartial : Bool)
  | found (spans : List Span) (mark : Option Text)

/-- The subject as an engine sees it: as it is, or decomposed. -/
structure SearchedText where
  coordinates : Coordinates
  canonical : Option CanonicalText

namespace SearchedText

/-- Prepare a subject. -/
def ofText (text : Text) (isCanonical : Bool) : SearchedText :=
  if isCanonical then
    let canonical := CanonicalText.ofText text
    ⟨Coordinates.ofText canonical.normalized, some canonical⟩
  else
    ⟨Coordinates.ofText text, none⟩

/-- An offset of the subject in the searched text. -/
def ofSubject (searched : SearchedText) (index : Nat) : Nat :=
  match searched.canonical with
  | some canonical => canonical.toNormalized index
  | none => index

/-- A span of bytes of the searched text, in units of the subject. -/
def toSubject (searched : SearchedText) (start stop : Nat) : Except Fault Span := do
  let start ← searched.coordinates.unitAt start
  let stop ← searched.coordinates.unitAt stop
  match searched.canonical with
  | some canonical =>
      return ⟨canonical.toSourceStart start, canonical.toSourceEnd stop⟩
  | none => return ⟨start, stop⟩

end SearchedText

/-- The part of the searched text that an engine sees. -/
structure RegionView where
  bytes : Bytes
  byteStart : Nat
  byteEnd : Nat

/-- A matcher. -/
structure Matcher (σ : Type) where
  pattern : Pattern σ
  text : Text
  searched : SearchedText
  /-- The region in bytes, once a search has asked for it. -/
  view : Option RegionView
  regionStart : Nat
  regionEnd : Nat
  /-- The ends of the region count as the ends of the subject. -/
  anchoringBounds : Bool
  partialMatching : Bool
  state : MatchState
  /-- The span of the last match, behind which the search goes on. -/
  previous : Option Span
  /-- A search has failed, and so will every later one until a reset. -/
  isExhausted : Bool
  /-- Where the text that has not been appended yet starts. -/
  appendCursor : Int
  /-- The execution stack, if the engine needs one. -/
  stack : Handle

/-- Work with a matcher that may fail.  What it did to the matcher before a
failure stays done. -/
abbrev Matching (σ α : Type) :=
  ExceptT Fault (StateT (Matcher σ) (StateM (Trace σ))) α

namespace Matching

variable {σ α : Type}

/-- Work with engines while a matcher is at hand. -/
def ofWork (work : Work σ α) : Matching σ α :=
  ExceptT.mk fun matcher trace =>
    let (outcome, trace) := work.run trace
    ((outcome, matcher), trace)

/-- Work with a matcher that is not needed afterwards. -/
def on (matching : Matching σ α) (matcher : Matcher σ) : Work σ α :=
  ExceptT.mk fun trace =>
    let ((outcome, _), trace) := (matching.run matcher).run trace
    (outcome, trace)

end Matching

namespace Matcher

variable {σ : Type}

/-! ## Captures -/

/-- The last match, or the lack of one. -/
def snapshot (matcher : Matcher σ) : Snapshot where
  text := matcher.text
  spans :=
    match matcher.state with
    | .found spans _ => some spans
    | _ => none
  groupCount := matcher.pattern.groupCount
  names := matcher.pattern.names

def hasMatch (matcher : Matcher σ) : Bool :=
  matcher.snapshot.hasMatch

/-- Whether the last attempt only lacked more input. -/
def hasPartialMatch (matcher : Matcher σ) : Bool :=
  match matcher.state with
  | .noMatch isPartial => isPartial
  | _ => false

/-- The backtracking mark that the last match passed last. -/
def mark (matcher : Matcher σ) : Option Text :=
  match matcher.state with
  | .found _ mark => mark
  | _ => none

/-- A matcher in words: its pattern, region and last match. -/
def toText (matcher : Matcher σ) : Text :=
  let last :=
    match matcher.snapshot.group .whole with
    | .ok (some text) => text
    | .ok none => Text.ofString "null"
    | .error _ => []
  Text.ofString "Matcher[pattern=" ++ matcher.pattern.source ++
    Text.ofString " region=" ++ Text.ofNat matcher.regionStart ++
    Text.ofString "," ++ Text.ofNat matcher.regionEnd ++
    Text.ofString " lastmatch=" ++ last ++ Text.ofString "]"

/-! ## Configuration -/

/-- Forget the last match. -/
def clearMatch (matcher : Matcher σ) : Matcher σ :=
  { matcher with state := .fresh, previous := none, isExhausted := false }

/-- Start again with the whole subject. -/
def reset (matcher : Matcher σ) : Matcher σ :=
  { matcher.clearMatch with
    appendCursor := 0
    regionStart := 0
    regionEnd := matcher.text.length
    view := none }

/-- Start again with another subject. -/
def resetTo (matcher : Matcher σ) (text : Text) : Matcher σ :=
  reset { matcher with
    text
    searched := .ofText text matcher.pattern.canonicalEquivalence }

/-- Start again with a region of the subject. -/
def region (matcher : Matcher σ) (start stop : Number) :
    Except Fault (Matcher σ) :=
  match start.toIndex? matcher.text.length, stop.toIndex? matcher.text.length with
  | none, _ => .error (.regionStartOutOfRange start)
  | some _, none => .error (.regionEndOutOfRange stop)
  | some first, some last =>
      if last < first then .error (.regionReversed start stop)
      else .ok { matcher.reset with regionStart := first, regionEnd := last }

/-- Let the ends of the region count as the ends of the subject, or not. -/
def useAnchoringBounds (matcher : Matcher σ) (value : Bool) : Matcher σ :=
  { matcher with anchoringBounds := value }.clearMatch

/-- Whether the engine reports partial matches. -/
def canMatchPartially (pattern : Pattern σ) : Bool :=
  pattern.adapter.engine.capabilities.partialMatching

/-- Report partial matches, which the engine has to be able to, or not. -/
def usePartialMatching (matcher : Matcher σ) (value : Bool) :
    Except Fault (Matcher σ) :=
  if value && !canMatchPartially matcher.pattern then
    .error (.noPartialMatching matcher.pattern.adapter.engine.name)
  else
    .ok { matcher with partialMatching := value }

/-- A matcher of a pattern that has not been closed. -/
def create (pattern : Pattern σ) (text : Text) (settings : MatcherSettings) :
    Work σ (Matcher σ) := do
  if pattern.isClosed then
    throw .patternClosed
  let stack ← pattern.adapter.createStack
  let matcher : Matcher σ :=
    { pattern, text, stack
      searched := .ofText text pattern.canonicalEquivalence
      view := none
      regionStart := 0
      regionEnd := text.length
      anchoringBounds := settings.anchoringBounds
      partialMatching := false
      state := .fresh
      previous := none
      isExhausted := false
      appendCursor := 0 }
  Work.ofExcept (matcher.usePartialMatching settings.partialMatching)

/-- Prepare the subject anew, if another pattern reads it in another way. -/
def prepareFor (matcher : Matcher σ) (pattern : Pattern σ) : Matcher σ :=
  if pattern.canonicalEquivalence = matcher.pattern.canonicalEquivalence then
    matcher
  else
    { matcher with
      searched := .ofText matcher.text pattern.canonicalEquivalence
      view := none }

/-- Go on with another pattern.  The last match is forgotten; the region and the
append position are kept. -/
def usePattern (matcher : Matcher σ) (pattern : Pattern σ) : Work σ (Matcher σ) := do
  if pattern.isClosed then
    throw .closedPatternGiven
  matcher.pattern.adapter.releaseStack matcher.stack
  let stack ← pattern.adapter.createStack
  return clearMatch { matcher.prepareFor pattern with
    pattern, stack
    partialMatching := matcher.partialMatching && canMatchPartially pattern }

/-- Release the execution stack.  Closing again does nothing. -/
def close (matcher : Matcher σ) : Work σ (Matcher σ) := do
  matcher.pattern.adapter.releaseStack matcher.stack
  return { matcher with stack := 0 }

/-! ## The region in bytes -/

/-- The region in bytes.  A pair that an edge of the region cuts lies outside. -/
def measureRegion (matcher : Matcher σ) : Except Fault RegionView := do
  let searched := matcher.searched
  let byteStart ←
    searched.coordinates.ceilByteAt (searched.ofSubject matcher.regionStart)
  let byteEnd ← searched.coordinates.byteAt (searched.ofSubject matcher.regionEnd)
  return {
    bytes := (searched.coordinates.bytes.drop byteStart).take (byteEnd - byteStart)
    byteStart, byteEnd }

/-- The region in bytes, measured unless it has been. -/
def regionView (matcher : Matcher σ) : Except Fault RegionView :=
  match matcher.view with
  | some view => .ok view
  | none => matcher.measureRegion

/-- The spans of captures that are counted from a byte on. -/
def subjectSpans (searched : SearchedText) (byteStart : Nat) (captures : List Span) :
    Except Fault (List Span) :=
  captures.mapM fun capture =>
    if capture.start < 0 || capture.stop < 0 then
      .ok .unset
    else
      searched.toSubject (capture.start.toNat + byteStart)
        (capture.stop.toNat + byteStart)

/-! ## Searching -/

/-- The options of a match call.  Without anchoring bounds, an end of the region
is an end of a line only where the subject ends. -/
def matchOptions (matcher : Matcher σ) (variant : CodeVariant) : MatchOptions :=
  { variant.options with
    notBol := !matcher.anchoringBounds && 0 < matcher.regionStart
    notEol := !matcher.anchoringBounds && matcher.regionEnd < matcher.text.length
    partialSoft := matcher.partialMatching }

/-- Ask the engine for a match from an offset of the subject on. -/
def attempt (matcher : Matcher σ) (view : RegionView) (start : Nat)
    (anchoring : Anchoring) : Work σ MatchState := do
  let adapter := matcher.pattern.adapter
  let searched := matcher.searched
  let variant := matcher.pattern.variants.variant anchoring
  let options := matcher.matchOptions variant
  if (options.notBol || options.notEol) &&
      !adapter.engine.capabilities.lineBoundaryOptions then
    throw (.noLineBoundaries adapter.engine.name)
  let startByte ←
    Work.ofExcept (searched.coordinates.ceilByteAt (searched.ofSubject start))
  let startByte := max startByte view.byteStart
  if view.byteEnd < startByte then
    return .noMatch false
  match ← adapter.run variant.handle view.bytes (startByte - view.byteStart : Nat)
      options.toBits matcher.stack with
  | .noMatch => return .noMatch false
  | .partialMatch => return .noMatch true
  | .matched captures mark =>
      return .found
        (← Work.ofExcept (subjectSpans searched view.byteStart captures)) mark

/-- Take in what an attempt came to.  Only a failed search ends the searching. -/
def settle (matcher : Matcher σ) (anchoring : Anchoring) (state : MatchState) :
    Matcher σ :=
  match state with
  | .found spans _ => { matcher with state, previous := spans.head? }
  | _ =>
      { matcher with
        state
        isExhausted := matcher.isExhausted || anchoring == .search }

/-- Attempt a match from an offset on. -/
def search (start : Nat) (anchoring : Anchoring) : Matching σ Bool := do
  let view ← Matching.ofWork (Work.ofExcept (← get).regionView)
  modify ({ · with view := some view })
  let matcher ← get
  let state ← Matching.ofWork (matcher.attempt view start anchoring)
  let matcher := matcher.settle anchoring state
  set matcher
  return matcher.hasMatch

/-- Where the search goes on: behind the last match, one code point further when
that was empty.  Nothing when the region ends before. -/
def nextStart? (matcher : Matcher σ) : Option Nat :=
  let next : Int :=
    match matcher.previous with
    | none => matcher.regionStart
    | some span =>
        if span.start = span.stop then
          let isPair := decide (0 ≤ span.stop) && matcher.text.isPairAt span.stop.toNat
          span.stop + (if isPair then 2 else 1)
        else
          span.stop
  let next := max next matcher.regionStart
  if (matcher.regionEnd : Int) < next then none else some next.toNat

/-- Find the next match. -/
def find : Matching σ Bool := do
  let matcher ← get
  if matcher.isExhausted then
    return false
  match matcher.nextStart? with
  | some start => search start .search
  | none =>
      set (matcher.settle .search (.noMatch false))
      return false

/-- Start again and find the first match from an offset on. -/
def findFrom (start : Number) : Matching σ Bool := do
  let matcher ← get
  match start.toIndex? matcher.text.length with
  | none => throw (.startOutOfRange start)
  | some index =>
      set matcher.reset
      search index .search

/-- Match at the start of the region. -/
def lookingAt : Matching σ Bool := do
  search (← get).regionStart .lookingAt

/-- Match the whole region. -/
def matchWhole : Matching σ Bool := do
  search (← get).regionStart .whole

end Matcher

end RegexMatching
