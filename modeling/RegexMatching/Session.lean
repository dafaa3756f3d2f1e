import RegexMatching.Matcher.Operation
import RegexMatching.Pattern.Splitting

/-!
# Sessions

A session is a script of commands on patterns, matchers, iterators, snapshots
and sinks, which it calls by names.  A name that is given again stands for the new
thing from then on, but what was made from the old thing keeps it.
-/

namespace RegexMatching

/-- What a session calls a thing. -/
abbrev Label := String

/-- An iterator over the matches of a matcher or over the pieces of a text. -/
inductive SessionIterator (σ : Type) where
  | snapshots (matcher : Nat) (iteration : Iteration)
  | pieces (pattern : Nat) (stream : PieceStream σ)

/-- Everything a session has made.  Patterns and matchers are numbered in the
order in which they were made. -/
structure Session (σ : Type) where
  /-- Whether the patterns of the session log events. -/
  isLogged : Bool
  trace : Trace σ
  engines : List (Label × Engine σ)
  patterns : Array (Pattern σ) := #[]
  patternNumbers : List (Label × Nat) := []
  matchers : Array (Matcher σ) := #[]
  matcherNumbers : List (Label × Nat) := []
  iterators : List (Label × SessionIterator σ) := []
  snapshots : List (Label × Snapshot) := []
  sinks : List (Label × Text) := []

/-- What can be done in a session. -/
inductive Command (σ : Type) where
  | compile (label engine : Label) (source : Text) (flags : Number)
      (settings : PatternSettings)
  | testOnce (engine : Label) (source text : Text)
  | code (pattern : Label) (anchoring : Anchoring)
  | closePattern (pattern : Label)
  | isClosed (pattern : Label)
  | source (pattern : Label)
  | split (pattern : Label) (text : Text) (rule : Pattern.SplitRule)
  | pieces (pattern : Label) (text : Text)
  | occursIn (pattern : Label) (texts : List Text)
  | matchesWhole (pattern : Label) (texts : List Text)
  | openPieces (label pattern : Label) (text : Text)
  | makeMatcher (label pattern : Label) (text : Text) (settings : MatcherSettings)
  | operate (matcher : Label) (operation : Matcher.Operation σ)
  | usePattern (matcher pattern : Label)
  | append (matcher sink : Label) (operation : Matcher.Operation σ)
  | readSink (sink : Label)
  | openResults (label matcher : Label)
  | next (iterator : Label)
  | closeIterator (iterator : Label)
  | keep (label matcher : Label)
  | ask (snapshot : Label) (query : Query)

/-- Work in a session; none when a label stands for nothing. -/
abbrev Scripting (σ α : Type) := StateT (Session σ) Option α

namespace Session

variable {σ : Type}

/-! ## What labels stand for -/

/-- The number of the pattern of a label. -/
def patternNumber (label : Label) : Scripting σ Nat := do
  (← get).patternNumbers.lookup label

/-- The pattern of a number. -/
def patternAt (number : Nat) : Scripting σ (Pattern σ) := do
  (← get).patterns[number]?

/-- The pattern of a label. -/
def pattern (label : Label) : Scripting σ (Pattern σ) := do
  patternAt (← patternNumber label)

/-- The number of the matcher of a label. -/
def matcherNumber (label : Label) : Scripting σ Nat := do
  (← get).matcherNumbers.lookup label

/-- The matcher of a number. -/
def matcherAt (number : Nat) : Scripting σ (Matcher σ) := do
  (← get).matchers[number]?

/-- The matcher of a label, if there is one. -/
def matcher? (session : Session σ) (label : Label) : Option (Matcher σ) := do
  session.matchers[← session.matcherNumbers.lookup label]?

/-! ## Work -/

/-- Let engines work. -/
def work {α : Type} (action : Work σ α) : Scripting σ (Except Fault α) :=
  modifyGet fun session =>
    let (outcome, trace) := action.run session.trace
    (outcome, { session with trace })

/-- Work with the matcher of a number. -/
def matching {α : Type} (number : Nat) (action : Matching σ α) :
    Scripting σ (Except Fault α) := do
  let matcher ← matcherAt number
  modifyGet fun session =>
    let ((outcome, matcher), trace) := (action.run matcher).run session.trace
    (outcome,
      { session with
        trace
        matchers := session.matchers.setIfInBounds number matcher })

/-- Let a label stand for an iterator. -/
def setIterator (label : Label) (iterator : SessionIterator σ) : Scripting σ Unit :=
  modify fun session =>
    { session with iterators := (label, iterator) :: session.iterators }

/-- Work with a stream of pieces. -/
def streaming {α : Type} (label : Label) (pattern : Nat) (stream : PieceStream σ)
    (action : Streaming σ α) : Scripting σ (Except Fault α) := do
  let session ← get
  let ((outcome, stream), trace) := (action.run stream).run session.trace
  set { session with trace }
  setIterator label (.pieces pattern stream)
  return outcome

/-- Append to a sink, and hand back all of its text. -/
def appendTo (sink : Label) (text : Text) : Scripting σ Text :=
  modifyGet fun session =>
    let whole := (session.sinks.lookup sink).getD [] ++ text
    (whole, { session with sinks := (sink, whole) :: session.sinks })

/-! ## Commands -/

/-- Compile an expression under a label. -/
def compile (label engine : Label) (source : Text) (flags : Number)
    (settings : PatternSettings) : Scripting σ (Except Fault Reply) := do
  let session ← get
  let engine ← session.engines.lookup engine
  match ← work (Pattern.compile engine session.isLogged source flags settings) with
  | .error fault => return .error fault
  | .ok pattern =>
      modify fun session =>
        { session with
          patterns := session.patterns.push pattern
          patternNumbers := (label, session.patterns.size) :: session.patternNumbers }
      return .ok (.pattern pattern.source pattern.flags pattern.canonicalEquivalence
        pattern.groupCount pattern.names)

/-- Make a matcher under a label. -/
def makeMatcher (label pattern : Label) (text : Text) (settings : MatcherSettings) :
    Scripting σ (Except Fault Reply) := do
  match ← work (Matcher.create (← Session.pattern pattern) text settings) with
  | .error fault => return .error fault
  | .ok matcher =>
      modify fun session =>
        { session with
          matchers := session.matchers.push matcher
          matcherNumbers := (label, session.matchers.size) :: session.matcherNumbers }
      return .ok .done

/-- Close the pattern of a label. -/
def closePattern (label : Label) : Scripting σ (Except Fault Reply) := do
  let number ← patternNumber label
  match ← work (← patternAt number).close with
  | .error fault => return .error fault
  | .ok pattern =>
      modify fun session =>
        { session with patterns := session.patterns.setIfInBounds number pattern }
      return .ok (.flag pattern.isClosed)

/-- Take an iterator one step further. -/
def next (label : Label) : Scripting σ (Except Fault Reply) := do
  match ← (← get).iterators.lookup label with
  | .snapshots number iteration =>
      let outcome ← matching number iteration.next
      setIterator label (.snapshots number (.after outcome))
      return outcome.map .result
  | .pieces number stream =>
      let pattern ← patternAt number
      return (← streaming label number stream (PieceStream.next pattern)).map .piece

/-- End an iterator before its time. -/
def closeIterator (label : Label) : Scripting σ (Except Fault Reply) := do
  match ← (← get).iterators.lookup label with
  | .snapshots number _ =>
      setIterator label (.snapshots number .ended)
      return .ok .done
  | .pieces number stream =>
      return (← streaming label number stream PieceStream.close).map fun _ => .done

/-- Carry out a command. -/
def run : Command σ → Scripting σ (Except Fault Reply)
  | .compile label engine source flags settings =>
      compile label engine source flags settings
  | .testOnce engine source text => do
      let engine ← (← get).engines.lookup engine
      return (← work (Pattern.testOnce engine source text)).map .flag
  | .code label anchoring =>
      return .ok (.variant ((← pattern label).variants.variant anchoring))
  | .closePattern label => closePattern label
  | .isClosed label => return .ok (.flag (← pattern label).isClosed)
  | .source label => return .ok (.text (some (← pattern label).source))
  | .split label text rule =>
      return (← work ((← pattern label).split text rule)).map .texts
  | .pieces label text =>
      return (← work ((← pattern label).pieces text)).map .texts
  | .occursIn label texts => do
      let pattern ← pattern label
      return .ok (.flags (← texts.mapM fun text => work (pattern.occursIn text)))
  | .matchesWhole label texts => do
      let pattern ← pattern label
      return .ok (.flags (← texts.mapM fun text => work (pattern.matchesWhole text)))
  | .openPieces label pattern text => do
      setIterator label (.pieces (← patternNumber pattern) (.notStarted text))
      return .ok .done
  | .makeMatcher label pattern text settings => makeMatcher label pattern text settings
  | .operate label operation => do
      matching (← matcherNumber label) (Matcher.perform operation)
  | .usePattern label other => do
      matching (← matcherNumber label)
        (Matcher.perform (.usePattern (← pattern other)))
  | .append label sink operation => do
      let number ← matcherNumber label
      let whole ← appendTo sink ((← matcherAt number).written operation)
      return (← matching number (Matcher.perform operation)).map fun _ =>
        .text (some whole)
  | .readSink sink => return .ok (.text (some (← appendTo sink [])))
  | .openResults label matcher => do
      setIterator label (.snapshots (← matcherNumber matcher) .notStarted)
      return .ok .done
  | .next label => next label
  | .closeIterator label => closeIterator label
  | .keep label matcher => do
      let snapshot := (← matcherAt (← matcherNumber matcher)).snapshot
      modify fun session =>
        { session with snapshots := (label, snapshot) :: session.snapshots }
      return .ok (.flag snapshot.hasMatch)
  | .ask label query => do
      let snapshot ← (← get).snapshots.lookup label
      return snapshot.reply query

end Session

end RegexMatching
