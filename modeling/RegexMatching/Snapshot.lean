import RegexMatching.Group

/-!
# Snapshots of matches

A snapshot keeps one match apart from the matcher that found it: the text, the
span of every group and the names of the groups.
-/

namespace RegexMatching

/-- Where a group matched, in code units.  A group that took no part in the
match has `Span.unset`. -/
structure Span where
  start : Int
  stop : Int
deriving DecidableEq, Repr

namespace Span

/-- The span of a group that took no part. -/
def unset : Span :=
  ⟨-1, -1⟩

/-- The text of a span, or nothing when it is unset. -/
def text? (span : Span) (subject : Text) : Option Text :=
  if span.start < 0 then none else some (subject.slice span.start span.stop)

end Span

/-- A match, or the lack of one, at one moment. -/
structure Snapshot where
  text : Text
  /-- The spans of the groups, group zero first. -/
  spans : Option (List Span)
  groupCount : Nat
  names : GroupNames

namespace Snapshot

def hasMatch (snapshot : Snapshot) : Bool :=
  snapshot.spans.isSome

/-- The span of a group; none when the snapshot was made without one for it. -/
def span (snapshot : Snapshot) (group : GroupRef) : Except Fault (Option Span) :=
  match snapshot.spans with
  | none => .error .noMatch
  | some spans =>
      (group.index snapshot.groupCount snapshot.names).map (spans[·]?)

/-- Where a group starts. -/
def start (snapshot : Snapshot) (group : GroupRef) : Except Fault (Option Int) :=
  (snapshot.span group).map (·.map Span.start)

/-- Where a group ends. -/
def stop (snapshot : Snapshot) (group : GroupRef) : Except Fault (Option Int) :=
  (snapshot.span group).map (·.map Span.stop)

/-- The text of a group, or nothing when it took no part.  A group without a
span counts as the whole text. -/
def group (snapshot : Snapshot) (group : GroupRef) : Except Fault (Option Text) :=
  (snapshot.span group).map fun
    | some span => span.text? snapshot.text
    | none => some snapshot.text

/-- Starts and ends of all groups, in turn. -/
def offsets (snapshot : Snapshot) : Option (List (Option Int)) :=
  snapshot.spans.map fun spans =>
    (List.range (snapshot.groupCount + 1)).flatMap fun group =>
      [spans[group]?.map Span.start, spans[group]?.map Span.stop]

end Snapshot

end RegexMatching
