import RegexMatching.Pattern
import RegexMatching.Snapshot

/-!
# Questions and replies

A `Query` asks for something a match holds.  A `Reply` is what an operation comes
back with when it does not fail.
-/

namespace RegexMatching

/-- What may be asked of a match. -/
inductive Query where
  | hasMatch
  | groupCount
  | namedGroups
  | start (group : GroupRef)
  | stop (group : GroupRef)
  | group (group : GroupRef)

/-- What a successful operation comes back with. -/
inductive Reply where
  | done
  | flag (value : Bool)
  | flags (outcomes : List (Except Fault Bool))
  | count (value : Nat)
  | offset (value : Option Int)
  | text (value : Option Text)
  | texts (values : List Text)
  | names (names : GroupNames)
  /-- Matches of which the spans matter. -/
  | spans (found : List Snapshot)
  /-- Matches with their texts. -/
  | results (found : List Snapshot)
  /-- A match handed out by an iterator, or its end. -/
  | result (next : Option Snapshot)
  /-- A piece handed out by a stream, or its end. -/
  | piece (next : Option Text)
  | variant (variant : CodeVariant)
  | pattern (source : Text) (flags : Number) (canonicalEquivalence : Bool)
      (groupCount : Nat) (names : GroupNames)

namespace Snapshot

/-- The reply of a match to a query. -/
def reply (snapshot : Snapshot) : Query → Except Fault Reply
  | .hasMatch => .ok (.flag snapshot.hasMatch)
  | .groupCount => .ok (.count snapshot.groupCount)
  | .namedGroups => .ok (.names snapshot.names)
  | .start group => (snapshot.start group).map .offset
  | .stop group => (snapshot.stop group).map .offset
  | .group group => (snapshot.group group).map .text

end Snapshot

end RegexMatching
