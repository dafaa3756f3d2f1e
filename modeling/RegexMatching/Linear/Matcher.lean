import RegexMatching.Linear.Program
import RegexMatching.Text.Points
import Std.Data.HashSet.Basic

/-!
# Matching in linear time

A search walks through the pairs of an instruction and a position, the preferred
ones first.  A pair that has been visited cannot lead to a match any more, so no
pair is visited twice, not even from another start.
-/

namespace RegexMatching.Linear

/-- An ASCII letter, digit or underscore. -/
def isWordPoint (point : Nat) : Bool :=
  inRanges wordRanges point

/-- Whether a word character stands before a position. -/
def isWordBefore (points : Array Nat) (position : Nat) : Bool :=
  0 < position && (points[position - 1]?.map isWordPoint).getD false

/-- Whether a word character stands at a position. -/
def isWordAt (points : Array Nat) (position : Nat) : Bool :=
  (points[position]?.map isWordPoint).getD false

/-- Whether a position passes a test. -/
def Assertion.holds (points : Array Nat) (position : Nat) : Assertion → Bool
  | textStart => position = 0
  | textEnd => position = points.size
  | lineStart => position = 0 || points[position - 1]? == some 0xA
  | lineEnd => position = points.size || points[position]? == some 0xA
  | wordBoundary isNegated =>
      (isWordBefore points position != isWordAt points position) != isNegated

/-- What is stored in the slots. -/
abbrev Slots := Array (Option Nat)

/-- A place to go on from. -/
structure Thread where
  instruction : Nat
  position : Nat
  slots : Slots

/-- The pairs that have been visited, as numbers. -/
abbrev Visited := Std.HashSet Nat

namespace Program

/-- The number of a pair of an instruction and a position. -/
def pairNumber (program : Program) (thread : Thread) : Nat :=
  thread.position * program.instructions.size + thread.instruction

/-- What a thread comes to: a match, or the threads it goes on as. -/
def advance (program : Program) (points : Array Nat) (thread : Thread) :
    Slots ⊕ List Thread :=
  match program.instructions[thread.instruction]? with
  | some .accept => .inl thread.slots
  | some (.choose first second) =>
      .inr [{ thread with instruction := first }, { thread with instruction := second }]
  | some (.step runeClass next) =>
      match points[thread.position]? with
      | some point =>
          if runeClass.contains point then
            .inr [{ thread with instruction := next, position := thread.position + 1 }]
          else
            .inr []
      | none => .inr []
  | some (.check test next) =>
      if test.holds points thread.position then
        .inr [{ thread with instruction := next }]
      else
        .inr []
  | some (.save slot next) =>
      .inr [{ thread with
        instruction := next
        slots := thread.slots.setIfInBounds slot (some thread.position) }]
  | some (.jump next) => .inr [{ thread with instruction := next }]
  | none => .inr []

/-- The first match among threads, the preferred ones coming first.  At most
`fuel` threads are looked at. -/
def explore (program : Program) (points : Array Nat) :
    Nat → Visited → List Thread → Option Slots × Visited
  | 0, visited, _ => (none, visited)
  | _ + 1, visited, [] => (none, visited)
  | fuel + 1, visited, thread :: rest =>
      let number := program.pairNumber thread
      if visited.contains number then
        program.explore points fuel visited rest
      else
        match program.advance points thread with
        | .inl slots => (some slots, visited)
        | .inr threads =>
            program.explore points fuel (visited.insert number) (threads ++ rest)

/-- How many threads can be looked at from one start: each pair is visited once
and goes on as two threads at most. -/
def threadBound (program : Program) (points : Array Nat) : Nat :=
  2 * program.instructions.size * (points.size + 1) + 2

/-- The first match that starts at one of `count` positions from `start` on. -/
def searchFrom (program : Program) (points : Array Nat) (slotCount : Nat) :
    Nat → Nat → Visited → Option Slots
  | 0, _, _ => none
  | count + 1, start, visited =>
      let thread : Thread := ⟨program.start, start, Array.replicate slotCount none⟩
      match program.explore points (program.threadBound points) visited [thread] with
      | (some slots, _) => some slots
      | (none, visited) => program.searchFrom points slotCount count (start + 1) visited

end Program

/-- The spans held by slots. -/
def spansOfSlots (slots : Slots) (groupCount : Nat) : PointSpans :=
  (List.range (groupCount + 1)).map fun group =>
    match slots[2 * group]?.join, slots[2 * group + 1]?.join with
    | some start, some stop => some (start, stop)
    | _, _ => none

namespace Regex

/-- The spans of the first match at or after a position. -/
def find (regex : Regex) (points : Array Nat) (start : Nat) : Option PointSpans :=
  (regex.program.searchFrom points (2 * (regex.captureCount + 1))
      (points.size + 1 - start) start {}).map fun slots =>
    spansOfSlots slots regex.captureCount

/-! ## Groups

A search settles where the match starts and ends.  What its groups captured is
looked up by a second search from the start of the match, in the text cut off one
code unit behind the match: that unit is all that the end of a match can depend on.
-/

/-- The text up to one code unit behind a position.  Of a pair that unit is the
first half. -/
def textBehind (points : Array Nat) (stop : Nat) : Array Nat :=
  let units := (points[stop]?.map CodePoint.units).getD []
  points.extract 0 stop ++ ((units.take 1).map UInt16.toNat).toArray

/-- The spans of the groups of a match.  A position inside a pair counts as the
start of the pair. -/
def groupSpans (regex : Regex) (points : Array Nat) (start stop : Nat) : PointSpans :=
  let cutsPair := (points[stop]?.map fun point => decide (0x10000 ≤ point)).getD false
  let last := if cutsPair then stop else stop + 1
  match regex.find (textBehind points stop) start with
  | none => []
  | some spans =>
      spans.tail.map (·.map fun (first, behind) => (min first last, min behind last))

/-- The spans of the first match at or after a position and of its groups. -/
def search (regex : Regex) (points : Array Nat) (start : Nat) : Option PointSpans :=
  match (regex.find points start).bind (·.head?) with
  | some (some (first, behind)) =>
      some (some (first, behind) :: regex.groupSpans points first behind)
  | _ => none

end Regex

end RegexMatching.Linear
