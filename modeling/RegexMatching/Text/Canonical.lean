import RegexMatching.Text
import RegexMatching.Unicode.Category
import RegexMatching.Unicode.Decomposition

/-!
# Text in canonical decomposition

Canonical equivalence is matched on decomposed text, and offsets found there
have to be told to a caller who knows the text as it was given.  The text is cut
into segments, each with its decomposition: single code points where that is
possible, and a whole cluster of a base and its marks where decomposition
reorders the marks.  Offsets inside a segment are rounded to its ends.
-/

namespace RegexMatching

/-- A part of the given text and its decomposition. -/
structure Segment where
  source : Text
  normalized : Text
deriving DecidableEq, Repr

/-- The canonical decomposition of code points, as text. -/
def decomposedText (points : List Nat) : Text :=
  Text.ofPoints (Unicode.canonicalDecomposition points)

/-! ## Clusters and segments -/

/-- Cut code points into clusters: a code point that is no mark with the marks
behind it, or marks with nothing before them. -/
def clusters : List Nat → List (List Nat)
  | [] => []
  | point :: rest =>
      match clusters rest with
      | [] => [[point]]
      | cluster :: others =>
          if (cluster.head?.map Unicode.isMark).getD false then
            (point :: cluster) :: others
          else
            [point] :: cluster :: others

/-- The segments of a cluster: one for each code point, unless decomposing the
cluster reorders marks. -/
def segmentsOfCluster (cluster : List Nat) : List Segment :=
  let perPoint := cluster.map fun point => decomposedText [point]
  if perPoint.flatten = decomposedText cluster then
    cluster.map fun point => ⟨CodePoint.units point, decomposedText [point]⟩
  else
    [⟨Text.ofPoints cluster, decomposedText cluster⟩]

/-- The segments of a text, in order. -/
def segments (text : Text) : List Segment :=
  (clusters text.points).flatMap segmentsOfCluster

/-! ## Offset maps -/

/-- The offset in the decomposed text for every offset of the given text. -/
def forwardOffsets (normalizedStart : Nat) : List Segment → List Nat
  | [] => [normalizedStart]
  | segment :: rest =>
      List.replicate segment.source.length normalizedStart ++
        forwardOffsets (normalizedStart + segment.normalized.length) rest

/-- For every offset of the decomposed text, the start of its segment. -/
def segmentStarts (sourceStart : Nat) : List Segment → List Nat
  | [] => [sourceStart]
  | segment :: rest =>
      List.replicate segment.normalized.length sourceStart ++
        segmentStarts (sourceStart + segment.source.length) rest

/-- For every offset of the decomposed text, the end of its segment, or the
start where a segment starts. -/
def segmentEnds (sourceStart : Nat) : List Segment → List Nat
  | [] => [sourceStart]
  | segment :: rest =>
      let sourceEnd := sourceStart + segment.source.length
      sourceStart :: List.replicate (segment.normalized.length - 1) sourceEnd ++
        segmentEnds sourceEnd rest

/-- A text, its canonical decomposition, and the maps between their offsets. -/
structure CanonicalText where
  source : Text
  normalized : Text
  forward : Array Nat
  starts : Array Nat
  ends : Array Nat

namespace CanonicalText

/-- Decompose a text. -/
def ofText (text : Text) : CanonicalText :=
  let parts := segments text
  { source := text
    normalized := parts.flatMap Segment.normalized
    forward := (forwardOffsets 0 parts).toArray
    starts := (segmentStarts 0 parts).toArray
    ends := (segmentEnds 0 parts).toArray }

/-- An offset of the given text in the decomposed text. -/
def toNormalized (text : CanonicalText) (index : Nat) : Nat :=
  text.forward.getD index 0

/-- The start of a match in the given text, rounded down to the start of a
segment. -/
def toSourceStart (text : CanonicalText) (index : Nat) : Nat :=
  text.starts.getD index 0

/-- The end of a match in the given text, rounded up to the end of a segment. -/
def toSourceEnd (text : CanonicalText) (index : Nat) : Nat :=
  text.ends.getD index 0

end CanonicalText

end RegexMatching
