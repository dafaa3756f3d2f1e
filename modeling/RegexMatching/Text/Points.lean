import RegexMatching.Text.Utf8

/-!
# Subjects as code points

A matcher walks over code points, while its callers speak of bytes.  `PointText`
holds the code points of a subject and the byte offset of each.
-/

namespace RegexMatching

/-- The spans of a match in positions between code points: the whole match, then
every group, which may have taken no part. -/
abbrev PointSpans := List (Option (Nat × Nat))

/-- The byte offsets of code points and of their end, when the first one starts
at `byte`. -/
def pointOffsetsFrom (byte : Nat) : List Nat → List Nat
  | [] => [byte]
  | point :: rest => byte :: pointOffsetsFrom (byte + Utf8.width point) rest

@[simp]
theorem length_pointOffsetsFrom (byte : Nat) (points : List Nat) :
    (pointOffsetsFrom byte points).length = points.length + 1 := by
  induction points generalizing byte with
  | nil => rfl
  | cons point rest ih => simp [pointOffsetsFrom, ih]

/-- Code points with the byte offset of each one and of the end. -/
structure PointText where
  points : Array Nat
  offsets : Array Nat

namespace PointText

/-- The code points that bytes stand for.  Offsets count the bytes of these code
points, which differ from the given ones where those are ill-formed. -/
def ofBytes (bytes : Bytes) : PointText :=
  let points := Utf8.decode bytes
  { points := points.toArray
    offsets := (pointOffsetsFrom 0 points).toArray }

/-- The position that lies at a byte offset, if one does. -/
def positionAt? (text : PointText) (byte : Nat) : Option Nat :=
  text.offsets.findIdx? (· == byte)

/-- The byte offset of a position. -/
def byteAt (text : PointText) (position : Nat) : Nat :=
  text.offsets[position]?.getD 0

/-- The byte offsets of the two ends of a span; -1 twice where it is unset. -/
def spanOffsets (text : PointText) : Option (Nat × Nat) → List Int
  | some (start, stop) => [text.byteAt start, text.byteAt stop]
  | none => [-1, -1]

end PointText

end RegexMatching
