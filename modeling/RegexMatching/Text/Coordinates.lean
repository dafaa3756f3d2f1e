import RegexMatching.Fault
import RegexMatching.Text.Utf8

/-!
# Offsets in code units and in bytes

Callers count code units and engines count bytes.  `Coordinates` holds, for one
subject, the byte offset at which each unit starts; both halves of a pair start
at the same byte.  Either way of counting can be turned into the other: exactly,
or rounded to a code point boundary.
-/

namespace RegexMatching

/-- The byte offsets of the units of `text` and of its end, when the text
starts at `byte`. -/
def byteOffsetsFrom (byte : Nat) : Text → List Nat
  | [] => [byte]
  | [unit] => [byte, byte + Utf8.width unit.toNat]
  | high :: low :: rest =>
      if high.isHighSurrogate && low.isLowSurrogate then
        byte :: byte :: byteOffsetsFrom (byte + 4) rest
      else
        byte :: byteOffsetsFrom (byte + Utf8.width high.toNat) (low :: rest)

/-- A subject together with its bytes and the byte offset of every unit. -/
structure Coordinates where
  text : Text
  bytes : Bytes
  offsets : Array Nat

namespace Coordinates

/-- The coordinates of a text. -/
def ofText (text : Text) : Coordinates where
  text := text
  bytes := Utf8.encode text
  offsets := (byteOffsetsFrom 0 text).toArray

/-- The coordinates of a text, once its table and its bytes agree on how many
bytes it takes. -/
def ofMeasuredText (text : Text) : Except Fault Coordinates :=
  let coordinates := ofText text
  let expected := coordinates.offsets[text.length]?.getD 0
  if coordinates.bytes.length = expected then
    .ok coordinates
  else
    .error (.lengthMismatch expected coordinates.bytes.length)

/-- How many units the subject has. -/
def length (coordinates : Coordinates) : Nat :=
  coordinates.text.length

/-! ## From units to bytes -/

/-- The byte offset of a unit, or of the end. -/
def byteAt (coordinates : Coordinates) (index : Nat) : Except Fault Nat :=
  match coordinates.offsets[index]? with
  | some byte => .ok byte
  | none => .error (.unitOutOfRange (.ofNat index) coordinates.length)

/-- The byte offset of the first code point that starts at or after a unit.  It
differs from `byteAt` on the second half of a pair only. -/
def ceilByteAt (coordinates : Coordinates) (index : Nat) : Except Fault Nat :=
  if 0 < index && coordinates.text.isPairAt (index - 1) then
    coordinates.byteAt (index + 1)
  else
    coordinates.byteAt index

/-- `byteAt` for any number. -/
def unitToByte (coordinates : Coordinates) (index : Number) : Except Fault Nat :=
  match index.toIndex? coordinates.length with
  | some index => coordinates.byteAt index
  | none => .error (.unitOutOfRange index coordinates.length)

/-- `ceilByteAt` for any number. -/
def ceilByte (coordinates : Coordinates) (index : Number) : Except Fault Nat :=
  match index.toIndex? coordinates.length with
  | some index => coordinates.ceilByteAt index
  | none => .error (.unitOutOfRange index coordinates.length)

/-! ## From bytes to units -/

/-- The first of the indices between two that has an entry of at least `byte`,
found by halving; the entries have to be in order. -/
def lowerBoundBetween (offsets : Array Nat) (byte first last : Nat) : Nat :=
  if _ : first < last then
    let middle := (first + last) / 2
    if offsets[middle]?.getD 0 < byte then lowerBoundBetween offsets byte (middle + 1) last
    else lowerBoundBetween offsets byte first middle
  else
    first
termination_by last - first

/-- The first index with an entry of at least `byte`; the number of entries when
there is none. -/
def lowerBound (coordinates : Coordinates) (byte : Nat) : Nat :=
  lowerBoundBetween coordinates.offsets byte 0 coordinates.offsets.size

/-- The first of the neighbouring indices that share the entry of an index. -/
def firstOfEqual (offsets : Array Nat) : Nat → Nat
  | 0 => 0
  | index + 1 =>
      if offsets[index]? = offsets[index + 1]? then firstOfEqual offsets index else index + 1

/-- The unit that starts at a byte offset; of the two halves of a pair, the
first. -/
def unitAt? (coordinates : Coordinates) (byte : Nat) : Option Nat :=
  let index := coordinates.lowerBound byte
  if coordinates.offsets[index]? = some byte then some index else none

/-- The unit that starts at a byte offset, which has to be a code point
boundary. -/
def unitAt (coordinates : Coordinates) (byte : Nat) : Except Fault Nat :=
  match coordinates.unitAt? byte with
  | some index => .ok index
  | none => .error (.byteInsidePoint (.ofNat byte))

/-- The start of the code point that holds a byte; the length of the subject
from the last byte on. -/
def floorUnitAt (coordinates : Coordinates) (byte : Nat) : Nat :=
  if byte = 0 then
    0
  else if coordinates.bytes.length ≤ byte then
    coordinates.length
  else
    let index := coordinates.lowerBound byte
    if coordinates.offsets[index]? = some byte then index
    else firstOfEqual coordinates.offsets (index - 1)

/-- `unitAt` for any number. -/
def byteToUnit (coordinates : Coordinates) (byte : Number) : Except Fault Nat :=
  match byte.toIndex? coordinates.bytes.length with
  | some offset =>
      match coordinates.unitAt? offset with
      | some index => .ok index
      | none => .error (.byteInsidePoint byte)
  | none => .error (.byteInsidePoint byte)

/-- `floorUnitAt` for any number: zero below the subject, its length beyond the
subject, and -1 for what is not a number. -/
def floorUnit (coordinates : Coordinates) (byte : Number) : Int :=
  match byte with
  | .nan => -1
  | .infinity negative => if negative then 0 else coordinates.length
  | .finite .. =>
      match byte.truncate? with
      | some (.ofNat offset) => coordinates.floorUnitAt offset
      | _ => 0

/-! ## Pairs -/

/-- Whether a pair starts at a unit, for any number; a fraction counts as the
unit it lies in. -/
def isPairStart (text : Text) (index : Number) : Bool :=
  match index.truncate? with
  | some (.ofNat offset) => !index.lt 0 && text.isPairAt offset
  | _ => false

end Coordinates

end RegexMatching
