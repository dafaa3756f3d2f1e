import RegexMatching.Text

/-!
# UTF-8

`encode` writes text as bytes; a surrogate that stands alone is written as the
replacement character.  `decode` reads any bytes: each maximal ill-formed part
becomes one replacement character, and one byte order mark in front is dropped.
-/

namespace RegexMatching

/-- A sequence of bytes. -/
abbrev Bytes := List UInt8

namespace Utf8

/-- The code point that stands for anything that cannot be represented. -/
def replacement : Nat := 0xFFFD

/-- The code point that `decode` drops in front. -/
def byteOrderMark : Nat := 0xFEFF

/-! ## Encoding -/

/-- Surrogates have no encoding of their own. -/
def scalarOf (point : Nat) : Nat :=
  if 0xD800 ≤ point && point ≤ 0xDFFF then replacement else point

/-- The bytes of one code point that is no surrogate. -/
def encodeScalar (point : Nat) : Bytes :=
  if point < 0x80 then
    [point.toUInt8]
  else if point < 0x800 then
    [(0xC0 + point / 0x40).toUInt8, (0x80 + point % 0x40).toUInt8]
  else if point < 0x10000 then
    [(0xE0 + point / 0x1000).toUInt8, (0x80 + point / 0x40 % 0x40).toUInt8,
      (0x80 + point % 0x40).toUInt8]
  else
    [(0xF0 + point / 0x40000).toUInt8, (0x80 + point / 0x1000 % 0x40).toUInt8,
      (0x80 + point / 0x40 % 0x40).toUInt8, (0x80 + point % 0x40).toUInt8]

/-- The bytes of one code point. -/
def encodePoint (point : Nat) : Bytes :=
  encodeScalar (scalarOf point)

/-- How many bytes a code point takes. -/
def width (point : Nat) : Nat :=
  if point < 0x80 then 1
  else if point < 0x800 then 2
  else if point < 0x10000 then 3
  else 4

theorem length_encodePoint (point : Nat) :
    (encodePoint point).length = width point := by
  unfold encodePoint scalarOf replacement width encodeScalar
  split
  · next surrogate =>
      simp only [Bool.and_eq_true, decide_eq_true_eq] at surrogate
      have low : ¬point < 0x80 := by omega
      have middle : ¬point < 0x800 := by omega
      have high : point < 0x10000 := by omega
      simp [low, middle, high]
  · split
    · rfl
    · split
      · rfl
      · split <;> rfl

/-- The UTF-8 encoding of text. -/
def encode (text : Text) : Bytes :=
  text.points.flatMap encodePoint

/-! ## Decoding -/

/-- A code point of which some bytes have been read: the bytes still owed, the
value so far, and the range in which the next byte has to lie. -/
structure Pending where
  owed : Nat
  value : Nat
  low : UInt8 := 0x80
  high : UInt8 := 0xBF

/-- What the first byte of a code point announces. -/
inductive Lead where
  | whole (point : Nat)
  | opens (pending : Pending)
  | invalid

/-- Read the first byte of a code point.  The range of the second byte shuts
out overlong forms, surrogates and values above the last code point. -/
def lead (byte : UInt8) : Lead :=
  let value := byte.toNat
  if byte < 0x80 then .whole value
  else if byte < 0xC2 then .invalid
  else if byte < 0xE0 then .opens { owed := 1, value := value - 0xC0 }
  else if byte = 0xE0 then .opens { owed := 2, value := 0, low := 0xA0 }
  else if byte = 0xED then .opens { owed := 2, value := 0xD, high := 0x9F }
  else if byte < 0xF0 then .opens { owed := 2, value := value - 0xE0 }
  else if byte = 0xF0 then .opens { owed := 3, value := 0, low := 0x90 }
  else if byte < 0xF4 then .opens { owed := 3, value := value - 0xF0 }
  else if byte = 0xF4 then .opens { owed := 3, value := 4, high := 0x8F }
  else .invalid

/-- The code points of the bytes, given what is pending.  A byte that cannot
continue what is pending ends it with a replacement and is read afresh. -/
def decodeFrom : Option Pending → Bytes → List Nat
  | none, [] => []
  | some _, [] => [replacement]
  | none, byte :: rest =>
      match lead byte with
      | .whole point => point :: decodeFrom none rest
      | .opens pending => decodeFrom (some pending) rest
      | .invalid => replacement :: decodeFrom none rest
  | some pending, byte :: rest =>
      if pending.low ≤ byte && byte ≤ pending.high then
        let value := pending.value * 0x40 + (byte.toNat - 0x80)
        if pending.owed ≤ 1 then
          value :: decodeFrom none rest
        else
          decodeFrom (some { owed := pending.owed - 1, value }) rest
      else
        replacement ::
          match lead byte with
          | .whole point => point :: decodeFrom none rest
          | .opens next => decodeFrom (some next) rest
          | .invalid => replacement :: decodeFrom none rest

/-- Drop one byte order mark in front. -/
def dropByteOrderMark : List Nat → List Nat
  | [] => []
  | first :: rest => if first = byteOrderMark then rest else first :: rest

/-- The code points that bytes stand for. -/
def decode (bytes : Bytes) : List Nat :=
  dropByteOrderMark (decodeFrom none bytes)

/-- The text that bytes stand for. -/
def decodeText (bytes : Bytes) : Text :=
  Text.ofPoints (decode bytes)

end Utf8

end RegexMatching
