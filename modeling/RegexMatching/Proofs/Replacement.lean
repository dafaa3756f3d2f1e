import RegexMatching.Proofs.WellFormed

/-!
# Text as it comes back from its bytes

A surrogate that stands alone has no bytes of its own, so it comes back as the replacement
character.  The replacement takes as many units and as many bytes as the surrogate, so offsets of
the text that comes back are offsets of the text that was given.
-/

namespace RegexMatching

namespace Utf8

theorem scalarOf_scalarOf (point : Nat) : scalarOf (scalarOf point) = scalarOf point := by
  have notSurrogate := scalarOf_not_surrogate point
  conv => lhs; rw [scalarOf]
  exact if_neg (by simpa using notSurrogate)

theorem scalarOf_eq_self {point : Nat} (notSurrogate : ¬(0xD800 ≤ point ∧ point ≤ 0xDFFF)) :
    scalarOf point = point :=
  if_neg (by simpa using notSurrogate)

theorem scalarOf_ofPair (high low : Nat) :
    scalarOf (CodePoint.ofPair high low) = CodePoint.ofPair high low := by
  refine scalarOf_eq_self fun isSurrogate => ?_
  unfold CodePoint.ofPair at isSurrogate
  omega

end Utf8

namespace Text

/-! ## Replacing -/

/-- The text with the replacement character in place of every surrogate that stands alone. -/
def toWellFormed (text : Text) : Text :=
  ofPoints (text.points.map Utf8.scalarOf)

/-- A unit outside a pair is replaced by itself or by the replacement character. -/
theorem exists_toWellFormed_of_single {unit : CodeUnit} {rest : Text}
    (isSingle : startsWithPair (unit :: rest) = false) :
    ∃ unit', toWellFormed (unit :: rest) = unit' :: toWellFormed rest ∧
      unit'.toNat = Utf8.scalarOf unit.toNat ∧ unit'.isHighSurrogate = false := by
  have small : Utf8.scalarOf unit.toNat < 0x10000 := by
    have bound := unit.toNat_lt
    unfold Utf8.scalarOf Utf8.replacement
    split <;> omega
  have isUnit : (Utf8.scalarOf unit.toNat).toUInt16.toNat = Utf8.scalarOf unit.toNat :=
    Nat.mod_eq_of_lt small
  refine ⟨(Utf8.scalarOf unit.toNat).toUInt16, ?_, isUnit, ?_⟩
  · rw [toWellFormed, points_of_single isSingle, List.map_cons, ofPoints, List.flatMap_cons,
      CodePoint.units, if_pos small]
    rfl
  · have notSurrogate := Utf8.scalarOf_not_surrogate unit.toNat
    rw [Bool.eq_false_iff, ne_eq, CodeUnit.isHighSurrogate_iff, isUnit]
    omega

/-- A pair is kept. -/
theorem toWellFormed_of_pair {high low : CodeUnit} {rest : Text}
    (isPair : startsWithPair (high :: low :: rest) = true) :
    toWellFormed (high :: low :: rest) = high :: low :: toWellFormed rest := by
  obtain ⟨isHigh, isLow⟩ := Bool.and_eq_true_iff.mp isPair
  rw [toWellFormed, points_of_pair isPair, List.map_cons, Utf8.scalarOf_ofPair, ofPoints,
    List.flatMap_cons, CodePoint.units_ofPair isHigh isLow]
  rfl

/-- Texts are taken apart by pairs and single units. -/
theorem pair_induction {motive : Text → Prop} (nil : motive [])
    (single : ∀ unit rest, startsWithPair (unit :: rest) = false → motive rest →
      motive (unit :: rest))
    (pair : ∀ high low rest, startsWithPair (high :: low :: rest) = true → motive rest →
      motive (high :: low :: rest)) (text : Text) : motive text := by
  fun_induction Text.points text with
  | case1 => exact nil
  | case2 unit => exact single unit [] rfl nil
  | case3 high low rest isPair ih => exact pair high low rest isPair ih
  | case4 high low rest notPair ih =>
      exact single high (low :: rest) (Bool.eq_false_iff.mpr notPair) ih

theorem points_toWellFormed (text : Text) :
    text.toWellFormed.points = text.points.map Utf8.scalarOf := by
  induction text using pair_induction with
  | nil => rfl
  | single unit rest isSingle ih =>
      obtain ⟨unit', written, isUnit, notHigh⟩ := exists_toWellFormed_of_single isSingle
      rw [written, points_cons_of_not_high notHigh, ih, points_of_single isSingle, List.map_cons,
        isUnit]
  | pair high low rest isPair ih =>
      have isPair' : startsWithPair (high :: low :: toWellFormed rest) = true := isPair
      rw [toWellFormed_of_pair isPair, points_of_pair isPair', points_of_pair isPair, ih,
        List.map_cons, Utf8.scalarOf_ofPair]

theorem isWellFormed_toWellFormed (text : Text) : text.toWellFormed.IsWellFormed := by
  rw [IsWellFormed, points_toWellFormed, List.forall_mem_map]
  exact fun point _ => Utf8.scalarOf_not_surrogate point

/-- In well-formed text there is nothing to replace. -/
theorem IsWellFormed.toWellFormed_eq {text : Text} (isWellFormed : text.IsWellFormed) :
    text.toWellFormed = text := by
  rw [toWellFormed, isWellFormed.map_scalarOf, ofPoints_points]

theorem length_toWellFormed (text : Text) : text.toWellFormed.length = text.length := by
  induction text using pair_induction with
  | nil => rfl
  | single unit rest isSingle ih =>
      obtain ⟨unit', written, -⟩ := exists_toWellFormed_of_single isSingle
      rw [written, List.length_cons, ih, List.length_cons]
  | pair high low rest isPair ih =>
      simp only [toWellFormed_of_pair isPair, List.length_cons, ih]

end Text

namespace Utf8

theorem encode_toWellFormed (text : Text) : encode text.toWellFormed = encode text := by
  have same : (fun point => encodePoint (scalarOf point)) = encodePoint :=
    funext fun point => congrArg encodeScalar (scalarOf_scalarOf point)
  rw [encode, Text.points_toWellFormed, List.flatMap_map, same, encode]

/-- What is read in the bytes of a text that does not start with a byte order mark. -/
theorem decodeText_encode {text : Text} (noMark : text.head? ≠ some 0xFEFF) :
    decodeText (encode text) = text.toWellFormed := by
  rw [decodeText, decode_encode noMark, Text.toWellFormed]

end Utf8

/-! ## Offsets -/

/-- The table of a text that starts with a unit outside a pair. -/
theorem byteOffsetsFrom_of_single (byte : Nat) {unit : CodeUnit} {rest : Text}
    (isSingle : Text.startsWithPair (unit :: rest) = false) :
    byteOffsetsFrom byte (unit :: rest) =
      byte :: byteOffsetsFrom (byte + Utf8.width unit.toNat) rest := by
  cases rest with
  | nil => rfl
  | cons low rest => exact if_neg (Bool.eq_false_iff.mp isSingle)

theorem byteOffsetsFrom_of_pair (byte : Nat) {high low : CodeUnit} {rest : Text}
    (isPair : Text.startsWithPair (high :: low :: rest) = true) :
    byteOffsetsFrom byte (high :: low :: rest) = byte :: byte :: byteOffsetsFrom (byte + 4) rest :=
  if_pos isPair

theorem byteOffsetsFrom_toWellFormed (byte : Nat) (text : Text) :
    byteOffsetsFrom byte text.toWellFormed = byteOffsetsFrom byte text := by
  induction text using Text.pair_induction generalizing byte with
  | nil => rfl
  | single unit rest isSingle ih =>
      obtain ⟨unit', written, isUnit, notHigh⟩ := Text.exists_toWellFormed_of_single isSingle
      have isSingle' : Text.startsWithPair (unit' :: Text.toWellFormed rest) = false := by
        cases Text.toWellFormed rest with
        | nil => rfl
        | cons low rest =>
            rw [Text.startsWithPair, notHigh]
            rfl
      rw [written, byteOffsetsFrom_of_single byte isSingle', isUnit, Utf8.width_scalarOf, ih,
        byteOffsetsFrom_of_single byte isSingle]
  | pair high low rest isPair ih =>
      have isPair' : Text.startsWithPair (high :: low :: Text.toWellFormed rest) = true := isPair
      rw [Text.toWellFormed_of_pair isPair, byteOffsetsFrom_of_pair byte isPair',
        byteOffsetsFrom_of_pair byte isPair, ih]

namespace Coordinates

/-- Offsets of a text are those of the text as it comes back from its bytes. -/
theorem floorUnitAt_toWellFormed (text : Text) (byte : Nat) :
    (ofText text.toWellFormed).floorUnitAt byte = (ofText text).floorUnitAt byte := by
  have bytes : (ofText text.toWellFormed).bytes = (ofText text).bytes :=
    Utf8.encode_toWellFormed text
  have length : (ofText text.toWellFormed).length = (ofText text).length :=
    Text.length_toWellFormed text
  have offsets : (ofText text.toWellFormed).offsets = (ofText text).offsets :=
    congrArg List.toArray (byteOffsetsFrom_toWellFormed 0 text)
  rw [floorUnitAt, floorUnitAt, lowerBound, lowerBound, bytes, length, offsets]

end Coordinates

end RegexMatching
