import RegexMatching.Proofs.EscapeStarts
import RegexMatching.Proofs.LeadingFlags
import RegexMatching.Proofs.LineAnchors
import RegexMatching.Proofs.Quoting
import RegexMatching.Proofs.TemplateGrammar

/-!
# How far a back reference reaches

A back reference between braces is lowered to its number behind a backslash, without the braces.
The plain syntax ends such a number at the first unit that is no digit, so digits that follow the
closing brace become a part of it, and so do digits in front of what the rest is lowered to.
-/

namespace RegexMatching

/-! ## Decimal numbers -/

/-- The unit of a digit. -/
def digitUnit (digit : Nat) : CodeUnit :=
  CodeUnit.ofChar (Nat.digitChar digit)

theorem digitUnit_spec : ∀ digit < 10, CodePoint.units (Nat.digitChar digit).toNat =
    [digitUnit digit] ∧ (digitUnit digit).toNat = 48 + digit := by
  decide

theorem Text.ofNat_of_lt {number : Nat} (small : number < 10) :
    Text.ofNat number = [digitUnit number] := by
  rw [Text.ofNat, Text.ofString, Nat.toString_eq_repr, Nat.toList_repr,
    Nat.toDigits_of_lt_base small, List.flatMap_singleton]
  exact (digitUnit_spec number small).1

theorem Text.ofNat_of_le {number : Nat} (large : 10 ≤ number) :
    Text.ofNat number = Text.ofNat (number / 10) ++ [digitUnit (number % 10)] := by
  rw [Text.ofNat, Text.ofNat, Text.ofString, Text.ofString, Nat.toString_eq_repr,
    Nat.toString_eq_repr, Nat.toList_repr, Nat.toList_repr,
    Nat.toDigits_of_base_le (by decide) large, List.flatMap_append, List.flatMap_singleton]
  exact congrArg _ (digitUnit_spec _ (Nat.mod_lt _ (by decide))).1

theorem Text.decimalValue_ofNat (number : Nat) :
    Text.decimalValue (Text.ofNat number) = number := by
  induction number using Nat.strong_induction_on with
  | _ number ih =>
      rcases Nat.lt_or_ge number 10 with small | large
      · rw [Text.ofNat_of_lt small]
        change 0 * 10 + ((digitUnit number).toNat - 48) = number
        rw [(digitUnit_spec number small).2]
        omega
      · rw [Text.ofNat_of_le large, Template.decimalValue_append, ih _ (by omega),
          (digitUnit_spec _ (Nat.mod_lt _ (by decide))).2]
        omega

/-- The first digit of a positive number is not zero. -/
theorem Text.exists_head?_ofNat {number : Nat} (positive : 0 < number) :
    ∃ digit, 0 < digit ∧ digit < 10 ∧ (Text.ofNat number).head? = some (digitUnit digit) := by
  induction number using Nat.strong_induction_on with
  | _ number ih =>
      rcases Nat.lt_or_ge number 10 with small | large
      · exact ⟨number, positive, small, by rw [Text.ofNat_of_lt small]; rfl⟩
      · obtain ⟨digit, notZero, small, isHead⟩ := ih (number / 10) (by omega) (by omega)
        refine ⟨digit, notZero, small, ?_⟩
        rw [Text.ofNat_of_le large, List.head?_append, isHead]
        rfl

theorem Text.lt_decimalValue_append {front digits : Text} (positive : 0 < front.decimalValue)
    (isSome : digits ≠ []) : front.decimalValue < Text.decimalValue (front ++ digits) := by
  obtain ⟨first, others, rfl⟩ := List.exists_cons_of_ne_nil isSome
  have isPrefix : front ++ [first] <+: front ++ first :: others :=
    ⟨others, List.append_assoc ..⟩
  have larger := Template.decimalValue_mono isPrefix
  rw [Template.decimalValue_append] at larger
  omega

/-! ## References of the plain syntax -/

namespace Backtrack

open PointReader

/-- What lies beyond ASCII is no digit. -/
theorem isDigit_eq_false_of_le {point : Nat} (beyond : 0x80 ≤ point) : isDigit point = false := by
  rw [Bool.eq_false_iff]
  intro isNumber
  have isWord :
      ((charOf point).isAlpha || charOf point == '_' || (charOf point).isDigit) = true := by
    rw [show (charOf point).isDigit = true from isNumber, Bool.or_true]
  obtain ⟨notNul, ascii⟩ := Lowering.ascii_of_isAlphanum isWord
  rw [toNat_of_charOf notNul rfl] at ascii
  omega

/-- The digits in front of a text, and what follows them. -/
theorem span_points (text : Text) :
    text.points.takeWhile isDigit = (text.takeWhile CodeUnit.isDigit).map UInt16.toNat ∧
      text.points.dropWhile isDigit = Text.points (text.dropWhile CodeUnit.isDigit) := by
  fun_induction Text.points text with
  | case1 => exact ⟨rfl, rfl⟩
  | case2 unit =>
      have same : isDigit unit.toNat = unit.isDigit := rfl
      have single : Text.points [unit] = [unit.toNat] := rfl
      cases isNumber : unit.isDigit <;>
        simp [List.takeWhile, List.dropWhile, same, isNumber, single, Text.points]
  | case3 high low rest pair ih =>
      have bounds := (CodeUnit.isHighSurrogate_iff high).mp (Bool.and_eq_true_iff.mp pair).1
      have notPair : ¬isDigit (CodePoint.ofPair high.toNat low.toNat) = true := by
        refine Bool.eq_false_iff.mp (isDigit_eq_false_of_le ?_)
        unfold CodePoint.ofPair
        omega
      have notHigh : ¬high.isDigit = true :=
        Bool.eq_false_iff.mp (isDigit_eq_false_of_le (by omega : 0x80 ≤ high.toNat))
      rw [List.takeWhile_cons_of_neg notPair, List.takeWhile_cons_of_neg notHigh,
        List.dropWhile_cons_of_neg notPair, List.dropWhile_cons_of_neg notHigh,
        Text.points_of_pair pair]
      exact ⟨rfl, rfl⟩
  | case4 high low rest noPair ih =>
      have same : isDigit high.toNat = high.isDigit := rfl
      have whole : Text.points (high :: low :: rest) = high.toNat :: Text.points (low :: rest) :=
        if_neg noPair
      cases isNumber : high.isDigit with
      | false => simp [List.takeWhile, List.dropWhile, same, isNumber, whole]
      | true =>
          rw [List.takeWhile_cons_of_pos (same.trans isNumber),
            List.dropWhile_cons_of_pos (same.trans isNumber), ih.1, ih.2,
            List.takeWhile_cons_of_pos isNumber, List.dropWhile_cons_of_pos isNumber]
          exact ⟨rfl, rfl⟩

theorem decimalValue_map_toNat (digits : Text) :
    decimalValue (digits.map UInt16.toNat) = digits.decimalValue := by
  rw [decimalValue, List.foldl_map]
  rfl

/-- A backslash and a digit are a reference by all digits in a row. -/
theorem readToken_digit {digit : Nat} (positive : 0 < digit) (small : digit < 10)
    (rest : List Nat) :
    readToken 0x5C ((48 + digit) :: rest) =
      some (.reference (decimalValue (((48 + digit) :: rest).takeWhile isDigit)),
        ((48 + digit) :: rest).dropWhile isDigit) := by
  have dropped : ∀ points : List Nat, points.dropWhile isDigit =
      points.drop (points.takeWhile isDigit).length := by
    intro points
    have parts : points.takeWhile isDigit ++ points.dropWhile isDigit = points :=
      List.takeWhile_append_dropWhile
    conv => rhs; arg 2; rw [← parts]
    exact List.drop_left.symm
  rw [dropped]
  change readEscapeToken _ = _
  rw [readEscapeToken_eq]
  interval_cases digit <;> rfl

/-- A positive number begins with a digit that is not zero. -/
theorem exists_points_ofNat {number : Nat} (positive : 0 < number) (rest : Text) :
    ∃ digit points, 0 < digit ∧ digit < 10 ∧
      Text.points (Text.ofNat number ++ rest) = (48 + digit) :: points := by
  obtain ⟨digit, notZero, small, isHead⟩ := Text.exists_head?_ofNat positive
  obtain ⟨others, digits_eq⟩ := List.head?_eq_some_iff.mp isHead
  have ascii : (digitUnit digit).toNat < 0x80 := by
    rw [(digitUnit_spec digit small).2]
    omega
  refine ⟨digit, Text.points (others ++ rest), notZero, small, ?_⟩
  rw [digits_eq, List.cons_append,
    Text.points_cons_of_not_high (Lowering.isHighSurrogate_of_lt ascii),
    (digitUnit_spec digit small).2]

/-- A number behind a backslash is a reference, to which all digits belong that follow. -/
theorem tokenRun_reference {number : Nat} (positive : 0 < number) (rest : Text) :
    TokenRun (0x5C :: Text.points (Text.ofNat number ++ rest))
      [.reference (Text.decimalValue (Text.ofNat number ++ rest.takeWhile CodeUnit.isDigit))]
      (Text.points (rest.dropWhile CodeUnit.isDigit)) := by
  have areDigits : ∀ unit ∈ Text.ofNat number, unit.isDigit = true :=
    fun unit member => Lowering.isDigit_of_mem_ofNat member
  obtain ⟨digit, points, notZero, small, points_eq⟩ := exists_points_ofNat positive rest
  have isToken := readToken_digit notZero small points
  rw [← points_eq, (span_points _).1, (span_points _).2, decimalValue_map_toNat,
    List.takeWhile_append_of_pos areDigits, List.dropWhile_append_of_pos areDigits] at isToken
  exact .cons isToken (.nil _)

end Backtrack

namespace Lowering

open Backtrack

/-! ## References between braces -/

/-- A back reference between braces: to a group by its number, or by how many of the groups opened
so far it counts back. -/
inductive BracedReference where
  | numbered (number : Nat)
  | backward (number : Nat)

namespace BracedReference

def number : BracedReference → Nat
  | numbered number => number
  | backward number => number

/-- What stands between the braces. -/
def inner : BracedReference → Text
  | numbered number => Text.ofNat number
  | backward number => Text.ofString "-" ++ Text.ofNat number

/-- The reference as it is written in a pattern. -/
def text (reference : BracedReference) : Text :=
  Text.ofString "\\g\x7b" ++ reference.inner ++ Text.ofString "\x7d"

/-- The group that is meant where some groups have been opened. -/
def group (captureCount : Nat) : BracedReference → Nat
  | numbered number => number
  | backward number => captureCount + 1 - number

/-- Whether the group that is meant has been opened. -/
def IsOpened (captureCount : Nat) (reference : BracedReference) : Prop :=
  1 ≤ reference.number ∧ reference.number ≤ captureCount

instance (captureCount : Nat) (reference : BracedReference) :
    Decidable (reference.IsOpened captureCount) :=
  inferInstanceAs (Decidable (_ ∧ _))

variable {captureCount : Nat} {reference : BracedReference}

theorem group_pos (isOpened : reference.IsOpened captureCount) :
    0 < reference.group captureCount := by
  cases reference with
  | numbered number => exact isOpened.1
  | backward number =>
      have within : number ≤ captureCount := isOpened.2
      change 0 < captureCount + 1 - number
      omega

end BracedReference

/-- The source of a reference to a group. -/
def numberedSource (group : Nat) : Text :=
  Text.ofString "\\" ++ Text.ofNat group

theorem isNumber_ofNat (number : Nat) :
    (!(Text.ofNat number).isEmpty && (Text.ofNat number).all CodeUnit.isDigit) = true := by
  rw [List.all_eq_true.mpr fun unit member => isDigit_of_mem_ofNat member]
  simpa using ofNat_ne_nil number

/-- No mark is a digit, so none stands in front of a number. -/
theorem dropPrefix?_ofNat (number : Nat) :
    Text.dropPrefix? (Text.ofString "-") (Text.ofNat number) = none := by
  refine if_neg fun starts => ?_
  obtain ⟨rest, number_eq⟩ := List.isPrefixOf_iff_prefix.mp starts
  have isNumber := @isDigit_of_mem_ofNat number (CodeUnit.ofChar '-')
    (number_eq ▸ List.mem_append_left rest List.mem_cons_self)
  exact absurd isNumber (by decide)

theorem referenceSource_inner {captureCount : Nat} {reference : BracedReference}
    (isOpened : reference.IsOpened captureCount) :
    referenceSource captureCount reference.inner =
      .ok (numberedSource (reference.group captureCount)) := by
  cases reference with
  | numbered number =>
      have positive : 1 ≤ number := isOpened.1
      simp only [referenceSource, BracedReference.inner, dropPrefix?_ofNat, Option.getD_none,
        List.isEmpty_nil, Bool.not_true, Bool.false_and, Bool.false_eq_true, if_false,
        isNumber_ofNat, if_true, Text.decimalValue_ofNat]
      exact if_neg (Nat.pos_iff_ne_zero.mp positive)
  | backward number =>
      have within : number ≤ captureCount := isOpened.2
      simp only [referenceSource, BracedReference.inner, Text.dropPrefix?_append, Option.getD_some,
        isNumber_ofNat, if_true, Text.decimalValue_ofNat]
      exact if_neg (Nat.not_lt.mpr within)

/-- A reference between braces is one step, to its number without the braces. -/
theorem readStep_reference (options : Options) {progress : Progress} {reference : BracedReference}
    (isOpened : reference.IsOpened progress.captureCount) (behind : Text) :
    readStep options progress 0x5C ((reference.text ++ behind).drop 1) =
      .ok (.source (numberedSource (reference.group progress.captureCount)), progress, behind) := by
  have written : (reference.text ++ behind).drop 1 =
      0x67 :: 0x7B :: (reference.inner ++ 0x7D :: behind) := by
    rw [BracedReference.text, List.append_assoc, List.append_assoc]
    rfl
  have notBrace : (0x7D : CodeUnit) ∉ reference.inner := by
    intro member
    cases reference with
    | numbered number => exact absurd (isDigit_of_mem_ofNat member) (by decide)
    | backward number =>
        rcases List.mem_append.mp member with member | member
        · exact absurd member (by decide)
        · exact absurd (isDigit_of_mem_ofNat member) (by decide)
  have isDelimited : readDelimited "\x7b" "\x7d" (0x7B :: (reference.inner ++ 0x7D :: behind)) =
      some (reference.inner, behind) :=
    Text.cut?_of_notMem notBrace behind
  rw [readStep_of_notSkipped options progress rfl rfl, written]
  change Reading.withProgress (readReference progress.captureCount _ _) progress = _
  rw [readReference, isDelimited]
  dsimp only [Option.some_or]
  rw [referenceSource_inner isOpened]
  rfl

theorem readStep_digit (options : Options) (progress : Progress) {unit : CodeUnit}
    (isDigit : unit.isDigit = true) (rest : Text) :
    readStep options progress unit rest = .ok (.source [unit], progress, rest) := by
  have differs : ∀ char : Char, char.isDigit = false → unit.toChar ≠ char :=
    fun char notDigit => Template.digit_ne isDigit notDigit
  have notBlank : isPatternBlank unit = false := by
    simp [isPatternBlank, differs]
  have notComment : (unit.toChar == '#') = false := beq_eq_false_iff_ne.mpr (differs '#' rfl)
  rw [readStep_of_notSkipped options progress notBlank notComment, readItem]
  split
  all_goals first
    | rfl
    | exact absurd (by assumption) (differs _ rfl)

/-- Pieces of units that stand for themselves. -/
def unitPieces (text : Text) : List Piece :=
  text.map fun unit => .source [unit]

theorem reads_digits (options : Options) (progress : Progress) {digits : Text}
    (areDigits : ∀ unit ∈ digits, unit.isDigit = true) (behind : Text) :
    Reads options progress (digits ++ behind) (unitPieces digits) progress behind := by
  induction digits with
  | nil => exact .nil progress behind
  | cons digit digits ih =>
      rw [List.forall_mem_cons] at areDigits
      exact .cons (readStep_digit options progress areDigits.1 _) (ih areDigits.2)

theorem reads_reference (options : Options) {progress : Progress} {reference : BracedReference}
    (isOpened : reference.IsOpened progress.captureCount) (behind : Text) :
    Reads options progress (reference.text ++ behind)
      [.source (numberedSource (reference.group progress.captureCount))] progress behind :=
  .cons (readStep_reference options isOpened behind) (.nil progress behind)

/-! ## References in renderings -/

section Rendering

variable (multiline newlineLf : Bool) (edges : Edges)

theorem renderPieces_cons (piece : Piece) (pieces : List Piece) :
    renderPieces multiline newlineLf edges (piece :: pieces) =
      piece.render multiline newlineLf edges ++ renderPieces multiline newlineLf edges pieces :=
  List.flatMap_cons

theorem renderPieces_append (first second : List Piece) :
    renderPieces multiline newlineLf edges (first ++ second) =
      renderPieces multiline newlineLf edges first ++
        renderPieces multiline newlineLf edges second :=
  List.flatMap_append

theorem renderPieces_unitPieces (text : Text) :
    renderPieces multiline newlineLf edges (unitPieces text) = text := by
  rw [renderPieces, unitPieces, List.flatMap_map]
  exact List.flatMap_singleton' text

/-- Between two steps the reader stands between two items of the rendering. -/
theorem Reads.runText_renderPieces {options : Options} {progress last : Progress}
    {text behind : Text} {pieces : List Piece}
    (reads : Reads options progress text pieces last behind) :
    (Mode.item false).runText (renderPieces multiline newlineLf edges pieces) = .item false := by
  induction reads with
  | nil => rfl
  | @cons _ _ _ _ _ _ _ piece pieces isStep _ ih =>
      have stepped : (Mode.item false).runText (piece.render multiline newlineLf edges) =
          .item false := by
        obtain ⟨groups, opens, -⟩ := opens_of_readStep isStep
        cases piece with
        | source source => exact runText_of_opens opens
        | anchor place =>
            exact Mode.runText_of_quiet (quiet_renderAnchor place multiline newlineLf edges).1
      change (Mode.item false).runText (piece.render multiline newlineLf edges ++ _) = _
      rw [Mode.runText_append, stepped]
      exact ih

end Rendering

/-- The plain syntax has at a place of a source, if the source can be read, a back reference to a
group, behind which a rest is read. -/
def ReferenceAt (source place : Text) (group : Nat) (rest : Text) : Prop :=
  place <:+ source ∧ ∀ read, tokens source.points = some read →
    ∃ before after, TokenRun source.points before place.points ∧
      TokenRun place.points [.reference group] rest.points ∧
      tokens rest.points = some after ∧ read = before ++ .reference group :: after

/-- The number that the plain syntax reads where the number of a group is followed by a rest. -/
def joinedNumber (group : Nat) (rest : Text) : Nat :=
  Text.decimalValue (Text.ofNat group ++ rest.takeWhile CodeUnit.isDigit)

/-- Only what begins with no digit leaves the number of a group as it is. -/
theorem joinedNumber_eq_iff {group : Nat} (positive : 0 < group) (rest : Text) :
    joinedNumber group rest = group ↔ rest.takeWhile CodeUnit.isDigit = [] := by
  have alone := Text.decimalValue_ofNat group
  constructor
  · intro same
    by_contra isSome
    have larger := Text.lt_decimalValue_append (alone.symm ▸ positive) isSome
    rw [alone] at larger
    exact absurd same (Nat.ne_of_gt larger)
  · intro noDigits
    rw [joinedNumber, noDigits, List.append_nil, alone]

/-- Where a scan is between items, a number behind a backslash is a reference to which all digits
belong that follow. -/
theorem referenceAt_numberedSource {front : Text}
    (met : (Mode.item false).runText front = .item false) {group : Nat} (positive : 0 < group)
    (rest : Text) :
    ReferenceAt (front ++ (numberedSource group ++ rest)) (numberedSource group ++ rest)
      (joinedNumber group rest) (rest.dropWhile CodeUnit.isDigit) := by
  have run := tokenRun_reference positive rest
  have place_eq : Text.points (numberedSource group ++ rest) =
      0x5C :: Text.points (Text.ofNat group ++ rest) :=
    Text.points_cons_of_not_high rfl _
  have source_eq : Text.points (front ++ (numberedSource group ++ rest)) =
      front.points ++ 0x5C :: Text.points (Text.ofNat group ++ rest) :=
    (Text.points_append_of_not_low front rfl _).trans (congrArg (front.points ++ ·) place_eq)
  have notUnicode :
      PointReader.startsWith 'u' (Text.points (Text.ofNat group ++ rest)) = false := by
    obtain ⟨digit, points, -, small, points_eq⟩ := exists_points_ofNat positive rest
    rw [points_eq]
    interval_cases digit <;> rfl
  refine ⟨List.suffix_append _ _, fun read isRead => ?_⟩
  rw [source_eq] at isRead ⊢
  rw [place_eq]
  obtain ⟨before, others, isBefore, areOthers, rfl⟩ :=
    exists_tokenRun_of_cut ((Mode.run_points _ _).trans met) notUnicode isRead
  rw [run.tokens_eq] at areOthers
  obtain ⟨after, isAfter, rfl⟩ := Option.map_eq_some_iff.mp areOthers
  exact ⟨before, after, isBefore, run, isAfter, rfl⟩

/-- A reference between braces that is lowered to its number: what the plain syntax reads goes on
with the digits that follow the braces, and with those in front of what the rest is lowered to.  So
it is a reference to the group that is meant just where there are no such digits. -/
theorem reference_extent {options : Options} (isExpression : options.literal = false)
    {pattern : Text} {lowered : Lowered} (isLowered : lower options pattern = .ok lowered)
    {pieces : List Piece} {progress : Progress} {reference : BracedReference}
    {digits behind : Text}
    (reads : Reads (readLeadingFlags options pattern).1 {} (readLeadingFlags options pattern).2
      pieces progress (reference.text ++ (digits ++ behind)))
    (isOpened : reference.IsOpened progress.captureCount)
    (areDigits : ∀ unit ∈ digits, unit.isDigit = true) :
    ∃ more, lowered.pieces =
        pieces ++ .source (numberedSource (reference.group progress.captureCount)) ::
          (unitPieces digits ++ more) ∧
      ∀ edges, ∃ rest,
        rest = digits ++ renderPieces lowered.multiline lowered.newlineLf edges more ∧
        ReferenceAt (lowered.render edges)
          (numberedSource (reference.group progress.captureCount) ++ rest)
          (joinedNumber (reference.group progress.captureCount) rest)
          (rest.dropWhile CodeUnit.isDigit) ∧
        (joinedNumber (reference.group progress.captureCount) rest =
            reference.group progress.captureCount ↔
          rest.takeWhile CodeUnit.isDigit = []) := by
  have run := reads.trans ((reads_reference _ isOpened _).trans
    (reads_digits _ progress areDigits behind))
  have positive := BracedReference.group_pos isOpened
  generalize reference.group progress.captureCount = group at run positive
  obtain ⟨more, pieces_eq⟩ := exists_pieces_of_reads isExpression isLowered run
  have pieces_eq' : lowered.pieces =
      pieces ++ .source (numberedSource group) :: (unitPieces digits ++ more) :=
    pieces_eq.trans (by simp)
  refine ⟨more, pieces_eq', fun edges => ⟨_, rfl, ?_, joinedNumber_eq_iff positive _⟩⟩
  have rendered : lowered.render edges =
      renderPieces lowered.multiline lowered.newlineLf edges pieces ++ (numberedSource group ++
        (digits ++ renderPieces lowered.multiline lowered.newlineLf edges more)) := by
    change renderPieces lowered.multiline lowered.newlineLf edges lowered.pieces = _
    rw [pieces_eq', renderPieces_append, renderPieces_cons, renderPieces_append,
      renderPieces_unitPieces]
    rfl
  rw [rendered]
  exact referenceAt_numberedSource (reads.runText_renderPieces _ _ edges) positive _

/-- A digit behind a reference to the first group makes it a reference to the twelfth. -/
theorem reference_extent_of_backward :
    ∃ lowered, lower {} (Text.ofString "(a)\\g\x7b-1\x7d2") = .ok lowered ∧
      ReferenceAt (lowered.render {}) (Text.ofString "\\12") 12 [] := by
  have noFlags : readLeadingFlags {} (Text.ofString "(a)\\g\x7b-1\x7d2") =
      ({}, Text.ofString "(a)\\g\x7b-1\x7d2") := by
    decide +kernel
  have isOpened : BracedReference.IsOpened 1 (.backward 1) := by
    decide
  have areDigits : ∀ unit ∈ Text.ofString "2", unit.isDigit = true := by
    decide
  have reads : Reads (readLeadingFlags {} (Text.ofString "(a)\\g\x7b-1\x7d2")).1 {}
      (readLeadingFlags {} (Text.ofString "(a)\\g\x7b-1\x7d2")).2
      (unitPieces (Text.ofString "(a)")) { captureCount := 1 }
      (BracedReference.text (.backward 1) ++ (Text.ofString "2" ++ [])) := by
    rw [noFlags]
    exact .cons rfl (.cons rfl (.cons rfl (.nil _ _)))
  have isLowered := lower_of_reads rfl (reads.trans ((reads_reference _ isOpened _).trans
    (reads_digits _ _ areDigits [])))
  obtain ⟨more, pieces_eq, located⟩ := reference_extent rfl isLowered reads isOpened areDigits
  obtain rfl : more = [] := by
    simpa [Lowered.ofPieces] using pieces_eq
  obtain ⟨rest, rfl, isReference, -⟩ := located {}
  exact ⟨_, isLowered, isReference⟩

/-- Eleven groups, all of which are empty but the first one. -/
def elevenGroups : Text :=
  Text.ofString "(a)()()()()()()()()()()"

/-- Behind eleven groups, a reference to the first one and a digit are silently read as a reference
to the last one. -/
theorem reference_takes_in_digit :
    ∃ lowered pieces progress,
      lower {} (elevenGroups ++ Text.ofString "\\g\x7b1\x7d1") = .ok lowered ∧
      Reads {} {} (elevenGroups ++ Text.ofString "\\g\x7b1\x7d1") pieces progress
        (BracedReference.text (.numbered 1) ++ Text.ofString "1") ∧
      BracedReference.IsOpened progress.captureCount (.numbered 1) ∧
      (Regex.ofPoints? (lowered.render {}).points lowered.caseless).isSome = true ∧
      ¬ReferenceAt (lowered.render {}) (numberedSource 1 ++ Text.ofString "1") 1
        (Text.ofString "1") ∧
      ReferenceAt (lowered.render {}) (numberedSource 1 ++ Text.ofString "1") 11 [] := by
  have noFlags : readLeadingFlags {} (elevenGroups ++ Text.ofString "\\g\x7b1\x7d1") =
      ({}, elevenGroups ++ Text.ofString "\\g\x7b1\x7d1") := by
    decide +kernel
  have reads : Reads {} {} (elevenGroups ++ Text.ofString "\\g\x7b1\x7d1")
      (unitPieces elevenGroups) { captureCount := 11 }
      (BracedReference.text (.numbered 1) ++ Text.ofString "1") := by
    iterate 23 refine .cons rfl ?_
    exact .nil _ _
  have whole := reads.trans (.cons rfl (.cons rfl (.nil _ _)))
  have isLowered : lower {} (elevenGroups ++ Text.ofString "\\g\x7b1\x7d1") =
      .ok (.ofPieces {} (unitPieces elevenGroups ++
        [.source (numberedSource 1), .source (Text.ofString "1")]) { captureCount := 11 }) := by
    have isLowered := @lower_of_reads {} rfl (elevenGroups ++ Text.ofString "\\g\x7b1\x7d1") _ _
      (by rw [noFlags]; exact whole)
    rwa [noFlags] at isLowered
  refine ⟨_, _, _, isLowered, reads, by decide, ?_, ?_, ?_⟩
  · decide +kernel
  · rintro ⟨-, located⟩
    have isRead : (tokens (Text.points (elevenGroups ++ Text.ofString "\\11"))).isSome = true := by
      decide +kernel
    obtain ⟨read, isRead⟩ := Option.isSome_iff_exists.mp isRead
    obtain ⟨before, after, -, run, -⟩ := located read isRead
    have isToken : readToken 0x5C [0x31, 0x31] = some (.reference 11, []) := rfl
    cases run with
    | cons isOther _ => cases isToken.symm.trans isOther
  · have met : (Mode.item false).runText elevenGroups = .item false := by
      decide +kernel
    exact referenceAt_numberedSource met Nat.one_pos (Text.ofString "1")

end Lowering

end RegexMatching
