import RegexMatching.Proofs.Boundary
import RegexMatching.Proofs.Templates

/-!
# The grammar of templates

A template is a sequence of code points that are escaped, references to groups by number and by
name, and other units.  The grammar says what each of them looks like; of a run of digits it takes
the longest part in front that numbers a group.  Expansion, which reads digit by digit and looks
for the next brace, writes what the grammar's tokens stand for, up to the first place where no token
starts.
-/

namespace RegexMatching

namespace Template

variable {captures : Captures}

/-! ## Tokens -/

/-- What a template consists of. -/
inductive Token where
  | literal (text : Text)
  | group (number : Nat)

/-- What a token stands for; a group that took no part in the match stands for nothing. -/
def Token.expansion (values : Nat → Option Text) : Token → Text
  | literal text => text
  | group number => (values number).getD []

/-- The longest part in front of a run of digits that numbers one of `size` groups. -/
structure IsLongestNumber (size : Nat) (run digits : Text) : Prop where
  inFront : digits <+: run
  isNonempty : digits ≠ []
  isGroup : digits.decimalValue < size
  isLongest : ∀ longer, longer <+: run → Text.decimalValue longer < size →
    longer.length ≤ digits.length

/-- Whether a text starts with a code point, in front of the rest. -/
def IsFirstPoint (point rest : Text) : Prop :=
  ∃ value, point.points = [value] ∧ (point ++ rest).points = value :: rest.points

/-- The token that a template starts with, and the rest. -/
inductive Starts (captures : Captures) : Text → Token → Text → Prop
  | escaped {unit : CodeUnit} {point rest : Text} (isEscape : unit.toChar = '\\')
      (isPoint : IsFirstPoint point rest) :
      Starts captures (unit :: (point ++ rest)) (.literal point) rest
  | numbered {unit : CodeUnit} {digits rest : Text} (isDollar : unit.toChar = '$')
      (isNumber : IsLongestNumber captures.size ((digits ++ rest).takeWhile CodeUnit.isDigit)
        digits) :
      Starts captures (unit :: (digits ++ rest)) (.group digits.decimalValue) rest
  | braced {unit opening closing : CodeUnit} {digits rest : Text} (isDollar : unit.toChar = '$')
      (isOpening : opening.toChar = '{') (isClosing : closing.toChar = '}')
      (isNonempty : digits ≠ []) (areDigits : digits.all CodeUnit.isDigit = true)
      (isGroup : digits.decimalValue < captures.size) :
      Starts captures (unit :: opening :: (digits ++ closing :: rest)) (.group digits.decimalValue)
        rest
  | named {unit opening closing : CodeUnit} {name rest : Text} {group : Nat}
      (isDollar : unit.toChar = '$') (isOpening : opening.toChar = '{')
      (isClosing : closing.toChar = '}') (isName : name.isName = true)
      (isKnown : captures.names.group? name = some group) :
      Starts captures (unit :: opening :: (name ++ closing :: rest)) (.group group) rest
  | plain {unit : CodeUnit} {rest : Text} (notEscape : unit.toChar ≠ '\\')
      (notDollar : unit.toChar ≠ '$') : Starts captures (unit :: rest) (.literal [unit]) rest

/-- A reference to a group by a number that is too large, at the start of a template. -/
inductive OutOfBounds (captures : Captures) : Text → Prop
  | numbered {unit digit : CodeUnit} {rest : Text} (isDollar : unit.toChar = '$')
      (isDigit : digit.isDigit = true) (isLarge : captures.size ≤ Text.decimalValue [digit]) :
      OutOfBounds captures (unit :: digit :: rest)
  | braced {unit opening closing : CodeUnit} {digits rest : Text} (isDollar : unit.toChar = '$')
      (isOpening : opening.toChar = '{') (isClosing : closing.toChar = '}')
      (isNonempty : digits ≠ []) (areDigits : digits.all CodeUnit.isDigit = true)
      (isLarge : captures.size ≤ digits.decimalValue) :
      OutOfBounds captures (unit :: opening :: (digits ++ closing :: rest))

/-- A template that starts with no token, and the kind of error that this is. -/
inductive Bad (captures : Captures) : Text → ErrorKind → Prop
  | outOfBounds {template : Text} (isLarge : OutOfBounds captures template) :
      Bad captures template .indexOutOfBounds
  | malformed {unit : CodeUnit} {rest : Text} (isMark : unit.toChar = '\\' ∨ unit.toChar = '$')
      (noToken : ∀ token after, ¬Starts captures (unit :: rest) token after)
      (inBounds : ¬OutOfBounds captures (unit :: rest)) :
      Bad captures (unit :: rest) .illegalArgument

/-- The tokens of a template from left to right, up to the first place where no token starts, and
the kind of error that is there. -/
inductive Parses (captures : Captures) : Text → List Token → Option ErrorKind → Prop
  | done : Parses captures [] [] none
  | bad {template : Text} {kind : ErrorKind} (isBad : Bad captures template kind) :
      Parses captures template [] (some kind)
  | token {template rest : Text} {token : Token} {tokens : List Token} {error : Option ErrorKind}
      (starts : Starts captures template token rest) (parses : Parses captures rest tokens error) :
      Parses captures template (token :: tokens) error

/-! ## Code points -/

theorem isFirstPoint_single {unit : CodeUnit} {rest : Text}
    (isSingle : Text.startsWithPair (unit :: rest) = false) : IsFirstPoint [unit] rest :=
  ⟨unit.toNat, rfl, Text.points_of_single isSingle⟩

theorem isFirstPoint_pair {high low : CodeUnit} {rest : Text}
    (isPair : Text.startsWithPair (high :: low :: rest) = true) : IsFirstPoint [high, low] rest :=
  have isAlone : Text.startsWithPair [high, low] = true := isPair
  ⟨_, Text.points_of_pair isAlone, Text.points_of_pair isPair⟩

/-- Every text that is not empty starts with a code point. -/
theorem isFirstPoint_take {text : Text} (notEmpty : text ≠ []) :
    IsFirstPoint (text.take text.firstPointLength) (text.drop text.firstPointLength) := by
  cases text with
  | nil => contradiction
  | cons unit rest =>
      cases isPair : Text.startsWithPair (unit :: rest) with
      | false =>
          rw [show Text.firstPointLength (unit :: rest) = 1 from if_neg (by simp [isPair])]
          exact isFirstPoint_single isPair
      | true =>
          rw [show Text.firstPointLength (unit :: rest) = 2 from if_pos isPair]
          cases rest with
          | nil => cases isPair
          | cons low rest => exact isFirstPoint_pair isPair

/-- There is one code point that a text starts with. -/
theorem IsFirstPoint.length_eq {point rest : Text} (isPoint : IsFirstPoint point rest) :
    (point ++ rest).firstPointLength = point.length := by
  obtain ⟨value, isValue, isWhole⟩ := isPoint
  match point with
  | [] => cases isValue
  | [unit] =>
      obtain rfl := (List.cons.inj isValue).1
      refine if_neg fun isPair => ?_
      cases rest with
      | nil => cases isPair
      | cons low rest =>
          -- A pair stands for a code point above all units.
          have same := (List.cons.inj ((Text.points_of_pair isPair).symm.trans isWhole)).1
          have bound := unit.toNat_lt
          unfold CodePoint.ofPair at same
          omega
  | high :: low :: others =>
      by_cases isPair : Text.startsWithPair (high :: low :: others) = true
      · rw [Text.points_of_pair isPair] at isValue
        cases others with
        | nil => exact if_pos isPair
        | cons unit others => exact absurd (List.cons.inj isValue).2 (Text.points_ne_nil unit others)
      · rw [Text.points_of_single (Bool.eq_false_iff.mpr isPair)] at isValue
        exact absurd (List.cons.inj isValue).2 (Text.points_ne_nil low others)

/-! ## Numbers -/

theorem decimalValue_append (front : Text) (unit : CodeUnit) :
    Text.decimalValue (front ++ [unit]) = front.decimalValue * 10 + (unit.toNat - 48) := by
  rw [Text.decimalValue, List.foldl_append]
  rfl

/-- More digits make a number no smaller. -/
theorem decimalValue_mono {fewer more : Text} (inFront : fewer <+: more) :
    fewer.decimalValue ≤ more.decimalValue := by
  obtain ⟨tail, rfl⟩ := inFront
  rw [Text.decimalValue, Text.decimalValue, List.foldl_append]
  generalize List.foldl _ 0 fewer = value
  induction tail generalizing value with
  | nil => exact Nat.le_refl value
  | cons unit tail ih => exact Nat.le_trans (by omega) (ih (value * 10 + (unit.toNat - 48)))

/-- Digits are the longest number when one more digit makes it too large. -/
theorem isLongestNumber_of_stop {size : Nat} {digits after : Text} (isNonempty : digits ≠ [])
    (isGroup : digits.decimalValue < size) (areDigits : digits.all CodeUnit.isDigit = true)
    (stops : ∀ unit rest, after = unit :: rest → unit.isDigit = true →
      size ≤ digits.decimalValue * 10 + (unit.toNat - 48)) :
    IsLongestNumber size ((digits ++ after).takeWhile CodeUnit.isDigit) digits := by
  rw [List.takeWhile_append_of_pos (List.all_eq_true.mp areDigits)]
  refine ⟨List.prefix_append _ _, isNonempty, isGroup, fun longer inFront isGroup' => ?_⟩
  apply Nat.le_of_not_lt
  intro isLonger
  cases after with
  | nil =>
      have atMost := inFront.length_le
      rw [List.takeWhile_nil, List.append_nil] at atMost
      omega
  | cons unit rest =>
      rw [List.takeWhile_cons] at inFront
      split at inFront
      · next isDigit =>
          have reaches : digits ++ [unit] <+: longer := by
            refine List.prefix_of_prefix_length_le ⟨_, (List.append_cons digits unit _).symm⟩
              inFront ?_
            rw [List.length_append]
            exact isLonger
          have isLarge := decimalValue_mono reaches
          rw [decimalValue_append] at isLarge
          have := stops unit rest rfl isDigit
          omega
      · have atMost := inFront.length_le
        rw [List.append_nil] at atMost
        omega

/-- Reading digit by digit takes the longest number. -/
theorem isLongestNumber_of_extendNumber {size : Nat} {read text after : Text} {number : Nat}
    (isNonempty : read ≠ []) (isGroup : read.decimalValue < size)
    (areDigits : read.all CodeUnit.isDigit = true)
    (isRead : extendNumber size read.decimalValue text = (number, after)) :
    ∃ digits, read ++ text = digits ++ after ∧ number = digits.decimalValue ∧
      IsLongestNumber size ((digits ++ after).takeWhile CodeUnit.isDigit) digits := by
  induction text generalizing read with
  | nil =>
      obtain ⟨rfl, rfl⟩ := Prod.mk.inj isRead
      exact ⟨read, rfl, rfl, isLongestNumber_of_stop isNonempty isGroup areDigits nofun⟩
  | cons unit tail ih =>
      simp only [extendNumber] at isRead
      split at isRead
      · next goesOn =>
          rw [Bool.and_eq_true, decide_eq_true_eq, ← decimalValue_append] at goesOn
          rw [← decimalValue_append] at isRead
          rw [List.append_cons]
          refine ih (List.append_ne_nil_of_right_ne_nil _ (List.cons_ne_nil _ _)) goesOn.2 ?_ isRead
          rw [List.all_append, areDigits, List.all_cons, goesOn.1]
          rfl
      · next stops =>
          obtain ⟨rfl, rfl⟩ := Prod.mk.inj isRead
          refine ⟨read, rfl, rfl, isLongestNumber_of_stop isNonempty isGroup areDigits ?_⟩
          intro first rest same isDigit
          obtain ⟨rfl, rfl⟩ := List.cons.inj same
          rw [isDigit, Bool.true_and, decide_eq_true_eq] at stops
          exact Nat.le_of_not_lt stops

/-- There is one longest number in front of a run of digits. -/
theorem IsLongestNumber.unique {size : Nat} {run first second : Text}
    (isFirst : IsLongestNumber size run first) (isSecond : IsLongestNumber size run second) :
    first = second := by
  have sameLength : first.length = second.length := Nat.le_antisymm
    (isSecond.isLongest first isFirst.inFront isFirst.isGroup)
    (isFirst.isLongest second isSecond.inFront isSecond.isGroup)
  exact (List.prefix_of_prefix_length_le isFirst.inFront isSecond.inFront
    (Nat.le_of_eq sameLength)).eq_of_length sameLength

/-! ## References -/

theorem digit_ne {unit : CodeUnit} (isDigit : unit.isDigit = true) {char : Char}
    (notDigit : char.isDigit = false) : unit.toChar ≠ char := by
  rintro rfl
  rw [CodeUnit.isDigit, notDigit] at isDigit
  cases isDigit

theorem nameUnits_ne_brace {name : Text} (isName : name.isName = true) :
    ∀ unit ∈ name, unit.toChar ≠ '}' := by
  have areUnits : ∀ unit ∈ name, Text.isNameUnit unit = true := by
    cases name with
    | nil => nofun
    | cons first rest =>
        rw [Text.isName, Bool.and_eq_true, List.all_eq_true] at isName
        exact List.forall_mem_cons.mpr ⟨by rw [Text.isNameUnit, isName.1]; rfl, isName.2⟩
  intro unit mem isBrace
  have isUnit := areUnits unit mem
  rw [Text.isNameUnit, Text.isNameStart, CodeUnit.isLetter, CodeUnit.isDigit, isBrace] at isUnit
  cases isUnit

theorem isDigit_of_isNameStart {unit : CodeUnit} (isStart : Text.isNameStart unit = true) :
    unit.isDigit = false := by
  rw [Text.isNameStart, CodeUnit.isLetter, Bool.or_eq_true, beq_iff_eq] at isStart
  rw [CodeUnit.isDigit]
  rcases isStart with isLetter | isLine
  · generalize unit.toChar = char at isLetter ⊢
    change (decide (65 ≤ char.val ∧ char.val ≤ 90) ||
      97 ≤ char.val && char.val ≤ 122) = true at isLetter
    change (48 ≤ char.val && char.val ≤ 57) = false
    grind
  · rw [isLine]
    rfl

theorem numberedGroup_of_lt {digits : Text} (isGroup : digits.decimalValue < captures.size) :
    numberedGroup captures digits = .ok digits.decimalValue :=
  if_pos isGroup

theorem numberedGroup_of_le {digits : Text} (isLarge : captures.size ≤ digits.decimalValue) :
    numberedGroup captures digits = .error (.noTemplateGroup digits) :=
  if_neg (Nat.not_lt.mpr isLarge)

theorem bracedGroup_of_digits {digits : Text} (isNonempty : digits ≠ [])
    (areDigits : digits.all CodeUnit.isDigit = true) :
    bracedGroup captures digits = numberedGroup captures digits := by
  cases digits with
  | nil => contradiction
  | cons first rest =>
      rw [List.all_cons, Bool.and_eq_true] at areDigits
      rw [bracedGroup, if_pos areDigits.1, if_pos areDigits.2]

theorem bracedGroup_of_name {name : Text} {group : Nat} (isName : name.isName = true)
    (isKnown : captures.names.group? name = some group) :
    bracedGroup captures name = .ok group := by
  cases name with
  | nil => cases isName
  | cons first rest =>
      have isStart : Text.isNameStart first = true := (Bool.and_eq_true_iff.mp isName).1
      rw [bracedGroup, if_neg (Bool.eq_false_iff.mp (isDigit_of_isNameStart isStart)), namedGroup,
        if_pos isName, isKnown]

/-- What stands between braces is a number or a name, or an error. -/
theorem bracedGroup_cases (captures : Captures) (inner : Text) :
    (∃ group, bracedGroup captures inner = .ok group ∧
        (inner ≠ [] ∧ inner.all CodeUnit.isDigit = true ∧ group = inner.decimalValue ∧
            group < captures.size ∨
          inner.isName = true ∧ captures.names.group? inner = some group)) ∨
      ∃ fault, bracedGroup captures inner = .error fault ∧
        (fault.kind = .indexOutOfBounds ∧ inner ≠ [] ∧ inner.all CodeUnit.isDigit = true ∧
            captures.size ≤ inner.decimalValue ∨
          fault.kind = .illegalArgument) := by
  cases inner with
  | nil => exact .inr ⟨_, rfl, .inr rfl⟩
  | cons first rest =>
      by_cases isNumber : first.isDigit = true
      · by_cases areDigits : rest.all CodeUnit.isDigit = true
        · have allDigits : (first :: rest).all CodeUnit.isDigit = true :=
            Bool.and_eq_true_iff.mpr ⟨isNumber, areDigits⟩
          rw [bracedGroup_of_digits (List.cons_ne_nil _ _) allDigits]
          by_cases isGroup : Text.decimalValue (first :: rest) < captures.size
          · rw [numberedGroup_of_lt isGroup]
            exact .inl ⟨_, rfl, .inl ⟨List.cons_ne_nil _ _, allDigits, rfl, isGroup⟩⟩
          · have isLarge := Nat.le_of_not_lt isGroup
            rw [numberedGroup_of_le isLarge]
            exact .inr ⟨_, rfl, .inl ⟨rfl, List.cons_ne_nil _ _, allDigits, isLarge⟩⟩
        · rw [bracedGroup, if_pos isNumber, if_neg areDigits]
          exact .inr ⟨_, rfl, .inr rfl⟩
      · rw [bracedGroup, if_neg isNumber, namedGroup]
        by_cases isName : Text.isName (first :: rest) = true
        · rw [if_pos isName]
          cases isKnown : captures.names.group? (first :: rest) with
          | none => exact .inr ⟨_, rfl, .inr rfl⟩
          | some group => exact .inl ⟨group, rfl, .inr ⟨isName, rfl⟩⟩
        · rw [if_neg isName]
          exact .inr ⟨_, rfl, .inr rfl⟩

/-- Braces are read up to the first one that closes. -/
theorem reference_of_braces {opening closing : CodeUnit} {inner rest : Text}
    (isOpening : opening.toChar = '{') (isClosing : closing.toChar = '}')
    (notInside : ∀ unit ∈ inner, unit.toChar ≠ '}') :
    reference captures (opening :: (inner ++ closing :: rest)) =
      (bracedGroup captures inner).map fun group => (group, rest) := by
  obtain rfl := CodeUnit.eq_ofChar_of_toChar (by decide) isClosing
  rw [reference, if_pos isOpening, Text.cut?_of_notMem]
  intro isInside
  exact notInside _ isInside (by decide)

/-- Digits are read up to the end of the longest number. -/
theorem reference_of_digits {digits rest : Text}
    (isNumber : IsLongestNumber captures.size ((digits ++ rest).takeWhile CodeUnit.isDigit)
      digits) :
    reference captures (digits ++ rest) = .ok (digits.decimalValue, rest) := by
  cases digits with
  | nil => exact absurd rfl isNumber.isNonempty
  | cons first tail =>
      have isDigit : first.isDigit = true :=
        List.all_eq_true.mp List.all_takeWhile first
          (isNumber.inFront.subset List.mem_cons_self)
      have isGroup : Text.decimalValue [first] < captures.size :=
        Nat.lt_of_le_of_lt (decimalValue_mono ⟨tail, rfl⟩) isNumber.isGroup
      rw [List.cons_append, reference, if_neg (digit_ne isDigit (by decide)), if_pos isDigit,
        numberedGroup_of_lt isGroup]
      rcases isRead : extendNumber captures.size (Text.decimalValue [first]) (tail ++ rest) with
        ⟨number, after⟩
      obtain ⟨digits, parted, rfl, isLongest⟩ :=
        isLongestNumber_of_extendNumber (List.cons_ne_nil first []) isGroup
          (by rw [List.all_cons, isDigit]; rfl) isRead
      rw [← parted] at isLongest
      obtain rfl : digits = first :: tail := isLongest.unique isNumber
      have sameText : first :: tail ++ rest = first :: tail ++ after := parted
      obtain rfl := List.append_cancel_left sameText
      exact congrArg Except.ok isRead

/-- A reference is read as the token that it is. -/
theorem reference_of_starts {unit : CodeUnit} {text after : Text} {token : Token}
    (isDollar : unit.toChar = '$') (starts : Starts captures (unit :: text) token after) :
    ∃ group, token = .group group ∧ reference captures text = .ok (group, after) := by
  cases starts with
  | escaped isEscape _ =>
      rw [isDollar] at isEscape
      cases isEscape
  | numbered _ isNumber => exact ⟨_, rfl, reference_of_digits isNumber⟩
  | braced _ isOpening isClosing isNonempty areDigits isGroup =>
      refine ⟨_, rfl, ?_⟩
      rw [reference_of_braces isOpening isClosing fun unit mem =>
          digit_ne (List.all_eq_true.mp areDigits unit mem) (by decide),
        bracedGroup_of_digits isNonempty areDigits, numberedGroup_of_lt isGroup]
      rfl
  | @named _ _ _ name _ group _ isOpening isClosing isName isKnown =>
      refine ⟨group, rfl, ?_⟩
      rw [reference_of_braces isOpening isClosing (nameUnits_ne_brace isName),
        bracedGroup_of_name isName isKnown]
      rfl
  | plain _ notDollar => exact absurd isDollar notDollar

/-- A reference by a number that is too large is read as an error. -/
theorem reference_of_outOfBounds {unit : CodeUnit} {text : Text}
    (isLarge : OutOfBounds captures (unit :: text)) :
    unit.toChar = '$' ∧
      ∃ fault, reference captures text = .error fault ∧ fault.kind = .indexOutOfBounds := by
  cases isLarge with
  | @numbered _ digit _ isDollar isDigit isLarge =>
      refine ⟨isDollar, .noTemplateGroup [digit], ?_, rfl⟩
      rw [reference, if_neg (digit_ne isDigit (by decide)), if_pos isDigit,
        numberedGroup_of_le isLarge]
      rfl
  | @braced _ _ _ digits _ isDollar isOpening isClosing isNonempty areDigits isLarge =>
      refine ⟨isDollar, .noTemplateGroup digits, ?_, rfl⟩
      rw [reference_of_braces isOpening isClosing fun unit mem =>
          digit_ne (List.all_eq_true.mp areDigits unit mem) (by decide),
        bracedGroup_of_digits isNonempty areDigits, numberedGroup_of_le isLarge]
      rfl

/-- A reference is a token, or a number that is too large, or malformed. -/
theorem reference_cases (captures : Captures) {unit : CodeUnit} (isDollar : unit.toChar = '$')
    (text : Text) :
    (∃ group after, reference captures text = .ok (group, after) ∧
        Starts captures (unit :: text) (.group group) after) ∨
      ∃ fault, reference captures text = .error fault ∧
        (fault.kind = .indexOutOfBounds ∧ OutOfBounds captures (unit :: text) ∨
          fault.kind = .illegalArgument) := by
  cases text with
  | nil => exact .inr ⟨_, rfl, .inr rfl⟩
  | cons first rest =>
      by_cases isBrace : first.toChar = '{'
      · rw [reference, if_pos isBrace]
        cases isCut : Text.cut? [CodeUnit.ofChar '}'] rest with
        | none => exact .inr ⟨_, rfl, .inr rfl⟩
        | some halves =>
            rcases halves with ⟨inner, after⟩
            obtain ⟨rfl, -⟩ := Text.cut?_unit isCut
            have isClosing : (CodeUnit.ofChar '}').toChar = '}' := by decide
            dsimp only
            rcases bracedGroup_cases captures inner with
              ⟨group, isRead, ⟨isNonempty, areDigits, rfl, isGroup⟩ | ⟨isName, isKnown⟩⟩ |
              ⟨fault, isUnread, ⟨isKind, isNonempty, areDigits, isLarge⟩ | isKind⟩
            · rw [isRead]
              exact .inl ⟨_, _, rfl,
                .braced isDollar isBrace isClosing isNonempty areDigits isGroup⟩
            · rw [isRead]
              exact .inl ⟨_, _, rfl, .named isDollar isBrace isClosing isName isKnown⟩
            · rw [isUnread]
              exact .inr ⟨_, rfl, .inl ⟨isKind,
                .braced isDollar isBrace isClosing isNonempty areDigits isLarge⟩⟩
            · rw [isUnread]
              exact .inr ⟨_, rfl, .inr isKind⟩
      · by_cases isDigit : first.isDigit = true
        · by_cases isGroup : Text.decimalValue [first] < captures.size
          · rcases isRead : extendNumber captures.size (Text.decimalValue [first]) rest with
              ⟨number, after⟩
            obtain ⟨digits, parted, rfl, isNumber⟩ :=
              isLongestNumber_of_extendNumber (List.cons_ne_nil first []) isGroup
                (by rw [List.all_cons, isDigit]; rfl) isRead
            rw [List.singleton_append] at parted
            rw [parted]
            exact .inl ⟨_, _, reference_of_digits isNumber, .numbered isDollar isNumber⟩
          · have isLarge := Nat.le_of_not_lt isGroup
            rw [reference, if_neg isBrace, if_pos isDigit, numberedGroup_of_le isLarge]
            exact .inr ⟨_, rfl, .inl ⟨rfl, .numbered isDollar isDigit isLarge⟩⟩
        · rw [reference, if_neg isBrace, if_neg isDigit]
          exact .inr ⟨_, rfl, .inr rfl⟩

/-! ## One token -/

theorem Starts.of_escape {unit : CodeUnit} {text after : Text} {token : Token}
    (isEscape : unit.toChar = '\\') (starts : Starts captures (unit :: text) token after) :
    text ≠ [] ∧ token = .literal (text.take text.firstPointLength) ∧
      after = text.drop text.firstPointLength := by
  cases starts with
  | @escaped _ point _ _ isPoint =>
      rw [isPoint.length_eq, List.take_left, List.drop_left]
      refine ⟨fun isNil => ?_, rfl, rfl⟩
      obtain ⟨value, isValue, -⟩ := isPoint
      rw [(List.append_eq_nil_iff.mp isNil).1] at isValue
      cases isValue
  | numbered isDollar _ | braced isDollar | named isDollar =>
      rw [isEscape] at isDollar
      cases isDollar
  | plain notEscape _ => exact absurd isEscape notEscape

theorem Starts.of_plain {unit : CodeUnit} {text after : Text} {token : Token}
    (notEscape : unit.toChar ≠ '\\') (notDollar : unit.toChar ≠ '$')
    (starts : Starts captures (unit :: text) token after) :
    token = .literal [unit] ∧ after = text := by
  cases starts with
  | escaped isEscape _ => exact absurd isEscape notEscape
  | numbered isDollar _ | braced isDollar | named isDollar => exact absurd isDollar notDollar
  | plain _ _ => exact ⟨rfl, rfl⟩

/-- A template starts with one token only. -/
theorem Starts.unique {template after after' : Text} {token token' : Token}
    (starts : Starts captures template token after)
    (starts' : Starts captures template token' after') : token = token' ∧ after = after' := by
  cases template with
  | nil => cases starts
  | cons unit text =>
      by_cases isEscape : unit.toChar = '\\'
      · obtain ⟨-, rfl, rfl⟩ := starts.of_escape isEscape
        obtain ⟨-, rfl, rfl⟩ := starts'.of_escape isEscape
        exact ⟨rfl, rfl⟩
      · by_cases isDollar : unit.toChar = '$'
        · obtain ⟨group, rfl, isRead⟩ := reference_of_starts isDollar starts
          obtain ⟨group', rfl, isRead'⟩ := reference_of_starts isDollar starts'
          obtain ⟨rfl, rfl⟩ := Prod.mk.inj (Except.ok.inj (isRead.symm.trans isRead'))
          exact ⟨rfl, rfl⟩
        · obtain ⟨rfl, rfl⟩ := starts.of_plain isEscape isDollar
          obtain ⟨rfl, rfl⟩ := starts'.of_plain isEscape isDollar
          exact ⟨rfl, rfl⟩

/-- No token starts where a template is bad. -/
theorem Bad.not_starts {template after : Text} {kind : ErrorKind} {token : Token}
    (isBad : Bad captures template kind) : ¬Starts captures template token after := by
  intro starts
  cases isBad with
  | outOfBounds isLarge =>
      cases template with
      | nil => cases starts
      | cons unit text =>
          obtain ⟨isDollar, fault, isUnread, -⟩ := reference_of_outOfBounds isLarge
          obtain ⟨group, -, isRead⟩ := reference_of_starts isDollar starts
          rw [isUnread] at isRead
          cases isRead
  | malformed _ noToken _ => exact noToken _ _ starts

theorem Bad.unique {template : Text} {kind kind' : ErrorKind} (isBad : Bad captures template kind)
    (isBad' : Bad captures template kind') : kind = kind' := by
  cases isBad with
  | outOfBounds isLarge =>
      cases isBad' with
      | outOfBounds => rfl
      | malformed _ _ inBounds => exact absurd isLarge inBounds
  | malformed _ _ inBounds =>
      cases isBad' with
      | outOfBounds isLarge => exact absurd isLarge inBounds
      | malformed => rfl

/-- What is bad at the start of a template is the fault that expansion meets there. -/
theorem Bad.expand_eq {template : Text} {kind : ErrorKind} (isBad : Bad captures template kind) :
    ∃ fault, expand captures template = ⟨[], some fault⟩ ∧ fault.kind = kind := by
  cases isBad with
  | @outOfBounds _ isLarge =>
      cases template with
      | nil => cases isLarge
      | cons unit text =>
          obtain ⟨isDollar, fault, isUnread, isKind⟩ := reference_of_outOfBounds isLarge
          exact ⟨fault, (Offends.unreadable isDollar isUnread).expand_eq, isKind⟩
  | @malformed unit rest isMark noToken inBounds =>
      rcases isMark with isEscape | isDollar
      · cases rest with
        | nil => exact ⟨_, (Offends.escape isEscape).expand_eq, rfl⟩
        | cons first rest =>
            have starts : Starts captures _ (.literal _) _ := .escaped isEscape
              (isFirstPoint_take (List.cons_ne_nil first rest))
            rw [List.take_append_drop] at starts
            exact absurd starts (noToken _ _)
      · rcases reference_cases captures isDollar rest with ⟨group, after, -, starts⟩ |
          ⟨fault, isUnread, ⟨-, isLarge⟩ | isKind⟩
        · exact absurd starts (noToken _ _)
        · exact absurd isLarge inBounds
        · exact ⟨fault, (Offends.unreadable isDollar isUnread).expand_eq, isKind⟩

/-- A group of a token is one of the groups. -/
theorem Starts.group_lt {template after : Text} {group : Nat}
    (known : ∀ name group, captures.names.group? name = some group → group < captures.size)
    (starts : Starts captures template (.group group) after) : group < captures.size := by
  cases starts with
  | numbered _ isNumber => exact isNumber.isGroup
  | braced _ _ _ _ _ isGroup => exact isGroup
  | named _ _ _ _ isKnown => exact known _ _ isKnown

/-- A token is written as what it stands for. -/
theorem Starts.expand_eq {values : Nat → Option Text}
    (reads : ∀ group, group < captures.size → captures.group group = .ok (values group))
    (known : ∀ name group, captures.names.group? name = some group → group < captures.size)
    {template after : Text} {token : Token} (starts : Starts captures template token after) :
    expand captures template = (expand captures after).after (token.expansion values) := by
  cases template with
  | nil => cases starts
  | cons unit text =>
      by_cases isEscape : unit.toChar = '\\'
      · obtain ⟨notEmpty, rfl, rfl⟩ := starts.of_escape isEscape
        exact expand_escape isEscape notEmpty
      · by_cases isDollar : unit.toChar = '$'
        · obtain ⟨group, rfl, isRead⟩ := reference_of_starts isDollar starts
          refine expand_reference isDollar isRead ?_
          rw [groupText, reads group (starts.group_lt known)]
          rfl
        · obtain ⟨rfl, rfl⟩ := starts.of_plain isEscape isDollar
          exact expand_literal isEscape isDollar

/-! ## Whole templates -/

/-- A template has one parse only. -/
theorem Parses.unique {template : Text} {tokens tokens' : List Token}
    {error error' : Option ErrorKind} (parses : Parses captures template tokens error)
    (parses' : Parses captures template tokens' error') : tokens = tokens' ∧ error = error' := by
  induction parses generalizing tokens' with
  | done =>
      cases parses' with
      | done => exact ⟨rfl, rfl⟩
      | bad isBad => cases isBad with | outOfBounds isLarge => cases isLarge
      | token starts _ => cases starts
  | bad isBad =>
      cases parses' with
      | done => cases isBad with | outOfBounds isLarge => cases isLarge
      | bad isBad' => exact ⟨rfl, congrArg some (isBad.unique isBad')⟩
      | token starts _ => exact absurd starts isBad.not_starts
  | token starts _ ih =>
      cases parses' with
      | done => cases starts
      | bad isBad => exact absurd starts isBad.not_starts
      | token starts' rest' =>
          obtain ⟨rfl, rfl⟩ := starts.unique starts'
          obtain ⟨rfl, rfl⟩ := ih rest'
          exact ⟨rfl, rfl⟩

theorem Starts.length_lt {template after : Text} {token : Token}
    (starts : Starts captures template token after) : after.length < template.length := by
  cases starts with
  | escaped | numbered | plain =>
      simp only [List.length_cons, List.length_append]
      omega
  | braced | named =>
      simp only [List.length_cons, List.length_append]
      omega

/-- A template that is not empty starts with a token or is bad. -/
theorem starts_or_bad (captures : Captures) (unit : CodeUnit) (text : Text) :
    (∃ token after, Starts captures (unit :: text) token after) ∨
      ∃ kind, Bad captures (unit :: text) kind := by
  by_cases starts : ∃ token after, Starts captures (unit :: text) token after
  · exact .inl starts
  · have noToken : ∀ token after, ¬Starts captures (unit :: text) token after :=
      fun token after isStart => starts ⟨token, after, isStart⟩
    have isMark : unit.toChar = '\\' ∨ unit.toChar = '$' :=
      Decidable.byContradiction fun notMark =>
        noToken _ _ (.plain (not_or.mp notMark).1 (not_or.mp notMark).2)
    by_cases isLarge : OutOfBounds captures (unit :: text)
    · exact .inr ⟨_, .outOfBounds isLarge⟩
    · exact .inr ⟨_, .malformed isMark noToken isLarge⟩

/-- Every template has a parse. -/
theorem exists_parses (captures : Captures) (template : Text) :
    ∃ tokens error, Parses captures template tokens error := by
  match template with
  | [] => exact ⟨[], none, .done⟩
  | unit :: text =>
      rcases starts_or_bad captures unit text with ⟨token, after, starts⟩ | ⟨kind, isBad⟩
      · have shorter := starts.length_lt
        obtain ⟨tokens, error, parses⟩ := exists_parses captures after
        exact ⟨token :: tokens, error, .token starts parses⟩
      · exact ⟨[], some kind, .bad isBad⟩
termination_by template.length
decreasing_by exact shorter

/-- Expansion writes what the tokens of a template stand for, up to the first place where no token
starts, and comes to the error that is there. -/
theorem Parses.expand_eq {values : Nat → Option Text}
    (reads : ∀ group, group < captures.size → captures.group group = .ok (values group))
    (known : ∀ name group, captures.names.group? name = some group → group < captures.size)
    {template : Text} {tokens : List Token} {error : Option ErrorKind}
    (parses : Parses captures template tokens error) :
    (expand captures template).output = tokens.flatMap (·.expansion values) ∧
      (expand captures template).fault.map Fault.kind = error := by
  induction parses with
  | done =>
      rw [expand_nil]
      exact ⟨rfl, rfl⟩
  | bad isBad =>
      obtain ⟨fault, isFault, rfl⟩ := isBad.expand_eq
      rw [isFault]
      exact ⟨rfl, rfl⟩
  | token starts _ ih =>
      rw [starts.expand_eq reads known, List.flatMap_cons, ← ih.1]
      exact ⟨rfl, ih.2⟩

/-- Expansion implements the grammar: every template has one parse, expansion writes what its tokens
stand for, those in front of the first place where no token starts, and fails with the kind of error
that is there, or not at all. -/
theorem expand_eq_parse (captures : Captures) (values : Nat → Option Text)
    (reads : ∀ group, group < captures.size → captures.group group = .ok (values group))
    (known : ∀ name group, captures.names.group? name = some group → group < captures.size)
    (template : Text) :
    ∃ tokens error, Parses captures template tokens error ∧
      (∀ tokens' error', Parses captures template tokens' error' →
        tokens' = tokens ∧ error' = error) ∧
      (expand captures template).output = tokens.flatMap (·.expansion values) ∧
      (expand captures template).fault.map Fault.kind = error := by
  obtain ⟨tokens, error, parses⟩ := exists_parses captures template
  exact ⟨tokens, error, parses, fun _ _ parses' => parses'.unique parses,
    parses.expand_eq reads known⟩

theorem expand_eq_parse_digits :
    let captures : Captures :=
      ⟨3, [⟨Text.ofString "n", 2⟩], fun group => .ok (if group = 1 then some [0x78] else none)⟩
    let template := Text.ofString "$012$\x7bn\x7d\\$$9"
    ∃ tokens, Parses captures template tokens (some .indexOutOfBounds) ∧
      tokens.flatMap (·.expansion fun group => if group = 1 then some [0x78] else none) =
        Text.ofString "x2$" := by
  intro captures template
  obtain ⟨tokens, error, parses, -, isOutput, isError⟩ :=
    expand_eq_parse captures (fun group => if group = 1 then some [0x78] else none)
      (fun _ _ => rfl)
      (by
        intro name group isKnown
        obtain ⟨entry, isEntry, rfl⟩ := Option.map_eq_some_iff.mp isKnown
        obtain rfl := List.mem_singleton.mp (List.mem_of_find?_eq_some isEntry)
        decide)
      template
  have written : (expand captures template).output = Text.ofString "x2$" := by decide +kernel
  have failed : (expand captures template).fault.map Fault.kind = some .indexOutOfBounds := by
    decide +kernel
  obtain rfl := isError.symm.trans failed
  exact ⟨tokens, parses, isOutput.symm.trans written⟩

end Template

end RegexMatching
