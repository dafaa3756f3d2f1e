import RegexMatching.Lowering.Rendering
import RegexMatching.Proofs.GroupScan

/-!
# What lowering writes

The sources that lowering writes are whole: a scan that starts between two items is between two
items again behind each of them.  None opens a capturing group, except a parenthesis by itself
and the opening of a named group.
-/

namespace RegexMatching.Lowering

open Backtrack

/-- Text that a scan passes from one item to another without meeting a capturing group. -/
def Quiet (inClass : Bool) (source : Text) : Prop :=
  (Mode.item inClass).quiet source = some (.item inClass)

namespace Quiet

variable {inClass : Bool} {source : Text}

theorem nil : Quiet inClass [] :=
  rfl

theorem append {first second : Text} (isFirst : Quiet inClass first)
    (isSecond : Quiet inClass second) : Quiet inClass (first ++ second) :=
  Mode.quiet_append isFirst isSecond

/-- Text without marks. -/
theorem of_all (noMark : ∀ unit ∈ source, unit.toChar ∉ scanMarks) : Quiet inClass source := by
  induction source with
  | nil => rfl
  | cons unit rest ih =>
      have notMark := noMark unit List.mem_cons_self
      have notOpening : unit.toChar ≠ '(' := by
        rintro isOpening
        rw [isOpening] at notMark
        exact notMark (by decide)
      rw [Quiet, Mode.quiet, if_neg fun isGroup => notOpening isGroup.2.1,
        (Mode.stays_of_notMem notMark inClass).1]
      exact ih fun other member => noMark other (List.mem_cons_of_mem _ member)

/-- Text of one kind of characters, to which no mark belongs. -/
theorem of_test (test : Char → Bool) (noMark : ∀ mark ∈ scanMarks, test mark = false)
    (all : ∀ unit ∈ source, test unit.toChar = true) : Quiet inClass source :=
  .of_all fun unit member isMark =>
    Bool.false_ne_true ((noMark _ isMark).symm.trans (all unit member))

/-- A backslash in front of what begins no property. -/
theorem backslash {first : CodeUnit} (noProperty : ¬(first.toChar = 'p' ∨ first.toChar = 'P'))
    (isQuiet : Quiet inClass source) : Quiet inClass (0x5C :: first :: source) := by
  have escaped : (Mode.escape inClass).quiet (first :: source) = some (.item inClass) := by
    rw [Mode.quiet_cons_of_ne (by simp), Mode.step, if_neg noProperty]
    exact isQuiet
  cases inClass <;> exact escaped

/-- The name of a property ends with the first closing brace. -/
theorem property {name : Text} (noBrace : ∀ unit ∈ name, unit.toChar ≠ '\x7d')
    (isNegated : Bool) :
    Quiet inClass (Text.ofString (if isNegated then "\\P\x7b" else "\\p\x7b") ++ name ++
      Text.ofString "\x7d") := by
  have lead : (Mode.item inClass).quiet
      (Text.ofString (if isNegated then "\\P\x7b" else "\\p\x7b")) =
        some (.property inClass) := by
    cases inClass <;> cases isNegated <;> rfl
  have body : (Mode.property inClass).quiet name = some (.property inClass) := by
    induction name with
    | nil => rfl
    | cons unit rest ih =>
        rw [Mode.quiet_cons_of_ne (by simp), Mode.step,
          if_neg (noBrace unit List.mem_cons_self)]
        exact ih fun other member => noBrace other (List.mem_cons_of_mem _ member)
  exact Mode.quiet_append (Mode.quiet_append lead body) rfl

end Quiet

/-! ## Literal text -/

theorem quiet_escapeUnit (inClass : Bool) (unit : CodeUnit) (asInClass : Bool) :
    Quiet inClass (escapeUnit asInClass unit) := by
  rw [escapeUnit]
  split
  · next isEscaped =>
      refine Quiet.backslash (fun isLetter => ?_) .nil
      rcases isLetter with isLetter | isLetter <;>
        · rw [isLetter] at isEscaped
          revert isEscaped
          cases asInClass <;> decide
  · next notEscaped =>
      refine Quiet.of_all fun other member isMark => notEscaped ?_
      obtain rfl := List.mem_singleton.mp member
      have syntaxMarks : ∀ mark ∈ scanMarks, isSyntaxChar mark = true := by decide
      rw [syntaxMarks _ isMark, Bool.true_or]

theorem quiet_escapeLiteral (inClass : Bool) (text : Text) (asInClass : Bool) :
    Quiet inClass (escapeLiteral text asInClass) := by
  induction text with
  | nil => exact .nil
  | cons unit rest ih => exact (quiet_escapeUnit inClass unit asInClass).append ih

/-! ## Escapes -/

/-- The letters that stand for a fixed source behind a backslash. -/
def fixedLetters : List Char :=
  ['d', 'D', 'w', 'W', 's', 'S', 'h', 'v', 'H', 'V', 'b', 'B', 'A', 'z', 'Z', 'R', 'N', 'E',
    'n', 'r', 't', 'f', 'e', 'a']

theorem mem_fixedLetters {options : Options} {inClass : Bool} {letter : Char}
    (isFixed : (fixedEscape? options inClass letter).isSome = true) : letter ∈ fixedLetters := by
  by_contra notFixed
  simp only [fixedLetters, List.mem_cons, List.not_mem_nil, or_false, not_or] at notFixed
  simp [fixedEscape?, notFixed] at isFixed

theorem quiet_of_fixedEscape? {options : Options} {inClass : Bool} {letter : Char} {source : Text}
    (isFixed : fixedEscape? options inClass letter = some (.ok source)) : Quiet inClass source := by
  have all : ∀ unicodeClasses newlineLf inClass : Bool, ∀ letter ∈ fixedLetters,
      ((fixedEscape? { unicodeClasses, newlineLf } inClass letter).bind Except.toOption).all
        (fun source => (Mode.item inClass).quiet source == some (.item inClass)) = true := by
    decide +kernel
  have checked := all options.unicodeClasses options.newlineLf inClass letter
    (mem_fixedLetters (Option.isSome_of_mem isFixed))
  have same : fixedEscape?
      { unicodeClasses := options.unicodeClasses, newlineLf := options.newlineLf } inClass letter =
        fixedEscape? options inClass letter := rfl
  rw [same, isFixed] at checked
  exact beq_iff_eq.mp checked

variable {inClass : Bool} {source rest after : Text}

theorem quiet_digits {digits : Text} (all : ∀ unit ∈ digits, unit.isDigit = true) :
    Quiet inClass digits :=
  .of_test Char.isDigit (by decide) all

theorem quiet_hexDigits {digits : Text} (all : ∀ unit ∈ digits, unit.isHexDigit = true) :
    Quiet inClass digits :=
  .of_test (fun char => char.isDigit || ('a' ≤ char && char ≤ 'f') || ('A' ≤ char && char ≤ 'F'))
    (by decide) all

theorem quiet_name {name : Text} (isName : Text.isName name = true) : Quiet inClass name := by
  refine .of_test (fun char => (char.isAlpha || char == '_') || char.isDigit) (by decide)
    fun unit member => ?_
  cases name with
  | nil => contradiction
  | cons first others =>
      obtain ⟨isFirst, areParts⟩ := Bool.and_eq_true_iff.mp isName
      rcases List.mem_cons.mp member with rfl | member
      · exact Bool.or_eq_true_iff.mpr (.inl isFirst)
      · exact List.all_eq_true.mp areParts unit member

/-- A back reference by name. -/
theorem quiet_nameReference {name : Text} (isName : Text.isName name = true) :
    Quiet inClass (Text.ofString "\\k<" ++ name ++ Text.ofString ">") := by
  have lead : Quiet inClass (Text.ofString "\\k<") := by cases inClass <;> rfl
  have close : Quiet inClass (Text.ofString ">") := by cases inClass <;> rfl
  exact (lead.append (quiet_name isName)).append close

theorem quiet_readQuoted (rest : Text) : Quiet inClass (readQuoted inClass rest).1 := by
  rw [readQuoted]
  split <;> exact quiet_escapeLiteral inClass _ inClass

theorem quiet_of_readControl {start : Text}
    (isRead : readControl start rest = .ok (source, after)) : Quiet inClass source := by
  cases rest with
  | nil => contradiction
  | cons unit rest =>
      rw [readControl] at isRead
      split at isRead
      · next isLetter =>
          cases isRead
          have lead : Quiet inClass (Text.ofString "\\c") := by cases inClass <;> rfl
          exact lead.append (.of_test Char.isAlpha (by decide)
            fun other member => List.mem_singleton.mp member ▸ isLetter)
      · contradiction

theorem quiet_of_readHexEscape {start : Text}
    (isRead : readHexEscape start rest = .ok (source, after)) : Quiet inClass source := by
  rw [readHexEscape] at isRead
  split at isRead
  · split at isRead
    · split at isRead
      · next isNumber =>
          cases isRead
          simp only [Bool.and_eq_true] at isNumber
          have lead : Quiet inClass (Text.ofString "\\u\x7b") := by cases inClass <;> rfl
          have close : Quiet inClass (Text.ofString "\x7d") := by cases inClass <;> rfl
          exact (lead.append (quiet_hexDigits (List.all_eq_true.mp isNumber.1.2))).append close
      · contradiction
    · contradiction
  · cases isRead
    have lead : Quiet inClass (Text.ofString "\\x") := by cases inClass <;> rfl
    refine (lead.append ?_).append
      (quiet_hexDigits fun unit member => List.mem_takeWhile_imp member)
    exact quiet_digits fun unit member => List.eq_of_mem_replicate member ▸ rfl

theorem quiet_of_readUnicodeEscape {start : Text}
    (isRead : readUnicodeEscape start rest = .ok (source, after)) : Quiet inClass source := by
  rw [readUnicodeEscape] at isRead
  split at isRead
  · next areDigits =>
      cases isRead
      have lead : Quiet inClass (Text.ofString "\\u") := by cases inClass <;> rfl
      exact lead.append
        (quiet_hexDigits (List.all_eq_true.mp (Bool.and_eq_true_iff.mp areDigits).2))
  · contradiction

theorem exists_digitChar_of_mem_toDigits {base number : Nat} {char : Char} (positive : 1 < base)
    (member : char ∈ Nat.toDigits base number) : ∃ digit < base, char = digit.digitChar := by
  induction number using Nat.strong_induction_on with
  | _ number ih =>
      rw [Nat.toDigits_eq_if positive] at member
      split at member
      · next small => exact ⟨number, small, List.mem_singleton.mp member⟩
      · rcases List.mem_append.mp member with member | member
        · exact ih _ (Nat.div_lt_self (by omega) positive) member
        · exact ⟨number % base, Nat.mod_lt _ (by omega), List.mem_singleton.mp member⟩

theorem quiet_readOctal : Quiet inClass (readOctal rest).1 := by
  have noMark : ∀ digit < 16, ∀ unit ∈ CodePoint.units (Nat.digitChar digit).toNat,
      unit.toChar ∉ scanMarks := by
    decide
  have lead : Quiet inClass (Text.ofString "\\x") := by cases inClass <;> rfl
  refine lead.append (.of_all fun unit member => ?_)
  obtain ⟨char, isChar, isUnit⟩ := List.mem_flatMap.mp member
  rw [String.toList_ofList] at isChar
  have isDigit : ∃ digit < 16, char = Nat.digitChar digit := by
    rcases List.mem_append.mp isChar with isZero | isDigit
    · exact ⟨0, by decide, List.eq_of_mem_replicate isZero⟩
    · exact exists_digitChar_of_mem_toDigits (by decide) isDigit
  obtain ⟨digit, small, rfl⟩ := isDigit
  exact noMark digit small unit isUnit

/-! ### Properties and references -/

/-- What is cut off in front of a unit does not contain it. -/
theorem ne_of_mem_cut? {mark : CodeUnit} {text before after : Text}
    (isCut : Text.cut? [mark] text = some (before, after)) : ∀ unit ∈ before, unit ≠ mark := by
  induction text generalizing before with
  | nil => contradiction
  | cons unit text ih =>
      rw [Text.cut?] at isCut
      split at isCut
      · cases isCut
        nofun
      · next notMark =>
          obtain ⟨⟨front, behind⟩, isFront, same⟩ := Option.map_eq_some_iff.mp isCut
          obtain ⟨rfl, rfl⟩ := Prod.mk.inj same
          intro other member
          rcases List.mem_cons.mp member with rfl | member
          · rintro rfl
            simp at notMark
          · exact ih isFront other member

theorem toChar_ne_of_ne {unit : CodeUnit} {char : Char} (notNul : char ≠ '\x00')
    (notChar : unit ≠ CodeUnit.ofChar char) : unit.toChar ≠ char :=
  fun isChar => notChar (CodeUnit.eq_ofChar_of_toChar notNul isChar)

/-- Text without a closing brace, except that one may end it. -/
def EndsAtBrace (name : Text) : Prop :=
  ∃ front, (∀ unit ∈ front, unit.toChar ≠ '\x7d') ∧
    (name = front ∨ name = front ++ Text.ofString "\x7d")

namespace EndsAtBrace

variable {name : Text}

theorem of_all (noBrace : ∀ unit ∈ name, unit.toChar ≠ '\x7d') : EndsAtBrace name :=
  ⟨name, noBrace, .inl rfl⟩

theorem append {lead : Text} (noBrace : ∀ unit ∈ lead, unit.toChar ≠ '\x7d')
    (ends : EndsAtBrace name) : EndsAtBrace (lead ++ name) := by
  obtain ⟨front, noBrace', same⟩ := ends
  refine ⟨lead ++ front, List.forall_mem_append.mpr ⟨noBrace, noBrace'⟩, ?_⟩
  rcases same with rfl | rfl
  · exact .inl rfl
  · exact .inr (List.append_assoc ..).symm

theorem drop (ends : EndsAtBrace name) (count : Nat) : EndsAtBrace (name.drop count) := by
  obtain ⟨front, noBrace, rfl | rfl⟩ := ends
  · exact .of_all fun unit member => noBrace unit (List.mem_of_mem_drop member)
  · rw [List.drop_append]
    refine .append (fun unit member => noBrace unit (List.mem_of_mem_drop member)) ?_
    cases count - front.length with
    | zero => exact ⟨[], nofun, .inr rfl⟩
    | succ more =>
        exact ⟨[], nofun, .inl (List.drop_eq_nil_of_le (Nat.succ_le_succ (Nat.zero_le _)))⟩

theorem dropPrefix? {lead behind : Text} (ends : EndsAtBrace name)
    (dropped : Text.dropPrefix? lead name = some behind) : EndsAtBrace behind := by
  rw [Text.dropPrefix?] at dropped
  split at dropped
  · cases dropped
    exact ends.drop _
  · contradiction

theorem splitPrefix (ends : EndsAtBrace name) (lead : Text) :
    EndsAtBrace (Text.splitPrefix lead name).2 := by
  rw [Text.splitPrefix]
  split
  · next dropped => exact ends.dropPrefix? dropped
  · exact ends

/-- A property of that name, and a closing brace at most behind it. -/
theorem quiet (ends : EndsAtBrace name) (isNegated : Bool) :
    Quiet inClass (Text.ofString (if isNegated then "\\P\x7b" else "\\p\x7b") ++ name ++
      Text.ofString "\x7d") := by
  obtain ⟨front, noBrace, rfl | rfl⟩ := ends
  · exact .property noBrace isNegated
  · rw [← List.append_assoc]
    refine (Quiet.property noBrace isNegated).append ?_
    cases inClass <;> rfl

end EndsAtBrace

theorem endsAtBrace_of_readPropertyName {name : Text}
    (isRead : readPropertyName rest = some (name, after)) : EndsAtBrace name := by
  rw [readPropertyName] at isRead
  split at isRead
  · exact .of_all fun unit member => toChar_ne_of_ne (by decide) (ne_of_mem_cut? isRead unit member)
  · cases isRead
    cases rest with
    | nil => exact .of_all (List.forall_mem_nil _)
    | cons unit rest =>
        by_cases isBrace : unit = 0x7D
        · exact ⟨[], List.forall_mem_nil _, .inr (congrArg (fun unit => [unit]) isBrace)⟩
        · exact .of_all fun other member =>
            List.mem_singleton.mp member ▸ toChar_ne_of_ne (by decide) isBrace

theorem quiet_propertySource (isNegated : Bool) {name : Text} (ends : EndsAtBrace name) :
    Quiet inClass (propertySource isNegated inClass name) := by
  rw [propertySource]
  dsimp only
  split
  · cases isNegated <;> cases inClass <;> rfl
  · split
    · exact EndsAtBrace.quiet (.of_all (by decide)) isNegated
    · split
      · exact ends.quiet isNegated
      · rw [List.append_assoc _ (Text.ofString "Script=")]
        exact ((ends.splitPrefix _).append (by decide)).quiet isNegated

theorem quiet_of_readProperty {isNegated : Bool} {start : Text}
    (isRead : readProperty isNegated inClass start rest = .ok (source, after)) :
    Quiet inClass source := by
  rw [readProperty] at isRead
  split at isRead
  · contradiction
  · next given behind isName =>
      dsimp only at isRead
      split at isRead
      · contradiction
      · cases isRead
        have ends := endsAtBrace_of_readPropertyName isName
        refine quiet_propertySource _ ?_
        cases turned : Text.dropPrefix? (Text.ofString "^") given with
        | none => exact ends
        | some name => exact ends.dropPrefix? turned

theorem quiet_of_readNamedReference {start : Text}
    (isRead : readNamedReference start rest = .ok (source, after)) : Quiet inClass source := by
  rw [readNamedReference] at isRead
  split at isRead
  · split at isRead
    · next isName =>
        cases isRead
        exact quiet_nameReference isName
    · contradiction
  · contradiction

/-- A back reference by number. -/
theorem quiet_backslash_digits {digits : Text} (nonempty : digits ≠ [])
    (areDigits : ∀ unit ∈ digits, unit.isDigit = true) :
    Quiet inClass (Text.ofString "\\" ++ digits) := by
  cases digits with
  | nil => contradiction
  | cons first digits =>
      have isFirst := areDigits first List.mem_cons_self
      refine Quiet.backslash (fun isLetter => ?_)
        (quiet_digits fun unit member => areDigits unit (List.mem_cons_of_mem _ member))
      rw [CodeUnit.isDigit] at isFirst
      rcases isLetter with isLetter | isLetter <;>
        · rw [isLetter] at isFirst
          contradiction

theorem isDigit_of_mem_ofNat {number : Nat} {unit : CodeUnit} (member : unit ∈ Text.ofNat number) :
    unit.isDigit = true := by
  have areDigits : ∀ digit < 10, ∀ unit ∈ CodePoint.units (Nat.digitChar digit).toNat,
      unit.isDigit = true := by
    decide
  obtain ⟨char, isChar, isUnit⟩ := List.mem_flatMap.mp member
  rw [Nat.toString_eq_repr, Nat.toList_repr] at isChar
  obtain ⟨digit, small, rfl⟩ := exists_digitChar_of_mem_toDigits (by decide) isChar
  exact areDigits digit small unit isUnit

theorem ofNat_ne_nil (number : Nat) : Text.ofNat number ≠ [] := by
  rw [Text.ofNat, Text.ofString, Nat.toString_eq_repr, Nat.toList_repr, ne_eq,
    List.flatMap_eq_nil_iff]
  intro noUnits
  have nonempty : Nat.toDigits 10 number ≠ [] := Nat.toDigits_ne_nil
  obtain ⟨char, others, digits_eq⟩ := List.exists_cons_of_ne_nil nonempty
  have noUnit := noUnits char (digits_eq ▸ List.mem_cons_self)
  unfold CodePoint.units at noUnit
  split at noUnit <;> contradiction

theorem quiet_of_referenceSource {captureCount : Nat} {reference : Text}
    (isSource : referenceSource captureCount reference = .ok source) : Quiet inClass source := by
  have number : ∀ digits : Text, (!digits.isEmpty && digits.all CodeUnit.isDigit) = true →
      Quiet inClass (Text.ofString "\\" ++ digits) := by
    intro digits isNumber
    obtain ⟨nonempty, areDigits⟩ := Bool.and_eq_true_iff.mp isNumber
    exact quiet_backslash_digits (by simpa using nonempty) (List.all_eq_true.mp areDigits)
  rw [referenceSource] at isSource
  dsimp only at isSource
  split at isSource
  · split at isSource
    · contradiction
    · cases isSource
      exact quiet_backslash_digits (ofNat_ne_nil _) fun unit member =>
        isDigit_of_mem_ofNat member
  · split at isSource
    · next isNumber =>
        split at isSource
        · contradiction
        · cases isSource
          exact number reference isNumber
    · split at isSource
      · next isName =>
          cases isSource
          exact quiet_nameReference isName
      · contradiction

theorem quiet_of_readReference {captureCount : Nat} {start : Text}
    (isRead : readReference captureCount start rest = .ok (source, after)) :
    Quiet inClass source := by
  rw [readReference] at isRead
  split at isRead
  · split at isRead
    · next isSource =>
        cases isRead
        exact quiet_of_referenceSource isSource
    · contradiction
  · contradiction

theorem quiet_of_readNumber {first : CodeUnit} {start : Text} (isDigit : first.isDigit = true)
    (isRead : readNumber inClass first start rest = .ok (source, after)) :
    Quiet inClass source := by
  rw [readNumber] at isRead
  split at isRead
  · contradiction
  · cases isRead
    refine quiet_backslash_digits nofun fun unit member => ?_
    rcases List.mem_cons.mp member with rfl | member
    · exact isDigit
    · exact List.mem_takeWhile_imp member

theorem quiet_of_readEscape {options : Options} {captureCount : Nat} {start : Text}
    (isRead : readEscape options captureCount inClass start rest = .ok (source, after)) :
    Quiet inClass source := by
  cases rest with
  | nil => contradiction
  | cons unit rest =>
      rw [readEscape] at isRead
      dsimp only at isRead
      split at isRead
      · cases isRead
        exact quiet_escapeLiteral inClass _ inClass
      · split at isRead
        · next isFixed =>
            cases isRead
            exact quiet_of_fixedEscape? isFixed
        · contradiction
        · split at isRead
          · have same : (readQuoted inClass rest).1 = source :=
              congrArg Prod.fst (Except.ok.inj isRead)
            exact same ▸ quiet_readQuoted rest
          · exact quiet_of_readControl isRead
          · exact quiet_of_readHexEscape isRead
          · exact quiet_of_readUnicodeEscape isRead
          · exact quiet_of_readProperty isRead
          · exact quiet_of_readProperty isRead
          · exact quiet_of_readNamedReference isRead
          · exact quiet_of_readReference isRead
          · cases isRead
            exact quiet_readOctal
          · contradiction
          · split at isRead
            · next isDigit => exact quiet_of_readNumber isDigit isRead
            · contradiction

/-! ## Bracket expressions -/

theorem quiet_of_posixClass? {name contents : Text} (isClass : posixClass? name = some contents) :
    Quiet true contents := by
  have all : ∀ entry ∈ posixClasses,
      (Mode.item true).quiet (Text.ofString entry.2) = some (.item true) := by
    decide +kernel
  obtain ⟨entry, isEntry, rfl⟩ := Option.map_eq_some_iff.mp isClass
  exact all entry (List.mem_of_find?_eq_some isEntry)

theorem quiet_classUnit {unit : CodeUnit} (notEnd : unit.toChar ≠ ']')
    (notEscape : unit.toChar ≠ '\\') : Quiet true (classUnit unit) := by
  rw [classUnit]
  split
  · rfl
  · rw [Quiet, Mode.quiet_cons_of_ne (by decide), Mode.step, if_neg notEscape]
    exact if_neg notEnd ▸ rfl

/-- The items of a class and its closing bracket. -/
theorem quiet_of_readClassItems {options : Options} {captureCount : Nat} {start text : Text}
    (isRead : readClassItems options captureCount start text = .ok (source, after)) :
    (Mode.item true).quiet source = some (.item false) := by
  fun_induction readClassItems options captureCount start text generalizing source with
  | case1 => contradiction
  | case2 unit rest closes =>
      cases isRead
      rw [Mode.quiet_cons_of_ne (by decide), closes]
      rfl
  | case3 => contradiction
  | case4 unit rest _ _ escape behind isEscape shorter ih =>
      obtain ⟨more, areItems, rfl⟩ := after_eq_ok_iff.mp isRead
      exact Mode.quiet_append (quiet_of_readEscape isEscape) (ih areItems)
  | case5 unit rest _ _ name behind isName contents isClass shorter ih =>
      obtain ⟨more, areItems, rfl⟩ := after_eq_ok_iff.mp isRead
      exact Mode.quiet_append (quiet_of_posixClass? isClass) (ih areItems)
  | case6 => contradiction
  | case7 unit rest notEnd notEscape _ ih =>
      obtain ⟨more, areItems, rfl⟩ := after_eq_ok_iff.mp isRead
      exact Mode.quiet_append (quiet_classUnit notEnd notEscape) (ih areItems)

theorem quiet_of_readClass {options : Options} {captureCount : Nat} {start : Text}
    (isRead : readClass options captureCount start rest = .ok (source, after)) :
    Quiet false source := by
  obtain ⟨more, areItems, rfl⟩ := after_eq_ok_iff.mp isRead
  have caret : Quiet true (Text.splitPrefix (Text.ofString "^") rest).1 := by
    rw [Text.splitPrefix]
    split <;> rfl
  have lead : (Mode.item false).quiet (Text.ofString "[") = some (.item true) := rfl
  exact Mode.quiet_append (Mode.quiet_append (Mode.quiet_append lead caret)
    (quiet_escapeLiteral true _ false)) (quiet_of_readClassItems areItems)

/-! ## Quantifiers -/

theorem quiet_of_readQuantifierSuffix {lead : Text} (isQuiet : Quiet false lead)
    (isRead : readQuantifierSuffix lead rest = .ok (source, after)) : Quiet false source := by
  rw [readQuantifierSuffix] at isRead
  split at isRead
  · contradiction
  · next isMark =>
      cases isRead
      cases rest with
      | nil => contradiction
      | cons unit rest =>
          obtain ⟨isQuestion, -⟩ := List.cons.inj isMark
          refine isQuiet.append (.of_all fun other member => ?_)
          rw [List.mem_singleton.mp member, isQuestion]
          decide
  · cases isRead
    exact isQuiet

theorem eq_append_of_dropPrefix? {lead text : Text}
    (dropped : Text.dropPrefix? lead text = some rest) : text = lead ++ rest := by
  rw [Text.dropPrefix?] at dropped
  split at dropped
  · next starts =>
      obtain ⟨tail, rfl⟩ := List.isPrefixOf_iff_prefix.mp starts
      rw [List.drop_left] at dropped
      rw [Option.some.inj dropped]
  · contradiction

/-- A counted quantifier is made of digits, a comma and braces. -/
theorem quiet_of_readCounted {text : Text} (isRead : readCounted text = some (source, after)) :
    Quiet false source := by
  rw [readCounted] at isRead
  split at isRead
  · contradiction
  · next body opened =>
      dsimp only at isRead
      split at isRead
      · contradiction
      · obtain ⟨rest, closed, same⟩ := Option.map_eq_some_iff.mp isRead
        obtain ⟨source_eq, rfl⟩ := Prod.mk.inj same
        have behind_eq := eq_append_of_dropPrefix? closed
        have least_eq : body.takeWhile CodeUnit.isDigit ++
            body.drop (body.takeWhile CodeUnit.isDigit).length = body :=
          List.prefix_iff_eq_append.mp (List.takeWhile_prefix _)
        generalize body.drop (body.takeWhile CodeUnit.isDigit).length = afterLeast
          at least_eq behind_eq
        -- what stands between the lower bound and the closing brace
        obtain ⟨middle, isQuiet, middle_eq⟩ : ∃ middle, Quiet false middle ∧
            afterLeast = middle ++ (Text.ofString "\x7d" ++ rest) := by
          cases comma : Text.dropPrefix? (Text.ofString ",") afterLeast with
          | none =>
              rw [comma] at behind_eq
              exact ⟨[], .nil, behind_eq⟩
          | some tail =>
              rw [comma, Option.getD_some, Option.getD_some] at behind_eq
              have digits : Quiet false (tail.takeWhile CodeUnit.isDigit) :=
                quiet_digits fun unit member => List.mem_takeWhile_imp member
              have lead : Quiet false (Text.ofString ",") := rfl
              refine ⟨_, lead.append digits, ?_⟩
              rw [eq_append_of_dropPrefix? comma, List.append_assoc, ← behind_eq,
                List.prefix_iff_eq_append.mp (List.takeWhile_prefix _)]
        have whole : text = (Text.ofString "\x7b" ++ body.takeWhile CodeUnit.isDigit ++ middle ++
            Text.ofString "\x7d") ++ rest :=
          calc
            text = Text.ofString "\x7b" ++ body := eq_append_of_dropPrefix? opened
            _ = Text.ofString "\x7b" ++ (body.takeWhile CodeUnit.isDigit ++ afterLeast) :=
              congrArg _ least_eq.symm
            _ = _ := by rw [middle_eq]; simp only [List.append_assoc]
        have brace : Quiet false (Text.ofString "\x7b") := rfl
        have brace' : Quiet false (Text.ofString "\x7d") := rfl
        have digits : Quiet false (body.takeWhile CodeUnit.isDigit) :=
          quiet_digits fun unit member => List.mem_takeWhile_imp member
        rw [← source_eq, whole, List.length_append, Nat.add_sub_cancel, List.take_left]
        exact ((brace.append digits).append isQuiet).append brace'

/-! ## Whole patterns -/

/-- A source and the groups that it opens, each with a name if it has one. -/
inductive Opens : Text → List (Option Text) → Prop
  | nothing {source : Text} (isQuiet : Quiet false source) : Opens source []
  | group : Opens (Text.ofString "(") [none]
  | named {name : Text} (isName : Text.isName name = true) :
      Opens (Text.ofString "(?<" ++ name ++ Text.ofString ">") [some name]

/-- Open one more group, under a name if it has one. -/
def Progress.opening (progress : Progress) : Option Text → Progress
  | none => progress.capture
  | some name => progress.captureNamed name

/-- Groups that are opened in turn, none of them under a name that is taken. -/
inductive Progress.Opens : Progress → List (Option Text) → Progress → Prop
  | nil {progress : Progress} : Opens progress [] progress
  | cons {progress next : Progress} {name? : Option Text} {groups : List (Option Text)}
      (isFree : ∀ name ∈ name?, progress.hasName name = false)
      (rest : Opens (progress.opening name?) groups next) : Opens progress (name? :: groups) next

theorem Progress.Opens.append {progress between next : Progress} {first groups : List (Option Text)}
    (opens : progress.Opens first between) (opens' : between.Opens groups next) :
    progress.Opens (first ++ groups) next := by
  induction opens with
  | nil => exact opens'
  | cons isFree _ ih => exact .cons isFree (ih opens')

theorem Progress.Opens.eq_foldl {progress next : Progress} {groups : List (Option Text)}
    (opens : progress.Opens groups next) : next = groups.foldl Progress.opening progress := by
  induction opens with
  | nil => rfl
  | cons _ _ ih => exact ih

theorem opens_of_openNamed {progress next : Progress} {start name : Text}
    (isRead : openNamed progress start name rest = .ok (source, next, after)) :
    ∃ groups, Opens source groups ∧ progress.Opens groups next := by
  rw [openNamed] at isRead
  split at isRead
  · contradiction
  · next isName =>
      split at isRead
      · contradiction
      · next isFree =>
          cases isRead
          refine ⟨_, .named (by simpa using isName), .cons ?_ .nil⟩
          simpa using isFree

theorem opens_of_readSpecialOpening {progress next : Progress} {start behind : Text}
    (isRead : readSpecialOpening progress start behind = .ok (source, next, after)) :
    ∃ groups, Opens source groups ∧ progress.Opens groups next := by
  rw [readSpecialOpening] at isRead
  split at isRead
  · split at isRead
    · cases isRead
      exact ⟨[], .nothing .nil, .nil⟩
    · contradiction
  · split at isRead
    · next isPlain =>
        cases isRead
        obtain ⟨listed, member, opened⟩ := List.exists_of_findSome?_eq_some isPlain
        obtain ⟨_, _, same⟩ := Option.map_eq_some_iff.mp opened
        obtain ⟨rfl, -⟩ := Prod.mk.inj same
        have all : ∀ opening ∈ plainOpenings,
            (Mode.item false).quiet (Text.ofString opening) = some (.item false) := by
          decide
        exact ⟨[], .nothing (all listed member), .nil⟩
    · split at isRead
      · exact opens_of_openNamed isRead
      · split at isRead
        · next isReference =>
            cases isRead
            have isName := (Option.filter_eq_some_iff.mp isReference).2
            exact ⟨[], .nothing (quiet_nameReference isName), .nil⟩
        · contradiction

theorem opens_of_readOpening {progress next : Progress} {start : Text}
    (isRead : readOpening progress start rest = .ok (source, next, after)) :
    ∃ groups, Opens source groups ∧ progress.Opens groups next := by
  rw [readOpening] at isRead
  split at isRead
  · contradiction
  · exact opens_of_readSpecialOpening isRead
  · cases isRead
    exact ⟨_, .group, .cons (by simp) .nil⟩

/-- A piece and the groups that it opens. -/
def Piece.Opens : Piece → List (Option Text) → Prop
  | .source source, groups => Lowering.Opens source groups
  | .anchor _, groups => groups = []

theorem quiet_dot (options : Options) : Quiet false (dot options) := by
  have all : ∀ dotAll newlineLf : Bool,
      (Mode.item false).quiet (dot { dotAll, newlineLf }) = some (.item false) := by
    decide +kernel
  exact all options.dotAll options.newlineLf

/-- A source that opens nothing. -/
theorem opens_of_withProgress {reading : Reading} {progress next : Progress} {piece : Piece}
    (isQuiet : ∀ source, reading = .ok (source, after) → Quiet false source)
    (isRead : reading.withProgress progress = .ok (piece, next, after)) :
    ∃ groups, piece.Opens groups ∧ progress.Opens groups next := by
  obtain ⟨source, isSource, rfl, rfl⟩ := withProgress_eq_ok_iff.mp isRead
  exact ⟨[], .nothing (isQuiet source isSource), .nil⟩

/-- A unit that means nothing to a scan, or closes a group. -/
theorem quiet_singleton {unit : CodeUnit} (notMark : unit.toChar ∉ scanMarks ∨ unit.toChar = ')') :
    Quiet false [unit] := by
  rcases notMark with notMark | isClosing
  · exact .of_all fun other member => List.mem_singleton.mp member ▸ notMark
  · rw [Quiet, Mode.quiet, isClosing]
    rfl

theorem opens_of_readItem {options : Options} {progress next : Progress} {unit : CodeUnit}
    {piece : Piece} (isRead : readItem options progress unit rest = .ok (piece, next, after)) :
    ∃ groups, piece.Opens groups ∧ progress.Opens groups next := by
  have quantifier : unit.toChar ∉ scanMarks →
      (readQuantifierSuffix [unit] rest).withProgress progress = .ok (piece, next, after) →
      ∃ groups, piece.Opens groups ∧ progress.Opens groups next :=
    fun notMark => opens_of_withProgress fun _ =>
      quiet_of_readQuantifierSuffix (quiet_singleton (.inl notMark))
  have literal : Except.ok (.source (escapeLiteral [unit]), progress, rest) =
      (.ok (piece, next, after) : StepReading) →
      ∃ groups, piece.Opens groups ∧ progress.Opens groups next := by
    intro same
    cases same
    exact ⟨[], .nothing (quiet_escapeLiteral false _ _), .nil⟩
  rw [readItem] at isRead
  split at isRead
  · split at isRead
    · cases isRead
      exact ⟨[], rfl, .nil⟩
    · exact opens_of_withProgress (fun _ => quiet_of_readEscape) isRead
  · exact opens_of_withProgress (fun _ => quiet_of_readClass) isRead
  · cases isOpening : readOpening progress (unit :: rest) rest with
    | error failure =>
        rw [isOpening] at isRead
        contradiction
    | ok value =>
        rw [isOpening] at isRead
        cases isRead
        exact opens_of_readOpening isOpening
  · cases isRead
    exact ⟨[], rfl, .nil⟩
  · cases isRead
    exact ⟨[], rfl, .nil⟩
  · cases isRead
    exact ⟨[], .nothing (quiet_dot options), .nil⟩
  · next isMark => exact quantifier (isMark ▸ by decide) isRead
  · next isMark => exact quantifier (isMark ▸ by decide) isRead
  · next isMark => exact quantifier (isMark ▸ by decide) isRead
  · split at isRead
    · next isCounted =>
        exact opens_of_withProgress
          (fun _ => quiet_of_readQuantifierSuffix (quiet_of_readCounted isCounted)) isRead
    · exact literal isRead
  · exact literal isRead
  · exact literal isRead
  · exact literal isRead
  · next notEscape notClass notOpening _ _ _ _ _ _ _ _ notBracket _ =>
      cases isRead
      refine ⟨[], .nothing (quiet_singleton ?_), .nil⟩
      by_cases isClosing : unit.toChar = ')'
      · exact .inr isClosing
      · refine .inl ?_
        simp only [scanMarks, List.mem_cons, List.not_mem_nil, or_false, not_or]
        exact ⟨notEscape, notClass, notBracket, notOpening, isClosing⟩

theorem opens_of_readStep {options : Options} {progress next : Progress} {unit : CodeUnit}
    {piece : Piece} (isRead : readStep options progress unit rest = .ok (piece, next, after)) :
    ∃ groups, piece.Opens groups ∧ progress.Opens groups next := by
  rw [readStep] at isRead
  split at isRead
  · cases isRead
    exact ⟨[], .nothing .nil, .nil⟩
  · split at isRead
    · cases isRead
      exact ⟨[], .nothing .nil, .nil⟩
    · exact opens_of_readItem isRead

/-- Pieces and the groups that they open. -/
inductive Traces : List Piece → List (Option Text) → Prop
  | nil : Traces [] []
  | cons {piece : Piece} {first : List (Option Text)} {pieces : List Piece}
      {groups : List (Option Text)} (opens : piece.Opens first) (rest : Traces pieces groups) :
      Traces (piece :: pieces) (first ++ groups)

theorem exists_traces_of_readPieces {options : Options} {progress last : Progress} {text : Text}
    {pieces : List Piece} (areRead : readPieces options progress text = .ok (pieces, last)) :
    ∃ groups, Traces pieces groups ∧ progress.Opens groups last := by
  fun_induction readPieces options progress text generalizing pieces with
  | case1 progress =>
      cases areRead
      exact ⟨[], .nil, .nil⟩
  | case2 => contradiction
  | case3 progress unit rest piece next after isStep shorter ih =>
      cases isRest : readPieces options next after with
      | error failure =>
          rw [isRest] at areRead
          contradiction
      | ok value =>
          rw [isRest] at areRead
          cases areRead
          obtain ⟨first, opens, counted⟩ := opens_of_readStep isStep
          obtain ⟨groups, traces, counted'⟩ := ih isRest
          exact ⟨first ++ groups, .cons opens traces, counted.append counted'⟩

/-- What a pattern is lowered to opens the groups that are counted. -/
theorem exists_traces_of_lower {options : Options} {pattern : Text} {lowered : Lowered}
    (isLowered : lower options pattern = .ok lowered) :
    ∃ groups, Traces lowered.pieces groups ∧
      Progress.Opens {} groups ⟨lowered.captureCount, lowered.names⟩ := by
  rw [lower] at isLowered
  split at isLowered
  · cases isLowered
    have opens : Piece.Opens (.source (escapeLiteral pattern)) [] :=
      .nothing (quiet_escapeLiteral false _ _)
    exact ⟨[], .cons opens .nil, .nil⟩
  · dsimp only at isLowered
    cases areRead : readPieces (readLeadingFlags options pattern).1 {}
        (readLeadingFlags options pattern).2 with
    | error failure =>
        rw [areRead] at isLowered
        contradiction
    | ok value =>
        rw [areRead] at isLowered
        cases isLowered
        exact exists_traces_of_readPieces areRead

end RegexMatching.Lowering
