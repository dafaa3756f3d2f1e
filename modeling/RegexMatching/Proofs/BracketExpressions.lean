import RegexMatching.Proofs.CharacterSets
import RegexMatching.Proofs.GroupCounts
import RegexMatching.Proofs.Quoting
import RegexMatching.Proofs.Segments
import RegexMatching.Proofs.StepRuns

/-!
# Bracket expressions as unions

A bracket expression is lowered item by item, and what its items are lowered to is put in one class.
So it holds what one of its items holds.  For all but one of the items that is what they hold by
themselves: without Unicode properties, what is no space is not the same in brackets as outside.
-/

namespace RegexMatching.Lowering

open Backtrack (IsSet IsContents isSpace)
open PointReader

/-! ## Items -/

/-- An item of a bracket expression. -/
inductive BracketItem where
  | literal (point : Nat)
  | posix (name : Text)
  | shorthand (set : SetEscape) (isNegated : Bool)
deriving DecidableEq, Repr

/-- A shorthand escape as it is written. -/
def SetEscape.text (set : SetEscape) (isNegated : Bool) : Text :=
  [0x5C, CodeUnit.ofChar (set.letter isNegated)]

namespace BracketItem

/-- An item as it is written. -/
def text : BracketItem → Text
  | literal point => CodePoint.units point
  | posix name => Text.ofString "[:" ++ name ++ Text.ofString ":]"
  | shorthand set isNegated => set.text isNegated

/-- Whether there is such an item: literal characters have no meaning in brackets, and POSIX classes
are known. -/
def IsItem : BracketItem → Prop
  | literal point => point ≤ CodePoint.last ∧ charOf point ∉ [']', '[', '^', '-', '\\']
  | posix name => (posixClass? name).isSome = true
  | shorthand _ _ => True

instance : DecidablePred IsItem
  | literal _ => inferInstanceAs (Decidable (_ ∧ _))
  | posix _ => inferInstanceAs (Decidable (_ = true))
  | shorthand _ _ => inferInstanceAs (Decidable True)

/-- Whether two literal characters are halves that make up a pair, and so one character. -/
def joins : BracketItem → BracketItem → Bool
  | literal high, literal low => CodePoint.isHighSurrogate high && CodePoint.isLowSurrogate low
  | _, _ => false

section Meaning

variable (options : Options)

/-- Whether an item holds a code point by itself. -/
def holdsAlone : BracketItem → Nat → Bool
  | literal point, other => other == point
  | posix name, point => posixHolds name point
  | shorthand set isNegated, point => set.holdsAlone options isNegated point

/-- Whether an item is the escape for what is no ASCII space. -/
def isNoSpace : BracketItem → Bool
  | shorthand set isNegated => set.isNoSpace options isNegated
  | _ => false

/-- Whether an item holds a code point in brackets.  What is no ASCII space is told there by the
matcher's own escape, which takes more to be a space. -/
def holds (item : BracketItem) (point : Nat) : Bool :=
  if item.isNoSpace options then !isSpace point else item.holdsAlone options point

/-- Whether brackets with the item are refused. -/
def isRefused : BracketItem → Bool
  | shorthand set isNegated => set.isRefused options isNegated
  | _ => false

/-- What an item is lowered to. -/
def contents : BracketItem → Text
  | literal point => CodePoint.units point
  | posix name => (posixClass? name).getD []
  | shorthand set isNegated =>
      match fixedEscape? options true (set.letter isNegated) with
      | some (.ok contents) => contents
      | _ => []

end Meaning

end BracketItem

/-- A bracket expression as it is written. -/
def bracketText (isNegated : Bool) (items : List BracketItem) : Text :=
  Text.ofString "[" ++ ((if isNegated then Text.ofString "^" else []) ++
    (items.flatMap BracketItem.text ++ Text.ofString "]"))

/-! ## Reading items -/

section Reading

variable {options : Options} {captureCount : Nat}

theorem after_after (reading : Reading) (first second : Text) :
    (reading.after second).after first = reading.after (first ++ second) := by
  cases reading with
  | error failure => rfl
  | ok value =>
      obtain ⟨more, rest⟩ := value
      exact congrArg (fun source => Except.ok (source, rest)) (List.append_assoc _ _ _).symm

/-- The recursion over a class, without the proofs that it ends. -/
theorem readClassItems_cons (start : Text) (unit : CodeUnit) (rest : Text) :
    readClassItems options captureCount start (unit :: rest) =
      if unit.toChar = ']' then .ok ([unit], rest)
      else if unit.toChar = '\\' then
        match readEscape options captureCount true (unit :: rest) rest with
        | .error failure => .error failure
        | .ok (source, after) => (readClassItems options captureCount start after).after source
      else
        match readPosixName (unit :: rest) with
        | some (name, after) =>
            match posixClass? name with
            | some contents => (readClassItems options captureCount start after).after contents
            | none => .error ⟨.unknownPosixClass name, unit :: rest⟩
        | none => (readClassItems options captureCount start rest).after (classUnit unit) := by
  rw [readClassItems]
  split
  · rfl
  · split
    · split
      · next failed => conv => rhs; rw [failed]
      · next isRead => conv => rhs; rw [isRead]
    · split
      · next isName =>
          split
          · next isClass => conv => rhs; rw [isName]; dsimp only; rw [isClass]
          · next noClass => conv => rhs; rw [isName]; dsimp only; rw [noClass]
      · next noName => conv => rhs; rw [noName]

/-- A backslash starts an escape. -/
theorem readClassItems_escape (start rest : Text) :
    readClassItems options captureCount start (0x5C :: rest) =
      match readEscape options captureCount true (0x5C :: rest) rest with
      | .error failure => .error failure
      | .ok (source, after) => (readClassItems options captureCount start after).after source := by
  rw [readClassItems_cons, if_neg (by decide), if_pos (by decide)]

/-- A unit without a meaning stands for itself. -/
theorem readClassItems_unit {unit : CodeUnit} (notSpecial : unit.toChar ∉ [']', '\\', '['])
    (start rest : Text) :
    readClassItems options captureCount start (unit :: rest) =
      (readClassItems options captureCount start rest).after [unit] := by
  simp only [List.mem_cons, List.not_mem_nil, or_false, not_or] at notSpecial
  have notOpen : unit ≠ 0x5B := by
    rintro rfl
    exact notSpecial.2.2 rfl
  have noName : readPosixName (unit :: rest) = none := by
    have noPrefix : Text.dropPrefix? (Text.ofString "[:") (unit :: rest) = none := by
      refine if_neg fun starts => ?_
      obtain ⟨more, same⟩ := List.isPrefixOf_iff_prefix.mp starts
      exact notOpen (List.cons.inj same).1.symm
    rw [readPosixName, readDelimited, noPrefix]
    rfl
  rw [readClassItems_cons, if_neg notSpecial.1, if_neg notSpecial.2.1, noName, classUnit,
    if_neg notSpecial.2.2]

theorem notSpecial_of_le {unit : CodeUnit} (beyond : 0x80 ≤ unit.toNat) :
    unit.toChar ∉ [']', '\\', '['] := by
  have differs (char : Char) (ascii : char ≠ '\x00' ∧ char.toNat < 0x80) : unit.toChar ≠ char :=
    charOf_ne_of_le ascii beyond
  simp [differs ']' (by decide), differs '\\' (by decide), differs '[' (by decide)]

theorem readClassItems_literal {point : Nat} (isItem : (BracketItem.literal point).IsItem)
    (start rest : Text) :
    readClassItems options captureCount start (CodePoint.units point ++ rest) =
      (readClassItems options captureCount start rest).after (CodePoint.units point) := by
  obtain ⟨le, notSpecial⟩ := isItem
  have values := CodePoint.toNat_units le
  unfold CodePoint.units at values ⊢
  split
  · next small =>
      rw [if_pos small, if_pos small, List.map_singleton, List.singleton_inj] at values
      refine readClassItems_unit ?_ start rest
      rw [CodeUnit.toChar, values]
      change charOf point ∉ _
      simp only [List.mem_cons, List.not_mem_nil, or_false, not_or] at notSpecial ⊢
      exact ⟨notSpecial.1, notSpecial.2.2.2.2, notSpecial.2.1⟩
  · next large =>
      rw [if_neg large, if_neg large, List.map_cons, List.map_singleton, List.cons.injEq,
        List.singleton_inj] at values
      rw [List.cons_append, readClassItems_unit (notSpecial_of_le (by omega)),
        List.singleton_append, readClassItems_unit (notSpecial_of_le (by omega)), after_after]
      rfl

theorem readClassItems_posix {name contents : Text} (isClass : posixClass? name = some contents)
    (start rest : Text) :
    readClassItems options captureCount start ((BracketItem.posix name).text ++ rest) =
      (readClassItems options captureCount start rest).after contents := by
  have isName : readPosixName ((BracketItem.posix name).text ++ rest) = some (name, rest) := by
    obtain ⟨entry, found, -⟩ := Option.map_eq_some_iff.mp isClass
    have isEntry := List.find?_some found
    rw [beq_iff_eq] at isEntry
    have mem := List.mem_of_find?_eq_some found
    subst isEntry
    clear found isClass
    simp only [posixClasses, List.mem_cons, List.not_mem_nil, or_false] at mem
    rcases mem with rfl | rfl | rfl | rfl | rfl | rfl | rfl | rfl | rfl | rfl | rfl | rfl | rfl |
      rfl <;> rfl
  have opens : (BracketItem.posix name).text ++ rest =
      0x5B :: (0x3A :: (name ++ Text.ofString ":]") ++ rest) := rfl
  rw [opens, readClassItems_cons, if_neg (by decide), if_neg (by decide), ← opens, isName]
  dsimp only
  rw [isClass]

theorem readEscape_letter {outcome : Except Cause Text} {inClass : Bool} {set : SetEscape}
    {isNegated : Bool}
    (isFixed : fixedEscape? options inClass (set.letter isNegated) = some outcome)
    (start rest : Text) :
    readEscape options captureCount inClass start
        (CodeUnit.ofChar (set.letter isNegated) :: rest) =
      (outcome.map fun source => (source, rest)).mapError fun cause => ⟨cause, start⟩ := by
  have isLetter : (CodeUnit.ofChar (set.letter isNegated)).isLetter = true ∧
      (CodeUnit.ofChar (set.letter isNegated)).toChar = set.letter isNegated := by
    cases set <;> cases isNegated <;> decide
  rw [readEscape, isLetter.1, isLetter.2, isFixed]
  cases outcome <;> rfl

/-- An item of brackets is lowered to its contents, whatever stands around it, or is refused. -/
theorem readClassItems_item {item : BracketItem} (isItem : item.IsItem) (start rest : Text) :
    if item.isRefused options then
      ∃ failure, readClassItems options captureCount start (item.text ++ rest) = .error failure
    else
      readClassItems options captureCount start (item.text ++ rest) =
        (readClassItems options captureCount start rest).after (item.contents options) := by
  cases item with
  | literal point => exact readClassItems_literal isItem start rest
  | posix name =>
      obtain ⟨contents, isClass⟩ := Option.isSome_iff_exists.mp isItem
      change readClassItems options captureCount start ((BracketItem.posix name).text ++ rest) =
        (readClassItems options captureCount start rest).after ((posixClass? name).getD [])
      rw [readClassItems_posix isClass, isClass]
      rfl
  | shorthand set isNegated =>
      have isContents := set.isContents_fixedEscape options isNegated
      rw [BracketItem.isRefused, BracketItem.text, SetEscape.text, List.cons_append,
        List.singleton_append, readClassItems_escape]
      cases refused : set.isRefused options isNegated with
      | true =>
          rw [refused, if_pos rfl] at isContents
          obtain ⟨cause, isFixed⟩ := isContents
          rw [if_pos rfl, readEscape_letter isFixed]
          exact ⟨_, rfl⟩
      | false =>
          rw [refused, if_neg Bool.false_ne_true] at isContents
          obtain ⟨contents, isFixed, -⟩ := isContents
          rw [if_neg Bool.false_ne_true, readEscape_letter isFixed, BracketItem.contents, isFixed]
          rfl

/-- Items in brackets are lowered one after the other, or one of them is refused. -/
theorem readClassItems_items {items : List BracketItem} (areItems : ∀ item ∈ items, item.IsItem)
    (start : Text) :
    if items.any (·.isRefused options) then
      ∃ failure, readClassItems options captureCount start
        (items.flatMap BracketItem.text ++ Text.ofString "]") = .error failure
    else
      readClassItems options captureCount start
          (items.flatMap BracketItem.text ++ Text.ofString "]") =
        .ok (items.flatMap (·.contents options) ++ Text.ofString "]", []) := by
  induction items with
  | nil =>
      rw [List.any_nil, if_neg Bool.false_ne_true]
      change readClassItems options captureCount start [0x5D] = _
      rw [readClassItems_cons, if_pos (by decide)]
      rfl
  | cons item rest ih =>
      have ofItem := @readClassItems_item options captureCount item
        (areItems item List.mem_cons_self) start
        (rest.flatMap BracketItem.text ++ Text.ofString "]")
      have ofRest := ih fun other mem => areItems other (List.mem_cons_of_mem _ mem)
      rw [List.any_cons, List.flatMap_cons, List.flatMap_cons, List.append_assoc]
      cases refused : item.isRefused options with
      | true =>
          rw [refused, if_pos rfl] at ofItem
          rwa [Bool.true_or, if_pos rfl]
      | false =>
          rw [refused, if_neg Bool.false_ne_true] at ofItem
          rw [Bool.false_or, ofItem]
          cases refusedBehind : rest.any (·.isRefused options) with
          | true =>
              rw [refusedBehind, if_pos rfl] at ofRest
              obtain ⟨failure, failed⟩ := ofRest
              rw [if_pos rfl, failed]
              exact ⟨failure, rfl⟩
          | false =>
              rw [refusedBehind, if_neg Bool.false_ne_true] at ofRest
              rw [if_neg Bool.false_ne_true, ofRest, List.append_assoc]
              rfl

theorem splitPrefix_of_head_ne {separator unit : CodeUnit} (differs : unit ≠ separator)
    (rest : Text) : Text.splitPrefix [separator] (unit :: rest) = ([], unit :: rest) := by
  have noPrefix : Text.dropPrefix? [separator] (unit :: rest) = none := by
    refine if_neg fun starts => ?_
    obtain ⟨more, same⟩ := List.isPrefixOf_iff_prefix.mp starts
    exact differs (List.cons.inj same).1.symm
  rw [Text.splitPrefix, noPrefix]

/-- No item starts with a caret or a closing bracket. -/
theorem exists_head_text {item : BracketItem} (isItem : item.IsItem) :
    ∃ unit more, item.text = unit :: more ∧ unit ≠ 0x5E ∧ unit ≠ 0x5D := by
  cases item with
  | literal point =>
      obtain ⟨le, notSpecial⟩ := isItem
      have values := CodePoint.toNat_units le
      change ∃ unit more, CodePoint.units point = unit :: more ∧ _
      cases isUnits : CodePoint.units point with
      | nil => exact absurd isUnits (CodePoint.units_ne_nil point)
      | cons unit more =>
          rw [isUnits, List.map_cons] at values
          refine ⟨unit, more, rfl, ?_, ?_⟩
          all_goals
            rintro rfl
            split at values
            · obtain ⟨rfl, -⟩ := List.cons.inj values
              exact notSpecial (by decide)
            · have first := (List.cons.inj values).1
              simp only [UInt16.reduceToNat] at first
              omega
  | posix name => exact ⟨0x5B, _, rfl, by decide, by decide⟩
  | shorthand set isNegated => exact ⟨0x5C, _, rfl, by decide, by decide⟩

/-- Behind the opening bracket and its caret, what is in brackets is read as items. -/
theorem readClass_items {items : List BracketItem} (areItems : ∀ item ∈ items, item.IsItem)
    (notEmpty : items ≠ []) (isNegated : Bool) (start : Text) :
    readClass options captureCount start ((if isNegated then Text.ofString "^" else []) ++
        (items.flatMap BracketItem.text ++ Text.ofString "]")) =
      (readClassItems options captureCount start
        (items.flatMap BracketItem.text ++ Text.ofString "]")).after
          (if isNegated then Text.ofString "[^" else Text.ofString "[") := by
  obtain ⟨item, rest, rfl⟩ := List.exists_cons_of_ne_nil notEmpty
  obtain ⟨unit, more, isHead, notCaret, notBracket⟩ :=
    exists_head_text (areItems item List.mem_cons_self)
  rw [List.flatMap_cons, isHead, List.append_assoc, List.cons_append]
  generalize more ++ (rest.flatMap BracketItem.text ++ Text.ofString "]") = behind
  have noBracket : Text.splitPrefix (Text.ofString "]") (unit :: behind) = ([], unit :: behind) :=
    splitPrefix_of_head_ne notBracket behind
  cases isNegated with
  | true =>
      have isCaret : Text.splitPrefix (Text.ofString "^") (Text.ofString "^" ++ unit :: behind) =
          (Text.ofString "^", unit :: behind) := rfl
      rw [if_pos rfl, if_pos rfl, readClass, isCaret]
      dsimp only
      rw [noBracket]
      rfl
  | false =>
      have noCaret : Text.splitPrefix (Text.ofString "^") (unit :: behind) =
          ([], unit :: behind) := splitPrefix_of_head_ne notCaret behind
      rw [if_neg Bool.false_ne_true, if_neg Bool.false_ne_true, List.nil_append, readClass, noCaret]
      dsimp only
      rw [noBracket]
      rfl

end Reading

/-! ## Contents of items -/

/-- The first half of a pair is a code point of its own unless the other half follows. -/
theorem points_units_append {point : Nat} (le : point ≤ CodePoint.last) {rest : Text}
    (apart : CodePoint.isHighSurrogate point = true → ∀ low ∈ rest.head?,
      low.isLowSurrogate = false) :
    Text.points (CodePoint.units point ++ rest) = point :: rest.points := by
  have values := CodePoint.toNat_units le
  unfold CodePoint.units at values ⊢
  unfold CodePoint.last at le
  split
  · next small =>
      rw [if_pos small, if_pos small, List.map_singleton, List.singleton_inj] at values
      have isSingle : Text.startsWithPair (point.toUInt16 :: rest) = false := by
        cases rest with
        | nil => rfl
        | cons low more =>
            refine Bool.and_eq_false_imp.mpr fun isHigh => apart ?_ low rfl
            rw [CodeUnit.isHighSurrogate_iff, values] at isHigh
            simpa [CodePoint.isHighSurrogate] using isHigh
      rw [List.singleton_append, Text.points_of_single isSingle, values]
  · next large =>
      rw [if_neg large, if_neg large, List.map_cons, List.map_singleton, List.cons.injEq,
        List.singleton_inj] at values
      have isPoint : CodePoint.ofPair (0xD800 + (point - 0x10000) / 0x400)
          (0xDC00 + (point - 0x10000) % 0x400) = point := by
        unfold CodePoint.ofPair
        omega
      rw [List.cons_append, List.singleton_append, Text.points_of_pair, values.1, values.2, isPoint]
      rw [Text.startsWithPair, Bool.and_eq_true, CodeUnit.isHighSurrogate_iff,
        CodeUnit.isLowSurrogate_iff, values.1, values.2]
      omega

theorem points_units {point : Nat} (le : point ≤ CodePoint.last) :
    (CodePoint.units point).points = [point] := by
  have alone := @points_units_append point le [] fun _ _ mem => nomatch mem
  rwa [List.append_nil] at alone

namespace BracketItem

variable {options : Options}

/-- The contents of an item hold what the item does in brackets. -/
theorem isContents {item : BracketItem} (isItem : item.IsItem)
    (accepted : item.isRefused options = false) :
    IsContents (item.contents options).points (item.holds options) := by
  cases item with
  | literal point =>
      have plain : Backtrack.isPlain point = true := by
        have notSpecial := isItem.2
        simp only [List.mem_cons, List.not_mem_nil, or_false, not_or] at notSpecial
        simp [Backtrack.isPlain, notSpecial]
      rw [contents, points_units isItem.1]
      refine (IsContents.ofAtom (Backtrack.isAtom_plain plain)).congr fun other => ?_
      change (decide (point ≤ other) && decide (other ≤ point)) = (other == point)
      rw [Bool.eq_iff_iff]
      simp only [Bool.and_eq_true, decide_eq_true_eq, beq_iff_eq]
      omega
  | posix name =>
      obtain ⟨contents, isClass⟩ := Option.isSome_iff_exists.mp isItem
      change IsContents ((posixClass? name).getD []).points (posixHolds name)
      rw [isClass]
      exact isContents_posix isClass
  | shorthand set isNegated =>
      have isContents := set.isContents_fixedEscape options isNegated
      rw [show set.isRefused options isNegated = false from accepted,
        if_neg Bool.false_ne_true] at isContents
      obtain ⟨contents, isFixed, -, holds⟩ := isContents
      rw [BracketItem.contents, isFixed]
      exact holds

/-- Contents of other items than literal characters have characters of ASCII only. -/
theorem isAscii_contents {item : BracketItem} (isItem : item.IsItem)
    (accepted : item.isRefused options = false) (notLiteral : ∀ point, item ≠ literal point) :
    isAscii (item.contents options) = true := by
  cases item with
  | literal point => exact absurd rfl (notLiteral point)
  | posix name =>
      obtain ⟨contents, isClass⟩ := Option.isSome_iff_exists.mp isItem
      obtain ⟨entry, found, rfl⟩ := Option.map_eq_some_iff.mp isClass
      have areAscii : posixClasses.all (fun entry => isAscii (Text.ofString entry.2)) = true := by
        decide +kernel
      change isAscii ((posixClass? name).getD []) = true
      rw [isClass]
      exact List.all_eq_true.mp areAscii entry (List.mem_of_find?_eq_some found)
  | shorthand set isNegated =>
      have isContents := set.isContents_fixedEscape options isNegated
      rw [show set.isRefused options isNegated = false from accepted,
        if_neg Bool.false_ne_true] at isContents
      obtain ⟨contents, isFixed, areAscii, -⟩ := isContents
      rw [BracketItem.contents, isFixed]
      exact areAscii

theorem points_append_of_isAscii {text : Text} (areAscii : isAscii text = true) (rest : Text) :
    Text.points (text ++ rest) = text.points ++ rest.points := by
  have small : ∀ unit ∈ text, unit.isHighSurrogate = false := by
    intro unit mem
    have isSmall := List.all_eq_true.mp (Bool.and_eq_true_iff.mp areAscii).2 unit mem
    exact isHighSurrogate_of_lt (of_decide_eq_true isSmall)
  clear areAscii
  induction text with
  | nil => rfl
  | cons unit more ih =>
      have notHigh := small unit List.mem_cons_self
      rw [List.cons_append, Text.points_cons_of_not_high notHigh,
        Text.points_cons_of_not_high notHigh, List.cons_append,
        ih fun other mem => small other (List.mem_cons_of_mem _ mem)]

/-- Behind a first half, only the literal character of a second half starts with one. -/
theorem head_contents_append {item : BracketItem} {point : Nat}
    (isHigh : CodePoint.isHighSurrogate point = true) (apart : (literal point).joins item = false)
    (isItem : item.IsItem) (accepted : item.isRefused options = false) (rest : Text) :
    ∀ unit ∈ (item.contents options ++ rest).head?, unit.isLowSurrogate = false := by
  intro unit isHead
  rw [Bool.eq_false_iff, ne_eq, CodeUnit.isLowSurrogate_iff]
  by_cases isLiteral : ∃ low, item = literal low
  · obtain ⟨low, rfl⟩ := isLiteral
    have values := CodePoint.toNat_units isItem.1
    have notLow : CodePoint.isLowSurrogate low = false := by
      rwa [joins, isHigh, Bool.true_and] at apart
    rw [Bool.eq_false_iff, CodePoint.isLowSurrogate, ne_eq, Bool.and_eq_true,
      decide_eq_true_eq, decide_eq_true_eq] at notLow
    have isFirst : ((CodePoint.units low).map UInt16.toNat).head? = some unit.toNat := by
      rw [contents, List.head?_append_of_ne_nil _ (CodePoint.units_ne_nil low)] at isHead
      rw [List.head?_map, isHead]
      rfl
    have le := isItem.1
    unfold CodePoint.last at le
    rw [values] at isFirst
    split at isFirst <;> simp only [List.head?_cons, Option.some.injEq] at isFirst <;> omega
  · have areAscii := isAscii_contents isItem accepted fun low isLow => isLiteral ⟨low, isLow⟩
    have notEmpty : item.contents options ≠ [] := by
      rintro isEmpty
      rw [isEmpty] at areAscii
      cases areAscii
    rw [List.head?_append_of_ne_nil _ notEmpty] at isHead
    have isSmall := List.all_eq_true.mp (Bool.and_eq_true_iff.mp areAscii).2 unit
      (List.mem_of_mem_head? isHead)
    have := of_decide_eq_true isSmall
    omega

/-- What items are lowered to is read item by item. -/
theorem points_contents {items : List BracketItem} (areItems : ∀ item ∈ items, item.IsItem)
    (accepted : items.any (·.isRefused options) = false)
    (apart : items.IsChain fun first second => first.joins second = false) :
    Text.points (items.flatMap (·.contents options)) =
      items.flatMap fun item => (item.contents options).points := by
  induction items with
  | nil => rfl
  | cons item rest ih =>
      rw [List.any_cons, Bool.or_eq_false_iff] at accepted
      obtain ⟨ofItem, ofRest⟩ := List.isChain_cons.mp apart
      have isItem := areItems item List.mem_cons_self
      have areRest : ∀ other ∈ rest, other.IsItem :=
        fun other mem => areItems other (List.mem_cons_of_mem _ mem)
      rw [List.flatMap_cons, List.flatMap_cons, ← ih areRest accepted.2 ofRest]
      cases item with
      | literal point =>
          rw [contents, points_units isItem.1, points_units_append isItem.1]
          · rfl
          · intro isHigh
            cases rest with
            | nil => exact fun _ mem => nomatch mem
            | cons next more =>
                rw [List.any_cons, Bool.or_eq_false_iff] at accepted
                exact head_contents_append isHigh (ofItem next rfl)
                  (areRest next List.mem_cons_self) accepted.2.1 _
      | posix name =>
          exact points_append_of_isAscii
            (isAscii_contents isItem accepted.1 fun _ => BracketItem.noConfusion) _
      | shorthand set isNegated =>
          exact points_append_of_isAscii
            (isAscii_contents isItem accepted.1 fun _ => BracketItem.noConfusion) _

end BracketItem

/-! ## Bracket expressions -/

/-- Whether a pattern is lowered, with regard to case, to an expression for one code point that
passes a test, whatever the edges of the subject are. -/
def LowersToSet (options : Options) (pattern : Text) (test : Nat → Bool) : Prop :=
  ∃ lowered, lower options pattern = .ok lowered ∧ lowered.captureCount = 0 ∧
    lowered.caseless = false ∧ ∀ edges, IsSet (lowered.render edges).points test

theorem lowersToSet_of_lower {options : Options} (isCased : options.caseless = false)
    {pattern source : Text} {test : Nat → Bool}
    (isLowered : lower options pattern = .ok (.ofPieces options [.source source] {}))
    (isSet : IsSet source.points test) : LowersToSet options pattern test := by
  refine ⟨_, isLowered, rfl, isCased, fun edges => ?_⟩
  have isSource := render_ofPieces_sources options [source] {} edges
  rw [List.map_singleton, List.flatten_singleton] at isSource
  rwa [isSource]

section Patterns

variable {options : Options} (isExpression : options.literal = false)

include isExpression

/-- A pattern that one item takes up is lowered as the item is read, or refused for the same
reason. -/
theorem lower_of_readItem {unit : CodeUnit} (isMark : unit = 0x5B ∨ unit = 0x5C) {rest : Text}
    {reading : Reading} (isItem : readItem options {} unit rest = reading.withProgress {})
    (isAll : ∀ source after, reading = .ok (source, after) → after = []) :
    lower options (unit :: rest) = reading.map fun read =>
      .ofPieces options [.source read.1] {} := by
  have noFlags : readLeadingFlags options (unit :: rest) = (options, unit :: rest) := by
    rcases isMark with rfl | rfl <;> rw [readLeadingFlags] <;> rfl
  have isStep : readStep options {} unit rest = reading.withProgress {} := by
    rw [← isItem]
    rcases isMark with rfl | rfl <;> exact readStep_of_notSkipped options {} rfl rfl rest
  rw [lower_of_expression isExpression, noFlags, readPieces_cons, isStep]
  cases reading with
  | error failure => rfl
  | ok value =>
      obtain ⟨source, after⟩ := value
      obtain rfl := isAll source after rfl
      change Except.map _ (Except.map _ (readPieces options {} [])) = _
      rw [readPieces]
      rfl

variable (isCased : options.caseless = false)

include isCased

/-- A shorthand escape by itself is lowered to an expression for what it holds. -/
theorem lowersToSet_escape (set : SetEscape) (isNegated : Bool) :
    LowersToSet options (set.text isNegated) (set.holdsAlone options isNegated) := by
  obtain ⟨source, isFixed, isSet⟩ := set.isSet_fixedEscape options isNegated
  have isItem : readItem options {} 0x5C [CodeUnit.ofChar (set.letter isNegated)] =
      Reading.withProgress (.ok (source, [])) {} := by
    have notEnd : Text.dropPrefix? (Text.ofString "Z")
        [CodeUnit.ofChar (set.letter isNegated)] = none := by
      cases set <;> cases isNegated <;> rfl
    change (match Text.dropPrefix? (Text.ofString "Z") _ with
      | some after => _
      | none => Reading.withProgress (readEscape options 0 false _ _) {}) = _
    rw [notEnd, readEscape_letter isFixed]
    rfl
  refine lowersToSet_of_lower isCased ?_ isSet
  exact lower_of_readItem isExpression (.inr rfl) isItem fun _ _ same => by cases same; rfl

/-- Brackets are refused without items or with a refused one, and otherwise lowered to an expression
for what one of the items holds, or none of them does. -/
theorem lowersToSet_bracket {items : List BracketItem} (areItems : ∀ item ∈ items, item.IsItem)
    (apart : items.IsChain fun first second => first.joins second = false) (isNegated : Bool) :
    if items.isEmpty || items.any (·.isRefused options) then
      ∃ failure, lower options (bracketText isNegated items) = .error failure
    else
      LowersToSet options (bracketText isNegated items) fun point =>
        items.any (·.holds options point) != isNegated := by
  have isItem (rest : Text) : readItem options {} 0x5B rest =
      (readClass options 0 (0x5B :: rest) rest).withProgress {} := rfl
  have isLowered {rest : Text} {reading : Reading}
      (isRead : readClass options 0 (0x5B :: rest) rest = reading)
      (isAll : ∀ source after, reading = .ok (source, after) → after = []) :
      lower options (0x5B :: rest) = reading.map fun read =>
        .ofPieces options [.source read.1] {} :=
    lower_of_readItem isExpression (.inl rfl) (isRead ▸ isItem rest) isAll
  -- Without items the closing bracket is an item, and nothing closes the class.
  by_cases isEmpty : items = []
  · subst isEmpty
    rw [List.isEmpty_nil, Bool.true_or, if_pos rfl]
    have isRead (start : Text) : readClass options 0 start
        ((if isNegated then Text.ofString "^" else []) ++ Text.ofString "]") =
        .error ⟨.unclosedClass, start⟩ := by
      cases isNegated <;> change (readClassItems options 0 start []).after _ = _ <;>
        rw [readClassItems] <;> rfl
    exact ⟨_, isLowered (isRead _) fun _ _ same => by cases same⟩
  have notEmpty : items.isEmpty = false := List.isEmpty_eq_false_iff.mpr isEmpty
  rw [notEmpty, Bool.false_or]
  have areRead := @readClassItems_items options 0 items areItems (bracketText isNegated items)
  have isClass := @readClass_items options 0 items areItems isEmpty isNegated
    (bracketText isNegated items)
  cases refused : items.any (·.isRefused options) with
  | true =>
      rw [refused, if_pos rfl] at areRead
      obtain ⟨failure, failed⟩ := areRead
      rw [failed] at isClass
      rw [if_pos rfl]
      exact ⟨failure, isLowered isClass fun _ _ same => by cases same⟩
  | false =>
      rw [refused, if_neg Bool.false_ne_true] at areRead
      rw [areRead] at isClass
      rw [if_neg Bool.false_ne_true]
      refine lowersToSet_of_lower isCased (isLowered isClass fun _ _ same => by cases same; rfl) ?_
      dsimp only
      have isSource : (if isNegated then Text.ofString "[^" else Text.ofString "[") ++
          (items.flatMap (·.contents options) ++ Text.ofString "]") =
          if isNegated then negated (items.flatMap (·.contents options))
          else bracketed (items.flatMap (·.contents options)) := by
        cases isNegated <;> exact (List.append_assoc _ _ _).symm
      have accepted : ∀ item ∈ items, item.isRefused options = false := fun item mem =>
        Bool.eq_false_iff.mpr (List.any_eq_false.mp refused item mem)
      rw [isSource, points_class, BracketItem.points_contents areItems refused apart]
      exact (IsContents.flatMap fun item mem =>
        BracketItem.isContents (areItems item mem) (accepted item mem)).isSet isNegated

end Patterns

/-- A shorthand escape is lowered to an expression for what it holds by itself.  Brackets are
refused without items or with one that is refused there, and otherwise lowered to an expression for
what one of their items holds, or none of them does if they are negated.  Every item holds there
what it holds by itself, but for the escape for what is no ASCII space. -/
theorem brackets_hold_union {options : Options} (isExpression : options.literal = false)
    (isCased : options.caseless = false) {items : List BracketItem}
    (areItems : ∀ item ∈ items, item.IsItem)
    (apart : items.IsChain fun first second => first.joins second = false) (isNegated : Bool) :
    (∀ (set : SetEscape) isUpper, LowersToSet options (set.text isUpper)
      ((BracketItem.shorthand set isUpper).holdsAlone options)) ∧
    if items.isEmpty || items.any (·.isRefused options) then
      ∃ failure, lower options (bracketText isNegated items) = .error failure
    else
      LowersToSet options (bracketText isNegated items) fun point =>
        items.any (·.holds options point) != isNegated :=
  ⟨lowersToSet_escape isExpression isCased,
    lowersToSet_bracket isExpression isCased areItems apart isNegated⟩

/-- A space is what is neither the letter, nor a digit, nor anything that is no space. -/
theorem brackets_hold_union_of_three :
    ∃ test, LowersToSet {} (Text.ofString "[^a[:digit:]\\S]") test ∧ test 0x20 = true ∧
      test 0x61 = false ∧ test 0x37 = false := by
  have ofBrackets := @brackets_hold_union {} rfl rfl
    [.literal 0x61, .posix (Text.ofString "digit"), .shorthand .space true] (by decide)
    (by simp [BracketItem.joins]) true
  exact ⟨_, ofBrackets.2, by decide, by decide, by decide⟩

/-- A no-break space is no ASCII space, but none of what the same escape holds in brackets. -/
theorem noSpace_holds_less_in_brackets :
    ∃ alone inBrackets, LowersToSet {} (Text.ofString "\\S") alone ∧
      LowersToSet {} (Text.ofString "[\\S]") inBrackets ∧
      alone 0xA0 = true ∧ inBrackets 0xA0 = false := by
  have inBrackets := @lowersToSet_bracket {} rfl rfl [.shorthand .space true]
    (by decide) (.singleton _) false
  exact ⟨_, _, lowersToSet_escape rfl rfl .space true, inBrackets, by decide, by decide⟩

end RegexMatching.Lowering
