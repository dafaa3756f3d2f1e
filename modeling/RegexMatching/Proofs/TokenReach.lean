import RegexMatching.Proofs.Enclosing
import RegexMatching.Proofs.Scanning

/-!
# How far a token reaches

Each reader of a token takes in a piece of the pattern that a scan passes without meeting a
parenthesis, and it looks at nothing behind the next parenthesis.  So a pattern can be cut in
front of a parenthesis, and what stands behind it can be replaced.
-/

namespace RegexMatching.Backtrack

open PointReader

variable {α : Type}

/-! ## Readers of numbers -/

section Readers

variable (inClass : Bool) (rest : List Nat)

variable {rest} in
theorem exists_digits_of_readHexDigits {count value : Nat} {after : List Nat}
    (isRead : readHexDigits count rest = some (value, after)) :
    ∃ digits, rest = digits ++ after ∧ (∀ point ∈ digits, isHexDigit point = true) ∧
      ∀ other, readHexDigits count (digits ++ other) = some (value, other) := by
  rw [readHexDigits] at isRead
  split at isRead
  · next isDigits =>
      obtain ⟨rfl, rfl⟩ := Prod.mk.inj (Option.some.inj isRead)
      obtain ⟨length, areDigits⟩ := Bool.and_eq_true_iff.mp isDigits
      refine ⟨rest.take count, (List.take_append_drop ..).symm, List.all_eq_true.mp areDigits,
        fun other => ?_⟩
      have same : (rest.take count ++ other).take count = rest.take count :=
        List.take_left' (of_decide_eq_true length)
      have left : (rest.take count ++ other).drop count = other :=
        List.drop_left' (of_decide_eq_true length)
      rw [readHexDigits, same, left, if_pos isDigits]
  · contradiction

theorem takes_hexDigits (count : Nat) :
    Takes (.item inClass) (.item inClass) (readHexDigits count) rest := by
  intro value after isRead
  obtain ⟨digits, rest_eq, areDigits, again⟩ := exists_digits_of_readHexDigits isRead
  exact ⟨digits, rest_eq, Mode.pass_of_all fun point member =>
    Mode.stays_of_test isHexDigit_mark inClass point (areDigits point member),
    fun other _ => again other⟩

theorem readBracedPoint_eq (rest : List Nat) :
    readBracedPoint rest =
      (some (rest.takeWhile isHexDigit, rest.drop (rest.takeWhile isHexDigit).length)).bind
        fun (digits, after) =>
          if !digits.isEmpty && startsWith '}' after && hexValue digits ≤ CodePoint.last then
            some (hexValue digits, after.drop 1)
          else none :=
  rfl

theorem takes_bracedPoint :
    Takes (.item inClass) (.item inClass) readBracedPoint rest := by
  rw [funext readBracedPoint_eq]
  refine Takes.bind (Takes.takeWhile (Mode.stays_of_test isHexDigit_mark inClass))
    fun digits after _ => ?_
  refine Takes.ite (fun other agree => ?_) (fun tested => ?_) fun _ => Takes.none
  · rw [agree.startsWith_eq]
  · simp only [Bool.and_eq_true] at tested
    refine Takes.drop_one (fun rest => some (hexValue digits, rest)) (by decide) tested.1.2 ?_
    cases inClass <;> exact Takes.some _

variable {rest} in
theorem exists_taken_of_readLowEscape {value : Nat} {after : List Nat}
    (isRead : readLowEscape rest = some (value, after)) :
    ∃ taken, rest = taken ++ after ∧ (∀ point ∈ taken, isParen point = false) ∧
      (Mode.item inClass).pass taken = some (.item inClass) ∧
      ∀ other, readLowEscape (taken ++ other) = some (value, other) := by
  rw [readLowEscape] at isRead
  split at isRead
  · next marks =>
      obtain ⟨isRead, isLow⟩ := Option.filter_eq_some_iff.mp isRead
      obtain ⟨digits, rest_eq, areDigits, again⟩ := exists_digits_of_readHexDigits isRead
      rcases rest with _ | ⟨backslash, _ | ⟨letter, rest⟩⟩
      · contradiction
      · simp [startsWith] at marks
      · obtain rfl : rest = digits ++ after := rest_eq
        obtain ⟨isBackslash, isLetter⟩ := Bool.and_eq_true_iff.mp marks
        replace isBackslash : charOf backslash = '\\' := beq_iff_eq.mp isBackslash
        replace isLetter : charOf letter = 'u' := beq_iff_eq.mp isLetter
        refine ⟨backslash :: letter :: digits, rfl, ?_, ?_, fun other => ?_⟩
        · intro point member
          rcases List.mem_cons.mp member with rfl | member
          · rw [isParen, isBackslash]
            rfl
          rcases List.mem_cons.mp member with rfl | member
          · rw [isParen, isLetter]
            rfl
          · have stays := Mode.stays_of_test isHexDigit_mark false point (areDigits point member)
            exact stays.2
        · have passed : (Mode.item inClass).pass digits = some (.item inClass) :=
            Mode.pass_of_all fun point member =>
              Mode.stays_of_test isHexDigit_mark inClass point (areDigits point member)
          rw [Mode.pass, Mode.pass, isBackslash, isLetter]
          cases inClass <;> exact passed
        · rw [readLowEscape]
          exact (if_pos marks).trans (Option.filter_eq_some_iff.mpr ⟨again other, isLow⟩)
  · contradiction

/-- A code point behind the letter of a Unicode escape: two halves of a pair if there are two. -/
theorem readUnicodePoint_eq (rest : List Nat) :
    readUnicodePoint rest =
      if startsWith '{' rest then readBracedPoint (rest.drop 1)
      else
        (readHexDigits 4 rest).bind fun (high, after) =>
          (if CodePoint.isHighSurrogate high then
            (readLowEscape after).map fun (low, behind) => (CodePoint.ofPair high low, behind)
          else none).or (some (high, after)) := by
  rw [readUnicodePoint]
  split
  · rfl
  · cases readHexDigits 4 rest with
    | none => rfl
    | some read =>
        dsimp only [Option.bind_some]
        cases readLowEscape read.2 <;> cases CodePoint.isHighSurrogate read.1 <;> rfl

theorem takes_lowHalf (high : Nat) :
    Takes (.item inClass) (.item inClass)
      (fun rest =>
        (if CodePoint.isHighSurrogate high then
          (readLowEscape rest).map fun (low, behind) => (CodePoint.ofPair high low, behind)
        else none).or (some (high, rest))) rest := by
  cases CodePoint.isHighSurrogate high with
  | false => exact Takes.some high
  | true =>
      have low : Takes (.item inClass) (.item inClass) readLowEscape rest := by
        intro value after isRead
        obtain ⟨taken, rest_eq, -, passed, again⟩ := exists_taken_of_readLowEscape inClass isRead
        exact ⟨taken, rest_eq, passed, fun other _ => again other⟩
      refine Takes.orElse (low.map _) (Takes.some high) fun other isNone _ agree => ?_
      -- a second half in the other text would have been one here
      cases isRead : readLowEscape other with
      | none => rfl
      | some read =>
          obtain ⟨taken, rfl, noParen, -, again⟩ := exists_taken_of_readLowEscape inClass isRead
          obtain ⟨after, rfl, -⟩ := agree.symm.exists_eq_append noParen
          rw [if_pos rfl, again] at isNone
          contradiction

theorem takes_unicodePoint :
    Takes (.item inClass) (.item inClass) readUnicodePoint rest := by
  rw [funext readUnicodePoint_eq]
  refine Takes.char readBracedPoint (by decide) (fun _ => ?_) fun _ => ?_
  · cases inClass <;> exact takes_bracedPoint _ _
  · exact (takes_hexDigits inClass rest 4).bind fun high after _ => takes_lowHalf inClass after high

/-! ## Readers of escapes -/

/-- The set of a property by its name, whose closing brace has been read. -/
def readPropertyItem (isNegated : Bool) (name rest : List Nat) : Reader ClassItem :=
  (propertyOf? name).map fun property => (.property property isNegated, rest)

/-- The name of a property, whose opening brace has been read. -/
def readBracedProperty (isNegated : Bool) (rest : List Nat) : Reader ClassItem :=
  (some (rest.takeWhile fun point => charOf point != '}',
    rest.drop (rest.takeWhile fun point => charOf point != '}').length)).bind fun (name, after) =>
      if startsWith '}' after then readPropertyItem isNegated name (after.drop 1) else none

theorem readProperty_eq (isNegated : Bool) (rest : List Nat) :
    readProperty isNegated rest =
      if startsWith '{' rest then readBracedProperty isNegated (rest.drop 1) else none :=
  rfl

theorem takes_property (isNegated : Bool) :
    Takes (.property inClass) (.item inClass) (readProperty isNegated) rest := by
  rw [funext (readProperty_eq isNegated)]
  refine Takes.char (readBracedProperty isNegated) (by decide) (fun _ => ?_) fun _ => Takes.none
  refine Takes.bind (Takes.takeWhile fun point notBrace => ⟨?_, rfl⟩) fun name after _ => ?_
  · exact if_neg (bne_iff_ne.mp notBrace)
  refine Takes.char (readPropertyItem isNegated name) (by decide) (fun _ => ?_)
    fun _ => Takes.none
  rw [funext (readPropertyItem.eq_1 isNegated name)]
  cases propertyOf? name with
  | none => exact Takes.none
  | some property => exact Takes.some _

/-- A set behind a backslash, one code point after the other. -/
theorem readSetEscape_eq (rest : List Nat) :
    readSetEscape rest =
      if startsWith 'p' rest then readProperty false (rest.drop 1)
      else if startsWith 'P' rest then readProperty true (rest.drop 1)
      else
        (rest.head?.bind fun point => shorthand? (charOf point)).map
          fun item => (item, rest.drop 1) := by
  cases rest with
  | nil => rfl
  | cons point rest =>
      simp only [readSetEscape, startsWith, List.drop_one, List.tail_cons, List.head?_cons,
        Option.bind_some]
      split <;> simp_all

theorem startsWith_of_head? {char : Char} {rest : List Nat} {point : Nat}
    (isHead : rest.head? = some point) : startsWith char rest = (charOf point == char) := by
  cases rest with
  | nil => contradiction
  | cons first rest =>
      cases isHead
      rfl

theorem takes_setEscape : Takes (.escape inClass) (.item inClass) readSetEscape rest := by
  rw [funext readSetEscape_eq]
  refine Takes.char _ (by decide) (fun _ => takes_property inClass _ _) fun notLower => ?_
  refine Takes.char _ (by decide) (fun _ => takes_property inClass _ _) fun notUpper => ?_
  refine Takes.head fun point item isHead _ => ⟨if_neg ?_, rfl⟩
  rw [startsWith_of_head? isHead] at notLower notUpper
  exact not_or.mpr ⟨beq_eq_false_iff_ne.mp notLower, beq_eq_false_iff_ne.mp notUpper⟩

/-- What a letter or a punctuation mark stands for behind a backslash. -/
def simpleEscape? (point : Nat) : Option Nat :=
  match charOf point with
  | 'f' => some 0xC
  | 'n' => some 0xA
  | 'r' => some 0xD
  | 't' => some 0x9
  | 'v' => some 0xB
  | _ => if isSyntaxPoint point then some point else none

/-- Nothing behind a zero that may not be followed by a digit. -/
def readNul (rest : List Nat) : Reader Nat :=
  if (rest.head?.map isDigit).getD false then none else some (0, rest)

/-- The letter of a control character. -/
def readControl (rest : List Nat) : Reader Nat :=
  (rest.head?.bind fun letter =>
    if (charOf letter).isAlpha then some (letter % 32) else none).map
      fun point => (point, rest.drop 1)

/-- A code point behind a backslash, one code point after the other. -/
theorem readPointEscape_eq (rest : List Nat) :
    readPointEscape rest =
      if startsWith '0' rest then readNul (rest.drop 1)
      else if startsWith 'c' rest then readControl (rest.drop 1)
      else if startsWith 'x' rest then readHexDigits 2 (rest.drop 1)
      else if startsWith 'u' rest then readUnicodePoint (rest.drop 1)
      else (rest.head?.bind simpleEscape?).map fun point => (point, rest.drop 1) := by
  cases rest with
  | nil => rfl
  | cons point rest =>
      simp only [readPointEscape, simpleEscape?, readNul, readControl, startsWith, List.drop_one,
        List.tail_cons, List.head?_cons, Option.bind_some]
      cases rest <;> split <;> simp_all

theorem isAlpha_mark : ∀ mark ∈ scanMarks, (charOf mark.toNat).isAlpha = false := by
  decide

theorem takes_pointEscape : Takes (.escape inClass) (.item inClass) readPointEscape rest := by
  rw [funext readPointEscape_eq]
  refine Takes.char _ (by decide) (fun _ => ?_) fun _ => ?_
  · refine Takes.ite (fun other agree => ?_) (fun _ => Takes.none) fun _ => Takes.some 0
    rw [agree.head?_eq]
  refine Takes.char _ (by decide) (fun _ => ?_) fun _ => ?_
  · refine Takes.head fun letter value _ isControl => ?_
    split at isControl
    · next isLetter =>
        exact @Mode.stays_of_test (fun point => (charOf point).isAlpha) isAlpha_mark inClass
          letter isLetter
    · contradiction
  refine Takes.char _ (by decide) (fun _ => takes_hexDigits inClass _ 2) fun _ => ?_
  refine Takes.char _ (by decide) (fun _ => takes_unicodePoint inClass _) fun _ => ?_
  refine Takes.head fun point value isHead isValue => ⟨if_neg ?_, rfl⟩
  rintro (isP | isP) <;>
    · rw [simpleEscape?, ← toNat_of_charOf (by decide) isP] at isValue
      contradiction

/-! ## Readers of names -/

/-- One code point of a name that may stand in a name. -/
def readNamePart (rest : List Nat) : Reader Nat :=
  (readNamePoint rest).filter fun outcome => isNamePart outcome.1

/-- The code points of a name up to the closing angle bracket, all of which may stand in a name. -/
def readNameParts (rest : List Nat) : Reader (List Nat) :=
  (readNamePoints rest).filter fun outcome => outcome.1.all isNamePart

/-- An escape in a name, whose backslash has been read. -/
def readNameEscape (rest : List Nat) : Reader Nat :=
  if startsWith 'u' rest then readUnicodePoint (rest.drop 1) else none

theorem readNamePart_eq (rest : List Nat) :
    readNamePart rest =
      if startsWith '\\' rest then
        (readNameEscape (rest.drop 1)).filter fun outcome => isNamePart outcome.1
      else
        (rest.head?.bind fun point => if isNamePart point then some point else none).map
          fun point => (point, rest.drop 1) := by
  cases rest with
  | nil => rfl
  | cons point rest =>
      simp only [readNamePart, readNamePoint, readNameEscape, startsWith, List.drop_one,
        List.tail_cons, List.head?_cons, Option.bind_some]
      split
      · rfl
      · cases isPart : isNamePart point <;> simp [isPart]

theorem takes_namePart : Takes (.item inClass) (.item inClass) readNamePart rest := by
  rw [funext readNamePart_eq]
  refine Takes.char (fun rest => (readNameEscape rest).filter fun outcome =>
    isNamePart outcome.1) (by decide) (fun _ => ?_) fun _ => ?_
  · refine Takes.filter ?_ isNamePart
    refine Takes.char _ (by decide) (fun _ => ?_) fun _ => Takes.none
    cases inClass <;> exact takes_unicodePoint _ _
  · refine Takes.head fun point value _ isPart => ?_
    split at isPart
    · next isNamePart => exact Mode.stays_of_test isNamePart_mark inClass point isNamePart
    · contradiction

/-- The recursion over a name, without the proof that it ends. -/
theorem readNamePoints_eq (rest : List Nat) :
    readNamePoints rest =
      if startsWith '>' rest then some ([], rest.drop 1)
      else
        (readNamePoint rest).bind fun (point, after) =>
          (readNamePoints after).map fun (points, behind) => (point :: points, behind) := by
  rw [readNamePoints]
  split
  · rfl
  · split
    · next noPoint => rw [noPoint, Option.bind_none]
    · next isPoint => conv => rhs; rw [isPoint, Option.bind_some]

theorem readNameParts_eq (rest : List Nat) :
    readNameParts rest =
      if startsWith '>' rest then some ([], rest.drop 1)
      else
        (readNamePart rest).bind fun (point, after) =>
          (readNameParts after).map fun (points, behind) => (point :: points, behind) := by
  rw [readNameParts, readNamePoints_eq, readNamePart]
  split
  · rfl
  · rcases readNamePoint rest with _ | ⟨point, after⟩
    · rfl
    · have parts_eq : readNameParts after =
          (readNamePoints after).filter fun outcome => outcome.1.all isNamePart := rfl
      cases isPart : isNamePart point <;>
        simp only [Option.bind_some, Option.filter_some, isPart, if_true, Bool.false_eq_true,
          if_false, Option.bind_none, parts_eq] <;>
        rcases readNamePoints after with _ | ⟨points, behind⟩ <;> simp [isPart, Option.filter_some]

theorem takes_nameParts : Takes (.item inClass) (.item inClass) readNameParts rest := by
  induction length : rest.length using Nat.strong_induction_on generalizing rest with
  | _ size ih =>
      rw [funext readNameParts_eq]
      refine Takes.char (fun rest => some ([], rest)) (by decide) (fun _ => ?_) fun _ => ?_
      · cases inClass <;> exact Takes.some _
      · refine (takes_namePart inClass rest).bind fun point after isPoint => ?_
        have shorter := length_of_readNamePoint (Option.filter_eq_some_iff.mp isPoint).1
        exact (ih _ (length ▸ shorter) after rfl).map _

/-- A name is made of parts, the first of which may start it. -/
theorem readName_eq (rest : List Nat) :
    readName rest = (readNameParts rest).filter fun outcome =>
      (outcome.1.head?.map isNameStart).getD false := by
  rw [readName, readNameParts, Option.filter_filter]
  congr 1
  funext outcome
  rcases outcome with ⟨_ | ⟨first, others⟩, after⟩
  · rfl
  · simp only [List.all_cons, isNamePart, List.head?_cons, Option.map_some, Option.getD_some]
    cases isNameStart first <;> simp

theorem takes_name : Takes (.item inClass) (.item inClass) readName rest := by
  rw [funext readName_eq]
  exact (takes_nameParts inClass rest).filter fun name => (name.head?.map isNameStart).getD false

/-! ## Readers of classes -/

/-- Where the set of an escape is not read, it is not in what agrees up to a parenthesis either;
an escape that begins like a property has no other meaning. -/
theorem readSetEscape_eq_none {rest other : List Nat} (isNone : readSetEscape rest = none)
    (noProperty : startsWith 'p' rest = false ∧ startsWith 'P' rest = false)
    (agree : AgreeToParen rest other) : readSetEscape other = none := by
  rw [readSetEscape_eq, noProperty.1, noProperty.2] at isNone
  rw [readSetEscape_eq, ← agree.startsWith_eq, ← agree.startsWith_eq, noProperty.1, noProperty.2,
    ← agree.head?_eq]
  exact Option.map_eq_none_iff.mpr (Option.map_eq_none_iff.mp isNone)

/-- What reads no letter of a property reads something that does not start with one. -/
theorem noProperty_of_isSome {read : List Nat → Reader α} {rest : List Nat}
    (lower : ∀ rest, read (0x70 :: rest) = none) (upper : ∀ rest, read (0x50 :: rest) = none)
    (isRead : (read rest).isSome = true) :
    startsWith 'p' rest = false ∧ startsWith 'P' rest = false := by
  cases rest with
  | nil => exact ⟨rfl, rfl⟩
  | cons point rest =>
      refine ⟨beq_eq_false_iff_ne.mpr fun isLower => ?_, beq_eq_false_iff_ne.mpr fun isUpper => ?_⟩
      · rw [← toNat_of_charOf (by decide) isLower] at isRead
        exact Bool.false_ne_true ((congrArg Option.isSome (lower rest)).symm.trans isRead)
      · rw [← toNat_of_charOf (by decide) isUpper] at isRead
        exact Bool.false_ne_true ((congrArg Option.isSome (upper rest)).symm.trans isRead)

/-- A code point of a class behind a backslash. -/
def readAtomPoint (rest : List Nat) : Reader ClassAtom :=
  if startsWith 'b' rest then some (.point 0x8, rest.drop 1)
  else if startsWith '-' rest then some (.point 0x2D, rest.drop 1)
  else (readPointEscape rest).map fun (point, after) => (.point point, after)

/-- An atom behind a backslash. -/
def readAtomEscape (rest : List Nat) : Reader ClassAtom :=
  ((readSetEscape rest).map fun (item, after) => (.set item, after)).or (readAtomPoint rest)

theorem readClassAtom_eq (rest : List Nat) :
    readClassAtom rest =
      if startsWith '\\' rest then readAtomEscape (rest.drop 1)
      else
        (rest.head?.bind fun point => some (.point point)).map fun atom => (atom, rest.drop 1) := by
  cases rest with
  | nil => rfl
  | cons point rest =>
      simp only [readClassAtom, readAtomEscape, readAtomPoint, startsWith, List.drop_one,
        List.tail_cons, List.head?_cons, Option.bind_some]
      split
      · cases readSetEscape rest <;> rfl
      · rfl

theorem takes_atomPoint : Takes (.escape inClass) (.item inClass) readAtomPoint rest := by
  refine Takes.char (fun rest => some (ClassAtom.point 0x8, rest)) (by decide)
    (fun _ => Takes.some _) fun _ => ?_
  refine Takes.char (fun rest => some (ClassAtom.point 0x2D, rest)) (by decide)
    (fun _ => Takes.some _) fun _ => ?_
  exact (takes_pointEscape inClass rest).map _

theorem takes_atomEscape : Takes (.escape inClass) (.item inClass) readAtomEscape rest := by
  refine Takes.orElse ((takes_setEscape inClass rest).map _) (takes_atomPoint inClass rest)
    fun other isNone isRead agree => ?_
  have noProperty := noProperty_of_isSome (fun _ => rfl) (fun _ => rfl) isRead
  exact Option.map_eq_none_iff.mpr
    (readSetEscape_eq_none (Option.map_eq_none_iff.mp isNone) noProperty agree)

/-- An atom is no closing bracket, which would end the class for a scan. -/
theorem takes_classAtom (goesOn : startsWith ']' rest = false) :
    Takes (.item true) (.item true) readClassAtom rest := by
  rw [funext readClassAtom_eq]
  refine Takes.char _ (by decide) (fun _ => takes_atomEscape true _) fun notEscape => ?_
  refine Takes.head fun point atom isHead _ => ⟨?_, rfl⟩
  rw [startsWith_of_head? isHead] at goesOn notEscape
  rw [Mode.step, if_neg (beq_eq_false_iff_ne.mp notEscape)]
  exact if_neg (beq_eq_false_iff_ne.mp goesOn)

theorem takes_classItems : Takes (.item true) (.item false) readClassItems rest := by
  induction length : rest.length using Nat.strong_induction_on generalizing rest with
  | _ size ih =>
      rw [funext readClassItems_eq]
      refine Takes.char (fun rest => some ([], rest)) (by decide)
        (fun _ => Takes.some _) fun goesOn => ?_
      refine (takes_classAtom rest goesOn).bind fun atom after isAtom => ?_
      have shorter := length_of_readClassAtom isAtom
      dsimp only
      refine Takes.ite (fun other agree => ?_) (fun isRange => ?_) fun _ => ?_
      · exact (agree.startsWith_and_drop_eq (by decide) ']' (! ·)).symm
      · obtain ⟨isDash, goesOn⟩ := Bool.and_eq_true_iff.mp isRange
        refine Takes.drop_one (fun rest => (readClassAtom rest).bind _) (by decide) isDash ?_
        refine (takes_classAtom _ (Bool.not_eq_true' _ |>.mp goesOn)).bind
          fun bound behind isBound => ?_
        have shorterStill := length_of_readClassAtom isBound
        rw [List.length_drop] at shorterStill
        have others := ih _ (by omega) behind rfl
        dsimp only
        rcases atom with first | _ <;> rcases bound with last | _ <;>
          dsimp only <;> try exact Takes.none
        by_cases inOrder : first ≤ last
        · simp only [if_pos inOrder]
          exact others.map _
        · simp only [if_neg inOrder]
          exact Takes.none
      · exact (ih _ (length ▸ shorter) after rfl).map _

/-- The items of a class up to its closing bracket, and what they make. -/
def readClassBody (isNegated : Bool) (rest : List Nat) : Reader CharClass :=
  (readClassItems rest).map fun (items, after) => (⟨isNegated, items⟩, after)

theorem takes_class : Takes (.item true) (.item false) readClass rest := by
  have class_eq : readClass = fun rest =>
      if startsWith '^' rest then readClassBody true (rest.drop 1)
      else readClassBody false rest := by
    funext rest
    rw [readClass]
    cases startsWith '^' rest <;> rfl
  rw [class_eq]
  refine Takes.char (readClassBody true) (by decide) (fun _ => ?_) fun _ => ?_
  · exact (takes_classItems (rest.drop 1)).map _
  · exact (takes_classItems rest).map _

/-! ## Readers of tokens -/

/-- The closing brace of a value. -/
def readBrace (value? : Option α) (rest : List Nat) : Reader α :=
  if startsWith '}' rest then value?.bind fun value => some (value, rest.drop 1) else none

theorem takes_brace (value? : Option α) :
    Takes (.item inClass) (.item inClass) (readBrace value?) rest := by
  cases value? with
  | none => exact Takes.char (fun _ => none) (by decide) (fun _ => Takes.none) fun _ => Takes.none
  | some value =>
      refine Takes.char (fun rest => some (value, rest)) (by decide)
        (fun _ => ?_) fun _ => Takes.none
      cases inClass <;> exact Takes.some value

/-- The upper bound of a counted quantifier behind the comma. -/
def readMost (least : Nat) (rest : List Nat) : Reader (Nat × Option Nat) :=
  (some (rest.takeWhile isDigit, rest.drop (rest.takeWhile isDigit).length)).bind
    fun (digits, after) =>
      let most := min (decimalValue digits) boundLimit
      readBrace
        (if digits.isEmpty then some (least, none)
        else if most < least then none
        else some (least, some most)) after

theorem takes_most (least : Nat) :
    Takes (.item inClass) (.item inClass) (readMost least) rest :=
  Takes.bind (Takes.takeWhile (Mode.stays_of_test isDigit_mark inClass))
    fun _ after _ => takes_brace inClass after _

theorem readBounds_eq (rest : List Nat) :
    readBounds rest =
      (some (rest.takeWhile isDigit, rest.drop (rest.takeWhile isDigit).length)).bind
        fun (digits, after) =>
          let least := min (decimalValue digits) boundLimit
          if digits.isEmpty then none
          else if startsWith '}' after then some ((least, some least), after.drop 1)
          else if startsWith ',' after then readMost least (after.drop 1)
          else none := by
  rw [readBounds]
  dsimp only [readMost, readBrace, Option.bind_some]
  repeat' split
  all_goals rfl

theorem takes_bounds : Takes (.item inClass) (.item inClass) readBounds rest := by
  rw [funext readBounds_eq]
  refine Takes.bind (Takes.takeWhile (Mode.stays_of_test isDigit_mark inClass))
    fun digits after _ => ?_
  dsimp only
  generalize min (decimalValue digits) boundLimit = least
  cases digits with
  | nil => exact Takes.none
  | cons digit digits =>
      refine Takes.char (fun rest => some ((least, some least), rest)) (by decide)
        (fun _ => ?_) fun _ => ?_
      · cases inClass <;> exact Takes.some _
      refine Takes.char (readMost least) (by decide) (fun _ => ?_) fun _ => Takes.none
      cases inClass <;> exact takes_most _ _ _

theorem takes_reluctance (least : Nat) (most : Option Nat) :
    Takes (.item inClass) (.item inClass) (readReluctance least most) rest := by
  refine Takes.char (fun rest => some (Token.quantifier least most false, rest)) (by decide)
    (fun _ => ?_) fun _ => Takes.some _
  cases inClass <;> exact Takes.some _

/-- What stands behind an opening parenthesis with a question mark and an angle bracket. -/
def readAngleOpening (rest : List Nat) : Reader Token :=
  if startsWith '=' rest then some (.opening (.look false false), rest.drop 1)
  else if startsWith '!' rest then some (.opening (.look false true), rest.drop 1)
  else (readName rest).map fun (name, after) => (.opening (.capture (some name)), after)

/-- What stands behind an opening parenthesis with a question mark. -/
def readMarkedOpening (rest : List Nat) : Reader Token :=
  if startsWith ':' rest then some (.opening .plain, rest.drop 1)
  else if startsWith '=' rest then some (.opening (.look true false), rest.drop 1)
  else if startsWith '!' rest then some (.opening (.look true true), rest.drop 1)
  else if startsWith '<' rest then readAngleOpening (rest.drop 1)
  else none

theorem readOpening_eq_ite (rest : List Nat) :
    readOpening rest =
      if startsWith '?' rest then readMarkedOpening (rest.drop 1)
      else some (.opening (.capture none), rest) := by
  rw [readOpening_eq, readMarkedOpening, readAngleOpening]
  simp only [List.drop_drop]

theorem takes_angleOpening : Takes (.item false) (.item false) readAngleOpening rest := by
  refine Takes.char (fun rest => some (Token.opening (.look false false), rest)) (by decide)
    (fun _ => Takes.some _) fun _ => ?_
  refine Takes.char (fun rest => some (Token.opening (.look false true), rest)) (by decide)
    (fun _ => Takes.some _) fun _ => ?_
  exact (takes_name false rest).map fun name => Token.opening (.capture (some name))

theorem takes_opening : Takes (.item false) (.item false) readOpening rest := by
  rw [funext readOpening_eq_ite]
  refine Takes.char readMarkedOpening (by decide) (fun _ => ?_) fun _ => Takes.some _
  refine Takes.char (fun rest => some (Token.opening .plain, rest)) (by decide)
    (fun _ => Takes.some _) fun _ => ?_
  refine Takes.char (fun rest => some (Token.opening (.look true false), rest)) (by decide)
    (fun _ => Takes.some _) fun _ => ?_
  refine Takes.char (fun rest => some (Token.opening (.look true true), rest)) (by decide)
    (fun _ => Takes.some _) fun _ => ?_
  exact Takes.char readAngleOpening (by decide) (fun _ => takes_angleOpening _) fun _ => Takes.none

/-- A back reference by number behind a backslash. -/
def readGroupNumber (rest : List Nat) : Reader Token :=
  ((rest.head?.bind fun point => if isDigit point then some point else none).map
    fun first => (first, rest.drop 1)).bind fun (first, after) =>
      (some (after.takeWhile isDigit, after.drop (after.takeWhile isDigit).length)).map
        fun (digits, behind) => (.reference (decimalValue (first :: digits)), behind)

theorem takes_groupNumber : Takes (.escape inClass) (.item inClass) readGroupNumber rest := by
  refine Takes.bind (Takes.head fun point value _ isDigit => ⟨if_neg ?_, rfl⟩)
    fun first after _ => ?_
  · rintro (isP | isP) <;>
      · rw [← toNat_of_charOf (by decide) isP] at isDigit
        contradiction
  · exact (Takes.takeWhile (Mode.stays_of_test isDigit_mark inClass)).map
      fun digits => Token.reference (decimalValue (first :: digits))

/-- A back reference by name behind a backslash and its letter. -/
def readReferenceName (rest : List Nat) : Reader Token :=
  (readName (rest.drop 1)).map fun (name, after) => (.namedReference name, after)

/-- What stands behind a backslash that makes no set. -/
def readOtherEscape (rest : List Nat) : Reader Token :=
  if startsWith 'b' rest then some (.assertion (.wordBoundary false), rest.drop 1)
  else if startsWith 'B' rest then some (.assertion (.wordBoundary true), rest.drop 1)
  else if startsWith 'k' rest && startsWith '<' (rest.drop 1) then readReferenceName (rest.drop 1)
  else if (rest.head?.map fun point => (charOf point).isDigit && charOf point != '0').getD
      false then readGroupNumber rest
  else (readPointEscape rest).map fun (point, after) => (.item (.set (.ofPoint point)), after)

theorem takes_otherEscape : Takes (.escape false) (.item false) readOtherEscape rest := by
  refine Takes.char (fun rest => some (Token.assertion (.wordBoundary false), rest)) (by decide)
    (fun _ => Takes.some _) fun _ => ?_
  refine Takes.char (fun rest => some (Token.assertion (.wordBoundary true), rest)) (by decide)
    (fun _ => Takes.some _) fun _ => ?_
  refine Takes.ite (fun other agree => ?_) (fun marks => ?_) fun _ => ?_
  · exact (agree.startsWith_and_drop_eq (by decide) '<' id).symm
  · obtain ⟨isLetter, isAngle⟩ := Bool.and_eq_true_iff.mp marks
    refine Takes.drop_one readReferenceName (by decide) isLetter ?_
    refine Takes.drop_one (fun rest => (readName rest).map fun (name, after) =>
      (Token.namedReference name, after)) (by decide) isAngle ?_
    exact (takes_name false _).map Token.namedReference
  refine Takes.ite (fun other agree => ?_) (fun _ => takes_groupNumber false rest) fun _ => ?_
  · rw [agree.head?_eq]
  · exact (takes_pointEscape false rest).map fun point => Token.item (.set (.ofPoint point))

theorem readEscapeToken_eq_or (rest : List Nat) :
    readEscapeToken rest =
      ((readSetEscape rest).map fun (item, after) =>
        (Token.item (.set (.ofItem item)), after)).or (readOtherEscape rest) := by
  rw [readEscapeToken_eq, readOtherEscape]
  cases readSetEscape rest with
  | some read => rfl
  | none =>
      dsimp only [Option.map_none, Option.none_or, readReferenceName]
      rw [List.drop_drop]
      cases rest with
      | nil => rfl
      | cons point rest =>
          cases isNumber : isDigit point with
          | true => simp [readGroupNumber, isNumber]
          | false =>
              have notDigit : (charOf point).isDigit = false := isNumber
              simp [notDigit]

theorem takes_escapeToken : Takes (.escape false) (.item false) readEscapeToken rest := by
  rw [funext readEscapeToken_eq_or]
  refine Takes.orElse
    ((takes_setEscape false rest).map fun item => Token.item (.set (.ofItem item)))
    (takes_otherEscape rest) fun other isNone isRead agree => ?_
  have noProperty := noProperty_of_isSome (fun _ => rfl) (fun _ => rfl) isRead
  exact Option.map_eq_none_iff.mpr
    (readSetEscape_eq_none (Option.map_eq_none_iff.mp isNone) noProperty agree)

/-- A counted quantifier behind its brace. -/
def readCount (rest : List Nat) : Reader Token :=
  (readBounds rest).bind fun (bounds, after) => readReluctance bounds.1 bounds.2 after

theorem takes_count : Takes (.item false) (.item false) readCount rest := by
  refine Takes.bind (takes_bounds false rest) fun bounds after _ => ?_
  exact takes_reluctance false after bounds.1 bounds.2

/-- The reader of the tokens that start with a code point. -/
theorem readToken_eq (point : Nat) :
    readToken point =
      match charOf point with
      | '\\' => readEscapeToken
      | '[' => fun rest =>
          (readClass rest).map fun (charClass, after) => (.item (.set charClass), after)
      | '(' => readOpening
      | ')' => fun rest => some (.closing, rest)
      | '|' => fun rest => some (.bar, rest)
      | '^' => fun rest => some (.assertion .subjectStart, rest)
      | '$' => fun rest => some (.assertion .subjectEnd, rest)
      | '.' => fun rest => some (.item (.set .dot), rest)
      | '*' => readReluctance 0 none
      | '+' => readReluctance 1 none
      | '?' => readReluctance 0 (some 1)
      | '{' => readCount
      | '}' => fun _ => none
      | ']' => fun _ => none
      | _ => fun rest => some (.item (.set (.ofPoint point)), rest) := by
  funext rest
  unfold readToken
  generalize charOf point = char
  split
  case h_12 =>
    change _ = (readBounds rest).bind _
    cases readBounds rest <;> rfl
  case h_15 => simp only [*]
  all_goals rfl

theorem takes_token (point : Nat) :
    Takes ((Mode.item false).step (charOf point)) (.item false) (readToken point) rest := by
  rw [readToken_eq]
  generalize charOf point = char
  split
  · exact takes_escapeToken rest
  · exact (takes_class rest).map fun charClass => Token.item (.set charClass)
  · exact takes_opening rest
  · exact Takes.some _
  · exact Takes.some _
  · exact Takes.some _
  · exact Takes.some _
  · exact Takes.some _
  · exact takes_reluctance false rest _ _
  · exact takes_reluctance false rest _ _
  · exact takes_reluctance false rest _ _
  · exact takes_count rest
  · exact Takes.none
  · exact Takes.none
  · next notEscape notClass _ _ _ _ _ _ _ _ _ _ _ _ =>
      rw [Mode.step, if_neg notEscape]
      exact (if_neg notClass).symm ▸ Takes.some _

end Readers

/-! ## Cutting patterns -/

/-- A token is taken from the pattern in front of a parenthesis that a scan meets. -/
theorem exists_append_of_cut {mode : Mode} {front taken after behind : List Nat} {paren : Nat}
    (isParen : isParen paren = true) (met : mode.run front = .item false)
    (passed : mode.pass taken = some (.item false))
    (split : front ++ paren :: behind = taken ++ after) :
    ∃ between, front = taken ++ between ∧ after = between ++ paren :: behind ∧
      (Mode.item false).run between = .item false := by
  rcases List.append_eq_append_iff.mp split with ⟨beyond, rfl, beyond_eq⟩ | ⟨between, rfl, rfl⟩
  · cases beyond with
    | nil => exact ⟨[], by rw [List.append_nil, List.append_nil], beyond_eq.symm, rfl⟩
    | cons first beyond =>
        -- the token would go on with the parenthesis
        obtain ⟨rfl, -⟩ := List.cons.inj beyond_eq
        rw [Mode.pass_append] at passed
        obtain ⟨middle, passedFront, passedBeyond⟩ := Option.bind_eq_some_iff.mp passed
        obtain rfl := (Mode.run_of_pass passedFront).symm.trans met
        rw [Mode.pass] at passedBeyond
        exact absurd ((if_pos isParen).symm.trans passedBeyond) (Option.some_ne_none _).symm
  · rw [Mode.run_append, Mode.run_of_pass passed] at met
    exact ⟨between, rfl, rfl, met⟩

/-- A pattern can be cut in front of a parenthesis that a scan meets: its tokens are those of the
front, which stay the same whatever follows the parenthesis, and those of the rest. -/
theorem exists_tokens_of_cut {front behind : List Nat} {paren : Nat} {read : List Token}
    (isParen : isParen paren = true) (met : (Mode.item false).run front = .item false)
    (isRead : tokens (front ++ paren :: behind) = some read) :
    ∃ first, ∀ behind', tokens (front ++ paren :: behind') =
      (tokens (paren :: behind')).map (first ++ ·) := by
  induction length : front.length using Nat.strong_induction_on generalizing front read with
  | _ size ih =>
      cases front with
      | nil => exact ⟨[], fun behind' => (congrFun Option.map_id _).symm⟩
      | cons point front =>
          rw [List.cons_append, tokens_cons] at isRead
          obtain ⟨⟨token, after⟩, isToken, isOthers⟩ := Option.bind_eq_some_iff.mp isRead
          obtain ⟨others, isOthers, -⟩ := Option.map_eq_some_iff.mp isOthers
          obtain ⟨taken, split, passed, again⟩ := takes_token _ point _ _ isToken
          have metBehind : ((Mode.item false).step (charOf point)).run front = .item false := met
          obtain ⟨between, rfl, rfl, met'⟩ :=
            exists_append_of_cut isParen metBehind passed split
          have shorter : between.length < size := by
            simp only [List.length_cons, List.length_append] at length
            omega
          obtain ⟨first, isFirst⟩ := ih _ shorter met' isOthers rfl
          refine ⟨token :: first, fun behind' => ?_⟩
          have isToken' : readToken point (taken ++ between ++ paren :: behind') =
              some (token, between ++ paren :: behind') := by
            rw [List.append_assoc]
            exact again _ ⟨between, paren, behind, behind', isParen, rfl, rfl⟩
          rw [List.cons_append, tokens_cons, isToken', Option.bind_some]
          dsimp only
          rw [isFirst, Option.map_map]
          rfl

end RegexMatching.Backtrack
