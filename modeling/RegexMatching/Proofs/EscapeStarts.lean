import RegexMatching.Proofs.TokenReach

/-!
# Where escapes start

A backslash that a scan meets between two items starts a token: no reader that has begun in front
of it goes over it, unless it takes the second half of a Unicode escape or an escape in a name,
both of which have a `u` behind the backslash.  So a pattern can be cut in front of every other
backslash that a scan meets there, and its tokens are those of the two parts.
-/

namespace RegexMatching.Backtrack

open PointReader

variable {α β : Type}

/-! ## Ways of a scan -/

/-- The way of a scan from one mode to another, on which no backslash is met between items
without a `u` behind it. -/
inductive Mode.Crosses : Mode → List Nat → Mode → Prop
  | nil (mode : Mode) : Crosses mode [] mode
  | cons {mode final : Mode} {point : Nat} {rest : List Nat}
      (isUnicode : mode = .item false → charOf point = '\\' → startsWith 'u' rest = true)
      (crosses : Crosses (mode.step (charOf point)) rest final) :
      Crosses mode (point :: rest) final

namespace Mode.Crosses

variable {mode middle final : Mode} {first second : List Nat}

theorem append (crosses : mode.Crosses first middle) (others : middle.Crosses second final) :
    mode.Crosses (first ++ second) final := by
  induction crosses with
  | nil => exact others
  | @cons mode middle point rest isUnicode _ ih =>
      refine .cons (fun isItem isBackslash => ?_) (ih others)
      have starts := isUnicode isItem isBackslash
      cases rest with
      | nil => contradiction
      | cons next rest => exact starts

/-- Points that change nothing. -/
theorem of_all (stays : ∀ point ∈ first, mode.step (charOf point) = mode) :
    mode.Crosses first mode := by
  induction first with
  | nil => exact .nil mode
  | cons point rest ih =>
      have same := stays point List.mem_cons_self
      refine .cons (fun isItem isBackslash => ?_) ?_
      · rw [isItem, isBackslash] at same
        contradiction
      · rw [same]
        exact ih fun other member => stays other (List.mem_cons_of_mem _ member)

theorem run_eq (crosses : mode.Crosses first final) : mode.run first = final := by
  induction crosses with
  | nil => rfl
  | cons _ _ ih => exact ih

/-- Behind a backslash that is met between items there is a `u`. -/
theorem startsWith_of_met {front behind : List Nat}
    (crosses : mode.Crosses (front ++ 0x5C :: behind) final) (met : mode.run front = .item false) :
    startsWith 'u' behind = true := by
  induction front generalizing mode with
  | nil =>
      cases crosses with
      | cons isUnicode _ => exact isUnicode met rfl
  | cons point front ih =>
      cases crosses with
      | cons _ crosses => exact ih crosses met

end Mode.Crosses

/-! ## What readers cross -/

/-- What a reading takes off a pattern is crossed by a scan on its way from one mode to another. -/
def Crossing (mode final : Mode) (rest : List Nat) (reading : Reader α) : Prop :=
  ∀ value after, reading = some (value, after) →
    ∃ taken, rest = taken ++ after ∧ mode.Crosses taken final

namespace Crossing

variable {mode middle final : Mode} {rest : List Nat} {reading other : Reader α}

theorem none : Crossing mode final rest (none : Reader α) :=
  fun _ _ isRead => nomatch isRead

theorem some (value : α) : Crossing mode mode rest (some (value, rest)) := by
  intro value' after isRead
  cases isRead
  exact ⟨[], rfl, .nil mode⟩

theorem bind {next : α × List Nat → Reader β} (first : Crossing mode middle rest reading)
    (second : ∀ value after, reading = Option.some (value, after) →
      Crossing middle final after (next (value, after))) :
    Crossing mode final rest (reading.bind next) := by
  intro value after isRead
  obtain ⟨⟨value', between⟩, isFirst, isSecond⟩ := Option.bind_eq_some_iff.mp isRead
  obtain ⟨taken, rfl, crosses⟩ := first _ _ isFirst
  obtain ⟨taken', rfl, crosses'⟩ := second _ _ isFirst _ _ isSecond
  exact ⟨taken ++ taken', (List.append_assoc ..).symm, crosses.append crosses'⟩

theorem map (first : Crossing mode final rest reading) (change : α → β) :
    Crossing mode final rest (reading.map fun (value, after) => (change value, after)) := by
  intro value after isRead
  obtain ⟨⟨value', after'⟩, isRead', same⟩ := Option.map_eq_some_iff.mp isRead
  obtain ⟨rfl, rfl⟩ := Prod.mk.inj same
  exact first _ _ isRead'

theorem filter (first : Crossing mode final rest reading) (test : α × List Nat → Bool) :
    Crossing mode final rest (reading.filter test) :=
  fun value after isRead => first value after (Option.filter_eq_some_iff.mp isRead).1

theorem or (first : Crossing mode final rest reading) (second : Crossing mode final rest other) :
    Crossing mode final rest (reading.or other) := by
  intro value after isRead
  rcases Option.or_eq_some_iff.mp isRead with isFirst | ⟨-, isSecond⟩
  · exact first _ _ isFirst
  · exact second _ _ isSecond

/-- A character that is no backslash, and what is read behind it. -/
theorem drop_one {char : Char} (notEscape : char ≠ '\\') (starts : startsWith char rest = true)
    (behind : Crossing (mode.step char) final (rest.drop 1) reading) :
    Crossing mode final rest reading := by
  intro value after isRead
  obtain ⟨taken, rest_eq, crosses⟩ := behind value after isRead
  cases rest with
  | nil => contradiction
  | cons point rest =>
      obtain rfl : charOf point = char := beq_iff_eq.mp starts
      obtain rfl : rest = taken ++ after := rest_eq
      exact ⟨point :: taken, rfl, .cons (fun _ isEscape => absurd isEscape notEscape) crosses⟩

/-- A backslash in a class, and what is read behind it. -/
theorem drop_escape (starts : startsWith '\\' rest = true)
    (behind : Crossing (.escape true) final (rest.drop 1) reading) :
    Crossing (.item true) final rest reading := by
  intro value after isRead
  obtain ⟨taken, rest_eq, crosses⟩ := behind value after isRead
  cases rest with
  | nil => contradiction
  | cons point rest =>
      have isBackslash : charOf point = '\\' := beq_iff_eq.mp starts
      obtain rfl : rest = taken ++ after := rest_eq
      refine ⟨point :: taken, rfl, .cons (fun isItem => ?_) ?_⟩
      · cases isItem
      · rw [isBackslash]
        exact crosses

/-- The beginning of a Unicode escape, and what is read behind it. -/
theorem drop_unicode {inClass : Bool} (isBackslash : startsWith '\\' rest = true)
    (isLetter : startsWith 'u' (rest.drop 1) = true)
    (behind : Crossing (.item inClass) final (rest.drop 2) reading) :
    Crossing (.item inClass) final rest reading := by
  intro value after isRead
  obtain ⟨taken, rest_eq, crosses⟩ := behind value after isRead
  rcases rest with _ | ⟨backslash, _ | ⟨letter, rest⟩⟩
  · contradiction
  · contradiction
  · obtain rfl : rest = taken ++ after := rest_eq
    replace isBackslash : charOf backslash = '\\' := beq_iff_eq.mp isBackslash
    replace isLetter : charOf letter = 'u' := beq_iff_eq.mp isLetter
    refine ⟨backslash :: letter :: taken, rfl, .cons (fun _ _ => ?_) (.cons ?_ ?_)⟩
    · exact beq_iff_eq.mpr isLetter
    · rw [isBackslash]
      intro isItem
      cases isItem
    · rw [isBackslash, isLetter]
      exact crosses

/-- A point that has a value. -/
theorem head {inClass : Bool} {value? : Nat → Option α}
    (steps : ∀ point value, rest.head? = Option.some point → value? point = Option.some value →
      mode.step (charOf point) = .item inClass) :
    Crossing mode (.item inClass) rest
      ((rest.head?.bind value?).map fun value => (value, rest.drop 1)) := by
  intro value after isRead
  obtain ⟨value', isValue, same⟩ := Option.map_eq_some_iff.mp isRead
  obtain ⟨rfl, rfl⟩ := Prod.mk.inj same
  obtain ⟨point, isHead, isValue⟩ := Option.bind_eq_some_iff.mp isValue
  have stepped := steps point value' isHead isValue
  obtain ⟨rest, rfl⟩ := List.head?_eq_some_iff.mp isHead
  refine ⟨[point], rfl, .cons (fun isItem isBackslash => ?_) (stepped ▸ .nil _)⟩
  rw [isItem, isBackslash] at stepped
  cases stepped

/-- The points at the front that pass a test. -/
theorem takeWhile {test : Nat → Bool}
    (stays : ∀ point, test point = true → mode.step (charOf point) = mode) :
    Crossing mode mode rest
      (Option.some (rest.takeWhile test, rest.drop (rest.takeWhile test).length)) := by
  intro value after isRead
  obtain ⟨rfl, rfl⟩ := Prod.mk.inj (Option.some.inj isRead)
  exact ⟨rest.takeWhile test, (List.prefix_iff_eq_append.mp (List.takeWhile_prefix test)).symm,
    .of_all fun point member => stays point (List.mem_takeWhile_imp member)⟩

end Crossing

/-! ## Readers -/

section Readers

variable (inClass : Bool) (rest : List Nat)

theorem crossing_hexDigits (count : Nat) :
    Crossing (.item inClass) (.item inClass) rest (readHexDigits count rest) := by
  intro value after isRead
  obtain ⟨digits, rest_eq, areDigits, -⟩ := exists_digits_of_readHexDigits isRead
  exact ⟨digits, rest_eq, .of_all fun point member =>
    (Mode.stays_of_test isHexDigit_mark inClass point (areDigits point member)).1⟩

theorem crossing_bracedPoint :
    Crossing (.item inClass) (.item inClass) rest (readBracedPoint rest) := by
  rw [readBracedPoint_eq]
  refine Crossing.bind (.takeWhile fun point isDigit =>
    (Mode.stays_of_test isHexDigit_mark inClass point isDigit).1) fun digits after _ => ?_
  dsimp only
  split
  · next isClosed =>
      simp only [Bool.and_eq_true] at isClosed
      refine .drop_one (by decide) isClosed.1.2 ?_
      cases inClass <;> exact .some _
  · exact .none

theorem crossing_lowEscape :
    Crossing (.item inClass) (.item inClass) rest (readLowEscape rest) := by
  rw [readLowEscape]
  split
  · next marks =>
      obtain ⟨isBackslash, isLetter⟩ := Bool.and_eq_true_iff.mp marks
      exact .drop_unicode isBackslash isLetter ((crossing_hexDigits inClass _ 4).filter _)
  · exact .none

theorem crossing_unicodePoint :
    Crossing (.item inClass) (.item inClass) rest (readUnicodePoint rest) := by
  rw [readUnicodePoint_eq]
  split
  · next isBraced =>
      refine .drop_one (by decide) isBraced ?_
      cases inClass <;> exact crossing_bracedPoint _ _
  · refine (crossing_hexDigits inClass rest 4).bind fun high after _ => .or ?_ (.some high)
    dsimp only
    split
    · exact (crossing_lowEscape inClass after).map _
    · exact .none

/-! ### Escapes -/

theorem crossing_property (isNegated : Bool) :
    Crossing (.property inClass) (.item inClass) rest (readProperty isNegated rest) := by
  rw [readProperty_eq]
  split
  · next isOpened =>
      refine .drop_one (by decide) isOpened ?_
      refine Crossing.bind (.takeWhile fun point notBrace =>
        if_neg (bne_iff_ne.mp notBrace)) fun name after _ => ?_
      dsimp only
      split
      · next isClosed =>
          refine .drop_one (by decide) isClosed ?_
          rw [readPropertyItem]
          cases propertyOf? name with
          | none => exact .none
          | some property => exact .some _
      · exact .none
  · exact .none

theorem crossing_setEscape :
    Crossing (.escape inClass) (.item inClass) rest (readSetEscape rest) := by
  rw [readSetEscape_eq]
  split
  · next isLower => exact .drop_one (by decide) isLower (crossing_property inClass _ _)
  split
  · next isUpper => exact .drop_one (by decide) isUpper (crossing_property inClass _ _)
  next notLower notUpper =>
    refine Crossing.head fun point item isHead _ => if_neg ?_
    rw [startsWith_of_head? isHead, beq_iff_eq] at notLower notUpper
    exact not_or.mpr ⟨notLower, notUpper⟩

theorem crossing_pointEscape :
    Crossing (.escape inClass) (.item inClass) rest (readPointEscape rest) := by
  rw [readPointEscape_eq]
  split
  · next isZero =>
      refine .drop_one (by decide) isZero ?_
      rw [readNul]
      split
      · exact .none
      · exact .some 0
  split
  · next isControl =>
      refine .drop_one (by decide) isControl (Crossing.head fun letter value _ isValue => ?_)
      split at isValue
      · next isLetter =>
          exact (@Mode.stays_of_test (fun point => (charOf point).isAlpha) isAlpha_mark inClass
            letter isLetter).1
      · contradiction
  split
  · next isByte => exact .drop_one (by decide) isByte (crossing_hexDigits inClass _ 2)
  split
  · next isUnicode => exact .drop_one (by decide) isUnicode (crossing_unicodePoint inClass _)
  refine Crossing.head fun point value _ isValue => if_neg ?_
  rintro (isP | isP) <;>
    · rw [simpleEscape?, ← toNat_of_charOf (by decide) isP] at isValue
      contradiction

/-! ### Names -/

theorem crossing_namePart :
    Crossing (.item inClass) (.item inClass) rest (readNamePart rest) := by
  rw [readNamePart_eq]
  split
  · next isBackslash =>
      refine Crossing.filter ?_ _
      rw [readNameEscape]
      split
      · next isLetter =>
          refine .drop_unicode isBackslash isLetter ?_
          rw [List.drop_drop]
          exact crossing_unicodePoint inClass _
      · exact .none
  · refine Crossing.head fun point value _ isPart => ?_
    split at isPart
    · next isNamePart => exact (Mode.stays_of_test isNamePart_mark inClass point isNamePart).1
    · contradiction

theorem crossing_nameParts :
    Crossing (.item inClass) (.item inClass) rest (readNameParts rest) := by
  induction length : rest.length using Nat.strong_induction_on generalizing rest with
  | _ size ih =>
      rw [readNameParts_eq]
      split
      · next isClosed =>
          refine .drop_one (by decide) isClosed ?_
          cases inClass <;> exact .some _
      · refine (crossing_namePart inClass rest).bind fun point after isPoint => ?_
        have shorter := length_of_readNamePoint (Option.filter_eq_some_iff.mp isPoint).1
        exact (ih _ (length ▸ shorter) after rfl).map _

theorem crossing_name : Crossing (.item inClass) (.item inClass) rest (readName rest) := by
  rw [readName_eq]
  exact (crossing_nameParts inClass rest).filter _

/-! ### Classes -/

theorem crossing_atomPoint :
    Crossing (.escape inClass) (.item inClass) rest (readAtomPoint rest) := by
  rw [readAtomPoint]
  split
  · next isLetter => exact .drop_one (by decide) isLetter (.some _)
  split
  · next isDash => exact .drop_one (by decide) isDash (.some _)
  exact (crossing_pointEscape inClass rest).map _

theorem crossing_classAtom (goesOn : startsWith ']' rest = false) :
    Crossing (.item true) (.item true) rest (readClassAtom rest) := by
  rw [readClassAtom_eq]
  split
  · next isBackslash =>
      exact .drop_escape isBackslash
        (((crossing_setEscape true _).map _).or (crossing_atomPoint true _))
  · next notBackslash =>
      refine Crossing.head fun point atom isHead _ => ?_
      rw [startsWith_of_head? isHead] at goesOn notBackslash
      rw [Mode.step, if_neg (mt beq_iff_eq.mpr notBackslash)]
      exact if_neg (beq_eq_false_iff_ne.mp goesOn)

theorem crossing_classItems : Crossing (.item true) (.item false) rest (readClassItems rest) := by
  induction length : rest.length using Nat.strong_induction_on generalizing rest with
  | _ size ih =>
      rw [readClassItems_eq]
      split
      · next isClosed => exact .drop_one (by decide) isClosed (.some _)
      · next goesOn =>
          refine (crossing_classAtom rest (Bool.eq_false_iff.mpr goesOn)).bind
            fun atom after isAtom => ?_
          have shorter := length_of_readClassAtom isAtom
          dsimp only
          split
          · next isRange =>
              obtain ⟨isDash, goesOn⟩ := Bool.and_eq_true_iff.mp isRange
              refine .drop_one (by decide) isDash ?_
              refine (crossing_classAtom _ (Bool.not_eq_true' _ |>.mp goesOn)).bind
                fun bound behind isBound => ?_
              have shorterStill := length_of_readClassAtom isBound
              rw [List.length_drop] at shorterStill
              have others := ih _ (by omega) behind rfl
              dsimp only
              split
              · split
                · exact others.map _
                · exact .none
              · exact .none
          · exact (ih _ (length ▸ shorter) after rfl).map _

theorem crossing_class : Crossing (.item true) (.item false) rest (readClass rest) := by
  rw [readClass]
  dsimp only
  split
  · next isNegated => exact .drop_one (by decide) isNegated ((crossing_classItems _).map _)
  · exact (crossing_classItems rest).map _

/-! ### Tokens -/

theorem crossing_brace (value? : Option α) :
    Crossing (.item false) (.item false) rest (readBrace value? rest) := by
  rw [readBrace]
  split
  · next isClosed =>
      refine .drop_one (by decide) isClosed ?_
      cases value? with
      | none => exact .none
      | some value => exact .some value
  · exact .none

theorem crossing_digits :
    Crossing (.item inClass) (.item inClass) rest
      (some (rest.takeWhile isDigit, rest.drop (rest.takeWhile isDigit).length)) :=
  .takeWhile fun point isNumber => (Mode.stays_of_test isDigit_mark inClass point isNumber).1

theorem crossing_bounds : Crossing (.item false) (.item false) rest (readBounds rest) := by
  rw [readBounds_eq]
  refine (crossing_digits false rest).bind fun digits after _ => ?_
  dsimp only
  split
  · exact .none
  split
  · next isClosed => exact .drop_one (by decide) isClosed (.some _)
  split
  · next goesOn =>
      refine .drop_one (by decide) goesOn ?_
      exact (crossing_digits false _).bind fun _ behind _ => crossing_brace behind _
  · exact .none

theorem crossing_reluctance (least : Nat) (most : Option Nat) :
    Crossing (.item false) (.item false) rest (readReluctance least most rest) := by
  rw [readReluctance]
  split
  · next isReluctant => exact .drop_one (by decide) isReluctant (.some _)
  · exact .some _

theorem crossing_opening : Crossing (.item false) (.item false) rest (readOpening rest) := by
  have angle : ∀ rest, Crossing (.item false) (.item false) rest (readAngleOpening rest) := by
    intro rest
    rw [readAngleOpening]
    split
    · next isMark => exact .drop_one (by decide) isMark (.some _)
    split
    · next isMark => exact .drop_one (by decide) isMark (.some _)
    exact (crossing_name false rest).map fun name => Token.opening (.capture (some name))
  rw [readOpening_eq_ite]
  split
  · next isMarked =>
      refine .drop_one (by decide) isMarked ?_
      rw [readMarkedOpening]
      split
      · next isMark => exact .drop_one (by decide) isMark (.some _)
      split
      · next isMark => exact .drop_one (by decide) isMark (.some _)
      split
      · next isMark => exact .drop_one (by decide) isMark (.some _)
      split
      · next isMark => exact .drop_one (by decide) isMark (angle _)
      exact .none
  · exact .some _

theorem crossing_groupNumber :
    Crossing (.escape inClass) (.item inClass) rest (readGroupNumber rest) := by
  rw [readGroupNumber]
  have first : Crossing (.escape inClass) (.item inClass) rest
      ((rest.head?.bind fun point => if isDigit point then some point else none).map
        fun first => (first, rest.drop 1)) := by
    refine .head fun point value _ isNumber => if_neg ?_
    rintro (isP | isP) <;>
      · rw [← toNat_of_charOf (by decide) isP] at isNumber
        contradiction
  exact first.bind fun first after _ => (crossing_digits inClass after).map
    fun digits => Token.reference (decimalValue (first :: digits))

theorem crossing_escapeToken :
    Crossing (.escape false) (.item false) rest (readEscapeToken rest) := by
  rw [readEscapeToken_eq_or]
  refine .or ((crossing_setEscape false rest).map fun item => Token.item (.set (.ofItem item))) ?_
  rw [readOtherEscape]
  split
  · next isLetter => exact .drop_one (by decide) isLetter (.some _)
  split
  · next isLetter => exact .drop_one (by decide) isLetter (.some _)
  split
  · next marks =>
      obtain ⟨isLetter, isAngle⟩ := Bool.and_eq_true_iff.mp marks
      refine .drop_one (by decide) isLetter (.drop_one (by decide) isAngle ?_)
      exact (crossing_name false _).map _
  split
  · exact crossing_groupNumber false rest
  · exact (crossing_pointEscape false rest).map fun point => Token.item (.set (.ofPoint point))

theorem crossing_count : Crossing (.item false) (.item false) rest (readCount rest) :=
  (crossing_bounds rest).bind fun bounds after _ => crossing_reluctance after bounds.1 bounds.2

theorem crossing_token (point : Nat) :
    Crossing ((Mode.item false).step (charOf point)) (.item false) rest (readToken point rest) := by
  rw [readToken_eq]
  generalize charOf point = char
  split
  · exact crossing_escapeToken rest
  · exact (crossing_class rest).map fun charClass => Token.item (.set charClass)
  · exact crossing_opening rest
  · exact .some _
  · exact .some _
  · exact .some _
  · exact .some _
  · exact .some _
  · exact crossing_reluctance rest _ _
  · exact crossing_reluctance rest _ _
  · exact crossing_reluctance rest _ _
  · exact crossing_count rest
  · exact .none
  · exact .none
  · next notEscape notClass _ _ _ _ _ _ _ _ _ _ _ _ =>
      rw [Mode.step, if_neg notEscape]
      exact (if_neg notClass).symm ▸ .some _

end Readers

/-! ## Cutting patterns in front of escapes -/

/-- Tokens in a row, from a pattern to what they leave of it. -/
inductive TokenRun : List Nat → List Token → List Nat → Prop
  | nil (pattern : List Nat) : TokenRun pattern [] pattern
  | cons {point : Nat} {rest after behind : List Nat} {token : Token} {others : List Token}
      (isToken : readToken point rest = some (token, after))
      (run : TokenRun after others behind) : TokenRun (point :: rest) (token :: others) behind

/-- Behind a run, reading goes on where the run ends. -/
theorem TokenRun.tokens_eq {pattern behind : List Nat} {read : List Token}
    (run : TokenRun pattern read behind) : tokens pattern = (tokens behind).map (read ++ ·) := by
  induction run with
  | nil pattern => exact (congrFun Option.map_id (tokens pattern)).symm
  | cons isToken _ ih =>
      rw [tokens_cons, isToken, Option.bind_some]
      dsimp only
      rw [ih, Option.map_map]
      rfl

/-- A pattern that can be read is read by a run up to a backslash that a scan meets between items,
unless a `u` follows. -/
theorem exists_tokenRun_of_cut {front behind : List Nat} {read : List Token}
    (met : (Mode.item false).run front = .item false) (notUnicode : startsWith 'u' behind = false)
    (isRead : tokens (front ++ 0x5C :: behind) = some read) :
    ∃ first others, TokenRun (front ++ 0x5C :: behind) first (0x5C :: behind) ∧
      tokens (0x5C :: behind) = some others ∧ read = first ++ others := by
  induction length : front.length using Nat.strong_induction_on generalizing front read with
  | _ size ih =>
      cases front with
      | nil => exact ⟨[], read, .nil _, isRead, rfl⟩
      | cons point front =>
          rw [List.cons_append, tokens_cons] at isRead
          obtain ⟨⟨token, after⟩, isToken, areOthers⟩ := Option.bind_eq_some_iff.mp isRead
          obtain ⟨others, isOthers, rfl⟩ := Option.map_eq_some_iff.mp areOthers
          obtain ⟨taken, split, crosses⟩ := crossing_token _ point _ _ isToken
          have metBehind : ((Mode.item false).step (charOf point)).run front = .item false := met
          -- the token ends in front of the backslash
          obtain ⟨between, rfl, rfl⟩ : ∃ between, front = taken ++ between ∧
              after = between ++ 0x5C :: behind := by
            rcases List.append_eq_append_iff.mp split with ⟨beyond, rfl, beyond_eq⟩ | between
            · cases beyond with
              | nil => exact ⟨[], by simp, beyond_eq.symm⟩
              | cons first beyond =>
                  obtain ⟨rfl, rfl⟩ := List.cons.inj beyond_eq
                  have starts := crosses.startsWith_of_met metBehind
                  cases beyond with
                  | nil => contradiction
                  | cons next beyond => exact absurd starts (Bool.eq_false_iff.mp notUnicode)
            · exact between
          have met' : (Mode.item false).run between = .item false := by
            rwa [Mode.run_append, crosses.run_eq] at metBehind
          have shorter : between.length < size := by
            simp only [List.length_cons, List.length_append] at length
            omega
          obtain ⟨first, others', run, isBehind, rfl⟩ := ih _ shorter met' isOthers rfl
          exact ⟨token :: first, others', .cons isToken run, isBehind, rfl⟩

end RegexMatching.Backtrack
