import RegexMatching.Proofs.ClassContents
import RegexMatching.Proofs.Starters

/-!
# Character sets in classes

The contents that POSIX classes and shorthand escapes are lowered to hold the code points that the
sets consist of.
-/

namespace RegexMatching.Lowering

open Backtrack PointReader Unicode

/-! ## POSIX classes -/

/-- The names of POSIX classes and their code points. -/
def posixSpans : List (String × List (Nat × Nat)) :=
  [("alpha", [(0x61, 0x7A), (0x41, 0x5A)]),
    ("digit", [(0x30, 0x39)]),
    ("alnum", [(0x61, 0x7A), (0x41, 0x5A), (0x30, 0x39)]),
    ("lower", [(0x61, 0x7A)]),
    ("upper", [(0x41, 0x5A)]),
    ("xdigit", [(0x30, 0x39), (0x41, 0x46), (0x61, 0x66)]),
    ("space", [(0x9, 0xD), (0x20, 0x20)]),
    ("blank", [(0x20, 0x20), (0x9, 0x9)]),
    ("punct", [(0x21, 0x2F), (0x3A, 0x40), (0x5B, 0x60), (0x7B, 0x7E)]),
    ("graph", [(0x21, 0x7E)]),
    ("print", [(0x20, 0x7E)]),
    ("cntrl", [(0x0, 0x1F), (0x7F, 0x7F)]),
    ("ascii", [(0x0, 0x7F)]),
    ("word", [(0x61, 0x7A), (0x41, 0x5A), (0x30, 0x39), (0x5F, 0x5F)])]

/-- Whether a POSIX class holds a code point. -/
def posixHolds (name : Text) (point : Nat) : Bool :=
  (posixSpans.find? fun entry => Text.ofString entry.1 == name).any fun entry =>
    inSpans entry.2 point

/-! ## Spans as contents -/

theorem inSpans_nil (point : Nat) : inSpans [] point = false :=
  rfl

theorem inSpans_cons_iff {span : Nat × Nat} {spans : List (Nat × Nat)} {point : Nat} :
    inSpans (span :: spans) point = true ↔
      span.1 ≤ point ∧ point ≤ span.2 ∨ inSpans spans point = true := by
  rw [inSpans, List.any_cons, Bool.or_eq_true, Bool.and_eq_true, decide_eq_true_eq,
    decide_eq_true_eq, ← inSpans]

section Spans

variable {source more : List Nat} {spans others : List (Nat × Nat)}

theorem isContents_append (front : IsContents source (inSpans spans))
    (back : IsContents more (inSpans others)) :
    IsContents (source ++ more) (inSpans (spans ++ others)) :=
  (front.append back).congr fun _ => List.any_append.symm

theorem isContents_span {first last : Nat} (isFirst : IsAtom source (.point first))
    (isLast : IsAtom more (.point last)) (le : first ≤ last) :
    IsContents (source ++ 0x2D :: more) (inSpans [(first, last)]) :=
  (IsContents.ofRange isFirst isLast le).congr fun _ => (Bool.or_false _).symm

/-- Spans that are written with the characters at their ends. -/
theorem isContents_spans (areSpans : spans.all (fun span =>
      isPlain span.1 && isPlain span.2 && span.1 ≤ span.2) = true) :
    IsContents (spans.flatMap fun span => [span.1, 0x2D, span.2]) (inSpans spans) := by
  refine IsContents.flatMap fun span mem => ?_
  have isSpan := List.all_eq_true.mp areSpans span mem
  simp only [Bool.and_eq_true, decide_eq_true_eq] at isSpan
  exact IsContents.ofRange (isAtom_plain isSpan.1.1) (isAtom_plain isSpan.1.2) isSpan.2

/-- Code points that are written one by one. -/
theorem isContents_points {parts : List (List Nat × Nat)}
    (areAtoms : ∀ part ∈ parts, IsAtom part.1 (.point part.2)) :
    IsContents (parts.flatMap Prod.fst) (inSpans (parts.map fun part => (part.2, part.2))) := by
  refine (IsContents.flatMap fun part mem => IsContents.ofAtom (areAtoms part mem)).congr ?_
  intro point
  rw [inSpans, List.any_map]
  rfl

/-- The same code points in other spans. -/
theorem isContents_congr (isContents : IsContents source (inSpans spans))
    (same : ∀ point, inSpans spans point = true ↔ inSpans others point = true) :
    IsContents source (inSpans others) :=
  isContents.congr fun point => Bool.eq_iff_iff.mpr (same point)

end Spans

theorem isAtom_space : IsAtom [0x20] (.point 0x20) :=
  isAtom_plain rfl

theorem isAtom_tab : IsAtom [0x5C, 0x74] (.point 0x9) :=
  ⟨fun _ => rfl, rfl⟩

theorem isAtom_lineFeed : IsAtom [0x5C, 0x6E] (.point 0xA) :=
  ⟨fun _ => rfl, rfl⟩

theorem isAtom_verticalTab : IsAtom [0x5C, 0x76] (.point 0xB) :=
  ⟨fun _ => rfl, rfl⟩

theorem isAtom_formFeed : IsAtom [0x5C, 0x66] (.point 0xC) :=
  ⟨fun _ => rfl, rfl⟩

theorem isAtom_carriageReturn : IsAtom [0x5C, 0x72] (.point 0xD) :=
  ⟨fun _ => rfl, rfl⟩

theorem isAtom_slash : IsAtom [0x5C, 0x2F] (.point 0x2F) :=
  ⟨fun _ => rfl, rfl⟩

theorem isAtom_bracket : IsAtom [0x5C, 0x5B] (.point 0x5B) :=
  ⟨fun _ => rfl, rfl⟩

/-- A character by two hexadecimal digits. -/
theorem isAtom_byte {first second : Nat} (areDigits : [first, second].all isHexDigit = true) :
    IsAtom [0x5C, 0x78, first, second] (.point (hexValue [first, second])) := by
  refine ⟨fun rest => ?_, rfl⟩
  have isByte : readHexDigits 2 (first :: second :: rest) = some (hexValue [first, second], rest) :=
    if_pos areDigits
  change (readHexDigits 2 (first :: second :: rest)).map _ = _
  rw [isByte]
  rfl

/-- The contents of a POSIX class hold its code points. -/
theorem isContents_posix {name contents : Text} (isClass : posixClass? name = some contents) :
    IsContents contents.points (posixHolds name) := by
  obtain ⟨entry, found, rfl⟩ := Option.map_eq_some_iff.mp isClass
  have isName := List.find?_some found
  rw [beq_iff_eq] at isName
  subst isName
  have mem := List.mem_of_find?_eq_some found
  clear isClass found
  simp only [posixClasses, List.mem_cons, List.not_mem_nil, or_false] at mem
  rcases mem with rfl | rfl | rfl | rfl | rfl | rfl | rfl | rfl | rfl | rfl | rfl | rfl | rfl | rfl
  · exact @isContents_spans [(0x61, 0x7A), (0x41, 0x5A)] rfl
  · exact @isContents_spans [(0x30, 0x39)] rfl
  · exact @isContents_spans [(0x61, 0x7A), (0x41, 0x5A), (0x30, 0x39)] rfl
  · exact @isContents_spans [(0x61, 0x7A)] rfl
  · exact @isContents_spans [(0x41, 0x5A)] rfl
  · exact @isContents_spans [(0x30, 0x39), (0x41, 0x46), (0x61, 0x66)] rfl
  · refine isContents_congr (@isContents_points [([0x20], 0x20), ([0x5C, 0x74], 0x9),
        ([0x5C, 0x6E], 0xA), ([0x5C, 0x72], 0xD), ([0x5C, 0x66], 0xC), ([0x5C, 0x76], 0xB)] ?_) ?_
    · simp [isAtom_space, isAtom_tab, isAtom_lineFeed, isAtom_carriageReturn, isAtom_formFeed,
        isAtom_verticalTab]
    · intro point
      simp only [List.map_cons, List.map_nil, inSpans_cons_iff, inSpans_nil, Bool.false_eq_true,
        or_false]
      omega
  · exact @isContents_points [([0x20], 0x20), ([0x5C, 0x74], 0x9)] (by
      simp [isAtom_space, isAtom_tab])
  · exact isContents_append (isContents_span (isAtom_plain rfl) isAtom_slash (by decide))
      (isContents_append (@isContents_spans [(0x3A, 0x40)] rfl)
        (isContents_append (isContents_span isAtom_bracket (isAtom_plain rfl) (by decide))
          (@isContents_spans [(0x7B, 0x7E)] rfl)))
  · exact @isContents_spans [(0x21, 0x7E)] rfl
  · exact @isContents_spans [(0x20, 0x7E)] rfl
  · exact isContents_append
      (isContents_span (@isAtom_byte 0x30 0x30 rfl) (@isAtom_byte 0x31 0x46 rfl) (by decide))
      (@isContents_points [([0x5C, 0x78, 0x37, 0x46], 0x7F)] (
        List.forall_mem_singleton.mpr (@isAtom_byte 0x37 0x46 rfl)))
  · exact isContents_span (@isAtom_byte 0x30 0x30 rfl) (@isAtom_byte 0x37 0x46 rfl) (by decide)
  · exact isContents_append (@isContents_spans [(0x61, 0x7A), (0x41, 0x5A), (0x30, 0x39)] rfl)
      (@isContents_points [([0x5F], 0x5F)] (by simpa using isAtom_plain rfl))

/-! ## Shorthand escapes -/

/-- The sets that have a shorthand escape. -/
inductive SetEscape where
  | digit
  | word
  | space
  | horizontal
  | vertical
deriving DecidableEq, Repr

namespace SetEscape

/-- The letter of an escape, in upper case for everything that the set does not hold. -/
def letter (isNegated : Bool) : SetEscape → Char
  | digit => if isNegated then 'D' else 'd'
  | word => if isNegated then 'W' else 'w'
  | space => if isNegated then 'S' else 's'
  | horizontal => if isNegated then 'H' else 'h'
  | vertical => if isNegated then 'V' else 'v'

/-- Whether a set holds a code point, by Unicode properties or without them. -/
def holds (unicode : Bool) : SetEscape → Nat → Bool
  | digit, point => if unicode then category point = .nd else inSpans [(0x30, 0x39)] point
  | word, point =>
      if unicode then
        isAlphabetic point || isMark point || category point = .nd || category point = .pc ||
          isJoinControl point
      else
        isAsciiWord point
  | space, point =>
      if unicode then isWhiteSpace point else inSpans [(0x9, 0xD), (0x20, 0x20)] point
  | horizontal, point =>
      inSpans [(0x9, 0x9), (0x20, 0x20), (0xA0, 0xA0), (0x1680, 0x1680), (0x180E, 0x180E),
        (0x2000, 0x200A), (0x202F, 0x202F), (0x205F, 0x205F), (0x3000, 0x3000)] point
  | vertical, point => inSpans [(0xA, 0xD), (0x85, 0x85), (0x2028, 0x2029)] point

/-- The contents that list a set; none for a set that the matcher has an escape for. -/
def listed? (unicode : Bool) : SetEscape → Option Text
  | digit => none
  | word => if unicode then some unicodeWord else none
  | space => if unicode then none else some asciiSpace
  | horizontal => some horizontalSpace
  | vertical => some verticalSpace

/-- The matcher's own escape for a set, and what it is read as. -/
def own? (unicode isNegated : Bool) : SetEscape → Option (Text × ClassItem)
  | digit =>
      some (if unicode then
        (Text.ofString (if isNegated then "P\x7bNd\x7d" else "p\x7bNd\x7d"),
          .property (.categoryIn [.nd]) isNegated)
      else
        (Text.ofString (if isNegated then "D" else "d"), .shorthand .digit isNegated))
  | word =>
      if unicode then none
      else some (Text.ofString (if isNegated then "W" else "w"), .shorthand .word isNegated)
  | space =>
      if unicode then
        some (Text.ofString (if isNegated then "P\x7bWhite_Space\x7d" else "p\x7bWhite_Space\x7d"),
          .property .whiteSpace isNegated)
      else none
  | horizontal => none
  | vertical => none

end SetEscape

/-- Whether a text is not empty and has characters of ASCII only. -/
def isAscii (text : Text) : Bool :=
  !text.isEmpty && text.all (·.toNat < 0x80)

theorem isContents_asciiSpace :
    IsContents asciiSpace.points (SetEscape.space.holds false) := by
  refine isContents_congr (@isContents_points [([0x5C, 0x74], 0x9), ([0x5C, 0x6E], 0xA),
    ([0x5C, 0x76], 0xB), ([0x5C, 0x66], 0xC), ([0x5C, 0x72], 0xD), ([0x20], 0x20)] ?_) ?_
  · simp [isAtom_space, isAtom_tab, isAtom_lineFeed, isAtom_carriageReturn, isAtom_formFeed,
      isAtom_verticalTab]
  · intro point
    simp only [List.map_cons, List.map_nil, inSpans_cons_iff, inSpans_nil, Bool.false_eq_true,
      or_false]
    omega

theorem isContents_verticalSpace (unicode : Bool) :
    IsContents verticalSpace.points (SetEscape.vertical.holds unicode) := by
  refine isContents_congr (@isContents_points [([0x5C, 0x6E], 0xA), ([0x5C, 0x76], 0xB),
    ([0x5C, 0x66], 0xC), ([0x5C, 0x72], 0xD), ([0x5C, 0x75, 0x30, 0x30, 0x38, 0x35], 0x85),
    ([0x5C, 0x75, 0x32, 0x30, 0x32, 0x38], 0x2028),
    ([0x5C, 0x75, 0x32, 0x30, 0x32, 0x39], 0x2029)] ?_) ?_
  · simp only [List.forall_mem_cons, List.not_mem_nil, false_implies, implies_true, and_true]
    exact ⟨isAtom_lineFeed, isAtom_verticalTab, isAtom_formFeed, isAtom_carriageReturn,
      isAtom_unit rfl rfl, isAtom_unit rfl rfl, isAtom_unit rfl rfl⟩
  · intro point
    simp only [List.map_cons, List.map_nil, inSpans_cons_iff, inSpans_nil, Bool.false_eq_true,
      or_false]
    omega

theorem isContents_horizontalSpace (unicode : Bool) :
    IsContents horizontalSpace.points (SetEscape.horizontal.holds unicode) := by
  refine isContents_append (@isContents_points [([0x5C, 0x74], 0x9), ([0x20], 0x20),
    ([0x5C, 0x75, 0x30, 0x30, 0x61, 0x30], 0xA0), ([0x5C, 0x75, 0x31, 0x36, 0x38, 0x30], 0x1680),
    ([0x5C, 0x75, 0x31, 0x38, 0x30, 0x65], 0x180E)] ?_) (isContents_append (isContents_span
    (@isAtom_unit 0x32 0x30 0x30 0x30 rfl rfl) (@isAtom_unit 0x32 0x30 0x30 0x61 rfl rfl)
    (by decide)) (@isContents_points [([0x5C, 0x75, 0x32, 0x30, 0x32, 0x66], 0x202F),
    ([0x5C, 0x75, 0x32, 0x30, 0x35, 0x66], 0x205F),
    ([0x5C, 0x75, 0x33, 0x30, 0x30, 0x30], 0x3000)] ?_))
  · simp only [List.forall_mem_cons, List.not_mem_nil, false_implies, implies_true, and_true]
    exact ⟨isAtom_tab, isAtom_space, isAtom_unit rfl rfl, isAtom_unit rfl rfl,
      isAtom_unit rfl rfl⟩
  · simp only [List.forall_mem_cons, List.not_mem_nil, false_implies, implies_true, and_true]
    exact ⟨isAtom_unit rfl rfl, isAtom_unit rfl rfl, isAtom_unit rfl rfl⟩

theorem isContents_unicodeWord :
    IsContents unicodeWord.points (SetEscape.word.holds true) := by
  have part (name : String) (property : Property) (isRead : ∀ rest, readSetEscape
      ((Text.ofString name).points ++ rest) = some (.property property false, rest)) :
    IsContents (0x5C :: (Text.ofString name).points) property.holds :=
    (IsContents.ofEscape isRead).congr fun _ => Bool.bne_false _
  have whole : unicodeWord.points = 0x5C :: (Text.ofString "p\x7bAlphabetic\x7d").points ++
      (0x5C :: (Text.ofString "p\x7bM\x7d").points ++
        (0x5C :: (Text.ofString "p\x7bNd\x7d").points ++
          (0x5C :: (Text.ofString "p\x7bPc\x7d").points ++
            0x5C :: (Text.ofString "p\x7bJoin_Control\x7d").points))) := by
    decide +kernel
  have letters := part "p\x7bAlphabetic\x7d" .alphabetic fun _ => rfl
  have marks := part "p\x7bM\x7d" (.categoryIn [.mn, .mc, .me]) fun _ => rfl
  have digits := part "p\x7bNd\x7d" (.categoryIn [.nd]) fun _ => rfl
  have connectors := part "p\x7bPc\x7d" (.categoryIn [.pc]) fun _ => rfl
  have joiners := part "p\x7bJoin_Control\x7d" .joinControl fun _ => rfl
  rw [whole]
  refine (letters.append (marks.append (digits.append (connectors.append joiners)))).congr ?_
  intro point
  simp [Property.holds, SetEscape.holds, isMark, Bool.or_assoc]

theorem isContents_of_listed {set : SetEscape} {unicode : Bool} {contents : Text}
    (isListed : set.listed? unicode = some contents) :
    IsContents contents.points (set.holds unicode) := by
  cases set with
  | digit => cases isListed
  | word =>
      cases unicode with
      | false => cases isListed
      | true =>
          cases isListed
          exact isContents_unicodeWord
  | space =>
      cases unicode with
      | false =>
          cases isListed
          exact isContents_asciiSpace
      | true => cases isListed
  | horizontal =>
      cases isListed
      exact isContents_horizontalSpace unicode
  | vertical =>
      cases isListed
      exact isContents_verticalSpace unicode

theorem isAscii_of_listed {set : SetEscape} {unicode : Bool} {contents : Text}
    (isListed : set.listed? unicode = some contents) : isAscii contents = true := by
  cases set <;> cases unicode <;> cases isListed <;> decide

theorem isAscii_of_own {set : SetEscape} {unicode isNegated : Bool} {letters : Text}
    {item : ClassItem} (isOwn : set.own? unicode isNegated = some (letters, item)) :
    isAscii (0x5C :: letters) = true := by
  cases set <;> cases unicode <;> cases isNegated <;> cases isOwn <;> decide

/-- The matcher's own escapes are read as sets, whatever follows. -/
theorem readSetEscape_of_own {set : SetEscape} {unicode isNegated : Bool} {letters : Text}
    {item : ClassItem} (isOwn : set.own? unicode isNegated = some (letters, item))
    (rest : List Nat) : readSetEscape (letters.points ++ rest) = some (item, rest) := by
  cases set <;> cases unicode <;> cases isNegated <;> cases isOwn <;> rfl

theorem contains_of_own {set : SetEscape} {unicode isNegated : Bool} {letters : Text}
    {item : ClassItem} (isOwn : set.own? unicode isNegated = some (letters, item)) (point : Nat) :
    item.contains false point = (set.holds unicode point != isNegated) := by
  cases set <;> cases unicode <;> cases isOwn <;>
    simp [ClassItem.contains, Shorthand.contains, Property.holds, SetEscape.holds, isWord, inSpans]

/-! ## Escapes in classes and outside of them -/

/-- The code points of a class. -/
theorem points_class (isNegated : Bool) (contents : Text) :
    (if isNegated then negated contents else bracketed contents).points =
      0x5B :: ((if isNegated then [0x5E] else []) ++ (contents.points ++ [0x5D])) := by
  have closed : Text.points (contents ++ Text.ofString "]") = contents.points ++ [0x5D] :=
    Text.points_append_of_not_low contents (by decide) []
  cases isNegated with
  | false =>
      change Text.points (0x5B :: (contents ++ Text.ofString "]")) = _
      rw [Text.points_cons_of_not_high (by decide), closed]
      rfl
  | true =>
      change Text.points (0x5B :: 0x5E :: (contents ++ Text.ofString "]")) = _
      rw [Text.points_cons_of_not_high (by decide), Text.points_cons_of_not_high (by decide),
        closed]
      rfl

namespace SetEscape

section Lowering

variable {options : Options} {isNegated : Bool} {set : SetEscape}

theorem fixedEscape?_of_own {letters : Text} {item : ClassItem}
    (isOwn : set.own? options.unicodeClasses isNegated = some (letters, item)) (inClass : Bool) :
    fixedEscape? options inClass (set.letter isNegated) = some (.ok (0x5C :: letters)) := by
  have ofDigit : fixedEscape? options inClass (digit.letter isNegated) =
      some (.ok (Text.ofString (if options.unicodeClasses then
        if isNegated then "\\P\x7bNd\x7d" else "\\p\x7bNd\x7d"
      else if isNegated then "\\D" else "\\d"))) := by
    cases isNegated <;> rfl
  cases set with
  | digit =>
      rw [ofDigit]
      cases unicode : options.unicodeClasses <;> rw [unicode] at isOwn <;> cases isNegated <;>
        cases isOwn <;> rfl
  | word =>
      obtain ⟨_, _, _, _, _, unicode, _⟩ := options
      cases unicode <;> cases isNegated <;> cases isOwn <;> rfl
  | space =>
      obtain ⟨_, _, _, _, _, unicode, _⟩ := options
      cases unicode <;> cases isNegated <;> cases isOwn <;> rfl
  | horizontal => cases isOwn
  | vertical => cases isOwn

theorem fixedEscape?_of_listed {contents : Text}
    (isListed : set.listed? options.unicodeClasses = some contents) :
    fixedEscape? options false (set.letter isNegated) =
      some (.ok (if isNegated then negated contents else bracketed contents)) := by
  obtain ⟨_, _, _, _, _, unicode, _⟩ := options
  cases set <;> cases unicode <;> cases isNegated <;> cases isListed <;> rfl

theorem own?_of_listed? (notListed : set.listed? options.unicodeClasses = none) :
    ∃ letters item, set.own? options.unicodeClasses isNegated = some (letters, item) := by
  have isSome : (set.own? options.unicodeClasses isNegated).isSome = true := by
    cases set <;> cases unicode : options.unicodeClasses <;> rw [unicode] at notListed <;>
      first | rfl | cases notListed
  obtain ⟨⟨letters, item⟩, isOwn⟩ := Option.isSome_iff_exists.mp isSome
  exact ⟨letters, item, isOwn⟩

end Lowering

variable (options : Options) (isNegated : Bool) (set : SetEscape)

/-- Whether an escape holds a code point outside of classes. -/
def holdsAlone (point : Nat) : Bool :=
  set.holds options.unicodeClasses point != isNegated

/-- Whether an escape is the one for what is no ASCII space. -/
def isNoSpace : Bool :=
  set = .space && isNegated && !options.unicodeClasses

/-- Whether an escape holds a code point in a class.  What is no ASCII space is told there by the
matcher's own escape, which takes more to be a space. -/
def holdsInClass (point : Nat) : Bool :=
  if set.isNoSpace options isNegated then !isSpace point
  else set.holdsAlone options isNegated point

/-- Whether an escape is refused in a class. -/
def isRefused : Bool :=
  isNegated && (set = .horizontal || set = .vertical || set = .word && options.unicodeClasses)

/-- Outside of classes, an escape is lowered to an expression for what it holds. -/
theorem isSet_fixedEscape : ∃ source,
    fixedEscape? options false (set.letter isNegated) = some (.ok source) ∧
      IsSet source.points (set.holdsAlone options isNegated) := by
  cases isListed : set.listed? options.unicodeClasses with
  | some contents =>
      refine ⟨_, fixedEscape?_of_listed isListed, ?_⟩
      rw [points_class]
      exact (isContents_of_listed isListed).isSet isNegated
  | none =>
      obtain ⟨letters, item, isOwn⟩ := @own?_of_listed? _ isNegated _ isListed
      refine ⟨_, fixedEscape?_of_own isOwn false, ?_⟩
      have isRead := readSetEscape_of_own isOwn []
      rw [List.append_nil] at isRead
      rw [Text.points_cons_of_not_high (by decide)]
      exact (isSet_of_escape isRead).congr (contains_of_own isOwn)

variable {options isNegated set}

theorem holdsInClass_of_isNoSpace (isNoSpace : set.isNoSpace options isNegated = true) :
    set.holdsInClass options isNegated = fun point => !isSpace point :=
  funext fun _ => if_pos isNoSpace

theorem holdsInClass_of_not_isNoSpace (notNoSpace : set.isNoSpace options isNegated = false) :
    set.holdsInClass options isNegated = set.holdsAlone options isNegated :=
  funext fun _ => if_neg (Bool.eq_false_iff.mp notNoSpace)

/-- The matcher's own escapes are those that are lowered alike in a class. -/
theorem accepted_of_own {letters : Text} {item : ClassItem}
    (isOwn : set.own? options.unicodeClasses isNegated = some (letters, item)) :
    set.isRefused options isNegated = false ∧ set.isNoSpace options isNegated = false := by
  rw [isRefused, isNoSpace]
  cases unicode : options.unicodeClasses <;> rw [unicode] at isOwn <;> cases set <;>
    cases isOwn <;> simp

/-- A list is written in a class as it is. -/
theorem fixedEscape?_in_class {contents : Text}
    (isListed : set.listed? options.unicodeClasses = some contents) :
    fixedEscape? options true (set.letter false) = some (.ok contents) := by
  obtain ⟨_, _, _, _, _, unicode, _⟩ := options
  cases set <;> cases unicode <;> cases isListed <;> rfl

variable (options isNegated set)

/-- In a class, an escape is refused or lowered to contents for what it holds there. -/
theorem isContents_fixedEscape :
    if set.isRefused options isNegated then
      ∃ cause, fixedEscape? options true (set.letter isNegated) = some (.error cause)
    else
      ∃ contents, fixedEscape? options true (set.letter isNegated) = some (.ok contents) ∧
        isAscii contents = true ∧
        IsContents contents.points (set.holdsInClass options isNegated) := by
  cases isListed : set.listed? options.unicodeClasses with
  | none =>
      obtain ⟨letters, item, isOwn⟩ := @own?_of_listed? _ isNegated _ isListed
      obtain ⟨accepted, notNoSpace⟩ := accepted_of_own isOwn
      rw [accepted, if_neg Bool.false_ne_true]
      refine ⟨_, fixedEscape?_of_own isOwn true, isAscii_of_own isOwn, ?_⟩
      rw [Text.points_cons_of_not_high (by decide), holdsInClass_of_not_isNoSpace notNoSpace]
      exact (IsContents.ofEscape (readSetEscape_of_own isOwn)).congr (contains_of_own isOwn)
  | some contents =>
      cases isNegated with
      | false =>
          have notNoSpace : set.isNoSpace options false = false := by simp [isNoSpace]
          rw [isRefused, Bool.false_and, if_neg Bool.false_ne_true,
            holdsInClass_of_not_isNoSpace notNoSpace]
          refine ⟨contents, fixedEscape?_in_class isListed, isAscii_of_listed isListed, ?_⟩
          exact (isContents_of_listed isListed).congr fun _ => (Bool.bne_false _).symm
      | true =>
          obtain ⟨_, _, _, _, _, unicode, _⟩ := options
          cases set with
          | digit => cases isListed
          | word =>
              cases unicode with
              | false => cases isListed
              | true => exact ⟨_, rfl⟩
          | space =>
              cases unicode with
              | true => cases isListed
              | false =>
                  refine ⟨Text.ofString "\\S", rfl, by decide, ?_⟩
                  rw [holdsInClass_of_isNoSpace rfl]
                  have isRead (rest : List Nat) : readSetEscape ([0x53] ++ rest) =
                      some (.shorthand .space true, rest) := rfl
                  exact (IsContents.ofEscape isRead).congr fun _ => Bool.bne_true _
          | horizontal => exact ⟨_, rfl⟩
          | vertical => exact ⟨_, rfl⟩

end SetEscape

end RegexMatching.Lowering
