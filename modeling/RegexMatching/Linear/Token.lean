import RegexMatching.Linear.Expression
import RegexMatching.Text.PointReader

/-!
# Tokens of linear-time pattern syntax

A pattern is read as code points.  What a token means may depend on flags that
the pattern sets on the way, so tokens say what was written, and flags are applied
when tokens are put together.
-/

namespace RegexMatching.Linear

open RegexMatching.PointReader

/-- How a group changes the flags: those set on, those set off, and the others. -/
structure FlagChange where
  caseless : Option Bool := none
  multiline : Option Bool := none
  dotAll : Option Bool := none
  /-- Quantifiers are reluctant unless marked. -/
  reluctant : Option Bool := none
deriving DecidableEq, Repr

/-- What a parenthesis opens. -/
inductive GroupKind where
  | capture (name : Option (List Nat))
  | plain (change : FlagChange)
deriving DecidableEq, Repr

/-- A token. -/
inductive Token where
  | set (isNegated : Bool) (items : List RuneItem)
  | dot
  | lineStart
  | lineEnd
  | assertion (assertion : Assertion)
  | opening (kind : GroupKind)
  | closing
  | bar
  | flags (change : FlagChange)
  | quantifier (count : Count) (isMarked : Bool)
  /-- Quoted text without a character. -/
  | emptyQuote
  /-- An opening brace that opens no count. -/
  | brace
deriving DecidableEq, Repr

namespace Token

/-- The token of a code point that stands for itself. -/
def ofPoint (point : Nat) : Token :=
  set false [.ofPoint point]

end Token

/-! ## Escapes -/

/-- Whether a code point is an octal digit. -/
def isOctalDigit (point : Nat) : Bool :=
  0x30 ≤ point && point ≤ 0x37

/-- The value of octal digits. -/
def octalValue (digits : List Nat) : Nat :=
  digits.foldl (fun value digit => value * 8 + (digit - 0x30)) 0

/-- A code point by up to three octal digits, the first of which has been read. -/
def readOctal (first : Nat) (rest : List Nat) : Reader Nat :=
  let more := (rest.take 2).takeWhile isOctalDigit
  some (octalValue (first :: more), rest.drop more.length)

/-- A code point by hexadecimal digits: two of them, or any number between
braces. -/
def readHex (rest : List Nat) : Reader Nat :=
  if startsWith '{' rest then
    let digits := (rest.drop 1).takeWhile isHexDigit
    let after := (rest.drop 1).drop digits.length
    let value := hexValue digits
    if !digits.isEmpty && startsWith '}' after && value ≤ CodePoint.last then
      some (value, after.drop 1)
    else
      none
  else
    let digits := rest.take 2
    if digits.length = 2 && digits.all isHexDigit then
      some (hexValue digits, rest.drop 2)
    else
      none

/-- A code point by its octal escape.  A single digit other than zero would refer
back to a group and is refused. -/
def readOctalEscape (first : Nat) (rest : List Nat) : Reader Nat :=
  if charOf first = '0' || (rest.head?.map isOctalDigit).getD false then
    readOctal first rest
  else
    none

/-- A code point by an escape without octal digits.  A letter or digit has to have
a meaning there. -/
def readCharEscape (point : Nat) (rest : List Nat) : Reader Nat :=
  match charOf point with
  | 'x' => readHex rest
  | 'a' => some (0x7, rest)
  | 'f' => some (0xC, rest)
  | 'n' => some (0xA, rest)
  | 'r' => some (0xD, rest)
  | 't' => some (0x9, rest)
  | 'v' => some (0xB, rest)
  | char => if char.isAlphanum then none else some (point, rest)

/-- A code point by its escape, whose backslash has been read. -/
def readEscape : List Nat → Reader Nat
  | [] => none
  | point :: rest =>
      if isOctalDigit point then readOctalEscape point rest
      else readCharEscape point rest

/-- A property by its name.  A circumflex in front negates it once more. -/
def propertyItem? (isNegated : Bool) (name : List Nat) : Option RuneItem :=
  let isTurned := startsWith '^' name
  let bare := if isTurned then name.drop 1 else name
  (propertyOf? (String.ofList (bare.map charOf))).map fun property =>
    .property property (isNegated != isTurned)

/-- A property whose opening brace has been read. -/
def readBracedProperty (isNegated : Bool) (rest : List Nat) : Reader RuneItem :=
  let name := rest.takeWhile (charOf · != '}')
  let after := rest.drop name.length
  if after.isEmpty then none
  else (propertyItem? isNegated name).map fun item => (item, after.drop 1)

/-- A property, by one letter or by a name between braces. -/
def readProperty (isNegated : Bool) : List Nat → Reader RuneItem
  | [] => none
  | point :: rest =>
      if charOf point = '{' then readBracedProperty isNegated rest
      else (propertyItem? isNegated [point]).map fun item => (item, rest)

/-- A set by its escape, whose backslash has been read; nothing when the escape
is none of a set. -/
def readSetEscape : List Nat → Option (Reader RuneItem)
  | [] => none
  | point :: rest =>
      match charOf point with
      | 'p' => some (readProperty false rest)
      | 'P' => some (readProperty true rest)
      | letter => (shorthandItem? letter).map fun item => some (item, rest)

/-! ## Classes -/

/-- A named set of a class, whose opening bracket and colon have been read;
nothing when no colon and bracket close it.  A bracket directly behind the colon
closes a set that has no name, which is refused. -/
def readNamedSet (rest : List Nat) : Option (Reader RuneItem) :=
  if startsWith ']' rest then
    some none
  else
    match splitAtEnd rest with
    | none => none
    | some (name, after) =>
        let isNegated := startsWith '^' name
        let bare := if isNegated then name.drop 1 else name
        some ((namedRanges? (String.ofList (bare.map charOf))).map fun ranges =>
          (.ranges ranges isNegated, after))
where
  /-- The text in front of the first colon and bracket, and what follows them. -/
  splitAtEnd : List Nat → Option (List Nat × List Nat)
    | [] => none
    | point :: rest =>
        if charOf point = ':' && startsWith ']' rest then some ([], rest.drop 1)
        else (splitAtEnd rest).map fun (name, after) => (point :: name, after)

/-- An end of a range. -/
def readClassPoint : List Nat → Reader Nat
  | [] => none
  | point :: rest => if charOf point = '\\' then readEscape rest else some (point, rest)

/-- A code point or a range of a class. -/
def readRange (rest : List Nat) : Reader RuneItem :=
  match readClassPoint rest with
  | none => none
  | some (first, after) =>
      if startsWith '-' after && !startsWith ']' (after.drop 1) then
        match readClassPoint (after.drop 1) with
        | none => none
        | some (last, behind) =>
            if last < first then none
            else some (.ranges [(first, last)] false, behind)
      else
        some (.ofPoint first, after)

/-- An item of a class. -/
def readRuneItem (rest : List Nat) : Reader RuneItem :=
  let named :=
    if startsWith '[' rest && startsWith ':' (rest.drop 1) then
      readNamedSet (rest.drop 2)
    else if startsWith '\\' rest then
      readSetEscape (rest.drop 1)
    else
      none
  match named with
  | some outcome => outcome
  | none => readRange rest

/-! ## Readers shorten the pattern -/

theorem length_of_readOctal {first value : Nat} {rest after : List Nat}
    (read : readOctal first rest = some (value, after)) :
    after.length ≤ rest.length := by
  unfold readOctal at read
  simp only [Option.some.injEq, Prod.mk.injEq] at read
  simp [← read.2]

theorem length_of_readHex {value : Nat} {rest after : List Nat}
    (read : readHex rest = some (value, after)) :
    after.length ≤ rest.length := by
  unfold readHex at read
  grind

theorem length_of_readOctalEscape {first value : Nat} {rest after : List Nat}
    (read : readOctalEscape first rest = some (value, after)) :
    after.length ≤ rest.length := by
  unfold readOctalEscape at read
  split at read
  · exact length_of_readOctal read
  · contradiction

theorem length_of_readCharEscape {point value : Nat} {rest after : List Nat}
    (read : readCharEscape point rest = some (value, after)) :
    after.length ≤ rest.length := by
  unfold readCharEscape at read
  split at read
  case h_1 => exact length_of_readHex read
  case h_8 =>
    split at read
    · contradiction
    · simp only [Option.some.injEq, Prod.mk.injEq] at read
      simp [← read.2]
  all_goals
    simp only [Option.some.injEq, Prod.mk.injEq] at read
    simp [← read.2]

theorem length_of_readEscape {value : Nat} {rest after : List Nat}
    (read : readEscape rest = some (value, after)) :
    after.length < rest.length := by
  unfold readEscape at read
  split at read
  · contradiction
  · simp only [List.length_cons, Nat.lt_succ_iff]
    split at read
    · exact length_of_readOctalEscape read
    · exact length_of_readCharEscape read

theorem length_of_readBracedProperty {isNegated : Bool} {item : RuneItem}
    {rest after : List Nat}
    (read : readBracedProperty isNegated rest = some (item, after)) :
    after.length ≤ rest.length := by
  unfold readBracedProperty at read
  simp only at read
  split at read
  · contradiction
  · obtain ⟨_, _, same⟩ := Option.map_eq_some_iff.mp read
    simp only [Prod.mk.injEq] at same
    simp only [← same.2, List.length_drop]
    omega

theorem length_of_readProperty {isNegated : Bool} {item : RuneItem}
    {rest after : List Nat} (read : readProperty isNegated rest = some (item, after)) :
    after.length < rest.length := by
  unfold readProperty at read
  split at read
  · contradiction
  · simp only [List.length_cons, Nat.lt_succ_iff]
    split at read
    · exact length_of_readBracedProperty read
    · obtain ⟨_, _, same⟩ := Option.map_eq_some_iff.mp read
      simp only [Prod.mk.injEq] at same
      simp [← same.2]

theorem length_of_readSetEscape {item : RuneItem} {rest after : List Nat}
    (read : readSetEscape rest = some (some (item, after))) :
    after.length < rest.length := by
  unfold readSetEscape at read
  split at read
  · contradiction
  · simp only [List.length_cons, Nat.lt_succ_iff]
    split at read
    · exact Nat.le_of_lt (length_of_readProperty (Option.some.inj read))
    · exact Nat.le_of_lt (length_of_readProperty (Option.some.inj read))
    · obtain ⟨_, _, same⟩ := Option.map_eq_some_iff.mp read
      simp only [Option.some.injEq, Prod.mk.injEq] at same
      simp [← same.2]

theorem length_of_splitAtEnd {rest name after : List Nat}
    (read : readNamedSet.splitAtEnd rest = some (name, after)) :
    after.length ≤ rest.length := by
  induction rest generalizing name after with
  | nil => simp [readNamedSet.splitAtEnd] at read
  | cons point rest ih =>
      unfold readNamedSet.splitAtEnd at read
      split at read
      · simp only [Option.some.injEq, Prod.mk.injEq] at read
        simp only [← read.2, List.length_drop, List.length_cons]
        omega
      · obtain ⟨⟨_, _⟩, found, same⟩ := Option.map_eq_some_iff.mp read
        simp only [Prod.mk.injEq] at same
        have := ih found
        simp only [← same.2, List.length_cons]
        omega

theorem length_of_readNamedSet {item : RuneItem} {rest after : List Nat}
    (read : readNamedSet rest = some (some (item, after))) :
    after.length ≤ rest.length := by
  unfold readNamedSet at read
  split at read
  · simp at read
  split at read
  · contradiction
  · next found =>
      obtain ⟨_, _, same⟩ := Option.map_eq_some_iff.mp (Option.some.inj read)
      simp only [Prod.mk.injEq] at same
      simpa [← same.2] using length_of_splitAtEnd found

theorem length_of_readClassPoint {point : Nat} {rest after : List Nat}
    (read : readClassPoint rest = some (point, after)) :
    after.length < rest.length := by
  unfold readClassPoint at read
  split at read
  · contradiction
  · split at read
    · exact Nat.lt_succ_of_lt (length_of_readEscape read)
    · simp only [Option.some.injEq, Prod.mk.injEq] at read
      simp [← read.2]

theorem length_of_readRange {item : RuneItem} {rest after : List Nat}
    (read : readRange rest = some (item, after)) :
    after.length < rest.length := by
  unfold readRange at read
  split at read
  · contradiction
  · next first =>
      have shorter := length_of_readClassPoint first
      split at read
      · split at read
        · contradiction
        · next second =>
            have shorterStill := length_of_readClassPoint second
            simp only [List.length_drop] at shorterStill
            split at read
            · contradiction
            · simp only [Option.some.injEq, Prod.mk.injEq] at read
              rw [← read.2]
              omega
      · simp only [Option.some.injEq, Prod.mk.injEq] at read
        rw [← read.2]
        exact shorter

theorem length_pos_of_startsWith {char : Char} {rest : List Nat}
    (starts : startsWith char rest = true) : 0 < rest.length := by
  cases rest with
  | nil => simp [startsWith] at starts
  | cons => simp

theorem length_of_readRuneItem {item : RuneItem} {rest after : List Nat}
    (read : readRuneItem rest = some (item, after)) :
    after.length < rest.length := by
  unfold readRuneItem at read
  simp only at read
  split at read
  · next outcome named =>
      subst read
      split at named
      · next starts =>
          have nonempty := length_pos_of_startsWith (Bool.and_eq_true_iff.mp starts).1
          have shorter := length_of_readNamedSet named
          simp only [List.length_drop] at shorter
          omega
      · split at named
        · next starts =>
            have nonempty := length_pos_of_startsWith starts
            have shorter := length_of_readSetEscape named
            simp only [List.length_drop] at shorter
            omega
        · contradiction
  · exact length_of_readRange read

/-- The items of a class up to its closing bracket, which may stand for itself in
the first place. -/
def readRuneItems (isFirst : Bool) (rest : List Nat) : Reader (List RuneItem) :=
  if startsWith ']' rest && !isFirst then
    some ([], rest.drop 1)
  else
    match read : readRuneItem rest with
    | none => none
    | some (item, after) =>
        have _ := length_of_readRuneItem read
        (readRuneItems false after).map fun (items, behind) => (item :: items, behind)
termination_by rest.length

/-- A class whose opening bracket has been read. -/
def readClass (rest : List Nat) : Reader (List Token) :=
  let isNegated := startsWith '^' rest
  let body := if isNegated then rest.drop 1 else rest
  (readRuneItems true body).map fun (items, after) => ([.set isNegated items], after)

/-! ## Counts -/

/-- The largest count a repetition may have. -/
def countLimit : Nat :=
  1000

/-- A number without needless zeros. -/
def readNumber (rest : List Nat) : Reader Nat :=
  let digits := rest.takeWhile isDigit
  if digits.isEmpty || (1 < digits.length && startsWith '0' digits) then none
  else some (decimalValue digits, rest.drop digits.length)

/-- The bounds of a count up to its closing brace. -/
def readBounds (rest : List Nat) : Reader (Nat × Option Nat) :=
  match readNumber rest with
  | none => none
  | some (least, after) =>
      if startsWith '}' after then
        some ((least, some least), after.drop 1)
      else if startsWith ',' after then
        if startsWith '}' (after.drop 1) then
          some ((least, none), after.drop 2)
        else
          match readNumber (after.drop 1) with
          | none => none
          | some (most, behind) =>
              if startsWith '}' behind then some ((least, some most), behind.drop 1)
              else none
      else
        none

/-- Whether bounds are in order and not too large. -/
def boundsAreValid (least : Nat) (most : Option Nat) : Bool :=
  least ≤ countLimit &&
    match most with
    | none => true
    | some most => least ≤ most && most ≤ countLimit

/-- A quantifier with the mark that turns its preference round. -/
def readMark (count : Count) (rest : List Nat) : Reader (List Token) :=
  if startsWith '?' rest then some ([.quantifier count true], rest.drop 1)
  else some ([.quantifier count false], rest)

/-- What stands behind an opening brace.  What is no count stands for itself. -/
def readCounted (rest : List Nat) : Reader (List Token) :=
  match readBounds rest with
  | none => some ([.brace], rest)
  | some ((least, most), after) =>
      if boundsAreValid least most then readMark (.counted least most) after else none

/-! ## Groups -/

/-- Whether a code point may stand in the name of a group. -/
def isNamePoint (point : Nat) : Bool :=
  inRanges wordRanges point

/-- The name of a group up to its closing angle bracket. -/
def readName (rest : List Nat) : Reader (List Token) :=
  let name := rest.takeWhile (charOf · != '>')
  let after := rest.drop name.length
  if name.isEmpty || after.isEmpty || !name.all isNamePoint then none
  else some ([.opening (.capture (some name))], after.drop 1)

/-- Set the flag of a letter. -/
def FlagChange.set? (change : FlagChange) (value : Bool) (letter : Char) :
    Option FlagChange :=
  match letter with
  | 'i' => some { change with caseless := some value }
  | 'm' => some { change with multiline := some value }
  | 's' => some { change with dotAll := some value }
  | 'U' => some { change with reluctant := some value }
  | _ => none

/-- Flag letters and what ends them.  A dash turns to setting flags off, and a
letter has to follow it. -/
def readFlags (change : FlagChange) (value isLetterDue : Bool) :
    List Nat → Reader (List Token)
  | [] => none
  | point :: rest =>
      match charOf point with
      | '-' => if value then readFlags change false true rest else none
      | ':' => if isLetterDue then none else some ([.opening (.plain change)], rest)
      | ')' => if isLetterDue then none else some ([.flags change], rest)
      | letter =>
          match change.set? value letter with
          | some change => readFlags change value false rest
          | none => none

/-- What stands behind an opening parenthesis. -/
def readOpening (rest : List Nat) : Reader (List Token) :=
  match (rest.take 3).map charOf with
  | ['?', 'P', '<'] => readName (rest.drop 3)
  | '?' :: '<' :: _ => readName (rest.drop 2)
  | '?' :: _ => readFlags {} true false (rest.drop 1)
  | _ => some ([.opening (.capture none)], rest)

/-! ## Tokens -/

/-- Quoted text up to its end mark or to the end of the pattern, and what follows
it. -/
def splitQuoted : List Nat → List Nat × List Nat
  | [] => ([], [])
  | point :: rest =>
      if charOf point = '\\' && startsWith 'E' rest then
        ([], rest.drop 1)
      else
        let (quoted, after) := splitQuoted rest
        (point :: quoted, after)

/-- The tokens of quoted text. -/
def quotedTokens : List Nat → List Token
  | [] => [.emptyQuote]
  | points => points.map .ofPoint

/-- Tokens that start with a backslash. -/
def readEscapeTokens (rest : List Nat) : Reader (List Token) :=
  match rest.head?.map charOf with
  | some 'A' => some ([.assertion .textStart], rest.drop 1)
  | some 'z' => some ([.assertion .textEnd], rest.drop 1)
  | some 'b' => some ([.assertion (.wordBoundary false)], rest.drop 1)
  | some 'B' => some ([.assertion (.wordBoundary true)], rest.drop 1)
  | some 'Q' =>
      let (quoted, after) := splitQuoted (rest.drop 1)
      some (quotedTokens quoted, after)
  | _ =>
      match readSetEscape rest with
      | some outcome => outcome.map fun (item, after) => ([.set false [item]], after)
      | none => (readEscape rest).map fun (point, after) => ([.ofPoint point], after)

/-- The tokens that a pattern starts with. -/
def readTokens (point : Nat) (rest : List Nat) : Reader (List Token) :=
  match charOf point with
  | '\\' => readEscapeTokens rest
  | '[' => readClass rest
  | '(' => readOpening rest
  | ')' => some ([.closing], rest)
  | '|' => some ([.bar], rest)
  | '^' => some ([.lineStart], rest)
  | '$' => some ([.lineEnd], rest)
  | '.' => some ([.dot], rest)
  | '*' => readMark .any rest
  | '+' => readMark .some rest
  | '?' => readMark .optional rest
  | '{' => readCounted rest
  | _ => some ([.ofPoint point], rest)

theorem length_of_readRuneItems {isFirst : Bool} {items : List RuneItem}
    {rest after : List Nat} (read : readRuneItems isFirst rest = some (items, after)) :
    after.length ≤ rest.length := by
  fun_induction readRuneItems isFirst rest generalizing items with
  | case1 => cases read; simp
  | case2 => contradiction
  | case3 =>
      rename_i shorter ih
      obtain ⟨pair, others, same⟩ := Option.map_eq_some_iff.mp read
      cases same
      have := ih others
      omega

theorem length_of_readClass {tokens : List Token} {rest after : List Nat}
    (read : readClass rest = some (tokens, after)) :
    after.length ≤ rest.length := by
  obtain ⟨_, items, same⟩ := Option.map_eq_some_iff.mp read
  cases same
  have := length_of_readRuneItems items
  split at this
  · rw [List.length_drop] at this
    exact Nat.le_trans this (Nat.sub_le _ _)
  · exact this

theorem length_of_readNumber {value : Nat} {rest after : List Nat}
    (read : readNumber rest = some (value, after)) :
    after.length ≤ rest.length := by
  unfold readNumber at read
  grind

theorem length_of_readBounds {bounds : Nat × Option Nat} {rest after : List Nat}
    (read : readBounds rest = some (bounds, after)) :
    after.length ≤ rest.length := by
  unfold readBounds at read
  grind [→ length_of_readNumber]

theorem length_of_readMark {count : Count} {tokens : List Token}
    {rest after : List Nat} (read : readMark count rest = some (tokens, after)) :
    after.length ≤ rest.length := by
  unfold readMark at read
  grind

theorem length_of_readCounted {tokens : List Token} {rest after : List Nat}
    (read : readCounted rest = some (tokens, after)) :
    after.length ≤ rest.length := by
  unfold readCounted at read
  grind [→ length_of_readBounds, → length_of_readMark]

theorem length_of_readName {tokens : List Token} {rest after : List Nat}
    (read : readName rest = some (tokens, after)) :
    after.length ≤ rest.length := by
  unfold readName at read
  grind

theorem length_of_readFlags {change : FlagChange} {value isLetterDue : Bool}
    {tokens : List Token} {rest after : List Nat}
    (read : readFlags change value isLetterDue rest = some (tokens, after)) :
    after.length ≤ rest.length := by
  fun_induction readFlags change value isLetterDue rest <;> grind

theorem length_of_readOpening {tokens : List Token} {rest after : List Nat}
    (read : readOpening rest = some (tokens, after)) :
    after.length ≤ rest.length := by
  unfold readOpening at read
  split at read
  · have := length_of_readName read
    simp only [List.length_drop] at this
    omega
  · have := length_of_readName read
    simp only [List.length_drop] at this
    omega
  · have := length_of_readFlags read
    simp only [List.length_drop] at this
    omega
  · simp only [Option.some.injEq, Prod.mk.injEq] at read
    simp [← read.2]

theorem length_splitQuoted (rest : List Nat) :
    (splitQuoted rest).2.length ≤ rest.length := by
  induction rest with
  | nil => simp [splitQuoted]
  | cons point rest ih =>
      unfold splitQuoted
      split
      · simp only [List.length_drop, List.length_cons]
        omega
      · simp only [List.length_cons]
        omega

theorem length_of_readEscapeTokens {tokens : List Token} {rest after : List Nat}
    (read : readEscapeTokens rest = some (tokens, after)) :
    after.length ≤ rest.length := by
  unfold readEscapeTokens at read
  split at read
  case h_5 =>
    have := length_splitQuoted (rest.drop 1)
    simp only [Option.some.injEq, Prod.mk.injEq] at read
    simp only [List.length_drop] at this
    rw [← read.2]
    omega
  case h_6 =>
    split at read
    · next outcome setEscape =>
        obtain ⟨_, found, same⟩ := Option.map_eq_some_iff.mp read
        cases same
        subst found
        exact Nat.le_of_lt (length_of_readSetEscape setEscape)
    · obtain ⟨_, escape, same⟩ := Option.map_eq_some_iff.mp read
      cases same
      exact Nat.le_of_lt (length_of_readEscape escape)
  all_goals
    simp only [Option.some.injEq, Prod.mk.injEq] at read
    simp [← read.2]

/-- Tokens take up at least the first code point. -/
theorem length_of_readTokens {point : Nat} {tokens : List Token}
    {rest after : List Nat} (read : readTokens point rest = some (tokens, after)) :
    after.length ≤ rest.length := by
  unfold readTokens at read
  split at read
  case h_1 => exact length_of_readEscapeTokens read
  case h_2 => exact length_of_readClass read
  case h_3 => exact length_of_readOpening read
  case h_9 => exact length_of_readMark read
  case h_10 => exact length_of_readMark read
  case h_11 => exact length_of_readMark read
  case h_12 => exact length_of_readCounted read
  all_goals
    simp only [Option.some.injEq, Prod.mk.injEq] at read
    simp [← read.2]

/-- All tokens of a pattern. -/
def tokens : List Nat → Option (List Token)
  | [] => some []
  | point :: rest =>
      match read : readTokens point rest with
      | none => none
      | some (first, after) =>
          have _ := length_of_readTokens read
          (tokens after).map (first ++ ·)
termination_by pattern => pattern.length

end RegexMatching.Linear
