import RegexMatching.Backtrack.Node
import RegexMatching.Text.PointReader

/-!
# Tokens of plain pattern syntax

A pattern is read as code points.  Tokens are what the grammar puts together:
items that match, assertions, parentheses, bars and quantifiers.  The syntax is
strict: punctuation with a meaning has to be escaped, and an escape has to have
a meaning.
-/

namespace RegexMatching.Backtrack

open RegexMatching.PointReader RegexMatching.Unicode

/-- What a parenthesis opens. -/
inductive GroupKind where
  | capture (name : Option (List Nat))
  | plain
  | look (isAhead isNegated : Bool)
deriving DecidableEq, Repr

/-- A token. -/
inductive Token where
  /-- Matches something and may be repeated. -/
  | item (node : Node)
  | reference (group : Nat)
  | namedReference (name : List Nat)
  /-- Matches a position and may not be repeated. -/
  | assertion (node : Node)
  | opening (kind : GroupKind)
  | closing
  | bar
  | quantifier (least : Nat) (most : Option Nat) (isGreedy : Bool)
deriving Repr

/-! ## Numbers -/

/-- Exactly `count` hexadecimal digits. -/
def readHexDigits (count : Nat) (rest : List Nat) : Reader Nat :=
  let digits := rest.take count
  if digits.length = count && digits.all isHexDigit then
    some (hexValue digits, rest.drop count)
  else
    none

/-- A code point by hexadecimal digits up to a closing brace. -/
def readBracedPoint (rest : List Nat) : Reader Nat :=
  let digits := rest.takeWhile isHexDigit
  let after := rest.drop digits.length
  let value := hexValue digits
  if !digits.isEmpty && startsWith '}' after && value ≤ CodePoint.last then
    some (value, after.drop 1)
  else
    none

/-- The second half of a pair, written as an escape. -/
def readLowEscape (rest : List Nat) : Reader Nat :=
  if startsWith '\\' rest && startsWith 'u' (rest.drop 1) then
    (readHexDigits 4 (rest.drop 2)).filter fun (value, _) =>
      CodePoint.isLowSurrogate value
  else
    none

/-- A code point behind the letter of a Unicode escape.  Two escapes for the
halves of a pair stand for one code point. -/
def readUnicodePoint (rest : List Nat) : Reader Nat :=
  if startsWith '{' rest then
    readBracedPoint (rest.drop 1)
  else
    match readHexDigits 4 rest with
    | none => none
    | some (high, after) =>
        match readLowEscape after with
        | some (low, behind) =>
            if CodePoint.isHighSurrogate high then
              some (CodePoint.ofPair high low, behind)
            else
              some (high, after)
        | none => some (high, after)

/-! ## Escapes -/

/-- Punctuation with a meaning. -/
def isSyntaxPoint (point : Nat) : Bool :=
  "^$\\.*+?()[]\x7b\x7d|/".toList.contains (charOf point)

/-- The set of a shorthand letter. -/
def shorthand? (letter : Char) : Option ClassItem :=
  match letter with
  | 'd' => some (.shorthand .digit false)
  | 'D' => some (.shorthand .digit true)
  | 'w' => some (.shorthand .word false)
  | 'W' => some (.shorthand .word true)
  | 's' => some (.shorthand .space false)
  | 'S' => some (.shorthand .space true)
  | _ => none

/-- The property of a name, or of a name and a value. -/
def propertyOf? (text : List Nat) : Option Property :=
  let chars := text.map charOf
  let name := String.ofList (chars.takeWhile (· != '='))
  if chars.contains '=' then
    Property.ofValue? name (String.ofList ((chars.dropWhile (· != '=')).drop 1))
  else
    Property.ofName? name

/-- A property between braces. -/
def readProperty (isNegated : Bool) (rest : List Nat) : Reader ClassItem :=
  if startsWith '{' rest then
    let name := (rest.drop 1).takeWhile fun point => charOf point != '}'
    let after := (rest.drop 1).drop name.length
    if startsWith '}' after then
      (propertyOf? name).map fun property =>
        (.property property isNegated, after.drop 1)
    else
      none
  else
    none

/-- A set by its escape, whose backslash has been read. -/
def readSetEscape : List Nat → Reader ClassItem
  | [] => none
  | point :: rest =>
      match charOf point with
      | 'p' => readProperty false rest
      | 'P' => readProperty true rest
      | letter => (shorthand? letter).map fun item => (item, rest)

/-- A single code point by its escape, whose backslash has been read. -/
def readPointEscape : List Nat → Reader Nat
  | [] => none
  | point :: rest =>
      match charOf point with
      | 'f' => some (0xC, rest)
      | 'n' => some (0xA, rest)
      | 'r' => some (0xD, rest)
      | 't' => some (0x9, rest)
      | 'v' => some (0xB, rest)
      | '0' => if (rest.head?.map isDigit).getD false then none else some (0, rest)
      | 'c' =>
          match rest with
          | letter :: after =>
              if (charOf letter).isAlpha then some (letter % 32, after) else none
          | [] => none
      | 'x' => readHexDigits 2 rest
      | 'u' => readUnicodePoint rest
      | _ => if isSyntaxPoint point then some (point, rest) else none

/-! ## Names -/

/-- A code point that may start a name. -/
def isNameStart (point : Nat) : Bool :=
  if point < 0x80 then
    (charOf point).isAlpha || charOf point == '$' || charOf point == '_'
  else
    [Category.lu, .ll, .lt, .lm, .lo, .nl].contains (category point) && point != 0x2E2F ||
      [0x1885, 0x1886, 0x2118, 0x212E, 0x309B, 0x309C].contains point

/-- A code point that may go on with a name. -/
def isNamePart (point : Nat) : Bool :=
  isNameStart point ||
    if point < 0x80 then
      isDigit point
    else
      isJoinControl point ||
        [Category.mn, .mc, .nd, .pc].contains (category point) ||
        [0xB7, 0x387, 0x1369, 0x136A, 0x136B, 0x136C, 0x136D, 0x136E, 0x136F, 0x1370,
          0x1371, 0x19DA, 0x30FB, 0xFF65].contains point

/-- One code point of a name. -/
def readNamePoint : List Nat → Reader Nat
  | [] => none
  | point :: rest =>
      if charOf point == '\\' then
        if startsWith 'u' rest then readUnicodePoint (rest.drop 1) else none
      else
        some (point, rest)

theorem length_of_readHexDigits {count value : Nat} {rest after : List Nat}
    (read : readHexDigits count rest = some (value, after)) :
    after.length ≤ rest.length := by
  unfold readHexDigits at read
  grind

theorem length_of_readBracedPoint {value : Nat} {rest after : List Nat}
    (read : readBracedPoint rest = some (value, after)) :
    after.length ≤ rest.length := by
  unfold readBracedPoint at read
  grind

theorem length_of_readLowEscape {value : Nat} {rest after : List Nat}
    (read : readLowEscape rest = some (value, after)) :
    after.length ≤ rest.length := by
  unfold readLowEscape at read
  split at read
  · have shorter := length_of_readHexDigits (Option.filter_eq_some_iff.mp read).1
    simp only [List.length_drop] at shorter
    omega
  · contradiction

theorem length_of_readUnicodePoint {value : Nat} {rest after : List Nat}
    (read : readUnicodePoint rest = some (value, after)) :
    after.length ≤ rest.length := by
  unfold readUnicodePoint at read
  split at read
  · have shorter := length_of_readBracedPoint read
    simp only [List.length_drop] at shorter
    omega
  · split at read
    · contradiction
    · next high middle first =>
        have shorter := length_of_readHexDigits first
        split at read
        · next low behind second =>
            have shorterStill := length_of_readLowEscape second
            split at read
            · simp only [Option.some.injEq, Prod.mk.injEq] at read
              rw [← read.2]
              exact Nat.le_trans shorterStill shorter
            · simp only [Option.some.injEq, Prod.mk.injEq] at read
              rw [← read.2]
              exact shorter
        · simp only [Option.some.injEq, Prod.mk.injEq] at read
          rw [← read.2]
          exact shorter

theorem length_of_readNamePoint {value : Nat} {rest after : List Nat}
    (read : readNamePoint rest = some (value, after)) :
    after.length < rest.length := by
  unfold readNamePoint at read
  split at read
  · contradiction
  · split at read
    · split at read
      · have shorter := length_of_readUnicodePoint read
        simp only [List.length_drop] at shorter
        simp only [List.length_cons]
        omega
      · contradiction
    · cases read
      simp

/-- The code points of a name up to the closing angle bracket. -/
def readNamePoints (rest : List Nat) : Reader (List Nat) :=
  if startsWith '>' rest then
    some ([], rest.drop 1)
  else
    match read : readNamePoint rest with
    | none => none
    | some (point, after) =>
        have _ := length_of_readNamePoint read
        (readNamePoints after).map fun (points, behind) => (point :: points, behind)
termination_by rest.length

/-- A name and its closing angle bracket. -/
def readName (rest : List Nat) : Reader (List Nat) :=
  (readNamePoints rest).filter fun (name, _) =>
    match name with
    | [] => false
    | first :: others => isNameStart first && others.all isNamePart

/-! ## Classes -/

/-- One end of a range, or a set. -/
inductive ClassAtom where
  | point (point : Nat)
  | set (item : ClassItem)

/-- The item of an atom that stands by itself. -/
def ClassAtom.toItem : ClassAtom → ClassItem
  | point single => .range single single
  | set item => item

/-- An atom of a class. -/
def readClassAtom : List Nat → Reader ClassAtom
  | [] => none
  | point :: rest =>
      if charOf point == '\\' then
        match readSetEscape rest with
        | some (item, after) => some (.set item, after)
        | none =>
            if startsWith 'b' rest then some (.point 0x8, rest.drop 1)
            else if startsWith '-' rest then some (.point 0x2D, rest.drop 1)
            else
              (readPointEscape rest).map fun (single, after) =>
                (.point single, after)
      else
        some (.point point, rest)

theorem length_of_readSetEscape {item : ClassItem} {rest after : List Nat}
    (read : readSetEscape rest = some (item, after)) :
    after.length ≤ rest.length := by
  have property : ∀ {isNegated : Bool} {rest : List Nat},
      readProperty isNegated rest = some (item, after) →
        after.length ≤ rest.length := by
    intro isNegated rest read
    unfold readProperty at read
    split at read
    · simp only at read
      split at read
      · obtain ⟨_, _, same⟩ := Option.map_eq_some_iff.mp read
        cases same
        simp only [List.length_drop]
        omega
      · contradiction
    · contradiction
  unfold readSetEscape at read
  split at read
  · contradiction
  · split at read
    · exact Nat.le_succ_of_le (property read)
    · exact Nat.le_succ_of_le (property read)
    · obtain ⟨_, _, same⟩ := Option.map_eq_some_iff.mp read
      cases same
      simp

theorem length_of_readPointEscape {point : Nat} {rest after : List Nat}
    (read : readPointEscape rest = some (point, after)) :
    after.length ≤ rest.length := by
  unfold readPointEscape at read
  grind [→ length_of_readHexDigits, → length_of_readUnicodePoint]

theorem length_of_readClassAtom {atom : ClassAtom} {rest after : List Nat}
    (read : readClassAtom rest = some (atom, after)) :
    after.length < rest.length := by
  unfold readClassAtom at read
  split at read
  · contradiction
  · split at read
    · split at read
      · next setEscape =>
          cases read
          exact Nat.lt_succ_of_le (length_of_readSetEscape setEscape)
      · split at read
        · cases read
          simp only [List.length_drop, List.length_cons]
          omega
        · split at read
          · cases read
            simp only [List.length_drop, List.length_cons]
            omega
          · obtain ⟨pair, pointEscape, same⟩ := Option.map_eq_some_iff.mp read
            cases same
            exact Nat.lt_succ_of_le (length_of_readPointEscape pointEscape)
    · cases read
      simp

/-- The items of a class up to its closing bracket.  A range needs two code
points in order. -/
def readClassItems (rest : List Nat) : Reader (List ClassItem) :=
  if startsWith ']' rest then
    some ([], rest.drop 1)
  else
    match read : readClassAtom rest with
    | none => none
    | some (atom, after) =>
        have _ := length_of_readClassAtom read
        if startsWith '-' after && !startsWith ']' (after.drop 1) then
          match upper : readClassAtom (after.drop 1) with
          | none => none
          | some (bound, behind) =>
              have _ := length_of_readClassAtom upper
              have _ : behind.length < rest.length := by
                have := List.length_drop (i := 1) (l := after)
                omega
              match atom, bound with
              | .point first, .point last =>
                  if first ≤ last then
                    (readClassItems behind).map fun (items, final) =>
                      (.range first last :: items, final)
                  else
                    none
              | _, _ => none
        else
          (readClassItems after).map fun (items, final) =>
            (atom.toItem :: items, final)
termination_by rest.length

/-- A class whose opening bracket has been read. -/
def readClass (rest : List Nat) : Reader CharClass :=
  let isNegated := startsWith '^' rest
  let body := if isNegated then rest.drop 1 else rest
  (readClassItems body).map fun (items, after) => (⟨isNegated, items⟩, after)

/-! ## Quantifiers and groups -/

/-- The largest bound that is told apart; every larger one counts as this. -/
def boundLimit : Nat :=
  2147483647

/-- The bounds of a counted quantifier up to its closing brace. -/
def readBounds (rest : List Nat) : Reader (Nat × Option Nat) :=
  let least := rest.takeWhile isDigit
  let afterLeast := rest.drop least.length
  let leastValue := min (decimalValue least) boundLimit
  if least.isEmpty then
    none
  else if startsWith '}' afterLeast then
    some ((leastValue, some leastValue), afterLeast.drop 1)
  else if startsWith ',' afterLeast then
    let most := (afterLeast.drop 1).takeWhile isDigit
    let afterMost := (afterLeast.drop 1).drop most.length
    let mostValue := min (decimalValue most) boundLimit
    if startsWith '}' afterMost then
      if most.isEmpty then some ((leastValue, none), afterMost.drop 1)
      else if mostValue < leastValue then none
      else some ((leastValue, some mostValue), afterMost.drop 1)
    else
      none
  else
    none

/-- A quantifier with the mark that makes it reluctant. -/
def readReluctance (least : Nat) (most : Option Nat) (rest : List Nat) :
    Reader Token :=
  if startsWith '?' rest then some (.quantifier least most false, rest.drop 1)
  else some (.quantifier least most true, rest)

/-- What stands behind an opening parenthesis. -/
def readOpening (rest : List Nat) : Reader Token :=
  match (rest.take 3).map charOf with
  | '?' :: ':' :: _ => some (.opening .plain, rest.drop 2)
  | '?' :: '=' :: _ => some (.opening (.look true false), rest.drop 2)
  | '?' :: '!' :: _ => some (.opening (.look true true), rest.drop 2)
  | '?' :: '<' :: '=' :: _ => some (.opening (.look false false), rest.drop 3)
  | '?' :: '<' :: '!' :: _ => some (.opening (.look false true), rest.drop 3)
  | '?' :: '<' :: _ =>
      (readName (rest.drop 2)).map fun (name, after) =>
        (.opening (.capture (some name)), after)
  | '?' :: _ => none
  | _ => some (.opening (.capture none), rest)

/-! ## Tokens -/

/-- A token that starts with a backslash. -/
def readEscapeToken (rest : List Nat) : Reader Token :=
  match readSetEscape rest with
  | some (item, after) => some (.item (.set (.ofItem item)), after)
  | none =>
      match (rest.take 2).map charOf with
      | 'b' :: _ => some (.assertion (.wordBoundary false), rest.drop 1)
      | 'B' :: _ => some (.assertion (.wordBoundary true), rest.drop 1)
      | 'k' :: '<' :: _ =>
          (readName (rest.drop 2)).map fun (name, after) =>
            (.namedReference name, after)
      | char :: _ =>
          if char.isDigit && char != '0' then
            let digits := rest.takeWhile isDigit
            some (.reference (decimalValue digits), rest.drop digits.length)
          else
            (readPointEscape rest).map fun (point, after) =>
              (.item (.set (.ofPoint point)), after)
      | [] => none

/-- The first token of a pattern. -/
def readToken (point : Nat) (rest : List Nat) : Reader Token :=
  match charOf point with
  | '\\' => readEscapeToken rest
  | '[' =>
      (readClass rest).map fun (charClass, after) => (.item (.set charClass), after)
  | '(' => readOpening rest
  | ')' => some (.closing, rest)
  | '|' => some (.bar, rest)
  | '^' => some (.assertion .subjectStart, rest)
  | '$' => some (.assertion .subjectEnd, rest)
  | '.' => some (.item (.set .dot), rest)
  | '*' => readReluctance 0 none rest
  | '+' => readReluctance 1 none rest
  | '?' => readReluctance 0 (some 1) rest
  | '{' =>
      match readBounds rest with
      | some ((least, most), after) => readReluctance least most after
      | none => none
  | '}' => none
  | ']' => none
  | _ => some (.item (.set (.ofPoint point)), rest)

theorem length_of_readNamePoints {name rest after : List Nat}
    (read : readNamePoints rest = some (name, after)) :
    after.length ≤ rest.length := by
  fun_induction readNamePoints rest generalizing name with
  | case1 => cases read; simp
  | case2 => contradiction
  | case3 rest _ point middle first shorter ih =>
      obtain ⟨pair, others, same⟩ := Option.map_eq_some_iff.mp read
      cases same
      have := ih others
      omega

theorem length_of_readClassItems {items : List ClassItem} {rest after : List Nat}
    (read : readClassItems rest = some (items, after)) :
    after.length ≤ rest.length := by
  fun_induction readClassItems rest generalizing items with
  | case1 => cases read; simp
  | case2 => contradiction
  | case3 => contradiction
  | case4 =>
      rename_i shorter _ _ _ _ _ _ _ ih
      obtain ⟨pair, others, same⟩ := Option.map_eq_some_iff.mp read
      cases same
      have := ih others
      omega
  | case5 => contradiction
  | case6 => contradiction
  | case7 rest _ atom middle _ shorter _ ih =>
      obtain ⟨pair, others, same⟩ := Option.map_eq_some_iff.mp read
      cases same
      have := ih others
      omega

theorem length_of_readName {name rest after : List Nat}
    (read : readName rest = some (name, after)) :
    after.length ≤ rest.length :=
  length_of_readNamePoints (Option.filter_eq_some_iff.mp read).1

theorem length_of_readClass {charClass : CharClass} {rest after : List Nat}
    (read : readClass rest = some (charClass, after)) :
    after.length ≤ rest.length := by
  obtain ⟨_, items, same⟩ := Option.map_eq_some_iff.mp read
  cases same
  have := length_of_readClassItems items
  split at this
  · rw [List.length_drop] at this
    exact Nat.le_trans this (Nat.sub_le _ _)
  · exact this

theorem length_of_readBounds {bounds : Nat × Option Nat} {rest after : List Nat}
    (read : readBounds rest = some (bounds, after)) :
    after.length ≤ rest.length := by
  unfold readBounds at read
  grind

theorem length_of_readReluctance {least : Nat} {most : Option Nat} {token : Token}
    {rest after : List Nat} (read : readReluctance least most rest = some (token, after)) :
    after.length ≤ rest.length := by
  unfold readReluctance at read
  grind

theorem length_of_readOpening {token : Token} {rest after : List Nat}
    (read : readOpening rest = some (token, after)) :
    after.length ≤ rest.length := by
  unfold readOpening at read
  split at read
  case h_6 =>
    obtain ⟨_, name, same⟩ := Option.map_eq_some_iff.mp read
    have := length_of_readName name
    cases same
    simp only [List.length_drop] at this
    omega
  case h_7 => contradiction
  all_goals
    simp only [Option.some.injEq, Prod.mk.injEq] at read
    simp [← read.2]

theorem length_of_readEscapeToken {token : Token} {rest after : List Nat}
    (read : readEscapeToken rest = some (token, after)) :
    after.length ≤ rest.length := by
  unfold readEscapeToken at read
  split at read
  · next setEscape =>
      simp only [Option.some.injEq, Prod.mk.injEq] at read
      simpa [← read.2] using length_of_readSetEscape setEscape
  · split at read
    case h_3 =>
      obtain ⟨_, name, same⟩ := Option.map_eq_some_iff.mp read
      have := length_of_readName name
      cases same
      simp only [List.length_drop] at this
      omega
    case h_4 =>
      split at read
      · simp only [Option.some.injEq, Prod.mk.injEq] at read
        simp [← read.2]
      · obtain ⟨_, pointEscape, same⟩ := Option.map_eq_some_iff.mp read
        cases same
        exact length_of_readPointEscape pointEscape
    case h_5 => contradiction
    all_goals
      simp only [Option.some.injEq, Prod.mk.injEq] at read
      simp [← read.2]

/-- A token takes up at least its first code point. -/
theorem length_of_readToken {point : Nat} {token : Token} {rest after : List Nat}
    (read : readToken point rest = some (token, after)) :
    after.length ≤ rest.length := by
  unfold readToken at read
  split at read
  case h_1 => exact length_of_readEscapeToken read
  case h_2 =>
    obtain ⟨_, charClass, same⟩ := Option.map_eq_some_iff.mp read
    cases same
    exact length_of_readClass charClass
  case h_3 => exact length_of_readOpening read
  case h_12 =>
    split at read
    · next bounds =>
        exact Nat.le_trans (length_of_readReluctance read) (length_of_readBounds bounds)
    · contradiction
  all_goals first
    | exact length_of_readReluctance read
    | contradiction
    | simp only [Option.some.injEq, Prod.mk.injEq] at read
      simp [← read.2]

/-- All tokens of a pattern. -/
def tokens : List Nat → Option (List Token)
  | [] => some []
  | point :: rest =>
      match read : readToken point rest with
      | none => none
      | some (token, after) =>
          have _ := length_of_readToken read
          (tokens after).map (token :: ·)
termination_by pattern => pattern.length

end RegexMatching.Backtrack
