import RegexMatching.Lowering.Literal

/-!
# Escape sequences

An escape sequence is a backslash and what it introduces.  Most escapes stand
for a fixed source that depends on the options and on whether the escape stands
in a class.  The others read on: quoted text, code points by number, properties
and back references.

Each reader takes the whole rest of the pattern from the backslash on, where a
failure is placed, and the text it reads from; it returns the source and the
text after what it has read.
-/

namespace RegexMatching.Lowering

/-- The outcome of a reader: source, and the text that follows. -/
abbrev Reading := Except Failure (Text × Text)

/-! ## Escapes with a fixed source -/

/-- A boundary between a word character and anything else, or its absence, by
Unicode properties. -/
def unicodeBoundary (isNegated : Bool) : Text :=
  let behind := Text.ofString "(?<=" ++ bracketed unicodeWord ++ Text.ofString ")"
  let notBehind :=
    Text.ofString "(?<!" ++ bracketed unicodeWord ++ Text.ofString ")"
  let ahead := Text.ofString "(?=" ++ bracketed unicodeWord ++ Text.ofString ")"
  let notAhead :=
    Text.ofString "(?!" ++ bracketed unicodeWord ++ Text.ofString ")"
  let either (first second : Text) : Text :=
    Text.ofString "(?:" ++ first ++ Text.ofString "|" ++ second ++
      Text.ofString ")"
  if isNegated then either (behind ++ ahead) (notBehind ++ notAhead)
  else either (behind ++ notAhead) (notBehind ++ ahead)

/-- The start of the subject. -/
def subjectStartSource : Text :=
  Text.ofString "(?<![\\s\\S])"

/-- The end of the subject. -/
def subjectEndSource : Text :=
  Text.ofString "(?![\\s\\S])"

/-- The source of an escape that reads nothing beyond its letter; none for the
other letters. -/
def fixedEscape? (options : Options) (inClass : Bool) (letter : Char) :
    Option (Except Cause Text) :=
  let unicode := options.unicodeClasses
  let set (contents : Text) : Text :=
    if inClass then contents else bracketed contents
  let outside (source : Text) : Except Cause Text :=
    if inClass then .error (.notAllowedInClass letter) else .ok source
  match letter with
  | 'd' => some (.ok (Text.ofString (if unicode then "\\p{Nd}" else "\\d")))
  | 'D' => some (.ok (Text.ofString (if unicode then "\\P{Nd}" else "\\D")))
  | 'w' =>
      some (.ok (if unicode then set unicodeWord else Text.ofString "\\w"))
  | 'W' =>
      some (
        if !unicode then .ok (Text.ofString "\\W")
        else if inClass then .error .negatedWordInClass
        else .ok (negated unicodeWord))
  | 's' =>
      some (.ok (
        if unicode then Text.ofString "\\p{White_Space}" else set asciiSpace))
  | 'S' =>
      some (.ok (
        if unicode then Text.ofString "\\P{White_Space}"
        else if inClass then Text.ofString "\\S"
        else negated asciiSpace))
  | 'h' => some (.ok (set horizontalSpace))
  | 'v' => some (.ok (set verticalSpace))
  | 'H' =>
      some (
        if inClass then .error (.unsupportedInClass letter)
        else .ok (negated horizontalSpace))
  | 'V' =>
      some (
        if inClass then .error (.unsupportedInClass letter)
        else .ok (negated verticalSpace))
  | 'b' =>
      some (.ok (
        if inClass || !unicode then Text.ofString "\\b"
        else unicodeBoundary false))
  | 'B' =>
      some (outside (if unicode then unicodeBoundary true else Text.ofString "\\B"))
  | 'A' => some (outside subjectStartSource)
  | 'z' => some (outside subjectEndSource)
  | 'Z' => some (.error (.notAllowedInClass letter))
  | 'R' =>
      some (outside (
        Text.ofString "(?:\\r\\n|" ++ bracketed verticalSpace ++ Text.ofString ")"))
  | 'N' => some (outside (notLineEnd options))
  | 'E' => some (.ok [])
  | 'n' => some (.ok (Text.ofString "\\n"))
  | 'r' => some (.ok (Text.ofString "\\r"))
  | 't' => some (.ok (Text.ofString "\\t"))
  | 'f' => some (.ok (Text.ofString "\\f"))
  | 'e' => some (.ok (Text.ofString "\\x1B"))
  | 'a' => some (.ok (Text.ofString "\\x07"))
  | _ => none

/-! ## Escapes that read on -/

/-- Text that is quoted up to the next end mark, or to the end. -/
def readQuoted (inClass : Bool) (rest : Text) : Text × Text :=
  match Text.cut? (Text.ofString "\\E") rest with
  | some (quoted, after) => (escapeLiteral quoted inClass, after)
  | none => (escapeLiteral rest inClass, [])

/-- A control character by its letter. -/
def readControl (start : Text) : Text → Reading
  | [] => .error ⟨.controlWithoutLetter, start⟩
  | unit :: rest =>
      if unit.isLetter then .ok (Text.ofString "\\c" ++ [unit], rest)
      else .error ⟨.controlWithoutLetter, start⟩

/-- A code point by hexadecimal digits: up to six between braces, otherwise two
at most. -/
def readHexEscape (start rest : Text) : Reading :=
  match Text.dropPrefix? (Text.ofString "\x7b") rest with
  | some inner =>
      match Text.cut? (Text.ofString "\x7d") inner with
      | some (digits, after) =>
          if !digits.isEmpty && digits.length ≤ 6 &&
              digits.all CodeUnit.isHexDigit &&
              Text.hexValue digits ≤ CodePoint.last then
            .ok (Text.ofString "\\u\x7b" ++ digits ++ Text.ofString "\x7d", after)
          else
            .error ⟨.malformedHexEscape, start⟩
      | none => .error ⟨.malformedHexEscape, start⟩
  | none =>
      let digits := (rest.take 2).takeWhile CodeUnit.isHexDigit
      let zeros := List.replicate (2 - digits.length) (CodeUnit.ofChar '0')
      .ok (Text.ofString "\\x" ++ zeros ++ digits, rest.drop digits.length)

/-- A code unit by four hexadecimal digits. -/
def readUnicodeEscape (start rest : Text) : Reading :=
  let digits := rest.take 4
  if digits.length = 4 && digits.all CodeUnit.isHexDigit then
    .ok (Text.ofString "\\u" ++ digits, rest.drop 4)
  else
    .error ⟨.unicodeEscapeTooShort, start⟩

/-- A character by at most two octal digits. -/
def readOctal (rest : Text) : Text × Text :=
  let isOctal (unit : CodeUnit) : Bool :=
    unit.isDigit && unit.toChar ≤ '7'
  let digits := (rest.take 2).takeWhile isOctal
  let value := digits.foldl (fun value digit => value * 8 + (digit.toNat - 48)) 0
  (Text.ofString "\\x" ++ Text.ofHexByte value, rest.drop digits.length)

/-- The name of a property: between braces, or a single unit. -/
def readPropertyName (rest : Text) : Option (Text × Text) :=
  match Text.dropPrefix? (Text.ofString "\x7b") rest with
  | some inner => Text.cut? (Text.ofString "\x7d") inner
  | none => some (rest.take 1, rest.drop 1)

/-- The source of a property.  A name that is neither a general category nor a
pair is the name of a script. -/
def propertySource (isNegated inClass : Bool) (name : Text) : Text :=
  let escape := Text.ofString (if isNegated then "\\P\x7b" else "\\p\x7b")
  let close := Text.ofString "\x7d"
  if name = Text.ofString "Any" then
    if isNegated then
      if inClass then [] else Text.ofString "[^\\s\\S]"
    else
      if inClass then Text.ofString "\\s\\S" else anything
  else if name = Text.ofString "L&" then
    escape ++ Text.ofString "LC" ++ close
  else if isGeneralCategory name || name.contains (CodeUnit.ofChar '=') then
    escape ++ name ++ close
  else
    let script := (Text.splitPrefix (Text.ofString "Is") name).2
    escape ++ Text.ofString "Script=" ++ script ++ close

/-- A property, which a caret in front of the name turns round. -/
def readProperty (isNegated inClass : Bool) (start rest : Text) : Reading :=
  match readPropertyName rest with
  | none => .error ⟨.malformedProperty, start⟩
  | some (given, after) =>
      let turned := Text.dropPrefix? (Text.ofString "^") given
      let name := turned.getD given
      if name.isEmpty then .error ⟨.malformedProperty, start⟩
      else .ok (propertySource (isNegated != turned.isSome) inClass name, after)

/-- A name between matching delimiters. -/
def readDelimited (openMark closeMark : String) (rest : Text) :
    Option (Text × Text) :=
  (Text.dropPrefix? (Text.ofString openMark) rest).bind
    (Text.cut? (Text.ofString closeMark))

/-- A back reference by name. -/
def readNamedReference (start rest : Text) : Reading :=
  match ((readDelimited "<" ">" rest).or (readDelimited "\x7b" "\x7d" rest)).or
    (readDelimited "'" "'" rest) with
  | some (name, after) =>
      if Text.isName name then
        .ok (Text.ofString "\\k<" ++ name ++ Text.ofString ">", after)
      else
        .error ⟨.namedReferenceExpected, start⟩
  | none => .error ⟨.namedReferenceExpected, start⟩

/-- A number with an optional minus sign in front. -/
def readSigned (rest : Text) : Option (Text × Text) :=
  let (sign, body) := Text.splitPrefix (Text.ofString "-") rest
  let digits := body.takeWhile CodeUnit.isDigit
  if digits.isEmpty then none
  else some (sign ++ digits, body.drop digits.length)

/-- The source of a reference, which is a number, a number counted back from
the groups opened so far, or a name. -/
def referenceSource (captureCount : Nat) (reference : Text) : Except Cause Text :=
  let isNumber (text : Text) : Bool :=
    !text.isEmpty && text.all CodeUnit.isDigit
  let backward := (Text.dropPrefix? (Text.ofString "-") reference).getD []
  if isNumber backward then
    let distance := Text.decimalValue backward
    if captureCount < distance then .error .missingGroup
    else .ok (Text.ofString "\\" ++ Text.ofNat (captureCount + 1 - distance))
  else if isNumber reference then
    if Text.decimalValue reference = 0 then .error .zeroReference
    else .ok (Text.ofString "\\" ++ reference)
  else if Text.isName reference then
    .ok (Text.ofString "\\k<" ++ reference ++ Text.ofString ">")
  else
    .error .referenceExpected

/-- A back reference by number or name. -/
def readReference (captureCount : Nat) (start rest : Text) : Reading :=
  match (readDelimited "\x7b" "\x7d" rest).or (readSigned rest) with
  | some (reference, after) =>
      match referenceSource captureCount reference with
      | .ok source => .ok (source, after)
      | .error cause => .error ⟨cause, start⟩
  | none => .error ⟨.zeroReference, start⟩

/-- A back reference by a number without delimiters. -/
def readNumber (inClass : Bool) (first : CodeUnit) (start rest : Text) : Reading :=
  if inClass then
    .error ⟨.octalInClass, start⟩
  else
    let digits := rest.takeWhile CodeUnit.isDigit
    .ok (Text.ofString "\\" ++ first :: digits, rest.drop digits.length)

/-! ## All escapes -/

/-- Read an escape sequence whose backslash has been read.  `captureCount`
groups have been opened before it. -/
def readEscape (options : Options) (captureCount : Nat) (inClass : Bool)
    (start : Text) : Text → Reading
  | [] => .error ⟨.backslashAtEnd, start⟩
  | unit :: rest =>
      let letter := unit.toChar
      if !(unit.isLetter || unit.isDigit) then
        let length := Text.firstPointLength (unit :: rest)
        .ok (escapeLiteral ((unit :: rest).take length) inClass,
          (unit :: rest).drop length)
      else
        match fixedEscape? options inClass letter with
        | some (.ok source) => .ok (source, rest)
        | some (.error cause) => .error ⟨cause, start⟩
        | none =>
            match letter with
            | 'Q' => .ok (readQuoted inClass rest)
            | 'c' => readControl start rest
            | 'x' => readHexEscape start rest
            | 'u' => readUnicodeEscape start rest
            | 'p' => readProperty false inClass start rest
            | 'P' => readProperty true inClass start rest
            | 'k' => readNamedReference start rest
            | 'g' => readReference captureCount start rest
            | '0' => .ok (readOctal rest)
            | 'G' => .error ⟨.resumeAnchor, start⟩
            | _ =>
                if unit.isDigit then readNumber inClass unit start rest
                else .error ⟨.unknownEscape letter, start⟩

/-! ## Readers move forward -/

theorem length_of_readQuoted (inClass : Bool) (rest : Text) :
    (readQuoted inClass rest).2.length ≤ rest.length := by
  unfold readQuoted
  split
  · next found =>
      have lengths := Text.length_of_cut? found
      simp only
      omega
  · simp

theorem length_of_readControl {start rest source after : Text}
    (read : readControl start rest = .ok (source, after)) :
    after.length ≤ rest.length := by
  unfold readControl at read
  grind

theorem length_of_readHexEscape {start rest source after : Text}
    (read : readHexEscape start rest = .ok (source, after)) :
    after.length ≤ rest.length := by
  unfold readHexEscape at read
  split at read
  · next inner dropped =>
      have inside := Text.length_of_dropPrefix? dropped
      split at read
      · next digits behind found =>
          have lengths := Text.length_of_cut? found
          split at read
          · cases read
            omega
          · contradiction
      · contradiction
  · cases read
    simp

theorem length_of_readUnicodeEscape {start rest source after : Text}
    (read : readUnicodeEscape start rest = .ok (source, after)) :
    after.length ≤ rest.length := by
  unfold readUnicodeEscape at read
  grind

theorem length_of_readOctal (rest : Text) :
    (readOctal rest).2.length ≤ rest.length := by
  simp [readOctal]

theorem length_of_readPropertyName {rest name after : Text}
    (read : readPropertyName rest = some (name, after)) :
    after.length ≤ rest.length := by
  unfold readPropertyName at read
  grind [→ Text.length_of_dropPrefix?, → Text.length_of_cut?]

theorem length_of_readProperty {isNegated inClass : Bool}
    {start rest source after : Text}
    (read : readProperty isNegated inClass start rest = .ok (source, after)) :
    after.length ≤ rest.length := by
  unfold readProperty at read
  grind [→ length_of_readPropertyName]

theorem length_of_readDelimited {openMark closeMark : String}
    {rest inner after : Text}
    (read : readDelimited openMark closeMark rest = some (inner, after)) :
    after.length ≤ rest.length := by
  obtain ⟨body, opened, closed⟩ := Option.bind_eq_some_iff.mp read
  have beforeBody := Text.length_of_dropPrefix? opened
  have beforeAfter := Text.length_of_cut? closed
  omega

theorem length_of_readNamedReference {start rest source after : Text}
    (read : readNamedReference start rest = .ok (source, after)) :
    after.length ≤ rest.length := by
  unfold readNamedReference at read
  split at read
  · next name behind found =>
      have shorter : behind.length ≤ rest.length := by
        rcases Option.or_eq_some_iff.mp found with found | ⟨_, found⟩
        · rcases Option.or_eq_some_iff.mp found with found | ⟨_, found⟩ <;>
            exact length_of_readDelimited found
        · exact length_of_readDelimited found
      split at read
      · cases read
        exact shorter
      · contradiction
  · contradiction

theorem length_of_readSigned {rest number after : Text}
    (read : readSigned rest = some (number, after)) :
    after.length ≤ rest.length := by
  unfold readSigned at read
  grind [Text.length_splitPrefix_le]

theorem length_of_readReference {captureCount : Nat}
    {start rest source after : Text}
    (read : readReference captureCount start rest = .ok (source, after)) :
    after.length ≤ rest.length := by
  unfold readReference at read
  split at read
  · next reference behind found =>
      have shorter : behind.length ≤ rest.length := by
        rcases Option.or_eq_some_iff.mp found with found | ⟨_, found⟩
        · exact length_of_readDelimited found
        · exact length_of_readSigned found
      split at read
      · cases read
        exact shorter
      · contradiction
  · contradiction

theorem length_of_readNumber {inClass : Bool} {first : CodeUnit}
    {start rest source after : Text}
    (read : readNumber inClass first start rest = .ok (source, after)) :
    after.length ≤ rest.length := by
  unfold readNumber at read
  grind

/-- An escape sequence leaves no more text than it was given. -/
theorem length_of_readEscape {options : Options} {captureCount : Nat}
    {inClass : Bool} {start rest source after : Text}
    (read : readEscape options captureCount inClass start rest =
      .ok (source, after)) :
    after.length ≤ rest.length := by
  unfold readEscape at read
  grind [length_of_readQuoted, → length_of_readControl, → length_of_readHexEscape,
    → length_of_readUnicodeEscape, length_of_readOctal, → length_of_readProperty,
    → length_of_readNamedReference, → length_of_readReference,
    → length_of_readNumber]

end RegexMatching.Lowering
