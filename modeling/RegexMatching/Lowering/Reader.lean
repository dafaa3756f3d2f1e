import RegexMatching.Lowering.Opening

/-!
# Reading a pattern

`lower` reads a pattern piece by piece from the left.  Flags in front of the
pattern change the options for all of it.  Every step leaves less text than it
was given, so reading ends; it either reaches the end of the pattern or stops at
the first piece that has no counterpart in the plain syntax.
-/

namespace RegexMatching.Lowering

/-! ## Flags in front -/

/-- Turn the option of a flag letter on or off. -/
def Options.setFlag (options : Options) (isOn : Bool) (flag : CodeUnit) : Options :=
  match flag.toChar with
  | 'i' => { options with caseless := isOn }
  | 'm' => { options with multiline := isOn }
  | 's' => { options with dotAll := isOn }
  | 'x' => { options with extended := isOn }
  | _ => options

/-- Turn the options of several flag letters on or off. -/
def Options.setFlags (options : Options) (isOn : Bool) (flags : Text) : Options :=
  flags.foldl (fun options flag => options.setFlag isOn flag) options

def isFlagLetter (unit : CodeUnit) : Bool :=
  let char := unit.toChar
  char == 'i' || char == 'm' || char == 's' || char == 'x'

/-- Letters to turn on, letters to turn off, and the text after a flag group. -/
def readFlagGroup (text : Text) : Option (Text × Text × Text) :=
  match Text.dropPrefix? (Text.ofString "(?") text with
  | none => none
  | some behind =>
      let on := behind.takeWhile isFlagLetter
      let afterOn := behind.drop on.length
      let dashed := Text.dropPrefix? (Text.ofString "-") afterOn
      let off := (dashed.getD []).takeWhile isFlagLetter
      let afterOff := (dashed.getD afterOn).drop off.length
      (Text.dropPrefix? (Text.ofString ")") afterOff).map fun rest =>
        (on, off, rest)

theorem length_of_readFlagGroup {text on off rest : Text}
    (read : readFlagGroup text = some (on, off, rest)) :
    rest.length < text.length := by
  unfold readFlagGroup at read
  split at read
  · contradiction
  · next behind dropped =>
      have lengths := Text.length_of_dropPrefix? dropped
      have mark : (Text.ofString "(?").length = 2 := by decide
      obtain ⟨after, closed, same⟩ := Option.map_eq_some_iff.mp read
      have beforeAfter := Text.length_of_dropPrefix? closed
      have inner : ∀ afterOn : Text, afterOn.length ≤ behind.length →
          ((Text.dropPrefix? (Text.ofString "-") afterOn).getD afterOn).length ≤
            behind.length := by
        intro afterOn within
        cases dashed : Text.dropPrefix? (Text.ofString "-") afterOn with
        | none => exact within
        | some body =>
            have bodyLength := Text.length_of_dropPrefix? dashed
            simp only [Option.getD_some]
            omega
      have bound := inner
        (behind.drop (behind.takeWhile isFlagLetter).length)
        (by simp only [List.length_drop]; omega)
      simp only [List.length_drop] at beforeAfter
      cases same
      omega

/-- The options after all flag groups in front, and the rest of the pattern. -/
def readLeadingFlags (options : Options) (text : Text) : Options × Text :=
  match read : readFlagGroup text with
  | none => (options, text)
  | some (on, off, rest) =>
      have _ := length_of_readFlagGroup read
      readLeadingFlags ((options.setFlags true on).setFlags false off) rest
termination_by text.length

/-! ## Quantifiers -/

/-- The bounds of a counted quantifier, from the opening brace on. -/
def readCounted (text : Text) : Option (Text × Text) :=
  match Text.dropPrefix? (Text.ofString "\x7b") text with
  | none => none
  | some body =>
      let least := body.takeWhile CodeUnit.isDigit
      let afterLeast := body.drop least.length
      let comma := Text.dropPrefix? (Text.ofString ",") afterLeast
      let most := (comma.getD []).takeWhile CodeUnit.isDigit
      let afterMost := (comma.getD afterLeast).drop most.length
      if least.isEmpty then none
      else
        (Text.dropPrefix? (Text.ofString "\x7d") afterMost).map fun rest =>
          (text.take (text.length - rest.length), rest)

theorem length_of_readCounted {text source rest : Text}
    (read : readCounted text = some (source, rest)) :
    rest.length < text.length := by
  unfold readCounted at read
  split at read
  · contradiction
  · next body dropped =>
      have lengths := Text.length_of_dropPrefix? dropped
      have mark : (Text.ofString "\x7b").length = 1 := by decide
      simp only at read
      split at read
      · contradiction
      · obtain ⟨after, closed, same⟩ := Option.map_eq_some_iff.mp read
        have beforeAfter := Text.length_of_dropPrefix? closed
        have inner : ∀ afterLeast : Text, afterLeast.length ≤ body.length →
            ((Text.dropPrefix? (Text.ofString ",") afterLeast).getD
              afterLeast).length ≤ body.length := by
          intro afterLeast within
          cases comma : Text.dropPrefix? (Text.ofString ",") afterLeast with
          | none => exact within
          | some tail =>
              have tailLength := Text.length_of_dropPrefix? comma
              simp only [Option.getD_some]
              omega
        have bound := inner
          (body.drop (body.takeWhile CodeUnit.isDigit).length)
          (by simp only [List.length_drop]; omega)
        simp only [List.length_drop] at beforeAfter
        cases same
        omega

/-- What may follow a quantifier: a question mark makes it reluctant. -/
def readQuantifierSuffix (source rest : Text) : Reading :=
  match rest.map CodeUnit.toChar with
  | '+' :: _ => .error ⟨.possessive, rest⟩
  | '?' :: _ => .ok (source ++ rest.take 1, rest.drop 1)
  | _ => .ok (source, rest)

theorem length_of_readQuantifierSuffix {source rest more after : Text}
    (read : readQuantifierSuffix source rest = .ok (more, after)) :
    after.length ≤ rest.length := by
  unfold readQuantifierSuffix at read
  grind

/-! ## One step -/

/-- The outcome of a step: a piece, the groups opened so far, and the text that
follows. -/
abbrev StepReading := Except Failure (Piece × Progress × Text)

/-- Keep the groups opened so far beside what a reader returned. -/
def Reading.withProgress (reading : Reading) (progress : Progress) : StepReading :=
  reading.map fun (source, rest) => (.source source, progress, rest)

/-- A blank that extended patterns skip. -/
def isPatternBlank (unit : CodeUnit) : Bool :=
  let char := unit.toChar
  char == ' ' || char == '\t' || char == '\n' || char == '\x0b' ||
    char == '\x0c' || char == '\r'

/-- A character that is no blank or comment. -/
def readItem (options : Options) (progress : Progress) (unit : CodeUnit)
    (rest : Text) : StepReading :=
  match unit.toChar with
  | '\\' =>
      match Text.dropPrefix? (Text.ofString "Z") rest with
      | some after => .ok (.anchor .subjectEnd, progress, after)
      | none =>
          (readEscape options progress.captureCount false (unit :: rest)
            rest).withProgress progress
  | '[' =>
      (readClass options progress.captureCount (unit :: rest) rest).withProgress
        progress
  | '(' =>
      (readOpening progress (unit :: rest) rest).map fun (source, next, after) =>
        (.source source, next, after)
  | '^' => .ok (.anchor .lineStart, progress, rest)
  | '$' => .ok (.anchor .lineEnd, progress, rest)
  | '.' => .ok (.source (dot options), progress, rest)
  | '*' => (readQuantifierSuffix [unit] rest).withProgress progress
  | '+' => (readQuantifierSuffix [unit] rest).withProgress progress
  | '?' => (readQuantifierSuffix [unit] rest).withProgress progress
  | '{' =>
      match readCounted (unit :: rest) with
      | some (source, after) =>
          (readQuantifierSuffix source after).withProgress progress
      | none => .ok (.source (escapeLiteral [unit]), progress, rest)
  | '}' => .ok (.source (escapeLiteral [unit]), progress, rest)
  | ']' => .ok (.source (escapeLiteral [unit]), progress, rest)
  | '/' => .ok (.source (escapeLiteral [unit]), progress, rest)
  | _ => .ok (.source [unit], progress, rest)

/-- One step, for text that starts with `unit`. -/
def readStep (options : Options) (progress : Progress) (unit : CodeUnit)
    (rest : Text) : StepReading :=
  if options.extended && isPatternBlank unit then
    .ok (.source [], progress, rest)
  else if options.extended && unit.toChar == '#' then
    .ok (.source [], progress, rest.dropWhile fun unit => unit.toChar != '\n')
  else
    readItem options progress unit rest

theorem withProgress_eq_ok_iff {reading : Reading} {progress next : Progress}
    {piece : Piece} {rest : Text} :
    reading.withProgress progress = .ok (piece, next, rest) ↔
      ∃ source, reading = .ok (source, rest) ∧ piece = .source source ∧
        next = progress := by
  unfold Reading.withProgress
  cases reading with
  | error failure => simp [Except.map]
  | ok value =>
      obtain ⟨source, after⟩ := value
      simp only [Except.map, Except.ok.injEq, Prod.mk.injEq]
      constructor
      · rintro ⟨rfl, rfl, rfl⟩
        exact ⟨source, ⟨rfl, rfl⟩, rfl, rfl⟩
      · rintro ⟨_, ⟨rfl, rfl⟩, rfl, rfl⟩
        exact ⟨rfl, rfl, rfl⟩

/-- A character leaves less text than it was given. -/
theorem length_of_readItem {options : Options} {progress next : Progress}
    {unit : CodeUnit} {rest after : Text} {piece : Piece}
    (read : readItem options progress unit rest = .ok (piece, next, after)) :
    after.length ≤ rest.length := by
  unfold readItem at read
  split at read
  · split at read
    · next dropped =>
        have lengths := Text.length_of_dropPrefix? dropped
        cases read
        omega
    · obtain ⟨source, read, _⟩ := withProgress_eq_ok_iff.mp read
      exact length_of_readEscape read
  · obtain ⟨source, read, _⟩ := withProgress_eq_ok_iff.mp read
    exact length_of_readClass read
  · cases outcome : readOpening progress (unit :: rest) rest with
    | error failure => simp [outcome, Except.map] at read
    | ok value =>
        obtain ⟨source, opened, behind⟩ := value
        have shorter := length_of_readOpening (by simp) outcome
        simp only [outcome, Except.map, Except.ok.injEq, Prod.mk.injEq] at read
        obtain ⟨_, _, rfl⟩ := read
        simpa [Nat.lt_succ_iff] using shorter
  · cases read
    exact Nat.le_refl _
  · cases read
    exact Nat.le_refl _
  · cases read
    exact Nat.le_refl _
  · obtain ⟨source, read, _⟩ := withProgress_eq_ok_iff.mp read
    exact length_of_readQuantifierSuffix read
  · obtain ⟨source, read, _⟩ := withProgress_eq_ok_iff.mp read
    exact length_of_readQuantifierSuffix read
  · obtain ⟨source, read, _⟩ := withProgress_eq_ok_iff.mp read
    exact length_of_readQuantifierSuffix read
  · split at read
    · next counted =>
        have lengths := length_of_readCounted counted
        obtain ⟨source, read, _⟩ := withProgress_eq_ok_iff.mp read
        have shorter := length_of_readQuantifierSuffix read
        simp only [List.length_cons] at lengths
        omega
    · cases read
      exact Nat.le_refl _
  all_goals
    cases read
    exact Nat.le_refl _

/-- A step leaves less text than it was given. -/
theorem length_of_readStep {options : Options} {progress next : Progress}
    {unit : CodeUnit} {rest after : Text} {piece : Piece}
    (read : readStep options progress unit rest = .ok (piece, next, after)) :
    after.length ≤ rest.length := by
  unfold readStep at read
  split at read
  · cases read
    exact Nat.le_refl _
  · split at read
    · cases read
      exact (List.dropWhile_sublist _).length_le
    · exact length_of_readItem read

/-! ## Whole patterns -/

/-- Read the rest of a pattern: its pieces and all groups opened. -/
def readPieces (options : Options) (progress : Progress) :
    Text → Except Failure (List Piece × Progress)
  | [] => .ok ([], progress)
  | unit :: rest =>
      match read : readStep options progress unit rest with
      | .error failure => .error failure
      | .ok (piece, next, after) =>
          have _ := length_of_readStep read
          (readPieces options next after).map fun (pieces, last) =>
            (piece :: pieces, last)
termination_by text => text.length

/-- A lowered pattern from its pieces and groups. -/
def Lowered.ofPieces (options : Options) (pieces : List Piece)
    (progress : Progress) : Lowered where
  pieces := pieces
  captureCount := progress.captureCount
  names := progress.names
  caseless := options.caseless
  multiline := options.multiline
  newlineLf := options.newlineLf

/-- Lower a pattern.  A literal pattern is escaped as a whole. -/
def lower (options : Options) (pattern : Text) : Except Failure Lowered :=
  if options.literal then
    .ok (.ofPieces options [.source (escapeLiteral pattern)] {})
  else
    let (options, rest) := readLeadingFlags options pattern
    (readPieces options {} rest).map fun (pieces, progress) =>
      .ofPieces options pieces progress

end RegexMatching.Lowering
