import RegexMatching.Lowering.Bracket

/-!
# Opening parentheses

A parenthesis opens a capturing group, a named one, a group that captures
nothing or a lookaround; a few forms behind a parenthesis are complete in
themselves.  `Progress` counts the groups opened so far and keeps their names.
-/

namespace RegexMatching.Lowering

/-- The capturing groups opened so far. -/
structure Progress where
  captureCount : Nat := 0
  names : List GroupName := []
deriving DecidableEq, Repr

namespace Progress

/-- Open one more capturing group. -/
def capture (progress : Progress) : Progress :=
  { progress with captureCount := progress.captureCount + 1 }

/-- Open one more capturing group under a name. -/
def captureNamed (progress : Progress) (name : Text) : Progress where
  captureCount := progress.captureCount + 1
  names := progress.names ++ [⟨name, progress.captureCount + 1⟩]

/-- Whether a group of that name has been opened. -/
def hasName (progress : Progress) (name : Text) : Bool :=
  progress.names.any fun entry => entry.name == name

end Progress

/-- The outcome of reading an opening: source, the groups opened so far, and
the text that follows. -/
abbrev OpeningReading := Except Failure (Text × Progress × Text)

/-- Openings that are the same in both syntaxes. -/
def plainOpenings : List String :=
  ["(?:", "(?=", "(?!", "(?<=", "(?<!"]

/-- One of the plain openings. -/
def readPlainOpening (start : Text) : Option (Text × Text) :=
  plainOpenings.findSome? fun opening =>
    (Text.dropPrefix? (Text.ofString opening) start).map fun rest =>
      (Text.ofString opening, rest)

/-- The name of a named group and the text after it. -/
def readGroupName (start : Text) : Option (Text × Text) :=
  ((readDelimited "(?P<" ">" start).or (readDelimited "(?<" ">" start)).or
    (readDelimited "(?'" "'" start)

/-- Open a named group.  Failures are placed at what follows the question
mark. -/
def openNamed (progress : Progress) (start name rest : Text) : OpeningReading :=
  if !Text.isName name then
    .error ⟨.malformedGroupName name, start.drop 2⟩
  else if progress.hasName name then
    .error ⟨.duplicateGroupName name, start.drop 2⟩
  else
    .ok (Text.ofString "(?<" ++ name ++ Text.ofString ">",
      progress.captureNamed name, rest)

/-- A back reference in the form of a group. -/
def readGroupReference (start : Text) : Option (Text × Text) :=
  (readDelimited "(?P=" ")" start).filter fun (name, _) => Text.isName name

/-- Whether a form calls a group as a subroutine; what follows the question
mark is given. -/
def isRecursion (behind : Text) : Bool :=
  match behind.map CodeUnit.toChar with
  | 'R' :: _ => true
  | '&' :: _ => true
  | 'P' :: '>' :: _ => true
  | '+' :: digit :: _ => digit.isDigit
  | '-' :: digit :: _ => digit.isDigit
  | digit :: _ => digit.isDigit
  | [] => false

/-- Why an opening is rejected; what follows the question mark is given. -/
def openingCause (behind : Text) : Cause :=
  match behind.map CodeUnit.toChar with
  | '>' :: _ => .atomicGroup
  | '|' :: _ => .branchReset
  | '(' :: _ => .conditional
  | char :: _ =>
      if isRecursion behind then .recursion
      else if char.isAlpha || char == '^' || char == '-' then .inlineFlags
      else .unknownGroupKind
  | [] => .unknownGroupKind

/-- Read what starts with a parenthesis and a question mark. -/
def readSpecialOpening (progress : Progress) (start behind : Text) :
    OpeningReading :=
  match Text.dropPrefix? (Text.ofString "#") behind with
  | some comment =>
      match Text.cut? (Text.ofString ")") comment with
      | some (_, rest) => .ok ([], progress, rest)
      | none => .error ⟨.unclosedComment, []⟩
  | none =>
      match readPlainOpening start with
      | some (opening, rest) => .ok (opening, progress, rest)
      | none =>
          match readGroupName start with
          | some (name, rest) => openNamed progress start name rest
          | none =>
              match readGroupReference start with
              | some (name, rest) =>
                  .ok (Text.ofString "\\k<" ++ name ++ Text.ofString ">",
                    progress, rest)
              | none => .error ⟨openingCause behind, start⟩

/-- Read an opening whose parenthesis has been read. -/
def readOpening (progress : Progress) (start rest : Text) : OpeningReading :=
  match rest.map CodeUnit.toChar with
  | '*' :: _ => .error ⟨.controlVerb, start⟩
  | '?' :: _ => readSpecialOpening progress start (rest.drop 1)
  | _ => .ok (Text.ofString "(", progress.capture, rest)

/-! ## Readers move forward -/

theorem length_of_readPlainOpening {start opening rest : Text}
    (read : readPlainOpening start = some (opening, rest)) :
    rest.length < start.length := by
  obtain ⟨listed, member, opened⟩ := List.exists_of_findSome?_eq_some read
  obtain ⟨body, dropped, same⟩ := Option.map_eq_some_iff.mp opened
  have lengths := Text.length_of_dropPrefix? dropped
  have nonempty : ∀ listed ∈ plainOpenings, 0 < (Text.ofString listed).length := by
    decide
  have positive := nonempty listed member
  cases same
  omega

theorem length_of_readDelimited_of_pos {openMark closeMark : String}
    {rest inner after : Text} (positive : 0 < (Text.ofString openMark).length)
    (read : readDelimited openMark closeMark rest = some (inner, after)) :
    after.length < rest.length := by
  obtain ⟨body, opened, closed⟩ := Option.bind_eq_some_iff.mp read
  have beforeBody := Text.length_of_dropPrefix? opened
  have beforeAfter := Text.length_of_cut? closed
  omega

theorem length_of_readGroupName {start name rest : Text}
    (read : readGroupName start = some (name, rest)) :
    rest.length < start.length := by
  rcases Option.or_eq_some_iff.mp read with read | ⟨_, read⟩
  · rcases Option.or_eq_some_iff.mp read with read | ⟨_, read⟩
    · exact length_of_readDelimited_of_pos (by decide) read
    · exact length_of_readDelimited_of_pos (by decide) read
  · exact length_of_readDelimited_of_pos (by decide) read

theorem length_of_readGroupReference {start name rest : Text}
    (read : readGroupReference start = some (name, rest)) :
    rest.length < start.length :=
  length_of_readDelimited_of_pos (by decide) (Option.filter_eq_some_iff.mp read).1

theorem length_of_openNamed {progress next : Progress}
    {start name rest source after : Text}
    (read : openNamed progress start name rest = .ok (source, next, after)) :
    after = rest := by
  unfold openNamed at read
  grind

/-- An opening leaves less text than it was given, the parenthesis included. -/
theorem length_of_readOpening {progress next : Progress}
    {start rest source after : Text} (shorter : rest.length < start.length)
    (read : readOpening progress start rest = .ok (source, next, after)) :
    after.length < start.length := by
  unfold readOpening at read
  split at read
  · contradiction
  · unfold readSpecialOpening at read
    split at read
    · next comment dropped =>
        have inside := Text.length_of_dropPrefix? dropped
        simp only [List.length_drop] at inside
        split at read
        · next found =>
            have lengths := Text.length_of_cut? found
            cases read
            omega
        · contradiction
    · split at read
      · next plain =>
          cases read
          exact length_of_readPlainOpening plain
      · split at read
        · next named =>
            have same := length_of_openNamed read
            have lengths := length_of_readGroupName named
            rw [same]
            exact lengths
        · split at read
          · next reference =>
              cases read
              exact length_of_readGroupReference reference
          · contradiction
  · cases read
    exact shorter

end RegexMatching.Lowering
