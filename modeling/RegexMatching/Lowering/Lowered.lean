import RegexMatching.Group

/-!
# Lowered patterns

Patterns are written in an extended syntax and *lowered* to the plain syntax
that the backtracking matcher reads.  Line anchors are not lowered at once: what
they mean depends on how a match call treats the ends of the subject, so they
stay as pieces of their own until the pattern is rendered.
-/

namespace RegexMatching.Lowering

/-! ## What a pattern is lowered to -/

/-- A place in a line whose rendering depends on the match call. -/
inductive Anchor where
  /-- The start of the subject, or of a line. -/
  | lineStart
  /-- The end of the subject, or of a line. -/
  | lineEnd
  /-- The end of the subject, or before a line end there. -/
  | subjectEnd
deriving DecidableEq, Repr

/-- A part of a lowered pattern. -/
inductive Piece where
  | source (text : Text)
  | anchor (anchor : Anchor)
deriving DecidableEq, Repr

/-- How a pattern is read. -/
structure Options where
  caseless : Bool := false
  dotAll : Bool := false
  multiline : Bool := false
  literal : Bool := false
  /-- Blanks and comments are skipped. -/
  extended : Bool := false
  /-- Unicode properties decide what a word, digit or space character is. -/
  unicodeClasses : Bool := false
  /-- A line feed is the only line terminator. -/
  newlineLf : Bool := false
deriving DecidableEq, Repr

/-- A lowered pattern: its pieces, its groups, and the options that matter
after lowering. -/
structure Lowered where
  pieces : List Piece
  captureCount : Nat
  names : List GroupName
  caseless : Bool
  multiline : Bool
  newlineLf : Bool
deriving DecidableEq, Repr

/-! ## What a pattern may not contain -/

/-- Why a pattern is rejected. -/
inductive Cause where
  | possessive
  | controlVerb
  | unclosedComment
  | malformedGroupName (name : Text)
  | duplicateGroupName (name : Text)
  | atomicGroup
  | branchReset
  | conditional
  | recursion
  | inlineFlags
  | unknownGroupKind
  | unknownPosixClass (name : Text)
  | unclosedClass
  | backslashAtEnd
  | negatedWordInClass
  | unsupportedInClass (letter : Char)
  | notAllowedInClass (letter : Char)
  | controlWithoutLetter
  | unicodeEscapeTooShort
  | octalInClass
  | resumeAnchor
  | unknownEscape (letter : Char)
  | malformedHexEscape
  | malformedProperty
  | namedReferenceExpected
  | zeroReference
  | missingGroup
  | referenceExpected
deriving DecidableEq, Repr

namespace Cause

/-- The wording of a cause. -/
def message : Cause → Text
  | possessive => Text.ofString "possessive quantifiers are not supported"
  | controlVerb => Text.ofString "backtracking control verbs are not supported"
  | unclosedComment => Text.ofString "missing ) after (?# comment"
  | malformedGroupName name =>
      Text.ofString "invalid group name \"" ++ name ++ Text.ofString "\""
  | duplicateGroupName name =>
      Text.ofString "two named subpatterns have the same name \"" ++ name ++
        Text.ofString "\""
  | atomicGroup => Text.ofString "atomic groups are not supported"
  | branchReset => Text.ofString "branch reset groups are not supported"
  | conditional => Text.ofString "conditional groups are not supported"
  | recursion => Text.ofString "recursion and subroutine calls are not supported"
  | inlineFlags =>
      Text.ofString "inline flags are only supported at the start of the pattern"
  | unknownGroupKind => Text.ofString "unrecognized character after (?"
  | unknownPosixClass name =>
      Text.ofString "unknown POSIX class name \"" ++ name ++ Text.ofString "\""
  | unclosedClass => Text.ofString "missing terminating ] for character class"
  | backslashAtEnd => Text.ofString "\\ at end of pattern"
  | negatedWordInClass =>
      Text.ofString
        "\\W inside a character class is not supported with Unicode classes"
  | unsupportedInClass letter =>
      Text.ofString "\\" ++ [CodeUnit.ofChar letter] ++
        Text.ofString " inside a character class is not supported"
  | notAllowedInClass letter =>
      Text.ofString "\\" ++ [CodeUnit.ofChar letter] ++
        Text.ofString " is not allowed inside a character class"
  | controlWithoutLetter => Text.ofString "\\c must be followed by a letter"
  | unicodeEscapeTooShort =>
      Text.ofString "\\u must be followed by four hex digits"
  | octalInClass =>
      Text.ofString "octal escapes inside character classes are not supported"
  | resumeAnchor => Text.ofString "\\G is not supported"
  | unknownEscape letter =>
      Text.ofString "unrecognized character follows \\: " ++
        [CodeUnit.ofChar letter]
  | malformedHexEscape => Text.ofString "invalid \\x\x7b...\x7d escape"
  | malformedProperty => Text.ofString "malformed \\p or \\P sequence"
  | namedReferenceExpected =>
      Text.ofString "\\k is not followed by a group name"
  | zeroReference =>
      Text.ofString "a numbered reference must not be zero"
  | missingGroup => Text.ofString "reference to non-existent subpattern"
  | referenceExpected =>
      Text.ofString "\\g is not followed by a group name or number"

end Cause

/-- Why a pattern is rejected, and the part of the pattern that starts at the
offending place. -/
structure Failure where
  cause : Cause
  rest : Text
deriving DecidableEq, Repr

/-- The offset of the offending place in the whole pattern. -/
def Failure.offset (failure : Failure) (pattern : Text) : Nat :=
  pattern.length - failure.rest.length

end RegexMatching.Lowering
