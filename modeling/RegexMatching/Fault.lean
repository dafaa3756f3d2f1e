import RegexMatching.Number.Decimal

/-!
# Faults

Everything that can go wrong, as causes.  `Fault.kind` says which error a cause
is reported as, and `Fault.message` words it.  Nothing is retried: a fault
reaches the caller of the operation that met it.
-/

namespace RegexMatching

/-! ## Kinds of errors -/

/-- The errors a caller can tell apart. -/
inductive ErrorKind where
  /-- A pattern does not compile. -/
  | patternSyntax
  /-- An engine failed a match call. -/
  | engine
  /-- An engine gave up because a resource limit was hit. -/
  | matchLimit
  /-- Captures were read without a match, or a closed pattern was used. -/
  | illegalState
  /-- A group number, offset or region is out of range. -/
  | indexOutOfBounds
  /-- An unknown name, a malformed template or an unsupported request. -/
  | illegalArgument
  /-- An offset is out of range or lies inside a code point. -/
  | range
  /-- A variant of a backtracking pattern does not compile. -/
  | backtrackSyntax
  /-- A variant of a linear-time pattern does not compile. -/
  | linearSyntax
deriving DecidableEq, Repr

namespace ErrorKind

/-- The families an error belongs to, from the widest to the error itself. -/
def families : ErrorKind → List String
  | patternSyntax => ["RegexError", "PatternSyntaxError"]
  | engine => ["RegexError", "EngineError"]
  | matchLimit => ["RegexError", "EngineError", "MatchLimitError"]
  | illegalState => ["RegexError", "UsageError", "IllegalStateError"]
  | indexOutOfBounds => ["RegexError", "UsageError", "IndexOutOfBoundsError"]
  | illegalArgument => ["RegexError", "UsageError", "IllegalArgumentError"]
  | range => ["RangeError"]
  | backtrackSyntax | linearSyntax => ["SyntaxError"]

/-- The name an error is reported under. -/
def name (kind : ErrorKind) : String :=
  kind.families.getLastD ""

end ErrorKind

/-! ## Wording shared by several causes -/

/-- What is wrong with a pattern: a text, or a finding of the engine's own
pattern reader, whose wording is left to it. -/
inductive Description where
  | text (words : Text)
  | engineOwn
deriving DecidableEq

/-- A description of a syntax error, the pattern below it, and a mark under the
offending place when that is known. -/
def syntaxMessage (description pattern : Text) (index : Int) : Text :=
  let place :=
    if 0 ≤ index then Text.ofString " near index " ++ Text.ofInt index else []
  let mark :=
    if 0 ≤ index && index ≤ pattern.length then
      Text.ofString "\n" ++ List.replicate index.toNat (CodeUnit.ofChar ' ') ++
        Text.ofString "^"
    else
      []
  description ++ place ++ Text.ofString "\n" ++ pattern ++ mark

/-- A failed operation, the engine's words for it and its code. -/
def failureMessage (operation : Text) (code : Int) (detail : Text) : Text :=
  operation ++ Text.ofString " failed: " ++ detail ++
    Text.ofString " (engine code " ++ Text.ofInt code ++ Text.ofString ")"

/-- What is said when captures are read without a match and nothing more
particular is known. -/
def noMatchMessage : Text :=
  Text.ofString "No match available"

/-! ## Causes -/

/-- A cause of failure. -/
inductive Fault where
  | unitOutOfRange (offset : Number) (length : Nat)
  | byteInsidePoint (offset : Number)
  | lengthMismatch (expected produced : Nat)
  | badPattern (description : Description) (pattern : Text) (index : Int)
  | badBacktrackVariant
  | badLinearVariant
  | engineFailed (limit : Bool) (operation : Text) (code : Int) (detail : Text)
  | noMatch
  | patternClosed
  | closedPatternGiven
  | unknownFlags (flags : Number)
  | unknownEngine (name : Text) (available : List Text)
  | noGroup (group : Number)
  | noGroupNamed (name : Text)
  | startOutOfRange (start : Number)
  | regionStartOutOfRange (start : Number)
  | regionEndOutOfRange (stop : Number)
  | regionReversed (start stop : Number)
  | noPartialMatching (engine : Text)
  | noLineBoundaries (engine : Text)
  | escapeMissing
  | groupIndexMissing
  | closingBraceMissing
  | groupNameEmpty
  | malformedGroupNumber (reference : Text)
  | malformedReference
  | malformedGroupName (name : Text)
  | noTemplateGroup (digits : Text)
  | noTemplateGroupNamed (name : Text)

namespace Fault

/-- The error a cause is reported as. -/
def kind : Fault → ErrorKind
  | unitOutOfRange .. | byteInsidePoint .. | lengthMismatch .. => .range
  | badPattern .. => .patternSyntax
  | badBacktrackVariant => .backtrackSyntax
  | badLinearVariant => .linearSyntax
  | engineFailed limit .. => if limit then .matchLimit else .engine
  | noMatch | patternClosed => .illegalState
  | noGroup .. | startOutOfRange .. | regionStartOutOfRange ..
  | regionEndOutOfRange .. | regionReversed .. | noTemplateGroup .. =>
      .indexOutOfBounds
  | closedPatternGiven | unknownFlags .. | unknownEngine .. | noGroupNamed ..
  | noPartialMatching .. | noLineBoundaries .. | escapeMissing
  | groupIndexMissing | closingBraceMissing | groupNameEmpty
  | malformedGroupNumber .. | malformedReference | malformedGroupName ..
  | noTemplateGroupNamed .. =>
      .illegalArgument

/-- Join texts with a separator between them. -/
def joinWith (separator : Text) : List Text → Text
  | [] => []
  | [only] => only
  | first :: rest => first ++ separator ++ joinWith separator rest

/-- The wording of a cause, when it is this library's to choose. -/
def message? : Fault → Option Text
  | unitOutOfRange offset length =>
      some (Text.ofString "Code unit offset " ++ offset.toText ++
        Text.ofString " out of range [0, " ++ Text.ofNat length ++ Text.ofString "]")
  | byteInsidePoint offset =>
      some (Text.ofString "Byte offset " ++ offset.toText ++
        Text.ofString " is not on a code point boundary")
  | lengthMismatch expected produced =>
      some (Text.ofString "UTF-8 length mismatch: expected " ++ Text.ofNat expected ++
        Text.ofString " bytes, encoder produced " ++ Text.ofNat produced)
  | badPattern (.text description) pattern index =>
      some (syntaxMessage description pattern index)
  | badPattern .engineOwn _ _ => none
  | badBacktrackVariant => none
  | badLinearVariant => none
  | engineFailed _ operation code detail =>
      some (failureMessage operation code detail)
  | noMatch => some noMatchMessage
  | patternClosed | closedPatternGiven =>
      some (Text.ofString "Pattern has been closed")
  | unknownFlags flags =>
      some (Text.ofString "Unknown flag 0x" ++
        Text.ofString (String.ofList (Nat.toDigits 16 flags.toBits.toNat)))
  | unknownEngine name available =>
      some (Text.ofString "Unknown regex engine: " ++ name ++
        Text.ofString " (available: " ++
        joinWith (Text.ofString ", ") available ++ Text.ofString ")")
  | noGroup group => some (Text.ofString "No group " ++ group.toText)
  | noGroupNamed name =>
      some (Text.ofString "No group with name <" ++ name ++ Text.ofString ">")
  | startOutOfRange start =>
      some (Text.ofString "Illegal start index " ++ start.toText)
  | regionStartOutOfRange start => some (Text.ofString "start " ++ start.toText)
  | regionEndOutOfRange stop => some (Text.ofString "end " ++ stop.toText)
  | regionReversed start stop =>
      some (Text.ofString "start " ++ start.toText ++ Text.ofString " > end " ++
        stop.toText)
  | noPartialMatching engine =>
      some (Text.ofString "Engine " ++ engine ++
        Text.ofString " does not support partial matching")
  | noLineBoundaries engine =>
      some (Text.ofString "Engine " ++ engine ++
        Text.ofString " does not support regions without anchoring bounds")
  | escapeMissing => some (Text.ofString "character to be escaped is missing")
  | groupIndexMissing =>
      some (Text.ofString "Illegal group reference: group index is missing")
  | closingBraceMissing =>
      some (Text.ofString "named capturing group is missing trailing '\x7d'")
  | groupNameEmpty =>
      some (Text.ofString "named capturing group has 0 length name")
  | malformedGroupNumber reference =>
      some (Text.ofString "Illegal group reference: $\x7b" ++ reference ++
        Text.ofString "\x7d")
  | malformedReference => some (Text.ofString "Illegal group reference")
  | malformedGroupName name =>
      some (Text.ofString "Named capturing group <" ++ name ++
        Text.ofString "> has an invalid name")
  | noTemplateGroup digits => some (Text.ofString "No group " ++ digits)
  | noTemplateGroupNamed name =>
      some (Text.ofString "No group with name \x7b" ++ name ++ Text.ofString "\x7d")

end Fault

end RegexMatching
