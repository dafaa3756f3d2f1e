import RegexMatching.Linear.Token

/-!
# Linear-time expressions from tokens

Tokens are put together in one pass, under flags that groups set for the rest of
the level they stand in.  A quantifier changes the part before it, and may not
follow another quantifier at once.  Nor may it follow a brace that opens no count.
-/

namespace RegexMatching.Linear

/-- The flags in force. -/
structure Flags where
  caseless : Bool := false
  multiline : Bool := false
  dotAll : Bool := false
  /-- Quantifiers are reluctant unless marked. -/
  reluctant : Bool := false
deriving DecidableEq, Repr

/-- The flags after a change. -/
def Flags.change (flags : Flags) (change : FlagChange) : Flags where
  caseless := change.caseless.getD flags.caseless
  multiline := change.multiline.getD flags.multiline
  dotAll := change.dotAll.getD flags.dotAll
  reluctant := change.reluctant.getD flags.reluctant

/-! ## Levels -/

/-- The inside of a parenthesis, or the whole pattern, while it is read.
Finished parts come last first. -/
structure Level where
  /-- The group that the parenthesis captures, if it does. -/
  group : Option Nat := none
  /-- The flags in force behind the parenthesis. -/
  outerFlags : Flags
  alternatives : List Expression := []
  terms : List Expression := []

namespace Level

/-- Add a part. -/
def push (level : Level) (term : Expression) : Level :=
  { level with terms := term :: level.terms }

/-- End an alternative. -/
def endAlternative (level : Level) : Level :=
  { level with
    alternatives := .ofSequence level.terms.reverse :: level.alternatives
    terms := [] }

/-- The expression of a level. -/
def expression (level : Level) : Expression :=
  let body := Expression.ofAlternatives level.endAlternative.alternatives.reverse
  match level.group with
  | some group => .capture group body
  | none => body

end Level

/-! ## Assembly -/

/-- What has been put together so far. -/
structure Assembly where
  flags : Flags
  level : Level
  outer : List Level := []
  captureCount : Nat := 0
  names : List (List Nat × Nat) := []
  /-- The last token was a quantifier, or a brace that opens no count. -/
  isQuantified : Bool := false

namespace Assembly

/-- Nothing read yet. -/
def start (flags : Flags) : Assembly where
  flags := flags
  level := { outerFlags := flags }

/-- Add a part to the innermost level. -/
def push (assembly : Assembly) (term : Expression) : Assembly :=
  { assembly with level := assembly.level.push term }

/-- Open a parenthesis that captures.  A name may be given once only. -/
def openCapture (assembly : Assembly) (name : Option (List Nat)) : Option Assembly :=
  let group := assembly.captureCount + 1
  let isTaken :=
    match name with
    | some name => (assembly.names.lookup name).isSome
    | none => false
  if isTaken then
    none
  else
    some { assembly with
      level := { group := some group, outerFlags := assembly.flags }
      outer := assembly.level :: assembly.outer
      captureCount := group
      names := assembly.names ++ (name.map fun name => (name, group)).toList }

/-- Open a parenthesis that captures nothing and may change flags inside. -/
def openPlain (assembly : Assembly) (change : FlagChange) : Assembly :=
  { assembly with
    flags := assembly.flags.change change
    level := { outerFlags := assembly.flags }
    outer := assembly.level :: assembly.outer }

/-- Close a parenthesis, which has to be open. -/
def closeLevel (assembly : Assembly) : Option Assembly :=
  match assembly.outer with
  | [] => none
  | level :: outer =>
      some { assembly with
        flags := assembly.level.outerFlags
        level := level.push assembly.level.expression
        outer }

/-- Repeat the last part.  Its counts have to stay within the limit. -/
def quantify (assembly : Assembly) (count : Count) (isMarked : Bool) :
    Option Assembly :=
  match assembly.level.terms with
  | term :: terms =>
      let repeated := Expression.repetition term count
        (isMarked == assembly.flags.reluctant)
      if assembly.isQuantified || !repeated.fitsInto countLimit then
        none
      else
        some { assembly with
          level := { assembly.level with terms := repeated :: terms }
          isQuantified := true }
  | [] => none

/-- The class of a dot. -/
def dotClass (flags : Flags) : RuneClass :=
  if flags.dotAll then .any else .anyButLineFeed

/-- Take in one token. -/
def step (assembly : Assembly) (token : Token) : Option Assembly :=
  let flags := assembly.flags
  let rested := { assembly with isQuantified := false }
  match token with
  | .set isNegated items =>
      some (rested.push (.set ⟨isNegated, flags.caseless, items⟩))
  | .dot => some (rested.push (.set (dotClass flags)))
  | .lineStart =>
      some (rested.push (.assertion (if flags.multiline then .lineStart else .textStart)))
  | .lineEnd =>
      some (rested.push (.assertion (if flags.multiline then .lineEnd else .textEnd)))
  | .assertion test => some (rested.push (.assertion test))
  | .opening (.capture name) => rested.openCapture name
  | .opening (.plain change) => some (rested.openPlain change)
  | .closing => rested.closeLevel
  | .bar => some { rested with level := rested.level.endAlternative }
  | .flags change => some { rested with flags := flags.change change }
  | .quantifier count isMarked => assembly.quantify count isMarked
  | .emptyQuote => some rested
  | .brace =>
      some { rested.push (.set ⟨false, false, [.ofPoint '{'.toNat]⟩) with
        isQuantified := true }

/-- Take in tokens in turn. -/
def steps : Assembly → List Token → Option Assembly
  | assembly, [] => some assembly
  | assembly, token :: rest =>
      match assembly.step token with
      | some next => next.steps rest
      | none => none

end Assembly

/-- The expression of a pattern, when its syntax is right. -/
def Regex.ofPoints? (pattern : List Nat) (flags : Flags) : Option Regex :=
  match tokens pattern with
  | none => none
  | some tokens =>
      match (Assembly.start flags).steps tokens with
      | some { level, outer := [], captureCount, names, .. } =>
          some { expression := level.expression, captureCount, names }
      | _ => none

end RegexMatching.Linear
