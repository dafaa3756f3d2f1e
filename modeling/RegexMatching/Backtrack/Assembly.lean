import RegexMatching.Backtrack.Token

/-!
# Expressions from tokens

Tokens are put together in one pass over them.  The state is the level of
parentheses being filled and the levels around it.  A quantifier changes the
item before it.  Which groups there are is known from the tokens beforehand,
because a reference may come before its group.
-/

namespace RegexMatching.Backtrack

/-! ## Groups in a list of tokens -/

/-- The names of the capturing groups, in order; a group may have none. -/
def groupNames (tokens : List Token) : List (Option (List Nat)) :=
  tokens.filterMap fun
    | .opening (.capture name) => some name
    | _ => none

/-- Whether no two groups share a name. -/
def namesAreDistinct (names : List (Option (List Nat))) : Bool :=
  let given := names.filterMap id
  given.eraseDups.length == given.length

/-- The group of a name. -/
def groupOfName? (names : List (Option (List Nat))) (name : List Nat) : Option Nat :=
  (names.findIdx? (· == some name)).map (· + 1)

/-! ## Levels -/

/-- A part of a sequence. -/
structure Term where
  node : Node
  /-- Whether a quantifier may follow. -/
  isRepeatable : Bool
  /-- How many groups were opened before it. -/
  capturesBefore : Nat

/-- The inside of a parenthesis, or the whole pattern, while it is read.
Finished parts come last first. -/
structure Level where
  /-- What opened the level; nothing opened the whole pattern. -/
  kind : Option GroupKind
  capturesBefore : Nat
  alternatives : List Node := []
  terms : List Term := []

namespace Level

/-- Add a part. -/
def push (level : Level) (term : Term) : Level :=
  { level with terms := term :: level.terms }

/-- End an alternative. -/
def endAlternative (level : Level) : Level :=
  { level with
    alternatives :=
      .ofSequence (level.terms.map Term.node).reverse :: level.alternatives
    terms := [] }

/-- The expression of a level. -/
def node (level : Level) : Node :=
  .ofAlternatives level.endAlternative.alternatives.reverse

/-- The part that a closed parenthesis makes.  Lookaround is not repeated. -/
def toTerm (level : Level) : Term :=
  let node :=
    match level.kind with
    | some (.capture _) => .capture (level.capturesBefore + 1) level.node
    | some (.look isAhead isNegated) => .look isAhead isNegated level.node
    | some .plain | none => level.node
  let isRepeatable :=
    match level.kind with
    | some (.look ..) => false
    | _ => true
  ⟨node, isRepeatable, level.capturesBefore⟩

end Level

/-! ## Assembly -/

/-- The levels that are open, and how many groups have been opened. -/
structure Assembly where
  level : Level
  outer : List Level
  captureCount : Nat

namespace Assembly

/-- Nothing read yet. -/
def start : Assembly where
  level := { kind := none, capturesBefore := 0 }
  outer := []
  captureCount := 0

/-- Add a part to the innermost level. -/
def push (assembly : Assembly) (node : Node) (isRepeatable : Bool) : Assembly :=
  { assembly with
    level := assembly.level.push ⟨node, isRepeatable, assembly.captureCount⟩ }

/-- Open a parenthesis. -/
def openLevel (assembly : Assembly) (kind : GroupKind) : Assembly where
  level := { kind := some kind, capturesBefore := assembly.captureCount }
  outer := assembly.level :: assembly.outer
  captureCount :=
    match kind with
    | .capture _ => assembly.captureCount + 1
    | _ => assembly.captureCount

/-- Close a parenthesis, which has to be open. -/
def closeLevel (assembly : Assembly) : Option Assembly :=
  match assembly.outer with
  | [] => none
  | level :: outer =>
      some { assembly with
        level := level.push assembly.level.toTerm
        outer }

/-- Repeat the last part, which has to be repeatable. -/
def quantify (assembly : Assembly) (least : Nat) (most : Option Nat)
    (isGreedy : Bool) : Option Assembly :=
  match assembly.level.terms with
  | term :: terms =>
      if term.isRepeatable then
        let node := .repetition term.node least most isGreedy term.capturesBefore
          (assembly.captureCount - term.capturesBefore)
        some { assembly with
          level := { assembly.level with
            terms := { term with node, isRepeatable := false } :: terms } }
      else
        none
  | [] => none

/-- Take in one token of a pattern with the given groups. -/
def step (names : List (Option (List Nat))) (assembly : Assembly) :
    Token → Option Assembly
  | .item node => some (assembly.push node true)
  | .reference group =>
      if group ≤ names.length then some (assembly.push (.reference group) true)
      else none
  | .namedReference name =>
      (groupOfName? names name).map fun group =>
        assembly.push (.reference group) true
  | .assertion node => some (assembly.push node false)
  | .opening kind => some (assembly.openLevel kind)
  | .closing => assembly.closeLevel
  | .bar => some { assembly with level := assembly.level.endAlternative }
  | .quantifier least most isGreedy => assembly.quantify least most isGreedy

/-- Take in tokens in turn. -/
def steps (names : List (Option (List Nat))) :
    Assembly → List Token → Option Assembly
  | assembly, [] => some assembly
  | assembly, token :: rest =>
      match assembly.step names token with
      | some next => next.steps names rest
      | none => none

end Assembly

/-- The expression of a pattern, when its syntax is right. -/
def Regex.ofPoints? (pattern : List Nat) (caseless : Bool) : Option Regex :=
  match tokens pattern with
  | none => none
  | some tokens =>
      let names := groupNames tokens
      match Assembly.start.steps names tokens with
      | some ⟨level, [], captureCount⟩ =>
          if namesAreDistinct names then
            some { node := level.node, captureCount, caseless }
          else
            none
      | _ => none

end RegexMatching.Backtrack
