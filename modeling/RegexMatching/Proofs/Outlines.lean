import RegexMatching.Proofs.GroupCounts

/-!
# Outlines of assemblies

Whether tokens can be put together hardly depends on what they match.  It depends on the
parentheses that are open, on whether a quantifier may follow, and on the groups that are
referred to.  An outline keeps the first two, and the third is a property of each token.
-/

namespace RegexMatching.Backtrack

/-! ## Outlines -/

/-- Whether what a parenthesis makes may be repeated. -/
def GroupKind.isRepeatable : GroupKind → Bool
  | look .. => false
  | _ => true

/-- Whether the group that a token refers to exists, if it refers to any. -/
def Token.isBound (names : List (Option (List Nat))) : Token → Bool
  | .reference group => decide (group ≤ names.length)
  | .namedReference name => (groupOfName? names name).isSome
  | _ => true

/-- What remains of an assembly without its nodes. -/
structure Outline where
  /-- Whether a quantifier may follow. -/
  isRepeatable : Bool
  /-- Whether a quantifier may follow the innermost level once that is closed. -/
  level : Bool
  /-- The same for the levels around it. -/
  outer : List Bool
deriving DecidableEq

namespace Outline

/-- Nothing read yet. -/
def start : Outline :=
  ⟨false, true, []⟩

/-- Take in one token. -/
def step (outline : Outline) : Token → Option Outline
  | .item _ | .reference _ | .namedReference _ => some { outline with isRepeatable := true }
  | .assertion _ | .bar => some { outline with isRepeatable := false }
  | .opening kind => some ⟨false, kind.isRepeatable, outline.level :: outline.outer⟩
  | .closing =>
      match outline.outer with
      | [] => none
      | level :: outer => some ⟨outline.level, level, outer⟩
  | .quantifier .. =>
      if outline.isRepeatable then some { outline with isRepeatable := false } else none

/-- Take in tokens in turn. -/
def steps (outline : Outline) (read : List Token) : Option Outline :=
  read.foldlM step outline

theorem steps_cons (outline : Outline) (token : Token) (rest : List Token) :
    outline.steps (token :: rest) = (outline.step token).bind (·.steps rest) :=
  List.foldlM_cons

theorem steps_append (outline : Outline) (first second : List Token) :
    outline.steps (first ++ second) = (outline.steps first).bind (·.steps second) :=
  List.foldlM_append

/-- An outline inside further levels. -/
def inside (outline : Outline) (around : List Bool) : Outline :=
  { outline with outer := outline.outer ++ around }

theorem step_inside {outline next : Outline} {token : Token} (around : List Bool)
    (stepped : outline.step token = some next) :
    (outline.inside around).step token = some (next.inside around) := by
  rcases outline with ⟨isRepeatable, level, outer⟩
  cases token with
  | closing =>
      cases outer with
      | nil => contradiction
      | cons around outer =>
          cases stepped
          rfl
  | quantifier least most isGreedy =>
      simp only [step] at stepped
      split at stepped
      · next isRepeatable =>
          cases stepped
          exact if_pos isRepeatable
      · contradiction
  | _ =>
      cases stepped
      rfl

/-- What can be read can be read inside further levels. -/
theorem steps_inside {outline final : Outline} {read : List Token} (around : List Bool)
    (stepped : outline.steps read = some final) :
    (outline.inside around).steps read = some (final.inside around) := by
  induction read generalizing outline with
  | nil =>
      cases stepped
      rfl
  | cons token rest ih =>
      rw [steps_cons] at stepped ⊢
      obtain ⟨next, once, others⟩ := Option.bind_eq_some_iff.mp stepped
      rw [step_inside around once]
      exact ih others

/-- Where a quantifier does not come first, it does not matter whether one might. -/
theorem steps_of_not_isQuantifier (outline : Outline) {token : Token}
    (notQuantifier : token.isQuantifier = false) (rest : List Token) (isRepeatable : Bool) :
    ({ outline with isRepeatable } : Outline).steps (token :: rest) =
      outline.steps (token :: rest) := by
  rw [steps_cons, steps_cons]
  cases token <;> first | rfl | contradiction

end Outline

/-! ## Outlines of assemblies -/

namespace Assembly

/-- The outline of an assembly. -/
def outline (assembly : Assembly) : Outline where
  isRepeatable := assembly.level.terms.head?.any Term.isRepeatable
  level := assembly.level.toTerm.isRepeatable
  outer := assembly.outer.map fun level => level.toTerm.isRepeatable

/-- An assembly takes in a token whenever its outline does and the token is bound. -/
theorem outline_step (names : List (Option (List Nat))) (assembly : Assembly) (token : Token) :
    (assembly.step names token).map outline =
      if token.isBound names then assembly.outline.step token else none := by
  rcases assembly with ⟨level, outer, captureCount⟩
  cases token with
  | reference group =>
      by_cases isGroup : group ≤ names.length
      · rw [step, if_pos isGroup, Token.isBound, decide_eq_true isGroup]
        rfl
      · rw [step, if_neg isGroup, Token.isBound, decide_eq_false isGroup]
        rfl
  | namedReference name =>
      rw [step, Token.isBound]
      cases groupOfName? names name <;> rfl
  | opening kind => cases kind <;> rfl
  | closing => cases outer <;> rfl
  | quantifier least most isGreedy =>
      rcases level with ⟨kind, capturesBefore, alternatives, _ | ⟨term, terms⟩⟩
      · rfl
      · rw [step, quantify]
        cases isRepeatable : term.isRepeatable <;>
          simp [isRepeatable, Token.isBound, outline, Outline.step, Level.toTerm]
  | _ => rfl

/-- An assembly takes in tokens whenever its outline does and all of them are bound. -/
theorem outline_steps (names : List (Option (List Nat))) (assembly : Assembly)
    (read : List Token) :
    (assembly.steps names read).map outline =
      if read.all (Token.isBound names) then assembly.outline.steps read else none := by
  induction read generalizing assembly with
  | nil => rfl
  | cons token rest ih =>
      have once := outline_step names assembly token
      rw [steps, Outline.steps_cons, List.all_cons]
      cases isBound : token.isBound names with
      | false =>
          rw [isBound, if_neg Bool.false_ne_true] at once
          rw [Option.map_eq_none_iff.mp once]
          rfl
      | true =>
          rw [isBound, if_pos rfl] at once
          rw [← once, Bool.true_and]
          cases assembly.step names token with
          | none => simp
          | some next => exact ih next

end Assembly

/-! ## Patterns that can be read -/

/-- Whether tokens make a pattern: they can be put together, and what they refer to exists. -/
def isPattern (read : List Token) : Bool :=
  read.all (Token.isBound (groupNames read)) && namesAreDistinct (groupNames read) &&
    (Outline.start.steps read).any (·.outer.isEmpty)

/-- A pattern can be read if its tokens make one. -/
theorem isSome_ofPoints? (pattern : List Nat) (caseless : Bool) :
    (Regex.ofPoints? pattern caseless).isSome = (tokens pattern).any isPattern := by
  rw [Regex.ofPoints?]
  cases tokens pattern with
  | none => rfl
  | some read =>
      have stepped := Assembly.outline_steps (groupNames read) .start read
      rw [Option.any_some, isPattern]
      dsimp only
      cases isBound : read.all (Token.isBound (groupNames read)) with
      | false =>
          rw [isBound, if_neg Bool.false_ne_true] at stepped
          rw [Option.map_eq_none_iff.mp stepped]
          rfl
      | true =>
          rw [isBound, if_pos rfl] at stepped
          change _ = Outline.start.steps read at stepped
          rw [← stepped, Bool.true_and]
          rcases Assembly.start.steps (groupNames read) read with _ | ⟨level, _ | _, captureCount⟩
          · simp
          · cases namesAreDistinct (groupNames read) <;> rfl
          · simp [Assembly.outline]

/-! ## Quantifiers -/

/-- The first token of a pattern is a quantifier if the pattern begins with a mark. -/
theorem isQuantifier_head? {pattern : List Nat} {read : List Token}
    (isRead : tokens pattern = some read) :
    read.head?.any Token.isQuantifier =
      pattern.head?.any fun point => quantifierMarks.contains (PointReader.charOf point) := by
  cases pattern with
  | nil =>
      rw [tokens] at isRead
      cases isRead
      rfl
  | cons point rest =>
      rw [tokens_cons] at isRead
      obtain ⟨⟨token, after⟩, isToken, isOthers⟩ := Option.bind_eq_some_iff.mp isRead
      obtain ⟨others, -, rfl⟩ := Option.map_eq_some_iff.mp isOthers
      exact isQuantifier_of_readToken isToken

end RegexMatching.Backtrack
