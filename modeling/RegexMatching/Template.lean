import RegexMatching.Group

/-!
# Replacement templates

A template is read once from left to right:

- a backslash makes the next code point stand for itself;
- a dollar sign and digits refer to a group by number, as many digits being
  taken as still name an existing group;
- a dollar sign and braces refer to a group by number or by name;
- anything else stands for itself.

Expansion writes as it reads, so what comes before a faulty reference has been
written when the fault is met.  `quote` writes text as a template for itself.
-/

namespace RegexMatching

/-- What a template is expanded against. -/
structure Captures where
  /-- How many groups there are, the whole match included. -/
  size : Nat
  names : GroupNames
  /-- The text of a group, or nothing when it took no part in the match. -/
  group : Nat → Except Fault (Option Text)

/-- What an expansion has written, and the fault that ended it early. -/
structure Expansion where
  output : Text
  fault : Option Fault

namespace Expansion

/-- Text written before an expansion. -/
def after (written : Text) (expansion : Expansion) : Expansion :=
  { expansion with output := written ++ expansion.output }

end Expansion

namespace Template

/-! ## References -/

/-- The text of a group, empty when it took no part in the match. -/
def groupText (captures : Captures) (group : Nat) : Except Fault Text :=
  (captures.group group).map (·.getD [])

/-- Read further digits while the number still names a group. -/
def extendNumber (size : Nat) : Nat → Text → Nat × Text
  | group, [] => (group, [])
  | group, unit :: rest =>
      let longer := group * 10 + (unit.toNat - 48)
      if unit.isDigit && longer < size then
        extendNumber size longer rest
      else
        (group, unit :: rest)

/-- The group of a run of digits. -/
def numberedGroup (captures : Captures) (digits : Text) : Except Fault Nat :=
  let group := Text.decimalValue digits
  if group < captures.size then .ok group
  else .error (.noTemplateGroup digits)

/-- The group of a name. -/
def namedGroup (captures : Captures) (name : Text) : Except Fault Nat :=
  if Text.isName name then
    match captures.names.group? name with
    | some group => .ok group
    | none => .error (.noTemplateGroupNamed name)
  else
    .error (.malformedGroupName name)

/-- The group that stands between braces. -/
def bracedGroup (captures : Captures) : Text → Except Fault Nat
  | [] => .error .groupNameEmpty
  | first :: rest =>
      if first.isDigit then
        if rest.all CodeUnit.isDigit then numberedGroup captures (first :: rest)
        else .error (.malformedGroupNumber (first :: rest))
      else
        namedGroup captures (first :: rest)

/-- The group a reference means and the text after the reference.  The dollar
sign has been read. -/
def reference (captures : Captures) : Text → Except Fault (Nat × Text)
  | [] => .error .groupIndexMissing
  | unit :: rest =>
      if unit.toChar = '{' then
        match Text.cut? [CodeUnit.ofChar '}'] rest with
        | none => .error .closingBraceMissing
        | some (inner, rest) =>
            (bracedGroup captures inner).map fun group => (group, rest)
      else if unit.isDigit then
        (numberedGroup captures [unit]).map fun group =>
          extendNumber captures.size group rest
      else
        .error .malformedReference

theorem length_of_extendNumber (size group : Nat) (text : Text) :
    (extendNumber size group text).2.length ≤ text.length := by
  induction text generalizing group with
  | nil => simp [extendNumber]
  | cons unit rest ih =>
      simp only [extendNumber]
      split
      · exact Nat.le_succ_of_le (ih _)
      · simp

/-- A reference leaves no more text than it was given. -/
theorem length_of_reference {captures : Captures} {text rest : Text} {group : Nat}
    (read : reference captures text = .ok (group, rest)) :
    rest.length ≤ text.length := by
  unfold reference at read
  split at read
  · contradiction
  · next unit tail =>
      split at read
      · split at read
        · contradiction
        · next inner after found =>
            have lengths := Text.length_of_cut? found
            cases outcome : bracedGroup captures inner with
            | error fault => simp [outcome, Except.map] at read
            | ok value =>
                simp only [outcome, Except.map, Except.ok.injEq, Prod.mk.injEq] at read
                simp only [List.length_cons, ← read.2]
                omega
      · split at read
        · cases outcome : numberedGroup captures [unit] with
          | error fault => simp [outcome, Except.map] at read
          | ok value =>
              simp only [outcome, Except.map, Except.ok.injEq] at read
              have shorter := length_of_extendNumber captures.size value tail
              simp only [read] at shorter
              exact Nat.le_succ_of_le shorter
        · contradiction

/-! ## Expansion -/

/-- Expand a template. -/
def expand (captures : Captures) : Text → Expansion
  | [] => ⟨[], none⟩
  | unit :: rest =>
      if unit.toChar = '\\' then
        if rest.isEmpty then
          ⟨[], some .escapeMissing⟩
        else
          let taken := Text.firstPointLength rest
          (expand captures (rest.drop taken)).after (rest.take taken)
      else if unit.toChar = '$' then
        match read : reference captures rest with
        | .error fault => ⟨[], some fault⟩
        | .ok (group, after) =>
            have _ := length_of_reference read
            match groupText captures group with
            | .error fault => ⟨[], some fault⟩
            | .ok text => (expand captures after).after text
      else
        (expand captures rest).after [unit]
termination_by template => template.length
decreasing_by
  all_goals simp only [List.length_drop, List.length_cons]; omega

/-! ## Quoting -/

/-- Escape backslashes and dollar signs, so that the text is a template for
itself. -/
def quote (text : Text) : Text :=
  text.flatMap fun unit =>
    if unit.toChar = '\\' || unit.toChar = '$' then
      [CodeUnit.ofChar '\\', unit]
    else
      [unit]

end Template

end RegexMatching
