import RegexMatching.Linear.Assembly

/-!
# Numbers of groups

The groups of an expression that has been read are numbered from one on, so no group of it is the
whole match.  Writing out counted repetitions changes nothing about that.
-/

namespace RegexMatching.Linear

/-! ## Expressions -/

namespace Expression

/-- The groups of an expression are numbered from one on. -/
def NumbersGroups : Expression → Prop
  | empty | set _ | assertion _ => True
  | capture group body => 0 < group ∧ body.NumbersGroups
  | sequence first second => first.NumbersGroups ∧ second.NumbersGroups
  | either first second => first.NumbersGroups ∧ second.NumbersGroups
  | repetition body _ _ => body.NumbersGroups

theorem numbersGroups_ofSequence {terms : List Expression}
    (all : ∀ term ∈ terms, term.NumbersGroups) : (ofSequence terms).NumbersGroups := by
  fun_induction ofSequence terms with
  | case1 => trivial
  | case2 only => exact all only List.mem_cons_self
  | case3 first rest notOnly ih =>
      exact ⟨all first List.mem_cons_self, ih fun term mem => all term (List.mem_cons_of_mem _ mem)⟩

theorem numbersGroups_ofAlternatives {terms : List Expression}
    (all : ∀ term ∈ terms, term.NumbersGroups) : (ofAlternatives terms).NumbersGroups := by
  fun_induction ofAlternatives terms with
  | case1 => trivial
  | case2 only => exact all only List.mem_cons_self
  | case3 first rest notOnly ih =>
      exact ⟨all first List.mem_cons_self, ih fun term mem => all term (List.mem_cons_of_mem _ mem)⟩

section Repeated

variable {body : Expression} (numbered : body.NumbersGroups) (isGreedy : Bool)

include numbered

theorem numbersGroups_repeated (count : Count) : (repeated body count isGreedy).NumbersGroups := by
  unfold repeated
  split
  · trivial
  · split
    · exact numbered
    · exact numbered
  · exact numbered

theorem numbersGroups_nestedOptional (count : Nat) :
    (nestedOptional body isGreedy count).NumbersGroups := by
  induction count with
  | zero => exact numbersGroups_repeated numbered isGreedy .optional
  | succ count ih =>
      have both : (sequence body (nestedOptional body isGreedy count)).NumbersGroups :=
        ⟨numbered, ih⟩
      exact numbersGroups_repeated both isGreedy .optional

theorem numbersGroups_unfoldCount (least : Nat) (most : Option Nat) :
    (unfoldCount body isGreedy least most).NumbersGroups := by
  have required : ∀ count last, last.NumbersGroups →
      (ofSequence (List.replicate count body ++ [last])).NumbersGroups := by
    intro count last isNumbered
    refine numbersGroups_ofSequence fun term mem => ?_
    rcases List.mem_append.mp mem with mem | mem
    · exact List.eq_of_mem_replicate mem ▸ numbered
    · exact List.mem_singleton.mp mem ▸ isNumbered
  unfold unfoldCount
  split
  · split
    · exact numbersGroups_repeated numbered isGreedy .any
    · exact required _ _ (numbersGroups_repeated numbered isGreedy .some)
  · dsimp only
    split
    · exact numbersGroups_ofSequence fun term mem => List.eq_of_mem_replicate mem ▸ numbered
    · exact required _ _ (numbersGroups_nestedOptional numbered isGreedy _)

end Repeated

theorem NumbersGroups.unfold {expression : Expression} (numbered : expression.NumbersGroups) :
    expression.unfold.NumbersGroups := by
  induction expression with
  | empty | set | assertion => trivial
  | capture group body ih => exact ⟨numbered.1, ih numbered.2⟩
  | sequence first second ihFirst ihSecond => exact ⟨ihFirst numbered.1, ihSecond numbered.2⟩
  | either first second ihFirst ihSecond => exact ⟨ihFirst numbered.1, ihSecond numbered.2⟩
  | repetition body count isGreedy ih =>
      cases count with
      | counted least most => exact numbersGroups_unfoldCount (ih numbered) isGreedy least most
      | _ => exact numbersGroups_repeated (ih numbered) isGreedy _

end Expression

/-! ## Assembly -/

/-- The groups of a level are numbered from one on. -/
structure Level.NumbersGroups (level : Level) : Prop where
  alternatives : ∀ term ∈ level.alternatives, term.NumbersGroups
  terms : ∀ term ∈ level.terms, term.NumbersGroups
  group : ∀ group ∈ level.group, 0 < group

namespace Level.NumbersGroups

variable {level : Level} (numbered : level.NumbersGroups)

include numbered

theorem push {term : Expression} (isNumbered : term.NumbersGroups) :
    (level.push term).NumbersGroups :=
  ⟨numbered.alternatives, List.forall_mem_cons.mpr ⟨isNumbered, numbered.terms⟩, numbered.group⟩

theorem endAlternative : level.endAlternative.NumbersGroups where
  alternatives := List.forall_mem_cons.mpr
    ⟨Expression.numbersGroups_ofSequence fun term mem =>
      numbered.terms term (List.mem_reverse.mp mem), numbered.alternatives⟩
  terms := nofun
  group := numbered.group

theorem expression : level.expression.NumbersGroups := by
  have body : (Expression.ofAlternatives level.endAlternative.alternatives.reverse).NumbersGroups :=
    Expression.numbersGroups_ofAlternatives fun term mem =>
      numbered.endAlternative.alternatives term (List.mem_reverse.mp mem)
  unfold Level.expression
  dsimp only
  split
  · next group isGroup => exact ⟨numbered.group group isGroup, body⟩
  · exact body

end Level.NumbersGroups

namespace Assembly

/-! ## What is taken in -/

/-- A parenthesis that captures opens a level for the next group. -/
theorem openCapture_eq_some {assembly next : Assembly} {name? : Option (List Nat)}
    (opened : assembly.openCapture name? = some next) :
    next = { assembly with
      level := { group := some (assembly.captureCount + 1), outerFlags := assembly.flags }
      outer := assembly.level :: assembly.outer
      captureCount := assembly.captureCount + 1
      names := assembly.names ++
        (name?.map fun name => (name, assembly.captureCount + 1)).toList } := by
  unfold openCapture at opened
  dsimp only at opened
  split at opened
  · split at opened
    · contradiction
    · exact (Option.some.inj opened).symm
  · exact (Option.some.inj opened).symm

/-- A parenthesis that closes puts what is inside at the end of the level around it. -/
theorem exists_of_closeLevel {assembly next : Assembly} (closed : assembly.closeLevel = some next) :
    ∃ around outer, assembly.outer = around :: outer ∧
      next = { assembly with
        flags := assembly.level.outerFlags
        level := around.push assembly.level.expression
        outer } := by
  unfold closeLevel at closed
  split at closed
  · contradiction
  · next around outer isOuter => exact ⟨around, outer, isOuter, (Option.some.inj closed).symm⟩

/-- A quantifier repeats the last part of the level. -/
theorem exists_of_quantify {assembly next : Assembly} {count : Count} {isMarked : Bool}
    (quantified : assembly.quantify count isMarked = some next) :
    ∃ term terms, assembly.level.terms = term :: terms ∧
      next = { assembly with
        level := { assembly.level with
          terms := .repetition term count (isMarked == assembly.flags.reluctant) :: terms }
        isQuantified := true } := by
  unfold quantify at quantified
  split at quantified
  · next term terms isTerms =>
      dsimp only at quantified
      split at quantified
      · contradiction
      · exact ⟨term, terms, isTerms, (Option.some.inj quantified).symm⟩
  · contradiction

/-! ## Groups of assemblies -/

/-- The groups of an assembly are numbered from one on. -/
structure NumbersGroups (assembly : Assembly) : Prop where
  level : assembly.level.NumbersGroups
  outer : ∀ level ∈ assembly.outer, level.NumbersGroups

theorem numbersGroups_start (flags : Flags) : (start flags).NumbersGroups :=
  ⟨⟨nofun, nofun, nofun⟩, nofun⟩

/-- A token that is taken in numbers its group from one on. -/
theorem NumbersGroups.step {assembly next : Assembly} (numbered : assembly.NumbersGroups)
    {token : Token} (stepped : assembly.step token = some next) : next.NumbersGroups := by
  obtain ⟨level, outer⟩ := numbered
  have inside : ∀ group outerFlags, (∀ number ∈ group, 0 < number) →
      Level.NumbersGroups { group, outerFlags } := fun group outerFlags positive =>
    ⟨nofun, nofun, positive⟩
  have around : ∀ other ∈ assembly.level :: assembly.outer, other.NumbersGroups :=
    List.forall_mem_cons.mpr ⟨level, outer⟩
  cases token with
  | opening kind =>
      cases kind with
      | capture name =>
          obtain rfl := openCapture_eq_some stepped
          refine ⟨inside _ _ fun number mem => ?_, around⟩
          exact Option.mem_some.mp mem ▸ Nat.succ_pos _
      | plain change =>
          cases stepped
          exact ⟨inside none _ nofun, around⟩
  | closing =>
      obtain ⟨next, others, isOuter, rfl⟩ := exists_of_closeLevel stepped
      have outer' := List.forall_mem_cons.mp (isOuter ▸ outer)
      exact ⟨outer'.1.push level.expression, outer'.2⟩
  | bar =>
      cases stepped
      exact ⟨level.endAlternative, outer⟩
  | quantifier count isMarked =>
      obtain ⟨term, terms, isTerms, rfl⟩ := exists_of_quantify stepped
      have all := List.forall_mem_cons.mp (isTerms ▸ level.terms)
      refine ⟨⟨level.alternatives, ?_, level.group⟩, outer⟩
      exact List.forall_mem_cons.mpr ⟨all.1, all.2⟩
  | flags | emptyQuote =>
      cases stepped
      exact ⟨level, outer⟩
  | _ =>
      cases stepped
      exact ⟨level.push trivial, outer⟩

theorem NumbersGroups.steps {assembly final : Assembly} (numbered : assembly.NumbersGroups)
    {tokens : List Token} (stepped : assembly.steps tokens = some final) :
    final.NumbersGroups := by
  induction tokens generalizing assembly with
  | nil =>
      cases stepped
      exact numbered
  | cons token rest ih =>
      rw [Assembly.steps] at stepped
      split at stepped
      · next next once => exact ih (numbered.step once) stepped
      · contradiction

end Assembly

/-- The groups of an expression that has been read are numbered from one on. -/
theorem Regex.numbersGroups_of_read {pattern : List Nat} {flags : Flags} {regex : Regex}
    (isRead : ofPoints? pattern flags = some regex) : regex.expression.NumbersGroups := by
  rw [ofPoints?] at isRead
  split at isRead
  · contradiction
  · split at isRead
    · next stepped =>
        cases isRead
        exact ((Assembly.numbersGroups_start flags).steps stepped).level.expression
    · contradiction

end RegexMatching.Linear
