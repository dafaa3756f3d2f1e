import RegexMatching.Proofs.Exploration
import RegexMatching.Proofs.GroupNumbers

/-!
# The layout of programs

An expression is laid out on top of a program: what is there stays, and what is added leads no
further down than to the first instruction of that program.  Laid out on two programs, it adds
the same instructions but for their numbers.  So a run through the program of an expression can
be followed wherever else the expression has been laid out.
-/

namespace RegexMatching.Linear

/-! ## Programs on a base -/

/-- An instruction that ends no match, leaves alone the slots of the whole match, and leads to
instructions from `low` on. -/
structure Instruction.IsInner (low size : Nat) (instruction : Instruction) : Prop where
  notAccept : instruction ≠ .accept
  slot : ∀ slot next, instruction = .save slot next → 2 ≤ slot
  targets : ∀ target ∈ instruction.targets, low ≤ target ∧ target < size

theorem Instruction.IsInner.mono {low size size' : Nat} {instruction : Instruction}
    (isInner : instruction.IsInner low size) (le : size ≤ size') :
    instruction.IsInner low size' :=
  { isInner with
    targets := fun target mem =>
      ⟨(isInner.targets target mem).1, Nat.lt_of_lt_of_le (isInner.targets target mem).2 le⟩ }

namespace Program

theorem size_push (program : Program) (instruction : Instruction) :
    (program.push instruction).instructions.size = program.instructions.size + 1 :=
  Array.size_push instruction

theorem getElem?_push (program : Program) (instruction : Instruction) (index : Nat) :
    (program.push instruction).instructions[index]? =
      if index = program.instructions.size then some instruction
      else program.instructions[index]? :=
  Array.getElem?_push

/-- A program with instructions on top of another one. -/
structure IsLaidOn (base program : Program) : Prop where
  size_le : base.instructions.size ≤ program.instructions.size
  kept : ∀ index < base.instructions.size,
    program.instructions[index]? = base.instructions[index]?
  le_start : base.instructions.size - 1 ≤ program.start
  start_lt : program.start < program.instructions.size
  isInner : ∀ (index : Nat) (instruction : Instruction), base.instructions.size ≤ index →
    program.instructions[index]? = some instruction →
    instruction.IsInner (base.instructions.size - 1) program.instructions.size

namespace IsLaidOn

variable {base program : Program}

theorem refl (top : base.start + 1 = base.instructions.size) : base.IsLaidOn base where
  size_le := Nat.le_refl _
  kept := fun _ _ => rfl
  le_start := by omega
  start_lt := by omega
  isInner := by
    intro index instruction above fetched
    rw [Array.getElem?_eq_none above] at fetched
    contradiction

section

variable (laid : base.IsLaidOn program)

include laid

theorem push {instruction : Instruction}
    (isInner : instruction.IsInner (base.instructions.size - 1) (program.instructions.size + 1)) :
    base.IsLaidOn (program.push instruction) where
  size_le := by
    rw [size_push]
    exact Nat.le_succ_of_le laid.size_le
  kept := by
    intro index below
    have size_le := laid.size_le
    rw [getElem?_push, if_neg (by omega)]
    exact laid.kept index below
  le_start := Nat.le_trans (Nat.sub_le _ _) laid.size_le
  start_lt := by
    rw [size_push]
    exact Nat.lt_succ_self _
  isInner := by
    intro index other above fetched
    rw [getElem?_push] at fetched
    rw [size_push]
    split at fetched
    · cases fetched
      exact isInner
    · exact (laid.isInner index other above fetched).mono (Nat.le_succ _)

/-- An instruction on top of a base that leads to the program or to itself. -/
theorem push_of_targets {instruction : Instruction} (notAccept : instruction ≠ .accept)
    (slot : ∀ slot next, instruction = .save slot next → 2 ≤ slot)
    (targets : ∀ target ∈ instruction.targets,
      base.instructions.size - 1 ≤ target ∧ target < program.instructions.size) :
    base.IsLaidOn (program.push instruction) :=
  laid.push ⟨notAccept, slot, fun target mem =>
    ⟨(targets target mem).1, Nat.lt_succ_of_lt (targets target mem).2⟩⟩

theorem startAt {start : Nat} (le : base.instructions.size - 1 ≤ start)
    (less : start < program.instructions.size) : base.IsLaidOn { program with start } :=
  { laid with
    le_start := le
    start_lt := less }

theorem fill {index : Nat} (above : base.instructions.size ≤ index) {instruction : Instruction}
    (isInner : instruction.IsInner (base.instructions.size - 1) program.instructions.size) :
    base.IsLaidOn { program with
      instructions := program.instructions.setIfInBounds index instruction } where
  size_le := by
    rw [Array.size_setIfInBounds]
    exact laid.size_le
  kept := by
    intro other below
    rw [Array.getElem?_setIfInBounds_ne (by omega)]
    exact laid.kept other below
  le_start := laid.le_start
  start_lt := by
    rw [Array.size_setIfInBounds]
    exact laid.start_lt
  isInner := by
    intro other filled above' fetched
    rw [Array.size_setIfInBounds]
    rw [Array.getElem?_setIfInBounds] at fetched
    split at fetched
    · split at fetched
      · cases fetched
        exact isInner
      · contradiction
    · exact laid.isInner other filled above' fetched

end

end IsLaidOn

theorem isInner_choice {low size body next : Nat} (isGreedy : Bool)
    (toBody : low ≤ body ∧ body < size) (toNext : low ≤ next ∧ next < size) :
    (choice isGreedy body next).IsInner low size := by
  unfold choice
  split
  · exact ⟨Instruction.noConfusion, nofun, by simp [Instruction.targets, toBody, toNext]⟩
  · exact ⟨Instruction.noConfusion, nofun, by simp [Instruction.targets, toBody, toNext]⟩

/-- A layout that adds to a program on a base. -/
def Lays (base : Program) (layOut : Program → Program) : Prop :=
  ∀ program, base.IsLaidOn program → base.IsLaidOn (layOut program) ∧
    program.instructions.size ≤ (layOut program).instructions.size

section Lays

variable {base : Program} {layOut : Program → Program} (lays : base.Lays layOut)

include lays

theorem Lays.loop (isGreedy : Bool) {program : Program} (laid : base.IsLaidOn program) :
    base.IsLaidOn (loop layOut isGreedy program).1 ∧
      program.instructions.size < (loop layOut isGreedy program).1.instructions.size := by
  have start_lt := laid.start_lt
  have reserved : base.IsLaidOn (program.push (.jump program.start)) :=
    laid.push_of_targets Instruction.noConfusion nofun fun target mem =>
      List.mem_singleton.mp mem ▸ ⟨laid.le_start, laid.start_lt⟩
  obtain ⟨laidOut, grows⟩ := lays _ reserved
  rw [size_push] at grows
  refine ⟨laidOut.fill laid.size_le ?_, ?_⟩
  · exact isInner_choice isGreedy ⟨laidOut.le_start, laidOut.start_lt⟩ ⟨laid.le_start, by omega⟩
  · change _ < (Array.setIfInBounds _ _ _).size
    rw [Array.size_setIfInBounds]
    omega

theorem Lays.optional (isGreedy : Bool) : base.Lays (optional layOut isGreedy) := by
  intro program laid
  obtain ⟨laidOut, grows⟩ := lays program laid
  have start_lt := laid.start_lt
  refine ⟨laidOut.push ?_, ?_⟩
  · exact (isInner_choice isGreedy ⟨laidOut.le_start, laidOut.start_lt⟩
      ⟨laid.le_start, by omega⟩).mono (Nat.le_succ _)
  · rw [Program.optional, size_push]
    omega

end Lays

end Program

/-- What an expression is laid out as stays on top of the base. -/
theorem Expression.lays {expression : Expression} (numbered : expression.NumbersGroups)
    (base : Program) : base.Lays expression.layOut := by
  -- An instruction that only leads to the start of the program keeps it on top of the base.
  have pushes : ∀ (program : Program) (instruction : Instruction), base.IsLaidOn program →
      instruction ≠ .accept → (∀ slot next, instruction = .save slot next → 2 ≤ slot) →
      instruction.targets = [program.start] →
      base.IsLaidOn (program.push instruction) ∧
        program.instructions.size ≤ (program.push instruction).instructions.size := by
    intro program instruction laid notAccept slot targets
    refine ⟨laid.push_of_targets notAccept slot ?_, ?_⟩
    · rw [targets]
      intro target mem
      exact List.mem_singleton.mp mem ▸ ⟨laid.le_start, laid.start_lt⟩
    · rw [Program.size_push]
      exact Nat.le_succ _
  induction expression with
  | empty => exact fun program laid => pushes program _ laid Instruction.noConfusion nofun rfl
  | set => exact fun program laid => pushes program _ laid Instruction.noConfusion nofun rfl
  | assertion => exact fun program laid => pushes program _ laid Instruction.noConfusion nofun rfl
  | capture group body ih =>
      have positive := numbered.1
      intro program laid
      obtain ⟨behind, grows⟩ := pushes program (.save (2 * group + 1) program.start) laid
        Instruction.noConfusion (by rintro slot next ⟨⟩; omega) rfl
      obtain ⟨inside, grows'⟩ := ih numbered.2 _ behind
      obtain ⟨whole, grows''⟩ := pushes _ (.save (2 * group) _) inside Instruction.noConfusion
        (by rintro slot next ⟨⟩; omega) rfl
      exact ⟨whole, Nat.le_trans grows (Nat.le_trans grows' grows'')⟩
  -- Parts are laid out from the back, each on top of what follows it.
  | sequence first second firstIh secondIh =>
      intro program laid
      obtain ⟨behind, grows⟩ := secondIh numbered.2 program laid
      obtain ⟨whole, grows'⟩ := firstIh numbered.1 _ behind
      exact ⟨whole, Nat.le_trans grows grows'⟩
  | either first second firstIh secondIh =>
      intro program laid
      obtain ⟨other, grows⟩ := secondIh numbered.2 program laid
      have below := Nat.lt_of_lt_of_le laid.start_lt grows
      obtain ⟨whole, grows'⟩ := firstIh numbered.1 _ (other.startAt laid.le_start below)
      dsimp only at grows'
      have start_lt := whole.start_lt
      have other_lt := other.start_lt
      refine ⟨whole.push_of_targets Instruction.noConfusion nofun ?_, ?_⟩
      · simp only [Instruction.targets, List.mem_cons, List.not_mem_nil, or_false,
          forall_eq_or_imp, forall_eq]
        exact ⟨⟨whole.le_start, whole.start_lt⟩, other.le_start, by omega⟩
      · rw [Expression.layOut, Program.size_push]
        omega
  | repetition body count isGreedy ih =>
      have lays := ih numbered
      have loops : base.Lays fun program =>
          (Program.loop body.layOut isGreedy program).1 := by
        intro program laid
        obtain ⟨laidOut, grows⟩ := lays.loop isGreedy laid
        exact ⟨laidOut, Nat.le_of_lt grows⟩
      intro program laid
      unfold Expression.layOut
      split
      · exact loops program laid
      · split
        · exact loops.optional isGreedy program laid
        · -- the loop starts with the choice, which stands directly on the program
          obtain ⟨laidOut, grows⟩ := lays.loop isGreedy laid
          have above := Nat.le_trans (Nat.sub_le base.instructions.size 1) laid.size_le
          exact ⟨laidOut.startAt above grows, Nat.le_of_lt grows⟩
      · exact lays.optional isGreedy program laid
      · exact lays.optional isGreedy program laid

/-! ## Programs next to each other -/

/-- The instruction one place further up. -/
def Instruction.raised : Instruction → Instruction
  | accept => accept
  | choose first second => choose (first + 1) (second + 1)
  | step runeClass next => step runeClass (next + 1)
  | check test next => check test (next + 1)
  | save slot next => save slot (next + 1)
  | jump next => jump (next + 1)

namespace Program

/-- A program and another one with the same instructions one place further up.  Nothing is said
about the first two instructions, and the three in their place. -/
structure IsRaised (program raised : Program) : Prop where
  two_le : 2 ≤ program.instructions.size
  size : raised.instructions.size = program.instructions.size + 1
  start : raised.start = program.start + 1
  entry : ∀ index, 2 ≤ index →
    raised.instructions[index + 1]? = (program.instructions[index]?).map Instruction.raised

namespace IsRaised

variable {program raised : Program} (isRaised : program.IsRaised raised)

include isRaised

theorem push (instruction : Instruction) :
    (program.push instruction).IsRaised (raised.push instruction.raised) where
  two_le := by
    rw [size_push]
    exact Nat.le_succ_of_le isRaised.two_le
  size := by
    rw [size_push, size_push, isRaised.size]
  start := isRaised.size
  entry := by
    intro index above
    rw [getElem?_push, getElem?_push, isRaised.size]
    by_cases atTop : index = program.instructions.size
    · rw [if_pos atTop, if_pos (congrArg (· + 1) atTop), Option.map_some]
    · rw [if_neg atTop, if_neg (by omega), isRaised.entry index above]

theorem startAt (start : Nat) :
    IsRaised { program with start } { raised with start := start + 1 } :=
  { isRaised with start := rfl }

theorem fill (place : Nat) (instruction : Instruction) :
    IsRaised
      { program with instructions := program.instructions.setIfInBounds place instruction }
      { raised with
        instructions := raised.instructions.setIfInBounds (place + 1) instruction.raised } where
  two_le := by
    rw [Array.size_setIfInBounds]
    exact isRaised.two_le
  size := by
    rw [Array.size_setIfInBounds, Array.size_setIfInBounds, isRaised.size]
  start := isRaised.start
  entry := by
    intro index above
    rw [Array.getElem?_setIfInBounds, Array.getElem?_setIfInBounds, isRaised.size]
    by_cases atPlace : place = index
    · rw [if_pos atPlace, if_pos (congrArg (· + 1) atPlace)]
      by_cases inside : place < program.instructions.size
      · rw [if_pos inside, if_pos (Nat.succ_lt_succ inside), Option.map_some]
      · rw [if_neg inside, if_neg (by omega), Option.map_none]
    · rw [if_neg atPlace, if_neg (by omega), isRaised.entry index above]

end IsRaised

theorem raised_choice (isGreedy : Bool) (body next : Nat) :
    (choice isGreedy body next).raised = choice isGreedy (body + 1) (next + 1) := by
  cases isGreedy <;> rfl

/-- A layout that adds the same instructions to a program and to a raised one. -/
def Raises (layOut : Program → Program) : Prop :=
  ∀ program raised, IsRaised program raised → IsRaised (layOut program) (layOut raised)

section Raises

variable {layOut : Program → Program} (raises : Raises layOut)

include raises

theorem Raises.loop (isGreedy : Bool) {program raised : Program}
    (isRaised : program.IsRaised raised) :
    (loop layOut isGreedy program).1.IsRaised (loop layOut isGreedy raised).1 := by
  have reserved := isRaised.push (.jump program.start)
  rw [show (Instruction.jump program.start).raised = .jump raised.start from
    congrArg Instruction.jump isRaised.start.symm] at reserved
  have laidOut := raises _ _ reserved
  have filled := laidOut.fill program.instructions.size
    (choice isGreedy (layOut (program.push (.jump program.start))).start program.start)
  rw [raised_choice, ← laidOut.start, ← isRaised.start, ← isRaised.size] at filled
  exact filled

theorem Raises.optional (isGreedy : Bool) : Raises (optional layOut isGreedy) := by
  intro program raised isRaised
  have laidOut := raises _ _ isRaised
  have pushed := laidOut.push (choice isGreedy (layOut program).start program.start)
  rw [raised_choice, ← laidOut.start, ← isRaised.start] at pushed
  exact pushed

end Raises

end Program

/-- An expression is laid out as the same instructions wherever it is laid out. -/
theorem Expression.raises (expression : Expression) : Program.Raises expression.layOut := by
  have pushes : ∀ (program raised : Program) (make : Nat → Instruction),
      (∀ next, (make next).raised = make (next + 1)) → program.IsRaised raised →
      (program.push (make program.start)).IsRaised (raised.push (make raised.start)) := by
    intro program raised make makes isRaised
    rw [isRaised.start, ← makes]
    exact isRaised.push _
  have chosen : ∀ first second : Nat,
      (Instruction.choose first second).raised = .choose (first + 1) (second + 1) :=
    fun _ _ => rfl
  induction expression with
  | empty => exact fun program raised => pushes program raised _ fun _ => rfl
  | set runeClass =>
      exact fun program raised => pushes program raised (.step runeClass) fun _ => rfl
  | assertion test =>
      exact fun program raised => pushes program raised (.check test) fun _ => rfl
  | capture group body ih =>
      intro program raised isRaised
      have behind := pushes _ _ (.save (2 * group + 1)) (fun _ => rfl) isRaised
      exact pushes _ _ (.save (2 * group)) (fun _ => rfl) (ih _ _ behind)
  | sequence first second firstIh secondIh =>
      exact fun program raised isRaised => firstIh _ _ (secondIh _ _ isRaised)
  | either first second firstIh secondIh =>
      intro program raised isRaised
      have other := secondIh _ _ isRaised
      have behind := other.startAt program.start
      rw [← isRaised.start] at behind
      have whole := firstIh _ _ behind
      have pushed := whole.push (.choose
        (first.layOut ⟨(second.layOut program).instructions, program.start⟩).start
        (second.layOut program).start)
      rw [chosen, ← whole.start, ← other.start] at pushed
      exact pushed
  | repetition body count isGreedy ih =>
      have loops : Program.Raises fun program => (Program.loop body.layOut isGreedy program).1 :=
        fun program raised isRaised => ih.loop isGreedy isRaised
      intro program raised isRaised
      unfold Expression.layOut
      split
      · exact loops _ _ isRaised
      · split
        · exact loops.optional isGreedy _ _ isRaised
        · have started := (loops _ _ isRaised).startAt program.instructions.size
          rw [← isRaised.size] at started
          exact started
      · exact ih.optional isGreedy _ _ isRaised
      · exact ih.optional isGreedy _ _ isRaised

end RegexMatching.Linear
