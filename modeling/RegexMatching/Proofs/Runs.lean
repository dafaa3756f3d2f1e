import RegexMatching.Proofs.Layout

/-!
# Runs through the program of an expression

A match stores where it starts before anything else and where it ends last of all.  With the end
of the text behind the expression, a match ends there, and the expression by itself matches from
the same position as well.
-/

namespace RegexMatching.Linear

/-! ## Programs of expressions -/

/-- What the program of every expression stands on: the end of a match is stored, and the match is
complete. -/
def Program.ending : Program :=
  ⟨#[.accept, .save 1 0], 1⟩

/-- The same where a match has to reach the end of the text. -/
def Program.endingAtEnd : Program :=
  ⟨#[.accept, .save 1 0, .check .textEnd 1], 2⟩

namespace Regex

/-- The program of an expression without its first instruction. -/
def inside (regex : Regex) : Program :=
  regex.expression.unfold.layOut Program.ending

theorem program_eq (regex : Regex) :
    regex.program = regex.inside.push (.save 0 regex.inside.start) :=
  rfl

/-- An expression with the end of the text behind it. -/
def ended (regex : Regex) : Regex :=
  { regex with expression := .sequence regex.expression (.assertion .textEnd) }

section Program

variable {regex : Regex} (numbered : regex.expression.NumbersGroups)

include numbered

theorem isLaidOn_inside : Program.ending.IsLaidOn regex.inside :=
  (Expression.lays numbered.unfold _ _ (.refl rfl)).1

theorem isLaidOn_inside_ended : Program.endingAtEnd.IsLaidOn regex.ended.inside :=
  (Expression.lays numbered.unfold _ _ (.refl rfl)).1

omit numbered in
theorem isRaised_inside (regex : Regex) : regex.inside.IsRaised regex.ended.inside := by
  refine Expression.raises _ _ _ ⟨Nat.le_refl 2, rfl, rfl, fun index above => ?_⟩
  have beyond : Program.ending.instructions[index]? = none := Array.getElem?_eq_none above
  have beyondAtEnd : Program.endingAtEnd.instructions[index + 1]? = none :=
    Array.getElem?_eq_none (Nat.succ_le_succ above)
  rw [beyond]
  exact beyondAtEnd

omit numbered in
theorem getElem?_program (regex : Regex) (index : Nat) :
    regex.program.instructions[index]? =
      if index = regex.inside.instructions.size then some (.save 0 regex.inside.start)
      else regex.inside.instructions[index]? :=
  Program.getElem?_push _ _ _

theorem getElem?_program_zero : regex.program.instructions[0]? = some .accept := by
  have laid := isLaidOn_inside numbered
  have size_le : 2 ≤ regex.inside.instructions.size := laid.size_le
  rw [getElem?_program, if_neg (by omega)]
  exact laid.kept 0 (Nat.zero_lt_succ 1)

theorem getElem?_program_one : regex.program.instructions[1]? = some (.save 1 0) := by
  have laid := isLaidOn_inside numbered
  have size_le : 2 ≤ regex.inside.instructions.size := laid.size_le
  rw [getElem?_program, if_neg (by omega)]
  exact laid.kept 1 (Nat.lt_succ_self 1)

/-- Every instruction of a program leads to instructions of it. -/
theorem leadsInside_program : regex.program.LeadsInside := by
  have laid := isLaidOn_inside numbered
  have size_le : 2 ≤ regex.inside.instructions.size := laid.size_le
  intro index instruction fetched target mem
  rw [program_eq, Program.size_push]
  rcases Nat.lt_or_ge index 2 with below | above
  · obtain rfl | rfl : index = 0 ∨ index = 1 := by omega
    · rw [getElem?_program_zero numbered] at fetched
      cases fetched
      contradiction
    · rw [getElem?_program_one numbered] at fetched
      cases fetched
      rw [List.mem_singleton.mp mem]
      omega
  · rw [getElem?_program] at fetched
    split at fetched
    · cases fetched
      rw [List.mem_singleton.mp mem]
      exact Nat.lt_succ_of_lt laid.start_lt
    · exact Nat.lt_succ_of_lt ((laid.isInner index instruction above fetched).targets target mem).2

end Program

end Regex

/-! ## Moves -/

namespace Program

theorem Goes.size_slots {program : Program} {points : Array Nat} {thread after : Thread}
    (goes : program.Goes points thread after) : after.slots.size = thread.slots.size := by
  obtain ⟨instruction, -, moves⟩ := goes
  cases moves with
  | save slot next => exact Array.size_setIfInBounds
  | _ => rfl

end Program

/-- A move through the program of an expression: the start of the match is stored, or a move is made
inside the expression, or the end of the match is stored. -/
inductive Regex.Move (regex : Regex) (points : Array Nat) (thread after : Thread) : Prop
  | first (atFirst : thread.instruction = regex.inside.instructions.size)
      (same : after = { thread with
        instruction := regex.inside.start
        slots := thread.slots.setIfInBounds 0 (some thread.position) })
  | inside (instruction : Instruction) (two_le : 2 ≤ thread.instruction)
      (fetched : regex.inside.instructions[thread.instruction]? = some instruction)
      (moves : instruction.Moves points thread after)
  | last (atOne : thread.instruction = 1)
      (same : after = { thread with
        instruction := 0
        slots := thread.slots.setIfInBounds 1 (some thread.position) })

/-- How far a run has got that started at a position: it is at the first instruction, or inside
the expression and has stored the start, or at the end and has stored the end as well. -/
inductive Regex.Stage (regex : Regex) (start : Nat) (thread : Thread) : Prop
  | first (atFirst : thread.instruction = regex.inside.instructions.size)
      (atStart : thread.position = start)
  | inside (one_le : 1 ≤ thread.instruction)
      (less : thread.instruction < regex.inside.instructions.size)
      (stored : thread.slots[0]? = some (some start))
  | last (atLast : thread.instruction = 0) (stored : thread.slots[0]? = some (some start))
      (storedEnd : thread.slots[1]? = some (some thread.position))

namespace Regex

section Runs

variable {regex : Regex} (numbered : regex.expression.NumbersGroups) {points : Array Nat}
  {start slotCount : Nat} {thread after : Thread}

include numbered

theorem goes_iff_move :
    regex.program.Goes points thread after ↔ regex.Move points thread after := by
  have laid := isLaidOn_inside numbered
  have size_le : 2 ≤ regex.inside.instructions.size := laid.size_le
  constructor
  · rintro ⟨instruction, fetched, moves⟩
    rcases Nat.lt_or_ge thread.instruction 2 with low | high
    · obtain atZero | atOne : thread.instruction = 0 ∨ thread.instruction = 1 := by omega
      · rw [atZero, getElem?_program_zero numbered] at fetched
        cases fetched
        cases moves
      · rw [atOne, getElem?_program_one numbered] at fetched
        cases fetched
        exact .last atOne (Instruction.moves_save.mp moves)
    · rw [getElem?_program] at fetched
      split at fetched
      · next atFirst =>
          cases fetched
          exact .first atFirst (Instruction.moves_save.mp moves)
      · exact .inside instruction high fetched moves
  · intro move
    cases move with
    | first atFirst same =>
        exact ⟨_, by rw [getElem?_program, if_pos atFirst], Instruction.moves_save.mpr same⟩
    | inside instruction two_le fetched moves =>
        have less := (Array.getElem?_eq_some_iff.mp fetched).1
        exact ⟨instruction, by rw [getElem?_program, if_neg (Nat.ne_of_lt less), fetched], moves⟩
    | last atOne same =>
        exact ⟨_, by rw [atOne, getElem?_program_one numbered], Instruction.moves_save.mpr same⟩

/-! ## Where a run has got to -/

omit numbered in
theorem Stage.position_eq (stage : regex.Stage start thread)
    (atFirst : thread.instruction = regex.inside.instructions.size)
    (size_le : 2 ≤ regex.inside.instructions.size) : thread.position = start := by
  cases stage with
  | first _ atStart => exact atStart
  | inside _ less _ => omega
  | last atLast _ _ => omega

omit numbered in
/-- Behind the first instruction the start has been stored. -/
theorem Stage.stored_start (stage : regex.Stage start thread)
    (notFirst : thread.instruction ≠ regex.inside.instructions.size) :
    thread.slots[0]? = some (some start) := by
  cases stage with
  | first atFirst _ => contradiction
  | inside _ _ stored => exact stored
  | last _ stored _ => exact stored

theorem Stage.step (stage : regex.Stage start thread) (room : 2 ≤ thread.slots.size)
    (goes : regex.program.Goes points thread after) : regex.Stage start after := by
  have laid := isLaidOn_inside numbered
  have size_le : 2 ≤ regex.inside.instructions.size := laid.size_le
  cases (goes_iff_move numbered).mp goes with
  | first atFirst same =>
      subst same
      refine .inside laid.le_start laid.start_lt ?_
      rw [Array.getElem?_setIfInBounds_self_of_lt (by omega), stage.position_eq atFirst size_le]
  | inside instruction two_le fetched moves =>
      have less := (Array.getElem?_eq_some_iff.mp fetched).1
      have isInner := laid.isInner _ _ two_le fetched
      have target := isInner.targets _ moves.mem_targets
      have stored := stage.stored_start (Nat.ne_of_lt less)
      refine .inside target.1 target.2 ?_
      cases moves with
      | save slot next =>
          have two_le := isInner.slot slot next rfl
          rw [Array.getElem?_setIfInBounds_ne (by omega)]
          exact stored
      | _ => exact stored
  | last atOne same =>
      subst same
      have stored := stage.stored_start (by omega)
      refine .last rfl ?_ (Array.getElem?_setIfInBounds_self_of_lt room)
      rw [Array.getElem?_setIfInBounds_ne (by decide)]
      exact stored

theorem stage_of_reaches (room : 2 ≤ slotCount)
    (reaches : regex.program.Reaches points (regex.program.startThread slotCount start) thread) :
    regex.Stage start thread ∧ 2 ≤ thread.slots.size := by
  induction reaches with
  | refl =>
      refine ⟨.first rfl rfl, ?_⟩
      rw [Program.startThread, Array.size_replicate]
      exact room
  | tail _ goes ih =>
      refine ⟨ih.1.step numbered ih.2 goes, ?_⟩
      rw [goes.size_slots]
      exact ih.2

/-- A run that ends has stored where it started and where it ended. -/
theorem stored_of_reaches (room : 2 ≤ slotCount)
    (reaches : regex.program.Reaches points (regex.program.startThread slotCount start) thread)
    (accepts : regex.program.Accepts thread) :
    thread.instruction = 0 ∧ thread.slots[0]? = some (some start) ∧
      thread.slots[1]? = some (some thread.position) := by
  have laid := isLaidOn_inside numbered
  rw [Program.Accepts] at accepts
  cases (stage_of_reaches numbered room reaches).1 with
  | first atFirst atStart =>
      rw [getElem?_program, if_pos atFirst] at accepts
      cases accepts
  | inside one_le less stored =>
      rcases Nat.eq_or_lt_of_le one_le with atOne | above
      · rw [← atOne, getElem?_program_one numbered] at accepts
        cases accepts
      · rw [getElem?_program, if_neg (Nat.ne_of_lt less)] at accepts
        exact absurd rfl (laid.isInner _ _ above accepts).notAccept
  | last atLast stored storedEnd => exact ⟨atLast, stored, storedEnd⟩

/-! ## Runs to the end of the text -/

theorem numbersGroups_ended : regex.ended.expression.NumbersGroups :=
  ⟨numbered, trivial⟩

/-- With the end of the text behind the expression, its last instructions are only reached
there. -/
theorem atEnd_of_reaches
    (reaches : regex.ended.program.Reaches points
      (regex.ended.program.startThread slotCount start) thread)
    (below : thread.instruction ≤ 1) : thread.position = points.size := by
  have laid := isLaidOn_inside_ended numbered
  have size_le : 3 ≤ regex.ended.inside.instructions.size := laid.size_le
  induction reaches with
  | refl =>
      have atFirst : regex.ended.inside.instructions.size ≤ 1 := below
      omega
  | @tail middle after _ goes ih =>
      cases (goes_iff_move (numbersGroups_ended numbered)).mp goes with
      | first atFirst same =>
          have two_le : 2 ≤ regex.ended.inside.start := laid.le_start
          rw [same] at below
          exact absurd below (Nat.not_le.mpr two_le)
      | inside instruction two_le fetched moves =>
          rcases Nat.eq_or_lt_of_le two_le with atTwo | above
          · rw [← atTwo, laid.kept 2 (Nat.lt_succ_self 2)] at fetched
            cases fetched
            obtain ⟨atEnd, rfl⟩ := Instruction.moves_check.mp moves
            exact of_decide_eq_true atEnd
          · have two_le : 2 ≤ after.instruction :=
              ((laid.isInner _ _ above fetched).targets _ moves.mem_targets).1
            omega
      | last atOne same =>
          rw [same]
          exact ih (Nat.le_of_eq atOne)

end Runs

/-- What a raised instruction does, the instruction does too. -/
theorem exists_moves_of_raised {points : Array Nat} {instruction : Instruction}
    {thread after other : Thread} (moves : instruction.raised.Moves points thread after)
    (samePosition : other.position = thread.position) :
    ∃ after', instruction.Moves points other after' ∧
      after.instruction = after'.instruction + 1 ∧ after'.position = after.position := by
  cases instruction with
  | accept => cases moves
  | choose first second =>
      rcases Instruction.moves_choose.mp moves with rfl | rfl
      · exact ⟨_, .first first second, rfl, samePosition⟩
      · exact ⟨_, .second first second, rfl, samePosition⟩
  | step runeClass next =>
      obtain ⟨⟨point, atPosition, contains⟩, rfl⟩ := Instruction.moves_step.mp moves
      exact ⟨_, .step next (samePosition ▸ atPosition) contains, rfl, congrArg (· + 1) samePosition⟩
  | check test next =>
      obtain ⟨holds, rfl⟩ := Instruction.moves_check.mp moves
      exact ⟨_, .check next (samePosition ▸ holds), rfl, samePosition⟩
  | save slot next =>
      obtain rfl := Instruction.moves_save.mp moves
      exact ⟨_, .save slot next, rfl, samePosition⟩
  | jump next =>
      obtain rfl := Instruction.moves_jump.mp moves
      exact ⟨_, .jump next, rfl, samePosition⟩

/-- The instruction of the expression by itself for one with the end of the text behind it: the
test of the end is left out. -/
def lowered (instruction : Nat) : Nat :=
  if instruction ≤ 1 then instruction else instruction - 1

/-- A run with the end of the text behind the expression can be followed without. -/
theorem exists_reaches_of_ended {regex : Regex} (numbered : regex.expression.NumbersGroups)
    {points : Array Nat} {start slotCount : Nat} {thread : Thread}
    (reaches : regex.ended.program.Reaches points
      (regex.ended.program.startThread slotCount start) thread) :
    ∃ other, regex.program.Reaches points (regex.program.startThread slotCount start) other ∧
      other.instruction = lowered thread.instruction ∧ other.position = thread.position := by
  have laid := isLaidOn_inside numbered
  have laidEnded := isLaidOn_inside_ended numbered
  have isRaised := isRaised_inside regex
  have two_le := isRaised.two_le
  have size := isRaised.size
  have first_eq : lowered regex.ended.inside.instructions.size =
      regex.inside.instructions.size := by
    rw [lowered, if_neg (by omega), size, Nat.add_sub_cancel]
  -- The two programs go step by step together; only the test of the end is a step of one alone.
  induction reaches with
  | refl => exact ⟨_, .refl, first_eq.symm, rfl⟩
  | @tail middle after _ goes ih =>
      obtain ⟨other, reaches, atOther, samePosition⟩ := ih
      have follow : ∀ {next}, regex.Move points other next →
          regex.program.Reaches points (regex.program.startThread slotCount start) next :=
        fun move => reaches.tail ((goes_iff_move numbered).mpr move)
      cases (goes_iff_move (numbersGroups_ended numbered)).mp goes with
      | first atFirst same =>
          have one_le : 1 ≤ regex.inside.start := laid.le_start
          rw [atFirst, first_eq] at atOther
          refine ⟨_, follow (.first atOther rfl), ?_, by rw [same]; exact samePosition⟩
          rw [same]
          change regex.inside.start = lowered regex.ended.inside.start
          rw [isRaised.start, lowered, if_neg (by omega), Nat.add_sub_cancel]
      | inside instruction two_le fetched moves =>
          rcases Nat.eq_or_lt_of_le two_le with atTwo | above
          · -- the test of the end is passed, which there is none of without
            rw [← atTwo, laidEnded.kept 2 (Nat.lt_succ_self 2)] at fetched
            cases fetched
            obtain ⟨-, rfl⟩ := Instruction.moves_check.mp moves
            refine ⟨other, reaches, ?_, samePosition⟩
            rw [atOther, ← atTwo]
            rfl
          · have atOther' : other.instruction + 1 = middle.instruction := by
              rw [atOther, lowered, if_neg (by omega)]
              omega
            rw [← atOther', isRaised.entry _ (by omega)] at fetched
            obtain ⟨instruction', fetchedBelow, rfl⟩ := Option.map_eq_some_iff.mp fetched
            obtain ⟨after', moves', atAfter, samePosition'⟩ :=
              exists_moves_of_raised moves samePosition
            have one_le : 1 ≤ after'.instruction :=
              ((laid.isInner _ _ (by omega : 2 ≤ other.instruction) fetchedBelow).targets _
                moves'.mem_targets).1
            refine ⟨after', follow (.inside instruction' (by omega) fetchedBelow moves'), ?_,
              samePosition'⟩
            rw [atAfter, lowered, if_neg (by omega), Nat.add_sub_cancel]
      | last atOne same =>
          have atOne' : other.instruction = 1 := by
            rw [atOther, atOne]
            rfl
          exact ⟨_, follow (.last atOne' rfl), by rw [same]; rfl, by rw [same]; exact samePosition⟩

end Regex

end RegexMatching.Linear
