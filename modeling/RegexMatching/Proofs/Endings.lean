import RegexMatching.Proofs.AnchoredSearches

/-!
# Where matches end

Where a match that goes through an instruction can end is told by the instructions that follow,
whatever has been stored before.  Where it can end in one way only, a search finds the first
position with a match, and that end.
-/

namespace RegexMatching.Linear

namespace Program

variable {program : Program} {points : Array Nat}

/-- A match that goes through an instruction at a position can end at another position. -/
def Ends (program : Program) (points : Array Nat) (instruction position stop : Nat) : Prop :=
  ∃ slots final, program.Reaches points ⟨instruction, position, slots⟩ final ∧
    program.Accepts final ∧ final.position = stop

/-- Where a run leads does not depend on what has been stored before. -/
theorem Reaches.exists_of_same {thread final : Thread}
    (reaches : program.Reaches points thread final) (other : Thread)
    (sameInstruction : other.instruction = thread.instruction)
    (samePosition : other.position = thread.position) :
    ∃ final', program.Reaches points other final' ∧ final'.instruction = final.instruction ∧
      final'.position = final.position := by
  induction reaches with
  | refl => exact ⟨other, .refl, sameInstruction, samePosition⟩
  | tail _ goes ih =>
      obtain ⟨middle, reaches, toSame, atSame⟩ := ih
      obtain ⟨after, goes', toSame', atSame'⟩ := goes.exists_of_same toSame atSame
      exact ⟨after, reaches.tail goes', toSame', atSame'⟩

/-- Every thread at an instruction and a position can end as the match can that goes through. -/
theorem ends_iff (thread : Thread) (stop : Nat) :
    program.Ends points thread.instruction thread.position stop ↔
      ∃ final, program.Reaches points thread final ∧ program.Accepts final ∧
        final.position = stop := by
  constructor
  · rintro ⟨slots, final, reaches, accepts, rfl⟩
    obtain ⟨final', reaches', toSame, atSame⟩ := reaches.exists_of_same thread rfl rfl
    refine ⟨final', reaches', ?_, atSame⟩
    rwa [Accepts, toSame]
  · rintro ⟨final, ends⟩
    exact ⟨thread.slots, final, ends⟩

/-! ## One instruction -/

section Instructions

variable {instruction position stop : Nat}

theorem ends_accept (fetched : program.instructions[instruction]? = some .accept) :
    program.Ends points instruction position stop ↔ position = stop := by
  constructor
  · rintro ⟨slots, final, reaches, -, rfl⟩
    rcases reaches.cases_head with rfl | ⟨after, goes, -⟩
    · rfl
    · exact absurd ((goes_iff fetched after).mp goes) Instruction.moves_accept
  · rintro rfl
    exact ⟨#[], _, .refl, fetched, rfl⟩

/-- A match goes on by a move of the instruction. -/
theorem ends_iff_moves {kind : Instruction} (notAccept : kind ≠ .accept)
    (fetched : program.instructions[instruction]? = some kind) :
    program.Ends points instruction position stop ↔ ∃ after,
      kind.Moves points ⟨instruction, position, #[]⟩ after ∧
        program.Ends points after.instruction after.position stop := by
  rw [ends_iff ⟨instruction, position, #[]⟩]
  constructor
  · rintro ⟨final, reaches, accepts, rfl⟩
    rcases reaches.cases_head with rfl | ⟨after, goes, reaches'⟩
    · rw [Accepts, fetched] at accepts
      exact absurd (Option.some.inj accepts) notAccept
    · exact ⟨after, (goes_iff fetched after).mp goes, after.slots, final, reaches', accepts, rfl⟩
  · rintro ⟨after, moves, ends⟩
    obtain ⟨final, reaches, ends'⟩ := (ends_iff after stop).mp ends
    exact ⟨final, .head ((goes_iff fetched after).mpr moves) reaches, ends'⟩

theorem ends_step {runeClass : RuneClass} {next : Nat}
    (fetched : program.instructions[instruction]? = some (.step runeClass next)) :
    program.Ends points instruction position stop ↔
      (∃ point, points[position]? = some point ∧ runeClass.contains point = true) ∧
        program.Ends points next (position + 1) stop := by
  rw [ends_iff_moves Instruction.noConfusion fetched]
  simp only [Instruction.moves_step, and_assoc, exists_and_left, exists_eq_left]

theorem ends_check {test : Assertion} {next : Nat}
    (fetched : program.instructions[instruction]? = some (.check test next)) :
    program.Ends points instruction position stop ↔
      test.holds points position = true ∧ program.Ends points next position stop := by
  rw [ends_iff_moves Instruction.noConfusion fetched]
  simp only [Instruction.moves_check, and_assoc, exists_and_left, exists_eq_left]

theorem ends_save {slot next : Nat}
    (fetched : program.instructions[instruction]? = some (.save slot next)) :
    program.Ends points instruction position stop ↔ program.Ends points next position stop := by
  rw [ends_iff_moves Instruction.noConfusion fetched]
  simp only [Instruction.moves_save, exists_eq_left]

theorem ends_jump {next : Nat}
    (fetched : program.instructions[instruction]? = some (.jump next)) :
    program.Ends points instruction position stop ↔ program.Ends points next position stop := by
  rw [ends_iff_moves Instruction.noConfusion fetched]
  simp only [Instruction.moves_jump, exists_eq_left]

end Instructions

/-! ## Programs within programs -/

/-- A program with all the instructions of another one. -/
def Extends (base program : Program) : Prop :=
  ∀ (index : Nat) (instruction : Instruction), base.instructions[index]? = some instruction →
    program.instructions[index]? = some instruction

theorem Extends.of_push {base : Program} {instruction : Instruction}
    (isExtended : (base.push instruction).Extends program) :
    base.Extends program ∧ program.instructions[base.instructions.size]? = some instruction := by
  constructor
  · intro index other fetched
    have less := (Array.getElem?_eq_some_iff.mp fetched).1
    exact isExtended index other (by rw [getElem?_push, if_neg (Nat.ne_of_lt less), fetched])
  · exact isExtended _ _ (by rw [getElem?_push, if_pos rfl])

end Program

/-! ## Searching -/

/-- A match can be reached where one ends. -/
theorem Program.matchesAt_iff {program : Program} {points : Array Nat} {slotCount position : Nat} :
    program.MatchesAt points slotCount position ↔
      ∃ stop, program.Ends points program.start position stop := by
  have ends : ∀ stop, program.Ends points program.start position stop ↔ _ :=
    Program.ends_iff (program.startThread slotCount position)
  constructor
  · rintro ⟨final, reaches, accepts⟩
    exact ⟨final.position, (ends _).mpr ⟨final, reaches, accepts, rfl⟩⟩
  · rintro ⟨stop, endsThere⟩
    obtain ⟨final, reaches, accepts, -⟩ := (ends stop).mp endsThere
    exact ⟨final, reaches, accepts⟩

namespace Regex

/-- Without groups there are no spans of groups. -/
theorem groupSpans_eq_nil {regex : Regex} (noGroups : regex.captureCount = 0) (points : Array Nat)
    (start stop : Nat) : regex.groupSpans points start stop = [] := by
  rw [groupSpans, find, noGroups]
  dsimp only
  cases regex.program.searchFrom (textBehind points stop) (2 * (0 + 1))
    ((textBehind points stop).size + 1 - start) start {} <;> rfl

/-- Where all matches from a position end alike, a search finds the first position with a match. -/
theorem search_eq_of_ends {regex : Regex} (numbered : regex.expression.NumbersGroups)
    (noGroups : regex.captureCount = 0) {points : Array Nat} {length : Nat} {matchesAt : Nat → Bool}
    (ends : ∀ position stop, regex.program.Ends points regex.program.start position stop ↔
      matchesAt position = true ∧ position + length = stop) (start : Nat) :
    regex.search points start =
      ((List.range' start (points.size + 1 - start)).find? matchesAt).map fun first =>
        [some (first, first + length)] := by
  rcases Nat.lt_or_ge points.size start with behind | inside
  · rw [search, find, Nat.sub_eq_zero_of_le behind]
    rfl
  have start_lt : regex.program.start < regex.program.instructions.size := by
    rw [program_eq, Program.size_push]
    exact Nat.lt_succ_self _
  have isMatch : ∀ {slotCount position}, regex.program.MatchesAt points slotCount position ↔
      matchesAt position = true := by
    intro slotCount position
    simp only [Program.matchesAt_iff, ends, exists_and_left, exists_eq', and_true]
  rcases Program.searchFrom_cases (leadsInside_program numbered) start_lt
      (2 * (regex.captureCount + 1)) (Nat.le_of_eq (Nat.add_sub_cancel' (Nat.le_succ_of_le inside)))
      Program.isClosed_empty with ⟨isNone, nowhere⟩ |
    ⟨position, final, le, less, notBefore, reaches, accepts, isFound⟩
  · have notFound : (List.range' start (points.size + 1 - start)).find? matchesAt = none := by
      rw [List.find?_range'_eq_none]
      intro position le less
      exact Bool.not_eq_true' _ ▸ Bool.eq_false_iff.mpr
        fun matched => nowhere position le less (isMatch.mpr matched)
    rw [search, find, isNone, notFound]
    rfl
  · obtain ⟨-, stored, storedEnd⟩ := stored_of_reaches numbered (by omega) reaches accepts
    -- The final thread ends somewhere, and all matches from its start end alike.
    obtain ⟨matched, isEnd⟩ := (ends position final.position).mp
      ((Program.ends_iff (regex.threadAt position) _).mpr ⟨final, reaches, accepts, rfl⟩)
    have isFirst : (List.range' start (points.size + 1 - start)).find? matchesAt =
        some position := by
      rw [List.find?_range'_eq_some]
      refine ⟨matched, List.mem_range'_1.mpr ⟨le, less⟩, fun before le' less' => ?_⟩
      exact Bool.not_eq_true' _ ▸ Bool.eq_false_iff.mpr
        fun matched => notBefore before le' less' (isMatch.mpr matched)
    rw [search, find, isFound, Option.map_some, Option.bind_some,
      head?_spansOfSlots stored storedEnd, isFirst]
    dsimp only
    rw [groupSpans_eq_nil noGroups, ← isEnd]
    rfl

end Regex

end RegexMatching.Linear
