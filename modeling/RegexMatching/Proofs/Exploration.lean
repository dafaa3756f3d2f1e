import Mathlib.Data.Finset.Card
import Mathlib.Data.Finset.Range
import Mathlib.Logic.Relation
import Std.Data.HashSet.Lemmas
import RegexMatching.Engine.LinearTime
import RegexMatching.Proofs.Outcomes

/-!
# Exploration of programs

A thread moves from instruction to instruction.  What an exploration finds is reached by
moves from one of its threads, and when it finds nothing, the pairs that it has visited
are closed under moves, so that no match can be reached from them.
-/

namespace RegexMatching.Linear

/-! ## Moves -/

/-- How a thread moves by an instruction. -/
inductive Instruction.Moves (points : Array Nat) (thread : Thread) : Instruction → Thread → Prop
  | first (first second : Nat) :
      Moves points thread (.choose first second) { thread with instruction := first }
  | second (first second : Nat) :
      Moves points thread (.choose first second) { thread with instruction := second }
  | step {runeClass : RuneClass} (next : Nat) {point : Nat}
      (atPosition : points[thread.position]? = some point)
      (contains : runeClass.contains point = true) :
      Moves points thread (.step runeClass next)
        { thread with instruction := next, position := thread.position + 1 }
  | check {test : Assertion} (next : Nat) (holds : test.holds points thread.position = true) :
      Moves points thread (.check test next) { thread with instruction := next }
  | save (slot next : Nat) :
      Moves points thread (.save slot next)
        { thread with
          instruction := next
          slots := thread.slots.setIfInBounds slot (some thread.position) }
  | jump (next : Nat) : Moves points thread (.jump next) { thread with instruction := next }

namespace Instruction

variable {points : Array Nat} {thread after : Thread}

@[simp]
theorem moves_accept : ¬Moves points thread .accept after := by
  rintro ⟨⟩

@[simp]
theorem moves_choose {first second : Nat} :
    Moves points thread (.choose first second) after ↔
      after = { thread with instruction := first } ∨
        after = { thread with instruction := second } := by
  constructor
  · rintro (_ | _)
    · exact .inl rfl
    · exact .inr rfl
  · rintro (rfl | rfl)
    · exact .first first second
    · exact .second first second

@[simp]
theorem moves_step {runeClass : RuneClass} {next : Nat} :
    Moves points thread (.step runeClass next) after ↔
      (∃ point, points[thread.position]? = some point ∧ runeClass.contains point = true) ∧
        after = { thread with instruction := next, position := thread.position + 1 } := by
  constructor
  · rintro (_ | _)
    exact ⟨⟨_, ‹_›, ‹_›⟩, rfl⟩
  · rintro ⟨⟨point, atPosition, contains⟩, rfl⟩
    exact .step next atPosition contains

@[simp]
theorem moves_check {test : Assertion} {next : Nat} :
    Moves points thread (.check test next) after ↔
      test.holds points thread.position = true ∧ after = { thread with instruction := next } := by
  constructor
  · rintro (_ | _)
    exact ⟨‹_›, rfl⟩
  · rintro ⟨holds, rfl⟩
    exact .check next holds

@[simp]
theorem moves_save {slot next : Nat} :
    Moves points thread (.save slot next) after ↔
      after = { thread with
        instruction := next
        slots := thread.slots.setIfInBounds slot (some thread.position) } := by
  constructor
  · rintro (_ | _)
    rfl
  · rintro rfl
    exact .save slot next

@[simp]
theorem moves_jump {next : Nat} :
    Moves points thread (.jump next) after ↔ after = { thread with instruction := next } := by
  constructor
  · rintro (_ | _)
    rfl
  · rintro rfl
    exact .jump next

end Instruction

namespace Program

variable {program : Program} {points : Array Nat}

/-- One move of a thread. -/
def Goes (program : Program) (points : Array Nat) (thread after : Thread) : Prop :=
  ∃ instruction, program.instructions[thread.instruction]? = some instruction ∧
    instruction.Moves points thread after

/-- Any number of moves. -/
abbrev Reaches (program : Program) (points : Array Nat) : Thread → Thread → Prop :=
  Relation.ReflTransGen (program.Goes points)

/-- A thread stands at the end of the program. -/
def Accepts (program : Program) (thread : Thread) : Prop :=
  program.instructions[thread.instruction]? = some .accept

theorem advance_eq_inl {thread : Thread} {slots : Slots}
    (advanced : program.advance points thread = .inl slots) :
    program.Accepts thread ∧ slots = thread.slots := by
  unfold advance at advanced
  split at advanced
  · next accepts => exact ⟨accepts, (Sum.inl.inj advanced).symm⟩
  · cases advanced
  · split at advanced
    · split at advanced <;> cases advanced
    · cases advanced
  · split at advanced <;> cases advanced
  · cases advanced
  · cases advanced
  · cases advanced

theorem goes_iff {thread : Thread} {instruction : Instruction}
    (fetched : program.instructions[thread.instruction]? = some instruction) (after : Thread) :
    program.Goes points thread after ↔ instruction.Moves points thread after := by
  rw [Goes, fetched]
  constructor
  · rintro ⟨_, same, moves⟩
    exact Option.some.inj same ▸ moves
  · exact fun moves => ⟨_, rfl, moves⟩

/-- What a thread that is not at the end goes on as are its moves. -/
theorem advance_eq_inr {thread : Thread} {threads : List Thread}
    (advanced : program.advance points thread = .inr threads) :
    ¬program.Accepts thread ∧ threads.length ≤ 2 ∧
      ∀ after, program.Goes points thread after ↔ after ∈ threads := by
  unfold advance at advanced
  unfold Accepts
  cases fetched : program.instructions[thread.instruction]? with
  | none =>
      rw [fetched] at advanced
      obtain rfl := Sum.inr.inj advanced
      refine ⟨fun same => by contradiction, Nat.zero_le _, fun after => ?_⟩
      simp [Goes, fetched]
  | some instruction =>
      rw [fetched] at advanced
      simp only [goes_iff fetched, Option.some.injEq]
      cases instruction with
      | accept => cases advanced
      | choose first second =>
          obtain rfl := Sum.inr.inj advanced
          exact ⟨Instruction.noConfusion, Nat.le_refl 2, by simp⟩
      | step runeClass next =>
          dsimp only at advanced
          refine ⟨Instruction.noConfusion, ?_⟩
          cases atPosition : points[thread.position]? with
          | none =>
              rw [atPosition] at advanced
              obtain rfl := Sum.inr.inj advanced
              exact ⟨Nat.zero_le 2, by simp [atPosition]⟩
          | some point =>
              rw [atPosition] at advanced
              dsimp only at advanced
              split at advanced
              · next contains =>
                  obtain rfl := Sum.inr.inj advanced
                  exact ⟨Nat.le_succ 1, by simp [atPosition, contains]⟩
              · next lacks =>
                  obtain rfl := Sum.inr.inj advanced
                  exact ⟨Nat.zero_le 2, by simp [atPosition, lacks]⟩
      | check test next =>
          dsimp only at advanced
          refine ⟨Instruction.noConfusion, ?_⟩
          split at advanced
          · next holds =>
              obtain rfl := Sum.inr.inj advanced
              exact ⟨Nat.le_succ 1, by simp [holds]⟩
          · next fails =>
              obtain rfl := Sum.inr.inj advanced
              exact ⟨Nat.zero_le 2, by simp [fails]⟩
      | save slot next =>
          obtain rfl := Sum.inr.inj advanced
          exact ⟨Instruction.noConfusion, Nat.le_succ 1, by simp⟩
      | jump next =>
          obtain rfl := Sum.inr.inj advanced
          exact ⟨Instruction.noConfusion, Nat.le_succ 1, by simp⟩

/-! ## What is found is reached -/

theorem exists_reaches_of_explore {fuel : Nat} {visited visited' : Visited} {threads : List Thread}
    {slots : Slots} (found : program.explore points fuel visited threads = (some slots, visited')) :
    ∃ thread ∈ threads, ∃ final, program.Reaches points thread final ∧ program.Accepts final ∧
      slots = final.slots := by
  induction fuel generalizing visited threads with
  | zero => cases found
  | succ fuel ih =>
      cases threads with
      | nil => cases found
      | cons thread rest =>
          rw [explore] at found
          split at found
          · obtain ⟨thread', mem, reached⟩ := ih found
            exact ⟨thread', List.mem_cons_of_mem _ mem, reached⟩
          · cases advanced : program.advance points thread with
            | inl slots' =>
                rw [advanced] at found
                obtain ⟨accepts, rfl⟩ := advance_eq_inl advanced
                cases found
                exact ⟨thread, List.mem_cons_self, thread, .refl, accepts, rfl⟩
            | inr threads' =>
                rw [advanced] at found
                obtain ⟨thread', mem, final, reaches, ends⟩ := ih found
                rcases List.mem_append.mp mem with mem | mem
                · have goes := ((advance_eq_inr advanced).2.2 thread').mpr mem
                  exact ⟨thread, List.mem_cons_self, final, .head goes reaches, ends⟩
                · exact ⟨thread', List.mem_cons_of_mem _ mem, final, reaches, ends⟩

/-- A thread at the start of the program, with nothing stored. -/
def startThread (program : Program) (slotCount position : Nat) : Thread :=
  ⟨program.start, position, Array.replicate slotCount none⟩

/-- A search finds what is reached from the start of the program, at one of the positions
that it tries. -/
theorem exists_reaches_of_searchFrom {slotCount count start : Nat} {visited : Visited}
    {slots : Slots}
    (found : program.searchFrom points slotCount count start visited = some slots) :
    ∃ position, start ≤ position ∧ position < start + count ∧
      ∃ final, program.Reaches points (program.startThread slotCount position) final ∧
        program.Accepts final ∧ slots = final.slots := by
  induction count generalizing start visited with
  | zero => cases found
  | succ count ih =>
      rw [searchFrom] at found
      split at found
      · next slots' visited' explored =>
          obtain ⟨thread, mem, reached⟩ := exists_reaches_of_explore explored
          rw [List.mem_singleton] at mem
          subst mem
          cases found
          exact ⟨start, Nat.le_refl _, by omega, reached⟩
      · obtain ⟨position, le, less, reached⟩ := ih found
        exact ⟨position, by omega, by omega, reached⟩

/-! ## Threads inside the subject -/

end Program

/-- All positions that are stored lie in a subject of the given size. -/
def Slots.Within (size : Nat) (slots : Slots) : Prop :=
  ∀ position, some position ∈ slots.toList → position ≤ size

theorem Slots.Within.getElem?_join {size : Nat} {slots : Slots} (within : slots.Within size)
    {slot position : Nat} (stored : (slots[slot]?).join = some position) : position ≤ size := by
  rw [Option.join_eq_some_iff] at stored
  exact within position (Array.mem_toList_iff.mpr (Array.mem_of_getElem? stored))

/-- A thread inside a subject, with slots inside it. -/
structure Thread.Fits (size : Nat) (thread : Thread) : Prop where
  position_le : thread.position ≤ size
  slots_within : thread.slots.Within size

namespace Program

variable {program : Program} {points : Array Nat}

theorem Goes.fits {thread after : Thread} (goes : program.Goes points thread after)
    (fits : thread.Fits points.size) : after.Fits points.size := by
  obtain ⟨instruction, -, moves⟩ := goes
  cases moves with
  | first => exact ⟨fits.position_le, fits.slots_within⟩
  | second => exact ⟨fits.position_le, fits.slots_within⟩
  | step next atPosition contains =>
      exact ⟨(Array.getElem?_eq_some_iff.mp atPosition).1, fits.slots_within⟩
  | check => exact ⟨fits.position_le, fits.slots_within⟩
  | save slot next =>
      refine ⟨fits.position_le, fun position mem => ?_⟩
      rw [Array.toList_setIfInBounds] at mem
      rcases List.mem_or_eq_of_mem_set mem with mem | same
      · exact fits.slots_within position mem
      · exact Option.some.inj same ▸ fits.position_le
  | jump => exact ⟨fits.position_le, fits.slots_within⟩

theorem Reaches.fits {thread after : Thread} (reaches : program.Reaches points thread after)
    (fits : thread.Fits points.size) : after.Fits points.size := by
  induction reaches with
  | refl => exact fits
  | tail _ goes ih => exact goes.fits ih

theorem startThread_fits (program : Program) (slotCount : Nat) {position size : Nat}
    (inside : position ≤ size) : (program.startThread slotCount position).Fits size := by
  refine ⟨inside, fun stored mem => ?_⟩
  rw [startThread, Array.toList_replicate] at mem
  cases List.eq_of_mem_replicate mem

/-- What a search stores lies in the subject. -/
theorem within_of_searchFrom {slotCount start : Nat} {visited : Visited} {slots : Slots}
    (found : program.searchFrom points slotCount (points.size + 1 - start) start visited =
      some slots) : slots.Within points.size := by
  obtain ⟨position, le, less, final, reaches, -, rfl⟩ := exists_reaches_of_searchFrom found
  exact (reaches.fits (program.startThread_fits slotCount (by omega))).slots_within

end Program

/-! ## What is reached is found -/

/-- The instructions that an instruction leads to. -/
def Instruction.targets : Instruction → List Nat
  | accept => []
  | choose first second => [first, second]
  | step _ next => [next]
  | check _ next => [next]
  | save _ next => [next]
  | jump next => [next]

theorem Instruction.Moves.mem_targets {points : Array Nat} {thread after : Thread}
    {instruction : Instruction} (moves : instruction.Moves points thread after) :
    after.instruction ∈ instruction.targets := by
  cases moves with
  | second => exact List.mem_cons_of_mem _ List.mem_cons_self
  | _ => exact List.mem_cons_self

namespace Program

/-- Every instruction leads to instructions of the program. -/
def LeadsInside (program : Program) : Prop :=
  ∀ (index : Nat) (instruction : Instruction), program.instructions[index]? = some instruction →
    ∀ target ∈ instruction.targets, target < program.instructions.size

/-- A thread at an instruction of a program and a position of a subject. -/
structure Places (program : Program) (points : Array Nat) (thread : Thread) : Prop where
  instruction_lt : thread.instruction < program.instructions.size
  position_le : thread.position ≤ points.size

variable {program : Program} {points : Array Nat}

theorem Goes.places {thread after : Thread} (goes : program.Goes points thread after)
    (leadsInside : program.LeadsInside) (places : program.Places points thread) :
    program.Places points after := by
  obtain ⟨instruction, fetched, moves⟩ := goes
  refine ⟨leadsInside _ instruction fetched _ moves.mem_targets, ?_⟩
  cases moves with
  | step next atPosition contains => exact (Array.getElem?_eq_some_iff.mp atPosition).1
  | _ => exact places.position_le

/-- A pair is told by its number. -/
theorem eq_of_pairNumber_eq {thread other : Thread}
    (inside : thread.instruction < program.instructions.size)
    (inside' : other.instruction < program.instructions.size)
    (same : program.pairNumber thread = program.pairNumber other) :
    thread.instruction = other.instruction ∧ thread.position = other.position := by
  unfold pairNumber at same
  constructor
  · have remainders := congrArg (· % program.instructions.size) same
    simp only [Nat.mul_add_mod_self_right] at remainders
    rwa [Nat.mod_eq_of_lt inside, Nat.mod_eq_of_lt inside'] at remainders
  · have quotients := congrArg (· / program.instructions.size) same
    have positive : 0 < program.instructions.size := Nat.zero_lt_of_lt inside
    simp only [Nat.mul_comm _ program.instructions.size, Nat.mul_add_div positive] at quotients
    rwa [Nat.div_eq_of_lt inside, Nat.div_eq_of_lt inside'] at quotients

theorem pairNumber_lt {thread : Thread} (places : program.Places points thread) :
    program.pairNumber thread < program.instructions.size * (points.size + 1) := by
  have inside := places.instruction_lt
  have row := Nat.mul_le_mul_right program.instructions.size places.position_le
  unfold pairNumber
  rw [Nat.mul_succ, Nat.mul_comm program.instructions.size points.size]
  omega

/-- Where a thread moves to does not depend on what it has stored. -/
theorem Goes.exists_of_same {thread other after : Thread} (goes : program.Goes points thread after)
    (sameInstruction : other.instruction = thread.instruction)
    (samePosition : other.position = thread.position) :
    ∃ after', program.Goes points other after' ∧ after'.instruction = after.instruction ∧
      after'.position = after.position := by
  obtain ⟨instruction, fetched, moves⟩ := goes
  rw [← sameInstruction] at fetched
  cases moves with
  | first first second => exact ⟨_, ⟨_, fetched, .first first second⟩, rfl, samePosition⟩
  | second first second => exact ⟨_, ⟨_, fetched, .second first second⟩, rfl, samePosition⟩
  | step next atPosition contains =>
      exact ⟨_, ⟨_, fetched, .step next (samePosition ▸ atPosition) contains⟩, rfl,
        congrArg (· + 1) samePosition⟩
  | check next holds =>
      exact ⟨_, ⟨_, fetched, .check next (samePosition ▸ holds)⟩, rfl, samePosition⟩
  | save slot next => exact ⟨_, ⟨_, fetched, .save slot next⟩, rfl, samePosition⟩
  | jump next => exact ⟨_, ⟨_, fetched, .jump next⟩, rfl, samePosition⟩

/-- No pair that has been visited ends a match, and from each one all moves lead to pairs that
have been visited or wait to be. -/
def IsClosed (program : Program) (points : Array Nat) (visited : Visited)
    (waiting : List Thread) : Prop :=
  ∀ thread, thread.instruction < program.instructions.size →
    program.pairNumber thread ∈ visited → ¬program.Accepts thread ∧
      ∀ after, program.Goes points thread after → program.pairNumber after ∈ visited ∨
        ∃ other ∈ waiting, program.pairNumber other = program.pairNumber after

section IsClosed

variable {visited : Visited} {thread : Thread} {rest : List Thread}
  (isClosed : program.IsClosed points visited (thread :: rest))

include isClosed

/-- A thread that has been visited need not wait. -/
theorem IsClosed.skip (isVisited : program.pairNumber thread ∈ visited) :
    program.IsClosed points visited rest := by
  intro other inside mem
  refine ⟨(isClosed other inside mem).1, fun after goes => ?_⟩
  rcases (isClosed other inside mem).2 after goes with mem' | ⟨next, waits, same⟩
  · exact .inl mem'
  · rcases List.mem_cons.mp waits with rfl | waits
    · exact .inl (same ▸ isVisited)
    · exact .inr ⟨next, waits, same⟩

/-- A thread that is visited lets the threads wait that it goes on as. -/
theorem IsClosed.visit (inside : thread.instruction < program.instructions.size)
    {threads : List Thread} (advanced : program.advance points thread = .inr threads) :
    program.IsClosed points (visited.insert (program.pairNumber thread)) (threads ++ rest) := by
  obtain ⟨notAccepts, -, goes_iff⟩ := advance_eq_inr advanced
  intro other inside' mem
  rcases Std.HashSet.mem_insert.mp mem with same | mem
  · obtain ⟨sameInstruction, samePosition⟩ :=
      eq_of_pairNumber_eq inside inside' (beq_iff_eq.mp same)
    refine ⟨?_, fun after goes => .inr ?_⟩
    · rwa [Accepts, ← sameInstruction]
    · obtain ⟨after', goes', toSame, atSame⟩ := goes.exists_of_same sameInstruction samePosition
      refine ⟨after', List.mem_append_left rest ((goes_iff after').mp goes'), ?_⟩
      rw [pairNumber, toSame, atSame, pairNumber]
  · refine ⟨(isClosed other inside' mem).1, fun after goes => ?_⟩
    rcases (isClosed other inside' mem).2 after goes with mem' | ⟨next, waits, same⟩
    · exact .inl (Std.HashSet.mem_insert.mpr (.inr mem'))
    · rcases List.mem_cons.mp waits with rfl | waits
      · exact .inl (Std.HashSet.mem_insert.mpr (.inl (beq_iff_eq.mpr same)))
      · exact .inr ⟨next, List.mem_append_right threads waits, same⟩

end IsClosed

/-- How many pairs are left to visit. -/
def unvisited (program : Program) (points : Array Nat) (visited : Visited) : Nat :=
  ((Finset.range (program.instructions.size * (points.size + 1))).filter (· ∉ visited)).card

theorem unvisited_insert_lt {visited : Visited} {thread : Thread}
    (places : program.Places points thread) (isNew : program.pairNumber thread ∉ visited) :
    program.unvisited points (visited.insert (program.pairNumber thread)) <
      program.unvisited points visited := by
  refine Finset.card_lt_card (Finset.ssubset_iff_of_subset ?_ |>.mpr ?_)
  · intro number mem
    simp only [Finset.mem_filter, Std.HashSet.mem_insert, not_or] at mem ⊢
    exact ⟨mem.1, mem.2.2⟩
  · refine ⟨program.pairNumber thread, ?_, ?_⟩
    · exact Finset.mem_filter.mpr ⟨Finset.mem_range.mpr (pairNumber_lt places), isNew⟩
    · simp

/-- An exploration with fuel for all pairs that finds nothing has visited all that it reaches.
Every thread that is looked at takes away a pair that is left, and adds two threads at most, or is
itself taken away. -/
theorem isClosed_of_explore (leadsInside : program.LeadsInside) {fuel : Nat}
    {visited visited' : Visited} {threads : List Thread}
    (enough : 2 * program.unvisited points visited + threads.length < fuel)
    (placed : ∀ thread ∈ threads, program.Places points thread)
    (isClosed : program.IsClosed points visited threads)
    (notFound : program.explore points fuel visited threads = (none, visited')) :
    program.IsClosed points visited' [] ∧ (∀ number ∈ visited, number ∈ visited') ∧
      ∀ thread ∈ threads, program.pairNumber thread ∈ visited' := by
  induction fuel generalizing visited threads with
  | zero => contradiction
  | succ fuel ih =>
      cases threads with
      | nil =>
          cases notFound
          exact ⟨isClosed, fun number mem => mem, nofun⟩
      | cons thread rest =>
          have place := placed thread List.mem_cons_self
          have placedRest := fun other mem => placed other (List.mem_cons_of_mem thread mem)
          rw [List.length_cons] at enough
          rw [explore] at notFound
          split at notFound
          · next isVisited =>
              obtain ⟨closed, keeps, visits⟩ :=
                ih (by omega) placedRest (isClosed.skip isVisited) notFound
              refine ⟨closed, keeps, fun other mem => ?_⟩
              rcases List.mem_cons.mp mem with rfl | mem
              · exact keeps _ isVisited
              · exact visits other mem
          · next isNew =>
              cases advanced : program.advance points thread with
              | inl slots =>
                  rw [advanced] at notFound
                  cases notFound
              | inr threads =>
                  rw [advanced] at notFound
                  obtain ⟨-, atMostTwo, goes_iff⟩ := advance_eq_inr advanced
                  have fewer := unvisited_insert_lt place isNew
                  have placedNext : ∀ other ∈ threads ++ rest, program.Places points other := by
                    intro other mem
                    rcases List.mem_append.mp mem with mem | mem
                    · exact ((goes_iff other).mpr mem).places leadsInside place
                    · exact placedRest other mem
                  obtain ⟨closed, keeps, visits⟩ := ih (by rw [List.length_append]; omega)
                    placedNext (isClosed.visit place.instruction_lt advanced) notFound
                  refine ⟨closed,
                    fun number mem => keeps number (Std.HashSet.mem_insert.mpr (.inr mem)), ?_⟩
                  intro other mem
                  rcases List.mem_cons.mp mem with rfl | mem
                  · exact keeps _ (Std.HashSet.mem_insert.mpr (.inl (beq_self_eq_true _)))
                  · exact visits other (List.mem_append_right threads mem)

theorem isClosed_empty : program.IsClosed points {} [] :=
  fun _ _ mem => absurd mem Std.HashSet.not_mem_empty

/-- An exploration from a start that finds nothing has visited all that it reaches. -/
theorem isClosed_of_explore_start (leadsInside : program.LeadsInside) {visited visited' : Visited}
    {thread : Thread} (places : program.Places points thread)
    (isClosed : program.IsClosed points visited [])
    (notFound : program.explore points (program.threadBound points) visited [thread] =
      (none, visited')) :
    program.IsClosed points visited' [] ∧ program.pairNumber thread ∈ visited' := by
  have unvisited_le : program.unvisited points visited ≤
      program.instructions.size * (points.size + 1) :=
    Nat.le_trans (Finset.card_filter_le _ _) (Finset.card_range _).le
  have enough : 2 * program.unvisited points visited + [thread].length <
      program.threadBound points := by
    rw [threadBound, Nat.mul_assoc, List.length_singleton]
    omega
  have waits : program.IsClosed points visited [thread] := by
    intro other inside mem
    refine ⟨(isClosed other inside mem).1, fun after goes => ?_⟩
    rcases (isClosed other inside mem).2 after goes with mem' | ⟨next, none, -⟩
    · exact .inl mem'
    · contradiction
  obtain ⟨closed, -, visits⟩ := isClosed_of_explore leadsInside enough
    (fun other mem => List.mem_singleton.mp mem ▸ places) waits notFound
  exact ⟨closed, visits thread (List.mem_singleton_self thread)⟩

/-- No match can be reached from a pair that has been visited. -/
theorem IsClosed.not_accepts (leadsInside : program.LeadsInside) {visited : Visited}
    (isClosed : program.IsClosed points visited []) {thread final : Thread}
    (places : program.Places points thread) (isVisited : program.pairNumber thread ∈ visited)
    (reaches : program.Reaches points thread final) : ¬program.Accepts final := by
  have visitsAll : program.Places points final ∧ program.pairNumber final ∈ visited := by
    induction reaches with
    | refl => exact ⟨places, isVisited⟩
    | tail _ goes ih =>
        refine ⟨goes.places leadsInside ih.1, ?_⟩
        rcases (isClosed _ ih.1.instruction_lt ih.2).2 _ goes with mem | ⟨other, mem, -⟩
        · exact mem
        · contradiction
  exact (isClosed final visitsAll.1.instruction_lt visitsAll.2).1

/-- A match can be reached from the start of the program at a position. -/
def MatchesAt (program : Program) (points : Array Nat) (slotCount position : Nat) : Prop :=
  ∃ final, program.Reaches points (program.startThread slotCount position) final ∧
    program.Accepts final

/-- A search finds a match at the first position where one can be reached, and nothing if there is
no such position.  What explorations from earlier starts have visited stays closed, so it hides no
match from later ones. -/
theorem searchFrom_cases (leadsInside : program.LeadsInside)
    (start_lt : program.start < program.instructions.size) (slotCount : Nat)
    {count start : Nat} {visited : Visited} (inside : start + count ≤ points.size + 1)
    (isClosed : program.IsClosed points visited []) :
    (program.searchFrom points slotCount count start visited = none ∧
        ∀ position, start ≤ position → position < start + count →
          ¬program.MatchesAt points slotCount position) ∨
      ∃ position final, start ≤ position ∧ position < start + count ∧
        (∀ before, start ≤ before → before < position →
          ¬program.MatchesAt points slotCount before) ∧
        program.Reaches points (program.startThread slotCount position) final ∧
        program.Accepts final ∧
        program.searchFrom points slotCount count start visited = some final.slots := by
  induction count generalizing start visited with
  | zero => exact .inl ⟨rfl, fun position le less => by omega⟩
  | succ count ih =>
      have places : program.Places points (program.startThread slotCount start) :=
        ⟨start_lt, by change start ≤ points.size; omega⟩
      rw [searchFrom]
      rcases explored : program.explore points (program.threadBound points) visited
        [program.startThread slotCount start] with ⟨found, visited'⟩
      rw [startThread] at explored
      rw [explored]
      cases found with
      | some slots =>
          obtain ⟨thread, mem, final, reaches, accepts, rfl⟩ := exists_reaches_of_explore explored
          rw [List.mem_singleton.mp mem] at reaches
          exact .inr ⟨start, final, Nat.le_refl _, by omega, fun before le less => by omega,
            reaches, accepts, rfl⟩
      -- What was visited is closed now, so a match from here would have been found.
      | none =>
          obtain ⟨closed, isVisited⟩ :=
            isClosed_of_explore_start leadsInside places isClosed explored
          have notHere : ¬program.MatchesAt points slotCount start := by
            rintro ⟨final, reaches, accepts⟩
            exact closed.not_accepts leadsInside places isVisited reaches accepts
          have insideRest : start + 1 + count ≤ points.size + 1 := by omega
          rcases ih insideRest closed with ⟨isNone, notLater⟩ |
            ⟨position, final, le, less, notBefore, reaches, accepts, isFound⟩
          · refine .inl ⟨isNone, fun position le less => ?_⟩
            rcases Nat.eq_or_lt_of_le le with rfl | later
            · exact notHere
            · exact notLater position later (by omega)
          · refine .inr ⟨position, final, by omega, by omega, fun before le' less' => ?_, reaches,
              accepts, isFound⟩
            rcases Nat.eq_or_lt_of_le le' with rfl | later
            · exact notHere
            · exact notBefore before later less'

end Program

/-! ## Spans -/

theorem within_spansOfSlots {size groupCount : Nat} {slots : Slots} (within : slots.Within size) :
    PointSpans.Within size (spansOfSlots slots groupCount) := by
  intro first last mem
  obtain ⟨group, -, same⟩ := List.mem_map.mp mem
  split at same
  · next start stop atStart atStop =>
      cases same
      exact ⟨within.getElem?_join atStart, within.getElem?_join atStop⟩
  · cases same

namespace Regex

variable {regex : Regex} {points : Array Nat} {start : Nat}

theorem within_find {spans : PointSpans} (found : regex.find points start = some spans) :
    spans.Within points.size := by
  obtain ⟨slots, searched, rfl⟩ := Option.map_eq_some_iff.mp found
  exact within_spansOfSlots (Program.within_of_searchFrom searched)

/-- The text behind a match is no longer than the subject. -/
theorem size_textBehind_le {stop : Nat} (inside : stop ≤ points.size) :
    (textBehind points stop).size ≤ points.size := by
  unfold textBehind
  cases atStop : points[stop]? with
  | none =>
      simp only [Option.map_none, Option.getD_none, List.take_nil, List.map_nil, Array.size_append,
        Array.size_extract, List.size_toArray, List.length_nil]
      omega
  | some point =>
      have bound := (Array.getElem?_eq_some_iff.mp atStop).1
      simp only [Option.map_some, Option.getD_some, Array.size_append, Array.size_extract,
        List.size_toArray, List.length_map, List.length_take]
      omega

theorem within_groupSpans {stop : Nat} (inside : stop ≤ points.size) :
    PointSpans.Within points.size (regex.groupSpans points start stop) := by
  unfold groupSpans
  dsimp only
  cases found : regex.find (textBehind points stop) start with
  | none => exact fun first last mem => absurd mem List.not_mem_nil
  | some spans =>
      intro first last mem
      have within := within_find found
      have shorter := size_textBehind_le inside
      obtain ⟨span?, spanMem, same⟩ := List.mem_map.mp mem
      obtain ⟨span, rfl, same⟩ := Option.map_eq_some_iff.mp same
      have bounds := within span.1 span.2 (List.mem_of_mem_tail spanMem)
      cases same
      omega

/-- The spans of a match lie in the subject. -/
theorem within_search {spans : PointSpans} (found : regex.search points start = some spans) :
    spans.Within points.size := by
  unfold search at found
  split at found
  · next first behind head =>
      obtain ⟨others, isFound, isHead⟩ := Option.bind_eq_some_iff.mp head
      have bounds := within_find isFound first behind (List.mem_of_head? isHead)
      cases found
      intro first' last' mem
      rcases List.mem_cons.mp mem with whole | mem
      · cases whole
        exact bounds
      · exact within_groupSpans bounds.2 first' last' mem
  · cases found

end Regex

end RegexMatching.Linear
