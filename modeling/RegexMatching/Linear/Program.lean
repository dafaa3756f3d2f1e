import RegexMatching.Linear.Expression

/-!
# Programs of the linear-time matcher

A program is a graph of instructions, which an expression is laid out into from
its end to its start: every part is given the instruction that follows it and
comes back with its own first instruction.
-/

namespace RegexMatching.Linear

/-- An instruction, with the numbers of the instructions that may follow. -/
inductive Instruction where
  /-- The match is complete. -/
  | accept
  /-- Go on with the first choice, or else with the second. -/
  | choose (first second : Nat)
  /-- Move over a code point of a class. -/
  | step (runeClass : RuneClass) (next : Nat)
  /-- Go on where a position passes a test. -/
  | check (assertion : Assertion) (next : Nat)
  /-- Store the position in a slot. -/
  | save (slot next : Nat)
  /-- Go on. -/
  | jump (next : Nat)
deriving DecidableEq, Repr

/-- A program and its first instruction. -/
structure Program where
  instructions : Array Instruction
  start : Nat
deriving Repr

namespace Program

/-- Append an instruction, which becomes the first one. -/
def push (program : Program) (instruction : Instruction) : Program where
  instructions := program.instructions.push instruction
  start := program.instructions.size

/-- A choice between a body and what follows, the body first when greedy. -/
def choice (isGreedy : Bool) (body next : Nat) : Instruction :=
  if isGreedy then .choose body next else .choose next body

/-- Lay out a body that leads back to a choice between itself and what follows.
The choice is placed first and filled in last; the loop starts with the body. -/
def loop (layOut : Program → Program) (isGreedy : Bool) (program : Program) :
    Program × Nat :=
  let next := program.start
  let reserved := program.push (.jump next)
  let laidOut := layOut reserved
  ({ laidOut with
      instructions := laidOut.instructions.setIfInBounds reserved.start
        (choice isGreedy laidOut.start next) },
    reserved.start)

/-- A body or nothing. -/
def optional (layOut : Program → Program) (isGreedy : Bool) (program : Program) :
    Program :=
  let next := program.start
  let laidOut := layOut program
  laidOut.push (choice isGreedy laidOut.start next)

end Program

namespace Expression

/-- Lay out an expression in front of a program.  Any number of rounds of a body
that can be empty is laid out as some rounds or none, so that an empty round
comes before no round at all. -/
def layOut : Expression → Program → Program
  | empty, program => program.push (.jump program.start)
  | set runeClass, program => program.push (.step runeClass program.start)
  | assertion test, program => program.push (.check test program.start)
  | capture group body, program =>
      let behind := program.push (.save (2 * group + 1) program.start)
      let inside := body.layOut behind
      inside.push (.save (2 * group) inside.start)
  | sequence first second, program => first.layOut (second.layOut program)
  | either first second, program =>
      let next := program.start
      let laidOut := second.layOut program
      let other := laidOut.start
      let whole := first.layOut { laidOut with start := next }
      whole.push (.choose whole.start other)
  | repetition body count isGreedy, program =>
      match count with
      | .some => (Program.loop body.layOut isGreedy program).1
      | .any =>
          if body.isNullable then
            Program.optional
              (fun program => (Program.loop body.layOut isGreedy program).1)
              isGreedy program
          else
            let (laidOut, choice) := Program.loop body.layOut isGreedy program
            { laidOut with start := choice }
      | .optional | .counted .. => Program.optional body.layOut isGreedy program

end Expression

/-- The program of an expression, which stores the whole match in the first two
slots. -/
def Regex.program (regex : Regex) : Program :=
  (Expression.capture 0 regex.expression.unfold).layOut ⟨#[.accept], 0⟩

end RegexMatching.Linear
