import Mathlib
import RegexMatching.Backtrack.Token

/-!
# Scanning for parentheses

Between the tokens of a pattern a parenthesis is a token of its own; behind a backslash, in a
class and in the name of a property it is not.  A scan tells these places apart without reading
the tokens.  A reader *takes* a piece of a pattern when a scan passes the piece without meeting a
parenthesis, and nothing behind the next parenthesis has a part in what is read.
-/

namespace RegexMatching.Backtrack

open PointReader

variable {α β : Type}

/-! ## Scanning -/

/-- Where a scan is: at the start of an item, behind a backslash, or in the name of a property. -/
inductive Mode where
  | item (inClass : Bool)
  | escape (inClass : Bool)
  | property (inClass : Bool)
deriving DecidableEq

namespace Mode

/-- Go past a character. -/
def step : Mode → Char → Mode
  | item inClass, char =>
      if char = '\\' then escape inClass
      else if char = (if inClass then ']' else '[') then item !inClass
      else item inClass
  | escape inClass, char =>
      if char = 'p' ∨ char = 'P' then property inClass else item inClass
  | property inClass, char => if char = '}' then item inClass else property inClass

/-- Whether a character is a parenthesis with a meaning. -/
def meetsParen : Mode → Char → Bool
  | item false, char => char == '(' || char == ')'
  | _, _ => false

theorem meetsParen_of_ne {char : Char} (notParen : char ≠ '(' ∧ char ≠ ')') (mode : Mode) :
    mode.meetsParen char = false := by
  unfold meetsParen
  split
  · simp [notParen]
  · rfl

/-- Go past a pattern. -/
def run (mode : Mode) (pattern : List Nat) : Mode :=
  pattern.foldl (fun mode point => mode.step (charOf point)) mode

/-- Go past a piece of a pattern in which no parenthesis has a meaning. -/
def pass : Mode → List Nat → Option Mode
  | mode, [] => some mode
  | mode, point :: rest =>
      if mode.meetsParen (charOf point) then none else (mode.step (charOf point)).pass rest

theorem run_append (mode : Mode) (first second : List Nat) :
    mode.run (first ++ second) = (mode.run first).run second :=
  List.foldl_append

theorem pass_append (mode : Mode) (first second : List Nat) :
    mode.pass (first ++ second) = (mode.pass first).bind fun middle => middle.pass second := by
  induction first generalizing mode with
  | nil => rfl
  | cons point rest ih =>
      rw [List.cons_append, pass, pass]
      split
      · rfl
      · exact ih _

theorem run_of_pass {mode final : Mode} {pattern : List Nat}
    (passed : mode.pass pattern = some final) : mode.run pattern = final := by
  induction pattern generalizing mode with
  | nil => exact Option.some.inj passed
  | cons point rest ih =>
      rw [pass] at passed
      split at passed
      · contradiction
      · exact ih passed

/-- A piece of characters that change nothing. -/
theorem pass_of_all {mode : Mode} {pattern : List Nat}
    (stays : ∀ point ∈ pattern, mode.step (charOf point) = mode ∧
      mode.meetsParen (charOf point) = false) : mode.pass pattern = some mode := by
  induction pattern with
  | nil => rfl
  | cons point rest ih =>
      obtain ⟨same, noParen⟩ := stays point List.mem_cons_self
      rw [pass, noParen, if_neg Bool.false_ne_true, same]
      exact ih fun other member => stays other (List.mem_cons_of_mem _ member)

end Mode

/-! ## Patterns that agree up to a parenthesis -/

def isParen (point : Nat) : Bool :=
  charOf point == '(' || charOf point == ')'

/-- Two patterns that are the same up to some parenthesis, which is included. -/
def AgreeToParen (rest other : List Nat) : Prop :=
  ∃ same paren behind behind', isParen paren = true ∧
    rest = same ++ paren :: behind ∧ other = same ++ paren :: behind'

namespace AgreeToParen

variable {rest other : List Nat}

theorem symm (agree : AgreeToParen rest other) : AgreeToParen other rest := by
  obtain ⟨same, paren, behind, behind', isParen, rfl, rfl⟩ := agree
  exact ⟨same, paren, behind', behind, isParen, rfl, rfl⟩

theorem append_left (agree : AgreeToParen rest other) (taken : List Nat) :
    AgreeToParen (taken ++ rest) (taken ++ other) := by
  obtain ⟨same, paren, behind, behind', isParen, rfl, rfl⟩ := agree
  exact ⟨taken ++ same, paren, behind, behind', isParen, by simp, by simp⟩

theorem head?_eq (agree : AgreeToParen rest other) : rest.head? = other.head? := by
  obtain ⟨same, paren, behind, behind', isParen, rfl, rfl⟩ := agree
  cases same <;> rfl

theorem startsWith_eq (agree : AgreeToParen rest other) (char : Char) :
    startsWith char rest = startsWith char other := by
  obtain ⟨same, paren, behind, behind', isParen, rfl, rfl⟩ := agree
  cases same <;> rfl

/-- What is no parenthesis may be left out in front. -/
theorem drop_one (agree : AgreeToParen rest other) {char : Char}
    (notParen : char ≠ '(' ∧ char ≠ ')') (starts : startsWith char rest = true) :
    AgreeToParen (rest.drop 1) (other.drop 1) := by
  obtain ⟨same, paren, behind, behind', isParen, rfl, rfl⟩ := agree
  cases same with
  | nil =>
      have isChar : charOf paren = char := beq_iff_eq.mp starts
      simp [Backtrack.isParen, isChar, notParen] at isParen
  | cons point same => exact ⟨same, paren, behind, behind', isParen, rfl, rfl⟩

/-- What comes second agrees where the first is no parenthesis. -/
theorem startsWith_and_drop_eq (agree : AgreeToParen rest other) {char : Char}
    (notParen : char ≠ '(' ∧ char ≠ ')') (second : Char) (test : Bool → Bool) :
    (startsWith char rest && test (startsWith second (rest.drop 1))) =
      (startsWith char other && test (startsWith second (other.drop 1))) := by
  rw [← agree.startsWith_eq char]
  cases starts : startsWith char rest with
  | false => rfl
  | true => rw [(agree.drop_one notParen starts).startsWith_eq]

/-- What is taken in without a parenthesis is taken from what agrees. -/
theorem exists_eq_append {taken after : List Nat} (agree : AgreeToParen (taken ++ after) other)
    (noParen : ∀ point ∈ taken, isParen point = false) :
    ∃ after', other = taken ++ after' ∧ AgreeToParen after after' := by
  induction taken generalizing other with
  | nil => exact ⟨other, rfl, agree⟩
  | cons point taken ih =>
      obtain ⟨same, paren, behind, behind', isParen', pattern_eq, rfl⟩ := agree
      cases same with
      | nil =>
          obtain ⟨rfl, -⟩ := List.cons.inj pattern_eq
          rw [noParen point List.mem_cons_self] at isParen'
          contradiction
      | cons first same =>
          rw [List.cons_append, List.cons_append] at pattern_eq
          obtain ⟨rfl, tail_eq⟩ := List.cons.inj pattern_eq
          obtain ⟨after', other_eq, agree'⟩ :=
            ih ⟨same, paren, behind, behind', isParen', tail_eq, rfl⟩
              fun other member => noParen other (List.mem_cons_of_mem _ member)
          exact ⟨after', congrArg (point :: ·) other_eq, agree'⟩

end AgreeToParen

/-! ## What readers take in -/

/-- What is read of a pattern is a piece that a scan passes on its way from one mode to another,
and it is read as well in front of what agrees with the rest up to a parenthesis. -/
def Takes (mode final : Mode) (read : List Nat → Reader α) (rest : List Nat) : Prop :=
  ∀ value after, read rest = some (value, after) →
    ∃ taken, rest = taken ++ after ∧ mode.pass taken = some final ∧
      ∀ other, AgreeToParen after other → read (taken ++ other) = some (value, other)

namespace Takes

variable {mode middle final : Mode} {read read' : List Nat → Reader α} {rest : List Nat}

theorem none : Takes mode final (fun _ => (none : Reader α)) rest :=
  fun _ _ isRead => nomatch isRead

theorem some (value : α) : Takes mode mode (fun rest => some (value, rest)) rest := by
  intro value' after isRead
  obtain ⟨rfl, rfl⟩ := Prod.mk.inj (Option.some.inj isRead)
  exact ⟨[], rfl, rfl, fun _ _ => rfl⟩

/-- Two readers, the second one for what the first one leaves. -/
theorem bind {next : α × List Nat → Reader β} (first : Takes mode middle read rest)
    (second : ∀ value after, read rest = Option.some (value, after) →
      Takes middle final (fun rest => next (value, rest)) after) :
    Takes mode final (fun rest => (read rest).bind next) rest := by
  intro value after isRead
  obtain ⟨⟨value', between⟩, isFirst, isSecond⟩ := Option.bind_eq_some_iff.mp isRead
  obtain ⟨taken, rfl, passed, again⟩ := first _ _ isFirst
  obtain ⟨taken', rfl, passed', again'⟩ := second _ _ isFirst _ _ isSecond
  refine ⟨taken ++ taken', (List.append_assoc ..).symm, ?_, fun other agree => ?_⟩
  · rw [Mode.pass_append, passed]
    exact passed'
  · rw [List.append_assoc]
    dsimp only
    rw [again _ (agree.append_left taken'), Option.bind_some]
    exact again' other agree

theorem map (first : Takes mode final read rest) (change : α → β) :
    Takes mode final (fun rest => (read rest).map fun (value, after) => (change value, after))
      rest := by
  intro value after isRead
  obtain ⟨⟨value', after'⟩, isRead', same⟩ := Option.map_eq_some_iff.mp isRead
  obtain ⟨rfl, rfl⟩ := Prod.mk.inj same
  obtain ⟨taken, rest_eq, passed, again⟩ := first _ _ isRead'
  refine ⟨taken, rest_eq, passed, fun other agree => ?_⟩
  dsimp only
  rw [again other agree]
  rfl

/-- A choice by what comes first. -/
theorem ite {test : List Nat → Bool}
    (stable : ∀ other, AgreeToParen rest other → test other = test rest)
    (whenTrue : test rest = true → Takes mode final read rest)
    (whenFalse : test rest = false → Takes mode final read' rest) :
    Takes mode final (fun rest => if test rest then read rest else read' rest) rest := by
  intro value after isRead
  dsimp only at isRead
  cases tested : test rest with
  | true =>
      rw [tested, if_pos rfl] at isRead
      obtain ⟨taken, rfl, passed, again⟩ := whenTrue tested _ _ isRead
      refine ⟨taken, rfl, passed, fun other agree => ?_⟩
      dsimp only
      rw [stable _ (agree.append_left taken), tested, if_pos rfl]
      exact again other agree
  | false =>
      rw [tested, if_neg Bool.false_ne_true] at isRead
      obtain ⟨taken, rfl, passed, again⟩ := whenFalse tested _ _ isRead
      refine ⟨taken, rfl, passed, fun other agree => ?_⟩
      dsimp only
      rw [stable _ (agree.append_left taken), tested, if_neg Bool.false_ne_true]
      exact again other agree

/-- A character and what is read behind it. -/
theorem drop_one (read : List Nat → Reader α) {char : Char}
    (notParen : char ≠ '(' ∧ char ≠ ')') (starts : startsWith char rest = true)
    (behind : Takes (mode.step char) final read (rest.drop 1)) :
    Takes mode final (fun rest => read (rest.drop 1)) rest := by
  intro value after isRead
  cases rest with
  | nil => contradiction
  | cons point rest =>
      obtain rfl : charOf point = char := beq_iff_eq.mp starts
      obtain ⟨taken, rest_eq, passed, again⟩ := behind _ _ isRead
      refine ⟨point :: taken, congrArg (point :: ·) rest_eq, ?_, again⟩
      rw [Mode.pass, Mode.meetsParen_of_ne notParen, if_neg Bool.false_ne_true]
      exact passed

/-- A choice by whether a character comes first, which is left out then. -/
theorem char (read : List Nat → Reader α) {char : Char} (notParen : char ≠ '(' ∧ char ≠ ')')
    (whenTrue : startsWith char rest = true → Takes (mode.step char) final read (rest.drop 1))
    (whenFalse : startsWith char rest = false → Takes mode final read' rest) :
    Takes mode final
      (fun rest => if startsWith char rest then read (rest.drop 1) else read' rest) rest :=
  ite (fun _ agree => (agree.startsWith_eq char).symm)
    (fun starts => drop_one read notParen starts (whenTrue starts)) whenFalse

/-- A second reader for what the first one does not read. -/
theorem orElse (first : Takes mode final read rest) (second : Takes mode final read' rest)
    (stable : ∀ other, read rest = Option.none → (read' rest).isSome = true →
      AgreeToParen rest other → read other = Option.none) :
    Takes mode final (fun rest => (read rest).or (read' rest)) rest := by
  intro value after isRead
  dsimp only at isRead
  cases isFirst : read rest with
  | some outcome =>
      rw [isFirst, Option.some_or] at isRead
      cases isRead
      obtain ⟨taken, rfl, passed, again⟩ := first _ _ isFirst
      refine ⟨taken, rfl, passed, fun other agree => ?_⟩
      dsimp only
      rw [again other agree, Option.some_or]
  | none =>
      rw [isFirst, Option.none_or] at isRead
      obtain ⟨taken, rfl, passed, again⟩ := second _ _ isRead
      refine ⟨taken, rfl, passed, fun other agree => ?_⟩
      dsimp only
      rw [stable _ isFirst (Option.isSome_of_mem isRead) (agree.append_left taken),
        Option.none_or]
      exact again other agree

theorem filter (first : Takes mode final read rest) (test : α → Bool) :
    Takes mode final (fun rest => (read rest).filter fun outcome => test outcome.1) rest := by
  intro value after isRead
  obtain ⟨isRead, isTest⟩ := Option.filter_eq_some_iff.mp isRead
  obtain ⟨taken, rest_eq, passed, again⟩ := first _ _ isRead
  exact ⟨taken, rest_eq, passed, fun other agree =>
    Option.filter_eq_some_iff.mpr ⟨again other agree, isTest⟩⟩

/-- What the first code point stands for. -/
theorem head {value? : Nat → Option α}
    (steps : ∀ point value, rest.head? = Option.some point → value? point = Option.some value →
      mode.step (charOf point) = final ∧ mode.meetsParen (charOf point) = false) :
    Takes mode final
      (fun rest => (rest.head?.bind value?).map fun value => (value, rest.drop 1)) rest := by
  intro value after isRead
  obtain ⟨value', isValue, same⟩ := Option.map_eq_some_iff.mp isRead
  obtain ⟨rfl, rfl⟩ := Prod.mk.inj same
  obtain ⟨point, isHead, isValue⟩ := Option.bind_eq_some_iff.mp isValue
  obtain ⟨stepped, noParen⟩ := steps _ _ isHead isValue
  cases rest with
  | nil => contradiction
  | cons first rest =>
      obtain rfl : first = point := Option.some.inj isHead
      refine ⟨[first], rfl, ?_, fun other _ => ?_⟩
      · rw [Mode.pass, noParen, if_neg Bool.false_ne_true, stepped]
        rfl
      · dsimp only [List.singleton_append, List.head?_cons, Option.bind_some]
        rw [isValue]
        rfl

/-- As many characters of one kind as there are. -/
theorem takeWhile {test : Nat → Bool}
    (stays : ∀ point, test point = true → mode.step (charOf point) = mode ∧
      mode.meetsParen (charOf point) = false) :
    Takes mode mode
      (fun rest => Option.some (rest.takeWhile test, rest.drop (rest.takeWhile test).length))
      rest := by
  intro value after isRead
  obtain ⟨rfl, after_eq⟩ := Prod.mk.inj (Option.some.inj isRead)
  have parts : rest.takeWhile test ++ rest.dropWhile test = rest :=
    List.takeWhile_append_dropWhile
  obtain rfl : rest.dropWhile test = after :=
    calc
      rest.dropWhile test =
          (rest.takeWhile test ++ rest.dropWhile test).drop (rest.takeWhile test).length :=
        List.drop_left.symm
      _ = after := by rw [parts]; exact after_eq
  refine ⟨rest.takeWhile test, parts.symm,
    Mode.pass_of_all fun point member => stays point (List.mem_takeWhile_imp member),
    fun other agree => ?_⟩
  have ends : other.takeWhile test = [] := by
    cases other with
    | nil => rfl
    | cons point other =>
        refine List.takeWhile_cons_of_neg fun isTest => ?_
        have stops := List.head?_dropWhile_not test rest
        rw [agree.head?_eq] at stops
        exact Bool.false_ne_true (stops.symm.trans isTest)
  have whole : (rest.takeWhile test ++ other).takeWhile test = rest.takeWhile test := by
    rw [List.takeWhile_append_of_pos fun point member => List.mem_takeWhile_imp member, ends,
      List.append_nil]
  dsimp only
  rw [whole, List.drop_left]

end Takes

/-! ## Ordinary characters -/

/-- A quantifier over a list is decided along the list, and not over its whole type. -/
instance (priority := 1100) decidableForallMem (test : α → Prop) [DecidablePred test]
    (list : List α) : Decidable (∀ entry ∈ list, test entry) :=
  list.decidableBAll test

/-- The characters that mean something to a scan between items. -/
def scanMarks : List Char :=
  ['\\', '[', ']', '(', ')']

/-- What is none of the marks is passed between items. -/
theorem Mode.stays_of_notMem {char : Char} (notMark : char ∉ scanMarks) (inClass : Bool) :
    (item inClass).step char = item inClass ∧ (item inClass).meetsParen char = false := by
  simp only [scanMarks, List.mem_cons, List.not_mem_nil, or_false, not_or] at notMark
  cases inClass <;> simp [step, meetsParen, notMark]

/-- A kind of characters to which no mark belongs is passed between items. -/
theorem Mode.stays_of_test {test : Nat → Bool}
    (noMark : ∀ mark ∈ scanMarks, test mark.toNat = false) (inClass : Bool) (point : Nat)
    (isTest : test point = true) :
    (item inClass).step (charOf point) = item inClass ∧
      (item inClass).meetsParen (charOf point) = false := by
  refine stays_of_notMem (fun isMark => ?_) inClass
  have notNul : charOf point ≠ '\x00' := by
    intro isNul
    rw [isNul] at isMark
    exact absurd isMark (by decide)
  have fails := noMark _ isMark
  rw [toNat_of_charOf notNul rfl, isTest] at fails
  contradiction

theorem isHexDigit_mark : ∀ mark ∈ scanMarks, isHexDigit mark.toNat = false := by
  decide

theorem isDigit_mark : ∀ mark ∈ scanMarks, isDigit mark.toNat = false := by
  decide

theorem isNamePart_mark : ∀ mark ∈ scanMarks, isNamePart mark.toNat = false := by
  decide

end RegexMatching.Backtrack
