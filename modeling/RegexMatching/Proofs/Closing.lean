import Mathlib.Data.List.TakeWhile
import RegexMatching.Text.PointReader

/-!
# Reading in front of a closing parenthesis

A reader that looks no further than at what it takes in reads the same in front of a closing
parenthesis, which is left over with all that follows it.
-/

namespace RegexMatching.PointReader

/-! ## Lists -/

/-- A closing parenthesis and what follows it. -/
abbrev closed (behind : List Nat) : List Nat :=
  0x29 :: behind

variable (behind : List Nat)

theorem startsWith_closed {char : Char} (other : char ≠ ')') (rest : List Nat) :
    startsWith char (rest ++ closed behind) = startsWith char rest := by
  cases rest with
  | nil => exact beq_eq_false_iff_ne.mpr other.symm
  | cons point rest => rfl

theorem drop_closed {count : Nat} {rest : List Nat} (inside : count ≤ rest.length) :
    (rest ++ closed behind).drop count = rest.drop count ++ closed behind :=
  List.drop_append_of_le_length inside

theorem takeWhile_closed {test : Nat → Bool} (fails : test 0x29 = false) (rest : List Nat) :
    (rest ++ closed behind).takeWhile test = rest.takeWhile test := by
  induction rest with
  | nil => exact List.takeWhile_cons_of_neg (by rw [fails]; exact Bool.false_ne_true)
  | cons point rest ih => rw [List.cons_append, List.takeWhile_cons, ih, List.takeWhile_cons]

theorem drop_takeWhile_closed (test : Nat → Bool) (rest : List Nat) :
    (rest ++ closed behind).drop (rest.takeWhile test).length =
      rest.drop (rest.takeWhile test).length ++ closed behind :=
  drop_closed behind (List.takeWhile_sublist test).length_le

theorem one_le_length_of_startsWith {char : Char} {rest : List Nat}
    (starts : startsWith char rest = true) : 1 ≤ rest.length := by
  cases rest with
  | nil => contradiction
  | cons point rest => exact Nat.succ_le_succ (Nat.zero_le _)

theorem drop_succ_closed {char : Char} {count : Nat} {rest : List Nat}
    (starts : startsWith char (rest.drop count) = true) :
    (rest ++ closed behind).drop (count + 1) = rest.drop (count + 1) ++ closed behind := by
  have one := one_le_length_of_startsWith starts
  rw [List.length_drop] at one
  exact drop_closed behind (by omega)

theorem drop_one_closed {char : Char} {rest : List Nat} (starts : startsWith char rest = true) :
    (rest ++ closed behind).drop 1 = rest.drop 1 ++ closed behind :=
  drop_closed behind (one_le_length_of_startsWith starts)

/-- What ends before the closing parenthesis ends there still. -/
theorem takeWhile_closed_of_ends {test : Nat → Bool} {rest : List Nat}
    (ends : rest.drop (rest.takeWhile test).length ≠ []) :
    (rest ++ closed behind).takeWhile test = rest.takeWhile test := by
  rw [List.takeWhile_append, if_neg]
  intro isAll
  rw [isAll, List.drop_length] at ends
  exact ends rfl

theorem head?_closed {test : Nat → Bool} (fails : test 0x29 = false) (rest : List Nat) :
    ((rest ++ closed behind).head?.map test).getD false = (rest.head?.map test).getD false := by
  cases rest with
  | nil => exact fails
  | cons point rest => rfl

theorem startsWith_and_drop_closed {char other : Char} (isOther : char ≠ ')')
    (isOther' : other ≠ ')') (test : Bool → Bool) (rest : List Nat) :
    (startsWith char (rest ++ closed behind) &&
        test (startsWith other ((rest ++ closed behind).drop 1))) =
      (startsWith char rest && test (startsWith other (rest.drop 1))) := by
  rw [startsWith_closed behind isOther]
  cases starts : startsWith char rest with
  | false => rfl
  | true => rw [drop_one_closed behind starts, startsWith_closed behind isOther']

/-! ## Readers -/

/-- What is read comes out the same in front of a closing parenthesis, which is left over. -/
def Closes {α : Type} (read read' : Reader α) : Prop :=
  ∀ value after, read = some (value, after) → read' = some (value, after ++ closed behind)

variable {behind} {α β : Type}

theorem Closes.none (read' : Reader α) : Closes behind none read' :=
  fun _ _ read => nomatch read

theorem Closes.some (value : α) (after : List Nat) :
    Closes behind (some (value, after)) (some (value, after ++ closed behind)) := by
  intro value' after' read
  obtain ⟨rfl, rfl⟩ := Prod.mk.inj (Option.some.inj read)
  rfl

theorem Closes.of_eq_map {read read' : Reader α}
    (same : read' = read.map fun (value, after) => (value, after ++ closed behind)) :
    Closes behind read read' := by
  intro value after isRead
  rw [same, isRead]
  rfl

theorem Closes.map {read read' : Reader α} (closes : Closes behind read read') (change : α → β) :
    Closes behind (read.map fun (value, after) => (change value, after))
      (read'.map fun (value, after) => (change value, after)) := by
  intro value after isRead
  obtain ⟨⟨value', after'⟩, isRead', same⟩ := Option.map_eq_some_iff.mp isRead
  obtain ⟨rfl, rfl⟩ := Prod.mk.inj same
  rw [closes _ _ isRead']
  rfl

/-- Two readers, the second one for what the first one leaves. -/
theorem Closes.bind {read read' : Reader α} (closes : Closes behind read read')
    {next next' : α × List Nat → Reader β}
    (closesNext : ∀ value after, read = Option.some (value, after) →
      Closes behind (next (value, after)) (next' (value, after ++ closed behind))) :
    Closes behind (read.bind next) (read'.bind next') := by
  intro value after isRead
  obtain ⟨⟨value', after'⟩, isRead', isNext⟩ := Option.bind_eq_some_iff.mp isRead
  rw [closes _ _ isRead']
  exact closesNext value' after' isRead' value after isNext

theorem Closes.ite {test : Prop} [Decidable test] {first first' second second' : Reader α}
    (whenTrue : test → Closes behind first first')
    (whenFalse : ¬test → Closes behind second second') :
    Closes behind (if test then first else second) (if test then first' else second') := by
  split
  · next isTrue => exact whenTrue isTrue
  · next isFalse => exact whenFalse isFalse

end RegexMatching.PointReader
