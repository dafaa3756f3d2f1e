import RegexMatching.Linear.Assembly
import RegexMatching.Proofs.Closing

/-!
# Linear-time patterns inside a parenthesis

A linear-time pattern that is read in full is read in the same way in front of a closing
parenthesis, unless it ends in quoted text, which takes in all that follows.  So a pattern in a
group, with the end of the text behind the group, is read as the expression by itself and the end
of the text, and it cannot be read if quoted text leaves the group open.
-/

namespace RegexMatching.Linear

open PointReader

variable (behind : List Nat)

/-! ## Escapes -/

theorem readOctal_closes (first : Nat) (rest : List Nat) :
    Closes behind (readOctal first rest) (readOctal first (rest ++ closed behind)) := by
  have digits : ((rest ++ closed behind).take 2).takeWhile isOctalDigit =
      (rest.take 2).takeWhile isOctalDigit := by
    rcases rest with _ | ⟨second, _ | ⟨third, rest⟩⟩
    · rfl
    · cases isDigit : isOctalDigit second <;>
        simp [isDigit, show isOctalDigit 0x29 = false from rfl]
    · rfl
  have inside : ((rest.take 2).takeWhile isOctalDigit).length ≤ rest.length :=
    Nat.le_trans (List.takeWhile_sublist _).length_le (List.length_take_le' 2 rest)
  unfold readOctal
  dsimp only
  rw [digits, drop_closed behind inside]
  exact .some _ _

theorem readHex_closes (rest : List Nat) :
    Closes behind (readHex rest) (readHex (rest ++ closed behind)) := by
  unfold readHex
  rw [startsWith_closed behind (by decide)]
  refine Closes.ite (fun starts => ?_) fun _ => ?_
  · rw [drop_one_closed behind starts]
    dsimp only
    rw [takeWhile_closed behind (by decide), drop_takeWhile_closed,
      startsWith_closed behind (by decide)]
    refine Closes.ite (fun isRead => ?_) fun _ => .none _
    simp only [Bool.and_eq_true] at isRead
    rw [drop_one_closed behind isRead.1.2]
    exact .some _ _
  · dsimp only
    intro value after isRead
    split at isRead
    · next digits =>
        have enough : 2 ≤ rest.length := by
          rw [Bool.and_eq_true, decide_eq_true_eq, List.length_take] at digits
          omega
        cases isRead
        rw [List.take_append_of_le_length enough, if_pos digits, drop_closed behind enough]
    · contradiction

theorem readEscape_closes (rest : List Nat) :
    Closes behind (readEscape rest) (readEscape (rest ++ closed behind)) := by
  cases rest with
  | nil => exact .none _
  | cons point rest =>
      rw [List.cons_append]
      unfold readEscape readOctalEscape
      dsimp only
      rw [head?_closed behind (by decide)]
      refine Closes.ite (fun _ => Closes.ite (fun _ => readOctal_closes behind point rest)
        fun _ => .none _) fun _ => ?_
      unfold readCharEscape
      split
      · exact readHex_closes behind rest
      · exact .some _ _
      · exact .some _ _
      · exact .some _ _
      · exact .some _ _
      · exact .some _ _
      · exact .some _ _
      · exact Closes.ite (fun _ => .none _) fun _ => .some _ _

theorem readProperty_closes (isNegated : Bool) (rest : List Nat) :
    Closes behind (readProperty isNegated rest)
      (readProperty isNegated (rest ++ closed behind)) := by
  cases rest with
  | nil => exact .none _
  | cons point rest =>
      rw [List.cons_append]
      unfold readProperty
      refine Closes.ite (fun _ => ?_) fun _ => .of_eq_map ?_
      · unfold readBracedProperty
        dsimp only
        intro item after isRead
        split at isRead
        · contradiction
        · next ends =>
            have isEnded : rest.drop (rest.takeWhile (charOf · != '}')).length ≠ [] :=
              fun isEmpty => ends (List.isEmpty_iff.mpr isEmpty)
            obtain ⟨item', isItem, same⟩ := Option.map_eq_some_iff.mp isRead
            cases same
            rw [takeWhile_closed_of_ends behind isEnded, drop_takeWhile_closed,
              if_neg (by simp), isItem]
            obtain ⟨next, others, isNext⟩ := List.exists_cons_of_ne_nil isEnded
            rw [isNext]
            rfl
      · rw [Option.map_map]
        rfl

/-- A reader that may not apply applies in front of a closing parenthesis when it applies, and
reads the same. -/
inductive AppliesAlike {α : Type} : Option (Reader α) → Option (Reader α) → Prop
  | never : AppliesAlike none none
  | applies {read read' : Reader α} (closes : Closes behind read read') :
      AppliesAlike (some read) (some read')

theorem readSetEscape_closes (rest : List Nat) :
    AppliesAlike behind (readSetEscape rest) (readSetEscape (rest ++ closed behind)) := by
  cases rest with
  | nil => exact .never
  | cons point rest =>
      rw [List.cons_append]
      unfold readSetEscape
      dsimp only
      split
      · exact .applies (readProperty_closes behind false rest)
      · exact .applies (readProperty_closes behind true rest)
      · cases shorthandItem? (charOf point) with
        | none => exact .never
        | some item => exact .applies (.some _ _)

/-! ## Classes -/

theorem readClassPoint_closes (rest : List Nat) :
    Closes behind (readClassPoint rest) (readClassPoint (rest ++ closed behind)) := by
  cases rest with
  | nil => exact .none _
  | cons point rest => exact Closes.ite (fun _ => readEscape_closes behind rest) fun _ => .some _ _

/-- A range, without the matches on what is read. -/
theorem readRange_eq (rest : List Nat) :
    readRange rest = (readClassPoint rest).bind fun (first, after) =>
      if startsWith '-' after && !startsWith ']' (after.drop 1) then
        (readClassPoint (after.drop 1)).bind fun (last, final) =>
          if last < first then none else some (.ranges [(first, last)] false, final)
      else some (.ofPoint first, after) := by
  unfold readRange
  cases readClassPoint rest with
  | none => rfl
  | some read =>
      dsimp only [Option.bind_some]
      split
      · cases readClassPoint (read.2.drop 1) <;> rfl
      · rfl

theorem readRange_closes (rest : List Nat) :
    Closes behind (readRange rest) (readRange (rest ++ closed behind)) := by
  rw [readRange_eq, readRange_eq (rest ++ closed behind)]
  refine (readClassPoint_closes behind rest).bind fun first after _ => ?_
  dsimp only
  have isRange_eq : (startsWith '-' (after ++ closed behind) &&
      !startsWith ']' ((after ++ closed behind).drop 1)) =
        (startsWith '-' after && !startsWith ']' (after.drop 1)) :=
    startsWith_and_drop_closed behind (by decide) (by decide) (fun starts => !starts) after
  rw [isRange_eq]
  refine Closes.ite (fun isRange => ?_) fun _ => .some _ _
  rw [drop_one_closed behind (Bool.and_eq_true_iff.mp isRange).1]
  exact (readClassPoint_closes behind _).bind fun last final _ =>
    Closes.ite (fun _ => .none _) fun _ => .some _ _

/-- The recursion over the items of a class, without the proof that it ends. -/
theorem readRuneItems_eq (isFirst : Bool) (rest : List Nat) :
    readRuneItems isFirst rest =
      if startsWith ']' rest && !isFirst then some ([], rest.drop 1)
      else
        (readRuneItem rest).bind fun (item, after) =>
          (readRuneItems false after).map fun (items, final) => (item :: items, final) := by
  rw [readRuneItems]
  split
  · rfl
  · split
    · next noItem => rw [noItem, Option.bind_none]
    · next isRead =>
        conv => rhs; rw [isRead, Option.bind_some]

section Classes

variable (noBracket : ∀ point ∈ behind, charOf point ≠ ']')

include noBracket

theorem splitAtEnd_closed (rest : List Nat) :
    readNamedSet.splitAtEnd (rest ++ closed behind) =
      (readNamedSet.splitAtEnd rest).map fun (name, after) => (name, after ++ closed behind) := by
  have nothing : ∀ text : List Nat, (∀ point ∈ text, charOf point ≠ ']') →
      readNamedSet.splitAtEnd text = none := by
    intro text lacks
    induction text with
    | nil => rfl
    | cons point text ih =>
        rw [readNamedSet.splitAtEnd, ih fun other mem => lacks other (List.mem_cons_of_mem _ mem),
          if_neg]
        · rfl
        · rw [Bool.and_eq_true]
          rintro ⟨-, starts⟩
          cases text with
          | nil => contradiction
          | cons next text =>
              exact lacks next (List.mem_cons_of_mem _ List.mem_cons_self) (beq_iff_eq.mp starts)
  induction rest with
  | nil =>
      refine nothing _ fun point mem => ?_
      rcases List.mem_cons.mp mem with rfl | mem
      · decide
      · exact noBracket point mem
  | cons point rest ih =>
      rw [List.cons_append, readNamedSet.splitAtEnd, startsWith_closed behind (by decide),
        readNamedSet.splitAtEnd, ih]
      split
      · next ends =>
          rw [drop_one_closed behind (Bool.and_eq_true_iff.mp ends).2]
          rfl
      · rw [Option.map_map, Option.map_map]
        rfl

theorem readNamedSet_closes (rest : List Nat) :
    AppliesAlike behind (readNamedSet rest) (readNamedSet (rest ++ closed behind)) := by
  unfold readNamedSet
  rw [startsWith_closed behind (by decide), splitAtEnd_closed behind noBracket]
  split
  · exact .applies (.none _)
  · cases readNamedSet.splitAtEnd rest with
    | none => exact .never
    | some split =>
        refine .applies (.of_eq_map ?_)
        rw [Option.map_map]
        rfl

theorem readRuneItem_closes (rest : List Nat) :
    Closes behind (readRuneItem rest) (readRuneItem (rest ++ closed behind)) := by
  have named : AppliesAlike behind
      (if startsWith '[' rest && startsWith ':' (rest.drop 1) then readNamedSet (rest.drop 2)
        else if startsWith '\\' rest then readSetEscape (rest.drop 1) else none)
      (if startsWith '[' (rest ++ closed behind) &&
          startsWith ':' ((rest ++ closed behind).drop 1) then
            readNamedSet ((rest ++ closed behind).drop 2)
        else if startsWith '\\' (rest ++ closed behind) then
          readSetEscape ((rest ++ closed behind).drop 1)
        else none) := by
    have isNamed_eq : (startsWith '[' (rest ++ closed behind) &&
        startsWith ':' ((rest ++ closed behind).drop 1)) =
          (startsWith '[' rest && startsWith ':' (rest.drop 1)) :=
      startsWith_and_drop_closed behind (by decide) (by decide) id rest
    rw [isNamed_eq, startsWith_closed behind (by decide)]
    split
    · next isNamed =>
        rw [drop_succ_closed behind (Bool.and_eq_true_iff.mp isNamed).2]
        exact readNamedSet_closes behind noBracket _
    · split
      · next isEscape =>
          rw [drop_one_closed behind isEscape]
          exact readSetEscape_closes behind _
      · exact .never
  unfold readRuneItem
  dsimp only
  generalize (if startsWith '[' rest && startsWith ':' (rest.drop 1) then _ else _ :
    Option (Reader RuneItem)) = applied at named ⊢
  generalize (if startsWith '[' (rest ++ closed behind) && _ then _ else _ :
    Option (Reader RuneItem)) = applied' at named ⊢
  cases named with
  | never => exact readRange_closes behind rest
  | applies closes => exact closes

theorem readRuneItems_closes (isFirst : Bool) (rest : List Nat) :
    Closes behind (readRuneItems isFirst rest)
      (readRuneItems isFirst (rest ++ closed behind)) := by
  induction length : rest.length using Nat.strong_induction_on generalizing isFirst rest with
  | _ size ih =>
      rw [readRuneItems_eq, readRuneItems_eq isFirst (rest ++ closed behind),
        startsWith_closed behind (by decide)]
      refine Closes.ite (fun ends => ?_) fun _ => ?_
      · rw [drop_one_closed behind (Bool.and_eq_true_iff.mp ends).1]
        exact .some _ _
      · refine (readRuneItem_closes behind noBracket rest).bind fun item after isRead => ?_
        exact (ih _ (length ▸ length_of_readRuneItem isRead) false after rfl).map _

theorem readClass_closes (rest : List Nat) :
    Closes behind (readClass rest) (readClass (rest ++ closed behind)) := by
  unfold readClass
  dsimp only
  rw [startsWith_closed behind (by decide)]
  split
  · next isNegated =>
      rw [drop_one_closed behind isNegated]
      exact (readRuneItems_closes behind noBracket true _).map fun items =>
        [Token.set (startsWith '^' rest) items]
  · exact (readRuneItems_closes behind noBracket true rest).map fun items =>
      [Token.set (startsWith '^' rest) items]

end Classes

/-! ## Counts and groups -/

theorem readNumber_closed (rest : List Nat) :
    readNumber (rest ++ closed behind) =
      (readNumber rest).map fun (value, after) => (value, after ++ closed behind) := by
  unfold readNumber
  dsimp only
  rw [takeWhile_closed behind (by decide), drop_takeWhile_closed]
  split <;> rfl

/-- Bounds, without the matches on what is read. -/
theorem readBounds_eq (rest : List Nat) :
    readBounds rest = (readNumber rest).bind fun (least, after) =>
      if startsWith '}' after then some ((least, some least), after.drop 1)
      else if startsWith ',' after then
        if startsWith '}' (after.drop 1) then some ((least, none), after.drop 2)
        else
          (readNumber (after.drop 1)).bind fun (most, final) =>
            if startsWith '}' final then some ((least, some most), final.drop 1) else none
      else none := by
  unfold readBounds
  cases readNumber rest with
  | none => rfl
  | some read =>
      dsimp only [Option.bind_some]
      cases readNumber (read.2.drop 1) <;> rfl

/-- What opens no count opens none in front of a closing parenthesis. -/
theorem readBounds_closed (rest : List Nat) :
    readBounds (rest ++ closed behind) =
      (readBounds rest).map fun (bounds, after) => (bounds, after ++ closed behind) := by
  rw [readBounds_eq, readBounds_eq rest, readNumber_closed]
  cases readNumber rest with
  | none => rfl
  | some read =>
      dsimp only [Option.map_some, Option.bind_some]
      generalize read.2 = after
      rw [startsWith_closed behind (by decide), startsWith_closed behind (by decide)]
      split
      · next ends => rw [drop_one_closed behind ends, Option.map_some]
      split
      · next goesOn =>
          rw [drop_one_closed behind goesOn, startsWith_closed behind (by decide)]
          split
          · next ends => rw [drop_succ_closed behind ends, Option.map_some]
          · rw [readNumber_closed]
            cases readNumber (after.drop 1) with
            | none => rfl
            | some read' =>
                dsimp only [Option.map_some, Option.bind_some]
                rw [startsWith_closed behind (by decide)]
                split
                · next ends => rw [drop_one_closed behind ends, Option.map_some]
                · rfl
      · rfl

theorem readMark_closes (count : Count) (rest : List Nat) :
    Closes behind (readMark count rest) (readMark count (rest ++ closed behind)) := by
  unfold readMark
  rw [startsWith_closed behind (by decide)]
  refine Closes.ite (fun starts => ?_) fun _ => .some _ _
  rw [drop_one_closed behind starts]
  exact .some _ _

theorem readCounted_closes (rest : List Nat) :
    Closes behind (readCounted rest) (readCounted (rest ++ closed behind)) := by
  unfold readCounted
  rw [readBounds_closed]
  cases readBounds rest with
  | none => exact .some _ _
  | some read => exact Closes.ite (fun _ => readMark_closes behind _ _) fun _ => .none _

theorem readName_closes (rest : List Nat) :
    Closes behind (readName rest) (readName (rest ++ closed behind)) := by
  unfold readName
  dsimp only
  intro tokens after isRead
  split at isRead
  · contradiction
  · next isName =>
      have isEnded : rest.drop (rest.takeWhile (charOf · != '>')).length ≠ [] := by
        intro isEmpty
        simp [isEmpty] at isName
      cases isRead
      obtain ⟨next, others, isNext⟩ := List.exists_cons_of_ne_nil isEnded
      rw [takeWhile_closed_of_ends behind isEnded, drop_takeWhile_closed, isNext,
        List.cons_append]
      rw [isNext] at isName
      exact if_neg isName

theorem readFlags_closes (change : FlagChange) (value isLetterDue : Bool) (rest : List Nat) :
    Closes behind (readFlags change value isLetterDue rest)
      (readFlags change value isLetterDue (rest ++ closed behind)) := by
  induction rest generalizing change value isLetterDue with
  | nil => exact .none _
  | cons point rest ih =>
      rw [List.cons_append, readFlags, readFlags]
      split
      · exact Closes.ite (fun _ => ih _ _ _) fun _ => .none _
      · exact Closes.ite (fun _ => .none _) fun _ => .some _ _
      · exact Closes.ite (fun _ => .none _) fun _ => .some _ _
      · cases change.set? value (charOf point) with
        | none => exact .none _
        | some change => exact ih _ _ _

/-- What stands behind an opening parenthesis, one code point after the other. -/
theorem readOpening_eq (rest : List Nat) :
    readOpening rest =
      if startsWith '?' rest then
        if startsWith 'P' (rest.drop 1) && startsWith '<' ((rest.drop 1).drop 1) then
          readName ((rest.drop 1).drop 2)
        else if startsWith '<' (rest.drop 1) then readName ((rest.drop 1).drop 1)
        else readFlags {} true false (rest.drop 1)
      else some ([.opening (.capture none)], rest) := by
  rcases rest with _ | ⟨first, _ | ⟨second, _ | ⟨third, rest⟩⟩⟩
  · rfl
  all_goals
    simp only [readOpening, startsWith, List.take, List.map, List.drop]
    split <;> simp_all <;> grind

theorem readOpening_closes (rest : List Nat) :
    Closes behind (readOpening rest) (readOpening (rest ++ closed behind)) := by
  rw [readOpening_eq, readOpening_eq (rest ++ closed behind), startsWith_closed behind (by decide)]
  refine Closes.ite (fun starts => ?_) fun _ => .some _ _
  rw [drop_one_closed behind starts]
  generalize rest.drop 1 = text
  have isNamed_eq : (startsWith 'P' (text ++ closed behind) &&
      startsWith '<' ((text ++ closed behind).drop 1)) =
        (startsWith 'P' text && startsWith '<' (text.drop 1)) :=
    startsWith_and_drop_closed behind (by decide) (by decide) id text
  rw [isNamed_eq, startsWith_closed behind (by decide)]
  refine Closes.ite (fun mark => ?_) fun _ => Closes.ite (fun mark => ?_) fun _ => ?_
  · rw [drop_succ_closed behind (Bool.and_eq_true_iff.mp mark).2]
    exact readName_closes behind _
  · rw [drop_one_closed behind mark]
    exact readName_closes behind _
  · exact readFlags_closes behind {} true false text

/-! ## Quoted text -/

/-- Text goes on to the end as quoted text if the text behind its first point does. -/
theorem splitQuoted_cons_eq_iff {point : Nat} {rest : List Nat}
    (notEnd : ¬(decide (charOf point = '\\') && startsWith 'E' rest) = true) :
    splitQuoted (point :: rest) = (point :: rest, []) ↔ splitQuoted rest = (rest, []) := by
  rw [splitQuoted, if_neg notEnd]
  simp [Prod.ext_iff]

/-- Quoted text that goes on to the end takes in all that is put behind it. -/
theorem splitQuoted_closed_of_unended (noEnd : splitQuoted behind = (behind, [])) {rest : List Nat}
    (goesOn : splitQuoted rest = (rest, [])) :
    splitQuoted (rest ++ closed behind) = (rest ++ closed behind, []) := by
  induction rest with
  | nil => exact (splitQuoted_cons_eq_iff (by simp [show charOf 0x29 = ')' from rfl])).mpr noEnd
  | cons point rest ih =>
      by_cases ends : (decide (charOf point = '\\') && startsWith 'E' rest) = true
      · rw [splitQuoted, if_pos ends] at goesOn
        cases goesOn
      · have ends' := startsWith_closed behind (show 'E' ≠ ')' by decide) rest ▸ ends
        exact (splitQuoted_cons_eq_iff ends').mpr (ih ((splitQuoted_cons_eq_iff ends).mp goesOn))

/-- Other quoted text ends where it did. -/
theorem splitQuoted_closed_of_ended {rest : List Nat} (isEnded : splitQuoted rest ≠ (rest, [])) :
    splitQuoted (rest ++ closed behind) =
      ((splitQuoted rest).1, (splitQuoted rest).2 ++ closed behind) := by
  induction rest with
  | nil => contradiction
  | cons point rest ih =>
      rw [List.cons_append, splitQuoted, startsWith_closed behind (by decide)]
      by_cases ends : (decide (charOf point = '\\') && startsWith 'E' rest) = true
      · rw [if_pos ends, splitQuoted, if_pos ends,
          drop_one_closed behind (Bool.and_eq_true_iff.mp ends).2]
      · rw [if_neg ends, ih fun goesOn => isEnded ((splitQuoted_cons_eq_iff ends).mpr goesOn),
          splitQuoted, if_neg ends]

/-! ## Tokens -/

section Tokens

variable (noBracket : ∀ point ∈ behind, charOf point ≠ ']')
  (noEnd : splitQuoted behind = (behind, []))

/-- The tokens behind a backslash, one code point after the other. -/
theorem readEscapeTokens_eq (rest : List Nat) :
    readEscapeTokens rest =
      if startsWith 'A' rest then some ([.assertion .textStart], rest.drop 1)
      else if startsWith 'z' rest then some ([.assertion .textEnd], rest.drop 1)
      else if startsWith 'b' rest then some ([.assertion (.wordBoundary false)], rest.drop 1)
      else if startsWith 'B' rest then some ([.assertion (.wordBoundary true)], rest.drop 1)
      else if startsWith 'Q' rest then
        some (quotedTokens (splitQuoted (rest.drop 1)).1, (splitQuoted (rest.drop 1)).2)
      else
        match readSetEscape rest with
        | some outcome => outcome.map fun (item, after) => ([.set false [item]], after)
        | none => (readEscape rest).map fun (point, after) => ([.ofPoint point], after) := by
  cases rest with
  | nil => rfl
  | cons point rest =>
      simp only [readEscapeTokens, List.head?_cons, Option.map_some]
      split
      case h_6 notA notZ notB notNegated notQ =>
        have differs : ∀ char, (some (charOf point) = some char → False) →
            ¬startsWith char (point :: rest) = true :=
          fun char other same => other (congrArg some (beq_iff_eq.mp same))
        rewrite [if_neg (differs _ notA), if_neg (differs _ notZ), if_neg (differs _ notB),
          if_neg (differs _ notNegated), if_neg (differs _ notQ)]
        rfl
      all_goals simp_all [startsWith]

/-- Whether quoted text begins behind a backslash and goes on to the end of the pattern. -/
def LeavesQuoteOpen (rest : List Nat) : Prop :=
  startsWith 'Q' rest = true ∧ splitQuoted (rest.drop 1) = (rest.drop 1, [])

include noEnd in
/-- Quoted text that goes on to the end takes in all that is put behind it. -/
theorem LeavesQuoteOpen.closed {rest : List Nat} (isOpen : LeavesQuoteOpen rest) :
    LeavesQuoteOpen (rest ++ closed behind) := by
  obtain ⟨mark, goesOn⟩ := isOpen
  refine ⟨(startsWith_closed behind (by decide) rest).trans mark, ?_⟩
  rw [drop_one_closed behind mark]
  exact splitQuoted_closed_of_unended behind noEnd goesOn

theorem readEscapeTokens_of_leavesQuoteOpen {rest : List Nat} (isOpen : LeavesQuoteOpen rest) :
    readEscapeTokens rest = some (quotedTokens (rest.drop 1), []) := by
  obtain ⟨mark, goesOn⟩ := isOpen
  cases rest with
  | nil => contradiction
  | cons point rest =>
      have isQuote : charOf point = 'Q' := beq_iff_eq.mp mark
      rw [List.drop_one, List.tail_cons] at goesOn
      simp [readEscapeTokens, isQuote, goesOn]

/-- The tokens of an escape come out the same, unless quoted text goes on to the end. -/
theorem readEscapeTokens_closes {rest : List Nat} (isEnded : ¬LeavesQuoteOpen rest) :
    Closes behind (readEscapeTokens rest) (readEscapeTokens (rest ++ closed behind)) := by
  rw [readEscapeTokens_eq, readEscapeTokens_eq (rest ++ closed behind)]
  simp only [startsWith_closed behind (show 'A' ≠ ')' by decide),
    startsWith_closed behind (show 'z' ≠ ')' by decide),
    startsWith_closed behind (show 'b' ≠ ')' by decide),
    startsWith_closed behind (show 'B' ≠ ')' by decide),
    startsWith_closed behind (show 'Q' ≠ ')' by decide)]
  refine Closes.ite (fun mark => ?_) fun _ => Closes.ite (fun mark => ?_) fun _ =>
    Closes.ite (fun mark => ?_) fun _ => Closes.ite (fun mark => ?_) fun _ =>
      Closes.ite (fun mark => ?_) fun _ => ?_
  · rw [drop_one_closed behind mark]
    exact .some _ _
  · rw [drop_one_closed behind mark]
    exact .some _ _
  · rw [drop_one_closed behind mark]
    exact .some _ _
  · rw [drop_one_closed behind mark]
    exact .some _ _
  · rw [drop_one_closed behind mark]
    rw [splitQuoted_closed_of_ended behind fun goesOn => isEnded ⟨mark, goesOn⟩]
    exact .some _ _
  · have applied := readSetEscape_closes behind rest
    generalize readSetEscape rest = outcome at applied ⊢
    generalize readSetEscape (rest ++ closed behind) = outcome' at applied ⊢
    cases applied with
    | never => exact (readEscape_closes behind rest).map fun point => [Token.ofPoint point]
    | applies closes => exact closes.map fun item => [Token.set false [item]]

/-- A pattern ends in quoted text whose end is not marked. -/
inductive QuotesToEnd : List Nat → Prop
  | here {point : Nat} {rest : List Nat} (isEscape : charOf point = '\\')
      (isOpen : LeavesQuoteOpen rest) : QuotesToEnd (point :: rest)
  | behind {point : Nat} {rest after : List Nat} {first : List Token}
      (isRead : readTokens point rest = some (first, after)) (quotes : QuotesToEnd after) :
      QuotesToEnd (point :: rest)

theorem not_quotesToEnd_nil : ¬QuotesToEnd [] :=
  nofun

include noBracket in
theorem readTokens_closes {point : Nat} {rest : List Nat}
    (isEnded : charOf point = '\\' → ¬LeavesQuoteOpen rest) :
    Closes behind (readTokens point rest) (readTokens point (rest ++ closed behind)) := by
  unfold readTokens
  split
  · next isEscape => exact readEscapeTokens_closes behind (isEnded isEscape)
  · exact readClass_closes behind noBracket rest
  · exact readOpening_closes behind rest
  · exact .some _ _
  · exact .some _ _
  · exact .some _ _
  · exact .some _ _
  · exact .some _ _
  · exact readMark_closes behind .any rest
  · exact readMark_closes behind .some rest
  · exact readMark_closes behind .optional rest
  · exact readCounted_closes behind rest
  · exact .some _ _

/-- The recursion over a pattern, without the proof that it ends. -/
theorem tokens_cons (point : Nat) (rest : List Nat) :
    tokens (point :: rest) =
      (readTokens point rest).bind fun (first, after) => (tokens after).map (first ++ ·) := by
  rw [tokens]
  split
  · next noToken => rw [noToken, Option.bind_none]
  · next isRead =>
      conv => rhs; rw [isRead, Option.bind_some]

theorem readTokens_of_leavesQuoteOpen {point : Nat} {rest : List Nat}
    (isEscape : charOf point = '\\') (isOpen : LeavesQuoteOpen rest) :
    readTokens point rest = some (quotedTokens (rest.drop 1), []) := by
  rw [readTokens, isEscape]
  exact readEscapeTokens_of_leavesQuoteOpen isOpen

theorem tokens_of_leavesQuoteOpen {point : Nat} {rest : List Nat} (isEscape : charOf point = '\\')
    (isOpen : LeavesQuoteOpen rest) :
    tokens (point :: rest) = some (quotedTokens (rest.drop 1)) := by
  rw [tokens_cons, readTokens_of_leavesQuoteOpen isEscape isOpen, Option.bind_some]
  dsimp only
  rw [tokens, Option.map_some, List.append_nil]

include noBracket in
/-- The tokens of a pattern and those of what is put behind it. -/
theorem tokens_closed {rest : List Nat} {read : List Token} (isEnded : ¬QuotesToEnd rest)
    (isRead : tokens rest = some read) :
    tokens (rest ++ closed behind) = (tokens (closed behind)).map (read ++ ·) := by
  fun_induction tokens rest generalizing read with
  | case1 =>
      cases isRead
      rw [List.nil_append]
      exact (congrFun Option.map_id (tokens (closed behind))).symm
  | case2 => contradiction
  | case3 point rest first after isFirst shorter ih =>
      obtain ⟨others, isRead', rfl⟩ := Option.map_eq_some_iff.mp isRead
      have closes := readTokens_closes behind noBracket fun isEscape isOpen =>
        isEnded (.here isEscape isOpen)
      rw [List.cons_append, tokens_cons, closes _ _ isFirst, Option.bind_some]
      dsimp only
      rw [ih (fun quotes => isEnded (.behind isFirst quotes)) isRead', Option.map_map]
      refine congrArg (Option.map · _) (funext fun behind => ?_)
      exact (List.append_assoc first others behind).symm

include noBracket noEnd in
/-- Quoted text at the end of a pattern takes in what is put behind it. -/
theorem QuotesToEnd.exists_tokens {rest : List Nat} (quotes : QuotesToEnd rest) {read : List Token}
    (isRead : tokens rest = some read) :
    ∃ before quoted, read = before ++ quotedTokens quoted ∧
      tokens (rest ++ closed behind) =
        some (before ++ quotedTokens (quoted ++ closed behind)) := by
  induction quotes generalizing read with
  | @here point rest isEscape isOpen =>
      rw [tokens_of_leavesQuoteOpen isEscape isOpen] at isRead
      cases isRead
      refine ⟨[], _, rfl, ?_⟩
      rw [List.cons_append, tokens_of_leavesQuoteOpen isEscape (isOpen.closed behind noEnd),
        drop_one_closed behind isOpen.1]
      rfl
  | @behind point rest after first isFirst quotes ih =>
      rw [tokens_cons, isFirst, Option.bind_some] at isRead
      obtain ⟨others, isRead', rfl⟩ := Option.map_eq_some_iff.mp isRead
      obtain ⟨before, quoted, rfl, same⟩ := ih isRead'
      have closes := readTokens_closes behind noBracket fun isEscape isOpen => by
        rw [readTokens_of_leavesQuoteOpen isEscape isOpen] at isFirst
        cases isFirst
        exact not_quotesToEnd_nil quotes
      refine ⟨first ++ before, quoted, (List.append_assoc _ _ _).symm, ?_⟩
      rw [List.cons_append, tokens_cons, closes _ _ isFirst, Option.bind_some]
      dsimp only
      rw [same]
      exact congrArg some (List.append_assoc _ _ _).symm

end Tokens

/-- The points of a pattern in a group, with the end of the text behind it. -/
abbrev enclosed (pattern : List Nat) : List Nat :=
  "(?:".toList.map Char.toNat ++ pattern ++ ")\\z".toList.map Char.toNat

theorem tokens_enclosed (pattern : List Nat) :
    tokens (enclosed pattern) =
      (tokens (pattern ++ closed [0x5C, 0x7A])).map (.opening (.plain {}) :: ·) := by
  change tokens (0x28 :: 0x3F :: 0x3A :: (pattern ++ closed [0x5C, 0x7A])) = _
  have isRead : ∀ rest, readTokens 0x28 (0x3F :: 0x3A :: rest) =
      some ([.opening (.plain {})], rest) := by
    intro rest
    change readOpening (0x3F :: 0x3A :: rest) = _
    rw [readOpening_eq]
    rfl
  rw [tokens_cons, isRead]
  rfl

theorem tokens_end : tokens (closed [0x5C, 0x7A]) = some [.closing, .assertion .textEnd] := by
  change tokens [0x29, 0x5C, 0x7A] = _
  rw [tokens_cons]
  change (tokens [0x5C, 0x7A]).map _ = _
  rw [tokens_cons]
  change ((tokens []).map _).map _ = _
  rw [tokens]
  rfl

/-! ## Assembly inside a group -/

namespace Assembly

/-- An assembly as it is inside a group around the whole pattern. -/
def wrap (flags : Flags) (assembly : Assembly) : Assembly :=
  { assembly with outer := assembly.outer ++ [(start flags).level] }

theorem wrap_start (flags : Flags) : (start flags).wrap flags = (start flags).openPlain {} :=
  rfl

/-- A group around the pattern changes nothing about a step. -/
theorem step_wrap (flags : Flags) {assembly next : Assembly} {token : Token}
    (stepped : assembly.step token = some next) :
    (assembly.wrap flags).step token = some (next.wrap flags) := by
  cases token with
  | opening kind =>
      cases kind with
      | capture name =>
          cases name with
          | none =>
              cases stepped
              rfl
          | some name =>
              change (if (assembly.names.lookup name).isSome = true then none else _) = _ at stepped
              change (if (assembly.names.lookup name).isSome = true then none else _) = _
              split at stepped
              · contradiction
              · next isFree =>
                  cases stepped
                  exact if_neg isFree
      | plain change =>
          cases stepped
          rfl
  | closing =>
      rcases assembly with ⟨flags', level, outer, captureCount, names, isQuantified⟩
      cases outer with
      | nil => contradiction
      | cons around outer =>
          cases stepped
          rfl
  | quantifier count isMarked =>
      change quantify _ count isMarked = _ at stepped
      change quantify _ count isMarked = _
      unfold quantify at stepped ⊢
      dsimp only [wrap] at stepped ⊢
      split at stepped
      · split at stepped
        · contradiction
        · next isAllowed =>
            cases stepped
            exact if_neg isAllowed
      · contradiction
  | _ =>
      cases stepped
      rfl

theorem steps_wrap (flags : Flags) {assembly final : Assembly} {read : List Token}
    (stepped : assembly.steps read = some final) :
    (assembly.wrap flags).steps read = some (final.wrap flags) := by
  induction read generalizing assembly with
  | nil =>
      cases stepped
      rfl
  | cons token rest ih =>
      rw [steps] at stepped ⊢
      cases once : assembly.step token with
      | none =>
          rw [once] at stepped
          contradiction
      | some next =>
          rw [once] at stepped
          rw [step_wrap flags once]
          exact ih stepped

/-- Tokens in two parts. -/
theorem steps_append (assembly : Assembly) (first second : List Token) :
    assembly.steps (first ++ second) = (assembly.steps first).bind (·.steps second) := by
  induction first generalizing assembly with
  | nil => rfl
  | cons token rest ih =>
      rw [List.cons_append, steps, steps]
      cases assembly.step token with
      | none => rfl
      | some next => exact ih next

/-- Quoted text opens and closes nothing. -/
theorem outer_of_steps_quoted {assembly final : Assembly} {points : List Nat}
    (stepped : assembly.steps (quotedTokens points) = some final) :
    final.outer = assembly.outer := by
  have ofPoints : ∀ (points : List Nat) (assembly : Assembly),
      assembly.steps (points.map .ofPoint) = some final → final.outer = assembly.outer := by
    intro points
    induction points with
    | nil =>
        intro assembly stepped
        cases stepped
        rfl
    | cons point points ih =>
        intro assembly stepped
        exact ih (({ assembly with isQuantified := false } : Assembly).push
          (.set ⟨false, assembly.flags.caseless, [.ofPoint point]⟩)) stepped
  cases points with
  | nil =>
      cases stepped
      rfl
  | cons point points => exact ofPoints (point :: points) assembly stepped

end Assembly

/-- The assembly of a pattern that can be read. -/
theorem exists_steps_of_ofPoints? {pattern : List Nat} {flags : Flags} {regex : Regex}
    (isRead : Regex.ofPoints? pattern flags = some regex) :
    ∃ read final, tokens pattern = some read ∧
      (Assembly.start flags).steps read = some final ∧ final.outer = [] ∧
        regex = ⟨final.level.expression, final.captureCount, final.names⟩ := by
  rw [Regex.ofPoints?] at isRead
  split at isRead
  · contradiction
  · next read isTokens =>
      split at isRead
      · next assembled =>
          cases isRead
          exact ⟨read, _, isTokens, assembled, rfl, rfl⟩
      · contradiction

theorem steps_enclosed (flags : Flags) (read : List Token) :
    (Assembly.start flags).steps (.opening (.plain {}) :: read) =
      ((Assembly.start flags).wrap flags).steps read :=
  rfl

/-- An expression in a group, with the end of the text behind it, is read as the expression and
the end of the text, unless it ends in quoted text. -/
theorem ofPoints?_enclosed_of_ended {pattern : List Nat} {flags : Flags} {regex : Regex}
    (isRead : Regex.ofPoints? pattern flags = some regex) (isEnded : ¬QuotesToEnd pattern) :
    Regex.ofPoints? (enclosed pattern) flags = some
      { regex with expression := .sequence regex.expression (.assertion .textEnd) } := by
  obtain ⟨read, final, isTokens, assembled, noOuter, rfl⟩ := exists_steps_of_ofPoints? isRead
  have isTokens' : tokens (enclosed pattern) =
      some (.opening (.plain {}) :: (read ++ [.closing, .assertion .textEnd])) := by
    rw [tokens_enclosed, tokens_closed [0x5C, 0x7A] (by decide) isEnded isTokens, tokens_end]
    rfl
  rcases final with ⟨final, level, outer, captureCount, names, isQuantified⟩
  obtain rfl : outer = [] := noOuter
  rw [Regex.ofPoints?, isTokens']
  dsimp only
  rw [steps_enclosed, Assembly.steps_append, Assembly.steps_wrap flags assembled]
  rfl

/-- Quoted text at the end leaves the group open. -/
theorem ofPoints?_enclosed_of_quotesToEnd {pattern : List Nat} {flags : Flags} {regex : Regex}
    (isRead : Regex.ofPoints? pattern flags = some regex) (quotes : QuotesToEnd pattern) :
    Regex.ofPoints? (enclosed pattern) flags = none := by
  obtain ⟨read, final, isTokens, assembled, noOuter, -⟩ := exists_steps_of_ofPoints? isRead
  obtain ⟨before, quoted, rfl, isTokens'⟩ :=
    quotes.exists_tokens [0x5C, 0x7A] (by decide) rfl isTokens
  rw [Assembly.steps_append] at assembled
  obtain ⟨middle, toMiddle, toEnd⟩ := Option.bind_eq_some_iff.mp assembled
  rw [Regex.ofPoints?, tokens_enclosed, isTokens']
  dsimp only [Option.map_some]
  rw [steps_enclosed, Assembly.steps_append, Assembly.steps_wrap flags toMiddle, Option.bind_some]
  split
  · next assembled' =>
      have outer := Assembly.outer_of_steps_quoted assembled'
      rw [Assembly.wrap, ← Assembly.outer_of_steps_quoted toEnd, noOuter] at outer
      contradiction
  · rfl

/-- An expression in a group, with the end of the text behind it, is read as the expression and
the end of the text if it can be read. -/
theorem ofPoints?_enclosed {pattern : List Nat} {flags : Flags} {regex regex' : Regex}
    (isRead : Regex.ofPoints? pattern flags = some regex)
    (isRead' : Regex.ofPoints? (enclosed pattern) flags = some regex') :
    regex' =
      { regex with expression := .sequence regex.expression (.assertion .textEnd) } := by
  by_cases quotes : QuotesToEnd pattern
  · rw [ofPoints?_enclosed_of_quotesToEnd isRead quotes] at isRead'
    contradiction
  · rw [ofPoints?_enclosed_of_ended isRead quotes] at isRead'
    exact (Option.some.inj isRead').symm

end RegexMatching.Linear
