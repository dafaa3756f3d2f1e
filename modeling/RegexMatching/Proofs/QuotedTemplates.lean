import RegexMatching.Proofs.TemplateGrammar

/-!
# Quoted text in templates

Quoted text expands to itself wherever a template may go on.  Only a number without braces at the
end of a template would take in digits of the text behind it.  An escape at the end of a template
may take in half of a surrogate pair, but what it takes in is written as it is.
-/

namespace RegexMatching

namespace Template

variable {captures : Captures}

/-! ## Numbers at the end -/

/-- A template whose last token is a reference by digits without braces. -/
inductive EndsInNumber (captures : Captures) : Text → Prop
  | last {unit : CodeUnit} {digits : Text} (isDollar : unit.toChar = '$')
      (isNumber : IsLongestNumber captures.size (digits.takeWhile CodeUnit.isDigit) digits) :
      EndsInNumber captures (unit :: digits)
  | behind {template rest : Text} {token : Token} (starts : Starts captures template token rest)
      (ends : EndsInNumber captures rest) : EndsInNumber captures template

/-- A template ends in a number if what is behind its first token does, or if that token is a group
and all that there is. -/
theorem EndsInNumber.of_starts {template rest : Text} {token : Token}
    (ends : EndsInNumber captures template) (starts : Starts captures template token rest) :
    EndsInNumber captures rest ∨ rest = [] ∧ ∃ number, token = .group number := by
  cases ends with
  | @last unit digits isDollar isNumber =>
      rw [← List.append_nil digits] at isNumber starts
      obtain ⟨rfl, rfl⟩ := starts.unique (.numbered isDollar (by simpa using isNumber))
      exact .inr ⟨rfl, _, rfl⟩
  | behind starts' ends =>
      obtain ⟨rfl, rfl⟩ := starts.unique starts'
      exact .inl ends

/-- Where a number stops in front of a unit, it stops there in front of more text as well. -/
theorem extendNumber_append_right {size group number : Nat} {text after : Text}
    (notEnd : after ≠ []) (isRead : extendNumber size group text = (number, after))
    (more : Text) : extendNumber size group (text ++ more) = (number, after ++ more) := by
  induction text generalizing group with
  | nil => exact absurd (Prod.mk.inj isRead).2.symm notEnd
  | cons unit rest ih =>
      rw [extendNumber] at isRead
      rw [List.cons_append, extendNumber]
      split at isRead
      · next goesOn => rw [if_pos goesOn, ih isRead]
      · next stops =>
          obtain ⟨rfl, rfl⟩ := Prod.mk.inj isRead
          rw [if_neg stops]
          rfl

theorem lt_of_numberedGroup {digits : Text} {number : Nat}
    (isGroup : numberedGroup captures digits = .ok number) :
    digits.decimalValue < captures.size ∧ digits.decimalValue = number := by
  by_cases inGroups : digits.decimalValue < captures.size
  · rw [numberedGroup_of_lt inGroups] at isGroup
    exact ⟨inGroups, Except.ok.inj isGroup⟩
  · rw [numberedGroup_of_le (Nat.le_of_not_lt inGroups)] at isGroup
    contradiction

/-- A number that takes up all digits to the end ends the template. -/
theorem endsInNumber_of_extendNumber {unit first : CodeUnit} (isDollar : unit.toChar = '$')
    (isDigit : first.isDigit = true) {rest : Text} {group : Nat}
    (inGroups : Text.decimalValue [first] < captures.size)
    (extended : extendNumber captures.size (Text.decimalValue [first]) rest = (group, [])) :
    EndsInNumber captures (unit :: first :: rest) := by
  obtain ⟨digits, isWhole, -, isNumber⟩ :=
    isLongestNumber_of_extendNumber (List.cons_ne_nil first []) inGroups
      (by rw [List.all_cons, isDigit]; rfl) extended
  rw [List.append_nil] at isWhole isNumber
  subst isWhole
  exact .last isDollar isNumber

/-- A reference is read in the same way in front of more text, or it is a number at the end. -/
theorem reference_append_right {unit : CodeUnit} (isDollar : unit.toChar = '$') {text after : Text}
    {group : Nat} (isRead : reference captures text = .ok (group, after)) (more : Text) :
    reference captures (text ++ more) = .ok (group, after ++ more) ∨
      EndsInNumber captures (unit :: text) := by
  obtain ⟨first, inner, isBrace, rfl, others, isGroup⟩ |
    ⟨first, rest, number, notBrace, isDigit, rfl, isGroup, extended⟩ :=
    exists_of_reference_eq_ok isRead
  · left
    rw [List.cons_append, List.append_assoc, List.cons_append, reference, if_pos isBrace, others]
    dsimp only
    rw [isGroup]
    rfl
  · obtain ⟨inGroups, rfl⟩ := lt_of_numberedGroup isGroup
    by_cases isEnd : after = []
    · subst isEnd
      exact .inr (endsInNumber_of_extendNumber isDollar isDigit inGroups extended)
    · left
      rw [List.cons_append, reference, if_neg notBrace, if_pos isDigit, isGroup]
      exact congrArg Except.ok (extendNumber_append_right isEnd extended more)

/-- What a reference is read as is the token that the template starts with. -/
theorem starts_of_reference {unit : CodeUnit} (isDollar : unit.toChar = '$') {text after : Text}
    {group : Nat} (isRead : reference captures text = .ok (group, after)) :
    Starts captures (unit :: text) (.group group) after := by
  rcases reference_cases captures isDollar text with
    ⟨group', after', isRead', starts⟩ | ⟨fault, isUnread, -⟩
  · obtain ⟨rfl, rfl⟩ := Prod.mk.inj (Except.ok.inj (isRead.symm.trans isRead'))
    exact starts
  · rw [isUnread] at isRead
    cases isRead

/-! ## Escapes at the end -/

/-- The second half of a pair is no mark, so at the start of quoted text it stands for itself. -/
theorem exists_quote_eq_of_low {unit : CodeUnit} {text rest : Text}
    (isLow : unit.isLowSurrogate = true) (isQuoted : quote text = unit :: rest) :
    ∃ others, text = unit :: others ∧ rest = quote others := by
  cases text with
  | nil => cases isQuoted
  | cons first others =>
      rw [quote, List.flatMap_cons, ← quote] at isQuoted
      split at isQuoted
      · obtain ⟨rfl, -⟩ := List.cons.inj isQuoted
        exact absurd isLow (by decide)
      · obtain ⟨rfl, rfl⟩ := List.cons.inj isQuoted
        exact ⟨others, rfl, rfl⟩

/-- Behind an escape, quoted text is written as it is, even if the escape takes in its first
unit. -/
theorem expand_escape_append_quote {unit : CodeUnit} {rest : Text} (isEscape : unit.toChar = '\\')
    (notEmpty : rest ≠ []) (text : Text)
    (behind : expand captures (rest.drop rest.firstPointLength ++ quote text) =
      ⟨(expand captures (rest.drop rest.firstPointLength)).output ++ text, none⟩) :
    expand captures (unit :: (rest ++ quote text)) =
      ⟨(expand captures (unit :: rest)).output ++ text, none⟩ := by
  have notEmpty' : rest ++ quote text ≠ [] := List.append_ne_nil_of_left_ne_nil notEmpty _
  by_cases joins : (rest ++ quote text).firstPointLength = rest.firstPointLength
  · have inside : rest.firstPointLength ≤ rest.length := by
      have isFirst := (isFirstPoint_take notEmpty).length_eq
      rw [List.take_append_drop, List.length_take] at isFirst
      omega
    rw [expand_escape isEscape notEmpty', expand_escape isEscape notEmpty, joins,
      List.take_append_of_le_length inside, List.drop_append_of_le_length inside, behind]
    simp [Expansion.after]
  · match rest with
    | [] => contradiction
    | _ :: _ :: _ => exact absurd rfl joins
    | [high] =>
        -- The escape takes in the second half of the pair.
        cases isQuoted : quote text with
        | nil => rw [isQuoted] at joins; exact absurd rfl joins
        | cons low others =>
            rw [isQuoted] at joins
            have isPair : Text.startsWithPair (high :: low :: others) = true :=
              Decidable.byContradiction fun notPair => joins (if_neg notPair)
            have isLow : low.isLowSurrogate = true := (Bool.and_eq_true_iff.mp isPair).2
            obtain ⟨text', rfl, rfl⟩ := exists_quote_eq_of_low isLow isQuoted
            have taken : Text.firstPointLength (high :: low :: quote text') = 2 := if_pos isPair
            have alone : Text.firstPointLength [high] = 1 := rfl
            rw [List.singleton_append, expand_escape isEscape (List.cons_ne_nil _ _),
              expand_escape isEscape (List.cons_ne_nil _ _), taken, alone]
            change (expand captures (quote text')).after [high, low] =
              ⟨((expand captures []).after [high]).output ++ low :: text', none⟩
            rw [expand_quote, expand_nil]
            rfl

/-! ## Templates with quoted text behind -/

/-- Quoted text is written behind what a template is expanded to.  The induction is on the
expansion. -/
theorem expand_append_quote {template : Text}
    (isComplete : (expand captures template).fault = none)
    (notNumber : ¬EndsInNumber captures template) (text : Text) :
    expand captures (template ++ quote text) =
      ⟨(expand captures template).output ++ text, none⟩ := by
  induction template using expand.induct captures with
  | case1 =>
      rw [List.nil_append, expand_quote, expand_nil]
      rfl
  | case2 unit rest isEscape isEmpty =>
      obtain rfl := List.isEmpty_iff.mp isEmpty
      rw [(Offends.escape isEscape).expand_eq] at isComplete
      cases isComplete
  | case3 unit rest isEscape notEmpty taken ih =>
      have hasRest : rest ≠ [] := fun isEmpty => notEmpty (List.isEmpty_iff.mpr isEmpty)
      have starts : Starts captures _ (.literal (rest.take taken)) (rest.drop taken) :=
        .escaped isEscape (isFirstPoint_take hasRest)
      rw [List.take_append_drop] at starts
      rw [expand_escape isEscape hasRest] at isComplete
      exact expand_escape_append_quote isEscape hasRest text
        (ih isComplete fun ends => notNumber (.behind starts ends))
  | case4 unit rest notEscape isDollar fault isUnread =>
      rw [(Offends.unreadable isDollar isUnread).expand_eq] at isComplete
      cases isComplete
  | case5 unit rest notEscape isDollar group after isRead le fault hasNoText =>
      rw [(Offends.groupless isDollar isRead hasNoText).expand_eq] at isComplete
      cases isComplete
  | case6 unit rest notEscape isDollar group after isRead le value isValue ih =>
      have starts := starts_of_reference isDollar isRead
      rw [expand_reference isDollar isRead isValue] at isComplete ⊢
      have behind := ih isComplete fun ends => notNumber (.behind starts ends)
      rcases reference_append_right isDollar isRead (quote text) with isRead' | isNumber
      · rw [List.cons_append, expand_reference isDollar isRead' isValue, behind]
        simp [Expansion.after]
      · exact absurd isNumber notNumber
  | case7 unit rest notEscape notDollar ih =>
      rw [expand_literal notEscape notDollar] at isComplete ⊢
      have behind := ih isComplete fun ends => notNumber (.behind (.plain notEscape notDollar) ends)
      rw [List.cons_append, expand_literal notEscape notDollar, behind]
      rfl

/-- A quoted text expands to itself, whatever the groups are, and so it does behind every template
that expands without a fault and does not end in a number without braces. -/
theorem quoted_expands_to_itself (captures : Captures) (text : Text) :
    expand captures (quote text) = ⟨text, none⟩ ∧
      ∀ template, (expand captures template).fault = none → ¬EndsInNumber captures template →
        expand captures (template ++ quote text) =
          ⟨(expand captures template).output ++ text, none⟩ :=
  ⟨expand_quote captures text, fun _ isComplete notNumber =>
    expand_append_quote isComplete notNumber text⟩

/-- An escape at the end of a template takes in the second half of a pair from the quoted text. -/
theorem quoted_expands_to_itself_behind_half :
    let captures : Captures := ⟨2, [], fun _ => .ok (some [0x78])⟩
    let template : Text := Text.ofString "$\x7b1\x7d\\" ++ [0xD83D]
    (expand captures template).fault = none ∧ ¬EndsInNumber captures template ∧
      expand captures (template ++ quote (0xDE00 :: Text.ofString "$1")) =
        ⟨[0x78, 0xD83D, 0xDE00, 0x24, 0x31], none⟩ := by
  intro captures template
  have isComplete : (expand captures template).fault = none := by decide +kernel
  have notNumber : ¬EndsInNumber captures template := by
    have starts : Starts captures template (.group 1) [0x5C, 0xD83D] :=
      @Starts.braced captures (.ofChar '$') (.ofChar '{') (.ofChar '}') [0x31]
        [0x5C, 0xD83D] (by decide) (by decide) (by decide) (by decide) (by decide) (by decide)
    have startsEscape : Starts captures [0x5C, 0xD83D] (.literal [0xD83D]) [] :=
      .escaped (by decide) (isFirstPoint_single rfl)
    intro ends
    rcases ends.of_starts starts with ends | ⟨isEnd, -⟩
    · rcases ends.of_starts startsEscape with ends | ⟨-, number, isGroup⟩
      · cases ends with | behind starts _ => cases starts
      · cases isGroup
    · cases isEnd
  refine ⟨isComplete, notNumber, ?_⟩
  rw [(quoted_expands_to_itself captures (0xDE00 :: Text.ofString "$1")).2 template isComplete
    notNumber]
  have written : (expand captures template).output = [0x78, 0xD83D] := by decide +kernel
  rw [written]
  rfl

end Template

end RegexMatching
