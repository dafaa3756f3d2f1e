import RegexMatching.Template

/-!
# Templates that fail

A template is read from left to right and written as it is read.  So a faulty template splits
in front of what cannot be expanded: the part in front of it is a template without fault, and
what has been written is the expansion of that part.
-/

namespace RegexMatching

namespace Text

/-- A text that does not start with a high surrogate does not start with a pair. -/
theorem firstPointLength_of_not_high {unit : CodeUnit} (notHigh : unit.isHighSurrogate = false)
    (rest : Text) : firstPointLength (unit :: rest) = 1 := by
  refine if_neg ?_
  cases rest with
  | nil => exact Bool.false_ne_true
  | cons second rest =>
      rw [startsWithPair, notHigh]
      exact Bool.false_ne_true

/-- The first code point stays the first one when the text is cut further on. -/
theorem firstPointLength_take_append {text start rest : Text} (notEmpty : text ≠ [])
    (isRest : text.drop (firstPointLength text) = start ++ rest) :
    text.take (firstPointLength text) ≠ [] ∧
      firstPointLength (text.take (firstPointLength text) ++ start) =
        (text.take (firstPointLength text)).length := by
  cases text with
  | nil => contradiction
  | cons first tail =>
      simp only [firstPointLength] at isRest ⊢
      cases isPair : startsWithPair (first :: tail) with
      | true =>
          cases tail with
          | nil => cases isPair
          | cons second tail =>
              simp only [if_true, List.take_succ_cons, List.take_zero]
              exact ⟨List.cons_ne_nil _ _, if_pos isPair⟩
      | false =>
          simp only [isPair, Bool.false_eq_true, if_false, List.drop_succ_cons, List.drop_zero,
            List.take_succ_cons, List.take_zero, List.cons_append, List.nil_append] at isRest ⊢
          refine ⟨List.cons_ne_nil _ _, if_neg ?_⟩
          cases start with
          | nil => exact Bool.false_ne_true
          | cons second start =>
              rw [isRest] at isPair
              rw [show startsWithPair (first :: second :: start) =
                startsWithPair (first :: (second :: start ++ rest)) from rfl, isPair]
              exact Bool.false_ne_true

/-- A text is cut at a unit that does not occur before. -/
theorem cut?_of_notMem {separator : CodeUnit} {before : Text} (notMem : separator ∉ before)
    (after : Text) :
    cut? [separator] (before ++ separator :: after) = some (before, after) := by
  induction before with
  | nil => simp [cut?, List.isPrefixOf]
  | cons unit rest ih =>
      have differs : ¬[separator].isPrefixOf (unit :: (rest ++ separator :: after)) = true := by
        simpa [List.isPrefixOf] using List.ne_of_not_mem_cons notMem
      rw [List.cons_append, cut?, if_neg differs, ih (List.not_mem_of_not_mem_cons notMem)]
      rfl

/-- A text is cut at the first occurrence of a unit, whatever follows. -/
theorem cut?_unit {separator : CodeUnit} {text before after : Text}
    (found : cut? [separator] text = some (before, after)) :
    text = before ++ separator :: after ∧
      ∀ other, cut? [separator] (before ++ separator :: other) = some (before, other) := by
  induction text generalizing before with
  | nil => cases found
  | cons unit rest ih =>
      rw [cut?] at found
      split at found
      · next starts =>
          have same : separator = unit := by
            simpa [List.isPrefixOf] using starts
          obtain ⟨rfl, rfl⟩ := Prod.mk.inj (Option.some.inj found)
          subst same
          refine ⟨rfl, fun other => ?_⟩
          simp [cut?, List.isPrefixOf]
      · next differs =>
          obtain ⟨⟨inner, rest'⟩, isCut, isWhole⟩ := Option.map_eq_some_iff.mp found
          obtain ⟨rfl, rfl⟩ := Prod.mk.inj isWhole
          obtain ⟨rfl, others⟩ := ih isCut
          refine ⟨rfl, fun other => ?_⟩
          have differs' :
              ¬[separator].isPrefixOf (unit :: (inner ++ separator :: other)) = true := by
            simpa [List.isPrefixOf] using differs
          rw [List.cons_append, cut?, if_neg differs', others]
          rfl

end Text

namespace Template

variable {captures : Captures}

/-! ## References in parts -/

/-- A number is read up to the same place when the text is cut behind it. -/
theorem extendNumber_append {size group number : Nat} {text start rest : Text}
    (isRead : extendNumber size group text = (number, start ++ rest)) :
    ∃ read, text = read ++ (start ++ rest) ∧
      extendNumber size group (read ++ start) = (number, start) := by
  induction text generalizing group with
  | nil =>
      obtain ⟨rfl, nothing⟩ := Prod.mk.inj isRead
      obtain ⟨rfl, rfl⟩ := List.append_eq_nil_iff.mp nothing.symm
      exact ⟨[], rfl, rfl⟩
  | cons unit tail ih =>
      simp only [extendNumber] at isRead
      split at isRead
      · next goesOn =>
          obtain ⟨read, rfl, isRead'⟩ := ih isRead
          refine ⟨unit :: read, rfl, ?_⟩
          simp only [List.cons_append, extendNumber]
          rw [if_pos goesOn, isRead']
      · next stops =>
          obtain ⟨rfl, isRest⟩ := Prod.mk.inj isRead
          refine ⟨[], isRest, ?_⟩
          cases start with
          | nil => rfl
          | cons first start =>
              obtain rfl := (List.cons.inj isRest).1
              simp only [List.nil_append, extendNumber]
              rw [if_neg stops]

/-- A reference is a name or number in braces, or a digit with the digits that extend it. -/
theorem exists_of_reference_eq_ok {text after : Text} {group : Nat}
    (isRead : reference captures text = .ok (group, after)) :
    (∃ unit inner, unit.toChar = '{' ∧ text = unit :: (inner ++ CodeUnit.ofChar '}' :: after) ∧
        (∀ other, Text.cut? [CodeUnit.ofChar '}'] (inner ++ CodeUnit.ofChar '}' :: other) =
          some (inner, other)) ∧
        bracedGroup captures inner = .ok group) ∨
      ∃ unit rest number, unit.toChar ≠ '{' ∧ unit.isDigit = true ∧ text = unit :: rest ∧
        numberedGroup captures [unit] = .ok number ∧
        extendNumber captures.size number rest = (group, after) := by
  cases text with
  | nil => cases isRead
  | cons unit rest =>
      rw [reference] at isRead
      split at isRead
      · next isBrace =>
          cases isCut : Text.cut? [CodeUnit.ofChar '}'] rest with
          | none =>
              rw [isCut] at isRead
              cases isRead
          | some halves =>
              rcases halves with ⟨inner, behind⟩
              rw [isCut] at isRead
              dsimp only at isRead
              obtain ⟨rfl, others⟩ := Text.cut?_unit isCut
              cases isGroup : bracedGroup captures inner with
              | error fault =>
                  rw [isGroup] at isRead
                  cases isRead
              | ok number =>
                  rw [isGroup] at isRead
                  obtain ⟨rfl, rfl⟩ := Prod.mk.inj (Except.ok.inj isRead)
                  exact .inl ⟨unit, inner, isBrace, rfl, others, isGroup⟩
      · next notBrace =>
          split at isRead
          · next isDigit =>
              cases isGroup : numberedGroup captures [unit] with
              | error fault =>
                  rw [isGroup] at isRead
                  cases isRead
              | ok number =>
                  rw [isGroup] at isRead
                  exact .inr ⟨unit, rest, number, notBrace, isDigit, rfl, isGroup,
                    Except.ok.inj isRead⟩
          · cases isRead

/-- A reference is read up to the same place when the text is cut behind it. -/
theorem reference_append {text start rest : Text} {group : Nat}
    (isRead : reference captures text = .ok (group, start ++ rest)) :
    ∃ read, text = read ++ (start ++ rest) ∧
      reference captures (read ++ start) = .ok (group, start) := by
  obtain ⟨unit, inner, isBrace, rfl, others, isGroup⟩ |
    ⟨unit, tail, number, notBrace, isDigit, rfl, isGroup, extended⟩ :=
    exists_of_reference_eq_ok isRead
  · refine ⟨unit :: (inner ++ [CodeUnit.ofChar '}']), by simp, ?_⟩
    have cutAgain := others start
    rw [List.append_cons] at cutAgain
    rw [List.cons_append, reference, if_pos isBrace, cutAgain]
    dsimp only
    rw [isGroup]
    rfl
  · obtain ⟨read, rfl, extended'⟩ := extendNumber_append extended
    refine ⟨unit :: read, rfl, ?_⟩
    rw [List.cons_append, reference, if_neg notBrace, if_pos isDigit, isGroup]
    exact congrArg Except.ok extended'

/-! ## Expansion unit by unit -/

theorem expand_nil (captures : Captures) : expand captures [] = ⟨[], none⟩ := by
  rw [expand]

/-- A code point behind a backslash stands for itself. -/
theorem expand_escape {unit : CodeUnit} {rest : Text} (isEscape : unit.toChar = '\\')
    (notEmpty : rest ≠ []) :
    expand captures (unit :: rest) =
      (expand captures (rest.drop (Text.firstPointLength rest))).after
        (rest.take (Text.firstPointLength rest)) := by
  have hasRest : ¬rest.isEmpty = true := fun isEmpty => notEmpty (List.isEmpty_iff.mp isEmpty)
  rw [expand, if_pos isEscape, if_neg hasRest]

/-- A reference stands for the text of its group. -/
theorem expand_reference {unit : CodeUnit} {rest after text : Text} {group : Nat}
    (isDollar : unit.toChar = '$') (isRead : reference captures rest = .ok (group, after))
    (isText : groupText captures group = .ok text) :
    expand captures (unit :: rest) = (expand captures after).after text := by
  rw [expand, if_neg (by rw [isDollar]; decide), if_pos isDollar]
  split
  · next fault read =>
      rw [isRead] at read
      cases read
  · next group' after' read =>
      rw [isRead] at read
      obtain ⟨rfl, rfl⟩ := Prod.mk.inj (Except.ok.inj read)
      rw [isText]

/-- Anything else stands for itself. -/
theorem expand_literal {unit : CodeUnit} {rest : Text} (notEscape : unit.toChar ≠ '\\')
    (notDollar : unit.toChar ≠ '$') :
    expand captures (unit :: rest) = (expand captures rest).after [unit] := by
  rw [expand, if_neg notEscape, if_neg notDollar]

/-- A quoted text expands to itself, whatever the groups are. -/
theorem expand_quote (captures : Captures) (text : Text) :
    expand captures (quote text) = ⟨text, none⟩ := by
  induction text with
  | nil => exact expand_nil captures
  | cons unit rest ih =>
      rw [quote, List.flatMap_cons, ← quote]
      split
      · next isSpecial =>
          have notHigh : unit.isHighSurrogate = false := by
            rw [Bool.or_eq_true, decide_eq_true_eq, decide_eq_true_eq] at isSpecial
            rcases isSpecial with isEscape | isDollar
            · rw [CodeUnit.eq_ofChar_of_toChar (by decide) isEscape]
              decide
            · rw [CodeUnit.eq_ofChar_of_toChar (by decide) isDollar]
              decide
          rw [List.cons_append, List.cons_append, List.nil_append,
            expand_escape (by decide) (List.cons_ne_nil _ _),
            Text.firstPointLength_of_not_high notHigh]
          exact congrArg (·.after [unit]) ih
      · next isPlain =>
          rw [Bool.or_eq_true, not_or, decide_eq_true_eq, decide_eq_true_eq] at isPlain
          rw [List.cons_append, List.nil_append, expand_literal isPlain.1 isPlain.2, ih]
          rfl

/-! ## Faults -/

/-- What cannot be expanded, at the start of a template, and the fault that it is. -/
inductive Offends (captures : Captures) : Text → Fault → Prop
  | escape {unit : CodeUnit} (isEscape : unit.toChar = '\\') :
      Offends captures [unit] .escapeMissing
  | unreadable {unit : CodeUnit} {rest : Text} {fault : Fault} (isDollar : unit.toChar = '$')
      (isUnread : reference captures rest = .error fault) : Offends captures (unit :: rest) fault
  | groupless {unit : CodeUnit} {rest after : Text} {group : Nat} {fault : Fault}
      (isDollar : unit.toChar = '$') (isRead : reference captures rest = .ok (group, after))
      (hasNoText : groupText captures group = .error fault) : Offends captures (unit :: rest) fault

/-- What offends is met first, before anything has been written. -/
theorem Offends.expand_eq {template : Text} {fault : Fault}
    (offends : Offends captures template fault) :
    expand captures template = ⟨[], some fault⟩ := by
  cases offends with
  | escape isEscape =>
      rw [expand, if_pos isEscape]
      rfl
  | unreadable isDollar isUnread =>
      rw [expand, if_neg (by rw [isDollar]; decide), if_pos isDollar]
      split
      · next fault' read =>
          rw [isUnread] at read
          obtain rfl := Except.error.inj read
          rfl
      · next read =>
          rw [isUnread] at read
          cases read
  | groupless isDollar isRead hasNoText =>
      rw [expand, if_neg (by rw [isDollar]; decide), if_pos isDollar]
      split
      · next read =>
          rw [isRead] at read
          cases read
      · next read =>
          rw [isRead] at read
          obtain ⟨rfl, rfl⟩ := Prod.mk.inj (Except.ok.inj read)
          rw [hasNoText]

/-- What offends at the start of a template is the fault of the template. -/
theorem Offends.fault_eq {template : Text} {fault fault' : Fault}
    (offends : Offends captures template fault)
    (faulty : (expand captures template).fault = some fault') :
    Offends captures template fault' ∧ expand captures [] =
      ⟨(expand captures template).output, none⟩ := by
  rw [offends.expand_eq] at faulty ⊢
  obtain rfl := Option.some.inj faulty
  exact ⟨offends, expand_nil captures⟩

/-- A template with a fault splits in front of what offends, and what has been written is the
expansion of the part in front.  The induction is on the expansion. -/
theorem exists_offends_of_fault {template : Text} {fault : Fault}
    (faulty : (expand captures template).fault = some fault) :
    ∃ read rest, template = read ++ rest ∧ Offends captures rest fault ∧
      expand captures read = ⟨(expand captures template).output, none⟩ := by
  induction template using expand.induct captures with
  | case1 =>
      rw [expand_nil] at faulty
      cases faulty
  | case2 unit rest isEscape isEmpty =>
      obtain rfl := List.isEmpty_iff.mp isEmpty
      exact ⟨[], _, rfl, Offends.fault_eq (.escape isEscape) faulty⟩
  | case3 unit rest isEscape notEmpty taken ih =>
      have hasRest : rest ≠ [] := fun isEmpty => notEmpty (List.isEmpty_iff.mpr isEmpty)
      rw [expand_escape isEscape hasRest] at faulty ⊢
      obtain ⟨read, rest', isRest, offends, written⟩ := ih faulty
      have first := Text.firstPointLength_take_append hasRest isRest
      refine ⟨unit :: (rest.take taken ++ read), rest', ?_, offends, ?_⟩
      · rw [List.cons_append, List.append_assoc, ← isRest, List.take_append_drop]
      · have hasPoint : rest.take taken ++ read ≠ [] := fun isEmpty =>
          first.1 (List.append_eq_nil_iff.mp isEmpty).1
        rw [expand_escape isEscape hasPoint, first.2, List.take_left, List.drop_left, written]
        rfl
  | case4 unit rest notEscape isDollar fault' isUnread =>
      exact ⟨[], _, rfl, Offends.fault_eq (.unreadable isDollar isUnread) faulty⟩
  | case5 unit rest notEscape isDollar group after isRead le fault' hasNoText =>
      exact ⟨[], _, rfl, Offends.fault_eq (.groupless isDollar isRead hasNoText) faulty⟩
  | case6 unit rest notEscape isDollar group after isRead le text isText ih =>
      rw [expand_reference isDollar isRead isText] at faulty ⊢
      obtain ⟨read, rest', rfl, offends, written⟩ := ih faulty
      obtain ⟨digits, rfl, isRead'⟩ := reference_append isRead
      refine ⟨unit :: (digits ++ read), rest', by simp, offends, ?_⟩
      rw [expand_reference isDollar isRead' isText, written]
      rfl
  | case7 unit rest notEscape notDollar ih =>
      rw [expand_literal notEscape notDollar] at faulty ⊢
      obtain ⟨read, rest', rfl, offends, written⟩ := ih faulty
      refine ⟨unit :: read, rest', rfl, offends, ?_⟩
      rw [expand_literal notEscape notDollar, written]
      rfl

end Template

end RegexMatching
