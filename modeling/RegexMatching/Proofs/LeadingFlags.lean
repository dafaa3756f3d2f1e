import RegexMatching.Proofs.StepRuns

/-!
# Flags in front of a pattern

A group of flags in front of a pattern says what the options of a compile call say.  A pattern is
read as what follows its flags under the options that the flags lead to, and no reader looks back,
so the two only differ in where a failure is found.
-/

namespace RegexMatching

theorem Text.dropPrefix?_append (lead rest : Text) : dropPrefix? lead (lead ++ rest) = some rest := by
  rw [dropPrefix?, if_pos (List.isPrefixOf_iff_prefix.mpr (List.prefix_append lead rest)),
    List.drop_left]

namespace Lowering

/-! ## Groups of flags -/

/-- Flags to turn on and, behind a dash, flags to turn off. -/
structure FlagGroup where
  on : Text
  off : Option Text
  isOn : on.all isFlagLetter = true
  isOff : ∀ letters ∈ off, letters.all isFlagLetter = true

namespace FlagGroup

/-- The flags behind the dash; none without one. -/
def cleared (group : FlagGroup) : Text :=
  group.off.getD []

/-- A group as it is written. -/
def text (group : FlagGroup) : Text :=
  Text.ofString "(?" ++ group.on ++
    (match group.off with
      | some letters => Text.ofString "-" ++ letters
      | none => []) ++ Text.ofString ")"

/-- Whether an option is set behind a group: its letter sets it in front of the dash, and clears
it behind. -/
def turns (group : FlagGroup) (letter : Char) (isSet : Bool) : Bool :=
  (isSet || group.on.contains (CodeUnit.ofChar letter)) &&
    !group.cleared.contains (CodeUnit.ofChar letter)

/-- Options behind a group. -/
def update (group : FlagGroup) (options : Options) : Options :=
  { options with
    caseless := group.turns 'i' options.caseless
    multiline := group.turns 'm' options.multiline
    dotAll := group.turns 's' options.dotAll
    extended := group.turns 'x' options.extended }

end FlagGroup

/-! ## Reading groups -/

/-- Flags end at a unit that is none. -/
theorem takeWhile_isFlagLetter {letters : Text} (areFlags : letters.all isFlagLetter = true)
    {unit : CodeUnit} (notFlag : isFlagLetter unit = false) (rest : Text) :
    (letters ++ unit :: rest).takeWhile isFlagLetter = letters := by
  rw [List.takeWhile_append_of_pos (List.all_eq_true.mp areFlags),
    List.takeWhile_cons_of_neg (Bool.eq_false_iff.mp notFlag), List.append_nil]

/-- A group is read as it is written, whatever follows. -/
theorem readFlagGroup_text (group : FlagGroup) (pattern : Text) :
    readFlagGroup (group.text ++ pattern) = some (group.on, group.cleared, pattern) := by
  obtain ⟨on, off, isOn, isOff⟩ := group
  rw [readFlagGroup]
  cases off with
  | none =>
      have written : FlagGroup.text ⟨on, none, isOn, isOff⟩ ++ pattern =
          Text.ofString "(?" ++ (on ++ 0x29 :: pattern) := by
        simp only [FlagGroup.text, List.append_assoc, List.append_nil]
        rfl
      rw [written, Text.dropPrefix?_append]
      dsimp only
      rw [takeWhile_isFlagLetter isOn rfl, List.drop_left]
      rfl
  | some off =>
      have written : FlagGroup.text ⟨on, some off, isOn, isOff⟩ ++ pattern =
          Text.ofString "(?" ++ (on ++ 0x2D :: (off ++ 0x29 :: pattern)) := by
        simp only [FlagGroup.text, List.append_assoc]
        rfl
      have dashed : Text.dropPrefix? (Text.ofString "-") (0x2D :: (off ++ 0x29 :: pattern)) =
          some (off ++ 0x29 :: pattern) :=
        Text.dropPrefix?_append (Text.ofString "-") _
      rw [written, Text.dropPrefix?_append]
      dsimp only
      rw [takeWhile_isFlagLetter isOn rfl, List.drop_left, dashed, Option.getD_some,
        Option.getD_some, takeWhile_isFlagLetter (isOff off rfl) rfl, List.drop_left]
      rfl

/-- What a flag letter does to options, one option at a time. -/
theorem setFlag_eq (options : Options) (isOn : Bool) (flag : CodeUnit) :
    options.setFlag isOn flag =
      { options with
        caseless := if flag = CodeUnit.ofChar 'i' then isOn else options.caseless
        multiline := if flag = CodeUnit.ofChar 'm' then isOn else options.multiline
        dotAll := if flag = CodeUnit.ofChar 's' then isOn else options.dotAll
        extended := if flag = CodeUnit.ofChar 'x' then isOn else options.extended } := by
  have isLetter : ∀ {letter : Char}, letter ≠ '\x00' → flag.toChar = letter →
      flag = CodeUnit.ofChar letter :=
    CodeUnit.eq_ofChar_of_toChar
  rw [Options.setFlag]
  split
  · next isChar =>
      rw [isLetter (by decide) isChar]
      rfl
  · next isChar =>
      rw [isLetter (by decide) isChar]
      rfl
  · next isChar =>
      rw [isLetter (by decide) isChar]
      rfl
  · next isChar =>
      rw [isLetter (by decide) isChar]
      rfl
  · next notI notM notS notX =>
      have differs : ∀ letter : Char, (CodeUnit.ofChar letter).toChar = letter →
          flag.toChar ≠ letter → flag ≠ CodeUnit.ofChar letter := by
        rintro letter isChar notChar rfl
        exact notChar isChar
      rw [if_neg (differs 'i' (by decide) notI), if_neg (differs 'm' (by decide) notM),
        if_neg (differs 's' (by decide) notS), if_neg (differs 'x' (by decide) notX)]

/-- What flag letters do to options, one option at a time. -/
theorem setFlags_eq (options : Options) (isOn : Bool) (flags : Text) :
    options.setFlags isOn flags =
      { options with
        caseless := if CodeUnit.ofChar 'i' ∈ flags then isOn else options.caseless
        multiline := if CodeUnit.ofChar 'm' ∈ flags then isOn else options.multiline
        dotAll := if CodeUnit.ofChar 's' ∈ flags then isOn else options.dotAll
        extended := if CodeUnit.ofChar 'x' ∈ flags then isOn else options.extended } := by
  induction flags generalizing options with
  | nil => rfl
  | cons flag rest ih =>
      have option : ∀ (letter : CodeUnit) (isSet : Bool),
          (if letter ∈ rest then isOn else if flag = letter then isOn else isSet) =
            if letter ∈ flag :: rest then isOn else isSet := by
        intro letter isSet
        by_cases isRest : letter ∈ rest
        · rw [if_pos isRest, if_pos (List.mem_cons_of_mem flag isRest)]
        · rw [if_neg isRest]
          refine if_congr ?_ rfl rfl
          rw [List.mem_cons, or_iff_left isRest, eq_comm]
      change (options.setFlag isOn flag).setFlags isOn rest = _
      rw [ih, setFlag_eq]
      simp only [option]

/-- The flags of a group are set first and cleared then. -/
theorem update_eq (group : FlagGroup) (options : Options) :
    group.update options = (options.setFlags true group.on).setFlags false group.cleared := by
  have option : ∀ (letter : Char) (isSet : Bool), group.turns letter isSet =
      if CodeUnit.ofChar letter ∈ group.cleared then false
      else if CodeUnit.ofChar letter ∈ group.on then true else isSet := by
    intro letter isSet
    rw [FlagGroup.turns, List.contains_eq_mem, List.contains_eq_mem]
    by_cases isOff : CodeUnit.ofChar letter ∈ group.cleared
    · simp [isOff]
    · by_cases isOn : CodeUnit.ofChar letter ∈ group.on <;> simp [isOff, isOn]
  rw [setFlags_eq, setFlags_eq, FlagGroup.update]
  simp only [option]

/-! ## Patterns behind groups -/

/-- Behind a group the rest of the pattern is read under the options it leads to. -/
theorem readLeadingFlags_text (group : FlagGroup) (options : Options) (pattern : Text) :
    readLeadingFlags options (group.text ++ pattern) =
      readLeadingFlags (group.update options) pattern := by
  rw [update_eq, readLeadingFlags]
  split
  · next notRead =>
      rw [readFlagGroup_text] at notRead
      contradiction
  · next isRead =>
      rw [readFlagGroup_text] at isRead
      cases isRead
      rfl

/-- A pattern behind a group of flags is lowered as by itself, under the options of the group. -/
theorem lower_text (group : FlagGroup) {options : Options}
    (isExpression : options.literal = false) (pattern : Text) :
    lower options (group.text ++ pattern) = lower (group.update options) pattern := by
  have isExpression' : (group.update options).literal = false := isExpression
  rw [lower_of_expression isExpression, lower_of_expression isExpression', readLeadingFlags_text]

/-- Flags in front of a pattern are options: both ways of giving them lead to the same lowered
pattern, or to the same message, the length of the group apart. -/
theorem flags_in_front_are_options (options : Options) (isExpression : options.literal = false)
    (group : FlagGroup) (pattern : Text) :
    (∃ lowered, lower options (group.text ++ pattern) = .ok lowered ∧
      lower (group.update options) pattern = .ok lowered) ∨
    ∃ failure failure', lower options (group.text ++ pattern) = .error failure ∧
      lower (group.update options) pattern = .error failure' ∧
      failure.cause.message = failure'.cause.message ∧
      failure.offset (group.text ++ pattern) = failure'.offset pattern + group.text.length := by
  have same := lower_text group isExpression pattern
  cases outcome : lower (group.update options) pattern with
  | ok lowered => exact .inl ⟨lowered, same.trans outcome, rfl⟩
  | error failure =>
      refine .inr ⟨failure, failure, same.trans outcome, rfl, rfl, ?_⟩
      have inside := (isTail_of_lower outcome).length_le
      rw [Failure.offset, Failure.offset, List.length_append]
      omega

/-- A possessive quantifier is found six units later behind a group of six. -/
theorem flags_in_front_are_options_of_possessive :
    ∃ failure failure', lower {} (Text.ofString "(?i-s)a++") = .error failure ∧
      lower { caseless := true } (Text.ofString "a++") = .error failure' ∧
      failure.cause.message = failure'.cause.message ∧
      failure.offset (Text.ofString "(?i-s)a++") = failure'.offset (Text.ofString "a++") + 6 := by
  have isRefused : (match lower {} (Text.ofString "(?i-s)a++") with
      | .ok _ => false
      | .error _ => true) = true := by
    decide +kernel
  have isOn : (Text.ofString "i").all isFlagLetter = true := by decide
  have isOff : ∀ letters ∈ some (Text.ofString "s"), letters.all isFlagLetter = true := by decide
  rcases flags_in_front_are_options {} rfl ⟨_, _, isOn, isOff⟩ (Text.ofString "a++") with
    ⟨lowered, isLowered, -⟩ | failed
  · have isLowered : lower {} (Text.ofString "(?i-s)a++") = .ok lowered := isLowered
    rw [isLowered] at isRefused
    contradiction
  · exact failed

end Lowering

end RegexMatching
