import RegexMatching.Proofs.QuietSources

/-!
# What readers leave

Every reader of lowering leaves an end of the text it was given.  Where it fails, the failure is
placed at the start of a construct or at a character of the syntax inside of one, so no failure
is placed inside of a code point.
-/

namespace RegexMatching

/-- A unit that reads as a character is no half of a pair. -/
theorem CodeUnit.isLowSurrogate_eq_false_of_toChar {unit : CodeUnit} {char : Char}
    (notNul : char ≠ '\x00') (isChar : unit.toChar = char) : unit.isLowSurrogate = false := by
  rw [Bool.eq_false_iff]
  intro isLow
  rw [isLowSurrogate_iff] at isLow
  have invalid : ¬unit.toNat.isValidChar := by
    unfold Nat.isValidChar
    omega
  have isNul : unit.toChar = '\x00' := dif_neg invalid
  exact notNul (isChar.symm.trans isNul)

namespace Text

/-! ## Ends of texts -/

theorem suffix_of_dropPrefix? {lead text rest : Text}
    (dropped : dropPrefix? lead text = some rest) : rest <:+ text :=
  ⟨lead, (Lowering.eq_append_of_dropPrefix? dropped).symm⟩

/-- An optional part in front is left out or not. -/
theorem suffix_getD_dropPrefix? (lead text : Text) :
    (dropPrefix? lead text).getD text <:+ text := by
  cases dropped : dropPrefix? lead text with
  | none => exact List.suffix_refl text
  | some rest => exact suffix_of_dropPrefix? dropped

theorem suffix_splitPrefix (lead text : Text) : (splitPrefix lead text).2 <:+ text := by
  rw [splitPrefix]
  split
  · next dropped => exact suffix_of_dropPrefix? dropped
  · exact List.suffix_refl text

theorem suffix_of_cut? {separator text before after : Text}
    (found : cut? separator text = some (before, after)) : after <:+ text := by
  induction text generalizing before with
  | nil =>
      rw [cut?] at found
      split at found
      · cases found
        exact List.suffix_refl _
      · contradiction
  | cons unit rest ih =>
      rw [cut?] at found
      split at found
      · cases found
        exact List.drop_suffix _ _
      · obtain ⟨halves, inner, same⟩ := Option.map_eq_some_iff.mp found
        cases same
        exact (ih inner).trans (List.suffix_cons unit rest)

/-- An end of a text that does not begin inside of a code point. -/
def IsTail (tail text : Text) : Prop :=
  tail <:+ text ∧ ∀ unit ∈ tail.head?, unit.isLowSurrogate = false

namespace IsTail

variable {tail text : Text}

theorem nil (text : Text) : IsTail [] text :=
  ⟨List.nil_suffix, nofun⟩

/-- What begins with a character of the syntax. -/
theorem of_toChar {unit : CodeUnit} {rest : Text} {char : Char} (isEnd : unit :: rest <:+ text)
    (isChar : unit.toChar = char) (notNul : char ≠ '\x00') : IsTail (unit :: rest) text :=
  ⟨isEnd, fun _ isHead =>
    Option.some.inj isHead ▸ CodeUnit.isLowSurrogate_eq_false_of_toChar notNul isChar⟩

theorem mono (isTail : IsTail tail text) {whole : Text} (isEnd : text <:+ whole) :
    IsTail tail whole :=
  ⟨isTail.1.trans isEnd, isTail.2⟩

theorem length_le (isTail : IsTail tail text) : tail.length ≤ text.length :=
  isTail.1.length_le

/-- The place where a tail begins splits no pair. -/
theorem isBoundary (isTail : IsTail tail text) :
    text.IsBoundary (text.length - tail.length) := by
  obtain ⟨⟨front, rfl⟩, notLow⟩ := isTail
  rw [List.length_append, Nat.add_sub_cancel]
  refine ⟨by simp, Bool.eq_false_iff.mpr fun splits => ?_⟩
  obtain ⟨first, same, pair⟩ := (splitsPair_iff _ _).mp splits
  obtain ⟨high, low, -, atLow, -, isLow⟩ := (isPairAt_iff _ _).mp pair
  rw [← same, List.getElem?_append_right (Nat.le_refl _), Nat.sub_self,
    ← List.head?_eq_getElem?] at atLow
  rw [notLow low atLow] at isLow
  contradiction

end IsTail

end Text

namespace Lowering

/-! ## Readers -/

section Keeps

variable {α β : Type}

/-- What is read of a text: what remains is an end of it, and a failure is placed where `isPlace`
says. -/
def Keeps (remainder : α → Text) (isPlace : Text → Prop) (text : Text) :
    Except Failure α → Prop
  | .ok value => remainder value <:+ text
  | .error failure => isPlace failure.rest

namespace Keeps

variable {remainder : α → Text} {isPlace : Text → Prop} {text : Text}
  {reading : Except Failure α}

theorem mono (keeps : Keeps remainder isPlace text reading) {isPlace' : Text → Prop}
    {whole : Text} (weaker : ∀ rest, isPlace rest → isPlace' rest) (isEnd : text <:+ whole) :
    Keeps remainder isPlace' whole reading := by
  cases reading with
  | ok value => exact List.IsSuffix.trans keeps isEnd
  | error failure => exact weaker _ keeps

theorem map {remainder' : β → Text} {change : α → β}
    (same : ∀ value, remainder' (change value) = remainder value)
    (keeps : Keeps remainder isPlace text reading) :
    Keeps remainder' isPlace text (reading.map change) := by
  cases reading with
  | ok value =>
      change remainder' (change value) <:+ text
      rw [same]
      exact keeps
  | error failure => exact keeps

end Keeps

end Keeps

/-- A reader of a construct that leaves an end of a text and fails at the start of the
construct. -/
abbrev Reading.KeepsFrom (reading : Reading) (start text : Text) : Prop :=
  Keeps Prod.snd (· = start) text reading

/-! ## Escapes -/

section Escapes

variable (start rest : Text)

theorem suffix_readQuoted (inClass : Bool) : (readQuoted inClass rest).2 <:+ rest := by
  rw [readQuoted]
  split
  · next found => exact Text.suffix_of_cut? found
  · exact List.nil_suffix

theorem keeps_readControl : (readControl start rest).KeepsFrom start rest := by
  cases rest with
  | nil => exact rfl
  | cons unit rest =>
      rw [readControl]
      split
      · exact List.suffix_cons unit rest
      · exact rfl

theorem keeps_readHexEscape : (readHexEscape start rest).KeepsFrom start rest := by
  rw [readHexEscape]
  split
  · next opened =>
      split
      · next closed =>
          split
          · exact (Text.suffix_of_cut? closed).trans (Text.suffix_of_dropPrefix? opened)
          · exact rfl
      · exact rfl
  · exact List.drop_suffix _ rest

theorem keeps_readUnicodeEscape : (readUnicodeEscape start rest).KeepsFrom start rest := by
  rw [readUnicodeEscape]
  split
  · exact List.drop_suffix _ rest
  · exact rfl

variable {rest} in
theorem suffix_of_readPropertyName {name after : Text}
    (isRead : readPropertyName rest = some (name, after)) : after <:+ rest := by
  rw [readPropertyName] at isRead
  split at isRead
  · next opened =>
      exact (Text.suffix_of_cut? isRead).trans (Text.suffix_of_dropPrefix? opened)
  · cases isRead
    exact List.drop_suffix _ rest

theorem keeps_readProperty (isNegated inClass : Bool) :
    (readProperty isNegated inClass start rest).KeepsFrom start rest := by
  rw [readProperty]
  split
  · exact rfl
  · next isName =>
      dsimp only
      split
      · exact rfl
      · exact suffix_of_readPropertyName isName

variable {rest} in
theorem suffix_of_readDelimited {openMark closeMark : String} {inner after : Text}
    (isRead : readDelimited openMark closeMark rest = some (inner, after)) : after <:+ rest := by
  obtain ⟨body, opened, closed⟩ := Option.bind_eq_some_iff.mp isRead
  exact (Text.suffix_of_cut? closed).trans (Text.suffix_of_dropPrefix? opened)

theorem keeps_readNamedReference : (readNamedReference start rest).KeepsFrom start rest := by
  rw [readNamedReference]
  split
  · next found =>
      split
      · rcases Option.or_eq_some_iff.mp found with found | ⟨-, found⟩
        · rcases Option.or_eq_some_iff.mp found with found | ⟨-, found⟩ <;>
            exact suffix_of_readDelimited found
        · exact suffix_of_readDelimited found
      · exact rfl
  · exact rfl

variable {rest} in
theorem suffix_of_readSigned {number after : Text}
    (isRead : readSigned rest = some (number, after)) : after <:+ rest := by
  rw [readSigned] at isRead
  dsimp only at isRead
  split at isRead
  · contradiction
  · cases isRead
    exact (List.drop_suffix _ _).trans (Text.suffix_splitPrefix _ rest)

theorem keeps_readReference (captureCount : Nat) :
    (readReference captureCount start rest).KeepsFrom start rest := by
  rw [readReference]
  split
  · next found =>
      split
      · rcases Option.or_eq_some_iff.mp found with found | ⟨-, found⟩
        · exact suffix_of_readDelimited found
        · exact suffix_of_readSigned found
      · exact rfl
  · exact rfl

theorem keeps_readNumber (inClass : Bool) (first : CodeUnit) :
    (readNumber inClass first start rest).KeepsFrom start rest := by
  rw [readNumber]
  split
  · exact rfl
  · exact List.drop_suffix _ rest

/-- An escape sequence fails at its backslash. -/
theorem keeps_readEscape (options : Options) (captureCount : Nat) (inClass : Bool) :
    (readEscape options captureCount inClass start rest).KeepsFrom start rest := by
  cases rest with
  | nil => exact rfl
  | cons unit rest =>
      have within : rest <:+ unit :: rest := List.suffix_cons unit rest
      have behind : ∀ {reading : Reading}, reading.KeepsFrom start rest →
          reading.KeepsFrom start (unit :: rest) :=
        fun keeps => keeps.mono (fun _ same => same) within
      rw [readEscape]
      dsimp only
      split
      · exact List.drop_suffix _ _
      · split
        · exact within
        · exact rfl
        · split
          · exact (suffix_readQuoted rest inClass).trans within
          · exact behind (keeps_readControl start rest)
          · exact behind (keeps_readHexEscape start rest)
          · exact behind (keeps_readUnicodeEscape start rest)
          · exact behind (keeps_readProperty start rest false inClass)
          · exact behind (keeps_readProperty start rest true inClass)
          · exact behind (keeps_readNamedReference start rest)
          · exact behind (keeps_readReference start rest captureCount)
          · exact (List.drop_suffix _ rest).trans within
          · exact rfl
          · split
            · exact behind (keeps_readNumber start rest inClass unit)
            · exact rfl

end Escapes

/-! ## Classes -/

/-- What is read of a class fails at its opening bracket, or at an escape or a POSIX class
inside. -/
theorem keeps_readClassItems (options : Options) (captureCount : Nat) (start text : Text) :
    Keeps Prod.snd (fun rest => rest = start ∨ rest.IsTail text) text
      (readClassItems options captureCount start text) := by
  have deeper : ∀ {first : Text} {after text : Text} {reading : Reading}, after <:+ text →
      Keeps Prod.snd (fun rest => rest = start ∨ rest.IsTail after) after reading →
      Keeps Prod.snd (fun rest => rest = start ∨ rest.IsTail text) text
        (reading.after first) := by
    intro first after text reading isEnd keeps
    refine Keeps.map (fun _ => rfl) (keeps.mono (fun rest isPlace => ?_) isEnd)
    exact isPlace.imp_right fun isTail => isTail.mono isEnd
  fun_induction readClassItems options captureCount start text with
  | case1 => exact .inl rfl
  | case2 unit rest _ => exact List.suffix_cons unit rest
  | case3 unit rest _ isEscape failure failed =>
      have keeps := keeps_readEscape (unit :: rest) rest options captureCount true
      rw [failed] at keeps
      have isPlace : failure.rest = unit :: rest := keeps
      exact .inr (isPlace ▸ .of_toChar (List.suffix_refl _) isEscape (by decide))
  | case4 unit rest _ _ source after isRead _ ih =>
      have keeps := keeps_readEscape (unit :: rest) rest options captureCount true
      rw [isRead] at keeps
      exact deeper (List.IsSuffix.trans keeps (List.suffix_cons unit rest)) ih
  | case5 unit rest _ _ name after isName contents _ _ ih =>
      exact deeper (suffix_of_readDelimited isName) ih
  | case6 unit rest _ _ name after isName _ =>
      obtain ⟨body, opened, -⟩ := Option.bind_eq_some_iff.mp isName
      obtain ⟨rfl, -⟩ := List.cons.inj (eq_append_of_dropPrefix? opened)
      have isBracket : CodeUnit.toChar 0x5B = '[' := rfl
      exact .inr (.of_toChar (List.suffix_refl _) isBracket (by decide))
  | case7 unit rest _ _ _ ih => exact deeper (List.suffix_cons unit rest) ih

theorem keeps_readClass (options : Options) (captureCount : Nat) (start rest : Text) :
    Keeps Prod.snd (fun place => place = start ∨ place.IsTail rest) rest
      (readClass options captureCount start rest) := by
  have isEnd := (Text.suffix_splitPrefix (Text.ofString "]") _).trans
    (Text.suffix_splitPrefix (Text.ofString "^") rest)
  refine Keeps.map (fun _ => rfl)
    ((keeps_readClassItems options captureCount start _).mono (fun place isPlace => ?_) isEnd)
  exact isPlace.imp_right fun isTail => isTail.mono isEnd

/-! ## Openings -/

theorem suffix_of_readPlainOpening {start opening rest : Text}
    (isRead : readPlainOpening start = some (opening, rest)) : rest <:+ start := by
  obtain ⟨listed, -, isOpened⟩ := List.exists_of_findSome?_eq_some isRead
  obtain ⟨body, dropped, same⟩ := Option.map_eq_some_iff.mp isOpened
  cases same
  exact Text.suffix_of_dropPrefix? dropped

/-- The name of a group stands behind a character that tells how it is delimited. -/
theorem isTail_of_readGroupName {start name rest : Text}
    (isRead : readGroupName start = some (name, rest)) :
    rest <:+ start ∧ Text.IsTail (start.drop 2) start := by
  have delimited : ∀ (char : Char) {openMark closeMark : String},
      (Text.ofString openMark)[2]?.map CodeUnit.toChar = some char → char ≠ '\x00' →
      readDelimited openMark closeMark start = some (name, rest) →
      rest <:+ start ∧ Text.IsTail (start.drop 2) start := by
    intro char openMark closeMark isMark notNul isRead
    refine ⟨suffix_of_readDelimited isRead, List.drop_suffix 2 start, fun unit isHead => ?_⟩
    obtain ⟨body, opened, -⟩ := Option.bind_eq_some_iff.mp isRead
    obtain ⟨mark, isThird, isChar⟩ := Option.map_eq_some_iff.mp isMark
    have third : (start.drop 2).head? = some mark := by
      rw [List.head?_drop, eq_append_of_dropPrefix? opened,
        List.getElem?_append_left (List.getElem?_eq_some_iff.mp isThird).1, isThird]
    obtain rfl := Option.some.inj (third.symm.trans isHead)
    exact CodeUnit.isLowSurrogate_eq_false_of_toChar notNul isChar
  rcases Option.or_eq_some_iff.mp isRead with isRead | ⟨-, isRead⟩
  · rcases Option.or_eq_some_iff.mp isRead with isRead | ⟨-, isRead⟩
    · exact delimited 'P' (by decide) (by decide) isRead
    · exact delimited '<' (by decide) (by decide) isRead
  · exact delimited '\'' (by decide) (by decide) isRead

theorem keeps_openNamed (progress : Progress) {start name rest : Text}
    (isRead : readGroupName start = some (name, rest)) :
    Keeps (fun value => value.2.2) (Text.IsTail · start) start
      (openNamed progress start name rest) := by
  obtain ⟨isEnd, isTail⟩ := isTail_of_readGroupName isRead
  rw [openNamed]
  split
  · exact isTail
  · split
    · exact isTail
    · exact isEnd

/-- An opening fails at its parenthesis, behind its question mark or at the end. -/
theorem keeps_readOpening (progress : Progress) {unit : CodeUnit} (isOpening : unit.toChar = '(')
    (rest : Text) :
    Keeps (fun value => value.2.2) (Text.IsTail · (unit :: rest)) (unit :: rest)
      (readOpening progress (unit :: rest) rest) := by
  have atStart : Text.IsTail (unit :: rest) (unit :: rest) :=
    .of_toChar (List.suffix_refl _) isOpening (by decide)
  rw [readOpening]
  split
  · exact atStart
  · rw [readSpecialOpening]
    split
    · next comment isComment =>
        split
        · next closed =>
            exact ((Text.suffix_of_cut? closed).trans (Text.suffix_of_dropPrefix? isComment)).trans
              ((List.drop_suffix 1 rest).trans (List.suffix_cons unit rest))
        · exact .nil _
    · split
      · next plain => exact suffix_of_readPlainOpening plain
      · split
        · next named => exact keeps_openNamed progress named
        · split
          · next reference =>
              exact suffix_of_readDelimited (Option.filter_eq_some_iff.mp reference).1
          · exact atStart
  · exact List.suffix_cons unit rest

/-! ## Steps -/

theorem keeps_readQuantifierSuffix (source rest : Text) :
    Keeps Prod.snd (Text.IsTail · rest) rest (readQuantifierSuffix source rest) := by
  rw [readQuantifierSuffix]
  split
  · next isPlus =>
      obtain ⟨unit, behind, rfl, isChar, -⟩ := List.map_eq_cons_iff.mp isPlus
      exact .of_toChar (List.suffix_refl _) isChar (by decide)
  · exact List.drop_suffix 1 rest
  · exact List.suffix_refl rest

theorem suffix_of_readCounted {text source rest : Text}
    (isRead : readCounted text = some (source, rest)) : rest <:+ text := by
  rw [readCounted] at isRead
  split at isRead
  · contradiction
  · next body opened =>
      dsimp only at isRead
      split at isRead
      · contradiction
      · obtain ⟨after, closed, same⟩ := Option.map_eq_some_iff.mp isRead
        cases same
        have inBody : rest <:+ body :=
          ((Text.suffix_of_dropPrefix? closed).trans (List.drop_suffix _ _)).trans
            ((Text.suffix_getD_dropPrefix? _ _).trans (List.drop_suffix _ body))
        exact inBody.trans (Text.suffix_of_dropPrefix? opened)

section Steps

variable (options : Options) (progress : Progress) (unit : CodeUnit) (rest : Text)

/-- What a step leaves and where it fails. -/
abbrev StepReading.KeepsTo (reading : StepReading) (text : Text) : Prop :=
  Keeps (fun value => value.2.2) (Text.IsTail · text) text reading

theorem keeps_readItem : (readItem options progress unit rest).KeepsTo (unit :: rest) := by
  have within : rest <:+ unit :: rest := List.suffix_cons unit rest
  have behind : ∀ {reading : Reading} {text : Text}, text <:+ unit :: rest →
      Keeps Prod.snd (Text.IsTail · text) text reading →
      (reading.withProgress progress).KeepsTo (unit :: rest) := by
    intro reading text isEnd keeps
    exact Keeps.map (fun _ => rfl) (keeps.mono (fun _ isTail => isTail.mono isEnd) isEnd)
  have atStart : ∀ {char : Char}, unit.toChar = char → char ≠ '\x00' →
      Text.IsTail (unit :: rest) (unit :: rest) :=
    fun isChar notNul => .of_toChar (List.suffix_refl _) isChar notNul
  rw [readItem]
  split
  · next isEscape =>
      split
      · next dropped => exact (Text.suffix_of_dropPrefix? dropped).trans within
      · have keeps := keeps_readEscape (unit :: rest) rest options progress.captureCount false
        exact Keeps.map (fun _ => rfl)
          (keeps.mono (fun _ same => same ▸ atStart isEscape (by decide)) within)
  · next isClass =>
      have keeps := keeps_readClass options progress.captureCount (unit :: rest) rest
      refine Keeps.map (fun _ => rfl) (keeps.mono (fun place isPlace => ?_) within)
      rcases isPlace with rfl | isTail
      · exact atStart isClass (by decide)
      · exact isTail.mono within
  · next isOpening => exact Keeps.map (fun _ => rfl) (keeps_readOpening progress isOpening rest)
  · exact within
  · exact within
  · exact within
  · exact behind within (keeps_readQuantifierSuffix _ rest)
  · exact behind within (keeps_readQuantifierSuffix _ rest)
  · exact behind within (keeps_readQuantifierSuffix _ rest)
  · split
    · next counted =>
        exact behind (suffix_of_readCounted counted) (keeps_readQuantifierSuffix _ _)
    · exact within
  all_goals exact within

/-- A step leaves an end of the text and fails at no place inside of a code point. -/
theorem keeps_readStep : (readStep options progress unit rest).KeepsTo (unit :: rest) := by
  have within : rest <:+ unit :: rest := List.suffix_cons unit rest
  rw [readStep]
  split
  · exact within
  · split
    · exact (List.dropWhile_suffix _).trans within
    · exact keeps_readItem options progress unit rest

end Steps

/-! ## Flags in front -/

theorem suffix_of_readFlagGroup {text on off rest : Text}
    (isRead : readFlagGroup text = some (on, off, rest)) : rest <:+ text := by
  rw [readFlagGroup] at isRead
  split at isRead
  · contradiction
  · next behind opened =>
      obtain ⟨after, closed, same⟩ := Option.map_eq_some_iff.mp isRead
      cases same
      have inBehind : rest <:+ behind :=
        ((Text.suffix_of_dropPrefix? closed).trans (List.drop_suffix _ _)).trans
          ((Text.suffix_getD_dropPrefix? _ _).trans (List.drop_suffix _ behind))
      exact inBehind.trans (Text.suffix_of_dropPrefix? opened)

theorem suffix_readLeadingFlags (options : Options) (text : Text) :
    (readLeadingFlags options text).2 <:+ text := by
  fun_induction readLeadingFlags options text with
  | case1 => exact List.suffix_refl _
  | case2 options text on off rest isRead _ ih =>
      exact ih.trans (suffix_of_readFlagGroup isRead)

end Lowering

end RegexMatching
