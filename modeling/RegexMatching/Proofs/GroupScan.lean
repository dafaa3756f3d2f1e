import RegexMatching.Proofs.Positions
import RegexMatching.Proofs.TokenReach

/-!
# Groups by a scan

The capturing groups of a pattern that can be read are those that a scan finds: one for each
opening parenthesis with a meaning, unless what follows makes it open something else.  Text is
scanned unit by unit; the halves of a pair mean as little to a scan as the pair.
-/

namespace RegexMatching.Backtrack

open PointReader

/-! ## Groups of tokens -/

/-- The name of the capturing group that a token opens, if it opens one. -/
def Token.groupName? : Token → Option (Option (List Nat))
  | .opening (.capture name) => some name
  | _ => none

theorem groupNames_cons (token : Token) (rest : List Token) :
    groupNames (token :: rest) = token.groupName?.toList ++ groupNames rest := by
  rcases token with _ | _ | _ | _ | (_ | _ | _) | _ | _ | _ <;> rfl

theorem groupNames_append (first second : List Token) :
    groupNames (first ++ second) = groupNames first ++ groupNames second :=
  List.filterMap_append

/-- The group opened by a parenthesis in front of what follows it. -/
def openedGroup? (rest : List Nat) : Option (Option (List Nat)) :=
  (readOpening rest).bind fun (token, _) => token.groupName?

/-- Whether a token repeats what comes before it. -/
def Token.isQuantifier : Token → Bool
  | .quantifier .. => true
  | _ => false

/-- The characters that quantifiers begin with. -/
def quantifierMarks : List Char :=
  ['*', '+', '?', '\x7b']

/-! ### What tokens begin with -/

/-- What a token does to the groups and to the part before it: the group that it opens, if it
opens one, and whether it is a quantifier. -/
def Token.role (token : Token) : Option (Option (List Nat)) × Bool :=
  (token.groupName?, token.isQuantifier)

theorem role_of_readReluctance {least : Nat} {most : Option Nat} {token : Token}
    {rest after : List Nat} (isRead : readReluctance least most rest = some (token, after)) :
    token.role = (none, true) := by
  rw [readReluctance] at isRead
  split at isRead <;> cases isRead <;> rfl

theorem role_of_readEscapeToken {token : Token} {rest after : List Nat}
    (isRead : readEscapeToken rest = some (token, after)) : token.role = (none, false) := by
  rw [readEscapeToken_eq] at isRead
  split at isRead
  · cases isRead
    rfl
  · repeat' split at isRead
    · cases isRead
      rfl
    · cases isRead
      rfl
    · obtain ⟨_, _, same⟩ := Option.map_eq_some_iff.mp isRead
      cases same
      rfl
    · cases isRead
      rfl
    · obtain ⟨_, _, same⟩ := Option.map_eq_some_iff.mp isRead
      cases same
      rfl

theorem role_of_readOpening {token : Token} {rest after : List Nat}
    (isRead : readOpening rest = some (token, after)) :
    token.role = (openedGroup? rest, false) := by
  rw [openedGroup?, isRead]
  refine Prod.ext rfl ?_
  unfold readOpening at isRead
  split at isRead
  case h_6 =>
    obtain ⟨_, _, same⟩ := Option.map_eq_some_iff.mp isRead
    cases same
    rfl
  case h_7 => contradiction
  all_goals
    cases isRead
    rfl

/-- The first character tells the role of a token. -/
theorem role_of_readToken {point : Nat} {token : Token} {rest after : List Nat}
    (isRead : readToken point rest = some (token, after)) :
    token.role = (if charOf point = '(' then openedGroup? rest else none,
      quantifierMarks.contains (charOf point)) := by
  rw [readToken_eq] at isRead
  generalize charOf point = char at isRead
  split at isRead
  case h_1 => exact role_of_readEscapeToken isRead
  case h_2 =>
    obtain ⟨_, _, same⟩ := Option.map_eq_some_iff.mp isRead
    cases same
    rfl
  case h_3 => exact role_of_readOpening isRead
  case h_9 => exact role_of_readReluctance isRead
  case h_10 => exact role_of_readReluctance isRead
  case h_11 => exact role_of_readReluctance isRead
  case h_12 =>
    obtain ⟨_, _, isReluctance⟩ := Option.bind_eq_some_iff.mp isRead
    exact role_of_readReluctance isReluctance
  case h_13 => contradiction
  case h_14 => contradiction
  case h_15 _ _ notOpening _ _ _ _ _ notStar notPlus notMark notBrace _ _ =>
    cases isRead
    have notMark : char ∉ quantifierMarks := by
      simpa [quantifierMarks] using And.intro notStar ⟨notPlus, notMark, notBrace⟩
    rw [if_neg notOpening, List.contains_eq_mem, decide_eq_false notMark]
    rfl
  all_goals
    cases isRead
    rfl

/-- Only an opening parenthesis opens a group. -/
theorem groupName?_of_readToken {point : Nat} {token : Token} {rest after : List Nat}
    (isRead : readToken point rest = some (token, after)) :
    token.groupName? = if charOf point = '(' then openedGroup? rest else none :=
  congrArg Prod.fst (role_of_readToken isRead)

/-- A token is a quantifier if it begins with a mark. -/
theorem isQuantifier_of_readToken {point : Nat} {token : Token} {rest after : List Nat}
    (isRead : readToken point rest = some (token, after)) :
    token.isQuantifier = quantifierMarks.contains (charOf point) :=
  congrArg Prod.snd (role_of_readToken isRead)

/-! ## Scanning for groups -/

/-- The capturing groups that a scan finds: a name for each, if it has one. -/
def scanGroups : Mode → List Nat → List (Option (List Nat))
  | _, [] => []
  | mode, point :: rest =>
      (if mode = .item false ∧ charOf point = '(' then openedGroup? rest else none).toList ++
        scanGroups (mode.step (charOf point)) rest

/-- Nothing is found in what is passed. -/
theorem scanGroups_append_of_pass {mode final : Mode} {first : List Nat} (second : List Nat)
    (passed : mode.pass first = some final) :
    scanGroups mode (first ++ second) = scanGroups final second := by
  induction first generalizing mode with
  | nil => rw [Option.some.inj passed, List.nil_append]
  | cons point rest ih =>
      rw [Mode.pass] at passed
      split at passed
      · contradiction
      · next notParen =>
          have noGroup : ¬(mode = .item false ∧ charOf point = '(') := by
            rintro ⟨rfl, isOpening⟩
            rw [isOpening] at notParen
            exact notParen rfl
          rw [List.cons_append, scanGroups, if_neg noGroup, Option.toList_none, List.nil_append]
          exact ih passed

/-- The groups of the tokens of a pattern are those that a scan of the pattern finds. -/
theorem groupNames_of_tokens {pattern : List Nat} {read : List Token}
    (isRead : tokens pattern = some read) : groupNames read = scanGroups (.item false) pattern := by
  induction length : pattern.length using Nat.strong_induction_on generalizing pattern read with
  | _ size ih =>
      cases pattern with
      | nil =>
          rw [tokens] at isRead
          cases isRead
          rfl
      | cons point rest =>
          rw [tokens_cons] at isRead
          obtain ⟨⟨token, after⟩, isToken, isOthers⟩ := Option.bind_eq_some_iff.mp isRead
          obtain ⟨others, areOthers, rfl⟩ := Option.map_eq_some_iff.mp isOthers
          have shorter : after.length < size :=
            length ▸ Nat.lt_succ_of_le (length_of_readToken isToken)
          obtain ⟨taken, rfl, passed, -⟩ := takes_token _ point _ _ isToken
          rw [groupNames_cons, groupName?_of_readToken isToken, scanGroups,
            scanGroups_append_of_pass after passed, ih _ shorter areOthers rfl]
          simp

/-! ## Scanning text -/

namespace Mode

/-- Go past text. -/
def runText (mode : Mode) (text : Text) : Mode :=
  text.foldl (fun mode unit => mode.step unit.toChar) mode

theorem runText_append (mode : Mode) (first second : Text) :
    mode.runText (first ++ second) = (mode.runText first).runText second :=
  List.foldl_append

/-- Go past a character without a meaning. -/
def settle : Mode → Mode
  | escape inClass => item inClass
  | mode => mode

theorem settle_settle (mode : Mode) : mode.settle.settle = mode.settle := by
  cases mode <;> rfl

theorem step_eq_settle (mode : Mode) {char : Char}
    (notMark : char ∉ ['\\', '[', ']', 'p', 'P', '\x7d']) : mode.step char = mode.settle := by
  simp only [List.mem_cons, List.not_mem_nil, or_false, not_or] at notMark
  rcases mode with (_ | _) | _ | _ <;> simp [step, settle, notMark]

/-- What lies beyond ASCII has no meaning. -/
theorem step_charOf_of_le (mode : Mode) {point : Nat} (beyond : 0x80 ≤ point) :
    mode.step (charOf point) = mode.settle := by
  refine step_eq_settle mode fun isMark => ?_
  have ascii : ∀ mark ∈ ['\\', '[', ']', 'p', 'P', '\x7d'],
      mark ≠ '\x00' ∧ mark.toNat < 0x80 := by
    decide
  obtain ⟨notNul, isAscii⟩ := ascii _ isMark
  rw [toNat_of_charOf notNul rfl] at isAscii
  omega

/-- The two halves of a pair mean as little as the pair. -/
theorem step_ofPair (mode : Mode) {high low : CodeUnit} (isHigh : high.isHighSurrogate = true)
    (isLow : low.isLowSurrogate = true) :
    mode.step (charOf (CodePoint.ofPair high.toNat low.toNat)) =
      (mode.step high.toChar).step low.toChar := by
  have highBound := (CodeUnit.isHighSurrogate_iff high).mp isHigh
  have lowBound := (CodeUnit.isLowSurrogate_iff low).mp isLow
  have beyond : 0x80 ≤ CodePoint.ofPair high.toNat low.toNat := by
    unfold CodePoint.ofPair
    omega
  calc
    mode.step (charOf (CodePoint.ofPair high.toNat low.toNat)) = mode.settle :=
      step_charOf_of_le mode beyond
    _ = mode.settle.settle := (settle_settle mode).symm
    _ = (mode.step (charOf high.toNat)).settle := by
      rw [step_charOf_of_le mode (by omega : 0x80 ≤ high.toNat)]
    _ = (mode.step (charOf high.toNat)).step (charOf low.toNat) :=
      (step_charOf_of_le _ (by omega)).symm

theorem run_points (mode : Mode) (text : Text) : mode.run text.points = mode.runText text := by
  fun_induction Text.points text generalizing mode with
  | case1 => rfl
  | case2 unit => rfl
  | case3 high low rest pair ih =>
      obtain ⟨isHigh, isLow⟩ := Bool.and_eq_true_iff.mp pair
      change (mode.step (charOf (CodePoint.ofPair high.toNat low.toNat))).run (Text.points rest) =
        ((mode.step high.toChar).step low.toChar).runText rest
      rw [ih, step_ofPair mode isHigh isLow]
  | case4 high low rest noPair ih => exact ih (mode.step high.toChar)

end Mode

/-- A code point beyond ASCII opens no group. -/
theorem scanGroups_cons_of_le (mode : Mode) {point : Nat} (beyond : 0x80 ≤ point)
    (rest : List Nat) :
    scanGroups mode (point :: rest) = scanGroups (mode.step (charOf point)) rest := by
  have noGroup : ¬(mode = .item false ∧ charOf point = '(') := by
    rintro ⟨-, isOpening⟩
    rw [← toNat_of_charOf (by decide) isOpening] at beyond
    contradiction
  rw [scanGroups, if_neg noGroup, Option.toList_none, List.nil_append]

/-- Scan text unit by unit. -/
theorem scanGroups_points_cons (mode : Mode) (unit : CodeUnit) (rest : Text) :
    scanGroups mode (Text.points (unit :: rest)) =
      (if mode = .item false ∧ unit.toChar = '(' then openedGroup? rest.points else none).toList ++
        scanGroups (mode.step unit.toChar) rest.points := by
  cases rest with
  | nil => rfl
  | cons low rest =>
      rw [Text.points]
      split
      · next pair =>
          obtain ⟨isHigh, isLow⟩ := Bool.and_eq_true_iff.mp pair
          have highBound := (CodeUnit.isHighSurrogate_iff unit).mp isHigh
          have lowBound := (CodeUnit.isLowSurrogate_iff low).mp isLow
          have pairBound : 0x80 ≤ CodePoint.ofPair unit.toNat low.toNat := by
            unfold CodePoint.ofPair
            omega
          have lowAlone : Text.points (low :: rest) = low.toNat :: Text.points rest :=
            Text.points_cons_of_not_high (CodeUnit.isHighSurrogate_eq_false_of_isLowSurrogate isLow)
              rest
          calc
            scanGroups mode (CodePoint.ofPair unit.toNat low.toNat :: Text.points rest) =
                scanGroups ((mode.step unit.toChar).step low.toChar) (Text.points rest) := by
              rw [scanGroups_cons_of_le mode pairBound, Mode.step_ofPair mode isHigh isLow]
            _ = scanGroups (mode.step unit.toChar) (Text.points (low :: rest)) := by
              rw [lowAlone, scanGroups_cons_of_le _ (by omega : 0x80 ≤ low.toNat)]
              rfl
            _ = scanGroups mode (unit.toNat :: Text.points (low :: rest)) := by
              rw [scanGroups_cons_of_le mode (by omega : 0x80 ≤ unit.toNat)]
              rfl
      · rfl

/-! ## Quiet text -/

/-- Whether the text behind an opening parenthesis makes it open no capturing group. -/
def opensPlainly (behind : Text) : Bool :=
  ["?:", "?=", "?!", "?<=", "?<!"].any fun mark => (Text.ofString mark).isPrefixOf behind

/-- Go past text in which no parenthesis opens a capturing group. -/
def Mode.quiet : Mode → Text → Option Mode
  | mode, [] => some mode
  | mode, unit :: rest =>
      if mode = .item false ∧ unit.toChar = '(' ∧ !opensPlainly rest then none
      else (mode.step unit.toChar).quiet rest

/-- A group opens nowhere but between items. -/
theorem Mode.quiet_cons_of_ne {mode : Mode} (notItem : mode ≠ .item false) (unit : CodeUnit)
    (rest : Text) : mode.quiet (unit :: rest) = (mode.step unit.toChar).quiet rest := by
  rw [Mode.quiet, if_neg fun opens => notItem opens.1]

theorem opensPlainly_append {behind : Text} (isPlain : opensPlainly behind = true) (rest : Text) :
    opensPlainly (behind ++ rest) = true := by
  obtain ⟨mark, member, isPrefix⟩ := List.any_eq_true.mp isPlain
  refine List.any_eq_true.mpr ⟨mark, member, List.isPrefixOf_iff_prefix.mpr ?_⟩
  exact (List.isPrefixOf_iff_prefix.mp isPrefix).trans (List.prefix_append behind rest)

theorem openedGroup?_of_opensPlainly {behind : Text} (isPlain : opensPlainly behind = true) :
    openedGroup? behind.points = none := by
  obtain ⟨mark, member, isPrefix⟩ := List.any_eq_true.mp isPlain
  obtain ⟨tail, rfl⟩ := List.isPrefixOf_iff_prefix.mp isPrefix
  simp only [List.mem_cons, List.not_mem_nil, or_false] at member
  have two : ∀ first second : CodeUnit, first.isHighSurrogate = false →
      second.isHighSurrogate = false → Text.points (first :: second :: tail) =
        first.toNat :: second.toNat :: Text.points tail := by
    intro first second notHigh notHigh'
    rw [Text.points_cons_of_not_high notHigh, Text.points_cons_of_not_high notHigh']
  have three : ∀ third : CodeUnit, third.isHighSurrogate = false →
      Text.points (0x3F :: 0x3C :: third :: tail) =
        0x3F :: 0x3C :: third.toNat :: Text.points tail := by
    intro third notHigh
    rw [Text.points_cons_of_not_high rfl, Text.points_cons_of_not_high rfl,
      Text.points_cons_of_not_high notHigh]
    rfl
  rcases member with rfl | rfl | rfl | rfl | rfl
  · exact congrArg openedGroup? (two 0x3F 0x3A rfl rfl) |>.trans rfl
  · exact congrArg openedGroup? (two 0x3F 0x3D rfl rfl) |>.trans rfl
  · exact congrArg openedGroup? (two 0x3F 0x21 rfl rfl) |>.trans rfl
  · exact congrArg openedGroup? (three 0x3D rfl) |>.trans rfl
  · exact congrArg openedGroup? (three 0x21 rfl) |>.trans rfl

theorem Mode.quiet_append {mode middle final : Mode} {first second : Text}
    (isFirst : mode.quiet first = some middle) (isSecond : middle.quiet second = some final) :
    mode.quiet (first ++ second) = some final := by
  induction first generalizing mode with
  | nil =>
      obtain rfl := Option.some.inj isFirst
      exact isSecond
  | cons unit rest ih =>
      rw [Mode.quiet] at isFirst
      split at isFirst
      · contradiction
      · next isPlain =>
          have isPlain' : ¬(mode = .item false ∧ unit.toChar = '(' ∧
              (!opensPlainly (rest ++ second)) = true) := by
            rintro ⟨isItem, isOpening, notPlain⟩
            refine isPlain ⟨isItem, isOpening, ?_⟩
            rw [Bool.not_eq_true'] at notPlain ⊢
            exact Bool.eq_false_iff.mpr fun plain =>
              Bool.false_ne_true (notPlain.symm.trans (opensPlainly_append plain second))
          rw [List.cons_append, Mode.quiet, if_neg isPlain']
          exact ih isFirst

theorem Mode.runText_of_quiet {mode final : Mode} {text : Text}
    (isQuiet : mode.quiet text = some final) : mode.runText text = final := by
  induction text generalizing mode with
  | nil => exact Option.some.inj isQuiet
  | cons unit rest ih =>
      rw [Mode.quiet] at isQuiet
      split at isQuiet
      · contradiction
      · exact ih isQuiet

/-- Nothing is found in quiet text. -/
theorem scanGroups_append_of_quiet {mode final : Mode} {first : Text}
    (isQuiet : mode.quiet first = some final) (second : Text) :
    scanGroups mode (Text.points (first ++ second)) = scanGroups final second.points := by
  induction first generalizing mode with
  | nil => rw [Option.some.inj isQuiet, List.nil_append]
  | cons unit rest ih =>
      rw [Mode.quiet] at isQuiet
      split at isQuiet
      · contradiction
      · next isPlain =>
          have noGroup : (if mode = .item false ∧ unit.toChar = '(' then
              openedGroup? (Text.points (rest ++ second)) else none) = none := by
            split
            · next isOpening =>
                have plain : opensPlainly rest = true := by
                  by_contra notPlain
                  exact isPlain ⟨isOpening.1, isOpening.2, by simpa using notPlain⟩
                exact openedGroup?_of_opensPlainly (opensPlainly_append plain second)
            · rfl
          rw [List.cons_append, scanGroups_points_cons, ih isQuiet, noGroup, Option.toList_none,
            List.nil_append]

end RegexMatching.Backtrack
