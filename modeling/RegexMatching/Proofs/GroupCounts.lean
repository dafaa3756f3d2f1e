import RegexMatching.Proofs.QuietSources

/-!
# Groups of lowered patterns

Lowering counts the capturing groups while it writes a pattern piece by piece.  Reading the
rendered pattern finds the same groups with the same numbers, unless a piece that begins with a
question mark follows an opening parenthesis: constructs that write nothing can bring the two
together, and then the parenthesis opens something else.
-/

namespace RegexMatching

/-! ## Groups of a pattern that can be read -/

namespace Backtrack

open PointReader

/-- Named groups with their numbers, out of the names of all groups. -/
def numberNames (names : List (Option (List Nat))) (before : Nat := 0) : List (List Nat × Nat) :=
  (names.zipIdx before).filterMap fun (name?, index) => name?.map fun name => (name, index + 1)

/-- The named groups of a pattern, each with its number. -/
def namedGroups (pattern : List Nat) : List (List Nat × Nat) :=
  numberNames (((tokens pattern).map groupNames).getD [])

theorem numberNames_cons (name? : Option (List Nat)) (names : List (Option (List Nat)))
    (before : Nat) :
    numberNames (name? :: names) before =
      (name?.map fun name => (name, before + 1)).toList ++ numberNames names (before + 1) := by
  cases name? <;> rfl

/-- Every group has a name and a number, or no name. -/
theorem length_numberNames (names : List (Option (List Nat))) (before : Nat) :
    (numberNames names before).length + names.count none = names.length := by
  induction names generalizing before with
  | nil => rfl
  | cons name? names ih =>
      have rest := ih (before + 1)
      rw [numberNames_cons, List.length_append, List.count_cons, List.length_cons]
      cases name? <;> simp <;> omega

namespace Assembly

/-- A token opens as many groups as it names. -/
theorem captureCount_of_step {names : List (Option (List Nat))} {assembly next : Assembly}
    {token : Token} (stepped : assembly.step names token = some next) :
    next.captureCount = assembly.captureCount + token.groupName?.toList.length := by
  cases token with
  | item node =>
      cases stepped
      rfl
  | reference group =>
      rw [step] at stepped
      split at stepped
      · cases stepped
        rfl
      · contradiction
  | namedReference name =>
      obtain ⟨group, _, rfl⟩ := Option.map_eq_some_iff.mp stepped
      rfl
  | assertion node =>
      cases stepped
      rfl
  | opening kind =>
      cases stepped
      cases kind <;> rfl
  | closing =>
      rw [step, closeLevel] at stepped
      split at stepped
      · contradiction
      · cases stepped
        rfl
  | bar =>
      cases stepped
      rfl
  | quantifier least most isGreedy =>
      rw [step, quantify] at stepped
      split at stepped
      · split at stepped
        · cases stepped
          rfl
        · contradiction
      · contradiction

theorem captureCount_of_steps {names : List (Option (List Nat))} {assembly final : Assembly}
    {read : List Token} (stepped : assembly.steps names read = some final) :
    final.captureCount = assembly.captureCount + (groupNames read).length := by
  induction read generalizing assembly with
  | nil =>
      cases stepped
      rfl
  | cons token rest ih =>
      rw [steps] at stepped
      split at stepped
      · next next once =>
          rw [ih stepped, captureCount_of_step once, groupNames_cons, List.length_append]
          omega
      · contradiction

end Assembly

/-- The groups of a pattern that can be read are those that a scan finds. -/
theorem groups_of_ofPoints? {pattern : List Nat} {caseless : Bool} {regex : Regex}
    (isRead : Regex.ofPoints? pattern caseless = some regex) :
    regex.captureCount = (scanGroups (.item false) pattern).length ∧
      namedGroups pattern = numberNames (scanGroups (.item false) pattern) := by
  rw [Regex.ofPoints?] at isRead
  split at isRead
  · contradiction
  · next read areTokens =>
      rw [namedGroups, areTokens, ← groupNames_of_tokens areTokens]
      dsimp only at isRead
      split at isRead
      · next assembled =>
          split at isRead
          · cases isRead
            have counted := Assembly.captureCount_of_steps assembled
            exact ⟨counted.trans (Nat.zero_add _), rfl⟩
          · contradiction
      · contradiction

end Backtrack

namespace Lowering

open Backtrack

/-! ## Openings and what follows them -/

/-- The first unit of the source in front of the next anchor. -/
def firstUnit? : List Piece → Option CodeUnit
  | .source (unit :: _) :: _ => some unit
  | .source [] :: rest => firstUnit? rest
  | _ => none

/-- Whether a piece is the opening parenthesis of a capturing group, and a question mark follows
that was not written with it. -/
def Piece.FusesWith (piece : Piece) (rest : List Piece) : Prop :=
  piece = .source (Text.ofString "(") ∧ firstUnit? rest = some (CodeUnit.ofChar '?')

instance (piece : Piece) (rest : List Piece) : Decidable (piece.FusesWith rest) :=
  inferInstanceAs (Decidable (_ ∧ _))

/-- How many opening parentheses fuse with what follows them. -/
def fusedOpenings : List Piece → Nat
  | [] => 0
  | piece :: rest => (if piece.FusesWith rest then 1 else 0) + fusedOpenings rest

/-- Render pieces one behind the other. -/
def renderPieces (multiline newlineLf : Bool) (edges : Edges) (pieces : List Piece) : Text :=
  pieces.flatMap fun piece => piece.render multiline newlineLf edges

theorem quiet_renderAnchor (place : Anchor) (multiline newlineLf : Bool) (edges : Edges) :
    Quiet false (place.render multiline newlineLf edges) ∧
      (place.render multiline newlineLf edges).head? = some 0x28 := by
  have all : ∀ multiline newlineLf notBol notEol : Bool,
      (Mode.item false).quiet (place.render multiline newlineLf ⟨notBol, notEol⟩) =
        some (.item false) ∧
      (place.render multiline newlineLf ⟨notBol, notEol⟩).head? = some 0x28 := by
    cases place <;> decide +kernel
  exact all multiline newlineLf edges.notBol edges.notEol

/-- The first unit of the rendering is that of the first source, unless an anchor comes first. -/
theorem head?_renderPieces (multiline newlineLf : Bool) (edges : Edges) (pieces : List Piece) :
    (renderPieces multiline newlineLf edges pieces).head? = firstUnit? pieces ∨
      (renderPieces multiline newlineLf edges pieces).head? = some 0x28 ∧
        firstUnit? pieces = none := by
  fun_induction firstUnit? pieces with
  | case1 unit text rest => exact .inl rfl
  | case2 rest ih => exact ih
  | case3 pieces notSource notEmpty =>
      match pieces with
      | [] => exact .inl rfl
      | .source (unit :: text) :: rest => exact absurd rfl (notSource unit text rest)
      | .source [] :: rest => exact absurd rfl (notEmpty rest)
      | .anchor place :: rest =>
          refine .inr ⟨?_, rfl⟩
          change (place.render multiline newlineLf edges ++ _).head? = _
          rw [List.head?_append, (quiet_renderAnchor place multiline newlineLf edges).2]
          rfl

theorem charOf_ne_of_le {char : Char} (ascii : char ≠ '\x00' ∧ char.toNat < 0x80) {point : Nat}
    (beyond : 0x80 ≤ point) : PointReader.charOf point ≠ char := by
  intro isChar
  have same := PointReader.toNat_of_charOf ascii.1 isChar
  omega

/-- Text starts with a character of ASCII where its first unit is that character. -/
theorem startsWith_points_cons {char : Char} (ascii : char ≠ '\x00' ∧ char.toNat < 0x80)
    (unit : CodeUnit) (rest : Text) :
    PointReader.startsWith char (Text.points (unit :: rest)) = (unit.toChar == char) := by
  cases rest with
  | nil => rfl
  | cons low rest =>
      rw [Text.points]
      split
      · next pair =>
          have highBound :=
            (CodeUnit.isHighSurrogate_iff unit).mp (Bool.and_eq_true_iff.mp pair).1
          have pairBound : 0x80 ≤ CodePoint.ofPair unit.toNat low.toNat := by
            unfold CodePoint.ofPair
            omega
          have notHigh : unit.toChar ≠ char :=
            charOf_ne_of_le ascii (by omega : 0x80 ≤ unit.toNat)
          rw [beq_eq_false_iff_ne.mpr notHigh]
          exact beq_eq_false_iff_ne.mpr (charOf_ne_of_le ascii pairBound)
      · rfl

theorem startsWith_points_iff {char : Char} (ascii : char ≠ '\x00' ∧ char.toNat < 0x80)
    (text : Text) :
    PointReader.startsWith char text.points = true ↔ text.head? = some (CodeUnit.ofChar char) := by
  cases text with
  | nil => exact ⟨nofun, nofun⟩
  | cons unit rest =>
      rw [startsWith_points_cons ascii, List.head?_cons, Option.some.injEq, beq_iff_eq]
      constructor
      · intro isChar
        by_contra notChar
        exact toChar_ne_of_ne ascii.1 notChar isChar
      · rintro rfl
        have small : char.toNat < UInt16.size := Nat.lt_trans ascii.2 (by decide)
        rw [CodeUnit.toChar, CodeUnit.ofChar, Nat.toUInt16, UInt16.toNat_ofNat_of_lt' small,
          Char.ofNat_toNat]

/-! ## Groups behind openings -/

/-- A question mark behind a parenthesis makes it open no group, or one with a name. -/
theorem groupName?_of_readMarkedOpening {token : Token} {rest after : List Nat}
    (isRead : readMarkedOpening rest = some (token, after)) : token.groupName? ≠ some none := by
  unfold readMarkedOpening readAngleOpening at isRead
  repeat' split at isRead
  case isFalse.isFalse.isFalse.isTrue.isFalse.isFalse =>
    obtain ⟨name, _, same⟩ := Option.map_eq_some_iff.mp isRead
    cases same
    nofun
  all_goals
    cases isRead
    try nofun

theorem openedGroup?_of_startsWith {rest : List Nat}
    (starts : PointReader.startsWith '?' rest = true) : openedGroup? rest ≠ some none := by
  intro opened
  obtain ⟨⟨token, after⟩, isRead, isGroup⟩ := Option.bind_eq_some_iff.mp opened
  rw [readOpening_eq_ite, if_pos starts] at isRead
  exact groupName?_of_readMarkedOpening isRead isGroup

theorem openedGroup?_of_not_startsWith {rest : List Nat}
    (other : PointReader.startsWith '?' rest = false) : openedGroup? rest = some none := by
  rw [openedGroup?, readOpening_eq_ite, other]
  rfl

/-- The characters of a name are read as such. -/
theorem isNamePart_of_lt : ∀ point < 0x80,
    (((PointReader.charOf point).isAlpha || PointReader.charOf point == '_') = true →
      isNameStart point = true) ∧
    (((PointReader.charOf point).isAlpha || PointReader.charOf point == '_' ||
      (PointReader.charOf point).isDigit) = true →
      isNamePart point = true ∧ PointReader.charOf point ∉ ['>', '\\', '=', '!']) := by
  decide +kernel

theorem ascii_of_isAlphanum {char : Char}
    (isWord : (char.isAlpha || char == '_' || char.isDigit) = true) :
    char ≠ '\x00' ∧ char.toNat < 0x80 := by
  constructor
  · rintro rfl
    contradiction
  · simp only [Char.isAlpha, Char.isUpper, Char.isLower, Char.isDigit, Bool.or_eq_true,
      Bool.and_eq_true, decide_eq_true_eq, beq_iff_eq, UInt32.le_iff_toNat_le] at isWord
    rcases isWord with (isWord | rfl) | isWord
    · have upper : 'Z'.val.toNat = 90 := rfl
      have lower : 'z'.val.toNat = 122 := rfl
      change char.val.toNat < 0x80
      omega
    · decide
    · have nine : '9'.val.toNat = 57 := rfl
      change char.val.toNat < 0x80
      omega

theorem lt_of_isNameUnit {unit : CodeUnit} (isUnit : Text.isNameUnit unit = true) :
    unit.toNat < 0x80 := by
  obtain ⟨notNul, ascii⟩ := ascii_of_isAlphanum isUnit
  exact PointReader.toNat_of_charOf notNul (show PointReader.charOf unit.toNat = unit.toChar from rfl) ▸ ascii

theorem isHighSurrogate_of_lt {unit : CodeUnit} (ascii : unit.toNat < 0x80) :
    unit.isHighSurrogate = false := by
  rw [Bool.eq_false_iff, ne_eq, CodeUnit.isHighSurrogate_iff]
  omega

theorem readNameParts_points {name : Text} (areUnits : ∀ unit ∈ name, Text.isNameUnit unit = true)
    (rest : Text) :
    readNameParts (Text.points (name ++ Text.ofString ">" ++ rest)) =
      some (name.points, rest.points) := by
  induction name with
  | nil =>
      change readNameParts (Text.points (0x3E :: rest)) = _
      rw [Text.points_cons_of_not_high rfl, readNameParts_eq]
      rfl
  | cons unit name ih =>
      have isUnit := areUnits unit List.mem_cons_self
      have ascii := lt_of_isNameUnit isUnit
      have notHigh := isHighSurrogate_of_lt ascii
      obtain ⟨isPart, notMark⟩ := (isNamePart_of_lt _ ascii).2 isUnit
      simp only [List.mem_cons, List.not_mem_nil, or_false, not_or] at notMark
      rw [List.cons_append, List.cons_append, Text.points_cons_of_not_high notHigh,
        Text.points_cons_of_not_high notHigh, readNameParts_eq, readNamePart_eq]
      simp only [PointReader.startsWith, beq_eq_false_iff_ne.mpr notMark.1,
        beq_eq_false_iff_ne.mpr notMark.2.1, Bool.false_eq_true, if_false, List.head?_cons,
        Option.bind_some, isPart, if_true, Option.map_some, List.drop_one, List.tail_cons]
      rw [ih fun other member => areUnits other (List.mem_cons_of_mem _ member)]
      rfl

/-- The name of a group is read back. -/
theorem openedGroup?_named {name : Text} (isName : Text.isName name = true) (rest : Text) :
    openedGroup? (Text.points (Text.ofString "?<" ++ name ++ Text.ofString ">" ++ rest)) =
      some (some name.points) := by
  cases name with
  | nil => contradiction
  | cons first others =>
      obtain ⟨isFirst, areOthers⟩ := Bool.and_eq_true_iff.mp isName
      have areUnits : ∀ unit ∈ first :: others, Text.isNameUnit unit = true := by
        intro unit member
        rcases List.mem_cons.mp member with rfl | member
        · exact Bool.or_eq_true_iff.mpr (.inl isFirst)
        · exact List.all_eq_true.mp areOthers unit member
      have isUnit := areUnits first List.mem_cons_self
      have ascii := lt_of_isNameUnit isUnit
      obtain ⟨isPart, notMark⟩ := (isNamePart_of_lt _ ascii).2 isUnit
      have isStart := (isNamePart_of_lt _ ascii).1 isFirst
      simp only [List.mem_cons, List.not_mem_nil, or_false, not_or] at notMark
      have behind_eq : Text.points (first :: others ++ Text.ofString ">" ++ rest) =
          first.toNat :: Text.points (others ++ Text.ofString ">" ++ rest) :=
        Text.points_cons_of_not_high (isHighSurrogate_of_lt ascii) _
      have other : ∀ {char : Char}, PointReader.charOf first.toNat ≠ char →
          PointReader.startsWith char
            (Text.points (first :: others ++ Text.ofString ">" ++ rest)) = false := by
        intro char notChar
        rw [behind_eq]
        exact beq_eq_false_iff_ne.mpr notChar
      have isRead : readName (Text.points (first :: others ++ Text.ofString ">" ++ rest)) =
          some (Text.points (first :: others), rest.points) := by
        rw [readName_eq, readNameParts_points areUnits,
          Text.points_cons_of_not_high (isHighSurrogate_of_lt ascii), Option.filter_some]
        exact if_pos isStart
      change openedGroup?
        (Text.points (0x3F :: 0x3C :: (first :: others ++ Text.ofString ">" ++ rest))) = _
      rw [Text.points_cons_of_not_high rfl, Text.points_cons_of_not_high rfl, openedGroup?,
        readOpening_eq_ite]
      change ((readAngleOpening (Text.points (first :: others ++ Text.ofString ">" ++ rest))).bind
        fun read => read.1.groupName?) = _
      rw [readAngleOpening, other notMark.2.2.1, other notMark.2.2.2, isRead]
      rfl

/-! ## Groups of renderings -/

section Rendering

variable {multiline newlineLf : Bool} {edges : Edges}

theorem scanGroups_group (rest : Text) :
    scanGroups (.item false) (Text.points (Text.ofString "(" ++ rest)) =
      (openedGroup? rest.points).toList ++ scanGroups (.item false) rest.points :=
  scanGroups_points_cons (.item false) 0x28 rest

theorem scanGroups_named {name : Text} (isName : Text.isName name = true) (rest : Text) :
    scanGroups (.item false)
        (Text.points (Text.ofString "(?<" ++ name ++ Text.ofString ">" ++ rest)) =
      some name.points :: scanGroups (.item false) rest.points := by
  have mark : Quiet false (Text.ofString "?<") := rfl
  have close : Quiet false (Text.ofString ">") := rfl
  have isQuiet : Quiet false (Text.ofString "?<" ++ name ++ Text.ofString ">") :=
    (mark.append (quiet_name isName)).append close
  have found := scanGroups_points_cons (.item false) 0x28
    (Text.ofString "?<" ++ name ++ Text.ofString ">" ++ rest)
  rw [if_pos ⟨rfl, rfl⟩, openedGroup?_named isName] at found
  exact found.trans (congrArg (some name.points :: ·) (scanGroups_append_of_quiet isQuiet rest))

/-- Whether a question mark comes first is seen from the pieces. -/
theorem startsWith_renderPieces (pieces : List Piece) :
    PointReader.startsWith '?' (renderPieces multiline newlineLf edges pieces).points = true ↔
      firstUnit? pieces = some (CodeUnit.ofChar '?') := by
  rw [startsWith_points_iff (by decide)]
  rcases head?_renderPieces multiline newlineLf edges pieces with same | ⟨isParen, noUnit⟩
  · rw [same]
  · rw [isParen, noUnit]
    decide

/-- The groups that a scan finds in the rendering of one piece, in front of what follows. -/
theorem exists_scanGroups_piece {piece : Piece} {groups : List (Option Text)}
    (opens : piece.Opens groups) (rest : List Piece) :
    ∃ found, scanGroups (.item false)
        (Text.points (renderPieces multiline newlineLf edges (piece :: rest))) =
          found ++ scanGroups (.item false)
            (Text.points (renderPieces multiline newlineLf edges rest)) ∧
      found.count none + (if piece.FusesWith rest then 1 else 0) = groups.count none ∧
      (¬piece.FusesWith rest → found = groups.map (Option.map Text.points)) := by
  have rendered : renderPieces multiline newlineLf edges (piece :: rest) =
      piece.render multiline newlineLf edges ++ renderPieces multiline newlineLf edges rest := rfl
  rw [rendered]
  cases piece with
  | anchor place =>
      obtain rfl := opens
      have quiet := (quiet_renderAnchor place multiline newlineLf edges).1
      have apart : ¬Piece.FusesWith (.anchor place) rest := fun fuses => nomatch fuses.1
      rw [if_neg apart]
      exact ⟨[], scanGroups_append_of_quiet quiet _, rfl, fun _ => rfl⟩
  | source source =>
      cases opens with
      | nothing isQuiet =>
          have apart : ¬Piece.FusesWith (.source source) rest := by
            rintro ⟨same, -⟩
            cases same
            contradiction
          rw [if_neg apart]
          exact ⟨[], scanGroups_append_of_quiet isQuiet _, rfl, fun _ => rfl⟩
      | @named name isName =>
          have apart : ¬Piece.FusesWith
              (.source (Text.ofString "(?<" ++ name ++ Text.ofString ">")) rest := by
            rintro ⟨same, -⟩
            cases Piece.source.inj same
          rw [if_neg apart]
          exact ⟨[some name.points], scanGroups_named isName _, rfl, fun _ => rfl⟩
      -- A bare opening opens a group of its own, unless a question mark follows.
      | group =>
          have fuses_iff : Piece.FusesWith (.source (Text.ofString "(")) rest ↔
              PointReader.startsWith '?'
                (renderPieces multiline newlineLf edges rest).points = true := by
            rw [startsWith_renderPieces]
            exact ⟨And.right, fun marked => ⟨rfl, marked⟩⟩
          refine ⟨_, scanGroups_group _, ?_⟩
          cases starts : PointReader.startsWith '?'
              (renderPieces multiline newlineLf edges rest).points with
          | true =>
              rw [if_pos (fuses_iff.mpr starts)]
              refine ⟨?_, fun apart => absurd (fuses_iff.mpr starts) apart⟩
              have named := openedGroup?_of_startsWith starts
              cases opened : openedGroup? (renderPieces multiline newlineLf edges rest).points with
              | none => rfl
              | some name? =>
                  cases name? with
                  | none => exact absurd opened named
                  | some name => rfl
          | false =>
              have apart : ¬Piece.FusesWith (.source (Text.ofString "(")) rest := by
                rw [fuses_iff, starts]
                exact Bool.false_ne_true
              rw [if_neg apart, openedGroup?_of_not_startsWith starts]
              exact ⟨rfl, fun _ => rfl⟩

/-- The groups that a scan finds in a rendering: one without a name less for every parenthesis
that fuses with what follows it, and otherwise those that were opened. -/
theorem scanGroups_renderPieces {pieces : List Piece} {groups : List (Option Text)}
    (traces : Traces pieces groups) :
    (scanGroups (.item false)
        (renderPieces multiline newlineLf edges pieces).points).count none +
          fusedOpenings pieces = groups.count none ∧
      (fusedOpenings pieces = 0 →
        scanGroups (.item false) (renderPieces multiline newlineLf edges pieces).points =
          groups.map (Option.map Text.points)) := by
  induction traces with
  | nil => exact ⟨rfl, fun _ => rfl⟩
  | @cons piece first pieces groups opens rest ih =>
      obtain ⟨found, found_eq, counted, same⟩ := exists_scanGroups_piece opens pieces
      rw [found_eq, fusedOpenings, List.count_append, List.count_append]
      refine ⟨by omega, fun noneFused => ?_⟩
      have apart : ¬piece.FusesWith pieces := by
        intro fuses
        rw [if_pos fuses] at noneFused
        omega
      rw [same apart, ih.2 (by omega), List.map_append]

end Rendering

/-! ## Groups that lowering counts -/

/-- The groups that have been opened are counted, and those with a name have their number. -/
theorem progress_foldl_opening (groups : List (Option Text)) (progress : Progress) :
    (groups.foldl Progress.opening progress).captureCount =
        progress.captureCount + groups.length ∧
      (groups.foldl Progress.opening progress).names.map
          (fun entry => (entry.name.points, entry.group)) =
        progress.names.map (fun entry => (entry.name.points, entry.group)) ++
          numberNames (groups.map (Option.map Text.points)) progress.captureCount := by
  induction groups generalizing progress with
  | nil => exact ⟨rfl, (List.append_nil _).symm⟩
  | cons name? groups ih =>
      obtain ⟨counted, numbered⟩ := ih (progress.opening name?)
      rw [List.foldl_cons, counted, numbered, List.map_cons, numberNames_cons, List.length_cons]
      cases name? with
      | none => exact ⟨by simp only [Progress.opening, Progress.capture]; omega, rfl⟩
      | some name =>
          refine ⟨by simp only [Progress.opening, Progress.captureNamed]; omega, ?_⟩
          simp [Progress.opening, Progress.captureNamed]

theorem count_none_map (groups : List (Option Text)) :
    (groups.map (Option.map Text.points)).count none = groups.count none := by
  induction groups with
  | nil => rfl
  | cons name? groups ih =>
      rw [List.map_cons, List.count_cons, List.count_cons, ih]
      cases name? <;> rfl

/-- A lowered pattern counts and numbers the groups that its rendering has, if and only if no
opening parenthesis fuses with what follows it. -/
theorem groups_agree_iff {options : Options} {pattern : Text} {lowered : Lowered}
    (isLowered : lower options pattern = .ok lowered) (edges : Edges) {caseless : Bool}
    {regex : Regex}
    (isRead : Regex.ofPoints? (lowered.render edges).points caseless = some regex) :
    (lowered.captureCount = regex.captureCount ∧
        lowered.names.map (fun entry => (entry.name.points, entry.group)) =
          namedGroups (lowered.render edges).points) ↔
      fusedOpenings lowered.pieces = 0 := by
  obtain ⟨groups, traces, opens⟩ := exists_traces_of_lower isLowered
  have count_eq : lowered.captureCount = _ := congrArg Progress.captureCount opens.eq_foldl
  have names_eq : lowered.names = _ := congrArg Progress.names opens.eq_foldl
  obtain ⟨regexCount, regexNames⟩ := groups_of_ofPoints? isRead
  obtain ⟨counted, numbered⟩ := progress_foldl_opening groups {}
  have scanned := @scanGroups_renderPieces lowered.multiline lowered.newlineLf edges _ _ traces
  change (scanGroups (.item false) (lowered.render edges).points).count none + _ = _ ∧
    (_ → scanGroups (.item false) (lowered.render edges).points = _) at scanned
  obtain ⟨unnamed, same⟩ := scanned
  rw [count_eq, names_eq, regexCount, regexNames, counted, numbered]
  generalize scanGroups (.item false) (lowered.render edges).points = found at unnamed same
  constructor
  · rintro ⟨sameCount, sameNames⟩
    have openedNames := length_numberNames (groups.map (Option.map Text.points)) 0
    have foundNames := length_numberNames found 0
    rw [count_none_map, List.length_map] at openedNames
    replace sameNames : numberNames (groups.map (Option.map Text.points)) 0 =
      numberNames found 0 := sameNames
    rw [sameNames] at openedNames
    replace sameCount : 0 + groups.length = found.length := sameCount
    omega
  · intro noneFused
    rw [same noneFused, List.length_map]
    exact ⟨Nat.zero_add _, rfl⟩

theorem groups_agree_iff_of_named_pair :
    ∃ lowered regex, lower {} (Text.ofString "(a)(?<b>c)") = .ok lowered ∧
      Regex.ofPoints? (lowered.render {}).points false = some regex ∧
      lowered.captureCount = regex.captureCount ∧
      lowered.names.map (fun entry => (entry.name.points, entry.group)) =
        namedGroups (lowered.render {}).points := by
  have evaluated : (match lower {} (Text.ofString "(a)(?<b>c)") with
      | .ok lowered =>
          (Regex.ofPoints? (lowered.render {}).points false).isSome &&
            fusedOpenings lowered.pieces == 0
      | .error _ => false) = true := by
    decide +kernel
  cases isLowered : lower {} (Text.ofString "(a)(?<b>c)") with
  | error failure =>
      rw [isLowered] at evaluated
      contradiction
  | ok lowered =>
      rw [isLowered] at evaluated
      obtain ⟨isSome, noneFused⟩ := Bool.and_eq_true_iff.mp evaluated
      obtain ⟨regex, isRead⟩ := Option.isSome_iff_exists.mp isSome
      exact ⟨lowered, regex, rfl, isRead,
        (groups_agree_iff isLowered {} isRead).mpr (beq_iff_eq.mp noneFused)⟩

/-- An end of quoting that opens nothing leaves no trace between a parenthesis and a question
mark, so the parenthesis is counted and opens no capturing group. -/
theorem captureCount_ne_behind_quote_end :
    ∃ lowered regex, lower {} (Text.ofString "(\\E?:a)") = .ok lowered ∧
      Regex.ofPoints? (lowered.render {}).points false = some regex ∧
      lowered.captureCount = 1 ∧ regex.captureCount = 0 := by
  have evaluated : (match lower {} (Text.ofString "(\\E?:a)") with
      | .ok lowered => lowered.captureCount == 1 &&
          (Regex.ofPoints? (lowered.render {}).points false).any fun regex =>
            regex.captureCount == 0
      | .error _ => false) = true := by
    decide +kernel
  cases isLowered : lower {} (Text.ofString "(\\E?:a)") with
  | error failure =>
      rw [isLowered] at evaluated
      contradiction
  | ok lowered =>
      rw [isLowered] at evaluated
      obtain ⟨counted, isAny⟩ := Bool.and_eq_true_iff.mp evaluated
      cases isRead : Regex.ofPoints? (lowered.render {}).points false with
      | none =>
          rw [isRead] at isAny
          contradiction
      | some regex =>
          rw [isRead] at isAny
          exact ⟨lowered, regex, rfl, isRead, beq_iff_eq.mp counted, beq_iff_eq.mp isAny⟩

end Lowering

end RegexMatching
