import RegexMatching.Backtrack.Assembly
import RegexMatching.Proofs.Closing

/-!
# Patterns inside a parenthesis

A pattern that is read in full is read in the same way in front of a closing parenthesis: no
reader looks behind what it takes in, unless to find that it goes no further.  So an expression
that is enclosed in a group, with more behind the group, is the expression by itself and what
was put behind it.
-/

namespace RegexMatching

namespace Backtrack

open PointReader

variable (behind : List Nat)

/-! ## Readers -/

theorem readHexDigits_closed (count : Nat) (rest : List Nat) :
    readHexDigits count (rest ++ closed behind) =
      (readHexDigits count rest).map fun (value, after) => (value, after ++ closed behind) := by
  unfold readHexDigits
  rcases Nat.lt_or_ge rest.length count with short | enough
  · -- the closing parenthesis is no digit
    have tooFew : decide ((rest.take count).length = count) = false := by
      rw [decide_eq_false_iff_not, List.length_take]
      omega
    have noDigit : ((rest ++ closed behind).take count).all isHexDigit = false := by
      obtain ⟨more, rfl⟩ := Nat.exists_eq_add_of_lt short
      rw [List.take_append, List.all_append]
      have one : rest.length + more + 1 - rest.length = more + 1 := by omega
      rw [one, List.take_succ_cons, List.all_cons, show isHexDigit 0x29 = false from rfl]
      simp
    simp only [tooFew, noDigit, Bool.and_false, Bool.false_and]
    rfl
  · rw [List.take_append_of_le_length enough, drop_closed behind enough]
    dsimp only
    split <;> rfl

theorem readLowEscape_closed (rest : List Nat) :
    readLowEscape (rest ++ closed behind) =
      (readLowEscape rest).map fun (value, after) => (value, after ++ closed behind) := by
  unfold readLowEscape
  rw [startsWith_closed behind (by decide)]
  cases starts : startsWith '\\' rest with
  | false => rfl
  | true =>
      rw [drop_one_closed behind starts, startsWith_closed behind (by decide)]
      cases goesOn : startsWith 'u' (rest.drop 1) with
      | false => rfl
      | true =>
          rw [drop_succ_closed behind goesOn, readHexDigits_closed]
          cases readHexDigits 4 (rest.drop 2) with
          | none => rfl
          | some read =>
              simp only [Option.map_some, Option.filter_some, Bool.and_self, if_true]
              split <;> rfl

theorem readBracedPoint_closes (rest : List Nat) :
    Closes behind (readBracedPoint rest) (readBracedPoint (rest ++ closed behind)) := by
  unfold readBracedPoint
  dsimp only
  rw [takeWhile_closed behind (by decide), drop_takeWhile_closed,
    startsWith_closed behind (by decide)]
  refine Closes.ite (fun isRead => ?_) fun _ => .none _
  simp only [Bool.and_eq_true] at isRead
  rw [drop_one_closed behind isRead.1.2]
  exact .some _ _

theorem readUnicodePoint_closes (rest : List Nat) :
    Closes behind (readUnicodePoint rest) (readUnicodePoint (rest ++ closed behind)) := by
  unfold readUnicodePoint
  rw [startsWith_closed behind (by decide)]
  refine Closes.ite (fun starts => ?_) fun _ => ?_
  · rw [drop_one_closed behind starts]
    exact readBracedPoint_closes behind _
  · rw [readHexDigits_closed]
    cases readHexDigits 4 rest with
    | none => exact .none _
    | some read =>
        dsimp only [Option.map_some]
        rw [readLowEscape_closed]
        cases readLowEscape read.2 with
        | none => exact .some _ _
        | some low => exact Closes.ite (fun _ => .some _ _) fun _ => .some _ _

/-! ### Escapes -/

/-- What has no closing brace completes no property that is left open. -/
theorem readProperty_closed (noBrace : ∀ point ∈ behind, charOf point ≠ '}') (isNegated : Bool)
    (rest : List Nat) :
    readProperty isNegated (rest ++ closed behind) =
      (readProperty isNegated rest).map fun (item, after) => (item, after ++ closed behind) := by
  unfold readProperty
  rw [startsWith_closed behind (by decide)]
  cases starts : startsWith '{' rest with
  | false => rfl
  | true =>
      rw [if_pos rfl, if_pos rfl, drop_one_closed behind starts]
      generalize rest.drop 1 = text
      rw [List.takeWhile_append]
      split
      · next isAll =>
          have all : (closed behind).takeWhile (fun point => charOf point != '}') =
              closed behind := by
            rw [List.takeWhile_eq_self_iff]
            intro point mem
            rcases List.mem_cons.mp mem with rfl | mem
            · decide
            · exact bne_iff_ne.mpr (noBrace point mem)
          rw [all]
          dsimp only
          rw [isAll, List.drop_length, List.drop_length]
          rfl
      · dsimp only
        rw [drop_takeWhile_closed, startsWith_closed behind (by decide)]
        split
        · next ends =>
            rw [drop_one_closed behind ends, Option.map_map]
            rfl
        · rfl

theorem readSetEscape_closed (noBrace : ∀ point ∈ behind, charOf point ≠ '}') (rest : List Nat) :
    readSetEscape (rest ++ closed behind) =
      (readSetEscape rest).map fun (item, after) => (item, after ++ closed behind) := by
  cases rest with
  | nil => rfl
  | cons point rest =>
      rw [List.cons_append, readSetEscape, readSetEscape]
      split
      · exact readProperty_closed behind noBrace false rest
      · exact readProperty_closed behind noBrace true rest
      · rw [Option.map_map]
        rfl

theorem readPointEscape_closes (rest : List Nat) :
    Closes behind (readPointEscape rest) (readPointEscape (rest ++ closed behind)) := by
  cases rest with
  | nil => exact .none _
  | cons point rest =>
      rw [List.cons_append]
      unfold readPointEscape
      dsimp only
      split
      · exact .some _ _
      · exact .some _ _
      · exact .some _ _
      · exact .some _ _
      · exact .some _ _
      · cases rest with
        | nil => exact .some _ _
        | cons next rest => exact Closes.ite (fun _ => .none _) fun _ => .some _ _
      · cases rest with
        | nil => exact .none _
        | cons letter rest => exact Closes.ite (fun _ => .some _ _) fun _ => .none _
      · exact .of_eq_map (readHexDigits_closed behind 2 rest)
      · exact readUnicodePoint_closes behind rest
      · exact Closes.ite (fun _ => .some _ _) fun _ => .none _

/-! ### Names -/

theorem readNamePoint_closes (rest : List Nat) :
    Closes behind (readNamePoint rest) (readNamePoint (rest ++ closed behind)) := by
  cases rest with
  | nil => exact .none _
  | cons point rest =>
      rw [List.cons_append]
      unfold readNamePoint
      dsimp only
      rw [startsWith_closed behind (by decide)]
      refine Closes.ite (fun _ => Closes.ite (fun starts => ?_) fun _ => .none _) fun _ => .some _ _
      rw [drop_one_closed behind starts]
      exact readUnicodePoint_closes behind _

theorem readNamePoints_closes (rest : List Nat) :
    Closes behind (readNamePoints rest) (readNamePoints (rest ++ closed behind)) := by
  fun_induction readNamePoints rest with
  | case1 rest ends =>
      rw [readNamePoints, startsWith_closed behind (by decide), if_pos ends,
        drop_one_closed behind ends]
      exact .some _ _
  | case2 rest goesOn noPoint => exact .none _
  | case3 rest goesOn point after isRead shorter ih =>
      have isRead' := readNamePoint_closes behind rest _ _ isRead
      have unfolded : readNamePoints (rest ++ closed behind) =
          (readNamePoints (after ++ closed behind)).map
            fun outcome => (point :: outcome.1, outcome.2) := by
        rw [readNamePoints, startsWith_closed behind (by decide), if_neg goesOn]
        split
        · next noPoint =>
            rw [isRead'] at noPoint
            contradiction
        · next isPoint =>
            rw [isRead'] at isPoint
            cases isPoint
            rfl
      rw [unfolded]
      exact ih.map _

theorem readName_closes (rest : List Nat) :
    Closes behind (readName rest) (readName (rest ++ closed behind)) := by
  intro name after isRead
  unfold readName at isRead ⊢
  obtain ⟨isPoints, isName⟩ := Option.filter_eq_some_iff.mp isRead
  exact Option.filter_eq_some_iff.mpr
    ⟨readNamePoints_closes behind rest _ _ isPoints, isName⟩

/-! ### Classes -/

theorem readClassAtom_closes (noBrace : ∀ point ∈ behind, charOf point ≠ '}') (rest : List Nat) :
    Closes behind (readClassAtom rest) (readClassAtom (rest ++ closed behind)) := by
  cases rest with
  | nil => exact .none _
  | cons point rest =>
      rw [List.cons_append]
      unfold readClassAtom
      dsimp only
      rw [startsWith_closed behind (by decide), startsWith_closed behind (by decide),
        readSetEscape_closed behind noBrace]
      refine Closes.ite (fun _ => ?_) fun _ => .some _ _
      cases readSetEscape rest with
      | some read => exact .some _ _
      | none =>
          refine Closes.ite (fun starts => ?_) fun _ => Closes.ite (fun starts => ?_) fun _ => ?_
          · rw [drop_one_closed behind starts]
            exact .some _ _
          · rw [drop_one_closed behind starts]
            exact .some _ _
          · exact (readPointEscape_closes behind rest).map _

/-- The recursion of a class, without the proofs that it ends. -/
theorem readClassItems_eq (rest : List Nat) :
    readClassItems rest =
      if startsWith ']' rest then some ([], rest.drop 1)
      else
        (readClassAtom rest).bind fun (atom, after) =>
          if startsWith '-' after && !startsWith ']' (after.drop 1) then
            (readClassAtom (after.drop 1)).bind fun (bound, final) =>
              match atom, bound with
              | .point first, .point last =>
                  if first ≤ last then
                    (readClassItems final).map fun (items, final) =>
                      (.range first last :: items, final)
                  else none
              | _, _ => none
          else
            (readClassItems after).map fun (items, final) => (atom.toItem :: items, final) := by
  rw [readClassItems]
  split
  · rfl
  · split
    · next noAtom => rw [noAtom, Option.bind_none]
    · next atom after isRead =>
        conv => rhs; rw [isRead, Option.bind_some]
        dsimp only
        split
        · split
          · next noBound => rw [noBound, Option.bind_none]
          · next bound final isBound =>
              conv => rhs; rw [isBound, Option.bind_some]
              cases atom <;> cases bound <;> rfl
        · rfl

theorem readClassItems_closes (noBrace : ∀ point ∈ behind, charOf point ≠ '}') (rest : List Nat) :
    Closes behind (readClassItems rest) (readClassItems (rest ++ closed behind)) := by
  induction length : rest.length using Nat.strong_induction_on generalizing rest with
  | _ size ih =>
      rw [readClassItems_eq, readClassItems_eq (rest ++ closed behind),
        startsWith_closed behind (by decide)]
      refine Closes.ite (fun ends => ?_) fun _ => ?_
      · rw [drop_one_closed behind ends]
        exact .some _ _
      refine (readClassAtom_closes behind noBrace rest).bind fun atom after isRead => ?_
      dsimp only
      have shorter := length_of_readClassAtom isRead
      have isRange_eq : (startsWith '-' (after ++ closed behind) &&
          !startsWith ']' ((after ++ closed behind).drop 1)) =
            (startsWith '-' after && !startsWith ']' (after.drop 1)) :=
        startsWith_and_drop_closed behind (by decide) (by decide) (fun starts => !starts) after
      rw [isRange_eq]
      refine Closes.ite (fun isRange => ?_) fun _ => (ih _ (length ▸ shorter) after rfl).map _
      rw [drop_one_closed behind (Bool.and_eq_true_iff.mp isRange).1]
      refine (readClassAtom_closes behind noBrace _).bind fun bound final isBound => ?_
      dsimp only
      have shorterStill := length_of_readClassAtom isBound
      rw [List.length_drop] at shorterStill
      split
      · exact Closes.ite (fun _ => (ih _ (by omega) final rfl).map _) fun _ => .none _
      · exact .none _

theorem readClass_closes (noBrace : ∀ point ∈ behind, charOf point ≠ '}') (rest : List Nat) :
    Closes behind (readClass rest) (readClass (rest ++ closed behind)) := by
  unfold readClass
  dsimp only
  rw [startsWith_closed behind (by decide)]
  split
  · next isNegated =>
      rw [drop_one_closed behind isNegated]
      exact (readClassItems_closes behind noBrace _).map _
  · exact (readClassItems_closes behind noBrace rest).map _

/-! ### Tokens -/

theorem readBounds_closes (rest : List Nat) :
    Closes behind (readBounds rest) (readBounds (rest ++ closed behind)) := by
  unfold readBounds
  dsimp only
  rw [takeWhile_closed behind (by decide), drop_takeWhile_closed]
  generalize rest.takeWhile isDigit = least
  generalize rest.drop least.length = text
  rw [startsWith_closed behind (by decide), startsWith_closed behind (by decide)]
  refine Closes.ite (fun _ => .none _) fun _ => Closes.ite (fun ends => ?_) fun _ =>
    Closes.ite (fun goesOn => ?_) fun _ => .none _
  · rw [drop_one_closed behind ends]
    exact .some _ _
  · rw [drop_one_closed behind goesOn, takeWhile_closed behind (by decide), drop_takeWhile_closed,
      startsWith_closed behind (by decide)]
    refine Closes.ite (fun ends => ?_) fun _ => .none _
    rw [drop_one_closed behind ends]
    exact Closes.ite (fun _ => .some _ _) fun _ => Closes.ite (fun _ => .none _) fun _ => .some _ _

theorem readReluctance_closes (least : Nat) (most : Option Nat) (rest : List Nat) :
    Closes behind (readReluctance least most rest)
      (readReluctance least most (rest ++ closed behind)) := by
  unfold readReluctance
  rw [startsWith_closed behind (by decide)]
  refine Closes.ite (fun starts => ?_) fun _ => .some _ _
  rw [drop_one_closed behind starts]
  exact .some _ _

/-- What stands behind an opening parenthesis, one code point after the other. -/
theorem readOpening_eq (rest : List Nat) :
    readOpening rest =
      if startsWith '?' rest then
        if startsWith ':' (rest.drop 1) then some (.opening .plain, rest.drop 2)
        else if startsWith '=' (rest.drop 1) then some (.opening (.look true false), rest.drop 2)
        else if startsWith '!' (rest.drop 1) then some (.opening (.look true true), rest.drop 2)
        else if startsWith '<' (rest.drop 1) then
          if startsWith '=' (rest.drop 2) then some (.opening (.look false false), rest.drop 3)
          else if startsWith '!' (rest.drop 2) then
            some (.opening (.look false true), rest.drop 3)
          else
            (readName (rest.drop 2)).map fun (name, after) =>
              (.opening (.capture (some name)), after)
        else none
      else some (.opening (.capture none), rest) := by
  rcases rest with _ | ⟨first, _ | ⟨second, _ | ⟨third, rest⟩⟩⟩
  · rfl
  all_goals
    simp only [readOpening, startsWith, List.take, List.map, List.drop]
    split <;> simp_all <;> grind

theorem readOpening_closes (rest : List Nat) :
    Closes behind (readOpening rest) (readOpening (rest ++ closed behind)) := by
  rw [readOpening_eq, readOpening_eq (rest ++ closed behind), startsWith_closed behind (by decide)]
  refine Closes.ite (fun starts => ?_) fun _ => .some _ _
  rw [drop_one_closed behind starts]
  simp only [startsWith_closed behind (show ':' ≠ ')' by decide),
    startsWith_closed behind (show '=' ≠ ')' by decide),
    startsWith_closed behind (show '!' ≠ ')' by decide),
    startsWith_closed behind (show '<' ≠ ')' by decide)]
  refine Closes.ite (fun mark => ?_) fun _ => Closes.ite (fun mark => ?_) fun _ =>
    Closes.ite (fun mark => ?_) fun _ => Closes.ite (fun mark => ?_) fun _ => .none _
  · rw [drop_succ_closed behind mark]
    exact .some _ _
  · rw [drop_succ_closed behind mark]
    exact .some _ _
  · rw [drop_succ_closed behind mark]
    exact .some _ _
  · rw [drop_succ_closed behind mark, startsWith_closed behind (by decide),
      startsWith_closed behind (by decide)]
    refine Closes.ite (fun mark' => ?_) fun _ => Closes.ite (fun mark' => ?_) fun _ => ?_
    · rw [drop_succ_closed behind mark']
      exact .some _ _
    · rw [drop_succ_closed behind mark']
      exact .some _ _
    · exact (readName_closes behind _).map fun name => Token.opening (.capture (some name))

/-- What stands behind a backslash, one code point after the other. -/
theorem readEscapeToken_eq (rest : List Nat) :
    readEscapeToken rest =
      match readSetEscape rest with
      | some (item, after) => some (.item (.set (.ofItem item)), after)
      | none =>
          if startsWith 'b' rest then some (.assertion (.wordBoundary false), rest.drop 1)
          else if startsWith 'B' rest then some (.assertion (.wordBoundary true), rest.drop 1)
          else if startsWith 'k' rest && startsWith '<' (rest.drop 1) then
            (readName (rest.drop 2)).map fun (name, after) => (.namedReference name, after)
          else if (rest.head?.map fun point => (charOf point).isDigit && charOf point != '0').getD
              false then
            some (.reference (decimalValue (rest.takeWhile isDigit)),
              rest.drop (rest.takeWhile isDigit).length)
          else
            (readPointEscape rest).map fun (point, after) =>
              (.item (.set (.ofPoint point)), after) := by
  rw [readEscapeToken]
  cases isSet : readSetEscape rest with
  | some read => rfl
  | none =>
      rcases rest with _ | ⟨first, _ | ⟨second, rest⟩⟩
      · rfl
      all_goals
        simp only [startsWith, List.take, List.map, List.drop, List.head?_cons]
        split <;> simp_all <;> grind

theorem readEscapeToken_closes (noBrace : ∀ point ∈ behind, charOf point ≠ '}') (rest : List Nat) :
    Closes behind (readEscapeToken rest) (readEscapeToken (rest ++ closed behind)) := by
  rw [readEscapeToken_eq, readEscapeToken_eq (rest ++ closed behind),
    readSetEscape_closed behind noBrace]
  cases readSetEscape rest with
  | some read => exact .some _ _
  | none =>
      dsimp only [Option.map_none]
      rw [startsWith_closed behind (by decide), startsWith_closed behind (by decide),
        head?_closed behind (by decide), takeWhile_closed behind (by decide),
        drop_takeWhile_closed]
      have named_eq : (startsWith 'k' (rest ++ closed behind) &&
          startsWith '<' ((rest ++ closed behind).drop 1)) =
          (startsWith 'k' rest && startsWith '<' (rest.drop 1)) :=
        startsWith_and_drop_closed behind (by decide) (by decide) id rest
      rw [named_eq]
      refine Closes.ite (fun mark => ?_) fun _ => Closes.ite (fun mark => ?_) fun _ =>
        Closes.ite (fun mark => ?_) fun _ => Closes.ite (fun _ => .some _ _) fun _ => ?_
      · rw [drop_one_closed behind mark]
        exact .some _ _
      · rw [drop_one_closed behind mark]
        exact .some _ _
      · rw [drop_succ_closed behind (Bool.and_eq_true_iff.mp mark).2]
        exact (readName_closes behind _).map Token.namedReference
      · exact (readPointEscape_closes behind rest).map fun point =>
          Token.item (.set (.ofPoint point))

theorem readToken_closes (noBrace : ∀ point ∈ behind, charOf point ≠ '}') (point : Nat)
    (rest : List Nat) :
    Closes behind (readToken point rest) (readToken point (rest ++ closed behind)) := by
  unfold readToken
  split
  · exact readEscapeToken_closes behind noBrace rest
  · exact (readClass_closes behind noBrace rest).map fun charClass =>
      Token.item (.set charClass)
  · exact readOpening_closes behind rest
  · exact .some _ _
  · exact .some _ _
  · exact .some _ _
  · exact .some _ _
  · exact .some _ _
  · exact readReluctance_closes behind _ _ rest
  · exact readReluctance_closes behind _ _ rest
  · exact readReluctance_closes behind _ _ rest
  · cases isRead : readBounds rest with
    | none => exact .none _
    | some read =>
        rw [readBounds_closes behind rest _ _ isRead]
        exact readReluctance_closes behind _ _ _
  · exact .none _
  · exact .none _
  · exact .some _ _

/-- The recursion over a pattern, without the proof that it ends. -/
theorem tokens_cons (point : Nat) (rest : List Nat) :
    tokens (point :: rest) =
      (readToken point rest).bind fun (token, after) => (tokens after).map (token :: ·) := by
  rw [tokens]
  split
  · next noToken => rw [noToken, Option.bind_none]
  · next isRead =>
      conv => rhs; rw [isRead, Option.bind_some]

/-- The tokens of a pattern, and those of what is put behind it. -/
theorem tokens_closed (noBrace : ∀ point ∈ behind, charOf point ≠ '}') {rest : List Nat}
    {read : List Token} (isRead : tokens rest = some read) :
    tokens (rest ++ closed behind) = (tokens (closed behind)).map (read ++ ·) := by
  fun_induction tokens rest generalizing read with
  | case1 =>
      cases isRead
      rw [List.nil_append]
      exact (congrFun Option.map_id (tokens (closed behind))).symm
  | case2 => contradiction
  | case3 point rest token after isToken shorter ih =>
      obtain ⟨others, isRead', rfl⟩ := Option.map_eq_some_iff.mp isRead
      rw [List.cons_append, tokens_cons, readToken_closes behind noBrace point rest _ _ isToken,
        Option.bind_some]
      dsimp only
      rw [ih isRead', Option.map_map]
      rfl

/-! ## Assembly inside a group -/

/-- A class of every code point. -/
def everyPoint : CharClass :=
  ⟨false, [.shorthand .space false, .shorthand .space true]⟩

/-- The tokens of a closing parenthesis and the assertion that nothing follows. -/
def endTokens : List Token :=
  [.closing, .opening (.look true true), .item (.set everyPoint), .closing]

theorem tokens_end :
    tokens (closed ("(?![\\s\\S])".toList.map Char.toNat)) = some endTokens := by
  have items : readClassItems [0x5C, 0x73, 0x5C, 0x53, 0x5D, 0x29] =
      some (everyPoint.items, [0x29]) := by
    rw [readClassItems_eq]
    change (readClassItems [0x5C, 0x53, 0x5D, 0x29]).map _ = _
    rw [readClassItems_eq]
    change ((readClassItems [0x5D, 0x29]).map _).map _ = _
    rw [readClassItems_eq]
    rfl
  have charClass : readToken 0x5B [0x5C, 0x73, 0x5C, 0x53, 0x5D, 0x29] =
      some (.item (.set everyPoint), [0x29]) := by
    change ((readClassItems [0x5C, 0x73, 0x5C, 0x53, 0x5D, 0x29]).map _).map _ = _
    rw [items]
    rfl
  change tokens [0x29, 0x28, 0x3F, 0x21, 0x5B, 0x5C, 0x73, 0x5C, 0x53, 0x5D, 0x29] = _
  rw [tokens_cons]
  change (tokens [0x28, 0x3F, 0x21, 0x5B, 0x5C, 0x73, 0x5C, 0x53, 0x5D, 0x29]).map _ = _
  rw [tokens_cons]
  change ((tokens [0x5B, 0x5C, 0x73, 0x5C, 0x53, 0x5D, 0x29]).map _).map _ = _
  rw [tokens_cons, charClass]
  change (((tokens [0x29]).map _).map _).map _ = _
  rw [tokens_cons]
  change ((((tokens []).map _).map _).map _).map _ = _
  rw [tokens]
  rfl

/-- The tokens of a pattern in a group, with the assertion that nothing follows behind it. -/
theorem tokens_enclosed {pattern : List Nat} {read : List Token}
    (isRead : tokens pattern = some read) :
    tokens ("(?:".toList.map Char.toNat ++ pattern ++ ")(?![\\s\\S])".toList.map Char.toNat) =
      some (.opening .plain :: (read ++ endTokens)) := by
  change tokens (0x28 :: 0x3F :: 0x3A ::
    (pattern ++ closed ("(?![\\s\\S])".toList.map Char.toNat))) = _
  have opening : ∀ rest, readToken 0x28 (0x3F :: 0x3A :: rest) = some (.opening .plain, rest) := by
    intro rest
    change readOpening (0x3F :: 0x3A :: rest) = _
    rw [readOpening_eq]
    rfl
  rw [tokens_cons, opening, Option.bind_some]
  dsimp only
  rw [tokens_closed _ (by decide) isRead, tokens_end]
  rfl

/-- Open levels, as they are inside a group around the whole pattern. -/
def wrapLevels : List Level → List Level
  | [] => []
  | [bottom] => [{ bottom with kind := some .plain }, Assembly.start.level]
  | level :: next :: rest => level :: wrapLevels (next :: rest)

namespace Assembly

/-- An assembly as it is inside a group around the whole pattern. -/
def wrap (assembly : Assembly) : Assembly :=
  match assembly.outer with
  | [] =>
      { assembly with
        level := { assembly.level with kind := some .plain }
        outer := [start.level] }
  | _ :: _ => { assembly with outer := wrapLevels assembly.outer }

theorem wrap_start : start.wrap = start.openLevel .plain :=
  rfl

/-- A group around the pattern changes nothing about a step. -/
theorem step_wrap {names : List (Option (List Nat))} {assembly next : Assembly} {token : Token}
    (stepped : assembly.step names token = some next) :
    assembly.wrap.step names token = some next.wrap := by
  rcases assembly with ⟨level, outer, captureCount⟩
  have pushed : ∀ node isRepeatable, (wrap ⟨level, outer, captureCount⟩).push node isRepeatable =
      (push ⟨level, outer, captureCount⟩ node isRepeatable).wrap := by
    intro node isRepeatable
    cases outer <;> rfl
  cases token with
  | item node =>
      cases stepped
      exact congrArg some (pushed _ _)
  | reference group =>
      rw [step] at stepped ⊢
      split at stepped
      · next isGroup =>
          cases stepped
          rw [if_pos isGroup, pushed]
      · contradiction
  | namedReference name =>
      obtain ⟨group, isGroup, rfl⟩ := Option.map_eq_some_iff.mp stepped
      rw [step, isGroup, Option.map_some, pushed]
  | assertion node =>
      cases stepped
      exact congrArg some (pushed _ _)
  | opening kind =>
      cases stepped
      cases outer <;> rfl
  | closing =>
      rcases outer with _ | ⟨around, _ | ⟨next, rest⟩⟩
      · contradiction
      · cases stepped
        rfl
      · cases stepped
        rfl
  | bar =>
      cases stepped
      cases outer <;> rfl
  | quantifier least most isGreedy =>
      rcases level with ⟨kind, capturesBefore, alternatives, _ | ⟨term, terms⟩⟩
      · contradiction
      · rw [step, quantify] at stepped
        dsimp only at stepped
        split at stepped
        · next isRepeatable =>
            cases stepped
            cases outer <;>
              · rw [wrap, step, quantify]
                dsimp only
                rw [if_pos isRepeatable]
                rfl
        · contradiction

theorem steps_wrap {names : List (Option (List Nat))} {assembly final : Assembly}
    {read : List Token} (stepped : assembly.steps names read = some final) :
    assembly.wrap.steps names read = some final.wrap := by
  induction read generalizing assembly with
  | nil =>
      cases stepped
      rfl
  | cons token rest ih =>
      rw [steps] at stepped ⊢
      cases once : assembly.step names token with
      | none =>
          rw [once] at stepped
          contradiction
      | some next =>
          rw [once] at stepped
          rw [step_wrap once]
          exact ih stepped

theorem steps_append {names : List (Option (List Nat))} {assembly middle : Assembly}
    {first second : List Token} (stepped : assembly.steps names first = some middle) :
    assembly.steps names (first ++ second) = middle.steps names second := by
  induction first generalizing assembly with
  | nil =>
      cases stepped
      rfl
  | cons token rest ih =>
      rw [List.cons_append, steps]
      rw [steps] at stepped
      cases once : assembly.step names token with
      | none =>
          rw [once] at stepped
          contradiction
      | some next =>
          rw [once] at stepped
          exact ih stepped

end Assembly

/-- An expression in a group, with the assertion that nothing follows behind it, is read as the
expression and that assertion. -/
theorem ofPoints?_enclosed {pattern : List Nat} {caseless : Bool} {regex : Regex}
    (isRead : Regex.ofPoints? pattern caseless = some regex) :
    Regex.ofPoints?
        ("(?:".toList.map Char.toNat ++ pattern ++ ")(?![\\s\\S])".toList.map Char.toNat)
        caseless =
      some { regex with node := .sequence regex.node (.look true true (.set everyPoint)) } := by
  rw [Regex.ofPoints?] at isRead
  split at isRead
  · contradiction
  · next read isTokens =>
      dsimp only at isRead
      split at isRead
      · next level captureCount assembled =>
          split at isRead
          · next distinct =>
              cases isRead
              have names_eq : groupNames (.opening .plain :: (read ++ endTokens)) =
                  groupNames read := by
                simp [groupNames, endTokens]
              rw [Regex.ofPoints?, tokens_enclosed isTokens]
              dsimp only
              have enclosed := Assembly.steps_wrap assembled
              rw [Assembly.wrap_start] at enclosed
              have stepped : Assembly.start.steps (groupNames read)
                  (.opening .plain :: (read ++ endTokens)) =
                    (Assembly.wrap ⟨level, [], captureCount⟩).steps (groupNames read) endTokens :=
                Assembly.steps_append enclosed
              rw [names_eq, stepped]
              dsimp only [Assembly.wrap, endTokens, Assembly.steps, Assembly.step,
                Assembly.closeLevel, Assembly.openLevel, Assembly.push]
              rw [if_pos distinct]
              rfl
          · contradiction
      · contradiction

end Backtrack

end RegexMatching
