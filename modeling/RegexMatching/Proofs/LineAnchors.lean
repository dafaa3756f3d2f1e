import RegexMatching.Proofs.Outlines

/-!
# Line anchors in renderings

Renderings of one lowered pattern differ in the sources of its line anchors only.  Every such
source is read by itself, as a part of the pattern that leaves all parentheses as they were, so
what can be read in one rendering can be read in all.  The exception is the start of a line: its
source is a group, which may be repeated, or a row of assertions, which may not.
-/

namespace RegexMatching.Lowering

open Backtrack

/-! ## Tokens of anchors -/

/-- Whether a quantifier may follow the source of an anchor. -/
def Anchor.isRepeatable (place : Anchor) (multiline : Bool) (edges : Edges) : Bool :=
  place == .lineStart && multiline && !edges.notBol

/-- Tokens of an anchor: they refer to nothing, and read by themselves they leave all parentheses
as they were. -/
structure IsAnchor (isRepeatable : Bool) (read : List Token) : Prop where
  groups : groupNames read = []
  isBound : ∀ names, read.all (Token.isBound names) = true
  steps : ∀ outline : Outline, outline.steps read = some { outline with isRepeatable }

/-- Tokens that are bound without any groups refer to nothing. -/
theorem isBound_of_nil {token : Token} (isBound : token.isBound [] = true)
    (names : List (Option (List Nat))) : token.isBound names = true := by
  cases token with
  | reference group => exact decide_eq_true (Nat.le_trans (of_decide_eq_true isBound) (by simp))
  | namedReference name => contradiction
  | _ => rfl

theorem isAnchor_of_checks {isRepeatable : Bool} {read : List Token} (groups : groupNames read = [])
    (isBound : read.all (Token.isBound []) = true)
    (steps : ∀ before level, (Outline.mk before level []).steps read =
      some ⟨isRepeatable, level, []⟩) : IsAnchor isRepeatable read where
  groups
  isBound names := by
    rw [List.all_eq_true] at isBound ⊢
    exact fun token mem => isBound_of_nil (isBound token mem) names
  steps := fun ⟨before, level, outer⟩ => Outline.steps_inside outer (steps before level)

/-- What stands in front of a closing parenthesis is read by itself. -/
theorem tokens_points_closed {text : Text} {read : List Token}
    (met : (Mode.item false).runText text = .item false)
    (isRead : tokens (Text.points (text ++ Text.ofString ")")) = some read) (rest : Text) :
    tokens (Text.points (text ++ Text.ofString ")" ++ rest)) =
      (tokens rest.points).map (read ++ ·) := by
  have closed : ∀ rest : Text, Text.points (text ++ Text.ofString ")" ++ rest) =
      text.points ++ 0x29 :: rest.points := by
    intro rest
    rw [List.append_assoc]
    change Text.points (text ++ 0x29 :: rest) = _
    rw [Text.points_append_of_not_low _ rfl, Text.points_cons_of_not_high rfl]
    rfl
  have closing : ∀ rest, tokens (0x29 :: rest) = (tokens rest).map (.closing :: ·) := by
    intro rest
    rw [tokens_cons]
    rfl
  rw [← Mode.run_points] at met
  rw [← List.append_nil (text ++ Text.ofString ")"), closed] at isRead
  obtain ⟨first, isFirst⟩ := exists_tokens_of_cut rfl met isRead
  rw [isFirst, closing] at isRead
  obtain rfl : first ++ [.closing] = read := by
    rw [Text.points, tokens] at isRead
    exact Option.some.inj isRead
  rw [closed, isFirst, closing, Option.map_map]
  exact congrArg (Option.map · _) (funext fun more => by simp)

/-- Text can be cut in front of a parenthesis that a scan meets. -/
theorem exists_tokens_points_of_cut {front behind : Text} {read : List Token}
    (met : (Mode.item false).runText front = .item false) (opens : behind.head? = some 0x28)
    (isRead : tokens (Text.points (front ++ behind)) = some read) :
    ∃ first, ∀ behind' : Text, behind'.head? = some 0x28 →
      tokens (Text.points (front ++ behind')) = (tokens behind'.points).map (first ++ ·) := by
  have cut : ∀ rest : Text, Text.points (0x28 :: rest) = 0x28 :: rest.points ∧
      Text.points (front ++ 0x28 :: rest) = front.points ++ 0x28 :: rest.points := by
    intro rest
    rw [Text.points_append_of_not_low _ rfl, Text.points_cons_of_not_high rfl]
    exact ⟨rfl, rfl⟩
  obtain ⟨rest, rfl⟩ := List.head?_eq_some_iff.mp opens
  rw [← Mode.run_points] at met
  rw [(cut rest).2] at isRead
  obtain ⟨first, isFirst⟩ := exists_tokens_of_cut rfl met isRead
  refine ⟨first, fun behind' opens' => ?_⟩
  obtain ⟨rest', rfl⟩ := List.head?_eq_some_iff.mp opens'
  rw [(cut rest').1, (cut rest').2, isFirst]

/-- The source of an anchor is read as an anchor, by itself. -/
theorem exists_tokens_renderAnchor (place : Anchor) (multiline newlineLf : Bool) (edges : Edges) :
    ∃ read, IsAnchor (place.isRepeatable multiline edges) read ∧ ∀ rest : Text,
      tokens (Text.points (place.render multiline newlineLf edges ++ rest)) =
        (tokens rest.points).map (read ++ ·) := by
  have all : ∀ multiline newlineLf notBol notEol : Bool,
      let source := place.render multiline newlineLf ⟨notBol, notEol⟩
      source.dropLast ++ Text.ofString ")" = source ∧
      (Mode.item false).runText source.dropLast = .item false ∧
      (tokens source.points).any (fun read => groupNames read = [] ∧
        read.all (Token.isBound []) = true ∧ ∀ before level,
          (Outline.mk before level []).steps read =
            some ⟨place.isRepeatable multiline ⟨notBol, notEol⟩, level, []⟩) := by
    cases place <;> decide +kernel
  obtain ⟨closed, met, isAny⟩ := all multiline newlineLf edges.notBol edges.notEol
  obtain ⟨read, isRead, checked⟩ := (Option.any_eq_true _ _).mp isAny
  obtain ⟨groups, isBound, steps⟩ := of_decide_eq_true checked
  refine ⟨read, isAnchor_of_checks groups isBound steps, ?_⟩
  rw [← closed] at isRead ⊢
  exact tokens_points_closed met isRead

/-- What stands in front of an anchor is read in the same way for all line edges, and so is what
stands behind it. -/
theorem exists_tokens_around_anchor {place : Anchor} {multiline newlineLf : Bool} {edges : Edges}
    {front behind : Text} {read : List Token}
    (met : (Mode.item false).runText front = .item false)
    (isRead : tokens (Text.points
      (front ++ (place.render multiline newlineLf edges ++ behind))) = some read) :
    ∃ first, ∀ edges', ∃ source, IsAnchor (place.isRepeatable multiline edges') source ∧
      ∀ behind' : Text,
        tokens (Text.points (front ++ (place.render multiline newlineLf edges' ++ behind'))) =
          (tokens behind'.points).map fun read => first ++ (source ++ read) := by
  have opens : ∀ edges (behind : Text),
      (place.render multiline newlineLf edges ++ behind).head? = some 0x28 := by
    intro edges behind
    rw [List.head?_append, (quiet_renderAnchor place multiline newlineLf edges).2]
    rfl
  obtain ⟨first, isFirst⟩ := exists_tokens_points_of_cut met (opens edges behind) isRead
  refine ⟨first, fun edges' => ?_⟩
  obtain ⟨source, isAnchor, isSource⟩ :=
    exists_tokens_renderAnchor place multiline newlineLf edges'
  refine ⟨source, isAnchor, fun behind' => ?_⟩
  rw [isFirst _ (opens edges' behind'), isSource, Option.map_map]
  rfl

/-! ## Renderings of one pattern -/

/-- Tokens of two renderings.  What can be put together in one can be put together in the other,
unless a quantifier stands where `isLacking` says. -/
structure Varies (isLacking : Prop) (first second : List Token) : Prop where
  groups : groupNames second = groupNames first
  isBound : ∀ names, second.all (Token.isBound names) = first.all (Token.isBound names)
  lacks : isLacking → ∀ outline : Outline, outline.steps second = none
  steps : ¬isLacking → ∀ outline final : Outline, outline.steps first = some final →
    ∃ isRepeatable, outline.steps second = some { final with isRepeatable }

namespace Varies

variable {isLacking : Prop} {first second : List Token}

theorem refl (read : List Token) : Varies False read read where
  groups := rfl
  isBound _ := rfl
  lacks := nofun
  steps _ _ final stepped := ⟨final.isRepeatable, stepped⟩

theorem congr (varies : Varies isLacking first second) {isLacking' : Prop}
    (same : isLacking ↔ isLacking') : Varies isLacking' first second :=
  propext same ▸ varies

theorem append (varies : Varies isLacking first second) (front : List Token) :
    Varies isLacking (front ++ first) (front ++ second) where
  groups := by
    rw [groupNames_append, groupNames_append, varies.groups]
  isBound names := by
    rw [List.all_append, List.all_append, varies.isBound]
  lacks isLacking outline := by
    rw [Outline.steps_append]
    exact Option.bind_eq_none_iff.mpr fun middle _ => varies.lacks isLacking middle
  steps complete outline final stepped := by
    rw [Outline.steps_append] at stepped ⊢
    obtain ⟨middle, before, behind⟩ := Option.bind_eq_some_iff.mp stepped
    rw [before]
    exact varies.steps complete middle final behind

/-- Behind an anchor that may not be repeated any more, no quantifier may follow. -/
theorem anchor (varies : Varies isLacking first second) {before after : Bool}
    (weaker : after = true → before = true) {source source' : List Token}
    (isAnchor : IsAnchor before source) (isAnchor' : IsAnchor after source') :
    Varies ((before ≠ after ∧ second.head?.any Token.isQuantifier = true) ∨ isLacking)
      (source ++ first) (source' ++ second) where
  groups := by
    rw [groupNames_append, groupNames_append, isAnchor.groups, isAnchor'.groups, varies.groups]
  isBound names := by
    rw [List.all_append, List.all_append, isAnchor.isBound, isAnchor'.isBound, varies.isBound]
  lacks isLacking outline := by
    rw [Outline.steps_append, isAnchor'.steps, Option.bind_some]
    rcases isLacking with ⟨weakened, isQuantified⟩ | isLacking
    · obtain ⟨token, isHead, isQuantifier⟩ := (Option.any_eq_true _ _).mp isQuantified
      obtain ⟨rest, rfl⟩ := List.head?_eq_some_iff.mp isHead
      have isLast : after = false := by
        rw [Bool.eq_false_iff]
        exact fun isRepeatable => weakened ((weaker isRepeatable).trans isRepeatable.symm)
      rw [isLast, Outline.steps_cons]
      cases token <;> first | contradiction | rfl
    · exact varies.lacks isLacking _
  steps complete outline final stepped := by
    rw [Outline.steps_append, isAnchor.steps, Option.bind_some] at stepped
    rw [Outline.steps_append, isAnchor'.steps, Option.bind_some]
    have behind := varies.steps (fun isLacking => complete (.inr isLacking)) _ _ stepped
    by_cases same : before = after
    · exact same ▸ behind
    · obtain ⟨isRepeatable, behind⟩ := behind
      cases second with
      | nil =>
          refine ⟨after, congrArg some ?_⟩
          have unchanged := Option.some.inj behind
          rw [Outline.mk.injEq] at unchanged ⊢
          exact ⟨rfl, unchanged.2⟩
      | cons token rest =>
          have notQuantifier : token.isQuantifier = false := by
            rw [Bool.eq_false_iff]
            exact fun isQuantifier => complete (.inl ⟨same, isQuantifier⟩)
          rw [Outline.steps_of_not_isQuantifier _ notQuantifier] at behind ⊢
          exact ⟨isRepeatable, behind⟩

theorem isPattern_iff (varies : Varies isLacking first second) (isFirst : isPattern first = true) :
    isPattern second = true ↔ ¬isLacking := by
  simp only [isPattern, Bool.and_eq_true, varies.groups, varies.isBound] at isFirst ⊢
  obtain ⟨final, stepped, isEmpty⟩ := (Option.any_eq_true _ _).mp isFirst.2
  constructor
  · intro isSecond isLacking
    rw [varies.lacks isLacking] at isSecond
    exact Bool.false_ne_true isSecond.2
  · intro complete
    obtain ⟨isRepeatable, stepped'⟩ := varies.steps complete _ _ stepped
    rw [stepped']
    exact ⟨isFirst.1, isEmpty⟩

end Varies

/-! ### Quantified starts of lines -/

/-- Whether a unit begins a quantifier. -/
def isQuantifierMark (unit : CodeUnit) : Bool :=
  quantifierMarks.contains unit.toChar

/-- Whether a quantifier follows the start of a line. -/
def QuantifiesLineStart : List Piece → Prop
  | [] => False
  | piece :: rest =>
      (piece = .anchor .lineStart ∧ (firstUnit? rest).any isQuantifierMark = true) ∨
        QuantifiesLineStart rest

instance decidableQuantifiesLineStart : ∀ pieces, Decidable (QuantifiesLineStart pieces)
  | [] => inferInstanceAs (Decidable False)
  | _ :: rest =>
      have := decidableQuantifiesLineStart rest
      inferInstanceAs (Decidable (_ ∨ _))

/-- The first code point of a text begins a quantifier if the first unit does. -/
theorem any_head?_points (text : Text) :
    (text.points.head?.any fun point => quantifierMarks.contains (PointReader.charOf point)) =
      text.head?.any isQuantifierMark := by
  cases text with
  | nil => rfl
  | cons unit rest =>
      have ascii : ∀ char ∈ quantifierMarks, char ≠ '\x00' ∧ char.toNat < 0x80 := by
        decide
      calc
        _ = quantifierMarks.any fun char =>
            PointReader.startsWith char (Text.points (unit :: rest)) := by
          cases Text.points (unit :: rest) with
          | nil => rfl
          | cons point points => exact List.contains_eq_any_beq
        _ = quantifierMarks.any fun char => unit.toChar == char := by
          rw [Bool.eq_iff_iff, List.any_eq_true, List.any_eq_true]
          refine exists_congr fun char => and_congr_right fun isMark => ?_
          rw [startsWith_points_cons (ascii char isMark)]
        _ = isQuantifierMark unit := List.contains_eq_any_beq.symm

section Rendering

variable {multiline newlineLf : Bool}

/-- A rendering begins with a quantifier if its first source does. -/
theorem isQuantifier_head?_renderPieces {edges : Edges} {pieces : List Piece} {read : List Token}
    (isRead : tokens (renderPieces multiline newlineLf edges pieces).points = some read) :
    read.head?.any Token.isQuantifier = (firstUnit? pieces).any isQuantifierMark := by
  rw [isQuantifier_head? isRead, any_head?_points]
  rcases head?_renderPieces multiline newlineLf edges pieces with same | ⟨isParen, noUnit⟩
  · rw [same]
  · rw [isParen, noUnit]
    rfl

/-- What may be repeated for some line edges may be repeated for the plain ones. -/
theorem isRepeatable_of_edges (place : Anchor) (edges : Edges)
    (isRepeatable : place.isRepeatable multiline edges = true) :
    place.isRepeatable multiline {} = true := by
  unfold Anchor.isRepeatable at isRepeatable ⊢
  simp_all

/-- A repeatable anchor is only weakened for the start of a line. -/
theorem isRepeatable_ne_iff (place : Anchor) (edges : Edges) :
    place.isRepeatable multiline {} ≠ place.isRepeatable multiline edges ↔
      place = .lineStart ∧ multiline = true ∧ edges.notBol = true := by
  rcases edges with ⟨notBol, notEol⟩
  cases place <;> cases multiline <;> cases notBol <;> simp [Anchor.isRepeatable]

/-- Where the plain rendering can be read, every other one can be read as far as tokens go. -/
theorem exists_varies {pieces : List Piece}
    (areMet : ∀ source, .source source ∈ pieces →
      (Mode.item false).runText source = .item false)
    (front : Text) (metFront : (Mode.item false).runText front = .item false) {read : List Token}
    (isRead : tokens (Text.points (front ++ renderPieces multiline newlineLf {} pieces)) =
      some read) (edges : Edges) :
    ∃ read', tokens (Text.points (front ++ renderPieces multiline newlineLf edges pieces)) =
        some read' ∧
      Varies (multiline = true ∧ edges.notBol = true ∧ QuantifiesLineStart pieces) read read' := by
  induction pieces generalizing front read with
  | nil =>
      refine ⟨read, isRead, ?_⟩
      simpa [QuantifiesLineStart] using Varies.refl read
  | cons piece pieces ih =>
      have areMet' : ∀ source, .source source ∈ pieces →
          (Mode.item false).runText source = .item false :=
        fun source mem => areMet source (List.mem_cons_of_mem _ mem)
      cases piece with
      | source source =>
          have met : (Mode.item false).runText (front ++ source) = .item false := by
            rw [Mode.runText_append, metFront, areMet source List.mem_cons_self]
          have rendered : ∀ edges, front ++ renderPieces multiline newlineLf edges
              (.source source :: pieces) =
                front ++ source ++ renderPieces multiline newlineLf edges pieces :=
            fun edges => (List.append_assoc _ _ _).symm
          rw [rendered] at isRead ⊢
          simpa [QuantifiesLineStart] using ih areMet' (front ++ source) met isRead
      | anchor place =>
          have rendered : ∀ edges, renderPieces multiline newlineLf edges
              (.anchor place :: pieces) = place.render multiline newlineLf edges ++
                renderPieces multiline newlineLf edges pieces := fun _ => rfl
          rw [rendered] at isRead ⊢
          obtain ⟨first, around⟩ := exists_tokens_around_anchor metFront isRead
          obtain ⟨source, isAnchor, isSource⟩ := around {}
          obtain ⟨source', isAnchor', isSource'⟩ := around edges
          rw [isSource] at isRead
          obtain ⟨behind, isBehind, rfl⟩ := Option.map_eq_some_iff.mp isRead
          obtain ⟨behind', isBehind', varies⟩ := ih areMet' [] rfl isBehind
          rw [List.nil_append] at isBehind'
          refine ⟨first ++ (source' ++ behind'), by rw [isSource', isBehind']; rfl, ?_⟩
          have varies' := varies.anchor (isRepeatable_of_edges place edges) isAnchor isAnchor'
          rw [isRepeatable_ne_iff, isQuantifier_head?_renderPieces isBehind'] at varies'
          refine (varies'.append first).congr ?_
          simp only [QuantifiesLineStart, Piece.anchor.injEq]
          tauto

/-- Where the plain rendering can be read, so can every other one, unless a start of a line that
a quantifier follows may no longer be one. -/
theorem isSome_ofPoints?_renderPieces {pieces : List Piece}
    (areMet : ∀ source, .source source ∈ pieces →
      (Mode.item false).runText source = .item false) {caseless : Bool}
    (isPlain : (Regex.ofPoints? (renderPieces multiline newlineLf {} pieces).points
      caseless).isSome = true) (edges : Edges) :
    (Regex.ofPoints? (renderPieces multiline newlineLf edges pieces).points
        caseless).isSome = true ↔
      ¬(multiline = true ∧ edges.notBol = true ∧ QuantifiesLineStart pieces) := by
  rw [isSome_ofPoints?] at isPlain ⊢
  obtain ⟨read, isRead, isPattern⟩ := (Option.any_eq_true _ _).mp isPlain
  obtain ⟨read', isRead', varies⟩ := exists_varies areMet [] rfl isRead edges
  rw [List.nil_append] at isRead'
  rw [isRead', Option.any_some, varies.isPattern_iff isPattern]

end Rendering

/-! ## Pieces inside a group -/

/-- Pieces with sources around them. -/
def enclosePieces (front behind : Text) (pieces : List Piece) : List Piece :=
  .source front :: (pieces ++ [.source behind])

theorem renderPieces_enclosePieces (multiline newlineLf : Bool) (edges : Edges)
    (front behind : Text) (pieces : List Piece) :
    renderPieces multiline newlineLf edges (enclosePieces front behind pieces) =
      front ++ renderPieces multiline newlineLf edges pieces ++ behind := by
  simp [renderPieces, enclosePieces, Piece.render]

/-- A source behind the pieces that does not begin with a quantifier repeats no start of a
line. -/
theorem quantifiesLineStart_enclosePieces {front behind : Text}
    (notMark : behind.head?.any isQuantifierMark = false) (pieces : List Piece) :
    QuantifiesLineStart (enclosePieces front behind pieces) ↔ QuantifiesLineStart pieces := by
  have first : ∀ pieces, (firstUnit? (pieces ++ [.source behind])).any isQuantifierMark =
      (firstUnit? pieces).any isQuantifierMark := by
    intro pieces
    fun_induction firstUnit? pieces with
    | case1 unit text rest => rfl
    | case2 rest ih => exact ih
    | case3 pieces notSource notEmpty =>
        cases pieces with
        | nil => cases behind <;> exact notMark
        | cons piece rest =>
            cases piece with
            | anchor place => rfl
            | source source =>
                cases source with
                | nil => exact absurd rfl (notEmpty rest)
                | cons unit text => exact absurd rfl (notSource unit text rest)
  have inside : QuantifiesLineStart (pieces ++ [.source behind]) ↔ QuantifiesLineStart pieces := by
    induction pieces with
    | nil => simp [QuantifiesLineStart]
    | cons piece pieces ih => rw [List.cons_append, QuantifiesLineStart, first, ih]; rfl
  simpa [enclosePieces, QuantifiesLineStart] using inside

/-! ## Sources of lowered patterns -/

/-- A scan of the source of a piece leads back to where it began. -/
theorem runText_of_opens {source : Text} {groups : List (Option Text)}
    (opens : Opens source groups) : (Mode.item false).runText source = .item false := by
  cases opens with
  | nothing isQuiet => exact Mode.runText_of_quiet isQuiet
  | group => rfl
  | named isName =>
      rw [Mode.runText_append, Mode.runText_append]
      change ((Mode.item false).runText _).runText _ = _
      rw [Mode.runText_of_quiet (quiet_name isName)]
      rfl

theorem runText_of_traces {pieces : List Piece} {groups : List (Option Text)}
    (traces : Traces pieces groups) (source : Text) (mem : .source source ∈ pieces) :
    (Mode.item false).runText source = .item false := by
  induction traces with
  | nil => contradiction
  | cons opens rest ih =>
      rcases List.mem_cons.mp mem with rfl | mem
      · exact runText_of_opens opens
      · exact ih mem

end RegexMatching.Lowering
