import RegexMatching.Engine.LinearTime
import RegexMatching.Lowering.Literal
import RegexMatching.Proofs.Boundary
import RegexMatching.Proofs.Enclosing
import RegexMatching.Proofs.LinearEnclosing

/-!
# Expressions for literal text

Each engine has its own way of escaping, which fits its own syntax.  Escaped text is read by
either as what was escaped: one code point after the other, with no groups.
-/

namespace RegexMatching

open PointReader

/-! ## Backtracking -/

namespace Backtrack

/-- A sequence of code points. -/
def Node.ofPoints (points : List Nat) : Node :=
  .ofSequence (points.map fun point => .set (.ofPoint point))

/-- One code point as literal source. -/
def escapePoint (point : Nat) : List Nat :=
  if isSyntaxPoint point then [0x5C, point] else [point]

/-- Punctuation with a meaning is one of a few characters. -/
theorem exists_char_of_isSyntaxPoint {point : Nat} (isSyntax : isSyntaxPoint point = true) :
    ∃ char ∈ "^$\\.*+?()[]\x7b\x7d|/".toList, point = char.toNat := by
  have mem := List.contains_iff_mem.mp isSyntax
  have notNul : charOf point ≠ '\x00' := by
    intro isNul
    rw [isNul] at mem
    exact absurd mem (by decide)
  exact ⟨_, mem, (toNat_of_charOf notNul rfl).symm⟩

theorem isSyntaxPoint_of_le {point : Nat} (beyond : 0x80 ≤ point) :
    isSyntaxPoint point = false := by
  rw [Bool.eq_false_iff]
  intro isSyntax
  obtain ⟨char, mem, rfl⟩ := exists_char_of_isSyntaxPoint isSyntax
  have ascii : "^$\\.*+?()[]\x7b\x7d|/".toList.all (·.toNat < 0x80) = true := by decide
  have below := of_decide_eq_true (List.all_eq_true.mp ascii char mem)
  exact absurd below (Nat.not_lt.mpr beyond)

/-- An escaped code point stands for itself. -/
theorem readToken_escaped {point : Nat} (isSyntax : isSyntaxPoint point = true)
    (rest : List Nat) :
    readToken 0x5C (point :: rest) = some (.item (.set (.ofPoint point)), rest) := by
  obtain ⟨char, mem, rfl⟩ := exists_char_of_isSyntaxPoint isSyntax
  change char ∈ ['^', '$', '\\', '.', '*', '+', '?', '(', ')', '[', ']', '\x7b', '\x7d', '|', '/']
    at mem
  simp only [List.mem_cons, List.not_mem_nil, or_false] at mem
  rcases mem with rfl | rfl | rfl | rfl | rfl | rfl | rfl | rfl | rfl | rfl | rfl | rfl | rfl |
    rfl | rfl <;> rfl

/-- A code point without a meaning stands for itself. -/
theorem readToken_plain {point : Nat} (notSyntax : isSyntaxPoint point = false)
    (rest : List Nat) :
    readToken point rest = some (.item (.set (.ofPoint point)), rest) := by
  have notMem : charOf point ∉
      ['^', '$', '\\', '.', '*', '+', '?', '(', ')', '[', ']', '\x7b', '\x7d', '|', '/'] := by
    intro mem
    exact Bool.eq_false_iff.mp notSyntax (List.contains_iff_mem.mpr mem)
  simp only [List.mem_cons, List.not_mem_nil, or_false, not_or] at notMem
  simp [readToken, notMem]

/-- Escaped code points are read one by one. -/
theorem tokens_escaped (points : List Nat) :
    tokens (points.flatMap escapePoint) =
      some ((points.map fun point => .set (.ofPoint point)).map Token.item) := by
  induction points with
  | nil => rw [List.flatMap_nil, tokens, List.map_nil, List.map_nil]
  | cons point rest ih =>
      rw [List.flatMap_cons, escapePoint]
      split
      · next isSyntax =>
          rw [List.cons_append, tokens_cons, List.cons_append, readToken_escaped isSyntax]
          change (tokens (rest.flatMap escapePoint)).map _ = _
          rw [ih]
          rfl
      · next notSyntax =>
          rw [List.cons_append, tokens_cons, readToken_plain (Bool.eq_false_iff.mpr notSyntax)]
          change (tokens (rest.flatMap escapePoint)).map _ = _
          rw [ih]
          rfl

/-- Items are put together in the order in which they are read. -/
theorem steps_items (names : List (Option (List Nat))) (assembly : Assembly) (nodes : List Node) :
    assembly.steps names (nodes.map .item) = some { assembly with
      level := { assembly.level with
        terms := (nodes.map fun node => ⟨node, true, assembly.captureCount⟩).reverse ++
          assembly.level.terms } } := by
  induction nodes generalizing assembly with
  | nil => rfl
  | cons node rest ih =>
      rw [List.map_cons, Assembly.steps, Assembly.step]
      dsimp only
      rw [ih, List.map_cons, List.reverse_cons, List.append_assoc]
      rfl

/-- Escaped code points are read as their sequence. -/
theorem ofPoints?_escaped (points : List Nat) (caseless : Bool) :
    Regex.ofPoints? (points.flatMap escapePoint) caseless =
      some { node := .ofPoints points, captureCount := 0, caseless } := by
  have noGroups : ∀ nodes : List Node, groupNames (nodes.map Token.item) = [] := by
    intro nodes
    induction nodes with
    | nil => rfl
    | cons node rest ih => exact ih
  rw [Regex.ofPoints?, tokens_escaped]
  dsimp only
  rw [noGroups, steps_items]
  change some _ = some _
  rw [Node.ofPoints]
  simp [Assembly.start, Level.node, Level.endAlternative, Node.ofAlternatives,
    Function.comp_def]

/-! ### Escaping units -/

theorem escapeUnit_eq (unit : CodeUnit) :
    Lowering.escapeUnit false unit =
      if isSyntaxPoint unit.toNat then [0x5C, unit] else [unit] := by
  rw [Lowering.escapeUnit, Bool.false_and, Bool.or_false]
  rfl

/-- A unit that opens no pair is escaped as the code point that it is. -/
theorem points_escapeUnit_append {unit : CodeUnit} {rest : Text}
    (isSingle : Text.startsWithPair (unit :: rest) = false) :
    Text.points (Lowering.escapeUnit false unit ++ rest) =
      escapePoint unit.toNat ++ Text.points rest := by
  have single := Text.points_of_single isSingle
  rw [escapeUnit_eq, escapePoint]
  split
  · have backslash : Text.startsWithPair (0x5C :: unit :: rest) = false := rfl
    exact (Text.points_of_single backslash).trans (congrArg (0x5C :: ·) single)
  · exact single

/-- Escaping units escapes the code points that they make up. -/
theorem points_escapeLiteral (text : Text) :
    (Lowering.escapeLiteral text).points = text.points.flatMap escapePoint := by
  fun_induction Text.points text with
  | case1 => rfl
  | case2 unit =>
      rw [Lowering.escapeLiteral, List.flatMap_cons, List.flatMap_nil, List.flatMap_singleton,
        points_escapeUnit_append rfl]
      exact List.append_nil _
  | case3 high low rest pair ih =>
      rw [Bool.and_eq_true] at pair
      have highBound := (CodeUnit.isHighSurrogate_iff high).mp pair.1
      have lowBound := (CodeUnit.isLowSurrogate_iff low).mp pair.2
      have highPlain := isSyntaxPoint_of_le (show 0x80 ≤ high.toNat by omega)
      have lowPlain := isSyntaxPoint_of_le (show 0x80 ≤ low.toNat by omega)
      have pairPlain := isSyntaxPoint_of_le
        (show 0x80 ≤ CodePoint.ofPair high.toNat low.toNat by unfold CodePoint.ofPair; omega)
      rw [Lowering.escapeLiteral, List.flatMap_cons, List.flatMap_cons, escapeUnit_eq,
        escapeUnit_eq, highPlain, lowPlain, List.flatMap_cons, escapePoint, pairPlain]
      simp only [Bool.false_eq_true, if_false, List.singleton_append]
      rw [← ih]
      exact Text.points_of_pair (Bool.and_eq_true_iff.mpr pair)
  | case4 high low rest noPair ih =>
      have isSingle : Text.startsWithPair (high :: Lowering.escapeLiteral (low :: rest)) = false := by
        rw [Lowering.escapeLiteral, List.flatMap_cons, escapeUnit_eq]
        split
        · exact Bool.and_false _
        · exact Bool.eq_false_iff.mpr noPair
      rw [List.flatMap_cons, ← ih]
      exact points_escapeUnit_append isSingle

/-- Escaped text is read as the sequence of its code points. -/
theorem ofPoints?_escapeLiteral (text : Text) (caseless : Bool) :
    Regex.ofPoints? (Lowering.escapeLiteral text).points caseless =
      some { node := .ofPoints text.points, captureCount := 0, caseless } := by
  rw [points_escapeLiteral, ofPoints?_escaped]

end Backtrack

/-! ## Matching in linear time -/

namespace Linear

open LinearTime (escapeLiteral)

/-- A sequence of code points. -/
def Expression.ofPoints (points : List Nat) : Expression :=
  .ofSequence (points.map fun point => .set ⟨false, false, [.ofPoint point]⟩)

/-- The punctuation that is escaped. -/
def syntaxChars : List Char :=
  ".*+?^$\x7b\x7d()|[]\\".toList

/-- An escaped code point stands for itself. -/
theorem readTokens_escaped {char : Char} (mem : char ∈ syntaxChars) (rest : List Nat) :
    readTokens 0x5C (char.toNat :: rest) = some ([.ofPoint char.toNat], rest) := by
  change char ∈ ['.', '*', '+', '?', '^', '$', '\x7b', '\x7d', '(', ')', '|', '[', ']', '\\'] at mem
  simp only [List.mem_cons, List.not_mem_nil, or_false] at mem
  rcases mem with rfl | rfl | rfl | rfl | rfl | rfl | rfl | rfl | rfl | rfl | rfl | rfl | rfl |
    rfl <;> rfl

/-- A code point that need not be escaped stands for itself. -/
theorem readTokens_plain {point : Nat} (notSyntax : ∀ char ∈ syntaxChars, char.toNat ≠ point)
    (rest : List Nat) : readTokens point rest = some ([.ofPoint point], rest) := by
  have notMem : charOf point ∉
      ['.', '*', '+', '?', '^', '$', '\x7b', '\x7d', '(', ')', '|', '[', ']', '\\'] := by
    intro mem
    have notNul : charOf point ≠ '\x00' := by
      intro isNul
      rw [isNul] at mem
      exact absurd mem (by decide)
    exact notSyntax _ mem (toNat_of_charOf notNul rfl)
  simp only [List.mem_cons, List.not_mem_nil, or_false, not_or] at notMem
  simp [readTokens, notMem]

/-- Escaped code points are escaped one by one, each being one of the two kinds. -/
theorem escapeLiteral_cons (point : Nat) (rest : List Nat) :
    (∃ char ∈ syntaxChars, char.toNat = point ∧
        escapeLiteral (point :: rest) = 0x5C :: point :: escapeLiteral rest) ∨
      (∀ char ∈ syntaxChars, char.toNat ≠ point) ∧
        escapeLiteral (point :: rest) = point :: escapeLiteral rest := by
  rw [escapeLiteral, List.flatMap_cons]
  by_cases isSyntax : syntaxChars.any (·.toNat == point) = true
  · obtain ⟨char, mem, same⟩ := List.any_eq_true.mp isSyntax
    exact .inl ⟨char, mem, beq_iff_eq.mp same, congrArg (· ++ _) (if_pos isSyntax)⟩
  · refine .inr ⟨fun char mem same => ?_, congrArg (· ++ _) (if_neg isSyntax)⟩
    exact isSyntax (List.any_eq_true.mpr ⟨char, mem, beq_iff_eq.mpr same⟩)

/-- Escaped code points are read one by one, whatever follows. -/
theorem tokens_escaped (points : List Nat) :
    tokens (escapeLiteral points) = some (points.map .ofPoint) := by
  induction points with
  | nil => rw [escapeLiteral, List.flatMap_nil, tokens, List.map_nil]
  | cons point rest ih =>
      rcases escapeLiteral_cons point rest with ⟨char, mem, rfl, isEscaped⟩ | ⟨notSyntax, isPlain⟩
      · rw [isEscaped, tokens_cons, readTokens_escaped mem, Option.bind_some]
        dsimp only
        rw [ih]
        rfl
      · rw [isPlain, tokens_cons, readTokens_plain notSyntax, Option.bind_some]
        dsimp only
        rw [ih]
        rfl

/-- Escaped code points open no quotation. -/
theorem not_quotesToEnd_escaped (points : List Nat) : ¬QuotesToEnd (escapeLiteral points) := by
  induction points with
  | nil => exact not_quotesToEnd_nil
  | cons point rest ih =>
      intro quotes
      rcases escapeLiteral_cons point rest with ⟨char, mem, rfl, isEscaped⟩ | ⟨notSyntax, isPlain⟩
      · rw [isEscaped] at quotes
        cases quotes with
        | here isEscape isOpen =>
            have noQuote : syntaxChars.all (!startsWith 'Q' [·.toNat]) = true := by decide
            have notOpen := Bool.not_eq_true' _ ▸ List.all_eq_true.mp noQuote char mem
            exact Bool.eq_false_iff.mp notOpen isOpen.1
        | behind isRead quotes =>
            rw [readTokens_escaped mem] at isRead
            cases isRead
            exact ih quotes
      · rw [isPlain] at quotes
        cases quotes with
        | here isEscape isOpen =>
            exact notSyntax '\\' (by decide) (toNat_of_charOf (by decide) isEscape)
        | behind isRead quotes =>
            rw [readTokens_plain notSyntax] at isRead
            cases isRead
            exact ih quotes

/-- Code points are put together in the order in which they are read. -/
theorem steps_points {assembly : Assembly} (isCased : assembly.flags.caseless = false)
    (isRested : assembly.isQuantified = false) (points : List Nat) :
    assembly.steps (points.map .ofPoint) = some { assembly with
      level := { assembly.level with
        terms := (points.map fun point =>
            Expression.set ⟨false, false, [.ofPoint point]⟩).reverse ++
          assembly.level.terms } } := by
  induction points generalizing assembly with
  | nil => rfl
  | cons point rest ih =>
      rw [List.map_cons, Assembly.steps, Token.ofPoint, Assembly.step]
      dsimp only
      rw [ih (by exact isCased) rfl, List.map_cons, List.reverse_cons, List.append_assoc]
      simp [Assembly.push, Level.push, isCased, isRested]

/-- Escaped code points are read as their sequence. -/
theorem ofPoints?_escaped (points : List Nat) {flags : Flags} (isCased : flags.caseless = false) :
    Regex.ofPoints? (escapeLiteral points) flags =
      some { expression := .ofPoints points, captureCount := 0, names := [] } := by
  rw [Regex.ofPoints?, tokens_escaped]
  dsimp only
  have isStart : (Assembly.start flags).flags.caseless = false := isCased
  rw [steps_points isStart rfl]
  change some _ = some _
  rw [Expression.ofPoints]
  simp [Assembly.start, Level.expression, Level.endAlternative, Expression.ofAlternatives]

end Linear

end RegexMatching
