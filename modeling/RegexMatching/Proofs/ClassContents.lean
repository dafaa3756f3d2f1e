import RegexMatching.Backtrack.Matcher
import RegexMatching.Proofs.LiteralExpressions

/-!
# Contents of classes

What stands between the brackets of a class is read part by part: code points, ranges of them and
sets.  A part that starts with no caret, dash or closing bracket is read in the same way whatever
stands around it, so parts in a row hold what one of them holds.
-/

namespace RegexMatching.Backtrack

open PointReader

/-! ## Expressions for one code point -/

/-- Whether a source is an expression that matches one code point by a test, and has no groups. -/
def IsSet (source : List Nat) (test : Nat → Bool) : Prop :=
  ∃ regex, Regex.ofPoints? source false = some regex ∧
    ∀ (points : Array Nat) (position : Nat), regex.matchAt points position =
      if points[position]?.any test then some [some (position, position + 1)] else none

theorem IsSet.congr {source : List Nat} {test test' : Nat → Bool} (isSet : IsSet source test)
    (same : ∀ point, test point = test' point) : IsSet source test' :=
  funext same ▸ isSet

theorem isSet_of_tokens {source : List Nat} {charClass : CharClass} {test : Nat → Bool}
    (areTokens : tokens source = some [.item (.set charClass)])
    (holds : ∀ point, charClass.contains false point = test point) : IsSet source test := by
  refine ⟨{ node := .set charClass, captureCount := 0, caseless := false }, ?_, ?_⟩
  · rw [Regex.ofPoints?, areTokens]
    rfl
  · intro points position
    rw [Regex.matchAt, Node.run_set, Subject.stepOver?, if_pos rfl]
    dsimp only
    cases points[position]? with
    | none => rfl
    | some point =>
        rw [Option.any_some, ← holds]
        dsimp only
        cases charClass.contains false point <;> rfl

/-- A set by its escape. -/
theorem isSet_of_escape {source : List Nat} {item : ClassItem}
    (isRead : readSetEscape source = some (item, [])) :
    IsSet (0x5C :: source) (item.contains false) := by
  refine @isSet_of_tokens _ (.ofItem item) _ ?_ fun point => ?_
  · have isToken : readToken 0x5C source = some (.item (.set (.ofItem item)), []) := by
      change readEscapeToken source = _
      rw [readEscapeToken, isRead]
    rw [tokens_cons, isToken, Option.bind_some]
    dsimp only
    rw [tokens]
    rfl
  · simp [CharClass.contains, CharClass.holds, CharClass.ofItem]

/-! ## Parts -/

/-- Whether a source starts, and with nothing that has a meaning for the class around it. -/
def startsPart (source : List Nat) : Bool :=
  source.head?.any fun point => !([']', '-', '^'].contains (charOf point))

theorem startsWith_of_startsPart {char : Char} (mem : char ∈ [']', '-', '^']) {source : List Nat}
    (starts : startsPart source = true) (rest : List Nat) :
    startsWith char (source ++ rest) = false := by
  cases source with
  | nil => cases starts
  | cons point more =>
      refine beq_false_of_ne fun isChar => ?_
      have notMem : [']', '-', '^'].contains (charOf point) = false := Bool.not_eq_true' _ ▸ starts
      rw [isChar] at notMem
      exact absurd (List.contains_iff_mem.mpr mem) (Bool.eq_false_iff.mp notMem)

/-- Whether a source is a code point or a set of a class, whatever follows. -/
structure IsAtom (source : List Nat) (atom : ClassAtom) : Prop where
  isRead : ∀ rest, readClassAtom (source ++ rest) = some (atom, rest)
  starts : startsPart source = true

/-- A code point that stands for itself in a class. -/
def isPlain (point : Nat) : Bool :=
  !([']', '-', '^', '\\'].contains (charOf point))

theorem isAtom_plain {point : Nat} (plain : isPlain point = true) :
    IsAtom [point] (.point point) := by
  have notMem : charOf point ∉ [']', '-', '^', '\\'] := by
    intro mem
    rw [isPlain, List.contains_iff_mem.mpr mem] at plain
    cases plain
  simp only [List.mem_cons, List.not_mem_nil, or_false, not_or] at notMem
  constructor
  · intro rest
    rw [List.singleton_append, readClassAtom, if_neg (by simpa using notMem.2.2.2)]
  · simp [startsPart, notMem]

/-- A code unit by its digits, unless it could be the first half of a pair. -/
theorem isAtom_unit {first second third fourth : Nat}
    (areDigits : [first, second, third, fourth].all isHexDigit = true)
    (notHigh : CodePoint.isHighSurrogate (hexValue [first, second, third, fourth]) = false) :
    IsAtom [0x5C, 0x75, first, second, third, fourth]
      (.point (hexValue [first, second, third, fourth])) := by
  refine ⟨fun rest => ?_, rfl⟩
  have noBrace : startsWith '{' (first :: second :: third :: fourth :: rest) = false := by
    refine beq_false_of_ne fun isBrace => ?_
    have isDigit := (Bool.and_eq_true_iff.mp areDigits).1
    rw [isHexDigit, isBrace] at isDigit
    exact absurd isDigit (by decide)
  have isUnit : readHexDigits 4 (first :: second :: third :: fourth :: rest) =
      some (hexValue [first, second, third, fourth], rest) :=
    if_pos areDigits
  have isPoint : readUnicodePoint (first :: second :: third :: fourth :: rest) =
      some (hexValue [first, second, third, fourth], rest) := by
    rw [readUnicodePoint, noBrace, if_neg Bool.false_ne_true, isUnit]
    dsimp only
    rw [notHigh]
    cases readLowEscape rest <;> rfl
  change (readUnicodePoint (first :: second :: third :: fourth :: rest)).map _ = _
  rw [isPoint]
  rfl

/-- Whether contents of a class hold what passes a test, whatever follows but a dash. -/
structure IsContents (source : List Nat) (test : Nat → Bool) : Prop where
  isRead : ∃ items : List ClassItem,
    (∀ rest, startsWith '-' rest = false → readClassItems (source ++ rest) =
      (readClassItems rest).map fun (more, after) => (items ++ more, after)) ∧
    ∀ point, items.any (·.contains false point) = test point
  starts : source = [] ∨ startsPart source = true

namespace IsContents

variable {source more : List Nat} {test test' : Nat → Bool}

theorem startsWith_eq (isContents : IsContents source test) {char : Char}
    (mem : char ∈ [']', '-', '^']) {rest : List Nat} (notRest : startsWith char rest = false) :
    startsWith char (source ++ rest) = false := by
  rcases isContents.starts with rfl | starts
  · exact notRest
  · exact startsWith_of_startsPart mem starts rest

theorem congr (isContents : IsContents source test) (same : ∀ point, test point = test' point) :
    IsContents source test' := by
  obtain ⟨⟨items, isRead, holds⟩, starts⟩ := isContents
  exact ⟨⟨items, isRead, fun point => (holds point).trans (same point)⟩, starts⟩

theorem nil : IsContents [] fun _ => false := by
  refine ⟨⟨[], fun rest _ => ?_, fun _ => rfl⟩, .inl rfl⟩
  rw [List.nil_append]
  cases readClassItems rest <;> rfl

/-- Contents in a row hold what either of them holds. -/
theorem append (front : IsContents source test) (back : IsContents more test') :
    IsContents (source ++ more) fun point => test point || test' point := by
  obtain ⟨items, areRead, holds⟩ := front.isRead
  obtain ⟨items', areRead', holds'⟩ := back.isRead
  refine ⟨⟨items ++ items', fun rest notDash => ?_, fun point => ?_⟩, ?_⟩
  · rw [List.append_assoc, areRead _ (back.startsWith_eq (by simp) notDash),
      areRead' rest notDash, Option.map_map]
    refine congrArg (Option.map · _) (funext fun read => ?_)
    exact congrArg (·, read.2) (List.append_assoc items items' read.1).symm
  · rw [List.any_append, holds, holds']
  · rcases front.starts with rfl | starts
    · exact back.starts
    · refine .inr ?_
      cases source with
      | nil => cases starts
      | cons point rest => exact starts

/-- A code point or a set by itself. -/
theorem ofAtom {atom : ClassAtom} (isAtom : IsAtom source atom) :
    IsContents source (atom.toItem.contains false) := by
  refine ⟨⟨[atom.toItem], fun rest notDash => ?_, fun point => ?_⟩, .inr isAtom.starts⟩
  · rw [readClassItems_eq, startsWith_of_startsPart (by simp) isAtom.starts,
      if_neg Bool.false_ne_true, isAtom.isRead, Option.bind_some]
    dsimp only
    rw [notDash, Bool.false_and, if_neg Bool.false_ne_true]
    rfl
  · exact Bool.or_false _

/-- A set by its escape. -/
theorem ofEscape {item : ClassItem}
    (isRead : ∀ rest, readSetEscape (source ++ rest) = some (item, rest)) :
    IsContents (0x5C :: source) (item.contains false) := by
  refine @ofAtom _ (.set item) ⟨fun rest => ?_, rfl⟩
  rw [List.cons_append, readClassAtom, if_pos (by decide), isRead]

/-- A range of code points. -/
theorem ofRange {first last : Nat} (isFirst : IsAtom source (.point first))
    (isLast : IsAtom more (.point last)) (le : first ≤ last) :
    IsContents (source ++ 0x2D :: more) fun point => first ≤ point && point ≤ last := by
  refine ⟨⟨[.range first last], fun rest _ => ?_, fun point => ?_⟩, .inr ?_⟩
  · rw [readClassItems_eq, List.append_assoc, startsWith_of_startsPart (by simp) isFirst.starts,
      if_neg Bool.false_ne_true, isFirst.isRead, Option.bind_some]
    dsimp only
    have isRange : (startsWith '-' (0x2D :: more ++ rest) &&
        !startsWith ']' ((0x2D :: more ++ rest).drop 1)) = true := by
      rw [List.cons_append, List.drop_one, List.tail_cons,
        startsWith_of_startsPart (by simp) isLast.starts]
      rfl
    rw [if_pos isRange, List.cons_append, List.drop_one, List.tail_cons, isLast.isRead,
      Option.bind_some]
    dsimp only
    rw [if_pos le]
    rfl
  · exact Bool.or_false _
  · obtain ⟨-, starts⟩ := isFirst
    cases source with
    | nil => cases starts
    | cons point rest => exact starts

/-- Parts in a row hold what one of them holds. -/
theorem flatMap {α : Type} {source : α → List Nat} {test : α → Nat → Bool} {parts : List α}
    (areContents : ∀ part ∈ parts, IsContents (source part) (test part)) :
    IsContents (parts.flatMap source) fun point => parts.any (test · point) := by
  induction parts with
  | nil => exact nil
  | cons part rest ih =>
      exact (areContents part List.mem_cons_self).append
        (ih fun other mem => areContents other (List.mem_cons_of_mem _ mem))

/-- The contents between brackets, which a caret in front negates. -/
theorem isSet (isContents : IsContents source test) (isNegated : Bool) :
    IsSet (0x5B :: ((if isNegated then [0x5E] else []) ++ (source ++ [0x5D])))
      fun point => test point != isNegated := by
  obtain ⟨items, areRead, holds⟩ := isContents.isRead
  have areClosed : readClassItems (source ++ [0x5D]) = some (items, []) := by
    rw [areRead [0x5D] rfl, readClassItems_eq]
    exact congrArg (fun items => some (items, [])) (List.append_nil items)
  have isClass : readClass ((if isNegated then [0x5E] else []) ++ (source ++ [0x5D])) =
      some (⟨isNegated, items⟩, []) := by
    cases isNegated with
    | true =>
        change (readClassItems (source ++ [0x5D])).map _ = _
        rw [areClosed]
        rfl
    | false =>
        have notCaret := @startsWith_eq _ _ isContents '^' (by simp) [0x5D] rfl
        change readClass (source ++ [0x5D]) = _
        rw [readClass, notCaret]
        dsimp only
        rw [if_neg Bool.false_ne_true, areClosed]
        rfl
  refine @isSet_of_tokens _ ⟨isNegated, items⟩ _ ?_ fun point => ?_
  · have isToken : readToken 0x5B ((if isNegated then [0x5E] else []) ++ (source ++ [0x5D])) =
        some (.item (.set ⟨isNegated, items⟩), []) := by
      change (readClass _).map _ = _
      rw [isClass]
      rfl
    rw [tokens_cons, isToken, Option.bind_some]
    dsimp only
    rw [tokens]
    rfl
  · change (CharClass.holds false ⟨isNegated, items⟩ point != isNegated) = _
    rw [CharClass.holds, holds]

end IsContents

end RegexMatching.Backtrack
