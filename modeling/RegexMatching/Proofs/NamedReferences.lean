import RegexMatching.Proofs.AnchoredSearches
import RegexMatching.Proofs.DirectSearch
import RegexMatching.Proofs.GroupTables

/-!
# Names in templates

A match has the same span for the name of a group as for its number, and templates refer to groups
by name.  What patterns take for a name is a name in a template too, unless a digit comes first:
templates take such a name for a number.
-/

namespace RegexMatching

/-! ## Numbers of groups -/

namespace Number

/-- A whole number that fits into a significand is scaled up to fill it. -/
theorem exists_ofNat_eq_finite {value : Nat} (notZero : value ≠ 0) (isExact : value < 2 ^ 53) :
    ∃ shift : Nat, Number.ofNat value = .finite false (value * power 2 shift) (-shift) := by
  have log_lt : value.log2 < 53 := (Nat.log2_lt notZero).mpr isExact
  obtain ⟨shift, isShift⟩ : ∃ shift, value.log2 + shift = 52 := ⟨52 - value.log2, by omega⟩
  have large : power 2 53 ≤ value * power 2 (shift + 1) :=
    calc
      power 2 53 = 2 ^ value.log2 * 2 ^ (shift + 1) := by
        rw [← Nat.pow_add, ← Nat.add_assoc, isShift]
        rfl
      _ ≤ _ := Nat.mul_le_mul_right _ (Nat.log2_self_le notZero)
  have small : value * power 2 shift < power 2 53 :=
    calc
      value * power 2 shift < 2 ^ (value.log2 + 1) * 2 ^ shift :=
        Nat.mul_lt_mul_of_pos_right Nat.lt_log2_self (Nat.two_pow_pos _)
      _ = _ := by
        rw [← Nat.pow_add, Nat.add_right_comm, isShift]
        rfl
  have guess_eq : max ((value.log2 : Int) - (Nat.log2 1 : Nat) - 53) (-1074) =
      -((shift + 1 : Nat) : Int) := by
    have noLog : Nat.log2 1 = 0 := rfl
    omega
  have next : -((shift + 1 : Nat) : Int) + 1 = -(shift : Int) := by omega
  have scale (amount : Nat) : (- -(amount : Int)).toNat = amount := by omega
  have unscaled (amount : Nat) : (-(amount : Int)).toNat = 0 := by omega
  have unit : power 2 0 = 1 := rfl
  have rounded (numerator : Nat) : roundHalfEven numerator 1 = numerator := by
    rw [roundHalfEven, Nat.mod_one, Nat.div_one]
    rfl
  have notInfinite : (decide ((971 : Int) < -(shift : Int)) || decide (-(shift : Int) = 971) &&
      decide (power 2 53 ≤ value * power 2 shift)) = false := by
    rw [decide_eq_false (by omega), decide_eq_false (by omega : ¬-(shift : Int) = 971)]
    rfl
  refine ⟨shift, ?_⟩
  rw [ofNat, ofRatio, if_neg notZero]
  simp only [guess_eq, scale, unscaled, unit, Nat.mul_one, Nat.div_one, large, if_true, next,
    rounded, notInfinite, Nat.ne_of_lt small, if_false, Bool.false_eq_true]

/-- A whole number that fits into a significand is held exactly. -/
theorem toIndex?_ofNat {value bound : Nat} (inside : value ≤ bound) (isExact : value < 2 ^ 53) :
    (Number.ofNat value).toIndex? bound = some value := by
  have isInt : (Number.ofNat value).toInt? = some (value : Int) := by
    by_cases isZero : value = 0
    · subst isZero
      rfl
    · obtain ⟨shift, isFinite⟩ := exists_ofNat_eq_finite isZero isExact
      have scale : (- -(shift : Int)).toNat = shift := by omega
      have unscaled : (-(shift : Int)).toNat = 0 := by omega
      have unit : power 2 0 = 1 := rfl
      have isValue : value * power 2 shift / power 2 shift = value :=
        Nat.mul_div_cancel _ (Nat.two_pow_pos shift)
      rw [isFinite, toInt?, isInteger, scale, Nat.mul_mod_left, truncate?, scale, unscaled, unit,
        Nat.mul_one, isValue]
      rfl
  rw [toIndex?, isInt]
  exact if_pos inside

end Number

/-! ## References by name -/

namespace Template

variable {captures : Captures}

/-- A reference with braces. -/
def braced (inner : Text) : Text :=
  Text.ofString "$\x7b" ++ inner ++ Text.ofString "\x7d"

/-- A reference with braces is expanded to the group that stands between them. -/
theorem expand_braced {inner : Text} (areUnits : ∀ unit ∈ inner, Text.isNameUnit unit = true)
    {group : Nat} (isGroup : bracedGroup captures inner = .ok group) {value : Option Text}
    (isValue : captures.group group = .ok value) :
    expand captures (braced inner) = ⟨value.getD [], none⟩ := by
  have notInside : ∀ unit ∈ inner, unit.toChar ≠ '}' := by
    intro unit mem isClosing
    have isUnit := areUnits unit mem
    rw [CodeUnit.eq_ofChar_of_toChar (by decide) isClosing] at isUnit
    contradiction
  have isRead := @reference_of_braces captures (.ofChar '{') (.ofChar '}') inner [] (by decide)
    (by decide) notInside
  rw [isGroup] at isRead
  have isText : groupText captures group = .ok (value.getD []) := by
    rw [groupText, isValue]
    rfl
  have written := expand_reference (show (CodeUnit.ofChar '$').toChar = '$' by decide) isRead isText
  rw [expand_nil] at written
  exact written.trans (congrArg (Expansion.mk · none) (List.append_nil _))

end Template

namespace Snapshot

/-- A group is the same by its name and by its number. -/
theorem span_name {snapshot : Snapshot} {name : Text} {group : Nat}
    (isKnown : snapshot.names.group? name = some group) (inside : group ≤ snapshot.groupCount)
    (isExact : group < 2 ^ 53) :
    snapshot.span (.name name) = snapshot.span (.number (.ofNat group)) := by
  have byNumber := Number.toIndex?_ofNat inside isExact
  unfold span
  simp only [GroupRef.index, isKnown, byNumber]

/-- A match has a span for every group, or none where it was made without one. -/
theorem exists_span {snapshot : Snapshot} (hasMatch : snapshot.hasMatch = true) {group : Nat}
    (inside : group ≤ snapshot.groupCount) (isExact : group < 2 ^ 53) :
    ∃ span?, snapshot.span (.number (.ofNat group)) = .ok span? := by
  obtain ⟨spans, isSpans⟩ := Option.isSome_iff_exists.mp hasMatch
  refine ⟨spans[group]?, ?_⟩
  rw [span, isSpans]
  simp only [GroupRef.index, Number.toIndex?_ofNat inside isExact]
  rfl

end Snapshot

namespace Matcher

end Matcher

/-! ## A name that begins with a digit -/

namespace Linear

/-- The group `1a` around a letter. -/
def Regex.digitNamed : Regex where
  expression := .capture 1 (.set ⟨false, false, [.ofPoint 0x78]⟩)
  captureCount := 1
  names := [([0x31, 0x61], 1)]

theorem ofPoints?_digitNamed :
    Regex.ofPoints? (Text.ofString "(?P<1a>x)").points {} = some .digitNamed := by
  have areTokens : tokens (Text.ofString "(?P<1a>x)").points =
      some [.opening (.capture (some [0x31, 0x61])), .ofPoint 0x78, .closing] := by
    decide +kernel
  rw [Regex.ofPoints?, areTokens]
  rfl

/-- The search is followed thread by thread. -/
theorem search_digitNamed :
    Regex.digitNamed.search #[0x78] 0 = some [some (0, 1), some (0, 1)] := by
  have program_eq : Regex.digitNamed.program =
      ⟨#[.accept, .save 1 0, .save 3 1, .step ⟨false, false, [.ofPoint 0x78]⟩ 2, .save 2 3,
        .save 0 4], 5⟩ := rfl
  have isLetter : RuneClass.contains ⟨false, false, [.ofPoint 0x78]⟩ 0x78 = true := by
    decide +kernel
  have explored : (Regex.digitNamed.program.explore #[0x78] 26 {}
      [⟨5, 0, #[none, none, none, none]⟩]).1 = some #[some 0, some 1, some 0, some 1] := by
    rw [program_eq]
    simp [Program.explore, Program.advance, Program.pairNumber, isLetter]
  have found : Regex.digitNamed.find #[0x78] 0 = some [some (0, 1), some (0, 1)] := by
    change (Regex.digitNamed.program.searchFrom #[0x78] 4 2 0 {}).map _ = _
    rw [Program.searchFrom]
    split
    · next slots visited ran =>
        obtain rfl : slots = _ := Option.some.inj ((congrArg Prod.fst ran).symm.trans explored)
        rfl
    · next visited ran =>
        have isSome : none = some _ := (congrArg Prod.fst ran).symm.trans explored
        contradiction
  rw [Regex.search, found]
  change some (some (0, 1) :: Regex.digitNamed.groupSpans #[0x78] 0 1) = _
  have cut : Regex.textBehind #[0x78] 1 = #[0x78] := rfl
  rw [Regex.groupSpans, cut, found]
  rfl

end Linear

namespace Matcher

/-- What the plain code finds is what the first search of a new matcher comes to. -/
theorem exists_found_of_search {kind : EngineKind} {flags : Flags} {plain : kind.Code}
    {pattern : Pattern EngineState} {trace : Trace EngineState}
    (isCompiled : pattern.IsCompiled kind flags plain trace.engines)
    (isPlain : pattern.canonicalEquivalence = false) {text : Text}
    (noMark : text.head? ≠ some 0xFEFF) {spans : PointSpans}
    (searched : kind.backend.search plain (.ofBytes (Utf8.encode text)) 0 {} = .ok (some spans)) :
    ∃ matcher, (create pattern text {}).run trace = (.ok matcher, trace) ∧
      let found := (find.exec ⟨matcher, trace⟩).2.matcher
      found.pattern = pattern ∧ found.text = text ∧
        found.state = .found (spans.toUnits text.points (pattern.groupCount + 1)) none := by
  obtain ⟨matcher, created, isCreated⟩ :
      ∃ matcher created, (create pattern text {}).run trace = (.ok matcher, created) :=
    ⟨_, _, create_run_of_supported isCompiled.isOpen
      (fun isPartial => absurd isPartial Bool.false_ne_true) text trace⟩
  have hasGot := hasGotTo_of_create isCompiled.isOffered isCreated
  obtain ⟨-, rfl⟩ := create_eq_ok isCompiled.isOffered isCreated
  have answers := kind.answersBy (kind.code? created.engines)
  rw [← isCompiled.engine, ← hasGot.pattern_eq] at answers
  have isUsable : kind.code? created.engines = kind.code? created.engines := rfl
  obtain ⟨last, -, executed⟩ := Call.find.make_exec_eq hasGot.consistent answers isUsable
  have answered := hasGot.result_find isCompiled isPlain noMark (Nat.zero_le _)
    (Text.unitsBefore_zero _)
  rw [searched] at answered
  change find.exec ⟨matcher, created⟩ = _ at executed
  refine ⟨matcher, isCreated, ?_⟩
  rw [executed, answered]
  exact ⟨hasGot.pattern_eq, hasGot.text_eq, rfl⟩

end Matcher

end RegexMatching
