import RegexMatching.Proofs.AnchoredSearches
import RegexMatching.Proofs.Assertions

/-!
# Edges of lines

The anchors of a pattern are rendered as assertions that look around.  Here it is said where
a line starts and ends, and the sixteen renderings are read back and shown to hold there and
nowhere else, whatever is matched before or behind them.
-/

namespace RegexMatching

open Backtrack Unicode

/-! ## Where lines start and end -/

namespace Lowering

/-- The code points that end a line. -/
def terminatorPoints (newlineLf : Bool) : List Nat :=
  if newlineLf then [0xA] else [0xA, 0xD, 0x85, 0x2028, 0x2029]

/-- Whether a position lies inside a line terminator that is two code points long. -/
def CutsTerminator (newlineLf : Bool) (points : Array Nat) (position : Nat) : Prop :=
  newlineLf = false ∧ 0 < position ∧ points[position - 1]? = some 0xD ∧
    points[position]? = some 0xA

/-- Whether nothing follows a position but one line terminator at most. -/
def IsSoftEnd (newlineLf : Bool) (points : Array Nat) (position : Nat) : Prop :=
  let rest := points.toList.drop position
  (rest = [] ∨ (∃ point ∈ terminatorPoints newlineLf, rest = [point]) ∨
      (newlineLf = false ∧ rest = [0xD, 0xA])) ∧
    ¬ CutsTerminator newlineLf points position

/-- Whether an anchor holds at a position. -/
def Anchor.HoldsAt (anchor : Anchor) (multiline newlineLf : Bool) (edges : Edges)
    (points : Array Nat) (position : Nat) : Prop :=
  match anchor with
  | .lineStart =>
      (position = 0 ∧ edges.notBol = false) ∨
        (multiline = true ∧ 0 < position ∧ position < points.size ∧
          (∃ point ∈ terminatorPoints newlineLf, points[position - 1]? = some point) ∧
          ¬ CutsTerminator newlineLf points position)
  | .lineEnd =>
      (multiline = false ∧ edges.notEol = false ∧ IsSoftEnd newlineLf points position) ∨
        (multiline = true ∧
          ((∃ point ∈ terminatorPoints newlineLf, points[position]? = some point) ∨
            (position = points.size ∧ edges.notEol = false)) ∧
          ¬ CutsTerminator newlineLf points position)
  | .subjectEnd => IsSoftEnd newlineLf points position

instance (newlineLf : Bool) (points : Array Nat) (position : Nat) :
    Decidable (CutsTerminator newlineLf points position) :=
  inferInstanceAs (Decidable (_ ∧ _))

instance (newlineLf : Bool) (points : Array Nat) (position : Nat) :
    Decidable (IsSoftEnd newlineLf points position) :=
  inferInstanceAs (Decidable (_ ∧ _))

instance (anchor : Anchor) (multiline newlineLf : Bool) (edges : Edges) (points : Array Nat)
    (position : Nat) : Decidable (anchor.HoldsAt multiline newlineLf edges points position) :=
  match anchor with
  | .lineStart => inferInstanceAs (Decidable (_ ∨ _))
  | .lineEnd => inferInstanceAs (Decidable (_ ∨ _))
  | .subjectEnd => inferInstanceAs (Decidable (IsSoftEnd _ _ _))

end Lowering

/-! ## Line terminators without case -/

namespace Unicode

theorem toList_foldingRuns : foldingRuns.toList =
    (foldingLines.map String.toList).flatMap fun line =>
      (splitChars ' ' line).map fun entry => (readEntry entry).map readDistance := by
  rw [foldingRuns, readRuns, List.flatMap_map]

/-- No line terminator folds to another code point, and none folds to it. -/
theorem foldingRuns_avoid_terminators :
    foldingRuns.toList.all (fun run => (Lowering.terminatorPoints false).all fun point =>
      !run.contains point && !run.contains (point - run.value : Int).toNat) = true := by
  rw [toList_foldingRuns, foldingLines]
  repeat rw [List.map_cons]
  repeat rw [String.toList_ofList]
  decide +kernel

/-- A run that is found is in the table and holds the code point. -/
theorem mem_of_findRun? {α : Type} {runs : Array (Run α)} {point low high : Nat} {run : Run α}
    (found : findRun? runs point low high = some run) :
    run ∈ runs ∧ run.contains point = true := by
  fun_induction findRun? runs point low high with
  | case1 => contradiction
  | case2 low high _ middle run' _ _ ih => exact ih found
  | case3 low high _ middle run' _ _ _ ih => exact ih found
  | case4 low high _ middle run' atMiddle _ _ contained =>
      obtain rfl := Option.some.inj found
      exact ⟨Array.mem_of_getElem? atMiddle, contained⟩
  | case5 => contradiction
  | case6 => contradiction

theorem mem_of_lookup? {α : Type} {runs : Array (Run α)} {point : Nat} {value : α}
    (found : lookup? runs point = some value) :
    ∃ run ∈ runs, run.value = value ∧ run.contains point = true := by
  obtain ⟨run, isRun, isValue⟩ := Option.map_eq_some_iff.mp found
  exact ⟨run, (mem_of_findRun? isRun).1, isValue, (mem_of_findRun? isRun).2⟩

/-- A line terminator differs from no other code point in case only. -/
theorem mem_caseOrbit_iff {terminator point : Nat}
    (isTerminator : terminator ∈ Lowering.terminatorPoints false) :
    terminator ∈ caseOrbit point ↔ point = terminator := by
  have isPositive : 0 < terminator := by
    revert terminator
    decide
  have avoided : ∀ run ∈ foldingRuns, run.contains terminator = false ∧
      run.contains (terminator - run.value : Int).toNat = false := by
    intro run mem
    have avoids := List.all_eq_true.mp foldingRuns_avoid_terminators run (Array.mem_def.mp mem)
    simpa using List.all_eq_true.mp avoids terminator isTerminator
  have noSource : terminator ∉ foldingSources (fold point) := by
    intro mem
    obtain ⟨run, isRun, isSource⟩ := List.mem_filterMap.mp mem
    dsimp only at isSource
    split at isSource
    · next contained =>
        obtain rfl := Option.some.inj isSource
        rw [(avoided run (Array.mem_def.mpr isRun)).1] at contained
        exact Bool.false_ne_true contained
    · contradiction
  rw [caseOrbit, List.mem_cons, or_iff_left noSource, fold]
  cases found : lookup? foldingRuns point with
  | none => exact eq_comm
  | some distance =>
      obtain ⟨run, isRun, rfl, contained⟩ := mem_of_lookup? found
      have avoids := avoided run isRun
      constructor
      · intro folds
        rw [movedBy] at folds
        have isPoint : point = (terminator - run.value : Int).toNat := by omega
        rw [isPoint, avoids.2] at contained
        exact absurd contained Bool.false_ne_true
      · rintro rfl
        rw [avoids.1] at contained
        exact absurd contained Bool.false_ne_true

end Unicode

namespace Backtrack

/-- A class of single code points. -/
def CharClass.ofPoints (points : List Nat) : CharClass :=
  ⟨false, points.map fun point => .range point point⟩

/-- Case does not matter to a class of line terminators. -/
theorem CharClass.contains_ofPoints_iff {points : List Nat}
    (areTerminators : points ⊆ Lowering.terminatorPoints false) (caseless : Bool) (point : Nat) :
    (ofPoints points).contains caseless point = true ↔ point ∈ points := by
  have holds_iff : ∀ point, (ofPoints points).holds caseless point = true ↔ point ∈ points := by
    intro point
    simp only [holds, ofPoints, List.any_map, List.any_eq_true, Function.comp_apply,
      ClassItem.contains, Bool.and_eq_true, decide_eq_true_eq]
    constructor
    · rintro ⟨single, mem, le, ge⟩
      rwa [Nat.le_antisymm ge le]
    · intro mem
      exact ⟨point, mem, Nat.le_refl _, Nat.le_refl _⟩
  rw [contains, show (ofPoints points).isNegated = false from rfl, Bool.bne_false]
  cases caseless with
  | false => exact holds_iff point
  | true =>
      rw [if_pos rfl, List.any_eq_true]
      constructor
      · rintro ⟨other, inOrbit, isHeld⟩
        have mem := (holds_iff other).mp isHeld
        rwa [(mem_caseOrbit_iff (areTerminators mem)).mp inOrbit]
      · intro mem
        exact ⟨point, (mem_caseOrbit_iff (areTerminators mem)).mpr rfl, (holds_iff point).mpr mem⟩

/-! ## The renderings read back -/

/-- Nothing stands in front. -/
def Node.atStart : Node :=
  .look false true (.set everyPoint)

/-- Nothing follows. -/
def Node.atEnd : Node :=
  .look true true (.set everyPoint)

/-- A node that does not hold inside a line terminator. -/
def Node.outsideTerminator (newlineLf : Bool) (node : Node) : Node :=
  if newlineLf then node
  else
    .sequence node (.look true true
      (.sequence (.look false false (.set (.ofPoint 0xD))) (.set (.ofPoint 0xA))))

/-- What `softEnd` is read as. -/
def Node.softEnd (newlineLf : Bool) : Node :=
  let terminator : Node :=
    if newlineLf then .set (.ofPoint 0xA)
    else
      .either (.sequence (.set (.ofPoint 0xD)) (.set (.ofPoint 0xA)))
        (.set (.ofPoints (Lowering.terminatorPoints false)))
  outsideTerminator newlineLf
    (.look true false (.sequence (.repetition terminator 0 (some 1) true 0 0) atEnd))

/-- What `afterTerminator` is read as. -/
def Node.afterTerminator (newlineLf : Bool) : Node :=
  .sequence
    (if newlineLf then .look false false (.set (.ofPoint 0xA))
    else
      .either (.look false false (.set (.ofPoints [0xA, 0x85, 0x2028, 0x2029])))
        (.sequence (.look false false (.set (.ofPoint 0xD)))
          (.look true true (.set (.ofPoint 0xA)))))
    (.look true false (.set everyPoint))

/-- What an anchor is read as. -/
def Node.ofAnchor (anchor : Lowering.Anchor) (multiline newlineLf : Bool)
    (edges : Lowering.Edges) : Node :=
  match anchor with
  | .subjectEnd => softEnd newlineLf
  | .lineStart =>
      if multiline then
        if edges.notBol then afterTerminator newlineLf
        else .either atStart (afterTerminator newlineLf)
      else
        if edges.notBol then .look true true .empty else atStart
  | .lineEnd =>
      if multiline then
        let terminator : Node := .set (.ofPoints (Lowering.terminatorPoints newlineLf))
        outsideTerminator newlineLf
          (.look true false (if edges.notEol then terminator else .either terminator atEnd))
      else
        if edges.notEol then .look true true .empty else softEnd newlineLf

/-- The source of an anchor is read as an expression without captures. -/
theorem ofPoints?_render (anchor : Lowering.Anchor) (multiline newlineLf caseless : Bool)
    (edges : Lowering.Edges) :
    Regex.ofPoints? (anchor.render multiline newlineLf edges).points caseless =
      some ⟨.ofAnchor anchor multiline newlineLf edges, 0, caseless⟩ := by
  have isRead : ∀ caseless : Bool, ∀ multiline newlineLf notBol notEol : Bool,
      Regex.ofPoints? (anchor.render multiline newlineLf ⟨notBol, notEol⟩).points caseless =
        some ⟨.ofAnchor anchor multiline newlineLf ⟨notBol, notEol⟩, 0, caseless⟩ := by
    cases anchor <;> decide +kernel
  exact isRead caseless multiline newlineLf edges.notBol edges.notEol

/-! ## Where the renderings hold -/

namespace Node

variable (subject : Subject)

/-- One of the line terminators of a list, from left to right. -/
theorem leadsTo_terminator (points : List Nat)
    (areTerminators : points ⊆ Lowering.terminatorPoints false) :
    (set (.ofPoints points)).LeadsTo subject true fun position =>
      if ∃ point ∈ points, subject.points[position]? = some point then [position + 1]
      else [] := by
  refine (leadsTo_set _).congr fun position => ?_
  rw [Subject.stepOver?, if_pos rfl]
  cases subject.points[position]? with
  | none => simp
  | some point =>
      have contains_iff := CharClass.contains_ofPoints_iff areTerminators subject.caseless point
      by_cases mem : point ∈ points
      · simp [contains_iff.mpr mem, mem]
      · simp [mt contains_iff.mp mem, mem]

/-- One of the line terminators of a list, from right to left. -/
theorem leadsTo_terminator_behind (points : List Nat)
    (areTerminators : points ⊆ Lowering.terminatorPoints false) :
    (set (.ofPoints points)).LeadsTo subject false fun position =>
      if 0 < position ∧ ∃ point ∈ points, subject.points[position - 1]? = some point then
        [position - 1]
      else [] := by
  refine (leadsTo_set _).congr fun position => ?_
  rw [Subject.stepOver?, if_neg Bool.false_ne_true]
  by_cases isStart : position = 0
  · simp [isStart]
  rw [if_neg isStart]
  cases subject.points[position - 1]? with
  | none => simp
  | some point =>
      have contains_iff := CharClass.contains_ofPoints_iff areTerminators subject.caseless point
      by_cases mem : point ∈ points
      · simp [contains_iff.mpr mem, mem, Nat.pos_of_ne_zero isStart]
      · simp [mt contains_iff.mp mem, mem]

theorem asserts_atEnd : atEnd.Asserts subject fun position => subject.points.size ≤ position := by
  refine (leadsTo_set everyPoint).lookInVain.congr fun position => ?_
  rw [Subject.stepOver?, if_pos rfl, ← Array.getElem?_eq_none_iff]
  cases subject.points[position]? with
  | none => simp
  | some point => simp [contains_everyPoint]

theorem asserts_notAtEnd :
    (look true false (.set everyPoint)).Asserts subject fun position =>
      position < subject.points.size := by
  refine (leadsTo_set everyPoint).look.congr fun position => ?_
  rw [Subject.stepOver?, if_pos rfl, ← Nat.not_le, ← Array.getElem?_eq_none_iff]
  cases subject.points[position]? with
  | none => simp
  | some point => simp [contains_everyPoint]

theorem asserts_atStart :
    atStart.Asserts subject fun position => position = 0 ∨ subject.points.size < position := by
  refine (leadsTo_set everyPoint).lookInVain.congr fun position => ?_
  rw [Subject.stepOver?, if_neg Bool.false_ne_true]
  by_cases isStart : position = 0
  · simp [isStart]
  · have outside : subject.points.size < position ↔ subject.points[position - 1]? = none := by
      rw [Array.getElem?_eq_none_iff]
      omega
    rw [if_neg isStart, outside]
    cases subject.points[position - 1]? with
    | none => simp
    | some point => simp [contains_everyPoint, isStart]

theorem asserts_never : (look true true .empty).Asserts subject fun _ => False :=
  leadsTo_empty.lookInVain.congr fun position => by simp

/-- A line terminator of a list stands in front. -/
theorem asserts_behindTerminator (points : List Nat)
    (areTerminators : points ⊆ Lowering.terminatorPoints false) :
    (look false false (.set (.ofPoints points))).Asserts subject fun position =>
      0 < position ∧ ∃ point ∈ points, subject.points[position - 1]? = some point :=
  (leadsTo_terminator_behind subject points areTerminators).look.congr fun position => by
    split <;> simp_all

variable {subject}

theorem Asserts.outsideTerminator (newlineLf : Bool) {node : Node} {holds : Nat → Prop}
    (asserts : node.Asserts subject holds) :
    (outsideTerminator newlineLf node).Asserts subject fun position =>
      holds position ∧ ¬ Lowering.CutsTerminator newlineLf subject.points position := by
  cases newlineLf with
  | true => exact asserts.congr fun position => by simp [Lowering.CutsTerminator]
  | false =>
      have between := (asserts_behindTerminator subject [0xD] (by decide)).guard
        (leadsTo_terminator subject [0xA] (by decide))
      refine asserts.sequence (between.lookInVain.congr fun position => ?_)
      simp [Lowering.CutsTerminator]

/-- A body that may be passed by, in front of the end. -/
theorem asserts_optional_atEnd {body : Node} {targets : Nat → List Nat}
    (leads : body.LeadsTo subject true targets) :
    (look true false (.sequence (.repetition body 0 (some 1) true 0 0) atEnd)).Asserts subject
      fun position => subject.points.size ≤ position ∨
        ∃ target ∈ targets position, target ≠ position ∧ subject.points.size ≤ target := by
  refine ((leads.optional 0).sequence (asserts_atEnd subject).leadsTo).look.congr fun position => ?_
  simp only [ne_eq, List.flatMap_eq_nil_iff, List.mem_append, List.mem_filter,
    List.mem_singleton, bne_iff_ne]
  constructor
  · intro leads
    obtain ⟨target, isTarget, notNil⟩ : ∃ target,
        (target ∈ targets position ∧ target ≠ position ∨ target = position) ∧
          ¬ (if subject.points.size ≤ target then [target] else []) = [] := by
      simpa only [not_forall, exists_prop] using leads
    have inside : subject.points.size ≤ target := by
      by_contra outside
      exact notNil (if_neg outside)
    rcases isTarget with ⟨mem, moved⟩ | rfl
    · exact .inr ⟨target, mem, moved, inside⟩
    · exact .inl inside
  · rintro (inside | ⟨target, mem, moved, inside⟩) leadsNowhere
    · have isNil := leadsNowhere position (.inr rfl)
      rw [if_pos inside] at isNil
      contradiction
    · have isNil := leadsNowhere target (.inl ⟨mem, moved⟩)
      rw [if_pos inside] at isNil
      contradiction

/-- What follows a position starts with a code point. -/
theorem drop_eq_cons_iff {points : Array Nat} {position point : Nat} {rest : List Nat} :
    points.toList.drop position = point :: rest ↔
      points[position]? = some point ∧ points.toList.drop (position + 1) = rest := by
  rw [← Array.getElem?_toList]
  constructor
  · intro starts
    have first : (points.toList.drop position)[0]? = some point := by rw [starts]; rfl
    rw [List.getElem?_drop, Nat.add_zero] at first
    have others : (points.toList.drop position).drop 1 = rest := by rw [starts]; rfl
    rw [List.drop_drop] at others
    exact ⟨first, others⟩
  · rintro ⟨first, rfl⟩
    obtain ⟨inside, isFirst⟩ := List.getElem?_eq_some_iff.mp first
    rw [List.drop_eq_getElem_cons inside, isFirst]

variable (subject)

theorem asserts_softEnd (newlineLf : Bool) :
    (softEnd newlineLf).Asserts subject (Lowering.IsSoftEnd newlineLf subject.points) := by
  rw [softEnd]
  have drop_eq_nil : ∀ position, subject.points.toList.drop position = [] ↔
      subject.points.size ≤ position := fun position => List.drop_eq_nil_iff
  have short := leadsTo_terminator subject (Lowering.terminatorPoints false)
    (List.Subset.refl _)
  have lineFeed := leadsTo_terminator subject [0xA] (by decide)
  have return_ := leadsTo_terminator subject [0xD] (by decide)
  cases newlineLf with
  | true =>
      refine ((asserts_optional_atEnd lineFeed).outsideTerminator true).congr fun position => ?_
      simp [Lowering.IsSoftEnd, drop_eq_cons_iff, drop_eq_nil, Lowering.terminatorPoints]
  | false =>
      have long := (return_.sequence lineFeed).either short
      refine ((asserts_optional_atEnd long).outsideTerminator false).congr fun position => ?_
      simp only [Lowering.IsSoftEnd, drop_eq_cons_iff, drop_eq_nil, List.mem_append,
        List.mem_flatMap, List.mem_ite_nil_right, List.mem_singleton, exists_eq_left, true_and]
      refine and_congr_left fun _ => or_congr_right ⟨?_, ?_⟩
      · rintro ⟨target, ⟨_, ⟨isReturn, rfl⟩, isLineFeed, rfl⟩ | ⟨⟨point, mem, isPoint⟩, rfl⟩, -,
          atEnd⟩
        · exact .inr ⟨isReturn, isLineFeed, atEnd⟩
        · exact .inl ⟨point, mem, isPoint, atEnd⟩
      · rintro (⟨point, mem, isPoint, atEnd⟩ | ⟨isReturn, isLineFeed, atEnd⟩)
        · exact ⟨_, .inr ⟨⟨point, mem, isPoint⟩, rfl⟩, by omega, atEnd⟩
        · exact ⟨_, .inl ⟨_, ⟨isReturn, rfl⟩, isLineFeed, rfl⟩, by omega, atEnd⟩

theorem asserts_afterTerminator (newlineLf : Bool) :
    (afterTerminator newlineLf).Asserts subject fun position =>
      0 < position ∧ position < subject.points.size ∧
        (∃ point ∈ Lowering.terminatorPoints newlineLf,
          subject.points[position - 1]? = some point) ∧
        ¬ Lowering.CutsTerminator newlineLf subject.points position := by
  rw [afterTerminator]
  cases newlineLf with
  | true =>
      have behind := asserts_behindTerminator subject [0xA] (by decide)
      refine (behind.sequence (asserts_notAtEnd subject)).congr fun position => ?_
      simp [Lowering.terminatorPoints, Lowering.CutsTerminator]
      tauto
  | false =>
      have short := asserts_behindTerminator subject [0xA, 0x85, 0x2028, 0x2029] (by decide)
      have isReturn := asserts_behindTerminator subject [0xD] (by decide)
      have lineFeed := leadsTo_terminator subject [0xA] (by decide)
      refine ((short.either (isReturn.sequence lineFeed.lookInVain)).sequence
        (asserts_notAtEnd subject)).congr fun position => ?_
      simp [Lowering.terminatorPoints, Lowering.CutsTerminator]
      grind

/-- Inside the subject, what an anchor is read as holds where the anchor holds. -/
theorem exists_asserts_ofAnchor (anchor : Lowering.Anchor) (multiline newlineLf : Bool)
    (edges : Lowering.Edges) :
    ∃ holds, (ofAnchor anchor multiline newlineLf edges).Asserts subject holds ∧
      ∀ position ≤ subject.points.size, holds position ↔
        anchor.HoldsAt multiline newlineLf edges subject.points position := by
  cases anchor with
  | subjectEnd => exact ⟨_, asserts_softEnd subject newlineLf, fun _ _ => Iff.rfl⟩
  | lineStart =>
      rw [ofAnchor]
      have afterTerminator := asserts_afterTerminator subject newlineLf
      cases multiline with
      | true =>
          rcases edges with ⟨notBol | notBol, notEol⟩
          · refine ⟨_, (asserts_atStart subject).either afterTerminator, fun position inside => ?_⟩
            simp [Lowering.Anchor.HoldsAt, Nat.not_lt.mpr inside]
          · refine ⟨_, afterTerminator, fun position inside => ?_⟩
            simp [Lowering.Anchor.HoldsAt]
      | false =>
          rcases edges with ⟨notBol | notBol, notEol⟩
          · refine ⟨_, asserts_atStart subject, fun position inside => ?_⟩
            simp [Lowering.Anchor.HoldsAt, Nat.not_lt.mpr inside]
          · refine ⟨_, asserts_never subject, fun position inside => ?_⟩
            simp [Lowering.Anchor.HoldsAt]
  | lineEnd =>
      rw [ofAnchor]
      cases multiline with
      | true =>
          have areTerminators : Lowering.terminatorPoints newlineLf ⊆
              Lowering.terminatorPoints false := by
            revert newlineLf
            decide
          have terminator := leadsTo_terminator subject _ areTerminators
          rcases edges with ⟨notBol, notEol | notEol⟩
          · have either := (terminator.either (asserts_atEnd subject).leadsTo).look
            refine ⟨_, either.outsideTerminator newlineLf, fun position inside => ?_⟩
            have atEnd : subject.points.size ≤ position ↔ position = subject.points.size := by
              omega
            by_cases isTerminator : ∃ point ∈ Lowering.terminatorPoints newlineLf,
                subject.points[position]? = some point
            · simp [Lowering.Anchor.HoldsAt, isTerminator]
            · simp [Lowering.Anchor.HoldsAt, isTerminator, atEnd]
          · refine ⟨_, terminator.look.outsideTerminator newlineLf, fun position inside => ?_⟩
            simp [Lowering.Anchor.HoldsAt]
      | false =>
          rcases edges with ⟨notBol, notEol | notEol⟩
          · refine ⟨_, asserts_softEnd subject newlineLf, fun position inside => ?_⟩
            simp [Lowering.Anchor.HoldsAt]
          · refine ⟨_, asserts_never subject, fun position inside => ?_⟩
            simp [Lowering.Anchor.HoldsAt]

end Node

/-- The source of an anchor is an expression of its own, without groups, that matches nothing
but the positions where the anchor holds.  In front of anything and behind anything it goes
on from there and from nowhere else. -/
theorem render_holds (anchor : Lowering.Anchor) (multiline newlineLf caseless : Bool)
    (edges : Lowering.Edges) :
    ∃ regex : Regex,
      Regex.ofPoints? (anchor.render multiline newlineLf edges).points caseless = some regex ∧
      regex.captureCount = 0 ∧
      ∀ (points : Array Nat) (position : Nat), position ≤ points.size →
        regex.matchAt points position =
          (if anchor.HoldsAt multiline newlineLf edges points position then
            some [some (position, position)] else none) ∧
        ∀ (isForward : Bool) (captures : Array (Option (Nat × Nat))) (next : Continuation),
          regex.node.run ⟨points, caseless⟩ isForward ⟨position, captures⟩ next =
            if anchor.HoldsAt multiline newlineLf edges points position then
              next ⟨position, captures⟩ else none := by
  refine ⟨_, ofPoints?_render anchor multiline newlineLf caseless edges, rfl, ?_⟩
  intro points position inside
  obtain ⟨holds, asserts, holds_iff⟩ := Node.exists_asserts_ofAnchor ⟨points, caseless⟩ anchor
    multiline newlineLf edges
  have ran : ∀ (isForward : Bool) (captures : Array (Option (Nat × Nat))) (next : Continuation),
      (Node.ofAnchor anchor multiline newlineLf edges).run ⟨points, caseless⟩ isForward
          ⟨position, captures⟩ next =
        if anchor.HoldsAt multiline newlineLf edges points position then
          next ⟨position, captures⟩ else none := by
    intro isForward captures next
    have same := holds_iff position inside
    split
    · next isHeld => exact asserts.run_of_holds (same.mpr isHeld) isForward next
    · next fails => exact asserts.run_of_not_holds (mt same.mp fails) isForward next
  refine ⟨?_, ran⟩
  rw [Regex.matchAt]
  dsimp only
  rw [ran]
  split <;> rfl

theorem render_holds_around_crlf :
    ∃ regex : Regex,
      Regex.ofPoints? (Lowering.Anchor.lineEnd.render true false {}).points false =
        some regex ∧
      1 ≤ #[0x61, 0xD, 0xA].size ∧
      regex.matchAt #[0x61, 0xD, 0xA] 1 = some [some (1, 1)] ∧
      regex.matchAt #[0x61, 0xD, 0xA] 2 = none := by
  obtain ⟨regex, isRead, -, holds⟩ := render_holds .lineEnd true false false {}
  refine ⟨regex, isRead, by decide, ?_, ?_⟩
  · exact (holds #[0x61, 0xD, 0xA] 1 (by decide)).1.trans (if_pos (by decide))
  · exact (holds #[0x61, 0xD, 0xA] 2 (by decide)).1.trans (if_neg (by decide))

end Backtrack

end RegexMatching
