import RegexMatching.Proofs.LineEdges

/-!
# Code points that start anew

Canonical ordering moves a mark over marks only.  It is read off the tables that every code
point of a combining class is a mark, and that the decomposition of what is no mark starts
with a code point of no class, so that no mark is moved across it.
-/

namespace RegexMatching.Unicode

/-! ## Reading in one pass -/

theorem splitChars_ne_nil (separator : Char) (chars : List Char) :
    splitChars separator chars ≠ [] := by
  cases chars with
  | nil => exact List.cons_ne_nil _ _
  | cons char rest =>
      rw [splitChars]
      split
      · exact List.cons_ne_nil _ _
      · split <;> exact List.cons_ne_nil _ _

/-- A character more in front opens a part if it is the separator, and joins the first part
otherwise. -/
theorem splitChars_cons (separator char : Char) (rest : List Char) :
    splitChars separator (char :: rest) =
      if char = separator then [] :: splitChars separator rest
      else (char :: (splitChars separator rest).headD []) :: (splitChars separator rest).tail := by
  rw [splitChars]
  cases parts : splitChars separator rest with
  | nil => exact absurd parts (splitChars_ne_nil separator rest)
  | cons part others => rfl

theorem headD_splitChars_cons (separator char : Char) (rest : List Char) :
    (splitChars separator (char :: rest)).headD [] =
      if char = separator then [] else char :: (splitChars separator rest).headD [] := by
  rw [splitChars_cons]
  split <;> rfl

theorem getElem?_splitChars_cons (separator char : Char) (rest : List Char) :
    (splitChars separator (char :: rest))[1]? =
      if char = separator then some ((splitChars separator rest).headD [])
      else (splitChars separator rest)[1]? := by
  rw [splitChars_cons]
  cases parts : splitChars separator rest with
  | nil => exact absurd parts (splitChars_ne_nil separator rest)
  | cons part others => split <;> rfl

/-- An entry as far as it has been read, from its end on: what is left of every kind of part
before its separator, and the part behind it. -/
structure EntryScan where
  half : List Char
  value : Option (List Char)
  place : List Char
  step : Option (List Char)
  first : List Char
  last : Option (List Char)

namespace EntryScan

/-- Nothing has been read. -/
def empty : EntryScan :=
  ⟨[], none, [], none, [], none⟩

/-- Read a character more. -/
def push (scan : EntryScan) (char : Char) : EntryScan :=
  if char = ':' then ⟨[], some scan.half, [], none, [], none⟩
  else if char = '/' then ⟨char :: scan.half, scan.value, [], some scan.place, [], none⟩
  else if char = '-' then
    ⟨char :: scan.half, scan.value, char :: scan.place, scan.step, [], some scan.first⟩
  else
    ⟨char :: scan.half, scan.value, char :: scan.place, scan.step, char :: scan.first, scan.last⟩

/-- The value of hexadecimal digits, in operations on numbers that a check evaluates at once. -/
def number (digits : List Char) : Nat :=
  digits.foldl (fun value digit => (value.mul 16).add (hexDigit digit)) 0

/-- The entry that has been read. -/
def run (scan : EntryScan) : Run (List Char) where
  first := number scan.first
  last := (scan.last.map number).getD (number scan.first)
  step := (scan.step.map number).getD 1
  value := scan.value.getD []

/-- What reading an entry by its separators comes to. -/
def ofSplit (entry : List Char) : EntryScan :=
  let halves := splitChars ':' entry
  let place := splitChars '/' (halves.headD [])
  let range := splitChars '-' (place.headD [])
  ⟨halves.headD [], halves[1]?, place.headD [], place[1]?, range.headD [], range[1]?⟩

theorem push_ofSplit (entry : List Char) (char : Char) :
    (ofSplit entry).push char = ofSplit (char :: entry) := by
  unfold push ofSplit
  simp only [headD_splitChars_cons, getElem?_splitChars_cons]
  by_cases isColon : char = ':'
  · simp only [if_pos isColon]
    rfl
  · by_cases isSlash : char = '/'
    · simp only [if_neg isColon, if_pos isSlash, headD_splitChars_cons,
        getElem?_splitChars_cons]
      rfl
    · simp only [if_neg isColon, if_neg isSlash, headD_splitChars_cons,
        getElem?_splitChars_cons]
      split <;> rfl

end EntryScan

/-- Read a character more of a line: a blank closes an entry. -/
def pushLine (char : Char) (scanned : EntryScan × List (Run (List Char))) :
    EntryScan × List (Run (List Char)) :=
  if char = ' ' then (.empty, scanned.1.run :: scanned.2) else (scanned.1.push char, scanned.2)

/-- Read a line from its end on. -/
def scanLine (line : List Char) : List (Run (List Char)) :=
  let scanned := line.foldr pushLine (.empty, [])
  scanned.1.run :: scanned.2

theorem foldr_pushLine (line : List Char) :
    line.foldr pushLine (.empty, []) =
      (.ofSplit ((splitChars ' ' line).headD []), (splitChars ' ' line).tail.map readEntry) := by
  induction line with
  | nil => rfl
  | cons char rest ih =>
      rw [List.foldr_cons, ih, pushLine, splitChars_cons]
      cases parts : splitChars ' ' rest with
      | nil => exact absurd parts (splitChars_ne_nil ' ' rest)
      | cons part others =>
          split
          · rfl
          · exact congrArg (·, others.map readEntry) (EntryScan.push_ofSplit part char)

theorem scanLine_eq (line : List Char) : scanLine line = (splitChars ' ' line).map readEntry := by
  rw [scanLine, foldr_pushLine]
  cases parts : splitChars ' ' line with
  | nil => exact absurd parts (splitChars_ne_nil ' ' line)
  | cons part others => rfl

/-! ## Tables by their characters -/

/-- Lines of a table and the characters they are spelled with. -/
inductive Spells : List String → List (List Char) → Prop
  | nil : Spells [] []
  | cons {chars : List Char} {lines : List String} {spelled : List (List Char)} :
      Spells lines spelled → Spells (String.ofList chars :: lines) (chars :: spelled)

/-- The runs of a table whose lines are given by their characters. -/
def spelledRuns {α : Type} (readValue : List Char → α) (spelled : List (List Char)) :
    List (Run α) :=
  spelled.flatMap fun line => (scanLine line).map fun run => run.map readValue

theorem Spells.map_toList {lines : List String} {spelled : List (List Char)}
    (spells : Spells lines spelled) : lines.map String.toList = spelled := by
  induction spells with
  | nil => rfl
  | cons _ ih => rw [List.map_cons, String.toList_ofList, ih]

theorem Spells.toList_readRuns {α : Type} (readValue : List Char → α) {lines : List String}
    {spelled : List (List Char)} (spells : Spells lines spelled) :
    (readRuns readValue lines).toList = spelledRuns readValue spelled := by
  simp only [readRuns, spelledRuns, ← spells.map_toList, List.flatMap_map, scanLine_eq,
    List.map_map]
  rfl

/-- What two tables are checked for may be checked on their characters. -/
theorem check_readRuns {α β : Type} {readFirst : List Char → α} {readSecond : List Char → β}
    {first second : List String} {spelledFirst spelledSecond : List (List Char)}
    (check : List (Run α) → List (Run β) → Bool)
    (spellsFirst : Spells first spelledFirst) (spellsSecond : Spells second spelledSecond)
    (checked : check (spelledRuns readFirst spelledFirst)
      (spelledRuns readSecond spelledSecond) = true) :
    check (readRuns readFirst first).toList (readRuns readSecond second).toList = true := by
  rw [spellsFirst.toList_readRuns, spellsSecond.toList_readRuns, checked]

/-! ## Looking up in a sorted table -/

/-- Whether runs follow each other, none before a bound. -/
def ascends {α : Type} (bound : Nat) : List (Run α) → Bool
  | [] => true
  | run :: rest => bound ≤ run.first && run.first ≤ run.last && ascends (run.last + 1) rest

/-- Runs none of which is turned around or overlaps a later one. -/
structure Ascending {α : Type} (runs : List (Run α)) : Prop where
  forward : ∀ run ∈ runs, run.first ≤ run.last
  apart : runs.Pairwise fun run later => run.last < later.first

theorem ascending_of_ascends {α : Type} {bound : Nat} {runs : List (Run α)}
    (ascends : ascends bound runs = true) :
    Ascending runs ∧ ∀ run ∈ runs, bound ≤ run.first := by
  induction runs generalizing bound with
  | nil => exact ⟨⟨by simp, .nil⟩, by simp⟩
  | cons run rest ih =>
      simp only [Unicode.ascends, Bool.and_eq_true, decide_eq_true_eq] at ascends
      obtain ⟨⟨isAbove, isForward⟩, ascendsRest⟩ := ascends
      obtain ⟨ascending, above⟩ := ih ascendsRest
      refine ⟨⟨?_, List.pairwise_cons.mpr ⟨above, ascending.apart⟩⟩, ?_⟩
      · exact List.forall_mem_cons.mpr ⟨isForward, ascending.forward⟩
      · refine List.forall_mem_cons.mpr ⟨isAbove, fun later mem => ?_⟩
        have := above later mem
        omega

theorem Run.bounds_of_contains {α : Type} {run : Run α} {point : Nat}
    (holds : run.contains point = true) : run.first ≤ point ∧ point ≤ run.last := by
  simp only [Run.contains, Bool.and_eq_true, decide_eq_true_eq] at holds
  exact holds.1

section Sorted

variable {α : Type} {runs : Array (Run α)} (ascending : Ascending runs.toList)

include ascending

theorem Ascending.forward_of_getElem? {index : Nat} {run : Run α}
    (entry : runs[index]? = some run) : run.first ≤ run.last :=
  ascending.forward run (Array.mem_def.mp (Array.mem_of_getElem? entry))

theorem Ascending.last_lt {first second : Nat} {run later : Run α}
    (atFirst : runs[first]? = some run) (atSecond : runs[second]? = some later)
    (lt : first < second) : run.last < later.first := by
  obtain ⟨insideFirst, rfl⟩ := Array.getElem?_eq_some_iff.mp atFirst
  obtain ⟨insideSecond, rfl⟩ := Array.getElem?_eq_some_iff.mp atSecond
  exact List.pairwise_iff_getElem.mp ascending.apart first second
    (by simpa using insideFirst) (by simpa using insideSecond) lt

/-- A code point lies between the ends of one run only. -/
theorem Ascending.eq_of_between {first second : Nat} {run other : Run α} {point : Nat}
    (atFirst : runs[first]? = some run) (atSecond : runs[second]? = some other)
    (inRun : run.first ≤ point ∧ point ≤ run.last)
    (inOther : other.first ≤ point ∧ point ≤ other.last) : run = other := by
  rcases Nat.lt_trichotomy first second with lt | rfl | gt
  · have := ascending.last_lt atFirst atSecond lt
    omega
  · exact Option.some.inj (atFirst.symm.trans atSecond)
  · have := ascending.last_lt atSecond atFirst gt
    omega

/-- The search finds the run that holds a code point. -/
theorem findRun?_eq_some {point low high index : Nat} {run : Run α}
    (entry : runs[index]? = some run) (holds : run.contains point = true)
    (above : low ≤ index) (below : index < high) (inside : high ≤ runs.size) :
    findRun? runs point low high = some run := by
  have between := Run.bounds_of_contains holds
  fun_induction findRun? runs point low high with
  | case1 low high _ middle atMiddle =>
      have outside := Array.getElem?_eq_none_iff.mp atMiddle
      omega
  | case2 low high _ middle found atMiddle before ih =>
      refine ih above (Nat.lt_of_not_le fun le => ?_) (by omega)
      have forward := ascending.forward_of_getElem? atMiddle
      rcases Nat.eq_or_lt_of_le le with rfl | lt
      · obtain rfl := Option.some.inj (entry.symm.trans atMiddle)
        omega
      · have := ascending.last_lt atMiddle entry lt
        omega
  | case3 low high _ middle found atMiddle _ behind ih =>
      refine ih (Nat.lt_of_not_le fun le => ?_) below inside
      have forward := ascending.forward_of_getElem? atMiddle
      rcases Nat.eq_or_lt_of_le le with rfl | lt
      · obtain rfl := Option.some.inj (entry.symm.trans atMiddle)
        omega
      · have := ascending.last_lt entry atMiddle lt
        omega
  | case4 low high _ middle found atMiddle notBefore notBehind contained =>
      rw [ascending.eq_of_between entry atMiddle between
        ⟨Nat.le_of_not_lt notBefore, Nat.le_of_not_lt notBehind⟩]
  | case5 low high _ middle found atMiddle notBefore notBehind notContained =>
      have isRun := ascending.eq_of_between entry atMiddle between
        ⟨Nat.le_of_not_lt notBefore, Nat.le_of_not_lt notBehind⟩
      exact absurd (isRun ▸ holds) notContained
  | case6 low high none => omega

theorem lookup?_eq_some {point : Nat} {run : Run α} (mem : run ∈ runs.toList)
    (holds : run.contains point = true) : lookup? runs point = some run.value := by
  obtain ⟨index, inside, isRun⟩ := List.mem_iff_getElem.mp mem
  have entry : runs[index]? = some run := by
    rw [← Array.getElem?_toList, List.getElem?_eq_getElem inside, isRun]
  rw [lookup?, findRun?_eq_some ascending entry holds (Nat.zero_le _) (by simpa using inside)
    (Nat.le_refl _), Option.map_some]

end Sorted

/-! ## Marks -/

/-- Spans of code points without the front of the first ones that a run holds. -/
def strip {α : Type} (run : Run α) : List (Nat × Nat) → List (Nat × Nat)
  | [] => []
  | span :: rest =>
      if run.first ≤ span.1 && span.1 ≤ run.last then
        if span.2 ≤ run.last then strip run rest else (run.last + 1, span.2) :: rest
      else
        span :: rest

/-- Whether runs hold every code point of some spans. -/
def covers {α : Type} : List (Run α) → List (Nat × Nat) → Bool
  | [], spans => spans.isEmpty
  | run :: rest, spans => covers rest (strip run spans)

theorem mem_strip {α : Type} (run : Run α) {spans : List (Nat × Nat)} {span : Nat × Nat}
    {point : Nat} (mem : span ∈ spans) (inside : span.1 ≤ point ∧ point ≤ span.2) :
    (run.first ≤ point ∧ point ≤ run.last) ∨
      ∃ left ∈ strip run spans, left.1 ≤ point ∧ point ≤ left.2 := by
  induction spans with
  | nil => cases mem
  | cons head rest ih =>
      simp only [strip, Bool.and_eq_true, decide_eq_true_eq]
      split
      · next front =>
          split
          · next whole =>
              rcases List.mem_cons.mp mem with rfl | mem
              · left
                omega
              · exact ih mem
          · rcases List.mem_cons.mp mem with rfl | mem
            · rcases Nat.lt_or_ge run.last point with behind | before
              · exact .inr ⟨_, List.mem_cons_self, behind, inside.2⟩
              · left
                omega
            · exact .inr ⟨span, List.mem_cons_of_mem _ mem, inside⟩
      · exact .inr ⟨span, mem, inside⟩

theorem exists_run_of_covers {α : Type} {runs : List (Run α)} {spans : List (Nat × Nat)}
    (covers : covers runs spans = true) {span : Nat × Nat} {point : Nat} (mem : span ∈ spans)
    (inside : span.1 ≤ point ∧ point ≤ span.2) :
    ∃ run ∈ runs, run.first ≤ point ∧ point ≤ run.last := by
  induction runs generalizing spans span with
  | nil =>
      rw [List.isEmpty_iff.mp covers] at mem
      cases mem
  | cons run rest ih =>
      rcases mem_strip run mem inside with holds | ⟨left, mem, inside⟩
      · exact ⟨run, List.mem_cons_self, holds⟩
      · obtain ⟨run, mem, holds⟩ := ih covers mem inside
        exact ⟨run, List.mem_cons_of_mem _ mem, holds⟩

/-- The ends of a run. -/
def Run.span {α : Type} (run : Run α) : Nat × Nat :=
  (run.first, run.last)

/-- Whether a run, with its value as it is written, is one of marks. -/
def isMarkRun (run : Run (List Char)) : Bool :=
  run.step.beq 1 &&
    match run.value with
    | 'M' :: kind => [['n'], ['c'], ['e']].contains kind
    | _ => false

/-- Spans of marks that decompose into code points of a class. -/
def reorderingSpans : List (Nat × Nat) :=
  [(0x340, 0x344), (0xF73, 0xF75), (0xF81, 0xF81)]

/-- Spans of code points without a class, in which decompositions start.  Those that hold the
most come first. -/
def classlessSpans : List (Nat × Nat) :=
  [(0x309B, 0xA66E), (0x0, 0x2FF), (0x370, 0x482), (0x1E94B, 0x10FFFF), (0x20F1, 0x2CEE),
    (0x5C8, 0x60F), (0x3030, 0x3098), (0x900, 0x93B), (0x1E00, 0x20CF), (0xF88, 0xFC5),
    (0x1BC9F, 0x1D164), (0x9FF, 0xA3B), (0xF3A, 0xF70), (0x1ACF, 0x1B33), (0x1D1AE, 0x1D241),
    (0x61B, 0x64A), (0xCBD, 0xCCC), (0x1B35, 0x1B43), (0x488, 0x590), (0xB4E, 0xBCC),
    (0xDCB, 0xE37), (0x671, 0x6D5), (0x955, 0x9BB), (0xB3D, 0xB4C), (0xD3D, 0xD4C),
    (0x11080, 0x110B8), (0x1145F, 0x114C1), (0x9BD, 0x9CC), (0xACE, 0xB3B), (0x2E00, 0x3029),
    (0x11103, 0x11132), (0x1133D, 0x1134C), (0x114C4, 0x115BE),
    (0xC3D, 0xC4C), (0xFC7, 0x1036), (0x1100, 0x1112),
    (0x1183B, 0x1193C)]

/-- Spans of code points that are their own decomposition: what comes before the first letter
with a mark, and most marks of such letters. -/
def stableSpans : List (Nat × Nat) :=
  [(0, 0xBF), (0x300, 0x33F)]

/-- Whether one of some spans holds a code point. -/
def inSpans (spans : List (Nat × Nat)) (point : Nat) : Bool :=
  spans.any fun span => span.1 ≤ point && point ≤ span.2

/-- The general categories as they are written. -/
def writtenCategories : Array (Run (List Char)) :=
  readRuns id categoryLines

/-- What is checked of the marks: categories are sorted, and whatever has a class or
decomposes into what has one is a mark. -/
def marksCover (categories : List (Run (List Char))) (classes : List (Run Nat)) : Bool :=
  let marks := categories.filter isMarkRun
  ascends 0 categories && covers marks (classes.map Run.span) && covers marks reorderingSpans

theorem marksCover_eq_true :
    marksCover writtenCategories.toList combiningRuns.toList = true := by
  apply check_readRuns marksCover
  · dsimp only [categoryLines]
    repeat apply Spells.cons
    exact .nil
  · dsimp only [combiningLines]
    repeat apply Spells.cons
    exact .nil
  · decide +kernel

/-- What is checked of the classes: they are sorted, and nothing in the classless spans has
one. -/
def areApart (classes : List (Run Nat)) : Bool :=
  ascends 0 classes && classes.all fun run =>
    classlessSpans.all fun span => run.last < span.1 || span.2 < run.first

/-- What is checked of the decompositions: there are none in the stable spans, and all but
those of a few marks start with a code point without a class. -/
def headsClassless (classes : List (Run Nat)) (decompositions : List (Run (List Nat))) :
    Bool :=
  areApart classes && decompositions.all fun run =>
    run.first == run.last && !inSpans stableSpans run.first && (run.value.head?.any fun head =>
        inSpans classlessSpans head || inSpans reorderingSpans run.first)

theorem headsClassless_eq_true :
    headsClassless combiningRuns.toList decompositionRuns.toList = true := by
  apply check_readRuns headsClassless
  · dsimp only [combiningLines]
    repeat apply Spells.cons
    exact .nil
  · dsimp only [decompositionLines]
    repeat apply Spells.cons
    exact .nil
  · decide +kernel

/-! ## Code points of a class and the heads of decompositions -/

theorem Ascending.map {α β : Type} {runs : List (Run α)} (ascending : Ascending runs)
    (change : α → β) : Ascending (runs.map fun run => run.map change) :=
  ⟨List.forall_mem_map.mpr ascending.forward, List.pairwise_map.mpr ascending.apart⟩

theorem toList_categoryRuns : categoryRuns.toList = writtenCategories.toList.map fun run =>
    run.map fun name => Category.ofShortName (String.ofList name) := by
  rw [categoryRuns, writtenCategories, readRuns, readRuns, List.map_flatMap]
  simp only [List.map_map]
  rfl

theorem isMark_of_isMarkRun {run : Run (List Char)} {point : Nat}
    (mem : run ∈ writtenCategories.toList.filter isMarkRun)
    (inside : run.first ≤ point ∧ point ≤ run.last) : isMark point = true := by
  obtain ⟨mem, isMarkRun⟩ := List.mem_filter.mp mem
  simp only [Unicode.isMarkRun, Bool.and_eq_true, Nat.beq_eq] at isMarkRun
  have covers := marksCover_eq_true
  simp only [marksCover, Bool.and_eq_true] at covers
  have ascending : Ascending categoryRuns.toList := by
    rw [toList_categoryRuns]
    exact (ascending_of_ascends covers.1.1).1.map _
  have holds : run.contains point = true := by
    simp [Run.contains, isMarkRun.1, inside, Nat.mod_one]
  have isEntry : run.map (fun name => Category.ofShortName (String.ofList name)) ∈
      categoryRuns.toList := by
    rw [toList_categoryRuns]
    exact List.mem_map_of_mem mem
  rw [isMark, category, lookup?_eq_some ascending isEntry holds]
  have written := isMarkRun.2
  split at written
  · next kind isValue =>
      simp only [List.contains_iff_mem, List.mem_cons, List.not_mem_nil, or_false] at written
      rcases written with rfl | rfl | rfl <;>
        (rw [Run.map, isValue]; rfl)
  · exact absurd written Bool.false_ne_true

/-- A code point with a combining class is a mark. -/
theorem isMark_of_combiningClass_ne_zero {point : Nat} (hasClass : combiningClass point ≠ 0) :
    isMark point = true := by
  have covers := marksCover_eq_true
  simp only [marksCover, Bool.and_eq_true] at covers
  cases found : lookup? combiningRuns point with
  | none => exact absurd (by rw [combiningClass, found]; rfl) hasClass
  | some value =>
      obtain ⟨run, mem, _, holds⟩ := mem_of_lookup? found
      obtain ⟨marks, isMarkRun, inside⟩ := exists_run_of_covers covers.1.2
        (List.mem_map_of_mem (Array.mem_def.mp mem)) (Run.bounds_of_contains holds)
      exact isMark_of_isMarkRun isMarkRun inside

theorem combiningClass_eq_zero_of_avoided {point : Nat}
    (avoided : ∀ run ∈ combiningRuns, run.contains point = false) : combiningClass point = 0 := by
  rw [combiningClass]
  cases found : lookup? combiningRuns point with
  | none => rfl
  | some value =>
      obtain ⟨run, mem, _, holds⟩ := mem_of_lookup? found
      rw [avoided run mem] at holds
      contradiction

theorem combiningClass_eq_zero_of_inSpans {point : Nat}
    (inSpans : inSpans classlessSpans point = true) : combiningClass point = 0 := by
  have heads := headsClassless_eq_true
  simp only [headsClassless, Bool.and_eq_true] at heads
  refine combiningClass_eq_zero_of_avoided fun run mem => Bool.eq_false_iff.mpr fun holds => ?_
  obtain ⟨span, isSpan, inside⟩ := List.any_eq_true.mp inSpans
  have apart := List.all_eq_true.mp
    (List.all_eq_true.mp (Bool.and_eq_true_iff.mp heads.1).2 run (Array.mem_def.mp mem)) span
    isSpan
  have bounds := Run.bounds_of_contains holds
  simp only [Bool.and_eq_true, Bool.or_eq_true, decide_eq_true_eq] at inside apart
  omega

theorem combiningClass_eq_of_mem {run : Run Nat} {point : Nat} (mem : run ∈ combiningRuns.toList)
    (holds : run.contains point = true) : combiningClass point = run.value := by
  have heads := headsClassless_eq_true
  simp only [headsClassless, areApart, Bool.and_eq_true] at heads
  rw [combiningClass, lookup?_eq_some (ascending_of_ascends heads.1.1).1 mem holds,
    Option.getD_some]

theorem decompose_of_inSpans {point : Nat} (inSpans : inSpans stableSpans point = true) :
    decompose point = [point] := by
  have heads := headsClassless_eq_true
  simp only [headsClassless, Bool.and_eq_true] at heads
  have below : point ≤ 0x33F := by
    obtain ⟨span, isSpan, inside⟩ := List.any_eq_true.mp inSpans
    simp only [stableSpans, List.mem_cons, List.not_mem_nil, or_false] at isSpan
    simp only [Bool.and_eq_true, decide_eq_true_eq] at inside
    rcases isSpan with rfl | rfl <;> omega
  rw [decompose, if_neg (by simp only [Bool.and_eq_true, decide_eq_true_eq]; omega)]
  cases found : lookup? decompositionRuns point with
  | none => rfl
  | some parts =>
      obtain ⟨run, mem, -, holds⟩ := mem_of_lookup? found
      have checked := List.all_eq_true.mp heads.2 run (Array.mem_def.mp mem)
      have bounds := Run.bounds_of_contains holds
      rw [Bool.and_eq_true, Bool.and_eq_true, beq_iff_eq, Bool.not_eq_true'] at checked
      have isPoint : run.first = point := by omega
      rw [isPoint, inSpans] at checked
      cases checked.1.2

theorem isMark_of_inSpans {point : Nat} (inSpans : inSpans reorderingSpans point = true) :
    isMark point = true := by
  have covers := marksCover_eq_true
  simp only [marksCover, Bool.and_eq_true] at covers
  obtain ⟨span, isSpan, inside⟩ := List.any_eq_true.mp inSpans
  simp only [Bool.and_eq_true, decide_eq_true_eq] at inside
  obtain ⟨marks, isMarkRun, inside⟩ := exists_run_of_covers covers.2 isSpan inside
  exact isMark_of_isMarkRun isMarkRun inside

/-- A Hangul syllable decomposes into an initial consonant and what follows. -/
theorem combiningClass_head_hangulParts {point : Nat} (inside : point ≤ 0xD7A3) :
    ∃ head rest, hangulParts point = head :: rest ∧ combiningClass head = 0 := by
  refine ⟨_, _, rfl, combiningClass_eq_zero_of_inSpans ?_⟩
  refine List.any_eq_true.mpr ⟨(0x1100, 0x1112), by decide, ?_⟩
  simp only [Bool.and_eq_true, decide_eq_true_eq]
  omega

/-- What is no mark decomposes into a code point without a class and what follows. -/
theorem combiningClass_head_decompose {point : Nat} (isBase : isMark point = false) :
    ∃ head rest, decompose point = head :: rest ∧ combiningClass head = 0 := by
  have heads := headsClassless_eq_true
  simp only [headsClassless, Bool.and_eq_true] at heads
  rw [decompose]
  split
  · next isSyllable =>
      simp only [Bool.and_eq_true, decide_eq_true_eq] at isSyllable
      exact combiningClass_head_hangulParts isSyllable.2
  · cases found : lookup? decompositionRuns point with
    | none =>
        refine ⟨point, [], rfl, Decidable.byContradiction fun hasClass => ?_⟩
        rw [isMark_of_combiningClass_ne_zero hasClass] at isBase
        contradiction
    | some parts =>
        obtain ⟨run, mem, rfl, holds⟩ := mem_of_lookup? found
        have checked := List.all_eq_true.mp heads.2 run (Array.mem_def.mp mem)
        have bounds := Run.bounds_of_contains holds
        rw [Bool.and_eq_true, Bool.and_eq_true, beq_iff_eq, Option.any_eq_true] at checked
        obtain ⟨⟨onePoint, -⟩, head, isHead, checked⟩ := checked
        obtain ⟨rest, isParts⟩ := List.head?_eq_some_iff.mp isHead
        refine ⟨head, rest, isParts, ?_⟩
        rcases Bool.or_eq_true_iff.mp checked with isClassless | isReordered
        · exact combiningClass_eq_zero_of_inSpans isClassless
        · have isPoint : run.first = point := by omega
          rw [isPoint] at isReordered
          rw [isMark_of_inSpans isReordered] at isBase
          contradiction

end RegexMatching.Unicode
