import RegexMatching.Proofs.Splits

/-!
# Splitting loses nothing

A text that is split with its delimiters is what the pieces and the delimiters are together, and
without them every second element is left.  A positive limit bounds the number of pieces.  Without
a limit the pieces are the gaps between the matches, which replacing leaves as they are, so pieces
that are joined again are the text with its matches replaced.
-/

namespace RegexMatching

namespace Number

/-- A number with the value of an integer compares like that integer. -/
theorem gt_of_toInt? {number : Number} {value : Int} (isInteger : number.toInt? = some value)
    (bound : Int) : number.gt bound = decide (bound < value) := by
  cases number with
  | nan => cases isInteger
  | infinity negative => cases isInteger
  | finite negative mantissa exponent =>
      rw [toInt?] at isInteger
      split at isInteger
      · next divides =>
          have positive : 0 < power 2 (-exponent).toNat := Nat.pow_pos (by decide)
          have positive' : (0 : Int) < (power 2 (-exponent).toNat : Nat) := Int.ofNat_lt.mpr positive
          obtain ⟨factor, isFactor⟩ := Nat.dvd_of_mod_eq_zero (beq_iff_eq.mp divides)
          have quotient : mantissa * power 2 exponent.toNat / power 2 (-exponent).toNat =
              factor * power 2 exponent.toNat := by
            rw [isFactor, Nat.mul_assoc, Nat.mul_div_cancel_left _ positive]
          have size : mantissa * power 2 exponent.toNat =
              factor * power 2 exponent.toNat * power 2 (-exponent).toNat := by
            rw [isFactor, Nat.mul_comm (power 2 (-exponent).toNat), Nat.mul_right_comm]
          rw [truncate?, quotient, Option.some.injEq] at isInteger
          rw [gt, size, ← isInteger, Int.natCast_mul (factor * _)]
          refine decide_eq_decide.mpr ?_
          cases negative with
          | false => exact Int.mul_lt_mul_right positive'
          | true =>
              rw [if_pos rfl, if_pos rfl, ← Int.neg_mul]
              exact Int.mul_lt_mul_right positive'
      · cases isInteger

end Number

namespace Text

theorem sliceFrom_eq_slice (text : Text) {first : Int} (nonneg : 0 ≤ first) :
    text.sliceFrom first = text.slice first text.length := by
  rw [sliceFrom, slice, clampOffset_of_nonneg text.length nonneg,
    clampOffset_of_nonneg text.length (Int.natCast_nonneg _), Int.toNat_natCast, Nat.min_self,
    List.take_length]

theorem slice_append_sliceFrom (text : Text) {index : Int} (nonneg : 0 ≤ index) :
    text.slice 0 index ++ text.sliceFrom index = text := by
  simp only [slice, sliceFrom, clampOffset_of_nonneg text.length nonneg,
    clampOffset_of_nonneg text.length (Int.le_refl 0)]
  exact List.take_append_drop _ text

/-- The gaps between spans of a text, from an index on. -/
def gaps (text : Text) : Int → List Span → List Text
  | index, [] => [text.sliceFrom index]
  | index, span :: spans => text.slice index span.start :: text.gaps span.stop spans

end Text

/-! ## Every second element -/

/-- The elements at the positions 0, 2, 4 and so on. -/
def everySecond {α : Type} : List α → List α
  | [] => []
  | [first] => [first]
  | first :: _ :: rest => first :: everySecond rest

theorem getElem?_everySecond {α : Type} (elements : List α) (position : Nat) :
    (everySecond elements)[position]? = elements[2 * position]? := by
  induction elements using everySecond.induct generalizing position with
  | case1 => rfl
  | case2 first => cases position <;> rfl
  | case3 first second rest ih =>
      cases position with
      | zero => rfl
      | succ position => exact ih position

theorem everySecond_append {α : Type} {front : List α} (isEven : front.length % 2 = 0)
    (back : List α) : everySecond (front ++ back) = everySecond front ++ everySecond back := by
  induction front using everySecond.induct with
  | case1 => rfl
  | case2 first => cases isEven
  | case3 first second rest ih =>
      have isEven' : rest.length % 2 = 0 := by
        rwa [List.length_cons, List.length_cons, Nat.add_assoc, Nat.add_mod_right] at isEven
      exact congrArg (first :: ·) (ih isEven')

namespace Matcher

variable {σ : Type} {usable : σ → Prop} {answer : MatchFunction}

/-! ## What successive searches find -/

theorem endingOf_of_noFault {outcomes : List (Except Fault (Option Snapshot))}
    (noFault : ∀ outcome ∈ outcomes, ∃ found, outcome = .ok found) :
    endingOf outcomes = .ok () := by
  induction outcomes with
  | nil => rfl
  | cons outcome rest ih =>
      obtain ⟨found, rfl⟩ := noFault outcome List.mem_cons_self
      cases found with
      | none => rfl
      | some snapshot => exact ih fun other mem => noFault other (List.mem_cons_of_mem _ mem)

/-- The first span that is found is that of the first search. -/
theorem exists_foundBy_of_spans {count : Nat} {matcher : Matcher σ} {span : Span}
    {spans : List Span}
    (reported : (matchesOf (foundCalls answer (count + 1) matcher)).map (·.span .whole) =
      (span :: spans).map fun span => .ok (some span)) :
    ∃ snapshot, foundBy answer matcher = .ok (some snapshot) ∧
      snapshot.span .whole = .ok (some span) := by
  by_cases found : ∃ snapshot, foundBy answer matcher = .ok (some snapshot)
  · obtain ⟨snapshot, isFound⟩ := found
    rw [foundCalls, isFound] at reported
    exact ⟨snapshot, isFound, (List.cons.inj reported).1⟩
  · have notFound : ∀ snapshot, foundBy answer matcher ≠ .ok (some snapshot) :=
      fun snapshot isFound => found ⟨snapshot, isFound⟩
    rw [foundCalls_eq_replicate _ notFound, matchesOf_replicate _ notFound] at reported
    cases reported

theorem substitution_quote (separator : Text) (number : Nat) {snapshot : Snapshot} {span : Span}
    (isSpan : snapshot.span .whole = .ok (some span)) :
    Replacement.substitution (.template (Template.quote separator)) number snapshot =
      .ok (span, separator) := by
  simp only [Replacement.substitution, Replacement.templateFor, isSpan, Template.expand_quote,
    bind, Except.bind]
  rfl

/-- A quoted text takes the place of every match as it is. -/
theorem substitutions_quote (separator : Text) (count number : Nat) {matcher : Matcher σ}
    {spans : List Span}
    (reported : (matchesOf (foundCalls answer count matcher)).map (·.span .whole) =
      spans.map fun span => .ok (some span)) :
    Replacement.substitutions (.template (Template.quote separator)) number
        (foundCalls answer count matcher) =
      (endingOf (foundCalls answer count matcher)).map fun _ => spans.map (·, separator) := by
  induction count generalizing number matcher spans with
  | zero =>
      obtain rfl := List.map_eq_nil_iff.mp reported.symm
      rfl
  | succ count ih =>
      cases spans with
      | nil =>
          rw [List.map_nil, List.map_eq_nil_iff] at reported
          rw [foundCalls] at reported ⊢
          cases outcome : foundBy answer matcher with
          | error fault => rfl
          | ok found =>
              cases found with
              | none => rfl
              | some snapshot =>
                  rw [outcome] at reported
                  cases reported
      | cons span spans =>
          obtain ⟨snapshot, isFound, isSpan⟩ := exists_foundBy_of_spans reported
          rw [foundCalls, isFound] at reported ⊢
          rw [Replacement.substitutions, substitution_quote separator number isSpan,
            ih (number + 1) (List.cons.inj reported).2, endingOf]
          cases endingOf (foundCalls answer count (Call.find.result answer matcher).2) <;> rfl

end Matcher

namespace Pattern

open Matcher (Finds AdvanceFrom)

variable {σ : Type} {usable : σ → Prop} {answer : MatchFunction} {pattern : Pattern σ}

/-! ## Cut by cut -/

/-- What holds at the start and is kept by every cut holds at the end. -/
theorem collectSpans_induction {rule : SplitRule} {text : Text} {ending : Except Fault Unit}
    {holds : Nat → Pieces → Prop}
    (cut : ∀ splits (collected : Pieces) (span : Span), holds splits collected →
      rule.allows splits = true → collected.index ≤ span.start → span.start ≤ span.stop →
      holds (splits + 1)
        ⟨collected.pieces ++ text.slice collected.index span.start ::
          (if rule.withDelimiters then [text.slice span.start span.stop] else []), span.stop⟩)
    {splits : Nat} {collected completed : Pieces} {spans : List Span}
    (atStart : holds splits collected) (advance : AdvanceFrom collected.index spans)
    (isCompleted : collectSpans rule text ending splits collected spans = .ok completed) :
    ∃ splits, holds splits completed := by
  induction spans generalizing splits collected with
  | nil =>
      cases ending with
      | error fault => cases isCompleted
      | ok value =>
          obtain rfl := Except.ok.inj isCompleted
          exact ⟨splits, atStart⟩
  | cons span spans ih =>
      obtain ⟨leStart, ordered, later⟩ := advance
      rw [collectSpans] at isCompleted
      split at isCompleted
      · obtain rfl := Except.ok.inj isCompleted
        exact ⟨splits, atStart⟩
      · next allows =>
          split at isCompleted
          · next isSkipped =>
              simp only [Bool.and_eq_true, decide_eq_true_eq] at isSkipped
              have sameIndex : span.stop = collected.index := isSkipped.2.trans isSkipped.1.1.symm
              exact ih atStart (sameIndex ▸ later) isCompleted
          · have isAllowed : rule.allows splits = true := by simpa using allows
            exact ih (cut splits collected span atStart isAllowed leStart ordered) later isCompleted

/-- Searches that do not fail are split at. -/
theorem exists_collectSpans (rule : SplitRule) (text : Text) (splits : Nat) (collected : Pieces)
    (spans : List Span) :
    ∃ completed, collectSpans rule text (.ok ()) splits collected spans = .ok completed := by
  induction spans generalizing splits collected with
  | nil => exact ⟨collected, rfl⟩
  | cons span spans ih =>
      rw [collectSpans]
      split
      · exact ⟨collected, rfl⟩
      · split
        · exact ih splits collected
        · exact ih _ _

theorem flatten_dropEmptyTail (pieces : List Text) :
    (dropEmptyTail pieces).flatten = pieces.flatten := by
  have areEmpty : (pieces.reverse.takeWhile List.isEmpty).reverse.flatten = [] :=
    List.flatten_eq_nil_iff.mpr fun piece mem =>
      List.isEmpty_iff.mp (List.all_eq_true.mp List.all_takeWhile piece (List.mem_reverse.mp mem))
  have parted := congrArg List.reverse
    (List.takeWhile_append_dropWhile (p := List.isEmpty) (l := pieces.reverse))
  rw [List.reverse_append, List.reverse_reverse] at parted
  rw [dropEmptyTail, ← List.append_nil (List.flatten _), ← areEmpty, ← List.flatten_append, parted]

/-- Pieces and delimiters together are the text. -/
theorem flatten_complete {limit : Number} {text : Text} {ending : Except Fault Unit}
    {spans : List Span} {completed : Pieces} (advance : AdvanceFrom 0 spans)
    (isCompleted : collectSpans ⟨limit, true⟩ text ending 0 ⟨[], 0⟩ spans = .ok completed) :
    (completed.complete ⟨limit, true⟩ text).flatten = text := by
  obtain ⟨-, nonneg, isFront⟩ :=
    @collectSpans_induction _ text ending
      (fun _ collected => 0 ≤ collected.index ∧
        collected.pieces.flatten = text.slice 0 collected.index)
      (by
        intro splits collected span kept _ leStart ordered
        refine ⟨Int.le_trans kept.1 (Int.le_trans leStart ordered), ?_⟩
        dsimp only
        rw [if_pos rfl, List.flatten_append, List.flatten_cons, List.flatten_singleton, kept.2,
          text.slice_append_slice kept.1 leStart ordered,
          text.slice_append_slice (Int.le_refl 0) kept.1 (Int.le_trans leStart ordered)])
      0 ⟨[], 0⟩ _ _ ⟨Int.le_refl 0, (text.slice_eq_nil (Int.le_refl 0) (Int.le_refl 0)).symm⟩ advance
      isCompleted
  have isWhole : (completed.pieces ++ [text.sliceFrom completed.index]).flatten = text := by
    rw [List.flatten_append, isFront, List.flatten_singleton, text.slice_append_sliceFrom nonneg]
  rw [Pieces.complete]
  split
  · exact List.flatten_singleton
  · dsimp only
    split
    · exact (flatten_dropEmptyTail _).trans isWhole
    · exact isWhole

theorem equals_zero_of_ne {limit : Number} {value : Int} (isInteger : limit.toInt? = some value)
    (notZero : value ≠ 0) : limit.equals 0 = false := by
  rw [Number.equals, isInteger]
  exact beq_false_of_ne fun isZero => notZero (Option.some.inj isZero)

/-- A positive limit leaves at most as many pieces. -/
theorem length_complete_le {limit : Number} {value : Int} (isInteger : limit.toInt? = some value)
    (isPositive : 0 < value) {text : Text} {ending : Except Fault Unit} {spans : List Span}
    {completed : Pieces} (advance : AdvanceFrom 0 spans)
    (isCompleted : collectSpans ⟨limit, false⟩ text ending 0 ⟨[], 0⟩ spans = .ok completed) :
    ((completed.complete ⟨limit, false⟩ text).length : Int) ≤ value := by
  obtain ⟨splits, isSplits, fewer⟩ :=
    @collectSpans_induction _ text ending
      (fun splits collected => collected.pieces.length = splits ∧ (splits : Int) < value)
      (by
        intro splits collected span kept allows _ _
        rw [SplitRule.allows, Number.gt_of_toInt? isInteger, Number.gt_of_toInt? isInteger,
          decide_eq_true isPositive, Bool.not_true, Bool.false_or, decide_eq_true_eq] at allows
        refine ⟨?_, by exact_mod_cast allows⟩
        dsimp only
        rw [if_neg Bool.false_ne_true, List.length_append, kept.1]
        rfl)
      0 ⟨[], 0⟩ _ _ ⟨rfl, isPositive⟩ advance isCompleted
  have notZero := equals_zero_of_ne isInteger (Int.ne_of_gt isPositive)
  rw [Pieces.complete]
  split
  · exact isPositive
  · dsimp only
    rw [notZero, if_neg Bool.false_ne_true, List.length_append, isSplits]
    exact fewer

/-- Splitting without delimiters cuts where splitting with them does, and keeps every second
element. -/
theorem collectSpans_everySecond (limit : Number) (text : Text) (ending : Except Fault Unit)
    (splits : Nat) {pieces : List Text} (isEven : pieces.length % 2 = 0) (index : Int)
    (spans : List Span) :
    collectSpans ⟨limit, false⟩ text ending splits ⟨everySecond pieces, index⟩ spans =
      (collectSpans ⟨limit, true⟩ text ending splits ⟨pieces, index⟩ spans).map fun completed =>
        ⟨everySecond completed.pieces, completed.index⟩ := by
  induction spans generalizing splits pieces index with
  | nil => cases ending <;> rfl
  | cons span spans ih =>
      rw [collectSpans, collectSpans,
        show SplitRule.allows ⟨limit, false⟩ splits = SplitRule.allows ⟨limit, true⟩ splits from rfl]
      split
      · rfl
      · split
        · exact ih splits isEven index
        · have isEven' : (pieces ++ [text.slice index span.start,
              text.slice span.start span.stop]).length % 2 = 0 := by
            rw [List.length_append]
            exact (Nat.add_mod_right _ 2).trans isEven
          have cutAlike := ih (splits + 1) isEven' span.stop
          rw [everySecond_append isEven] at cutAlike
          exact cutAlike

/-- Each piece that is collected is followed by its delimiter. -/
theorem length_collectSpans {limit : Number} {text : Text} {ending : Except Fault Unit}
    {spans : List Span} {completed : Pieces} (advance : AdvanceFrom 0 spans)
    (isCompleted : collectSpans ⟨limit, true⟩ text ending 0 ⟨[], 0⟩ spans = .ok completed) :
    completed.pieces.length % 2 = 0 := by
  obtain ⟨-, isEven⟩ :=
    @collectSpans_induction _ text ending (fun _ collected => collected.pieces.length % 2 = 0)
      (by
        intro splits collected span isEven _ _ _
        dsimp only
        rw [List.length_append]
        exact (Nat.add_mod_right _ 2).trans isEven)
      0 ⟨[], 0⟩ _ _ rfl advance isCompleted
  exact isEven

theorem complete_everySecond {limit : Number} (notZero : limit.equals 0 = false) (text : Text)
    {completed : Pieces} (isEven : completed.pieces.length % 2 = 0) :
    Pieces.complete ⟨everySecond completed.pieces, completed.index⟩ ⟨limit, false⟩ text =
      everySecond (completed.complete ⟨limit, true⟩ text) := by
  simp only [Pieces.complete, notZero, Bool.false_eq_true, if_false]
  split
  · rfl
  · exact (everySecond_append isEven [text.sliceFrom completed.index]).symm

/-! ## Without a limit -/

/-- Without a limit the pieces are the gaps between all spans, unless the first one is empty at
the start of the text. -/
theorem map_complete_gaps {limit : Number} {value : Int} (isInteger : limit.toInt? = some value)
    (isNegative : value < 0) (text : Text) (ending : Except Fault Unit) (splits : Nat)
    {pieces : List Text} {index : Int} (nonneg : 0 ≤ index) {spans : List Span}
    (advance : AdvanceFrom index spans)
    (atStart : index = 0 → pieces = [] ∧ spans.head? ≠ some ⟨0, 0⟩) :
    (collectSpans ⟨limit, false⟩ text ending splits ⟨pieces, index⟩ spans).map
        (·.complete ⟨limit, false⟩ text) =
      ending.map fun _ => pieces ++ text.gaps index spans := by
  have noLimit : ∀ splits, SplitRule.allows ⟨limit, false⟩ splits = true := by
    intro splits
    rw [SplitRule.allows, Number.gt_of_toInt? isInteger,
      decide_eq_false (Int.not_lt.mpr (Int.le_of_lt isNegative))]
    rfl
  have notZero := equals_zero_of_ne isInteger (Int.ne_of_lt isNegative)
  induction spans generalizing splits pieces index with
  | nil =>
      cases ending with
      | error fault => rfl
      | ok value =>
          refine congrArg Except.ok ?_
          simp only [Pieces.complete, notZero, Bool.false_eq_true, if_false]
          split
          · next isZero =>
              subst isZero
              rw [(atStart rfl).1]
              exact congrArg ([·]) (text.slice_append_sliceFrom (Int.le_refl 0)).symm
          · rfl
  | cons span spans ih =>
      obtain ⟨leStart, ordered, later⟩ := advance
      -- No span ends at the start of the text: it would be the first one, and empty.
      have stopsLater : span.stop ≠ 0 := by
        intro isStop
        have isZero : index = 0 := by omega
        have isStart : span.start = 0 := by omega
        refine (atStart isZero).2 ?_
        rw [List.head?_cons, show span = ⟨span.start, span.stop⟩ from rfl, isStart, isStop]
      have isKept : (decide (index = 0) && decide (span.start = 0) && decide (span.stop = 0)) =
          false := by rw [decide_eq_false stopsLater, Bool.and_false]
      have cutNext := @ih (splits + 1) (pieces ++ [text.slice index span.start]) span.stop
        (Int.le_trans nonneg (Int.le_trans leStart ordered)) later
        (fun isZero => absurd isZero stopsLater)
      rw [collectSpans, noLimit, isKept, Text.gaps, List.append_cons, ← cutNext]
      rfl

/-- Pieces with a text between them are the text with that text in the place of the spans. -/
theorem interleave_gaps (text separator : Text) {index : Int} (nonneg : 0 ≤ index)
    {spans : List Span} (advance : AdvanceFrom index spans) :
    text.interleave text.length index (spans.map (·, separator)) =
      separator.intercalate (text.gaps index spans) := by
  induction spans generalizing index with
  | nil => exact (text.sliceFrom_eq_slice nonneg).symm.trans (List.append_nil _).symm
  | cons span spans ih =>
      obtain ⟨leStart, ordered, later⟩ := advance
      have rest := ih (Int.le_trans nonneg (Int.le_trans leStart ordered)) later
      rw [List.map_cons, Text.interleave, rest, Text.gaps]
      cases spans <;> rw [Text.gaps, List.intercalate_cons_cons, List.append_assoc]

/-! ## The pieces of all spans -/

/-- What splitting at given spans comes to, where the searches end as `ending` says. -/
def splitSpans (rule : SplitRule) (text : Text) (ending : Except Fault Unit) (spans : List Span) :
    Except Fault (List Text) :=
  (collectSpans rule text ending 0 ⟨[], 0⟩ spans).map (·.complete rule text)

/-- The elements with delimiters together are the text, and there are some whenever there are
pieces without them. -/
theorem map_flatten_splitSpans (limit : Number) (text : Text) (ending : Except Fault Unit)
    {spans : List Span} (advance : AdvanceFrom 0 spans) :
    (splitSpans ⟨limit, true⟩ text ending spans).map List.flatten =
      (splitSpans ⟨limit, false⟩ text ending spans).map fun _ => text := by
  have alike := @collectSpans_everySecond limit text ending 0 [] rfl 0 spans
  rw [everySecond] at alike
  rw [splitSpans, splitSpans, alike]
  cases collected : collectSpans ⟨limit, true⟩ text ending 0 ⟨[], 0⟩ spans with
  | error fault => rfl
  | ok completed => exact congrArg Except.ok (flatten_complete advance collected)

/-- Unless the limit is zero, splitting without delimiters keeps every second element. -/
theorem splitSpans_eq_everySecond {limit : Number} (notZero : limit.equals 0 = false) (text : Text)
    (ending : Except Fault Unit) {spans : List Span} (advance : AdvanceFrom 0 spans) :
    splitSpans ⟨limit, false⟩ text ending spans =
      (splitSpans ⟨limit, true⟩ text ending spans).map everySecond := by
  have alike := @collectSpans_everySecond limit text ending 0 [] rfl 0 spans
  rw [everySecond] at alike
  rw [splitSpans, splitSpans, alike]
  cases collected : collectSpans ⟨limit, true⟩ text ending 0 ⟨[], 0⟩ spans with
  | error fault => rfl
  | ok completed =>
      exact congrArg Except.ok
        (complete_everySecond notZero text (length_collectSpans advance collected))

theorem length_le_of_splitSpans {limit : Number} {value : Int}
    (isInteger : limit.toInt? = some value) (isPositive : 0 < value) {text : Text}
    {ending : Except Fault Unit} {spans : List Span} (advance : AdvanceFrom 0 spans)
    {pieces : List Text} (isSplit : splitSpans ⟨limit, false⟩ text ending spans = .ok pieces) :
    (pieces.length : Int) ≤ value := by
  rw [splitSpans] at isSplit
  cases collected : collectSpans ⟨limit, false⟩ text ending 0 ⟨[], 0⟩ spans with
  | error fault =>
      rw [collected] at isSplit
      cases isSplit
  | ok completed =>
      rw [collected] at isSplit
      obtain rfl := Except.ok.inj isSplit
      exact length_complete_le isInteger isPositive advance collected

/-! ## Splitting and replacing -/

theorem withMatcher_run_of_isClosed {α : Type} (isClosed : pattern.isClosed = true) (text : Text)
    (matching : Matching σ α) (trace : Trace σ) :
    ((pattern.withMatcher text matching).run trace).1 = .error .patternClosed := by
  rw [withMatcher, Work.run_bind, Matcher.create_run, if_pos isClosed]

/-- Successive searches of a matcher that an open pattern has made come to what the answers lead
to. -/
theorem findCalls_started (isOpen : pattern.isClosed = false)
    (answers : pattern.adapter.engine.AnswersBy usable answer)
    (stacked : ∀ engines, usable engines →
      usable (pattern.adapter.engine.makeStack.run engines).2)
    (text : Text) {trace : Trace σ} (isUsable : usable trace.engines) (count : Nat) :
    Matcher.findCalls count (pattern.started text trace) =
      Matcher.foundCalls answer count (.initial pattern text true 0) := by
  rw [← Matcher.foundCalls_initial answer count pattern text
    (pattern.adapter.engine.makeStack.run trace.engines).1]
  exact Matcher.findCalls_eq count (Matcher.initial_consistent isOpen text true _) answers
    (stacked trace.engines isUsable)

/-- A quoted text takes the place of the spans that the searches of a new matcher find. -/
theorem replaceAll_quote_run (isOpen : pattern.isClosed = false)
    (isPlain : pattern.canonicalEquivalence = false)
    (answers : pattern.adapter.engine.AnswersBy usable answer)
    (promises : answer.Promises Report.PlacesMatch)
    (stacked : ∀ engines, usable engines →
      usable (pattern.adapter.engine.makeStack.run engines).2)
    (text separator : Text) {trace : Trace σ} (isUsable : usable trace.engines)
    {spans : List Span}
    (reported : (Matcher.matchesOf (Matcher.foundCalls answer (text.length + 2)
        (.initial pattern text true 0))).map (·.span .whole) =
      spans.map fun span => .ok (some span)) :
    ((pattern.withMatcher text
        (Matcher.replaceAll (.template (Template.quote separator)))).run trace).1 =
      (Matcher.endingOf (Matcher.foundCalls answer (text.length + 2)
        (.initial pattern text true 0))).map fun _ =>
          text.interleave text.length 0 (spans.map (·, separator)) := by
  have consistent := Matcher.initial_consistent isOpen text true
    (pattern.adapter.engine.makeStack.run trace.engines).1
  have replaced := Matcher.replaceAll_exec (.template (Template.quote separator)) consistent isPlain
    answers promises (show usable (pattern.started text trace).trace.engines from
      stacked trace.engines isUsable) (Nat.lt_succ_self (text.length + 1))
  rw [withMatcher_run_of_isOpen isOpen]
  refine replaced.trans ?_
  rw [show Matcher.reset (.initial pattern text true _) = .initial pattern text true _ from rfl,
    Matcher.foundCalls_initial, Matcher.substitutions_quote separator _ 0 reported]
  cases Matcher.endingOf _ <;> rfl

/-- On an engine that answers by a function and places every match at code points, behind its
start, splitting by an integer limit loses nothing: with delimiters the elements together are the
text; without them every second element is left, if empty ones at the end are kept; and a positive
limit bounds how many there are.  Without a limit the pieces joined by a text are the text with
every match replaced by it, unless the first match is empty at the start.  Splitting fails only
where a search does. -/
theorem splitting_loses_nothing (isPlain : pattern.canonicalEquivalence = false)
    (answers : pattern.adapter.engine.AnswersBy usable answer)
    (promises : answer.Promises Report.PlacesMatch)
    (stacked : ∀ engines, usable engines →
      usable (pattern.adapter.engine.makeStack.run engines).2)
    (text : Text) {limit : Number} {value : Int} (isInteger : limit.toInt? = some value)
    {trace trace' : Trace σ} (isUsable : usable trace.engines)
    (isUsable' : usable trace'.engines) :
    let pieces := ((pattern.split text { limit }).run trace).1
    let elements := ((pattern.split text { limit, withDelimiters := true }).run trace').1
    elements.map List.flatten = pieces.map (fun _ => text) ∧
      (value ≠ 0 → ∀ position : Nat,
        pieces.map (·[position]?) = elements.map (·[2 * position]?)) ∧
      (0 < value → ∀ found, pieces = .ok found → (found.length : Int) ≤ value) ∧
      ((∀ snapshot, Matcher.findCalls 1 (pattern.started text trace) = [.ok (some snapshot)] →
          snapshot.span .whole ≠ .ok (some ⟨0, 0⟩)) →
        ∀ separator : Text,
          ((pattern.split text { limit := .ofInt (-1) }).run trace).1.map separator.intercalate =
            ((pattern.withMatcher text (Matcher.replaceAll
              (.template (Template.quote separator)))).run trace').1) ∧
      (pattern.isClosed = false →
        (∀ outcome ∈ Matcher.findCalls (text.length + 2) (pattern.started text trace),
          ∃ found, outcome = .ok found) →
        ∃ found, pieces = .ok found) := by
  cases isOpen : pattern.isClosed with
  | true =>
      simp only [split_run_of_isClosed isOpen, withMatcher_run_of_isClosed isOpen]
      exact ⟨rfl, fun _ _ => rfl, fun _ _ => nofun, fun _ _ => rfl, fun isFalse => nomatch isFalse⟩
  | false =>
      obtain ⟨spans, reported, advance, -, few, found⟩ :=
        Matcher.exists_finds_foundCalls isOpen isPlain answers promises text
      generalize isEnding : Matcher.endingOf _ = ending at found
      -- Both splittings see the same spans, since the answers do not depend on the engines' states.
      have started : ∀ trace : Trace σ, usable trace.engines →
          Finds (pattern.started text trace) spans ending := fun trace isUsable =>
        found _ _ (stacked trace.engines isUsable)
      have enough : spans.length < matchLimit + text.length := by
        have limit : 2 < matchLimit := by decide
        omega
      have plain : ∀ rule, ((pattern.split text rule).run trace).1 =
          splitSpans rule text ending spans := fun rule =>
        split_run_of_finds isOpen text rule trace (started trace isUsable) enough
      have delimited : ∀ rule, ((pattern.split text rule).run trace').1 =
          splitSpans rule text ending spans := fun rule =>
        split_run_of_finds isOpen text rule trace' (started trace' isUsable') enough
      have searched := findCalls_started isOpen answers stacked text isUsable
      simp only [plain, delimited]
      refine ⟨map_flatten_splitSpans limit text ending advance, ?_, ?_, ?_, ?_⟩
      · intro notZero position
        rw [splitSpans_eq_everySecond (equals_zero_of_ne isInteger notZero) text ending advance]
        cases splitSpans ⟨limit, true⟩ text ending spans with
        | error fault => rfl
        | ok elements => exact congrArg Except.ok (getElem?_everySecond elements position)
      · exact fun isPositive found isFound =>
          length_le_of_splitSpans isInteger isPositive advance isFound
      · intro startsElsewhere separator
        have firstElsewhere : spans.head? ≠ some ⟨0, 0⟩ := by
          intro isFirst
          obtain ⟨rest, rfl⟩ := List.head?_eq_some_iff.mp isFirst
          obtain ⟨snapshot, isFound, isSpan⟩ := Matcher.exists_foundBy_of_spans reported
          refine startsElsewhere snapshot ?_ isSpan
          rw [searched, Matcher.foundCalls, isFound]
          rfl
        have minusOne : Number.toInt? (.ofInt (-1)) = some (-1) := rfl
        have isGaps : splitSpans ⟨.ofInt (-1), false⟩ text ending spans =
            ending.map fun _ => text.gaps 0 spans :=
          map_complete_gaps minusOne (by decide) text ending 0 (Int.le_refl 0) advance
            (fun _ => ⟨rfl, firstElsewhere⟩)
        rw [isGaps, replaceAll_quote_run isOpen isPlain answers promises stacked text separator
          isUsable' reported, interleave_gaps text separator (Int.le_refl 0) advance, isEnding]
        cases ending <;> rfl
      · intro _ noFault
        rw [searched] at noFault
        obtain rfl := isEnding.symm.trans (Matcher.endingOf_of_noFault noFault)
        obtain ⟨completed, isCompleted⟩ :=
          exists_collectSpans ⟨limit, false⟩ text 0 ⟨[], 0⟩ spans
        rw [splitSpans, isCompleted]
        exact ⟨_, rfl⟩

end Pattern

/-! ## The end of a text -/

/-- What is reported where the end of a text is searched for. -/
def endReport (subject : Bytes) (start : Int) : Report :=
  if 0 ≤ start ∧ Utf8.IsBoundary subject start.toNat then
    { result := 1, offsets := [subject.length, subject.length] }
  else
    { result := ResultCode.badOffset }

/-- An engine that finds the end of a text and remembers where it is. -/
def Engine.ofTextEnd : Engine Int :=
  { Engine.ofEmptyPattern with
    run := fun _ subject start _ _ _ =>
      ExceptT.mk fun _ => (.ok (endReport subject start).result, subject.length) }

/-- The pattern of the end of a text. -/
def Pattern.ofTextEnd : Pattern Int :=
  { Pattern.ofEmptyPattern with adapter := { engine := .ofTextEnd, isLogged := false } }

/-- What the engine for the end of a text answers. -/
def MatchFunction.ofTextEnd : MatchFunction :=
  fun _ subject start _ => .ok (endReport subject start)

theorem Engine.answersBy_ofTextEnd :
    Engine.ofTextEnd.AnswersBy (fun _ => True) .ofTextEnd where
  report_eq := by
    intro request engines _
    have read : ((ofTextEnd.readReport request.code 1
        (endReport request.subject request.start).result).run
          (request.subject.length : Int)).1 = endReport request.subject request.start := by
      unfold endReport
      split <;> rfl
    rw [exchange_run]
    exact congrArg Except.ok read
  exchange_usable := fun _ _ _ => trivial

theorem MatchFunction.placesMatch_ofTextEnd : ofTextEnd.Promises Report.PlacesMatch := by
  intro code text start options report boundary answered isMatch
  obtain rfl := Except.ok.inj answered
  have legal : 0 ≤ (start : Int) ∧ Utf8.IsBoundary (Utf8.encode text) (start : Int).toNat :=
    ⟨Int.natCast_nonneg start, boundary⟩
  have atEnd : Utf8.IsBoundary (Utf8.encode text) (Utf8.encode text).length :=
    ⟨Nat.le_refl _, by rw [List.getElem?_eq_none (Nat.le_refl _)]; rfl⟩
  rw [endReport, if_pos legal]
  refine ⟨(Utf8.encode text).length, (Utf8.encode text).length, ?_, boundary.1, Nat.le_refl _,
    atEnd, atEnd⟩
  simp [Report.set?]

theorem Pattern.splitting_loses_nothing_at_end :
    let text : Text := [0x61, 0x62]
    let pieces := ((ofTextEnd.split text { limit := .ofNat 2 }).run ⟨0, []⟩).1
    let elements :=
      ((ofTextEnd.split text { limit := .ofNat 2, withDelimiters := true }).run ⟨0, []⟩).1
    (∃ found, pieces = .ok found ∧ found.length ≤ 2) ∧
      elements.map List.flatten = pieces.map (fun _ => text) ∧
      (∀ position : Nat, pieces.map (·[position]?) = elements.map (·[2 * position]?)) ∧
      (∀ separator : Text,
        ((ofTextEnd.split text { limit := .ofInt (-1) }).run ⟨0, []⟩).1.map separator.intercalate =
          ((ofTextEnd.withMatcher text (Matcher.replaceAll
            (.template (Template.quote separator)))).run ⟨0, []⟩).1) ∧
      ((ofTextEnd.split text { limit := .ofInt (-1) }).run ⟨0, []⟩).1.toOption =
        some [text, []] := by
  have noFault : ∀ outcome ∈ Matcher.findCalls 4 (ofTextEnd.started [0x61, 0x62] ⟨0, []⟩),
      outcome.toOption.isSome = true := List.all_eq_true.mp (by decide +kernel)
  have first : (Matcher.findCalls 1 (ofTextEnd.started [0x61, 0x62] ⟨0, []⟩)).map
      (fun outcome => outcome.toOption.map (·.map (·.span .whole |>.toOption))) =
        [some (some (some (some ⟨2, 2⟩)))] := by decide +kernel
  obtain ⟨whole, alternate, fewer, joined, succeeds⟩ :=
    @splitting_loses_nothing Int (fun _ => True) .ofTextEnd ofTextEnd rfl
      Engine.answersBy_ofTextEnd MatchFunction.placesMatch_ofTextEnd (fun _ _ => trivial)
      [0x61, 0x62] (.ofNat 2) 2 (by decide +kernel) ⟨0, []⟩ ⟨0, []⟩ trivial trivial
  refine ⟨?_, whole, alternate (by decide), joined ?_, by decide +kernel⟩
  · obtain ⟨pieces, isSplit⟩ := succeeds rfl fun outcome mem => by
      have isOk := noFault outcome mem
      cases outcome with
      | error fault => cases isOk
      | ok found => exact ⟨found, rfl⟩
    exact ⟨pieces, isSplit, Int.ofNat_le.mp (fewer (by decide) pieces isSplit)⟩
  · intro snapshot isFound isSpan
    rw [isFound] at first
    simp only [List.map_cons, Except.toOption, Option.map_some, isSpan] at first
    cases first

end RegexMatching
