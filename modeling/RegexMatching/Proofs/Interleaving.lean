import RegexMatching.Proofs.FindLoop
import RegexMatching.Proofs.Templates

/-!
# Replacing as interleaving

A replaced text consists of the gaps between matches, as they are, and of an expansion
for each match.  Here that text is written out from what successive searches come to,
and every way of replacing is shown to lead to it: the append position, the state of the
searching and the last match always belong together.
-/

namespace RegexMatching

namespace Text

/-! ## Slices side by side -/

theorem clampOffset_of_nonneg (length : Nat) {offset : Int} (nonneg : 0 ≤ offset) :
    clampOffset length offset = min offset.toNat length := by
  rw [clampOffset, if_neg (Int.not_lt.mpr nonneg)]

/-- Two slices side by side are one. -/
theorem slice_append_slice (text : Text) {first middle last : Int} (nonneg : 0 ≤ first)
    (leMiddle : first ≤ middle) (leLast : middle ≤ last) :
    text.slice first middle ++ text.slice middle last = text.slice first last := by
  simp only [slice, clampOffset_of_nonneg text.length nonneg,
    clampOffset_of_nonneg text.length (Int.le_trans nonneg leMiddle),
    clampOffset_of_nonneg text.length (Int.le_trans nonneg (Int.le_trans leMiddle leLast))]
  generalize a : min first.toNat text.length = start
  generalize b : min middle.toNat text.length = cut
  generalize c : min last.toNat text.length = stop
  have leCut : start ≤ cut := by omega
  have cutLe : cut ≤ stop := by omega
  have left : text.take cut = (text.take stop).take cut := by
    rw [List.take_take, Nat.min_eq_left cutLe]
  have right : (text.take stop).drop cut = ((text.take stop).drop start).drop (cut - start) := by
    rw [List.drop_drop, Nat.add_sub_cancel' leCut]
  rw [left, right, List.drop_take, List.take_append_drop]

theorem slice_eq_nil (text : Text) {first last : Int} (nonneg : 0 ≤ last) (le : last ≤ first) :
    text.slice first last = [] := by
  simp only [slice, clampOffset_of_nonneg text.length nonneg,
    clampOffset_of_nonneg text.length (Int.le_trans nonneg le)]
  rw [List.drop_eq_nil_iff, List.length_take]
  omega

theorem slice_length (text : Text) : text.slice 0 text.length = text := by
  have slice := slice_eq_between text (Nat.zero_le _) (Nat.le_refl text.length)
  rw [between, List.drop_zero, List.take_length] at slice
  exact slice

/-- The text from a cursor up to `stop`, with other texts in the place of spans of it. -/
def interleave (text : Text) (stop : Int) : Int → List (Span × Text) → Text
  | cursor, [] => text.slice cursor stop
  | cursor, (span, inserted) :: rest =>
      text.slice cursor span.start ++ inserted ++ text.interleave stop span.stop rest

end Text

namespace Replacement

/-! ## What takes the place of a match -/

/-- The span of a match and what takes its place. -/
def substitution (replacement : Replacement) (number : Nat) (snapshot : Snapshot) :
    Except Fault (Span × Text) := do
  let template ← replacement.templateFor number snapshot
  let span ← snapshot.span .whole
  let expansion := Template.expand snapshot.captures template
  match expansion.fault with
  | some fault => throw fault
  | none => return (span.getD .unset, expansion.output)

/-- What takes the place of the matches that successive searches find, from a number on, up
to the first search that finds nothing.  The first fault ends it. -/
def substitutions (replacement : Replacement) :
    Nat → List (Except Fault (Option Snapshot)) → Except Fault (List (Span × Text))
  | _, [] => .ok []
  | _, .error fault :: _ => .error fault
  | _, .ok none :: _ => .ok []
  | number, .ok (some snapshot) :: rest =>
      match replacement.substitution number snapshot with
      | .error fault => .error fault
      | .ok first => (replacement.substitutions (number + 1) rest).map (first :: ·)

end Replacement

namespace Template

/-- The template of the whole match. -/
def whole : Text :=
  Text.ofString "$0"

/-- The template of the whole match expands to its text. -/
theorem expand_whole {captures : Captures} {text : Text} (isPositive : 0 < captures.size)
    (isGroup : captures.group 0 = .ok (some text)) : expand captures whole = ⟨text, none⟩ := by
  have isNumber : numberedGroup captures [CodeUnit.ofChar '0'] = .ok 0 := if_pos isPositive
  have isReference : reference captures [CodeUnit.ofChar '0'] = .ok (0, []) := by
    change (numberedGroup captures [CodeUnit.ofChar '0']).map _ = _
    rw [isNumber]
    rfl
  have isText : groupText captures 0 = .ok text := by
    rw [groupText, isGroup]
    rfl
  rw [show whole = [CodeUnit.ofChar '$', CodeUnit.ofChar '0'] from rfl,
    expand_reference rfl isReference isText, expand_nil, Expansion.after, List.append_nil]

end Template

namespace Matcher

variable {σ : Type} {usable : σ → Prop} {answer : MatchFunction}

/-- The matches that are still to be found and the tail, appended one after the other. -/
def appendMatches (replacement : Replacement) : Nat → Nat → Text → Matching σ Text
  | 0, _, sink => return sink ++ (← get).tail
  | count + 1, number, sink => do
      if ← find then
        let sink ← appendNext replacement number sink
        appendMatches replacement count (number + 1) sink
      else
        return sink ++ (← get).tail

/-! ## One match -/

theorem tail_eq_slice (matcher : Matcher σ) :
    matcher.tail = matcher.text.slice matcher.appendCursor matcher.regionEnd := by
  rw [tail]
  split
  · rfl
  · next ended =>
      rw [Text.slice_eq_nil matcher.text (Int.natCast_nonneg _) (Int.not_lt.mp ended)]

/-- The replacement of a match appends the gap in front of the match and what takes its place,
and moves the append position behind the match. -/
theorem appendNext_exec (replacement : Replacement) (number : Nat) (written : Text)
    {matcher : Matcher σ} {spans : List Span} {mark : Option Text} {span : Span}
    (isFound : matcher.state = .found spans mark) (isFirst : spans.head? = some span)
    (trace : Trace σ) :
    (∃ fault, replacement.substitution number matcher.snapshot = .error fault ∧
        ((appendNext replacement number written).exec ⟨matcher, trace⟩).1 = .error fault) ∨
      ∃ inserted, replacement.substitution number matcher.snapshot = .ok (span, inserted) ∧
        (appendNext replacement number written).exec ⟨matcher, trace⟩ =
          (.ok (written ++ (matcher.text.slice matcher.appendCursor span.start ++ inserted)),
            ⟨{ matcher with appendCursor := span.stop }, trace⟩) := by
  rw [appendNext, Matching.exec_bind, Matching.exec_get]
  dsimp only
  rw [Matching.exec_bind, Matching.exec_ofWork, Work.run_ofExcept, Replacement.substitution,
    span_whole isFound isFirst]
  cases replacement.templateFor number matcher.snapshot with
  | error fault => exact .inl ⟨fault, rfl, rfl⟩
  | ok template =>
      dsimp only
      rw [Matching.exec_bind, Matching.exec_set, appendReplacement, isFound]
      dsimp only
      rw [isFirst]
      cases faulty : (Template.expand matcher.snapshot.captures template).fault with
      | some fault =>
          refine .inl ⟨fault, ?_, ?_⟩
          · simp only [bind, Except.bind, faulty]
            rfl
          · simp only [Expansion.after, faulty]
            rfl
      | none =>
          refine .inr ⟨(Template.expand matcher.snapshot.captures template).output, ?_, ?_⟩
          · simp only [bind, Except.bind, faulty]
            rfl
          · simp only [Expansion.after, faulty]
            rfl

/-! ## One search -/

theorem Consistent.moveAppend {matcher : Matcher σ} (consistent : matcher.Consistent)
    (cursor : Int) : Consistent { matcher with appendCursor := cursor } :=
  ⟨consistent.searched, consistent.region_le, consistent.regionEnd_le, consistent.view,
    consistent.partialMatching, consistent.isOpen⟩

/-- A search leaves the append position. -/
theorem appendCursor_result (answer : MatchFunction) (matcher : Matcher σ) :
    (Call.find.result answer matcher).2.appendCursor = matcher.appendCursor := by
  rw [Call.result]
  split
  · rfl
  · cases matcher.nextStart? with
    | none => rfl
    | some start =>
        dsimp only
        cases matcher.seen.attempted answer start .search with
        | error fault => rfl
        | ok state => cases state <;> rfl

theorem tail_result (answer : MatchFunction) (matcher : Matcher σ) :
    (Call.find.result answer matcher).2.tail = matcher.tail := by
  have task := Call.find.sameTask_result answer matcher
  rw [tail_eq_slice, tail_eq_slice, task.text, task.regionEnd, appendCursor_result]

/-- A search fails, or finds nothing, or finds a match. -/
theorem find_exec_cases {matcher : Matcher σ} (consistent : matcher.Consistent)
    (isPlain : matcher.pattern.canonicalEquivalence = false)
    (answers : matcher.pattern.adapter.engine.AnswersBy usable answer)
    (promises : answer.Promises Report.PlacesMatch) {trace : Trace σ}
    (isUsable : usable trace.engines) :
    (∃ fault, foundBy answer matcher = .error fault ∧
        (find.exec ⟨matcher, trace⟩).1 = .error fault) ∨
      (∃ (after : Matcher σ) (traceAfter : Trace σ),
        after = (Call.find.result answer matcher).2 ∧ foundBy answer matcher = .ok none ∧
        find.exec ⟨matcher, trace⟩ = (.ok false, ⟨after, traceAfter⟩)) ∨
      ∃ (after : Matcher σ) (traceAfter : Trace σ) (spans : List Span) (mark : Option Text)
        (span : Span), after = (Call.find.result answer matcher).2 ∧
        foundBy answer matcher = .ok (some after.snapshot) ∧
        find.exec ⟨matcher, trace⟩ = (.ok true, ⟨after, traceAfter⟩) ∧
        usable traceAfter.engines ∧ after.state = .found spans mark ∧
        spans.head? = some span := by
  obtain ⟨traceAfter, usableAfter, executed⟩ :=
    Call.find.make_exec_eq consistent answers isUsable
  rw [show find.exec _ = _ from executed]
  rcases find_result_cases answer matcher with ⟨fault, isError, -⟩ | ⟨isFalse, -⟩ |
    ⟨start, spans, mark, next, found, result⟩
  · refine .inl ⟨fault, ?_, isError⟩
    rw [foundBy, isError]
    rfl
  · refine .inr (.inl ⟨_, traceAfter, rfl, ?_, by rw [isFalse]⟩)
    rw [foundBy, isFalse]
    rfl
  · have inside := Nat.le_trans (mem_region_of_nextStart? next).2 consistent.regionEnd_le
    obtain ⟨span, isFirst, -⟩ :=
      exists_span_of_attempted consistent.seen isPlain promises inside found
    refine .inr (.inr ⟨_, traceAfter, spans, mark, span, rfl, ?_, ?_, usableAfter, ?_, isFirst⟩)
    · rw [foundBy, result]
      rfl
    · rw [result]
    · rw [result]
      rfl

/-- What later searches find does not depend on the append position. -/
theorem foundCalls_append (answer : MatchFunction) (count : Nat) (matcher : Matcher σ)
    (cursor : Int) :
    foundCalls answer count { matcher with appendCursor := cursor } =
      foundCalls answer count matcher :=
  foundCalls_searching answer count rfl

/-! ## Appending match by match -/

/-- Appending match by match interleaves what lies behind the append position. -/
theorem appendMatches_exec (replacement : Replacement) (count number : Nat) (sink : Text)
    {matcher : Matcher σ} (consistent : matcher.Consistent)
    (isPlain : matcher.pattern.canonicalEquivalence = false)
    (answers : matcher.pattern.adapter.engine.AnswersBy usable answer)
    (promises : answer.Promises Report.PlacesMatch) {trace : Trace σ}
    (isUsable : usable trace.engines) :
    ((appendMatches replacement count number sink).exec ⟨matcher, trace⟩).1 =
      (replacement.substitutions number (foundCalls answer count matcher)).map fun substituted =>
        sink ++ matcher.text.interleave matcher.regionEnd matcher.appendCursor substituted := by
  induction count generalizing number sink matcher trace with
  | zero => exact congrArg (fun tail => Except.ok (sink ++ tail)) matcher.tail_eq_slice
  | succ count ih =>
      rw [appendMatches, foundCalls]
      rcases find_exec_cases consistent isPlain answers promises isUsable with
        ⟨fault, isFault, failed⟩ | ⟨after, traceAfter, isAfter, isNone, executed⟩ |
        ⟨after, traceAfter, spans, mark, span, isAfter, isSome, executed, usableAfter, isFound,
          isFirst⟩
      · rw [isFault]
        exact Matching.exec_bind_of_error failed _
      · rw [Matching.exec_bind, executed, isNone]
        have tail := (isAfter ▸ tail_result answer matcher).trans matcher.tail_eq_slice
        exact congrArg (fun tail => Except.ok (sink ++ tail)) tail
      · rw [Matching.exec_bind, executed, isSome]
        dsimp only
        rw [if_pos rfl, Replacement.substitutions]
        rcases appendNext_exec replacement number sink isFound isFirst traceAfter with
          ⟨fault, isFault, failed⟩ | ⟨inserted, isInserted, appended⟩
        · rw [isFault]
          exact Matching.exec_bind_of_error failed _
        · have task := Call.find.sameTask_result answer matcher
          have consistentAfter := Call.find.consistent_result answer consistent
          have sameCursor := appendCursor_result answer matcher
          rw [← isAfter] at task consistentAfter sameCursor
          rw [Matching.exec_bind, appended, isInserted]
          dsimp only
          -- The next round starts with the append position behind this match.
          rw [ih (number + 1) _ (consistentAfter.moveAppend span.stop) (task.pattern ▸ isPlain)
            (task.pattern ▸ answers) usableAfter, foundCalls_append, ← isAfter]
          dsimp only
          rw [task.text, task.regionEnd, sameCursor]
          cases replacement.substitutions (number + 1) (foundCalls answer count after) with
          | error fault => rfl
          | ok rest => simp only [Except.map, Text.interleave, List.append_assoc]

/-! ## Replacing all matches -/

/-- There are no more matches to be found than offsets in the region. -/
theorem length_matchesOf_foundCalls_le (count : Nat) {matcher : Matcher σ}
    (consistent : matcher.Consistent) (isPlain : matcher.pattern.canonicalEquivalence = false)
    (promises : answer.Promises Report.PlacesMatch) :
    (matchesOf (foundCalls answer count matcher)).length ≤ matcher.text.length + 1 := by
  obtain ⟨spans, reported, pairwise, inRegion⟩ :=
    exists_spans_of_foundCalls count consistent isPlain promises
  have length := congrArg List.length reported
  rw [List.length_map, List.length_map] at length
  have bound := @length_le_of_pairwise matcher.regionStart matcher.regionEnd spans pairwise
    fun span mem => by
      have atSpan := inRegion span mem
      omega
  have inside := consistent.regionEnd_le
  omega

/-- Searches behind the one that ends the matches leave what takes their place. -/
theorem substitutions_foundCalls (replacement : Replacement) (number : Nat) {fewer more : Nat}
    (le : fewer ≤ more) {matcher : Matcher σ}
    (ended : (matchesOf (foundCalls answer fewer matcher)).length < fewer) :
    replacement.substitutions number (foundCalls answer more matcher) =
      replacement.substitutions number (foundCalls answer fewer matcher) := by
  induction fewer generalizing number more matcher with
  | zero => exact absurd ended (Nat.not_lt_zero _)
  | succ fewer ih =>
      obtain ⟨more, rfl⟩ : ∃ rest, more = rest + 1 := ⟨more - 1, by omega⟩
      rw [foundCalls, foundCalls]
      cases outcome : foundBy answer matcher with
      | error fault => rfl
      | ok found =>
          cases found with
          | none => rfl
          | some snapshot =>
              have endedLater : (matchesOf (foundCalls answer fewer
                  (Call.find.result answer matcher).2)).length < fewer := by
                rw [foundCalls, outcome] at ended
                exact Nat.lt_of_succ_lt_succ ended
              rw [Replacement.substitutions, Replacement.substitutions,
                ih (number + 1) (Nat.le_of_succ_le_succ le) endedLater]

/-- Replacing from a match on is appending match by match, as long as there is fuel for every
match. -/
theorem replaceFrom_exec (replacement : Replacement) (fuel number : Nat) (written : Text)
    {matcher : Matcher σ} {spans : List Span} {mark : Option Text} {span : Span}
    (consistent : matcher.Consistent)
    (isPlain : matcher.pattern.canonicalEquivalence = false)
    (answers : matcher.pattern.adapter.engine.AnswersBy usable answer)
    (promises : answer.Promises Report.PlacesMatch) {trace : Trace σ}
    (isUsable : usable trace.engines) (isFound : matcher.state = .found spans mark)
    (isFirst : spans.head? = some span)
    (enough : (matchesOf (foundCalls answer fuel matcher)).length < fuel) :
    ((replaceFrom replacement true fuel number written).exec ⟨matcher, trace⟩).1 =
      ((appendNext replacement number written >>=
        appendMatches replacement fuel (number + 1)).exec ⟨matcher, trace⟩).1 := by
  induction fuel generalizing number written matcher spans mark span trace with
  | zero => exact absurd enough (Nat.not_lt_zero _)
  | succ fuel ih =>
      rw [replaceFrom]
      rcases appendNext_exec replacement number written isFound isFirst trace with
        ⟨fault, -, failed⟩ | ⟨inserted, -, appended⟩
      · rw [Matching.exec_bind_of_error failed, Matching.exec_bind_of_error failed]
      · rw [Matching.exec_bind, Matching.exec_bind, appended]
        dsimp only
        rw [if_pos rfl, appendMatches]
        generalize written ++ (matcher.text.slice matcher.appendCursor span.start ++ inserted) =
          sink
        -- Where the append position is does not change what the searches find.
        have atEnd := foundCalls_append answer (fuel + 1) matcher span.stop
        rw [← atEnd] at enough
        replace consistent := consistent.moveAppend span.stop
        generalize isMoved : { matcher with appendCursor := span.stop } = moved at *
        have samePattern : moved.pattern = matcher.pattern := by rw [← isMoved]
        rw [← samePattern] at isPlain answers
        rcases find_exec_cases consistent isPlain answers promises isUsable with
          ⟨fault, -, failed⟩ | ⟨after, traceAfter, -, -, executed⟩ |
          ⟨after, traceAfter, spans', mark', span', isAfter, isSome, executed, usableAfter,
            isFound', isFirst'⟩
        · rw [Matching.exec_bind_of_error failed, Matching.exec_bind_of_error failed]
        · rw [Matching.exec_bind, Matching.exec_bind, executed]
          rfl
        · have task := Call.find.sameTask_result answer moved
          have consistentAfter := Call.find.consistent_result answer consistent
          rw [← isAfter] at task consistentAfter
          rw [foundCalls, isSome, ← isAfter] at enough
          rw [Matching.exec_bind, Matching.exec_bind, executed]
          exact ih (number + 1) sink consistentAfter (task.pattern ▸ isPlain)
            (task.pattern ▸ answers) usableAfter isFound' isFirst' (Nat.lt_of_succ_lt_succ enough)

/-- The template of the whole match puts a match in its own place. -/
theorem substitution_whole (number : Nat) {snapshot : Snapshot} {span : Span}
    (isSpan : snapshot.span .whole = .ok (some span)) (nonneg : 0 ≤ span.start) :
    Replacement.substitution (.template Template.whole) number snapshot =
      .ok (span, snapshot.text.slice span.start span.stop) := by
  have isGroup : snapshot.captures.group 0 =
      .ok (some (snapshot.text.slice span.start span.stop)) := by
    change (snapshot.span .whole).map _ = _
    rw [isSpan]
    simp only [Except.map, Span.text?, if_neg (Int.not_lt.mpr nonneg)]
  have expanded := Template.expand_whole (Nat.succ_pos snapshot.groupCount) isGroup
  simp only [Replacement.substitution, Replacement.templateFor, isSpan, expanded, bind, Except.bind]
  rfl

theorem text_of_foundBy {matcher : Matcher σ} {snapshot : Snapshot}
    (isFound : foundBy answer matcher = .ok (some snapshot)) : snapshot.text = matcher.text := by
  rw [foundBy] at isFound
  cases outcome : (Call.find.result answer matcher).1 with
  | error fault =>
      rw [outcome] at isFound
      cases isFound
  | ok found =>
      rw [outcome] at isFound
      cases found with
      | false => cases isFound
      | true =>
          obtain rfl := Option.some.inj (Except.ok.inj isFound)
          exact (Call.find.sameTask_result answer matcher).text

/-- Matches that are put in their own places leave the text. -/
theorem interleave_whole (count number : Nat) {matcher : Matcher σ}
    (consistent : matcher.Consistent) (isPlain : matcher.pattern.canonicalEquivalence = false)
    (promises : answer.Promises Report.PlacesMatch)
    (noFault : ∀ outcome ∈ foundCalls answer count matcher, ∃ found, outcome = .ok found)
    (cursor : Int) (nonneg : 0 ≤ cursor)
    (leBehind : cursor ≤ max matcher.behind matcher.regionStart)
    (leEnd : cursor ≤ matcher.regionEnd) :
    ∃ substituted, Replacement.substitutions (.template Template.whole) number
        (foundCalls answer count matcher) = .ok substituted ∧
      matcher.text.interleave matcher.regionEnd cursor substituted =
        matcher.text.slice cursor matcher.regionEnd := by
  induction count generalizing number matcher cursor with
  | zero => exact ⟨[], rfl, rfl⟩
  | succ count ih =>
      rw [foundCalls] at noFault ⊢
      obtain ⟨found, outcome⟩ := noFault _ List.mem_cons_self
      rw [outcome]
      cases found with
      | none => exact ⟨[], rfl, rfl⟩
      | some snapshot =>
          obtain ⟨span, isSpan, leStart, ordered, stopLe, -, stopLeBehind⟩ :=
            exists_span_of_foundBy consistent isPlain promises outcome
          have task := Call.find.sameTask_result answer matcher
          have isText := text_of_foundBy outcome
          obtain ⟨rest, isRest, isSlice⟩ := ih (number + 1)
            (Call.find.consistent_result answer consistent) (task.pattern ▸ isPlain)
            (fun outcome mem => noFault outcome (List.mem_cons_of_mem _ mem))
            span.stop (by omega) (by omega) (by rw [task.regionEnd]; exact stopLe)
          rw [task.text, task.regionEnd] at isSlice
          refine ⟨(span, snapshot.text.slice span.start span.stop) :: rest, ?_, ?_⟩
          · rw [Replacement.substitutions, substitution_whole number isSpan (by omega), isRest]
            rfl
          · rw [Text.interleave, isSlice, isText, List.append_assoc,
              Text.slice_append_slice matcher.text (by omega) ordered stopLe,
              Text.slice_append_slice matcher.text nonneg (by omega) (by omega)]

/-! ## Replacing as interleaving -/

theorem IsRestartOf.atStart {started matcher : Matcher σ}
    (isRestart : started.IsRestartOf matcher) :
    started.text = matcher.text ∧ started.appendCursor = 0 := by
  rcases isRestart with rfl | ⟨start, stop, restricted⟩
  · exact ⟨rfl, rfl⟩
  · rcases region_eq_ok restricted with ⟨first, last, -, -, -, rfl⟩
    exact ⟨rfl, rfl⟩

/-- Replacing is appending match by match from a fresh start on, one match at most if only the
first is wanted. -/
theorem replace_exec (replacement : Replacement) (all : Bool) {matcher : Matcher σ}
    (consistent : matcher.Consistent) (isPlain : matcher.pattern.canonicalEquivalence = false)
    (answers : matcher.pattern.adapter.engine.AnswersBy usable answer)
    (promises : answer.Promises Report.PlacesMatch) {trace : Trace σ}
    (isUsable : usable trace.engines) :
    ((replace replacement all).exec ⟨matcher, trace⟩).1 =
      ((appendMatches replacement ((if all then matchLimit + matcher.text.length else 0) + 1) 0
        []).exec ⟨matcher.reset, trace⟩).1 := by
  rw [replace, Matching.exec_bind, Matching.exec_modify, appendMatches]
  dsimp only
  rcases @find_exec_cases σ usable answer matcher.reset consistent.reset isPlain answers promises
      trace isUsable with
    ⟨fault, -, failed⟩ | ⟨after, traceAfter, isAfter, -, executed⟩ |
    ⟨after, traceAfter, spans, mark, span, isAfter, -, executed, usableAfter, isFound, isFirst⟩
  · rw [Matching.exec_bind_of_error failed, Matching.exec_bind_of_error failed]
  · rw [Matching.exec_bind, Matching.exec_bind, executed]
    have isText : [] ++ after.tail = after.text := by
      rw [isAfter, tail_result, (Call.find.sameTask_result answer matcher.reset).text,
        tail_eq_slice]
      exact matcher.text.slice_length
    exact congrArg Except.ok isText.symm
  · have task := Call.find.sameTask_result answer matcher.reset
    have consistentAfter := Call.find.consistent_result answer consistent.reset
    rw [← isAfter] at task consistentAfter
    have sameText : after.text.length = matcher.text.length := congrArg List.length task.text
    have limit : 1 < matchLimit := by decide
    rw [Matching.exec_bind, Matching.exec_bind, executed]
    dsimp only
    rw [if_pos rfl, if_pos rfl, Matching.exec_bind, Matching.exec_get]
    dsimp only
    rw [sameText]
    cases all with
    | true =>
        have bound := length_matchesOf_foundCalls_le (matchLimit + matcher.text.length)
          consistentAfter (task.pattern ▸ isPlain) promises
        exact replaceFrom_exec replacement _ 0 [] consistentAfter (task.pattern ▸ isPlain)
          (task.pattern ▸ answers) promises usableAfter isFound isFirst (by omega)
    | false =>
        obtain ⟨fuel, isFuel⟩ : ∃ fuel, matchLimit + matcher.text.length = fuel + 1 :=
          ⟨matchLimit + matcher.text.length - 1, by omega⟩
        rw [isFuel]
        rfl

/-- Replacing all matches interleaves the gaps with what takes the place of the matches that
successive searches from a fresh start on find. -/
theorem replaceAll_exec (replacement : Replacement) {matcher : Matcher σ}
    (consistent : matcher.Consistent) (isPlain : matcher.pattern.canonicalEquivalence = false)
    (answers : matcher.pattern.adapter.engine.AnswersBy usable answer)
    (promises : answer.Promises Report.PlacesMatch) {trace : Trace σ}
    (isUsable : usable trace.engines) {count : Nat} (enough : matcher.text.length + 1 < count) :
    ((replaceAll replacement).exec ⟨matcher, trace⟩).1 =
      (replacement.substitutions 0 (foundCalls answer count matcher.reset)).map
        (matcher.text.interleave matcher.text.length 0) := by
  have limit : 1 < matchLimit := by decide
  have ended := length_matchesOf_foundCalls_le (matcher.text.length + 2) consistent.reset isPlain
    promises
  replace ended := Nat.lt_succ_of_le ended
  rw [replaceAll, replace_exec replacement true consistent isPlain answers promises isUsable,
    appendMatches_exec replacement _ 0 [] consistent.reset isPlain answers promises isUsable,
    if_pos rfl, substitutions_foundCalls replacement 0 (by omega) ended,
    ← substitutions_foundCalls replacement 0 enough ended]
  rfl

/-- On an engine that answers by a function and places every match at code points, behind its
start, replacing interleaves the gaps between the matches that successive searches find with
what takes their place, or comes to the first fault.  Appending match by match behind a
restart does the same up to the end of the region, and a match that is put in its own place
leaves the text. -/
theorem replacing_interleaves {matcher : Matcher σ}
    (reached : matcher.Reachable (fun _ => True) fun _ => True)
    (isPlain : matcher.pattern.canonicalEquivalence = false)
    (answers : matcher.pattern.adapter.engine.AnswersBy usable answer)
    (promises : answer.Promises Report.PlacesMatch) {trace : Trace σ}
    (isUsable : usable trace.engines) (replacement : Replacement) {count : Nat}
    (enough : matcher.text.length + 1 < count) :
    ((replaceAll replacement).exec ⟨matcher, trace⟩).1 =
      (replacement.substitutions 0 (findCalls count ⟨matcher.reset, trace⟩)).map
        (matcher.text.interleave matcher.text.length 0) ∧
    ((replaceFirst replacement).exec ⟨matcher, trace⟩).1 =
      (replacement.substitutions 0 ((findCalls count ⟨matcher.reset, trace⟩).take 1)).map
        (matcher.text.interleave matcher.text.length 0) ∧
    (∀ started : Matcher σ, started.IsRestartOf matcher →
      ((appendMatches replacement count 0 []).exec ⟨started, trace⟩).1 =
        (replacement.substitutions 0 (findCalls count ⟨started, trace⟩)).map
          (matcher.text.interleave started.regionEnd 0)) ∧
    ((∀ outcome ∈ findCalls count ⟨matcher.reset, trace⟩, ∃ found, outcome = .ok found) →
      ((replaceAll (.template Template.whole)).exec ⟨matcher, trace⟩).1 = .ok matcher.text) := by
  have consistent := reached.consistent.1
  have started : ∀ (replacement : Replacement) (count : Nat) (started : Matcher σ),
      started.IsRestartOf matcher →
      ((appendMatches replacement count 0 []).exec ⟨started, trace⟩).1 =
        (replacement.substitutions 0 (foundCalls answer count started)).map
          (matcher.text.interleave started.regionEnd 0) := by
    intro replacement count started isRestart
    have samePattern := isRestart.eq.1
    rw [appendMatches_exec replacement count 0 [] (isRestart.consistent consistent)
      (samePattern ▸ isPlain) (samePattern ▸ answers) promises isUsable, isRestart.atStart.1,
      isRestart.atStart.2]
    rfl
  have searched := findCalls_eq count consistent.reset answers isUsable
  have replaced := fun replacement : Replacement =>
    replaceAll_exec replacement consistent isPlain answers promises isUsable enough
  rw [searched]
  refine ⟨replaced replacement, ?_, ?_, ?_⟩
  · obtain ⟨count, rfl⟩ : ∃ rest, count = rest + 1 := ⟨count - 1, by omega⟩
    rw [replaceFirst, replace_exec replacement false consistent isPlain answers promises isUsable,
      started replacement _ _ (.inl rfl)]
    rfl
  · intro restarted isRestart
    rw [started replacement count restarted isRestart,
      findCalls_eq count (isRestart.consistent consistent) (isRestart.eq.1 ▸ answers) isUsable]
  · intro noFault
    obtain ⟨substituted, isSubstituted, isSlice⟩ := interleave_whole count 0 consistent.reset
      isPlain promises noFault 0 (Int.le_refl 0) (by omega) (Int.natCast_nonneg _)
    rw [replaced, isSubstituted]
    exact congrArg Except.ok (isSlice.trans matcher.text.slice_length)

theorem replacing_interleaves_empty :
    let matcher := initial .ofEmptyPattern [0x61, 0xD83D, 0xDE00] true 0
    matcher.text.length + 1 < 5 ∧
      ((replaceAll (.template Template.whole)).exec ⟨matcher, ⟨0, []⟩⟩).1 = .ok matcher.text ∧
      ((replaceAll (.template [0x2D])).exec ⟨matcher, ⟨0, []⟩⟩).1.toOption =
        some [0x2D, 0x61, 0x2D, 0xD83D, 0xDE00, 0x2D] := by
  have isCreated : (create .ofEmptyPattern [0x61, 0xD83D, 0xDE00] {}).run ⟨0, []⟩ =
      (.ok (initial .ofEmptyPattern [0x61, 0xD83D, 0xDE00] true 0), ⟨0, []⟩) := rfl
  have reached : (initial .ofEmptyPattern [0x61, 0xD83D, 0xDE00] true 0).Reachable
      (fun _ => True) fun _ => True := .created trivial trivial isCreated
  have noFault : ∀ outcome ∈
      findCalls 5 ⟨(initial .ofEmptyPattern [0x61, 0xD83D, 0xDE00] true 0).reset, ⟨0, []⟩⟩,
      outcome.toOption.isSome = true := List.all_eq_true.mp (by decide +kernel)
  have replaced := @replacing_interleaves Int (fun _ => True) .ofEmptyPattern _ reached rfl
    Engine.answersBy_ofEmptyPattern MatchFunction.placesMatch_ofEmptyPattern ⟨0, []⟩ trivial
    (.template [0x2D]) 5 (by decide)
  refine ⟨by decide, replaced.2.2.2 ?_, ?_⟩
  · intro outcome mem
    have isOk := noFault outcome mem
    cases outcome with
    | error fault => cases isOk
    | ok found => exact ⟨found, rfl⟩
  · rw [replaced.1]
    decide +kernel

end Matcher

end RegexMatching
