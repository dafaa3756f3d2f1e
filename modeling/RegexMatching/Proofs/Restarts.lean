import RegexMatching.Proofs.Acts

/-!
# Histories that do not matter

What searches find depends on the pattern, the text, the region, the settings and what the last
search came to.  An operation that discards the match leaves the same as there is on a new matcher
with the same region, and what has been computed of the text before is what would be computed
anew.  So nothing that was done with a matcher in front of such an operation can be told behind
it.
-/

namespace RegexMatching

/-! ## Regions by offset -/

/-- The number of an offset. -/
def Number.ofOffset (offset : Nat) : Number :=
  .finite false offset 0

theorem Number.toIndex?_ofOffset {offset bound : Nat} (inside : offset ≤ bound) :
    (Number.ofOffset offset).toIndex? bound = some offset := by
  have isInt : (Number.ofOffset offset).toInt? = some (offset : Int) := by
    simp [toInt?, isInteger, truncate?, ofOffset, power, Nat.mod_one]
  rw [toIndex?, isInt]
  exact if_pos inside

namespace Matcher

variable {σ : Type} {usable : σ → Prop} {answer : MatchFunction}

/-- Any part of the text is taken for a region. -/
theorem region_ofOffset (matcher : Matcher σ) {first last : Nat} (ordered : first ≤ last)
    (inside : last ≤ matcher.text.length) :
    matcher.region (.ofOffset first) (.ofOffset last) = .ok (matcher.restrictedTo first last) := by
  rw [region, Number.toIndex?_ofOffset (Nat.le_trans ordered inside),
    Number.toIndex?_ofOffset inside]
  exact if_neg (Nat.not_lt.mpr ordered)

/-! ## Matchers that search alike -/

/-- Matchers that differ in nothing that searches depend on. -/
structure Alike (matcher other : Matcher σ) : Prop where
  consistent : matcher.Consistent
  consistent' : other.Consistent
  same : matcher.searching = other.searching

/-- Matchers that search alike, on usable engines that answer by a function. -/
structure AlikeNow (usable : σ → Prop) (answer : MatchFunction)
    (configuration other : Configuration σ) : Prop where
  alike : configuration.matcher.Alike other.matcher
  answers : configuration.matcher.pattern.adapter.engine.AnswersBy usable answer
  isUsable : usable configuration.trace.engines
  isUsable' : usable other.trace.engines

/-- Work that comes to the same on matchers that search alike, and leaves them alike. -/
def AgreesOn {α : Type} (usable : σ → Prop) (answer : MatchFunction) (matching : Matching σ α) :
    Prop :=
  ∀ configuration other : Configuration σ, AlikeNow usable answer configuration other →
    (matching.exec configuration).1 = (matching.exec other).1 ∧
      AlikeNow usable answer (matching.exec configuration).2 (matching.exec other).2

/-- What is read of a matcher without what searches do not depend on. -/
def IsSearching {α : Type} (read : Matcher σ → α) : Prop :=
  ∀ matcher, read matcher.searching = read matcher

theorem Alike.read_eq {α : Type} {read : Matcher σ → α} (isSearching : IsSearching read)
    {matcher other : Matcher σ} (alike : matcher.Alike other) : read matcher = read other := by
  rw [← isSearching matcher, alike.same, isSearching other]

/-- Forgetting the last match keeps matchers alike. -/
theorem Alike.clearMatch {matcher other : Matcher σ} (alike : matcher.Alike other) :
    matcher.clearMatch.Alike other.clearMatch :=
  ⟨alike.consistent.clearMatch, alike.consistent'.clearMatch,
    congrArg Matcher.clearMatch alike.same⟩

/-- Ending the search keeps matchers alike. -/
theorem Alike.exhaust {matcher other : Matcher σ} (alike : matcher.Alike other) :
    (matcher.settle .search (.noMatch false)).Alike (other.settle .search (.noMatch false)) :=
  ⟨alike.consistent.settle .search (.noMatch false),
    alike.consistent'.settle .search (.noMatch false),
    congrArg (settle · .search (.noMatch false)) alike.same⟩

namespace AgreesOn

variable {α β : Type}

theorem pure (value : α) : AgreesOn usable answer (Pure.pure value : Matching σ α) :=
  fun _ _ alike => ⟨rfl, alike⟩

theorem bind {matching : Matching σ α} {next : α → Matching σ β}
    (first : AgreesOn usable answer matching)
    (second : ∀ value, AgreesOn usable answer (next value)) :
    AgreesOn usable answer (matching >>= next) := by
  intro configuration other alike
  obtain ⟨sameOutcome, alikeAfter⟩ := first _ _ alike
  rw [Matching.exec_bind, Matching.exec_bind]
  generalize matching.exec configuration = done, matching.exec other = done' at *
  rcases done with ⟨outcome, after⟩
  rcases done' with ⟨outcome', after'⟩
  obtain rfl : outcome = outcome' := sameOutcome
  cases outcome with
  | error fault => exact ⟨rfl, alikeAfter⟩
  | ok value => exact second value _ _ alikeAfter

/-- Work that goes on with what it reads of a matcher. -/
theorem read (value : Matcher σ → α) (isSearching : IsSearching value)
    {next : α → Matching σ β} (second : ∀ value, AgreesOn usable answer (next value)) :
    AgreesOn usable answer (do next (value (← get))) := by
  intro configuration other alike
  rw [Matching.exec_bind, Matching.exec_bind, Matching.exec_get, Matching.exec_get]
  dsimp only
  rw [alike.alike.read_eq isSearching]
  exact second _ _ _ alike

/-- Searches from one offset end alike. -/
theorem search {start : Nat} {anchoring : Anchoring} {configuration other : Configuration σ}
    (alike : AlikeNow usable answer configuration other)
    (inside : start ≤ configuration.matcher.text.length) :
    ((Matcher.search start anchoring).exec configuration).1 =
        ((Matcher.search start anchoring).exec other).1 ∧
      AlikeNow usable answer ((Matcher.search start anchoring).exec configuration).2
        ((Matcher.search start anchoring).exec other).2 := by
  have sameText : configuration.matcher.text = other.matcher.text :=
    alike.alike.read_eq fun _ => rfl
  have samePattern : configuration.matcher.pattern = other.matcher.pattern :=
    alike.alike.read_eq fun _ => rfl
  obtain ⟨trace, usableAfter, executed⟩ := search_exec_eq alike.alike.consistent alike.answers
    inside anchoring alike.isUsable
  obtain ⟨trace', usableAfter', executed'⟩ := search_exec_eq alike.alike.consistent'
    (samePattern ▸ alike.answers) (sameText ▸ inside) anchoring alike.isUsable'
  have step := Step.search configuration start anchoring fun _ => inside
  have step' := Step.search other start anchoring fun _ => sameText ▸ inside
  have concluded := conclude_searching answer configuration.matcher start anchoring
  have concluded' := conclude_searching answer other.matcher start anchoring
  have kept := (step.same alike.alike.consistent).1
  have consistent := step.consistent alike.alike.consistent
  have consistent' := step'.consistent alike.alike.consistent'
  rw [executed] at kept consistent ⊢
  rw [executed'] at consistent' ⊢
  rw [alike.alike.same] at concluded
  refine ⟨concluded.1.symm.trans concluded'.1, ⟨consistent, consistent', ?_⟩, ?_, usableAfter,
    usableAfter'⟩
  · exact concluded.2.symm.trans concluded'.2
  · exact kept ▸ alike.answers

theorem lookingAt : AgreesOn usable answer (Matcher.lookingAt : Matching σ Bool) := by
  intro configuration other alike
  have sameStart : configuration.matcher.regionStart = other.matcher.regionStart :=
    alike.alike.read_eq fun _ => rfl
  rw [lookingAt_exec, lookingAt_exec, ← sameStart]
  exact search alike alike.alike.consistent.regionStart_le

theorem matchWhole : AgreesOn usable answer (Matcher.matchWhole : Matching σ Bool) := by
  intro configuration other alike
  have sameStart : configuration.matcher.regionStart = other.matcher.regionStart :=
    alike.alike.read_eq fun _ => rfl
  rw [matchWhole_exec, matchWhole_exec, ← sameStart]
  exact search alike alike.alike.consistent.regionStart_le

theorem find : AgreesOn usable answer (Matcher.find : Matching σ Bool) := by
  intro configuration other alike
  have sameEnd : configuration.matcher.isExhausted = other.matcher.isExhausted :=
    alike.alike.read_eq fun _ => rfl
  have sameNext : configuration.matcher.nextStart? = other.matcher.nextStart? :=
    alike.alike.read_eq fun _ => rfl
  rw [find_exec, find_exec, ← sameEnd, ← sameNext]
  split
  · exact ⟨rfl, alike⟩
  cases next : configuration.matcher.nextStart? with
  | none =>
      exact ⟨rfl, alike.alike.exhaust, alike.answers, alike.isUsable, alike.isUsable'⟩
  | some start =>
      exact search alike (Nat.le_trans (mem_region_of_nextStart? next).2
        alike.alike.consistent.regionEnd_le)

theorem next (iteration : Iteration) :
    AgreesOn usable answer (iteration.next : Matching σ (Option Snapshot)) := by
  have searching : AgreesOn usable answer
      ((do
        if ← Matcher.find then
          return some (← MonadState.get).snapshot
        else
          return none : Matching σ (Option Snapshot))) := by
    refine find.bind fun isFound => ?_
    cases isFound with
    | false => exact pure none
    | true => exact read snapshot (fun _ => rfl) fun snapshot => pure (some snapshot)
  cases iteration with
  | ended => exact pure none
  | running => exact searching
  | notStarted =>
      intro configuration other alike
      have cleared : AlikeNow usable answer
          { configuration with matcher := configuration.matcher.clearMatch }
          { other with matcher := other.matcher.clearMatch } :=
        ⟨alike.alike.clearMatch, alike.answers, alike.isUsable, alike.isUsable'⟩
      exact searching _ _ cleared

theorem findAll (count : Nat) :
    AgreesOn usable answer (Matcher.findAll count : Matching σ (List Snapshot)) := by
  induction count with
  | zero => exact pure []
  | succ count ih =>
      refine find.bind fun isFound => ?_
      cases isFound with
      | false => exact pure []
      | true =>
          exact read snapshot (fun _ => rfl) fun snapshot =>
            ih.bind fun found => pure (snapshot :: found)

theorem results (iteration : Iteration) (count : Nat) :
    AgreesOn usable answer (Matcher.results iteration count : Matching σ (List Snapshot)) := by
  induction count generalizing iteration with
  | zero => exact pure []
  | succ count ih =>
      refine (next iteration).bind fun snapshot? => ?_
      cases snapshot? with
      | none => exact pure []
      | some snapshot => exact (ih _).bind fun found => pure (snapshot :: found)

end AgreesOn

/-! ## Acts that search and ask -/

/-- Whether an act searches, or asks for what a search has come to. -/
def Act.looks : Act σ → Bool
  | .perform (.ask _) | .perform .find | .perform .lookingAt | .perform .matchWhole
  | .perform .hasPartialMatch | .perform .mark | .perform .regionStart | .perform .regionEnd
  | .perform .source | .perform .describe | .perform (.findAll _) | .perform (.results _)
  | .advance _ => true
  | _ => false

/-- An act that looks comes to the same on matchers that search alike. -/
theorem Act.agreesOn_make {act : Act σ} (looks : act.looks = true) :
    AgreesOn usable answer act.make := by
  have ask : ∀ value : Matcher σ → Reply, IsSearching value →
      AgreesOn usable answer (do return value (← get) : Matching σ Reply) :=
    fun value isSearching => .read value isSearching fun _ => .pure _
  cases act with
  | advance iteration => exact (AgreesOn.next iteration).bind fun _ => .pure _
  | perform operation =>
      cases operation with
      | ask query =>
          intro configuration other alike
          have sameSnapshot : configuration.matcher.snapshot = other.matcher.snapshot :=
            alike.alike.read_eq fun _ => rfl
          exact ⟨congrArg (Snapshot.reply · query) sameSnapshot, alike⟩
      | find => exact AgreesOn.find.bind fun _ => .pure _
      | lookingAt => exact AgreesOn.lookingAt.bind fun _ => .pure _
      | matchWhole => exact AgreesOn.matchWhole.bind fun _ => .pure _
      | hasPartialMatch =>
          exact ask (fun matcher => .flag matcher.hasPartialMatch) fun _ => rfl
      | mark => exact ask (fun matcher => .text matcher.mark) fun _ => rfl
      | regionStart => exact ask (fun matcher => .count matcher.regionStart) fun _ => rfl
      | regionEnd => exact ask (fun matcher => .count matcher.regionEnd) fun _ => rfl
      | source => exact ask (fun matcher => .text matcher.pattern.source) fun _ => rfl
      | describe => exact ask (fun matcher => .text matcher.toText) fun _ => rfl
      | findAll count => exact (AgreesOn.findAll count).bind fun _ => .pure _
      | results count => exact (AgreesOn.results .notStarted count).bind fun _ => .pure _
      | _ => contradiction

/-- Visits that look come to the same on matchers that search alike, whatever the engines were
used for in between. -/
theorem Alike.replies_eq {visits visits' : List (Visit σ)} {matcher other : Matcher σ}
    (alike : matcher.Alike other)
    (answers : matcher.pattern.adapter.engine.AnswersBy usable answer)
    (sameActs : visits.map Visit.act = visits'.map Visit.act)
    (look : ∀ visit ∈ visits, visit.act.looks = true ∧ usable visit.trace.engines)
    (areUsable : ∀ visit ∈ visits', usable visit.trace.engines) :
    replies visits matcher = replies visits' other ∧
      (matcher.behindVisits visits).Alike (other.behindVisits visits') := by
  induction visits generalizing visits' matcher other with
  | nil =>
      rw [List.map_nil, eq_comm, List.map_eq_nil_iff] at sameActs
      subst sameActs
      exact ⟨rfl, alike⟩
  | cons visit rest ih =>
      cases visits' with
      | nil => cases sameActs
      | cons visit' rest' =>
          rw [List.map_cons, List.map_cons, List.cons.injEq] at sameActs
          obtain ⟨looks, isUsable⟩ := look visit List.mem_cons_self
          have agreesOn : AgreesOn usable answer visit.act.make := Act.agreesOn_make looks
          have agrees := agreesOn ⟨matcher, visit.trace⟩ ⟨other, visit'.trace⟩
            ⟨alike, answers, isUsable, areUsable visit' List.mem_cons_self⟩
          have sameReply : (visit.result matcher).1 = (visit'.result other).1 := by
            rw [Visit.result, Visit.result, ← sameActs.1]
            exact agrees.1
          have sameAfter : (visit.result matcher).2.Alike (visit'.result other).2 := by
            rw [Visit.result, Visit.result, ← sameActs.1]
            exact agrees.2.alike
          have goesOn := ih sameAfter agrees.2.answers sameActs.2
            (fun other mem => look other (List.mem_cons_of_mem visit mem))
            fun other mem => areUsable other (List.mem_cons_of_mem visit' mem)
          rw [replies, replies, sameReply]
          exact ⟨congrArg _ goesOn.1, goesOn.2⟩

/-! ## Operations that discard the match -/

/-- Whether an operation discards the match that is held and goes back to the start of the
region. -/
def Operation.discards : Operation σ → Bool
  | .reset | .resetTo _ | .region _ _ | .useAnchoringBounds _ | .usePattern _ => true
  | _ => false

/-- Behind an operation that discards the match there is nothing left to forget. -/
theorem Operation.clearMatch_eq_of_discards {operation : Operation σ}
    (discards : operation.discards = true) {configuration after : Configuration σ} {reply : Reply}
    (performed : (perform operation).exec configuration = (.ok reply, after)) :
    after.matcher.clearMatch = after.matcher := by
  cases operation with
  | reset =>
      obtain ⟨-, rfl⟩ := Prod.mk.inj performed
      rfl
  | resetTo text =>
      obtain ⟨-, rfl⟩ := Prod.mk.inj performed
      rfl
  | useAnchoringBounds value =>
      obtain ⟨-, rfl⟩ := Prod.mk.inj performed
      rfl
  | region start stop =>
      rw [perform, Matching.exec_bind, change_exec, Work.run_ofExcept] at performed
      cases restricted : configuration.matcher.region start stop with
      | error fault =>
          rw [restricted] at performed
          cases performed
      | ok matcher =>
          rw [restricted] at performed
          rcases region_eq_ok restricted with ⟨first, last, -, -, -, rfl⟩
          obtain ⟨-, rfl⟩ := Prod.mk.inj performed
          rfl
  | usePattern pattern =>
      rw [perform, Matching.exec_bind, change_exec, usePattern_run] at performed
      cases isClosed : pattern.isClosed with
      | true =>
          rw [isClosed] at performed
          cases performed
      | false =>
          rw [isClosed] at performed
          obtain ⟨-, rfl⟩ := Prod.mk.inj performed
          rfl
  | _ => contradiction

/-- A new matcher with a matcher's pattern, text and settings, restricted to its region, searches
like the matcher does once that has forgotten its match. -/
theorem exists_started_alike {matcher : Matcher σ} (consistent : matcher.Consistent)
    (cleared : matcher.clearMatch = matcher) (trace : Trace σ) :
    ∃ fresh started after,
      (create matcher.pattern matcher.text
        ⟨matcher.anchoringBounds, matcher.partialMatching⟩).run trace = (.ok fresh, after) ∧
      fresh.region (.ofOffset matcher.regionStart) (.ofOffset matcher.regionEnd) = .ok started ∧
      matcher.Alike started := by
  obtain ⟨fresh, after, created, samePattern, sameText, sameBounds, samePartial⟩ :
      ∃ fresh after, (create matcher.pattern matcher.text
          ⟨matcher.anchoringBounds, matcher.partialMatching⟩).run trace = (.ok fresh, after) ∧
        fresh.pattern = matcher.pattern ∧ fresh.text = matcher.text ∧
        fresh.anchoringBounds = matcher.anchoringBounds ∧
        fresh.partialMatching = matcher.partialMatching :=
    ⟨_, _, create_run_of_supported consistent.isOpen consistent.partialMatching _ _, rfl, rfl, rfl,
      rfl⟩
  have restricted := fresh.region_ofOffset consistent.region_le
    (sameText ▸ consistent.regionEnd_le)
  have startedConsistent := (create_consistent created).1.region restricted
  have task : matcher.SameTask (fresh.restrictedTo matcher.regionStart matcher.regionEnd) :=
    ⟨samePattern, sameText, rfl, rfl, sameBounds, samePartial⟩
  refine ⟨fresh, _, after, created, restricted, consistent, startedConsistent, ?_⟩
  have same := searching_clearMatch_eq consistent startedConsistent task
  rw [cleared] at same
  exact same.symm

/-- On every reachable matcher the searched text, and the bytes of the region if they have been
computed, are what would be computed anew.  Behind an operation that discards the match, visits
that search and ask come to the same as on a new matcher with the same pattern, text and settings
that is restricted to the same region, and they leave the same behind. -/
theorem searches_forget_history {matcher : Matcher σ}
    (reached : matcher.Reachable (fun _ => True) fun _ => True) :
    (matcher.searched = .ofText matcher.text matcher.pattern.canonicalEquivalence ∧
      ∀ view ∈ matcher.view, matcher.measureRegion = .ok view) ∧
    ∀ (operation : Operation σ) (trace : Trace σ) (reply : Reply) (after : Configuration σ),
      operation.discards = true →
      (perform operation).exec ⟨matcher, trace⟩ = (.ok reply, after) →
      ∀ created : Trace σ, ∃ fresh started behindCreated,
        (create after.matcher.pattern after.matcher.text
          ⟨after.matcher.anchoringBounds, after.matcher.partialMatching⟩).run created =
            (.ok fresh, behindCreated) ∧
        fresh.region (.ofOffset after.matcher.regionStart) (.ofOffset after.matcher.regionEnd) =
          .ok started ∧
        ∀ (usable : σ → Prop) (answer : MatchFunction),
          after.matcher.pattern.adapter.engine.AnswersBy usable answer →
          ∀ visits visits' : List (Visit σ), visits.map Visit.act = visits'.map Visit.act →
          (∀ visit ∈ visits, visit.act.looks = true ∧ usable visit.trace.engines) →
          (∀ visit ∈ visits', usable visit.trace.engines) →
          replies visits after.matcher = replies visits' started ∧
            (after.matcher.behindVisits visits).searching =
              (started.behindVisits visits').searching := by
  have consistent := reached.consistent.1
  refine ⟨⟨consistent.searched, consistent.view⟩, ?_⟩
  intro operation trace reply after discards performed created
  have consistentAfter : after.matcher.Consistent := by
    have kept : ((perform operation).exec ⟨matcher, trace⟩).2.matcher.Consistent :=
      perform_consistent operation consistent
    rwa [performed] at kept
  obtain ⟨fresh, started, behindCreated, isCreated, restricted, alike⟩ :=
    exists_started_alike consistentAfter
      (operation.clearMatch_eq_of_discards discards performed) created
  refine ⟨fresh, started, behindCreated, isCreated, restricted, ?_⟩
  intro usable answer answers visits visits' sameActs look areUsable
  have same := alike.replies_eq answers sameActs look areUsable
  exact ⟨same.1, same.2.same⟩

/-- A matcher that has found the first match of the empty pattern finds it again behind a change of
the bounds, as a new matcher would. -/
theorem searches_forget_history_empty :
    let matcher := ((perform .find).exec
      ⟨initial .ofEmptyPattern [0x61, 0x62] true 0, ⟨0, []⟩⟩).2.matcher
    matcher.hasMatch = true ∧ ∃ fresh started behindCreated,
      (create matcher.pattern matcher.text ⟨false, matcher.partialMatching⟩).run ⟨0, []⟩ =
        (.ok fresh, behindCreated) ∧
      fresh.region (.ofOffset matcher.regionStart) (.ofOffset matcher.regionEnd) = .ok started ∧
      replies [⟨.perform .find, ⟨0, []⟩⟩, ⟨.advance .running, ⟨0, []⟩⟩]
          (matcher.useAnchoringBounds false) =
        replies [⟨.perform .find, ⟨5, []⟩⟩, ⟨.advance .running, ⟨3, []⟩⟩] started := by
  have isCreated : (create .ofEmptyPattern [0x61, 0x62] {}).run ⟨0, []⟩ =
      (.ok (initial .ofEmptyPattern [0x61, 0x62] true 0), ⟨0, []⟩) := rfl
  have reached : ∀ allowed : Pattern Int → Prop, allowed .ofEmptyPattern →
      ((perform .find).exec ⟨initial .ofEmptyPattern [0x61, 0x62] true 0,
        ⟨0, []⟩⟩).2.matcher.Reachable allowed fun _ => True := fun allowed isAllowed =>
    .performed (.created isAllowed trivial isCreated) .find trivial ⟨0, []⟩ trivial
  have answers : ((perform .find).exec ⟨initial .ofEmptyPattern [0x61, 0x62] true 0,
      ⟨0, []⟩⟩).2.matcher.pattern.adapter.engine.AnswersBy (fun _ => True) .ofEmptyPattern := by
    rw [(reached (· = .ofEmptyPattern) rfl).consistent.2]
    exact Engine.answersBy_ofEmptyPattern
  obtain ⟨fresh, started, behindCreated, created, restricted, alike⟩ :=
    (searches_forget_history (reached (fun _ => True) trivial)).2 (.useAnchoringBounds false)
      ⟨0, []⟩ _ _ rfl rfl ⟨0, []⟩
  refine ⟨by decide +kernel, fresh, started, behindCreated, created, restricted, ?_⟩
  refine (alike (fun _ => True) .ofEmptyPattern answers [⟨.perform .find, ⟨0, []⟩⟩,
    ⟨.advance .running, ⟨0, []⟩⟩] [⟨.perform .find, ⟨5, []⟩⟩, ⟨.advance .running, ⟨3, []⟩⟩] rfl
    (fun visit mem => ?_) fun _ _ => trivial).1
  simp only [List.mem_cons, List.not_mem_nil, or_false] at mem
  rcases mem with rfl | rfl <;> exact ⟨rfl, trivial⟩

end Matcher

end RegexMatching
