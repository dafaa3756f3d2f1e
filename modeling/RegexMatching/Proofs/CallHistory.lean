import RegexMatching.Proofs.EmptyPattern
import RegexMatching.Proofs.Reachable
import RegexMatching.Proofs.SearchLoops

/-!
# Histories of calls

A matcher keeps what its last attempt at a match came to, not how it got there.  Here every
operation also takes down the calls that look for a match and return, from the last time that
the match was discarded on.  Leaving the calls out gives the operation back, and the calls
alone tell whether the matcher holds a match.

A search behind one that has failed returns at once and makes no attempt.  What the matcher
holds then is what an attempt of another kind has left.
-/

namespace RegexMatching

/-- A call that has looked for a match and returned. -/
structure ReturnedCall where
  anchoring : Anchoring
  /-- What it returned. -/
  isMatch : Bool
deriving DecidableEq

namespace ReturnedCall

/-- Whether a call goes on with the search, as opposed to matching at the region start. -/
def isFind (call : ReturnedCall) : Bool :=
  call.anchoring == .search

/-- Whether later searches will return at once. -/
def endsSearching (call : ReturnedCall) : Bool :=
  call.isFind && !call.isMatch

/-- Whether a call behind others returned at once, without an attempt. -/
def isRefused (earlier : List ReturnedCall) (call : ReturnedCall) : Bool :=
  call.isFind && earlier.any endsSearching

/-- The calls that made an attempt.  Once a search has failed, only those of other kinds do. -/
def attempts : List ReturnedCall → List ReturnedCall
  | [] => []
  | call :: later =>
      call :: if call.endsSearching then later.filter (!·.isFind) else attempts later

/-- Whether the last attempt matched. -/
def matchedLast (calls : List ReturnedCall) : Bool :=
  (attempts calls).getLast?.any isMatch

theorem attempts_concat (calls : List ReturnedCall) (call : ReturnedCall) :
    attempts (calls ++ [call]) =
      attempts calls ++ if call.isRefused calls then [] else [call] := by
  induction calls with
  | nil => simp [attempts, isRefused]
  | cons first later ih =>
      rw [List.cons_append, attempts, attempts, ih]
      cases ends : first.endsSearching with
      | true => cases isFind : call.isFind <;> simp [isRefused, ends, isFind]
      | false => simp [isRefused, ends]

theorem matchedLast_concat_of_isRefused {calls : List ReturnedCall} {call : ReturnedCall}
    (refused : call.isRefused calls = true) :
    matchedLast (calls ++ [call]) = matchedLast calls := by
  rw [matchedLast, attempts_concat, if_pos refused, List.append_nil, matchedLast]

theorem matchedLast_concat {calls : List ReturnedCall} {call : ReturnedCall}
    (attempted : call.isRefused calls = false) : matchedLast (calls ++ [call]) = call.isMatch := by
  rw [matchedLast, attempts_concat, attempted, if_neg Bool.false_ne_true, List.getLast?_concat,
    Option.any_some]

end ReturnedCall

/-! ## Taking calls down -/

/-- Work with a matcher that takes down the calls since the match was last discarded. -/
abbrev Noting (σ α : Type) :=
  ExceptT Fault (StateT (List ReturnedCall) (StateT (Matcher σ) (StateM (Trace σ)))) α

namespace Noting

variable {σ α β : Type}

/-- Work that has no call to take down. -/
def plain (matching : Matching σ α) : Noting σ α :=
  ExceptT.mk fun calls matcher trace =>
    let ((outcome, matcher), trace) := (matching.run matcher).run trace
    (((outcome, calls), matcher), trace)

/-- Work that discards the match, unless it fails. -/
def discarding (matching : Matching σ α) : Noting σ α := do
  let value ← plain matching
  set ([] : List ReturnedCall)
  return value

/-- A call that looks for a match.  It is taken down once it returns. -/
def calling (anchoring : Anchoring) (matching : Matching σ Bool) : Noting σ Bool := do
  let isMatch ← plain matching
  modify (· ++ [⟨anchoring, isMatch⟩])
  return isMatch

/-- Run work behind some calls. -/
def exec (noting : Noting σ α) (calls : List ReturnedCall) (configuration : Configuration σ) :
    Except Fault α × List ReturnedCall × Configuration σ :=
  let (((outcome, calls), matcher), trace) :=
    ((noting.run calls).run configuration.matcher).run configuration.trace
  (outcome, calls, ⟨matcher, trace⟩)

@[simp]
theorem exec_pure (value : α) (calls : List ReturnedCall) (configuration : Configuration σ) :
    (pure value : Noting σ α).exec calls configuration = (.ok value, calls, configuration) :=
  rfl

theorem exec_plain (matching : Matching σ α) (calls : List ReturnedCall)
    (configuration : Configuration σ) :
    (plain matching).exec calls configuration =
      ((matching.exec configuration).1, calls, (matching.exec configuration).2) :=
  rfl

/-- Work in two parts fails with the first part, or goes on with the second. -/
theorem exec_bind (noting : Noting σ α) (next : α → Noting σ β) (calls : List ReturnedCall)
    (configuration : Configuration σ) :
    (noting >>= next).exec calls configuration =
      match noting.exec calls configuration with
      | (.ok value, calls, after) => (next value).exec calls after
      | (.error fault, calls, after) => (.error fault, calls, after) := by
  rcases configuration with ⟨matcher, trace⟩
  change
    (let (((outcome, calls), matcher), trace) :=
      ExceptT.bindCont next (((noting.run calls).run matcher).run trace).1.1.1
        (((noting.run calls).run matcher).run trace).1.1.2
        (((noting.run calls).run matcher).run trace).1.2
        (((noting.run calls).run matcher).run trace).2
    (outcome, calls, (⟨matcher, trace⟩ : Configuration σ))) = _
  rw [exec]
  rcases ((noting.run calls).run matcher).run trace with ⟨⟨⟨outcome, calls'⟩, after⟩, traceAfter⟩
  cases outcome <;> rfl

theorem exec_discarding (matching : Matching σ α) (calls : List ReturnedCall)
    (configuration : Configuration σ) :
    (discarding matching).exec calls configuration =
      match matching.exec configuration with
      | (.ok value, after) => (.ok value, [], after)
      | (.error fault, after) => (.error fault, calls, after) := by
  rw [discarding, exec_bind, exec_plain]
  rcases matching.exec configuration with ⟨outcome, after⟩
  cases outcome <;> rfl

theorem exec_calling (anchoring : Anchoring) (matching : Matching σ Bool)
    (calls : List ReturnedCall) (configuration : Configuration σ) :
    (calling anchoring matching).exec calls configuration =
      match matching.exec configuration with
      | (.ok isMatch, after) => (.ok isMatch, calls ++ [⟨anchoring, isMatch⟩], after)
      | (.error fault, after) => (.error fault, calls, after) := by
  rw [calling, exec_bind, exec_plain]
  rcases matching.exec configuration with ⟨outcome, after⟩
  cases outcome <;> rfl

end Noting

namespace Matcher

variable {σ : Type}

/-! ## Operations that take calls down -/

def notedFind : Noting σ Bool :=
  .calling .search find

def notedFindFrom (start : Number) : Noting σ Bool := do
  let matcher ← Noting.plain get
  match start.toIndex? matcher.text.length with
  | none => Noting.plain (throw (.startOutOfRange start))
  | some index =>
      Noting.discarding (set matcher.reset)
      Noting.calling .search (search index .search)

def notedFindAll : Nat → Noting σ (List Snapshot)
  | 0 => return []
  | count + 1 => do
      if ← notedFind then
        let snapshot := (← Noting.plain get).snapshot
        return snapshot :: (← notedFindAll count)
      else
        return []

def notedNext (iteration : Iteration) : Noting σ (Option Snapshot) := do
  match iteration with
  | .ended => return none
  | .notStarted => Noting.discarding (modify clearMatch)
  | .running => pure ()
  if ← notedFind then
    return some (← Noting.plain get).snapshot
  else
    return none

def notedResults (iteration : Iteration) : Nat → Noting σ (List Snapshot)
  | 0 => return []
  | count + 1 => do
      match ← notedNext iteration with
      | none => return []
      | some snapshot =>
          return snapshot :: (← notedResults (.after (.ok (some snapshot))) count)

def notedReplaceFrom (replacement : Replacement) (all : Bool) :
    Nat → Nat → Text → Noting σ Text
  | 0, _, written => return written ++ (← Noting.plain get).tail
  | fuel + 1, number, written => do
      let written ← Noting.plain (appendNext replacement number written)
      let isMore ← if all then notedFind else pure false
      if isMore then
        notedReplaceFrom replacement all fuel (number + 1) written
      else
        return written ++ (← Noting.plain get).tail

def notedReplace (replacement : Replacement) (all : Bool) : Noting σ Text := do
  Noting.discarding (modify reset)
  if ← notedFind then
    notedReplaceFrom replacement all (matchLimit + (← Noting.plain get).text.length) 0 []
  else
    return (← Noting.plain get).text

/-- Perform an operation and take down its calls. -/
def notedPerform (operation : Operation σ) : Noting σ Reply :=
  match operation with
  | .find => return .flag (← notedFind)
  | .findFrom start => return .flag (← notedFindFrom start)
  | .lookingAt => return .flag (← Noting.calling .lookingAt lookingAt)
  | .matchWhole => return .flag (← Noting.calling .whole matchWhole)
  | .findAll count => return .spans (← notedFindAll count)
  | .results count => return .results (← notedResults .notStarted count)
  | .replaceAll replacement => return .text (← notedReplace replacement true)
  | .replaceFirst replacement => return .text (← notedReplace replacement false)
  | .region _ _ | .reset | .resetTo _ | .useAnchoringBounds _ | .usePattern _ =>
      .discarding (perform operation)
  | _ => .plain (perform operation)

/-! ## What calls tell -/

/-- Whether a matcher holds a match, and whether its searches return at once. -/
def standing (matcher : Matcher σ) : Bool × Bool :=
  (matcher.hasMatch, matcher.isExhausted)

/-- What the calls since the match was last discarded tell about a matcher. -/
structure Tells (calls : List ReturnedCall) (matcher : Matcher σ) : Prop where
  hasMatch : matcher.hasMatch = ReturnedCall.matchedLast calls
  isExhausted : matcher.isExhausted = calls.any ReturnedCall.endsSearching
  refused : calls.Pairwise fun earlier later =>
    earlier.endsSearching = true → later.isFind = true → later.isMatch = false

namespace Tells

variable {calls : List ReturnedCall} {matcher after : Matcher σ}

theorem nil (untried : matcher.standing = (false, false)) : Tells [] matcher where
  hasMatch := congrArg Prod.fst untried
  isExhausted := congrArg Prod.snd untried
  refused := .nil

theorem same (tells : Tells calls matcher) (same : after.standing = matcher.standing) :
    Tells calls after where
  hasMatch := (congrArg Prod.fst same).trans tells.hasMatch
  isExhausted := (congrArg Prod.snd same).trans tells.isExhausted
  refused := tells.refused

/-- A call that was refused leaves the matcher as it is and returns nothing. -/
theorem refuse (tells : Tells calls matcher) (isExhausted : matcher.isExhausted = true) :
    Tells (calls ++ [⟨.search, false⟩]) matcher where
  hasMatch := by
    have refused : ReturnedCall.isRefused calls ⟨.search, false⟩ = true :=
      tells.isExhausted.symm.trans isExhausted
    rw [ReturnedCall.matchedLast_concat_of_isRefused refused, tells.hasMatch]
  isExhausted := by
    rw [isExhausted, List.any_append]
    exact (Bool.or_true _).symm
  refused := List.pairwise_append.mpr
    ⟨tells.refused, List.pairwise_singleton _ _, fun _ _ later mem _ _ => by
      rw [List.mem_singleton.mp mem]⟩

/-- A call that made an attempt leaves what it returned. -/
theorem attempt (tells : Tells calls matcher) {anchoring : Anchoring} {isMatch : Bool}
    (goesOn : anchoring = .search → matcher.isExhausted = false)
    (attempted : after.standing =
      (isMatch, matcher.isExhausted || (anchoring == .search && !isMatch))) :
    Tells (calls ++ [⟨anchoring, isMatch⟩]) after where
  hasMatch := by
    have notRefused : (⟨anchoring, isMatch⟩ : ReturnedCall).isRefused calls = false := by
      rw [ReturnedCall.isRefused, ← tells.isExhausted]
      cases anchoring with
      | search => rw [goesOn rfl, Bool.and_false]
      | lookingAt => rfl
      | whole => rfl
    rw [ReturnedCall.matchedLast_concat notRefused]
    exact congrArg Prod.fst attempted
  isExhausted := by
    rw [List.any_append, ← tells.isExhausted, List.any_cons, List.any_nil, Bool.or_false]
    exact congrArg Prod.snd attempted
  refused := by
    refine List.pairwise_append.mpr ⟨tells.refused, List.pairwise_singleton _ _, ?_⟩
    intro earlier mem later mem' ends isFind
    obtain rfl := List.mem_singleton.mp mem'
    have isSearch : anchoring = .search := by simpa [ReturnedCall.isFind] using isFind
    have ended : calls.any ReturnedCall.endsSearching = true :=
      List.any_eq_true.mpr ⟨earlier, mem, ends⟩
    rw [← tells.isExhausted, goesOn isSearch] at ended
    contradiction

end Tells

/-- A failed search ends the searching, a failed attempt of another kind does not. -/
theorem settle_standing (matcher : Matcher σ) (anchoring : Anchoring) (state : MatchState) :
    (matcher.settle anchoring state).standing =
      ((matcher.settle anchoring state).hasMatch,
        matcher.isExhausted ||
          (anchoring == .search && !(matcher.settle anchoring state).hasMatch)) := by
  cases state with
  | fresh => simp [standing, settle, hasMatch, snapshot, Snapshot.hasMatch]
  | noMatch isPartial => simp [standing, settle, hasMatch, snapshot, Snapshot.hasMatch]
  | found spans mark => simp [standing, settle, hasMatch, snapshot, Snapshot.hasMatch]

/-- What a search leaves, whether or not it returns. -/
theorem search_standing {start : Nat} {anchoring : Anchoring} {configuration : Configuration σ}
    {outcome : Except Fault Bool} {after : Configuration σ}
    (executed : (search start anchoring).exec configuration = (outcome, after)) :
    after.matcher.standing =
      match outcome with
      | .ok isMatch =>
          (isMatch, configuration.matcher.isExhausted || (anchoring == .search && !isMatch))
      | .error _ => configuration.matcher.standing := by
  rw [search_exec_view] at executed
  cases viewed : configuration.matcher.regionView with
  | error fault =>
      rw [viewed] at executed
      cases executed
      rfl
  | ok view =>
      rw [viewed] at executed
      dsimp only at executed
      generalize (attempt { configuration.matcher with view := some view } view start
        anchoring).run configuration.trace = attempted at executed
      rcases attempted with ⟨outcome, after⟩
      cases outcome with
      | error fault =>
          cases executed
          rfl
      | ok state =>
          cases executed
          exact settle_standing { configuration.matcher with view := some view } anchoring state

/-! ## Taking calls down changes nothing -/

/-- Work that takes calls down and does what other work does, so that the calls tell about the
matcher behind it when they did before. -/
structure Describes {α : Type} (noting : Noting σ α) (matching : Matching σ α) : Prop where
  erased : ∀ calls configuration,
    ((noting.exec calls configuration).1, (noting.exec calls configuration).2.2) =
      matching.exec configuration
  tells : ∀ calls configuration, Tells calls configuration.matcher →
    Tells (noting.exec calls configuration).2.1 (noting.exec calls configuration).2.2.matcher

namespace Describes

variable {α β : Type}

theorem bind {noting : Noting σ α} {matching : Matching σ α} {next : α → Noting σ β}
    {next' : α → Matching σ β} (first : Describes noting matching)
    (second : ∀ value, Describes (next value) (next' value)) :
    Describes (noting >>= next) (matching >>= next') where
  erased := by
    intro calls configuration
    have same := first.erased calls configuration
    rw [Noting.exec_bind, Matching.exec_bind, ← same]
    rcases noting.exec calls configuration with ⟨outcome, calls', after⟩
    cases outcome with
    | error fault => rfl
    | ok value => exact (second value).erased calls' after
  tells := by
    intro calls configuration tells
    have before := first.tells calls configuration tells
    rw [Noting.exec_bind]
    rcases executed : noting.exec calls configuration with ⟨outcome, calls', after⟩
    rw [executed] at before
    cases outcome with
    | error fault => exact before
    | ok value => exact (second value).tells calls' after before

theorem pure (value : α) : @Describes σ _ (Pure.pure value) (Pure.pure value) where
  erased := fun _ _ => rfl
  tells := fun _ _ tells => tells

/-- Work that leaves what is held has nothing to take down. -/
theorem plain (matching : Matching σ α)
    (same : ∀ configuration,
      (matching.exec configuration).2.matcher.standing = configuration.matcher.standing) :
    Describes (.plain matching) matching where
  erased := fun _ _ => rfl
  tells := fun _ configuration tells => tells.same (same configuration)

theorem get : @Describes σ _ (.plain MonadState.get) MonadState.get :=
  .plain _ fun _ => rfl

theorem ite {condition : Prop} [Decidable condition] {noting noting' : Noting σ α}
    {matching matching' : Matching σ α} (yes : Describes noting matching)
    (no : Describes noting' matching') :
    Describes (if condition then noting else noting')
      (if condition then matching else matching') := by
  split
  · exact yes
  · exact no

theorem discarding {matching : Matching σ α}
    (discards : ∀ {configuration after value},
      matching.exec configuration = (.ok value, after) → after.matcher.standing = (false, false))
    (keeps : ∀ {configuration after fault}, matching.exec configuration = (.error fault, after) →
      after.matcher.standing = configuration.matcher.standing) :
    Describes (.discarding matching) matching where
  erased := by
    intro calls configuration
    rw [Noting.exec_discarding]
    rcases matching.exec configuration with ⟨outcome, after⟩
    cases outcome <;> rfl
  tells := by
    intro calls configuration tells
    rw [Noting.exec_discarding]
    rcases executed : matching.exec configuration with ⟨outcome, after⟩
    cases outcome with
    | error fault => exact tells.same (keeps executed)
    | ok value => exact .nil (discards executed)

theorem always_discarding (matching : Matching σ α)
    (returns : ∀ configuration, ∃ value, (matching.exec configuration).1 = .ok value)
    (discards : ∀ configuration,
      (matching.exec configuration).2.matcher.standing = (false, false)) :
    Describes (.discarding matching) matching := by
  refine .discarding ?_ ?_
  · intro configuration after value executed
    rw [← discards configuration, executed]
  · intro configuration after fault executed
    obtain ⟨value, returned⟩ := returns configuration
    rw [executed] at returned
    cases returned

theorem discarding_change {work : Matcher σ → Work σ (Matcher σ)} (reply : Reply)
    (discards : ∀ {matcher changed trace after},
      (work matcher).run trace = (.ok changed, after) → changed.standing = (false, false)) :
    Describes (.discarding do change work; return reply) (do change work; return reply) := by
  refine .discarding ?_ ?_
  · intro configuration after value executed
    rw [Matching.exec_bind, change_exec] at executed
    rcases worked : (work configuration.matcher).run configuration.trace with ⟨outcome, trace⟩
    rw [worked] at executed
    cases outcome with
    | error fault => cases executed
    | ok changed =>
        cases executed
        exact discards worked
  · intro configuration after fault executed
    rw [Matching.exec_bind, change_exec] at executed
    rcases worked : (work configuration.matcher).run configuration.trace with ⟨outcome, trace⟩
    rw [worked] at executed
    cases outcome with
    | error fault =>
        cases executed
        rfl
    | ok changed => cases executed

theorem calling {anchoring : Anchoring} {matching : Matching σ Bool}
    (returns : ∀ {configuration after isMatch calls},
      matching.exec configuration = (.ok isMatch, after) → Tells calls configuration.matcher →
      Tells (calls ++ [⟨anchoring, isMatch⟩]) after.matcher)
    (keeps : ∀ {configuration after fault}, matching.exec configuration = (.error fault, after) →
      after.matcher.standing = configuration.matcher.standing) :
    Describes (.calling anchoring matching) matching where
  erased := by
    intro calls configuration
    rw [Noting.exec_calling]
    rcases matching.exec configuration with ⟨outcome, after⟩
    cases outcome <;> rfl
  tells := by
    intro calls configuration tells
    rw [Noting.exec_calling]
    rcases executed : matching.exec configuration with ⟨outcome, after⟩
    cases outcome with
    | error fault => exact tells.same (keeps executed)
    | ok isMatch => exact returns executed tells

end Describes

/-- The searches of an ended search are refused, and all others make an attempt. -/
theorem describes_find : @Describes σ _ notedFind find := by
  refine .calling ?_ ?_
  · intro configuration after isMatch calls executed tells
    rw [find_exec] at executed
    cases isExhausted : configuration.matcher.isExhausted with
    | true =>
        rw [isExhausted, if_pos rfl] at executed
        cases executed
        exact tells.refuse isExhausted
    | false =>
        rw [isExhausted, if_neg Bool.false_ne_true] at executed
        refine tells.attempt (fun _ => isExhausted) ?_
        cases next : configuration.matcher.nextStart? with
        | none =>
            rw [next] at executed
            cases executed
            exact settle_standing configuration.matcher .search (.noMatch false)
        | some start =>
            rw [next] at executed
            exact search_standing executed
  · intro configuration after fault executed
    have isTried : (find.exec configuration).1 ≠ .ok false := by
      rw [executed]
      nofun
    obtain ⟨start, -, ran⟩ := exists_find_exec_eq_search isTried
    exact search_standing (ran.symm.trans executed)

theorem describes_findFrom (start : Number) :
    @Describes σ _ (notedFindFrom start) (findFrom start) := by
  refine .bind .get fun matcher => ?_
  cases start.toIndex? matcher.text.length with
  | none => exact .plain _ fun _ => rfl
  | some index =>
      -- The search goes on from the new start only, so the two parts are not described apart.
      have untried : Tells [] matcher.reset := .nil rfl
      constructor
      · intro calls configuration
        rw [Noting.exec_bind, Noting.exec_discarding, Matching.exec_bind, Matching.exec_set]
        dsimp only
        rw [Noting.exec_calling]
        rcases (search index .search).exec { configuration with matcher := matcher.reset } with
          ⟨outcome, after⟩
        cases outcome <;> rfl
      · intro calls configuration _
        rw [Noting.exec_bind, Noting.exec_discarding, Matching.exec_set]
        dsimp only
        rw [Noting.exec_calling]
        rcases executed :
          (search index .search).exec { configuration with matcher := matcher.reset } with
          ⟨outcome, after⟩
        cases outcome with
        | error fault => exact untried.same (search_standing executed)
        | ok isMatch => exact untried.attempt (fun _ => rfl) (search_standing executed)

/-- A call that matches at the region start always makes an attempt. -/
theorem describes_anchored (anchoring : Anchoring) (notSearch : anchoring ≠ .search)
    {matching : Matching σ Bool}
    (executes : ∀ configuration, matching.exec configuration =
      (search configuration.matcher.regionStart anchoring).exec configuration) :
    Describes (.calling anchoring matching) matching := by
  refine .calling ?_ ?_
  · intro configuration after isMatch calls executed tells
    rw [executes] at executed
    exact tells.attempt (fun isSearch => absurd isSearch notSearch) (search_standing executed)
  · intro configuration after fault executed
    rw [executes] at executed
    exact search_standing executed

theorem describes_findAll (count : Nat) :
    @Describes σ _ (notedFindAll count) (findAll count) := by
  induction count with
  | zero => exact .pure []
  | succ count ih =>
      refine .bind describes_find fun isFound => .ite ?_ (.pure [])
      exact .bind .get fun matcher => .bind ih fun snapshots => .pure _

theorem describes_next (iteration : Iteration) :
    @Describes σ _ (notedNext iteration) iteration.next := by
  have search : @Describes σ _
      (do
        if ← notedFind then
          return some (← Noting.plain get).snapshot
        else
          return none)
      (do
        if ← find then
          return some (← get).snapshot
        else
          return none) := by
    refine .bind describes_find fun isFound => .ite ?_ (.pure none)
    exact .bind .get fun matcher => .pure _
  cases iteration with
  | ended => exact .pure none
  | running => exact search
  | notStarted =>
      refine .bind (.always_discarding (modify clearMatch) ?_ ?_) fun _ => search
      · exact fun _ => ⟨⟨⟩, rfl⟩
      · exact fun _ => rfl

theorem describes_results (iteration : Iteration) (count : Nat) :
    @Describes σ _ (notedResults iteration count) (results iteration count) := by
  induction count generalizing iteration with
  | zero => exact .pure []
  | succ count ih =>
      refine .bind (describes_next iteration) fun snapshot? => ?_
      cases snapshot? with
      | none => exact .pure []
      | some snapshot => exact .bind (ih _) fun snapshots => .pure _

theorem describes_replaceFrom (replacement : Replacement) (all : Bool) (fuel number : Nat)
    (written : Text) :
    @Describes σ _ (notedReplaceFrom replacement all fuel number written)
      (replaceFrom replacement all fuel number written) := by
  have appends : ∀ number written,
      @Describes σ _ (.plain (appendNext replacement number written))
        (appendNext replacement number written) := by
    refine fun number written => .plain _ fun configuration => ?_
    obtain ⟨outcome, cursor, appended⟩ :=
      exists_appendNext_eq replacement number written configuration
    rw [appended]
    rfl
  induction fuel generalizing number written with
  | zero => exact .bind .get fun matcher => .pure _
  | succ fuel ih =>
      refine .bind (appends number written) fun written => ?_
      refine .ite (.bind describes_find fun isMore => ?_) (.bind (.pure false) fun isMore => ?_)
      · exact .ite (ih (number + 1) written) (.bind .get fun matcher => .pure _)
      · exact .ite (ih (number + 1) written) (.bind .get fun matcher => .pure _)

theorem describes_replace (replacement : Replacement) (all : Bool) :
    @Describes σ _ (notedReplace replacement all) (replace replacement all) := by
  have restarts : @Describes σ _ (.discarding (modify reset)) (modify reset) :=
    .always_discarding (modify reset) (fun _ => ⟨⟨⟩, rfl⟩) fun _ => rfl
  refine .bind restarts fun _ => .bind describes_find fun isFound => ?_
  refine .ite ?_ (.bind .get fun matcher => .pure _)
  exact .bind .get fun matcher => describes_replaceFrom replacement all _ 0 []

/-- Taking the calls of an operation down does not change what it does, and the calls go on
telling about the matcher. -/
theorem describes_perform (operation : Operation σ) :
    Describes (notedPerform operation) (perform operation) := by
  cases operation with
  | ask query => exact .plain (perform (.ask query)) fun _ => rfl
  | find => exact .bind describes_find fun _ => .pure _
  | findFrom start => exact .bind (describes_findFrom start) fun _ => .pure _
  | lookingAt => exact .bind (describes_anchored .lookingAt nofun lookingAt_exec) fun _ => .pure _
  | matchWhole => exact .bind (describes_anchored .whole nofun matchWhole_exec) fun _ => .pure _
  | hasPartialMatch => exact .plain (perform .hasPartialMatch) fun _ => rfl
  | mark => exact .plain (perform .mark) fun _ => rfl
  | regionStart => exact .plain (perform .regionStart) fun _ => rfl
  | regionEnd => exact .plain (perform .regionEnd) fun _ => rfl
  | source => exact .plain (perform .source) fun _ => rfl
  | describe => exact .plain (perform .describe) fun _ => rfl
  | findAll count => exact .bind (describes_findAll count) fun _ => .pure _
  | results count => exact .bind (describes_results .notStarted count) fun _ => .pure _
  | region start stop =>
      refine .discarding_change .done fun {matcher changed trace after} restricted => ?_
      obtain ⟨first, last, -, -, -, rfl⟩ := region_eq_ok (congrArg Prod.fst restricted)
      rfl
  | reset => exact .always_discarding (perform .reset) (fun _ => ⟨.done, rfl⟩) fun _ => rfl
  | resetTo text =>
      exact .always_discarding (perform (.resetTo text)) (fun _ => ⟨.done, rfl⟩) fun _ => rfl
  | useAnchoringBounds value =>
      exact .always_discarding (perform (.useAnchoringBounds value))
        (fun _ => ⟨.flag value, rfl⟩) fun _ => rfl
  | usePartialMatching value =>
      refine .plain (perform (.usePartialMatching value)) fun configuration => ?_
      rw [perform, Matching.exec_bind, change_exec, Work.run_ofExcept]
      cases changed : configuration.matcher.usePartialMatching value with
      | error fault => rfl
      | ok matcher =>
          obtain ⟨rfl, -⟩ := usePartialMatching_eq_ok changed
          rfl
  | usePattern pattern =>
      refine .discarding_change .done fun {matcher changed trace after} switched => ?_
      rw [usePattern_run ⟨matcher, trace⟩] at switched
      split at switched
      · cases switched
      · cases switched
        rfl
  | appendReplacement template =>
      refine .plain (perform (.appendReplacement template)) fun configuration => ?_
      obtain ⟨cursor, appended⟩ := exists_appendReplacement_eq configuration.matcher template
      rw [perform_appendReplacement, appended]
      rfl
  | appendTail => exact .plain (perform .appendTail) fun _ => rfl
  | replaceAll replacement => exact .bind (describes_replace replacement true) fun _ => .pure _
  | replaceFirst replacement =>
      exact .bind (describes_replace replacement false) fun _ => .pure _
  | close =>
      refine .plain (perform .close) fun configuration => ?_
      rw [perform, Matching.exec_bind, change_exec, close_run]
      rfl

/-! ## Matchers with their calls -/

/-- The matchers that a caller can get at, with the calls that have looked for a match and
returned since the match was last discarded. -/
inductive Noted : Matcher σ → List ReturnedCall → Prop
  | created {pattern : Pattern σ} {text : Text} {settings : MatcherSettings}
      {matcher : Matcher σ} {trace after : Trace σ}
      (isCreated : (create pattern text settings).run trace = (.ok matcher, after)) :
      Noted matcher []
  | performed {matcher : Matcher σ} {calls : List ReturnedCall} (noted : Noted matcher calls)
      (operation : Operation σ) (trace : Trace σ) :
      Noted ((perform operation).exec ⟨matcher, trace⟩).2.matcher
        ((notedPerform operation).exec calls ⟨matcher, trace⟩).2.1
  | advanced {matcher : Matcher σ} {calls : List ReturnedCall} (noted : Noted matcher calls)
      (iteration : Iteration) (trace : Trace σ) :
      Noted (iteration.next.exec ⟨matcher, trace⟩).2.matcher
        ((notedNext iteration).exec calls ⟨matcher, trace⟩).2.1

/-- The calls can be taken down of everything that a caller does. -/
theorem reachable_iff_exists_noted {matcher : Matcher σ} :
    matcher.Reachable (fun _ => True) (fun _ => True) ↔ ∃ calls, Noted matcher calls := by
  constructor
  · intro reached
    induction reached with
    | created isAllowed isUsable isCreated => exact ⟨[], .created isCreated⟩
    | performed reached operation isAllowed trace isUsable ih =>
        obtain ⟨calls, noted⟩ := ih
        exact ⟨_, .performed noted operation trace⟩
    | advanced reached iteration trace isUsable ih =>
        obtain ⟨calls, noted⟩ := ih
        exact ⟨_, .advanced noted iteration trace⟩
  · rintro ⟨calls, noted⟩
    induction noted with
    | created isCreated => exact .created trivial trivial isCreated
    | performed noted operation trace ih =>
        have isAllowed : operation.Allowed fun _ => True := by
          cases operation <;> trivial
        exact .performed ih operation isAllowed trace trivial
    | advanced noted iteration trace ih => exact .advanced ih iteration trace trivial

theorem Describes.tells_exec {α : Type} {noting : Noting σ α} {matching : Matching σ α}
    (describes : Describes noting matching) {matcher : Matcher σ} {calls : List ReturnedCall}
    (tells : Tells calls matcher) (trace : Trace σ) :
    Tells (noting.exec calls ⟨matcher, trace⟩).2.1
      (matching.exec ⟨matcher, trace⟩).2.matcher := by
  have told := describes.tells calls ⟨matcher, trace⟩ tells
  rwa [← describes.erased calls ⟨matcher, trace⟩]

theorem Noted.tells {matcher : Matcher σ} {calls : List ReturnedCall}
    (noted : Noted matcher calls) : Tells calls matcher := by
  induction noted with
  | created isCreated =>
      obtain ⟨-, stack, changed⟩ := exists_initial_of_create isCreated
      refine .nil ?_
      rw [(usePartialMatching_eq_ok changed).1]
      rfl
  | performed noted operation trace ih => exact (describes_perform operation).tells_exec ih trace
  | advanced noted iteration trace ih => exact (describes_next iteration).tells_exec ih trace

/-- Without a match there is nothing to ask about. -/
theorem captures_of_not_hasMatch {matcher : Matcher σ} (unmatched : matcher.hasMatch = false)
    (group : GroupRef) :
    matcher.snapshot.start group = .error .noMatch ∧
      matcher.snapshot.stop group = .error .noMatch ∧
      matcher.snapshot.group group = .error .noMatch := by
  have lacksSpans : matcher.snapshot.spans = none :=
    Option.not_isSome_iff_eq_none.mp (Bool.eq_false_iff.mp unmatched)
  have lacksSpan : matcher.snapshot.span group = .error .noMatch := by
    rw [Snapshot.span, lacksSpans]
  rw [Snapshot.start, Snapshot.stop, Snapshot.group, lacksSpan]
  exact ⟨rfl, rfl, rfl⟩

/-- Whatever has been done with a matcher, it holds a match exactly when the last attempt since
the match was discarded matched.  The last call tells so too, unless it was a search behind one
that had failed, and an attempt at the region start has matched in between. -/
theorem hasMatch_of_noted {matcher : Matcher σ} {calls : List ReturnedCall}
    (noted : Noted matcher calls) :
    matcher.hasMatch = ReturnedCall.matchedLast calls ∧
      ∀ earlier last, calls = earlier ++ [last] →
        (matcher.hasMatch = last.isMatch ↔
          ¬(last.isRefused earlier = true ∧ ReturnedCall.matchedLast earlier = true)) ∧
        (last.isMatch = false → last.isRefused earlier = false → ∀ group,
          matcher.snapshot.start group = .error .noMatch ∧
            matcher.snapshot.stop group = .error .noMatch ∧
            matcher.snapshot.group group = .error .noMatch) := by
  have tells := noted.tells
  refine ⟨tells.hasMatch, ?_⟩
  rintro earlier last rfl
  constructor
  · cases refused : last.isRefused earlier with
    | false =>
        rw [tells.hasMatch, ReturnedCall.matchedLast_concat refused]
        simp
    | true =>
        have notFound : last.isMatch = false := by
          rw [ReturnedCall.isRefused, Bool.and_eq_true, List.any_eq_true] at refused
          obtain ⟨isFind, call, mem, ends⟩ := refused
          exact (List.pairwise_append.mp tells.refused).2.2 call mem last
            (List.mem_singleton.mpr rfl) ends isFind
        rw [tells.hasMatch, ReturnedCall.matchedLast_concat_of_isRefused refused, notFound]
        simp
  · intro notFound attempted
    apply captures_of_not_hasMatch
    rw [tells.hasMatch, ReturnedCall.matchedLast_concat attempted, notFound]

/-- On the empty text the empty pattern is found once, and the second search tells so. -/
theorem hasMatch_of_noted_second : ∃ matcher : Matcher Int,
    Noted matcher [⟨.search, true⟩, ⟨.search, false⟩] ∧ matcher.hasMatch = false ∧
      matcher.snapshot.group .whole = .error .noMatch := by
  have isCreated : (create .ofEmptyPattern [] {}).run ⟨0, []⟩ =
      (.ok (initial .ofEmptyPattern [] true 0), ⟨0, []⟩) := rfl
  have noted := ((Noted.created isCreated).performed .find ⟨0, []⟩).performed .find ⟨0, []⟩
  have calls : Noted _ [⟨.search, true⟩, ⟨.search, false⟩] :=
    Eq.mp (congrArg (Noted _) (by decide +kernel)) noted
  have told := (hasMatch_of_noted calls).2 [⟨.search, true⟩] ⟨.search, false⟩ rfl
  exact ⟨_, calls, told.1.mpr nofun, (told.2 rfl rfl .whole).2.2⟩

/-- An attempt at the region start that matches behind the end of a search: the next search
returns nothing, and the match stays. -/
theorem hasMatch_behind_refused_search : ∃ matcher : Matcher Int,
    Noted matcher
        [⟨.search, true⟩, ⟨.search, false⟩, ⟨.lookingAt, true⟩, ⟨.search, false⟩] ∧
      matcher.hasMatch = true ∧
      (matcher.snapshot.group .whole).toOption = some (some []) := by
  have isCreated : (create .ofEmptyPattern [] {}).run ⟨0, []⟩ =
      (.ok (initial .ofEmptyPattern [] true 0), ⟨0, []⟩) := rfl
  have noted := ((((Noted.created isCreated).performed .find ⟨0, []⟩).performed .find
    ⟨0, []⟩).performed .lookingAt ⟨0, []⟩).performed .find ⟨0, []⟩
  exact ⟨_, Eq.mp (congrArg (Noted _) (by decide +kernel)) noted, by decide +kernel,
    by decide +kernel⟩

end Matcher

end RegexMatching
