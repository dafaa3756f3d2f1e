import RegexMatching.Pattern.Splitting
import RegexMatching.Proofs.Step

/-!
# Loops of searches

Finding all matches, splitting and replacing search again and again, and stop where a search
finds nothing or fails.  A bound on the searches that succeed one after the other is a bound
on the turns of every such loop.
-/

namespace RegexMatching

/-- Work with a matcher that is not needed afterwards leaves the engines as the work does. -/
theorem Matching.run_on {σ α : Type} (matching : Matching σ α) (matcher : Matcher σ)
    (trace : Trace σ) :
    (matching.on matcher).run trace =
      ((matching.exec ⟨matcher, trace⟩).1, (matching.exec ⟨matcher, trace⟩).2.trace) :=
  rfl

@[simp]
theorem Matching.exec_pure {σ α : Type} (value : α) (configuration : Configuration σ) :
    (pure value : Matching σ α).exec configuration = (.ok value, configuration) :=
  rfl

namespace Matcher

variable {σ : Type}

/-! ## Searches that end -/

/-- Whether one of a number of successive searches finds nothing or fails. -/
def EndsWithin : Nat → Configuration σ → Prop
  | 0, _ => False
  | count + 1, configuration =>
      (find.exec configuration).1 = .ok true → EndsWithin count (find.exec configuration).2

section Loops

variable {limit : Nat} {configuration : Configuration σ}

/-- Searches that end within a limit end within every larger one, and with a search behind
every one that succeeds. -/
theorem EndsWithin.exists_eq_add_one (ends : EndsWithin limit configuration) {count : Nat}
    (le : limit ≤ count) : ∃ less more, limit = less + 1 ∧ count = more + 1 ∧ less ≤ more ∧
      ∀ after, find.exec configuration = (.ok true, after) → EndsWithin less after := by
  cases limit with
  | zero => exact ends.elim
  | succ less =>
      obtain ⟨more, rfl⟩ := Nat.exists_eq_add_of_le' (Nat.le_trans (Nat.le_add_left 1 less) le)
      refine ⟨less, more, rfl, rfl, Nat.le_of_succ_le_succ le, fun after executed => ?_⟩
      rw [EndsWithin, executed] at ends
      exact ends rfl

theorem findAll_exec_of_endsWithin (ends : EndsWithin limit configuration) {count : Nat}
    (le : limit ≤ count) :
    (findAll count).exec configuration = (findAll limit).exec configuration := by
  induction limit generalizing count configuration with
  | zero => exact ends.elim
  | succ limit ih =>
      obtain ⟨_, count, ⟨⟩, rfl, le, rest⟩ := ends.exists_eq_add_one le
      rw [findAll, findAll, Matching.exec_bind, Matching.exec_bind]
      rcases executed : find.exec configuration with ⟨outcome, after⟩
      cases outcome with
      | error fault => rfl
      | ok isFound =>
          cases isFound with
          | false => rfl
          | true =>
              dsimp only
              rw [if_pos rfl, if_pos rfl, Matching.exec_bind, Matching.exec_bind,
                Matching.exec_get]
              dsimp only
              rw [Matching.exec_bind, Matching.exec_bind, ih (rest after executed) le]

theorem collectPieces_exec_of_endsWithin (rule : Pattern.SplitRule) (text : Text) (splits : Nat)
    (collected : Pattern.Pieces) (ends : EndsWithin limit configuration) {count : Nat}
    (le : limit ≤ count) :
    (Pattern.collectPieces rule text count splits collected).exec configuration =
      (Pattern.collectPieces rule text limit splits collected).exec configuration := by
  induction limit generalizing count configuration splits collected with
  | zero => exact ends.elim
  | succ limit ih =>
      obtain ⟨_, count, ⟨⟩, rfl, le, rest⟩ := ends.exists_eq_add_one le
      rw [Pattern.collectPieces, Pattern.collectPieces, Matching.exec_bind, Matching.exec_bind]
      rcases executed : find.exec configuration with ⟨outcome, after⟩
      cases outcome with
      | error fault => rfl
      | ok isFound =>
          cases isFound with
          | false => rfl
          | true =>
              dsimp only
              by_cases allows : rule.allows splits = true
              · simp only [allows, Bool.not_true, Bool.false_eq_true, if_false, Matching.exec_bind,
                  Matching.exec_get]
                split
                · exact ih _ _ (rest after executed) le
                · exact ih _ _ (rest after executed) le
              · simp only [allows]
                rfl

theorem searchPiece_run_of_endsWithin {matcher : Matcher σ} {trace : Trace σ} (held : Nat)
    (index : Int) (ends : EndsWithin limit ⟨matcher, trace⟩) {count : Nat} (le : limit ≤ count) :
    (PieceStream.searchPiece matcher count held index).run trace =
      (PieceStream.searchPiece matcher limit held index).run trace := by
  induction limit generalizing count matcher trace held index with
  | zero => exact ends.elim
  | succ limit ih =>
      obtain ⟨_, count, ⟨⟩, rfl, le, rest⟩ := ends.exists_eq_add_one le
      rw [PieceStream.searchPiece, PieceStream.searchPiece, Work.run_bind, Work.run_bind,
        Matching.run_on, Matching.exec_bind]
      rcases executed : find.exec ⟨matcher, trace⟩ with ⟨outcome, after⟩
      cases outcome with
      | error fault => rfl
      | ok isFound =>
          cases isFound with
          | false => rfl
          | true =>
              dsimp only
              rw [Matching.exec_bind, Matching.exec_get]
              dsimp only [Matching.exec_pure]
              rw [if_pos rfl, if_pos rfl]
              split
              · exact ih _ _ (rest after executed) le
              · rfl

end Loops

/-! ## Replacing while searching on -/

/-- The append position has no part in a search. -/
theorem search_exec_moveAppend (start : Nat) (anchoring : Anchoring) (matcher : Matcher σ)
    (trace : Trace σ) (cursor : Int) :
    (search start anchoring).exec ⟨{ matcher with appendCursor := cursor }, trace⟩ =
      (((search start anchoring).exec ⟨matcher, trace⟩).1,
        ⟨{ ((search start anchoring).exec ⟨matcher, trace⟩).2.matcher with
            appendCursor := cursor },
          ((search start anchoring).exec ⟨matcher, trace⟩).2.trace⟩) := by
  rw [search_exec_view, search_exec_view]
  rw [show regionView { matcher with appendCursor := cursor } = matcher.regionView from rfl]
  cases matcher.regionView with
  | error fault => rfl
  | ok view =>
      dsimp only
      rw [show attempt { matcher with view := some view, appendCursor := cursor } view start
        anchoring = attempt { matcher with view := some view } view start anchoring from rfl]
      cases ((attempt { matcher with view := some view } view start anchoring).run trace).1 with
      | error fault => rfl
      | ok state => cases state <;> rfl

theorem find_exec_moveAppend (matcher : Matcher σ) (trace : Trace σ) (cursor : Int) :
    find.exec ⟨{ matcher with appendCursor := cursor }, trace⟩ =
      ((find.exec ⟨matcher, trace⟩).1,
        ⟨{ (find.exec ⟨matcher, trace⟩).2.matcher with appendCursor := cursor },
          (find.exec ⟨matcher, trace⟩).2.trace⟩) := by
  rw [find_exec, find_exec]
  dsimp only
  rw [show nextStart? { matcher with appendCursor := cursor } = matcher.nextStart? from rfl]
  split
  · rfl
  · cases matcher.nextStart? with
    | none => rfl
    | some start => exact search_exec_moveAppend start .search matcher trace cursor

theorem EndsWithin.moveAppend {limit : Nat} {matcher : Matcher σ} {trace : Trace σ}
    (ends : EndsWithin limit ⟨matcher, trace⟩) (cursor : Int) :
    EndsWithin limit ⟨{ matcher with appendCursor := cursor }, trace⟩ := by
  induction limit generalizing matcher trace with
  | zero => exact ends
  | succ limit ih =>
      rw [EndsWithin, find_exec_moveAppend]
      exact fun found => ih (ends found)

/-- Appending a replacement leaves all but the append position. -/
theorem exists_appendNext_eq (replacement : Replacement) (number : Nat) (written : Text)
    (configuration : Configuration σ) :
    ∃ outcome cursor, (appendNext replacement number written).exec configuration =
      (outcome,
        ⟨{ configuration.matcher with appendCursor := cursor }, configuration.trace⟩) := by
  rw [appendNext, Matching.exec_bind, Matching.exec_get]
  dsimp only
  rw [Matching.exec_bind, Matching.exec_ofWork, Work.run_ofExcept]
  cases replacement.templateFor number configuration.matcher.snapshot with
  | error fault => exact ⟨.error fault, configuration.matcher.appendCursor, rfl⟩
  | ok template =>
      obtain ⟨cursor, appended⟩ := exists_appendReplacement_eq configuration.matcher template
      dsimp only
      rw [Matching.exec_bind, Matching.exec_set, appended]
      dsimp only
      cases (configuration.matcher.appendReplacement template).1.fault with
      | some fault => exact ⟨.error fault, cursor, rfl⟩
      | none => exact ⟨_, cursor, rfl⟩

theorem replaceFrom_exec_of_endsWithin (replacement : Replacement) (all : Bool) (number : Nat)
    (written : Text) {limit : Nat} {configuration : Configuration σ}
    (ends : EndsWithin limit configuration) {count : Nat} (le : limit ≤ count) :
    (replaceFrom replacement all count number written).exec configuration =
      (replaceFrom replacement all limit number written).exec configuration := by
  induction limit generalizing count configuration number written with
  | zero => exact ends.elim
  | succ limit ih =>
      obtain ⟨outcome, cursor, appended⟩ :=
        exists_appendNext_eq replacement number written configuration
      obtain ⟨_, count, ⟨⟩, rfl, le, rest⟩ := (ends.moveAppend cursor).exists_eq_add_one le
      rw [replaceFrom, replaceFrom, Matching.exec_bind, Matching.exec_bind, appended]
      cases outcome with
      | error fault => rfl
      | ok written =>
          cases all with
          | false => rfl
          | true =>
              dsimp only
              rw [if_pos rfl, if_pos rfl, Matching.exec_bind, Matching.exec_bind]
              rcases executed : find.exec
                ⟨{ configuration.matcher with appendCursor := cursor }, configuration.trace⟩
                with ⟨outcome, after⟩
              cases outcome with
              | error fault => rfl
              | ok isFound =>
                  cases isFound with
                  | false => rfl
                  | true => exact ih _ _ (rest after executed) le

/-! ## All loops -/

/-- A number of turns that is enough for every loop of searches from a configuration on. -/
structure LoopsEndWithin (limit : Nat) (configuration : Configuration σ) : Prop where
  findAll : ∀ count, limit ≤ count →
    (findAll count).exec configuration = (findAll limit).exec configuration
  collectPieces : ∀ rule text splits collected count, limit ≤ count →
    (Pattern.collectPieces rule text count splits collected).exec configuration =
      (Pattern.collectPieces rule text limit splits collected).exec configuration
  searchPiece : ∀ held index count, limit ≤ count →
    (PieceStream.searchPiece configuration.matcher count held index).run configuration.trace =
      (PieceStream.searchPiece configuration.matcher limit held index).run configuration.trace
  replaceFrom : ∀ replacement all number written count, limit ≤ count →
    (replaceFrom replacement all count number written).exec configuration =
      (replaceFrom replacement all limit number written).exec configuration

theorem EndsWithin.loopsEndWithin {limit : Nat} {configuration : Configuration σ}
    (ends : EndsWithin limit configuration) : LoopsEndWithin limit configuration where
  findAll := fun _ le => findAll_exec_of_endsWithin ends le
  collectPieces := fun rule text splits collected _ le =>
    collectPieces_exec_of_endsWithin rule text splits collected ends le
  searchPiece := fun held index _ le => searchPiece_run_of_endsWithin held index ends le
  replaceFrom := fun replacement all number written _ le =>
    replaceFrom_exec_of_endsWithin replacement all number written ends le

end Matcher

end RegexMatching
