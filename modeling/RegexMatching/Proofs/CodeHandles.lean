import Mathlib.Data.List.Nodup
import RegexMatching.Proofs.IdleWork

/-!
# Who holds the code

Compiling a pattern obtains its code handles, or fails and gives back those it had obtained by
then.  Closing a pattern gives its handles back, once.  Both hold for one handle or three, as
long as the engine issues no handle twice.
-/

namespace RegexMatching

/-! ## Handles without repetitions -/

theorem nodup_eraseDups (handles : List Handle) : handles.eraseDups.Nodup := by
  match handles with
  | [] => exact List.nodup_nil
  | handle :: rest =>
      rw [List.eraseDups_cons]
      refine List.nodup_cons.mpr ⟨?_, nodup_eraseDups _⟩
      simp [List.mem_eraseDups]
termination_by handles.length
decreasing_by exact Nat.lt_succ_of_le (List.length_filter_le _ _)

/-- Where the handles are distinct, only zeros can be repeated. -/
theorem handlesAmong_eraseDups (numbers : List Handle) (distinct : (handlesAmong numbers).Nodup) :
    handlesAmong numbers.eraseDups = handlesAmong numbers := by
  match numbers with
  | [] => rfl
  | number :: rest =>
      -- Erasing the later occurrences of a handle erases nothing, as there are none.
      have others : handlesAmong (rest.filter fun other => !other == number) =
          handlesAmong rest := by
        rw [handlesAmong, List.filter_filter]
        apply List.filter_congr
        intro other mem
        by_cases isZero : other = 0
        · rw [isZero]
          rfl
        · rw [bne_iff_ne.mpr isZero, Bool.true_and, Bool.not_eq_true', beq_eq_false_iff_ne]
          rintro rfl
          rw [handlesAmong_cons, if_neg isZero] at distinct
          exact (List.nodup_cons.mp distinct).1 (mem_handlesAmong.mpr ⟨mem, isZero⟩)
      have distinct' : (handlesAmong (rest.filter fun other => !other == number)).Nodup := by
        rw [others]
        exact distinct.sublist ((List.sublist_cons_self number rest).filter _)
      rw [List.eraseDups_cons, handlesAmong_cons, handlesAmong_cons,
        handlesAmong_eraseDups _ distinct', others]
termination_by numbers.length
decreasing_by exact Nat.lt_succ_of_le (List.length_filter_le _ _)

/-- The code handles that a pattern holds: its own until it is closed. -/
def Pattern.held {σ : Type} (pattern : Pattern σ) : List Handle :=
  if pattern.isClosed then [] else handlesAmong pattern.variants.handles

namespace Ledger

/-- Code was compiled, and all of it is now `held`, if every handle of it is another one. -/
def Obtains (before after : Ledger) (held : List Handle) : Prop :=
  ∃ taken, Moves before after taken [] ∧ (taken.Nodup → held = taken)

/-- All code that was compiled was released again, if every handle of it is another one. -/
def Undoes (before after : Ledger) : Prop :=
  ∃ taken given, Moves before after taken given ∧ (taken.Nodup → given = taken)

variable {before between after : Ledger}

theorem Idles.undoes (idles : Idles before after) : before.Undoes after :=
  ⟨[], [], idles, fun _ => rfl⟩

end Ledger

/-! ## Adapters -/

namespace Adapter

variable {σ : Type} {adapter : Adapter (Audited σ)} {engine : Engine σ}

/-- An adapter that has released nothing enters what it compiles, and stays as it is. -/
theorem compile_moves (isEngine : adapter.engine = engine.audited)
    (isNew : adapter.released = []) (pattern : Text) (options : Int) (mapIndex : Int → Int)
    (displayed : Text) (trace : Trace (Audited σ)) :
    match (adapter.compile pattern options mapIndex displayed).run trace with
    | (.ok (handle, adapter'), after) =>
        adapter' = adapter ∧
          trace.engines.ledger.Moves after.engines.ledger (handlesAmong [handle]) []
    | (.error _, after) => trace.engines.ledger.Idles after.engines.ledger := by
  rcases adapter with ⟨_, isLogged, _⟩
  obtain rfl := isEngine
  obtain rfl := isNew
  rw [compile, Work.run_bind, Work.run_ofAction]
  have entered : ((engine.audited.compile (Utf8.encode pattern) options).run
      trace.engines).2.ledger = trace.engines.ledger.compile
        ((engine.audited.compile (Utf8.encode pattern) options).run trace.engines).1 := rfl
  rcases ran : (engine.audited.compile (Utf8.encode pattern) options).run trace.engines with
    ⟨result, audited⟩
  rw [ran] at entered
  cases result with
  | compiled handle =>
      refine ⟨rfl, ?_⟩
      change trace.engines.ledger.Moves audited.ledger _ _
      rw [entered]
      exact trace.engines.ledger.moves_compile handle
  | rejected rejection =>
      have idles : trace.engines.ledger.Idles audited.ledger := by
        rw [entered]
        exact .refl _
      dsimp only
      rw [Work.run_bind]
      cases isLogged <;> exact idles

/-- Code that is no zero and has not been released is released now. -/
theorem release_moves (isEngine : adapter.engine = engine.audited) {code : Handle}
    (isHandle : code ≠ 0) (unreleased : code ∉ adapter.released) (trace : Trace (Audited σ)) :
    ∃ after, (adapter.release code).run trace =
        (.ok { adapter with released := code :: adapter.released }, after) ∧
      trace.engines.ledger.Moves after.engines.ledger [] [code] := by
  rcases adapter with ⟨_, isLogged, released⟩
  obtain rfl := isEngine
  have isPending : ¬(code = 0 || released.contains code) = true := by
    rw [Bool.or_eq_true, decide_eq_true_eq, List.contains_iff_mem]
    exact not_or.mpr ⟨isHandle, unreleased⟩
  have moves : trace.engines.ledger.Moves (trace.engines.ledger.release code) [] [code] :=
    trace.engines.ledger.moves_release isHandle
  rw [release, if_neg isPending, Work.run_bind, Work.run_ofAction]
  dsimp only
  rw [Work.run_bind]
  cases isLogged <;> exact ⟨_, rfl, moves⟩

/-- Codes that are released in turn are entered, zeros and repetitions left out. -/
theorem releaseAll_moves (isEngine : adapter.engine = engine.audited) (codes : List Handle)
    (trace : Trace (Audited σ)) :
    ∃ adapter' after given, (adapter.releaseAll codes).run trace = (.ok adapter', after) ∧
      adapter'.engine = engine.audited ∧
      trace.engines.ledger.Moves after.engines.ledger [] given ∧
      ((handlesAmong codes).Nodup →
        (∀ code ∈ handlesAmong codes, code ∉ adapter.released) → given = handlesAmong codes) := by
  induction codes generalizing adapter trace with
  | nil => exact ⟨adapter, trace, [], rfl, isEngine, Ledger.Idles.refl _, fun _ _ => rfl⟩
  | cons code rest ih =>
      rw [releaseAll]
      by_cases isPending : code ≠ 0 ∧ code ∉ adapter.released
      · obtain ⟨isHandle, unreleased⟩ := isPending
        obtain ⟨trace', releases, first⟩ := release_moves isEngine isHandle unreleased trace
        obtain ⟨adapter', after, given, ran, isEngine', moves, all⟩ :=
          @ih { adapter with released := code :: adapter.released } isEngine trace'
        refine ⟨adapter', after, code :: given, ?_, isEngine', first.trans moves,
          fun distinct unreleased => ?_⟩
        · rw [Work.run_bind, releases]
          exact ran
        · rw [handlesAmong_cons, if_neg isHandle] at distinct unreleased ⊢
          obtain ⟨notMem, distinct'⟩ := List.nodup_cons.mp distinct
          rw [all distinct' fun other mem => ?_]
          rw [List.mem_cons, not_or]
          exact ⟨fun same => notMem (same ▸ mem), unreleased other (List.mem_cons_of_mem _ mem)⟩
      · obtain ⟨adapter', after, given, ran, isEngine', moves, all⟩ := ih isEngine trace
        refine ⟨adapter', after, given, ?_, isEngine', moves, fun distinct unreleased => ?_⟩
        · have isSkipped : (code = 0 || adapter.released.contains code) = true := by
            rw [Bool.or_eq_true, decide_eq_true_eq, List.contains_iff_mem]
            exact or_iff_not_imp_left.mpr fun isHandle =>
              not_not.mp fun unreleased => isPending ⟨isHandle, unreleased⟩
          rw [Work.run_bind, release, if_pos isSkipped]
          exact ran
        · have isZero : code = 0 := not_not.mp fun isHandle => isPending
            ⟨isHandle, unreleased code
              (mem_handlesAmong.mpr ⟨List.mem_cons_self, isHandle⟩)⟩
          subst isZero
          exact all distinct unreleased

end Adapter

/-! ## Compiling -/

namespace Pattern

variable {σ : Type} {adapter : Adapter (Audited σ)} {engine : Engine σ}

/-- Anchored code next to plain code.  When it cannot be had, the plain code is given back as
well. -/
theorem compileDedicated_moves (isEngine : adapter.engine = engine.audited)
    (isNew : adapter.released = []) (text : PatternText) (flags : Flags) (search : Handle)
    (trace : Trace (Audited σ)) :
    match (compileDedicated adapter text flags search).run trace with
    | (.ok (variants, adapter'), after) =>
        adapter' = adapter ∧ ∃ lookingAt whole,
          variants = ⟨{ handle := search }, { handle := lookingAt }, { handle := whole }⟩ ∧
            trace.engines.ledger.Moves after.engines.ledger
              (handlesAmong [lookingAt, whole]) []
    | (.error _, after) => ∃ others given,
        trace.engines.ledger.Moves after.engines.ledger others given ∧
          ((handlesAmong [search] ++ others).Nodup → given = handlesAmong [search] ++ others) := by
  have unreleased : ∀ codes : List Handle, ∀ code ∈ handlesAmong codes, code ∉ adapter.released :=
    fun _ _ _ => isNew ▸ List.not_mem_nil
  rw [compileDedicated, Work.run_bind, Work.run_onFailure]
  have first := adapter.compile_moves isEngine isNew text.text
    (Anchoring.lookingAt.applyTo flags.compileOptions).toBits text.toSource text.source trace
  rw [← compileVariant] at first
  rcases ran : (compileVariant adapter text flags .lookingAt).run trace with ⟨outcome, trace'⟩
  rw [ran] at first
  cases outcome with
  | error fault =>
      obtain ⟨_, after, given, released, -, moves, all⟩ :=
        adapter.releaseAll_moves isEngine [search] trace'
      refine ⟨[], given, ?_, fun distinct => ?_⟩
      · rw [released]
        exact first.moves moves
      · rw [List.append_nil] at distinct ⊢
        exact all distinct (unreleased _)
  | ok compiled =>
      rcases compiled with ⟨lookingAt, adapter'⟩
      obtain ⟨rfl, taken⟩ := first
      dsimp only
      rw [Work.run_bind, Work.run_onFailure]
      have second := adapter'.compile_moves isEngine isNew text.text
        (Anchoring.whole.applyTo flags.compileOptions).toBits text.toSource text.source trace'
      rw [← compileVariant] at second
      rcases ran' : (compileVariant adapter' text flags .whole).run trace' with
        ⟨outcome, trace''⟩
      rw [ran'] at second
      cases outcome with
      | error fault =>
          obtain ⟨_, after, given, released, -, moves, all⟩ :=
            adapter'.releaseAll_moves isEngine [search, lookingAt] trace''
          refine ⟨handlesAmong [lookingAt], given, ?_, fun distinct => ?_⟩
          · rw [released]
            simpa only [List.append_nil, List.nil_append] using (taken.idles second).trans moves
          · rw [← handlesAmong_append] at distinct ⊢
            exact all distinct (unreleased _)
      | ok compiled =>
          rcases compiled with ⟨whole, adapter''⟩
          obtain ⟨rfl, taken'⟩ := second
          refine ⟨rfl, lookingAt, whole, rfl, ?_⟩
          rw [show [lookingAt, whole] = [lookingAt] ++ [whole] from rfl, handlesAmong_append]
          exact taken.trans taken'

/-- The code for every anchoring is obtained, or none of it stays compiled. -/
theorem compileVariants_moves (isEngine : adapter.engine = engine.audited)
    (isNew : adapter.released = []) (text : PatternText) (flags : Flags)
    (settings : PatternSettings) (trace : Trace (Audited σ)) :
    match (compileVariants adapter text flags settings).run trace with
    | (.ok (variants, adapter'), after) =>
        adapter' = adapter ∧
          trace.engines.ledger.Obtains after.engines.ledger (handlesAmong variants.handles)
    | (.error _, after) => trace.engines.ledger.Undoes after.engines.ledger := by
  rw [compileVariants, Work.run_bind]
  have first := adapter.compile_moves isEngine isNew text.text
    (Anchoring.search.applyTo flags.compileOptions).toBits text.toSource text.source trace
  rw [← compileVariant] at first
  rcases ran : (compileVariant adapter text flags .search).run trace with ⟨outcome, trace'⟩
  rw [ran] at first
  cases outcome with
  | error fault => exact first.undoes
  | ok compiled =>
      rcases compiled with ⟨search, adapter'⟩
      obtain ⟨rfl, taken⟩ := first
      dsimp only
      by_cases isDedicated : (settings.precompileAnchoredVariants &&
          adapter'.engine.capabilities.anchoredVariants) = true
      · rw [if_pos isDedicated]
        have rest := compileDedicated_moves isEngine isNew text flags search trace'
        rcases ran' : (compileDedicated adapter' text flags search).run trace' with
          ⟨outcome, after⟩
        rw [ran'] at rest
        cases outcome with
        | error fault =>
            obtain ⟨others, given, moves, all⟩ := rest
            exact ⟨_, _, taken.trans moves, all⟩
        | ok compiled =>
            rcases compiled with ⟨variants, adapter''⟩
            obtain ⟨rfl, lookingAt, whole, rfl, moves⟩ := rest
            refine ⟨rfl, _, taken.trans moves, fun distinct => ?_⟩
            rw [← handlesAmong_append] at distinct ⊢
            exact handlesAmong_eraseDups _ distinct
      · have shared : (CodeVariants.shared search).handles = [search] := by
          simp [CodeVariants.handles, CodeVariants.shared, List.eraseDups_cons]
        have obtains : trace.engines.ledger.Obtains trace'.engines.ledger
            (handlesAmong (CodeVariants.shared search).handles) := by
          rw [shared]
          exact ⟨_, taken, fun _ => rfl⟩
        rw [if_neg isDedicated, Work.run_bind]
        cases adapter'.isLogged <;> exact ⟨rfl, obtains⟩

/-- A pattern of an audited engine.  Until it is closed, none of its code has been released. -/
structure IsKept (pattern : Pattern (Audited σ)) : Prop where
  isAudited : pattern.IsAudited
  unreleased : pattern.isClosed = false → pattern.adapter.released = []

/-- A new pattern holds the code that was compiled for it, and a pattern that cannot be compiled
leaves no code behind. -/
theorem compile_moves (engine : Engine σ) (isLogged : Bool) (source : Text) (flags : Number)
    (settings : PatternSettings) (trace : Trace (Audited σ)) :
    match (compile engine.audited isLogged source flags settings).run trace with
    | (.ok pattern, after) =>
        pattern.IsKept ∧ trace.engines.ledger.Obtains after.engines.ledger pattern.held
    | (.error _, after) => trace.engines.ledger.Undoes after.engines.ledger := by
  rw [compile, Work.run_bind, Work.run_ofExcept]
  cases Flags.ofNumber flags with
  | error fault => exact (Ledger.Idles.refl _).undoes
  | ok parsed =>
      dsimp only
      rw [Work.run_bind]
      have moves := @compileVariants_moves σ { engine := engine.audited, isLogged } engine rfl rfl
        (PatternText.ofSource source parsed) parsed settings trace
      rcases ran : (compileVariants { engine := engine.audited, isLogged }
        (PatternText.ofSource source parsed) parsed settings).run trace with ⟨outcome, trace'⟩
      rw [ran] at moves
      cases outcome with
      | error fault => exact moves
      | ok compiled =>
          rcases compiled with ⟨variants, adapter⟩
          obtain ⟨rfl, obtains⟩ := moves
          cases isLogged <;> exact ⟨⟨⟨engine, rfl⟩, fun _ => rfl⟩, obtains⟩

/-- Closing a pattern gives back what it holds. -/
theorem close_moves {pattern : Pattern (Audited σ)} (isKept : pattern.IsKept)
    (trace : Trace (Audited σ)) :
    ∃ closed after, pattern.close.run trace = (.ok closed, after) ∧ closed.IsKept ∧
      closed.isClosed = true ∧
      trace.engines.ledger.Moves after.engines.ledger [] pattern.held := by
  obtain ⟨engine, isEngine⟩ := isKept.isAudited
  rw [close, held]
  cases isClosed : pattern.isClosed with
  | true => exact ⟨pattern, trace, rfl, isKept, isClosed, Ledger.Idles.refl _⟩
  | false =>
      obtain ⟨adapter, after, given, ran, isEngine', moves, all⟩ :=
        pattern.adapter.releaseAll_moves isEngine pattern.variants.handles trace
      have whole := all ((nodup_eraseDups _).filter _)
        fun _ _ => isKept.unreleased isClosed ▸ List.not_mem_nil
      rw [whole] at moves
      refine ⟨{ pattern with adapter, isClosed := true }, after, ?_, ⟨⟨engine, isEngine'⟩, ?_⟩,
        rfl, moves⟩
      · rw [if_neg Bool.false_ne_true, Work.run_bind, ran]
        rfl
      · intro isOpen
        cases isOpen

/-- A test on the spot leaves no code behind. -/
theorem testOnce_undoes (engine : Engine σ) (source text : Text) (trace : Trace (Audited σ)) :
    trace.engines.ledger.Undoes
      ((testOnce engine.audited source text).run trace).2.engines.ledger := by
  rw [testOnce, Work.run_bind]
  have moves := compile_moves engine false source (.ofNat 0) {} trace
  rcases ran : (compile engine.audited false source (.ofNat 0) {}).run trace with
    ⟨outcome, trace'⟩
  rw [ran] at moves
  cases outcome with
  | error fault => exact moves
  | ok pattern =>
      obtain ⟨isKept, taken, compiled, held⟩ := moves
      dsimp only
      rw [Work.run_finally]
      have tests : (do
          let matcher ← Matcher.create pattern text {}
          Matcher.matchWhole.on matcher : Work (Audited σ) Bool).Idles fun _ => True :=
        (Matcher.create_idles isKept.isAudited text {}).bind fun _ isAudited =>
          .on isAudited fun configuration => (Matcher.matchWhole_steps configuration).idles
      generalize (do
        let matcher ← Matcher.create pattern text {}
        Matcher.matchWhole.on matcher : Work (Audited σ) Bool) = test at tests ⊢
      obtain ⟨closed, after, closes, -, -, released⟩ :=
        close_moves isKept (test.run trace').2
      have ended : ((discard pattern.close).run (test.run trace').2).2 = after := by
        change ((pattern.close >>= fun _ => pure ()).run _).2 = after
        rw [Work.run_bind, closes]
        rfl
      rw [ended]
      have moves := (compiled.idles (tests trace').1).trans released
      rw [List.append_nil, List.nil_append] at moves
      exact ⟨taken, _, moves, held⟩

end Pattern

end RegexMatching
