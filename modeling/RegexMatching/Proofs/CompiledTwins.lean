import RegexMatching.Proofs.Counterparts

/-!
# Compiling the same expression twice

The patterns that an expression is compiled to on two engines with stores are twins from then on,
or compiling fails on both sides for the same fault.  A test that compiles its expression for itself
leaves nothing behind.
-/

namespace RegexMatching

variable {σ : Type} {kind : EngineKind} {base other : StoreEngine σ kind}
  {handles : Handle → Handle → Prop} {bound : Handle} {state state' after after' : σ}
  {source : Text} {flags : Number} {blueprint : kind.Blueprint} {pattern twin : Pattern σ}

/-- The handles of two patterns belong together as well. -/
def WithCode (handles : Handle → Handle → Prop) (pattern twin : Pattern σ) :
    Handle → Handle → Prop :=
  fun handle handle' => handles handle handle' ∨
    ∃ anchoring, handle = (pattern.variants.variant anchoring).handle ∧
      handle' = (twin.variants.variant anchoring).handle

namespace StoreEngine

/-- Handles stay linked while all code stays that was there before. -/
theorem Linked.guardedBelow (linked : base.Linked other handles bound state state')
    (guards : base.Guards (· < base.next state) state after)
    (guards' : other.Guards (· < other.next state') state' after') :
    base.Linked other handles bound after after' :=
  linked.guarded (guards.mono fun _ ⟨_, belong⟩ => linked.isBelow belong)
    (guards'.mono fun _ ⟨_, belong⟩ => linked.isBelow' belong)

/-- The handles of two patterns that were compiled to the same are linked. -/
theorem Linked.withCode (linked : base.Linked other handles bound after after')
    (built : pattern.IsBuilt base source flags blueprint state after)
    (built' : twin.IsBuilt other source flags blueprint state' after') :
    base.Linked other (WithCode handles pattern twin) bound after after' where
  code?_eq := by
    rintro handle handle' (belong | ⟨anchoring, rfl, rfl⟩)
    · exact linked.code?_eq belong
    · exact (built.stands anchoring).code?_eq.trans (built'.stands anchoring).code?_eq.symm
  isBelow := by
    rintro handle handle' (belong | ⟨anchoring, rfl, -⟩)
    · exact linked.isBelow belong
    · exact (built.stands anchoring).isBelow
  isBelow' := by
    rintro handle handle' (belong | ⟨anchoring, -, rfl⟩)
    · exact linked.isBelow' belong
    · exact (built'.stands anchoring).isBelow
  bound_le := linked.bound_le

end StoreEngine

/-- Patterns that were compiled to the same are twins. -/
theorem Pattern.IsBuilt.twins
    (built : pattern.IsBuilt base source flags blueprint state after)
    (built' : twin.IsBuilt other source flags blueprint state' after') :
    pattern.Twins (base.pair other (WithCode handles pattern twin) bound) twin where
  engine := built.engine
  engine' := built'.engine
  same := by
    rcases pattern with ⟨adapter, _, _, _, variants, _, _, _⟩
    rcases twin with ⟨adapter', _, _, _, variants', _, _, _⟩
    cases built.source
    cases built'.source
    cases built.flags
    cases built'.flags
    cases built.canonicalEquivalence
    cases built'.canonicalEquivalence
    cases built.groupCount
    cases built'.groupCount
    cases built.names
    cases built'.names
    cases built.isOpen
    cases built'.isOpen
    rfl
  options anchoring := (built.options anchoring).trans (built'.options anchoring).symm
  handles anchoring := .inr ⟨anchoring, rfl, rfl⟩

namespace StoreEngine

/-- An expression is compiled to twins, or fails on both sides for the same fault. -/
theorem compile_alike (base other : StoreEngine σ kind) (isLogged isLogged' : Bool) (source : Text)
    (flags : Number) (settings : PatternSettings) (trace trace' : Trace σ) :
    ∃ outcome outcome' after after',
      (Pattern.compile base.engine isLogged source flags settings).run trace = (outcome, after) ∧
      (Pattern.compile other.engine isLogged' source flags settings).run trace' =
        (outcome', after') ∧
      base.Guards (· < base.next trace.engines) trace.engines after.engines ∧
      other.Guards (· < other.next trace'.engines) trace'.engines after'.engines ∧
      EndedAlike (fun pattern twin => ∃ blueprint,
        pattern.IsBuilt base source flags blueprint trace.engines after.engines ∧
          twin.IsBuilt other source flags blueprint trace'.engines after'.engines)
        outcome outcome' := by
  obtain ⟨outcome, after, ran, guards, compiled⟩ :=
    base.compile_pattern_spec isLogged source flags settings trace
  obtain ⟨outcome', after', ran', guards', compiled'⟩ :=
    other.compile_pattern_spec isLogged' source flags settings trace'
  refine ⟨outcome, outcome', after, after', ran, ran', guards, guards', ?_⟩
  cases planned : kind.blueprint source flags settings with
  | error fault =>
      rw [planned] at compiled compiled'
      rw [compiled, compiled']
      exact .error fault
  | ok blueprint =>
      rw [planned] at compiled compiled'
      obtain ⟨pattern, rfl, built⟩ := compiled
      obtain ⟨twin, rfl, built'⟩ := compiled'
      exact .ok ⟨blueprint, built, built'⟩

/-! ## Testing once -/

theorem close_keeps_below {limit : Handle} (isEngine : pattern.adapter.engine = base.engine)
    (areLater : ∀ anchoring, limit ≤ (pattern.variants.variant anchoring).handle) :
    (discard pattern.close).Keeps (base.Guards (· < limit)) fun _ => True := by
  have closes : pattern.close.Keeps (base.Guards (· < limit)) fun _ => True := by
    intro trace
    obtain ⟨closed, after, ran, -, -, guards⟩ := close_pattern_spec isEngine trace
    rw [ran]
    refine ⟨guards.mono fun handle isBelow anchoring same => ?_, fun _ _ => trivial⟩
    exact absurd isBelow (Int.not_lt.mpr (same ▸ areLater anchoring))
  exact closes.discard (Guards.persists _)

/-- A test that compiles its expression for itself leaves the code that was there before. -/
theorem testOnce_guards (base : StoreEngine σ kind) (source text : Text) (trace : Trace σ) :
    base.Guards (· < base.next trace.engines) trace.engines
      ((Pattern.testOnce base.engine source text).run trace).2.engines := by
  obtain ⟨outcome, after, ran, guards, compiled⟩ :=
    base.compile_pattern_spec false source (.ofNat 0) {} trace
  rw [Pattern.testOnce, Work.run_bind, ran]
  cases planned : kind.blueprint source (.ofNat 0) {} with
  | error fault =>
      rw [planned] at compiled
      rw [compiled]
      exact guards
  | ok blueprint =>
      rw [planned] at compiled
      obtain ⟨pattern, rfl, built⟩ := compiled
      have kept := @Guards.keptByCalls σ kind base (· < base.next trace.engines)
      have tests := (Matcher.create_keeps kept built.engine text {}).bind kept.toPersists
        fun matcher isEngine => Work.Keeps.on isEngine fun configuration =>
          (Matcher.matchWhole_steps configuration).keeps kept
      have closes := close_keeps_below built.engine fun anchoring =>
        (built.stands anchoring).isFresh
      exact guards.trans ((tests.lastly kept.toPersists closes) after).1

/-- Tests that compile the same expression for themselves come to the same. -/
theorem testOnce_agrees (source text : Text) :
    Work.Agrees (base.pair other handles bound) (Pattern.testOnce base.engine source text)
      (Pattern.testOnce other.engine source text) Eq := by
  intro trace trace' linked
  refine ⟨?_, linked.guardedBelow (base.testOnce_guards source text trace)
    (other.testOnce_guards source text trace')⟩
  obtain ⟨outcome, outcome', after, after', ran, ran', guards, guards', compiled⟩ :=
    base.compile_alike other false false source (.ofNat 0) {} trace trace'
  rw [Pattern.testOnce, Pattern.testOnce, Work.run_bind, Work.run_bind, ran, ran']
  cases compiled with
  | error fault => exact .error fault
  | @ok pattern twin built =>
      obtain ⟨blueprint, built, built'⟩ := built
      have twins : pattern.Twins (base.pair other (WithCode handles pattern twin) bound) twin :=
        built.twins built'
      have agrees := (Matcher.create_agrees twins text {}).bind fun _ _ twins' =>
        Matcher.matchWhole_agrees.on twins'
      obtain ⟨endAlike, -⟩ := agrees after after'
        ((linked.guardedBelow guards guards').withCode built built')
      have closes : ∀ {base : StoreEngine σ kind} {pattern : Pattern σ} (trace : Trace σ),
          pattern.adapter.engine = base.engine →
            ((discard pattern.close).run trace).1 = .ok () := by
        intro base pattern trace isEngine
        obtain ⟨closed, after, ran, -⟩ := close_pattern_spec isEngine trace
        change ((pattern.close >>= fun _ => pure ()).run trace).1 = _
        rw [Work.run_bind, ran]
        rfl
      dsimp only
      rw [Work.run_finally_of_ok _ _ (closes _ built.engine),
        Work.run_finally_of_ok _ _ (closes _ built'.engine)]
      exact endAlike

end StoreEngine

end RegexMatching
