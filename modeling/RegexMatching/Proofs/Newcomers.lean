import RegexMatching.Proofs.CompiledTwins

/-!
# Patterns and matchers that are new

A session goes on hosting another one when the party gets a new pattern or matcher in both, and when
others get one in the shared session.
-/

namespace RegexMatching

variable {σ : Type} {kind : EngineKind} {hosting : Hosting σ kind} {own : Counterparts}

namespace Hosting.Hosts

variable {crowd alone : Session σ} (hosts : hosting.Hosts own crowd alone)

include hosts

/-- Both sessions have their engine under the same label, and no other one. -/
theorem lookup_engines (label : Label) :
    Option.Rel
      (fun engine engine' => engine = hosting.base.engine ∧ engine' = hosting.other.engine)
      (crowd.engines.lookup label) (alone.engines.lookup label) := by
  rw [hosts.engines, hosts.engines', LabelsAlike.lookup_cons_eq, LabelsAlike.lookup_cons_eq]
  split
  · exact .some ⟨rfl, rfl⟩
  · exact .none

/-- The engine of a label is the shared one. -/
theorem eq_engine {label : Label} {engine : Engine σ}
    (found : crowd.engines.lookup label = some engine) : engine = hosting.base.engine := by
  rw [hosts.engines, LabelsAlike.lookup_cons_eq] at found
  split at found
  · exact (Option.some.inj found).symm
  · cases found

/-- New traces take the place of the old ones, with all code that was there before. -/
theorem setTraces {after after' : Trace σ}
    (guards : hosting.base.Guards (· < hosting.base.next crowd.trace.engines)
      crowd.trace.engines after.engines)
    (guards' : hosting.other.Guards (· < hosting.other.next alone.trace.engines)
      alone.trace.engines after'.engines) :
    hosting.Hosts own { crowd with trace := after } { alone with trace := after' } :=
  { hosts with linked := hosts.linked.guardedBelow guards guards' }

/-- A pattern of the party, with its counterpart. -/
theorem addPattern {label : Label} (isOwn : label ∈ hosting.share.patterns)
    {source : Text} {flags : Number} {blueprint : kind.Blueprint} {state state' : σ}
    {pattern twin : Pattern σ}
    (built : pattern.IsBuilt hosting.base source flags blueprint state crowd.trace.engines)
    (built' : twin.IsBuilt hosting.other source flags blueprint state' alone.trace.engines)
    (isLater : own.bound ≤ hosting.base.next state) :
    hosting.Hosts
      { own with
        handles := WithCode own.handles pattern twin
        patterns := Joined own.patterns crowd.patterns.size alone.patterns.size }
      { crowd with
        patterns := crowd.patterns.push pattern
        patternNumbers := (label, crowd.patterns.size) :: crowd.patternNumbers }
      { alone with
        patterns := alone.patterns.push twin
        patternNumbers := (label, alone.patterns.size) :: alone.patternNumbers } := by
  have grows : own.Grows
      { own with
        handles := WithCode own.handles pattern twin
        patterns := Joined own.patterns crowd.patterns.size alone.patterns.size } :=
    { handles := fun _ _ => .inl
      bound_le := Int.le_refl _
      unowned := by
        rintro handle isBelow unowned ⟨handle', belong | ⟨anchoring, rfl, -⟩⟩
        · exact unowned ⟨handle', belong⟩
        · exact Int.not_lt.mpr (built.stands anchoring).isFresh
            (Int.lt_of_lt_of_le isBelow isLater)
      patterns := fun _ _ => .inl
      otherPatterns := fun _ isOther => isOther.joined hosts.patterns.count_le
      matchers := fun _ _ => id
      otherMatchers := fun _ => id }
  exact
    { engines := hosts.engines
      engines' := hosts.engines'
      linked := hosts.linked.withCode built built'
      patterns := (hosts.patterns.growPatterns grows).pushBoth (built.twins built')
      patternNumbers :=
        (hosts.patternNumbers.mono grows.patterns grows.otherPatterns).setOwn isOwn
          (.inr ⟨rfl, rfl⟩)
      matchers := hosts.matchers.growMatchers grows
      matcherNumbers := hosts.matcherNumbers
      iterators := hosts.iterators.growIterators grows
      snapshots := hosts.snapshots
      sinks := hosts.sinks }

/-- A matcher of the party, with its counterpart. -/
theorem addMatcher {label : Label} (isOwn : label ∈ hosting.share.matchers)
    {matcher twin : Matcher σ} (twins : matcher.Twins (hosting.pair own) twin) :
    hosting.Hosts
      { own with matchers := Joined own.matchers crowd.matchers.size alone.matchers.size }
      { crowd with
        matchers := crowd.matchers.push matcher
        matcherNumbers := (label, crowd.matchers.size) :: crowd.matcherNumbers }
      { alone with
        matchers := alone.matchers.push twin
        matcherNumbers := (label, alone.matchers.size) :: alone.matcherNumbers } := by
  have grows : own.Grows
      { own with matchers := Joined own.matchers crowd.matchers.size alone.matchers.size } :=
    { handles := fun _ _ => id
      bound_le := Int.le_refl _
      unowned := fun _ _ => id
      patterns := fun _ _ => id
      otherPatterns := fun _ => id
      matchers := fun _ _ => .inl
      otherMatchers := fun _ isOther => isOther.joined hosts.matchers.count_le }
  exact
    { engines := hosts.engines
      engines' := hosts.engines'
      linked := hosts.linked
      patterns := hosts.patterns.growPatterns grows
      patternNumbers := hosts.patternNumbers
      matchers := (hosts.matchers.growMatchers grows).pushBoth twins
      matcherNumbers :=
        (hosts.matcherNumbers.mono grows.matchers grows.otherMatchers).setOwn isOwn
          (.inr ⟨rfl, rfl⟩)
      iterators := hosts.iterators.growIterators grows
      snapshots := hosts.snapshots
      sinks := hosts.sinks }

/-- A pattern of others, whose code was not there before. -/
theorem addForeignPattern {label : Label} (isOther : label ∉ hosting.share.patterns)
    {source : Text} {flags : Number} {blueprint : kind.Blueprint} {state : σ}
    {pattern : Pattern σ}
    (built : pattern.IsBuilt hosting.base source flags blueprint state crowd.trace.engines)
    (areBelow : ∀ handle, own.IsOwned handle → handle < hosting.base.next state) :
    hosting.Hosts
      { own with
        bound := hosting.base.next crowd.trace.engines
        patternCount := crowd.patterns.size + 1 }
      { crowd with
        patterns := crowd.patterns.push pattern
        patternNumbers := (label, crowd.patterns.size) :: crowd.patternNumbers }
      alone := by
  have grows : own.Grows
      { own with
        bound := hosting.base.next crowd.trace.engines
        patternCount := crowd.patterns.size + 1 } :=
    { handles := fun _ _ => id
      bound_le := hosts.linked.bound_le
      unowned := fun _ _ => id
      patterns := fun _ _ => id
      otherPatterns := fun _ isOther' =>
        ⟨Nat.lt_succ_of_lt (Nat.lt_of_lt_of_le isOther'.less hosts.patterns.count_le),
          isOther'.unowned⟩
      matchers := fun _ _ => id
      otherMatchers := fun _ => id }
  exact
    { engines := hosts.engines
      engines' := hosts.engines'
      linked := { hosts.linked with bound_le := Int.le_refl _ }
      patterns := (hosts.patterns.growPatterns grows).pushOther
        { engine := built.engine
          isBelow := fun anchoring => (built.stands anchoring).isBelow
          unowned := fun anchoring isOwned => absurd (areBelow _ isOwned)
            (Int.not_lt.mpr (built.stands anchoring).isFresh) }
      patternNumbers :=
        (hosts.patternNumbers.mono grows.patterns grows.otherPatterns).setOther isOther
          hosts.patterns.isOther_size
      matchers := hosts.matchers.growMatchers grows
      matcherNumbers := hosts.matcherNumbers
      iterators := hosts.iterators.growIterators grows
      snapshots := hosts.snapshots
      sinks := hosts.sinks }

/-- A matcher of others. -/
theorem addForeignMatcher {label : Label} (isOther : label ∉ hosting.share.matchers)
    {matcher : Matcher σ} (isEngine : matcher.pattern.adapter.engine = hosting.base.engine) :
    hosting.Hosts
      { own with matcherCount := crowd.matchers.size + 1 }
      { crowd with
        matchers := crowd.matchers.push matcher
        matcherNumbers := (label, crowd.matchers.size) :: crowd.matcherNumbers }
      alone := by
  have grows : own.Grows { own with matcherCount := crowd.matchers.size + 1 } :=
    { handles := fun _ _ => id
      bound_le := Int.le_refl _
      unowned := fun _ _ => id
      patterns := fun _ _ => id
      otherPatterns := fun _ => id
      matchers := fun _ _ => id
      otherMatchers := fun _ isOther' =>
        ⟨Nat.lt_succ_of_lt (Nat.lt_of_lt_of_le isOther'.less hosts.matchers.count_le),
          isOther'.unowned⟩ }
  exact
    { engines := hosts.engines
      engines' := hosts.engines'
      linked := hosts.linked
      patterns := hosts.patterns.growPatterns grows
      patternNumbers := hosts.patternNumbers
      matchers := (hosts.matchers.growMatchers grows).pushOther isEngine
      matcherNumbers :=
        (hosts.matcherNumbers.mono grows.matchers grows.otherMatchers).setOther isOther
          hosts.matchers.isOther_size
      iterators := hosts.iterators.growIterators grows
      snapshots := hosts.snapshots
      sinks := hosts.sinks }

end Hosting.Hosts

end RegexMatching
