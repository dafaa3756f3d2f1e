import RegexMatching.Proofs.Blueprints
import RegexMatching.Proofs.HandleBalance
import RegexMatching.Proofs.Twins

/-!
# Sessions that host another one

In a session that many share, some labels belong to one party.  The session hosts another one, of
that party alone, if what these labels stand for in the one has its counterpart in the other: the
patterns and matchers are twins, numbered in another way, and everything else is the same.  What
belongs to others is kept apart from it.
-/

namespace RegexMatching

variable {σ α β : Type}

/-! ## Labels and numbers -/

/-- What own labels stand for is alike, and what other labels stand for is foreign. -/
structure LabelsAlike (own : List Label) (alike : α → β → Prop) (isForeign : α → Prop)
    (entries : List (Label × α)) (entries' : List (Label × β)) : Prop where
  ofOwn : ∀ label ∈ own, Option.Rel alike (entries.lookup label) (entries'.lookup label)
  ofOther : ∀ label ∉ own, ∀ value, entries.lookup label = some value → isForeign value

namespace LabelsAlike

variable {own : List Label} {alike alike' : α → β → Prop} {isForeign isForeign' : α → Prop}
  {entries : List (Label × α)} {entries' : List (Label × β)}

theorem nil : LabelsAlike own alike isForeign [] [] :=
  ⟨fun _ _ => .none, nofun⟩

/-- A label of a value in front stands for the value. -/
theorem lookup_cons_eq (label other : Label) (value : α) (entries : List (Label × α)) :
    List.lookup other ((label, value) :: entries) =
      if other = label then some value else entries.lookup other := by
  rw [List.lookup_cons]
  by_cases same : other = label
  · rw [if_pos same, beq_iff_eq.mpr same]
  · rw [if_neg same, beq_eq_false_iff_ne.mpr same]

theorem setOwn (labels : LabelsAlike own alike isForeign entries entries') {label : Label}
    (isOwn : label ∈ own) {value : α} {value' : β} (isAlike : alike value value') :
    LabelsAlike own alike isForeign ((label, value) :: entries) ((label, value') :: entries') where
  ofOwn other mem := by
    rw [lookup_cons_eq, lookup_cons_eq]
    split
    · exact .some isAlike
    · exact labels.ofOwn other mem
  ofOther other notMem value found := by
    rw [lookup_cons_eq, if_neg (ne_of_mem_of_not_mem isOwn notMem).symm] at found
    exact labels.ofOther other notMem value found

theorem setOther (labels : LabelsAlike own alike isForeign entries entries') {label : Label}
    (isOther : label ∉ own) {value : α} (foreign : isForeign value) :
    LabelsAlike own alike isForeign ((label, value) :: entries) entries' where
  ofOwn other mem := by
    rw [lookup_cons_eq, if_neg (ne_of_mem_of_not_mem mem isOther)]
    exact labels.ofOwn other mem
  ofOther other notMem value' found := by
    rw [lookup_cons_eq] at found
    split at found
    · exact Option.some.inj found ▸ foreign
    · exact labels.ofOther other notMem value' found

theorem mono (labels : LabelsAlike own alike isForeign entries entries')
    (implied : ∀ value value', alike value value' → alike' value value')
    (implied' : ∀ value, isForeign value → isForeign' value) :
    LabelsAlike own alike' isForeign' entries entries' where
  ofOwn label mem := by
    have related := labels.ofOwn label mem
    generalize entries.lookup label = value?, entries'.lookup label = value'? at related ⊢
    cases related with
    | none => exact .none
    | some isAlike => exact .some (implied _ _ isAlike)
  ofOther label notMem value found := implied' value (labels.ofOther label notMem value found)

end LabelsAlike

/-- Numbers that belong together, and two more. -/
def Joined (numbers : Nat → Nat → Prop) (number number' : Nat) : Nat → Nat → Prop :=
  fun other other' => numbers other other' ∨ (other = number ∧ other' = number')

/-- A number that has been given out, and has no counterpart. -/
structure IsOther (numbers : Nat → Nat → Prop) (count number : Nat) : Prop where
  less : number < count
  unowned : ∀ number', ¬numbers number number'

/-- A number stays without a counterpart when later ones get one. -/
theorem IsOther.joined {numbers : Nat → Nat → Prop} {count number last last' : Nat}
    (isOther : IsOther numbers count number) (isLast : count ≤ last) :
    IsOther (Joined numbers last last') count number where
  less := isOther.less
  unowned
    | number', .inl isOwn => isOther.unowned number' isOwn
    | _, .inr ⟨same, _⟩ => absurd isOther.less (Nat.not_lt.mpr (same ▸ isLast))

/-- Values of numbers that belong together are alike, and all other values are foreign.  Others know
numbers below a count only. -/
structure ArraysAlike (numbers : Nat → Nat → Prop) (count : Nat) (alike : α → β → Prop)
    (isForeign : α → Prop) (values : Array α) (values' : Array β) : Prop where
  count_le : count ≤ values.size
  unique : ∀ {number number' other other'}, numbers number number' → numbers other other' →
    (number = other ↔ number' = other')
  ofOwn : ∀ {number number'}, numbers number number' →
    ∃ value value', values[number]? = some value ∧ values'[number']? = some value' ∧
      alike value value'
  ofOther : ∀ {number value}, values[number]? = some value →
    (∀ number', ¬numbers number number') → isForeign value

namespace ArraysAlike

variable {numbers : Nat → Nat → Prop} {count : Nat} {alike alike' : α → β → Prop}
  {isForeign isForeign' : α → Prop} {values : Array α} {values' : Array β}

theorem empty : ArraysAlike (fun _ _ => False) 0 alike isForeign #[] #[] :=
  ⟨Nat.le_refl _, fun isOwn => isOwn.elim, fun isOwn => isOwn.elim, fun found => by simp at found⟩

theorem mono (arrays : ArraysAlike numbers count alike isForeign values values')
    (implied : ∀ value value', alike value value' → alike' value value')
    (implied' : ∀ value, isForeign value → isForeign' value) :
    ArraysAlike numbers count alike' isForeign' values values' where
  count_le := arrays.count_le
  unique := arrays.unique
  ofOwn isOwn := by
    obtain ⟨value, value', found, found', isAlike⟩ := arrays.ofOwn isOwn
    exact ⟨value, value', found, found', implied _ _ isAlike⟩
  ofOther found isOther := implied' _ (arrays.ofOther found isOther)

variable (arrays : ArraysAlike numbers count alike isForeign values values')
  {number number' : Nat}

include arrays

theorem lt_size (isOwn : numbers number number') :
    number < values.size ∧ number' < values'.size := by
  obtain ⟨value, value', found, found', -⟩ := arrays.ofOwn isOwn
  exact ⟨(Array.getElem?_eq_some_iff.mp found).1, (Array.getElem?_eq_some_iff.mp found').1⟩

/-- A value has a counterpart, or is foreign. -/
theorem own_or_foreign {value : α} (found : values[number]? = some value) :
    (∃ value', alike value value') ∨ isForeign value := by
  by_cases isOwn : ∃ number', numbers number number'
  · obtain ⟨number', isOwn⟩ := isOwn
    obtain ⟨value'', value', found'', -, isAlike⟩ := arrays.ofOwn isOwn
    obtain rfl := Option.some.inj (found.symm.trans found'')
    exact .inl ⟨value', isAlike⟩
  · exact .inr (arrays.ofOther found fun number' => not_exists.mp isOwn number')

/-- The next number is nobody's yet. -/
theorem isOther_size : IsOther numbers (values.size + 1) values.size where
  less := Nat.lt_succ_self _
  unowned _ isOwn := Nat.lt_irrefl _ (arrays.lt_size isOwn).1

/-- One more value on either side. -/
theorem pushBoth {value : α} {value' : β} (isAlike : alike value value') :
    ArraysAlike (Joined numbers values.size values'.size) count alike isForeign
      (values.push value) (values'.push value') where
  count_le := by
    rw [Array.size_push]
    exact Nat.le_succ_of_le arrays.count_le
  unique := by
    rintro number number' other other' (isOwn | ⟨rfl, rfl⟩) (isOwn' | ⟨rfl, rfl⟩)
    · exact arrays.unique isOwn isOwn'
    · obtain ⟨less, less'⟩ := arrays.lt_size isOwn
      exact iff_of_false (Nat.ne_of_lt less) (Nat.ne_of_lt less')
    · obtain ⟨less, less'⟩ := arrays.lt_size isOwn'
      exact iff_of_false (Nat.ne_of_gt less) (Nat.ne_of_gt less')
    · exact iff_of_true rfl rfl
  ofOwn := by
    rintro number number' (isOwn | ⟨rfl, rfl⟩)
    · obtain ⟨less, less'⟩ := arrays.lt_size isOwn
      obtain ⟨other, other', found, found', isAlike'⟩ := arrays.ofOwn isOwn
      refine ⟨other, other', ?_, ?_, isAlike'⟩
      · rw [Array.getElem?_push_lt less, ← Array.getElem?_eq_getElem less, found]
      · rw [Array.getElem?_push_lt less', ← Array.getElem?_eq_getElem less', found']
    · exact ⟨value, value', Array.getElem?_push_size, Array.getElem?_push_size, isAlike⟩
  ofOther := by
    intro number other found isOther
    rw [Array.getElem?_push] at found
    split at found
    · next isLast => exact absurd (.inr ⟨isLast, rfl⟩) (isOther values'.size)
    · exact arrays.ofOther found fun number' isOwn => isOther number' (.inl isOwn)

/-- One more foreign value. -/
theorem pushOther {value : α} (foreign : isForeign value) :
    ArraysAlike numbers (values.size + 1) alike isForeign (values.push value) values' where
  count_le := by
    rw [Array.size_push]
  unique := arrays.unique
  ofOwn := by
    intro number number' isOwn
    obtain ⟨less, -⟩ := arrays.lt_size isOwn
    obtain ⟨other, other', found, found', isAlike⟩ := arrays.ofOwn isOwn
    refine ⟨other, other', ?_, found', isAlike⟩
    rw [Array.getElem?_push_lt less, ← Array.getElem?_eq_getElem less, found]
  ofOther := by
    intro number other found isOther
    rw [Array.getElem?_push] at found
    split at found
    · exact Option.some.inj found ▸ foreign
    · exact arrays.ofOther found isOther

/-- Values that are alike in the place of two that belong together. -/
theorem setBoth (isOwn : numbers number number') {value : α} {value' : β}
    (isAlike : alike value value') :
    ArraysAlike numbers count alike isForeign (values.setIfInBounds number value)
      (values'.setIfInBounds number' value') where
  count_le := by
    rw [Array.size_setIfInBounds]
    exact arrays.count_le
  unique := arrays.unique
  ofOwn := by
    intro other other' isOwn'
    by_cases same : number = other
    · obtain rfl := same
      obtain rfl := (arrays.unique isOwn isOwn').mp rfl
      obtain ⟨less, less'⟩ := arrays.lt_size isOwn
      exact ⟨value, value', Array.getElem?_setIfInBounds_self_of_lt less,
        Array.getElem?_setIfInBounds_self_of_lt less', isAlike⟩
    · obtain ⟨kept, kept', found, found', isAlike'⟩ := arrays.ofOwn isOwn'
      refine ⟨kept, kept', ?_, ?_, isAlike'⟩
      · rw [Array.getElem?_setIfInBounds_ne same, found]
      · have isApart' : number' ≠ other' := fun same' =>
          same ((arrays.unique isOwn isOwn').mpr same')
        rw [Array.getElem?_setIfInBounds_ne isApart', found']
  ofOther := by
    intro other kept found isOther
    have isApart : number ≠ other := fun same => isOther number' (same ▸ isOwn)
    rw [Array.getElem?_setIfInBounds_ne isApart] at found
    exact arrays.ofOther found isOther

/-- A foreign value in the place of another one. -/
theorem setOther (isOther : ∀ number', ¬numbers number number') {value : α}
    (foreign : isForeign value) :
    ArraysAlike numbers count alike isForeign (values.setIfInBounds number value) values' where
  count_le := by
    rw [Array.size_setIfInBounds]
    exact arrays.count_le
  unique := arrays.unique
  ofOwn := by
    intro other other' isOwn
    have isApart : number ≠ other := fun same => isOther other' (same ▸ isOwn)
    obtain ⟨kept, kept', found, found', isAlike⟩ := arrays.ofOwn isOwn
    refine ⟨kept, kept', ?_, found', isAlike⟩
    rw [Array.getElem?_setIfInBounds_ne isApart, found]
  ofOther := by
    intro other kept found isOther'
    rw [Array.getElem?_setIfInBounds] at found
    split at found
    · split at found
      · exact Option.some.inj found ▸ foreign
      · cases found
    · exact arrays.ofOther found isOther'

end ArraysAlike

/-! ## Twins on two stores -/

namespace StoreEngine

variable {kind : EngineKind}

/-- Handles that belong together stand for the same code, and they and others below a bound have
been given out. -/
structure Linked (base other : StoreEngine σ kind) (handles : Handle → Handle → Prop)
    (bound : Handle) (state state' : σ) : Prop where
  code?_eq : ∀ {handle handle'}, handles handle handle' →
    base.code? state handle = other.code? state' handle'
  isBelow : ∀ {handle handle'}, handles handle handle' → handle < base.next state
  isBelow' : ∀ {handle handle'}, handles handle handle' → handle' < other.next state'
  bound_le : bound ≤ base.next state

variable {base other : StoreEngine σ kind} {handles handles' : Handle → Handle → Prop}
  {bound bound' : Handle} {state state' after after' : σ}

/-- Handles stay linked while their code stays. -/
theorem Linked.guarded (linked : base.Linked other handles bound state state')
    (guards : base.Guards (fun handle => ∃ handle', handles handle handle') state after)
    (guards' : other.Guards (fun handle' => ∃ handle, handles handle handle') state' after') :
    base.Linked other handles bound after after' where
  code?_eq {handle handle'} belong :=
    (guards.code?_eq handle ⟨handle', belong⟩).trans
      ((linked.code?_eq belong).trans (guards'.code?_eq handle' ⟨handle, belong⟩).symm)
  isBelow belong := Int.lt_of_lt_of_le (linked.isBelow belong) guards.next_le
  isBelow' belong := Int.lt_of_lt_of_le (linked.isBelow' belong) guards'.next_le
  bound_le := Int.le_trans linked.bound_le guards.next_le

/-- What others do on the one side leaves handles linked. -/
theorem Linked.left (linked : base.Linked other handles bound state state')
    (guards : base.Guards (fun handle => ∃ handle', handles handle handle') state after) :
    base.Linked other handles bound after state' :=
  linked.guarded guards (.of_store_eq rfl)

/-- Engines on stores answer alike about the same code. -/
def pair (base other : StoreEngine σ kind) (handles : Handle → Handle → Prop) (bound : Handle) :
    EnginePair σ where
  engine := base.engine
  other := other.engine
  handles := handles
  linked := base.Linked other handles bound
  name := base.actsLike.name.trans other.actsLike.name.symm
  capabilities := base.actsLike.capabilities.trans other.actsLike.capabilities.symm
  errorMessage := base.actsLike.errorMessage.trans other.actsLike.errorMessage.symm
  createStack := base.actsLike.createStack
  createStack' := other.actsLike.createStack
  releaseStack := base.actsLike.releaseStack
  releaseStack' := other.actsLike.releaseStack
  exchange := by
    intro state state' linked request code belong
    obtain ⟨report, sameCode, next_le⟩ := base.exchange_spec request state
    obtain ⟨report', sameCode', next_le'⟩ := other.exchange_spec { request with code } state'
    refine ⟨?_, linked.guarded ⟨next_le, fun handle _ => congrFun sameCode handle⟩
      ⟨next_le', fun handle _ => congrFun sameCode' handle⟩⟩
    rw [report, report', linked.code?_eq belong]

end StoreEngine

section Extend

variable {kind : EngineKind} {base other : StoreEngine σ kind}
  {handles handles' : Handle → Handle → Prop} {bound bound' : Handle}
  (implied : ∀ handle handle', handles handle handle' → handles' handle handle')

include implied

theorem Pattern.Twins.extend {pattern twin : Pattern σ}
    (twins : pattern.Twins (base.pair other handles bound) twin) :
    pattern.Twins (base.pair other handles' bound') twin :=
  ⟨twins.engine, twins.engine', twins.same, twins.options,
    fun anchoring => implied _ _ (twins.handles anchoring)⟩

theorem Matcher.Twins.extend {matcher twin : Matcher σ}
    (twins : matcher.Twins (base.pair other handles bound) twin) :
    matcher.Twins (base.pair other handles' bound') twin :=
  ⟨twins.same, twins.pattern.extend implied⟩

theorem PieceStream.Twins.extend {stream twin : PieceStream σ}
    (twins : stream.Twins (base.pair other handles bound) twin) :
    stream.Twins (base.pair other handles' bound') twin := by
  cases twins with
  | notStarted text => exact .notStarted text
  | running twins ready index isSearched =>
      exact .running (twins.extend implied) ready index isSearched
  | ended => exact .ended

end Extend

/-! ## Sessions that host another one -/

/-- The labels of one party. -/
structure Share where
  patterns : List Label
  matchers : List Label
  iterators : List Label
  snapshots : List Label
  sinks : List Label

/-- What belongs together in two sessions: handles of code, and the numbers of patterns and of
matchers.  The handles and numbers of others are below a bound. -/
structure Counterparts where
  handles : Handle → Handle → Prop
  bound : Handle
  patterns : Nat → Nat → Prop
  patternCount : Nat
  matchers : Nat → Nat → Prop
  matcherCount : Nat

/-- A handle that has a counterpart. -/
def Counterparts.IsOwned (own : Counterparts) (handle : Handle) : Prop :=
  ∃ handle', own.handles handle handle'

/-- A pattern whose code has no counterpart. -/
structure Pattern.IsForeign {kind : EngineKind} (base : StoreEngine σ kind) (own : Counterparts)
    (pattern : Pattern σ) : Prop where
  engine : pattern.adapter.engine = base.engine
  isBelow : ∀ anchoring, (pattern.variants.variant anchoring).handle < own.bound
  unowned : ∀ anchoring, ¬own.IsOwned (pattern.variants.variant anchoring).handle

namespace SessionIterator

/-- Iterators over matchers or pieces that have counterparts. -/
inductive Alike (pair : EnginePair σ) (own : Counterparts) :
    SessionIterator σ → SessionIterator σ → Prop
  | snapshots {number number' : Nat} (isOwn : own.matchers number number')
      (iteration : Iteration) :
      Alike pair own (.snapshots number iteration) (.snapshots number' iteration)
  | pieces {number number' : Nat} (isOwn : own.patterns number number')
      {stream twin : PieceStream σ} (twins : stream.Twins pair twin) :
      Alike pair own (.pieces number stream) (.pieces number' twin)

/-- An iterator over a matcher without a counterpart, or over pieces. -/
def IsForeign {kind : EngineKind} (base : StoreEngine σ kind) (own : Counterparts) :
    SessionIterator σ → Prop
  | .snapshots number _ => IsOther own.matchers own.matcherCount number
  | .pieces _ stream => stream.IsOf fun pattern => pattern.adapter.engine = base.engine

end SessionIterator

/-! ## More that belongs together -/

/-- What belonged together goes on belonging together, and what was known to others stays theirs. -/
structure Counterparts.Grows (own later : Counterparts) : Prop where
  handles : ∀ handle handle', own.handles handle handle' → later.handles handle handle'
  bound_le : own.bound ≤ later.bound
  unowned : ∀ handle, handle < own.bound → ¬own.IsOwned handle → ¬later.IsOwned handle
  patterns : ∀ number number', own.patterns number number' → later.patterns number number'
  otherPatterns : ∀ number, IsOther own.patterns own.patternCount number →
    IsOther later.patterns later.patternCount number
  matchers : ∀ number number', own.matchers number number' → later.matchers number number'
  otherMatchers : ∀ number, IsOther own.matchers own.matcherCount number →
    IsOther later.matchers later.matcherCount number

section Grows

variable {kind : EngineKind} {base other : StoreEngine σ kind} {own later : Counterparts}
  (grows : own.Grows later)

include grows

theorem Pattern.IsForeign.grow {pattern : Pattern σ} (isForeign : pattern.IsForeign base own) :
    pattern.IsForeign base later where
  engine := isForeign.engine
  isBelow anchoring := Int.lt_of_lt_of_le (isForeign.isBelow anchoring) grows.bound_le
  unowned anchoring := grows.unowned _ (isForeign.isBelow anchoring) (isForeign.unowned anchoring)

theorem ArraysAlike.growPatterns {numbers : Nat → Nat → Prop} {count : Nat}
    {patterns patterns' : Array (Pattern σ)}
    (arrays : ArraysAlike numbers count (Pattern.Twins (base.pair other own.handles own.bound))
      (Pattern.IsForeign base own) patterns patterns') :
    ArraysAlike numbers count (Pattern.Twins (base.pair other later.handles later.bound))
      (Pattern.IsForeign base later) patterns patterns' :=
  arrays.mono (fun _ _ twins => twins.extend grows.handles) fun _ isForeign =>
    isForeign.grow grows

theorem ArraysAlike.growMatchers {numbers : Nat → Nat → Prop} {count : Nat}
    {isForeign : Matcher σ → Prop} {matchers matchers' : Array (Matcher σ)}
    (arrays : ArraysAlike numbers count (Matcher.Twins (base.pair other own.handles own.bound))
      isForeign matchers matchers') :
    ArraysAlike numbers count (Matcher.Twins (base.pair other later.handles later.bound))
      isForeign matchers matchers' :=
  arrays.mono (fun _ _ twins => twins.extend grows.handles) fun _ => id

theorem LabelsAlike.growIterators {labels : List Label}
    {iterators iterators' : List (Label × SessionIterator σ)}
    (alike : LabelsAlike labels
      (SessionIterator.Alike (base.pair other own.handles own.bound) own)
      (SessionIterator.IsForeign base own) iterators iterators') :
    LabelsAlike labels (SessionIterator.Alike (base.pair other later.handles later.bound) later)
      (SessionIterator.IsForeign base later) iterators iterators' := by
  refine alike.mono (fun _ _ isAlike => ?_) fun iterator isForeign => ?_
  · cases isAlike with
    | snapshots isOwn iteration => exact .snapshots (grows.matchers _ _ isOwn) iteration
    | pieces isOwn twins => exact .pieces (grows.patterns _ _ isOwn) (twins.extend grows.handles)
  · cases iterator with
    | snapshots number iteration => exact grows.otherMatchers number isForeign
    | pieces number stream => exact isForeign

end Grows

/-! ## Hosting -/

/-- A shared engine, the same engine for one party alone, the label that both go by, and the labels
of the party. -/
structure Hosting (σ : Type) (kind : EngineKind) where
  base : StoreEngine σ kind
  other : StoreEngine σ kind
  engineLabel : Label
  share : Share

namespace Hosting

variable {kind : EngineKind}

/-- The shared engine and the other one. -/
def pair (hosting : Hosting σ kind) (own : Counterparts) : EnginePair σ :=
  hosting.base.pair hosting.other own.handles own.bound

/-- One session hosts another one: what belongs to the party has its counterpart, and what belongs
to others is apart from that. -/
structure Hosts (hosting : Hosting σ kind) (own : Counterparts) (crowd alone : Session σ) :
    Prop where
  engines : crowd.engines = [(hosting.engineLabel, hosting.base.engine)]
  engines' : alone.engines = [(hosting.engineLabel, hosting.other.engine)]
  linked : (hosting.pair own).linked crowd.trace.engines alone.trace.engines
  patterns : ArraysAlike own.patterns own.patternCount (Pattern.Twins (hosting.pair own))
    (Pattern.IsForeign hosting.base own) crowd.patterns alone.patterns
  patternNumbers : LabelsAlike hosting.share.patterns own.patterns
    (IsOther own.patterns own.patternCount) crowd.patternNumbers alone.patternNumbers
  matchers : ArraysAlike own.matchers own.matcherCount (Matcher.Twins (hosting.pair own))
    (fun matcher => matcher.pattern.adapter.engine = hosting.base.engine) crowd.matchers
    alone.matchers
  matcherNumbers : LabelsAlike hosting.share.matchers own.matchers
    (IsOther own.matchers own.matcherCount) crowd.matcherNumbers alone.matcherNumbers
  iterators : LabelsAlike hosting.share.iterators (SessionIterator.Alike (hosting.pair own) own)
    (SessionIterator.IsForeign hosting.base own) crowd.iterators alone.iterators
  snapshots : LabelsAlike hosting.share.snapshots Eq (fun _ => True) crowd.snapshots
    alone.snapshots
  sinks : LabelsAlike hosting.share.sinks Eq (fun _ => True) crowd.sinks alone.sinks

/-- New sessions belong to nobody yet. -/
theorem hosts_fresh (hosting : Hosting σ kind) (state : σ)
    (isLogged isLogged' : Bool) :
    hosting.Hosts
      { handles := fun _ _ => False
        bound := hosting.base.next state
        patterns := fun _ _ => False
        patternCount := 0
        matchers := fun _ _ => False
        matcherCount := 0 }
      { isLogged
        trace := { engines := state }
        engines := [(hosting.engineLabel, hosting.base.engine)] }
      { isLogged := isLogged'
        trace := { engines := state }
        engines := [(hosting.engineLabel, hosting.other.engine)] } where
  engines := rfl
  engines' := rfl
  linked := ⟨fun belong => belong.elim, fun belong => belong.elim, fun belong => belong.elim,
    Int.le_refl _⟩
  patterns := .empty
  patternNumbers := .nil
  matchers := .empty
  matcherNumbers := .nil
  iterators := .nil
  snapshots := .nil
  sinks := .nil

end Hosting

end RegexMatching
