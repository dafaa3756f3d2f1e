import RegexMatching.Proofs.ActingLike

/-!
# What is kept does not show

An engine that keeps what it builds acts like one that builds everything anew: what is kept is what
would be built, and what a kept expression remembers of its searches is set before every search.
-/

namespace RegexMatching

variable {κ : Type} {backend : Backend κ} {scheme : VariantScheme backend}

/-! ## Code and subjects -/

namespace CachedCode

theorem code_ofCode (code : κ) : (ofCode scheme code).code = code := by
  rw [ofCode]
  split <;> rfl

/-- There is an expression for a key if one can be built. -/
theorem variant?_eq_none_iff (cached : CachedCode scheme) (key : scheme.Key) :
    cached.variant? key = none ↔ scheme.build cached.code key = none := by
  rw [variant?]
  cases kept : cached.variants.lookup key with
  | none => rw [Option.none_or]
  | some variant =>
      have built := cached.isBuilt _ (mem_of_lookup kept)
      rw [Option.some_or, built]
      exact iff_of_false (Option.some_ne_none _) (Option.some_ne_none _)

/-- A search finds what a search of the code finds, and the code stays. -/
theorem search_spec (cached : CachedCode scheme) (text : PointText) (position : Nat)
    (options : MatchOptions) (inside : position ≤ text.points.size) :
    (cached.search text position options).1 =
        backend.search cached.code text position options ∧
      (cached.search text position options).2.code = cached.code := by
  rw [search, scheme.search_eq cached.code text position options inside]
  dsimp only
  split
  · next missing =>
      rw [(variant?_eq_none_iff cached _).mp missing]
      exact ⟨rfl, rfl⟩
  · next variant found =>
      rw [build_of_variant? found]
      exact ⟨congrArg Except.ok (scheme.search_renewed ..).symm, rfl⟩

end CachedCode

/-- A subject is decoded to what it would be decoded to anew. -/
theorem DecodedSubjects.decode_fst (subjects : DecodedSubjects) (subject : Bytes) :
    (subjects.decode subject).1 = PointText.ofBytes subject := by
  rw [decode]
  split
  · next text found => exact subjects.isDecoded _ (CachedCode.mem_of_lookup found)
  · rfl

/-- No position lies behind the end of a text. -/
theorem PointText.position_le {subject : Bytes} {byte position : Nat}
    (found : (PointText.ofBytes subject).positionAt? byte = some position) :
    position ≤ (PointText.ofBytes subject).points.size := by
  rw [positionAt?, Array.findIdx?_eq_some_iff_getElem] at found
  obtain ⟨inside, -⟩ := found
  rw [ofBytes, List.size_toArray, length_pointOffsetsFrom] at inside
  rw [ofBytes, List.size_toArray]
  exact Nat.le_of_lt_succ inside

/-! ## The store without what is kept -/

/-- What would be owned if nothing were kept. -/
def CachingStore.plain (caching : CachingStore scheme) : Store κ where
  nextHandle := caching.store.nextHandle
  codes := caching.store.codes.map fun entry => (entry.1, entry.2.code)
  matchData := caching.store.matchData

theorem lookup_map_snd {α β : Type} (value : α → β) (handle : Handle)
    (entries : List (Handle × α)) :
    (entries.map fun entry => (entry.1, value entry.2)).lookup handle =
      (entries.lookup handle).map value := by
  induction entries with
  | nil => rfl
  | cons entry rest ih =>
      rw [List.map_cons, List.lookup_cons, List.lookup_cons, ih]
      cases handle == entry.1 <;> rfl

/-- What is kept by its handle is kept whatever is read of the values. -/
theorem filter_map_fst {α β : Type} (value : α → β) (keeps : Handle → Bool)
    (entries : List (Handle × α)) :
    (entries.map fun entry => (entry.1, value entry.2)).filter (fun entry => keeps entry.1) =
      (entries.filter fun entry => keeps entry.1).map fun entry => (entry.1, value entry.2) :=
  List.filter_map

/-- Replacing a value by one that is read alike is not seen. -/
theorem map_replaceListed {α β : Type} (value : α → β) {handle : Handle} {old new : α}
    (same : value new = value old) {entries : List (Handle × α)}
    (listed : entries.lookup handle = some old) :
    (replaceListed handle new entries).map (fun entry => (entry.1, value entry.2)) =
      entries.map fun entry => (entry.1, value entry.2) := by
  induction entries with
  | nil => cases listed
  | cons entry rest ih =>
      rw [replaceListed]
      rw [List.lookup_cons] at listed
      by_cases isFirst : entry.1 = handle
      · rw [← isFirst, BEq.rfl] at listed
        obtain rfl : entry.2 = old := Option.some.inj listed
        rw [if_pos (beq_iff_eq.mpr isFirst), List.map_cons, List.map_cons, same, ← isFirst]
      · have isLater : (handle == entry.1) = false :=
          beq_eq_false_iff_ne.mpr (Ne.symm isFirst)
        rw [isLater] at listed
        rw [if_neg (fun same => isFirst (beq_iff_eq.mp same)), List.map_cons, List.map_cons,
          ih listed]

namespace CachingStore

theorem code?_plain (caching : CachingStore scheme) (handle : Handle) :
    caching.plain.code? handle = (caching.store.code? handle).map CachedCode.code :=
  lookup_map_snd CachedCode.code handle caching.store.codes

theorem plain_setCode {store : Store (CachedCode scheme)} {handle : Handle}
    {cached changed : CachedCode scheme} (stored : store.code? handle = some cached)
    (sameCode : changed.code = cached.code) (subjects subjects' : DecodedSubjects) :
    plain { store := store.setCode handle changed, subjects := subjects' } =
      plain { store, subjects } := by
  rw [plain, plain]
  exact congrArg (Store.mk store.nextHandle · store.matchData)
    (map_replaceListed CachedCode.code sameCode stored)

end CachingStore

/-! ## The engine -/

namespace VariantScheme

/-- An answer is that of the backend, and the code stays. -/
theorem answer_spec (cached : CachedCode scheme) (subjects : DecodedSubjects) (slots : Nat)
    (subject : Bytes) (start options : Int) :
    (scheme.answer cached subjects slots subject start options).1 =
        backend.answer cached.code slots subject start options ∧
      (scheme.answer cached subjects slots subject start options).2.1.code = cached.code := by
  rw [answer, Backend.answer]
  cases MatchOptions.ofBits? options with
  | none => exact ⟨rfl, rfl⟩
  | some options =>
      dsimp only
      split
      · exact ⟨rfl, rfl⟩
      split
      · exact ⟨rfl, rfl⟩
      rw [subjects.decode_fst subject]
      cases found : (PointText.ofBytes subject).positionAt? start.toNat with
      | none => exact ⟨rfl, rfl⟩
      | some position =>
          obtain ⟨sameFound, sameCode⟩ := cached.search_spec (PointText.ofBytes subject) position
            options (PointText.position_le found)
          dsimp only
          rw [sameFound]
          exact ⟨rfl, sameCode⟩

theorem compileInto_readsAs (pattern : Bytes) (options : Int) :
    ReadsAs CachingStore.plain (scheme.compileInto pattern options)
      (backend.compileInto pattern options) := by
  intro caching
  change backend.compileInto pattern options caching.plain =
    ((scheme.compileInto pattern options caching).1,
      (scheme.compileInto pattern options caching).2.plain)
  rw [compileInto, Backend.compileInto]
  cases CompileOptions.ofBits? options with
  | none => rfl
  | some options =>
      dsimp only
      cases backend.compile pattern options with
      | error rejection => rfl
      | ok code =>
          simp only [CachingStore.plain, Store.addCode, List.map_cons, CachedCode.code_ofCode]

theorem createMatchData_readsAs (code : Handle) :
    ReadsAs CachingStore.plain (scheme.createMatchData code) (backend.createMatchData code) := by
  intro caching
  change backend.createMatchData code caching.plain =
    ((scheme.createMatchData code caching).1, (scheme.createMatchData code caching).2.plain)
  rw [createMatchData, Backend.createMatchData, caching.code?_plain]
  cases caching.store.code? code <;> rfl

theorem run_readsAs (code : Handle) (subject : Bytes) (start options : Int) (data : Handle) :
    ReadsAs CachingStore.plain (scheme.run code subject start options data)
      (backend.run code subject start options data) := by
  intro caching
  change backend.run code subject start options data caching.plain =
    ((scheme.run code subject start options data caching).1,
      (scheme.run code subject start options data caching).2.plain)
  have sameData : caching.plain.matchData? data = caching.store.matchData? data := rfl
  rw [run, Backend.run, caching.code?_plain, sameData]
  cases stored : caching.store.code? code with
  | none => rfl
  | some cached =>
      cases caching.store.matchData? data with
      | none => rfl
      | some offsets =>
          obtain ⟨sameAnswer, sameCode⟩ := answer_spec cached caching.subjects (offsets.length / 2)
            subject start options
          dsimp only [Option.map_some]
          rw [← sameAnswer]
          generalize scheme.answer cached caching.subjects (offsets.length / 2) subject start
            options = answered at sameCode
          rcases answered with ⟨answer, changed, subjects⟩
          have samePlain := CachingStore.plain_setCode stored sameCode caching.subjects subjects
          rcases answer with fault | ⟨result⟩ | ⟨count, offsets'⟩
          · exact Prod.ext rfl samePlain.symm
          · exact Prod.ext rfl samePlain.symm
          · exact Prod.ext rfl (congrArg (Store.setMatchData · data offsets') samePlain.symm)

/-- An engine that keeps what it builds acts like one that builds everything anew. -/
theorem actsLike (scheme : VariantScheme backend) :
    scheme.toEngine.ActsLike backend.toEngine CachingStore.plain where
  name := rfl
  capabilities := rfl
  errorMessage := rfl
  createStack := rfl
  releaseStack := rfl
  compile := compileInto_readsAs
  captureCount code caching := by
    change (_, caching.plain) = (((caching.store.code? code).map _).getD 0, caching.plain)
    rw [caching.code?_plain, Option.map_map]
    rfl
  nameTable code caching := by
    change (_, caching.plain) = (((caching.store.code? code).map _).getD [], caching.plain)
    rw [caching.code?_plain, Option.map_map]
    rfl
  createMatchData := createMatchData_readsAs
  captureOffsets _ _ := rfl
  mark _ _ := rfl
  freeMatchData _ _ := rfl
  run code subject start options data _ := run_readsAs code subject start options data
  release code caching := by
    have sameCodes := filter_map_fst CachedCode.code (· != code) caching.store.codes
    exact Prod.ext rfl (congrArg (Store.mk caching.store.nextHandle · caching.store.matchData)
      sameCodes)

end VariantScheme

/-! ## Both engines side by side -/

namespace EngineKind

/-- What the engine of a kind owns that keeps what it builds. -/
def cachedStore : (kind : EngineKind) → CachingState → Store kind.Code
  | backtracking => fun state => state.backtracking.plain
  | linear => fun state => state.linear.plain

/-- What an engine owns, with or without what it keeps. -/
def sharedStore (kind : EngineKind) (isCaching : Bool) (state : SharedState) : Store kind.Code :=
  if isCaching then kind.cachedStore state.caching else kind.store state.plain

theorem cachingEngine_actsLike (kind : EngineKind) :
    kind.cachingEngine.ActsLike kind.backend.toEngine kind.cachedStore := by
  cases kind with
  | backtracking =>
      exact Backtracking.variants.actsLike.onPart CachingState.backtracking
        (fun part state => { state with backtracking := part }) fun _ _ => rfl
  | linear =>
      exact LinearTime.variants.actsLike.onPart CachingState.linear
        (fun part state => { state with linear := part }) fun _ _ => rfl

/-- Whether an engine keeps what it builds or not, it acts like one that does not. -/
theorem sharedEngine_actsLike (kind : EngineKind) (isCaching : Bool) :
    (kind.sharedEngine isCaching).ActsLike kind.backend.toEngine (kind.sharedStore isCaching) := by
  cases isCaching with
  | true =>
      exact kind.cachingEngine_actsLike.onPart SharedState.caching
        (fun part state => { state with caching := part }) fun _ _ => rfl
  | false =>
      have onStore : kind.engine.ActsLike kind.backend.toEngine kind.store :=
        kind.engine_eq ▸ kind.backend.actsLike.onPart kind.store kind.setStore
          kind.isPart_store.get_set
      exact onStore.onPart SharedState.plain
        (fun part state => { state with plain := part }) fun _ _ => rfl

end EngineKind

end RegexMatching
