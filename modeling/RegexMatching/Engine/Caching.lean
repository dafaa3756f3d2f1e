import RegexMatching.Engine.Pool

/-!
# Engines that keep what they build

The engines of this module match like those on offer and keep what they build on the way.  The
backtracking engine reads a rendering of a pattern when a call first asks for it; the expression
that it keeps is an object of its host, which remembers where its next search starts.  The
linear-time engine keeps the program that has to reach the end.  Both keep the subjects that they
have decoded.  Everything that is kept carries the proof that it is what would be built anew.
-/

namespace RegexMatching

/-! ## Variants of code -/

/-- How code is searched with expressions that are built from it when they are first needed.  An
expression may remember something of its searches, but nothing that later ones depend on. -/
structure VariantScheme {κ : Type} (backend : Backend κ) where
  /-- Which expression a call needs. -/
  Key : Type
  [decidableKey : DecidableEq Key]
  Variant : Type
  key : κ → MatchOptions → Key
  build : κ → Key → Option Variant
  /-- The fault of a call whose expression cannot be built. -/
  failure : Fault
  /-- Search from a position on. -/
  search : κ → Variant → PointText → Nat → MatchOptions → Option PointSpans × Variant
  /-- The expression that is built when a pattern is compiled. -/
  first : κ → Key
  /-- An expression without what it remembers. -/
  renewed : Variant → Variant
  renewed_build : ∀ {code key variant}, build code key = some variant → renewed variant = variant
  renewed_search : ∀ code variant text position options,
    renewed (search code variant text position options).2 = renewed variant
  search_renewed : ∀ code variant text position options,
    (search code (renewed variant) text position options).1 =
      (search code variant text position options).1
  /-- A search with the expression for a call is a search of the code. -/
  search_eq : ∀ code text position options, position ≤ text.points.size →
    backend.search code text position options =
      match build code (key code options) with
      | none => .error failure
      | some variant => .ok (search code variant text position options).1

attribute [instance] VariantScheme.decidableKey

/-- Code with the expressions that have been built from it. -/
structure CachedCode {κ : Type} {backend : Backend κ} (scheme : VariantScheme backend) where
  code : κ
  variants : List (scheme.Key × scheme.Variant)
  isBuilt : ∀ entry ∈ variants, scheme.build code entry.1 = some (scheme.renewed entry.2)

namespace CachedCode

variable {κ : Type} {backend : Backend κ} {scheme : VariantScheme backend}

/-- The expression of a key: the one that is kept, or a new one. -/
def variant? (cached : CachedCode scheme) (key : scheme.Key) : Option scheme.Variant :=
  (cached.variants.lookup key).or (scheme.build cached.code key)

/-- What is listed under a key. -/
theorem mem_of_lookup {α β : Type} [BEq α] [LawfulBEq α] {key : α} {value : β}
    {entries : List (α × β)} (found : entries.lookup key = some value) :
    (key, value) ∈ entries := by
  obtain ⟨before, behind, rfl, -⟩ := List.lookup_eq_some_iff.mp found
  exact List.mem_append_right _ List.mem_cons_self

/-- An expression is what would be built, but for what it remembers. -/
theorem build_of_variant? {cached : CachedCode scheme} {key : scheme.Key}
    {variant : scheme.Variant} (found : cached.variant? key = some variant) :
    scheme.build cached.code key = some (scheme.renewed variant) := by
  rw [variant?] at found
  cases kept : cached.variants.lookup key with
  | some other =>
      rw [kept, Option.some_or, Option.some.injEq] at found
      exact found ▸ cached.isBuilt _ (mem_of_lookup kept)
  | none =>
      rw [kept, Option.none_or] at found
      rw [scheme.renewed_build found, found]

/-- Keep an expression in the place of the one that was kept before. -/
def keep (cached : CachedCode scheme) (key : scheme.Key) (variant : scheme.Variant)
    (isBuilt : scheme.build cached.code key = some (scheme.renewed variant)) :
    CachedCode scheme where
  code := cached.code
  variants := (key, variant) :: cached.variants.filter fun entry => entry.1 != key
  isBuilt := by
    intro entry mem
    rcases List.mem_cons.mp mem with rfl | mem
    · exact isBuilt
    · exact cached.isBuilt entry (List.mem_filter.mp mem).1

/-- New code with its first expression. -/
def ofCode (scheme : VariantScheme backend) (code : κ) : CachedCode scheme :=
  let fresh : CachedCode scheme := { code, variants := [], isBuilt := nofun }
  match found : fresh.variant? (scheme.first code) with
  | none => fresh
  | some variant => fresh.keep (scheme.first code) variant (build_of_variant? found)

/-- Search with the expression that the options ask for, and keep it.  When it cannot be built,
nothing is kept. -/
def search (cached : CachedCode scheme) (text : PointText) (position : Nat)
    (options : MatchOptions) : Except Fault (Option PointSpans) × CachedCode scheme :=
  let key := scheme.key cached.code options
  match found : cached.variant? key with
  | none => (.error scheme.failure, cached)
  | some variant =>
      let searched := scheme.search cached.code variant text position options
      (.ok searched.1,
        cached.keep key searched.2
          ((build_of_variant? found).trans
            (congrArg some (scheme.renewed_search cached.code variant text position options).symm)))

end CachedCode

/-! ## Decoded subjects -/

/-- Subjects that have been decoded. -/
structure DecodedSubjects where
  entries : List (Bytes × PointText)
  isDecoded : ∀ entry ∈ entries, entry.2 = PointText.ofBytes entry.1

/-- No subject has been decoded. -/
def DecodedSubjects.empty : DecodedSubjects where
  entries := []
  isDecoded := nofun

/-- A subject decoded, now or before. -/
def DecodedSubjects.decode (subjects : DecodedSubjects) (subject : Bytes) :
    PointText × DecodedSubjects :=
  match subjects.entries.lookup subject with
  | some text => (text, subjects)
  | none =>
      (PointText.ofBytes subject,
        { entries := (subject, PointText.ofBytes subject) :: subjects.entries
          isDecoded := by
            intro entry mem
            rcases List.mem_cons.mp mem with rfl | mem
            · rfl
            · exact subjects.isDecoded entry mem })

/-! ## The engine -/

/-- What an engine owns that keeps what it builds. -/
structure CachingStore {κ : Type} {backend : Backend κ} (scheme : VariantScheme backend) where
  store : Store (CachedCode scheme) := {}
  subjects : DecodedSubjects := .empty

/-- Put another value in the place of the first one that is listed under a handle. -/
def replaceListed {α : Type} (handle : Handle) (value : α) :
    List (Handle × α) → List (Handle × α)
  | [] => []
  | entry :: rest =>
      if entry.1 == handle then (handle, value) :: rest
      else entry :: replaceListed handle value rest

/-- Put other code in the place of code. -/
def Store.setCode {κ : Type} (store : Store κ) (handle : Handle) (code : κ) : Store κ :=
  { store with codes := replaceListed handle code store.codes }

namespace VariantScheme

variable {κ : Type} {backend : Backend κ} (scheme : VariantScheme backend)

/-- Match code against a subject, like the backend does. -/
def answer (cached : CachedCode scheme) (subjects : DecodedSubjects) (slots : Nat)
    (subject : Bytes) (start options : Int) :
    Except Fault Answer × CachedCode scheme × DecodedSubjects :=
  match MatchOptions.ofBits? options with
  | none => (.ok (.code ResultCode.badOption), cached, subjects)
  | some options =>
      if !backend.honours options then
        (.ok (.code ResultCode.unsupportedOption), cached, subjects)
      else if start < 0 || (subject.length : Int) < start then
        (.ok (.code ResultCode.badOffset), cached, subjects)
      else
        let (text, subjects) := subjects.decode subject
        match text.positionAt? start.toNat with
        | none => (.ok (.code ResultCode.badOffset), cached, subjects)
        | some position =>
            let (found, cached) := cached.search text position options
            (found.map fun
              | none => .code ResultCode.noMatch
              | some spans => .ofSpans text slots spans, cached, subjects)

/-- Match stored code, and store the captures and what was built. -/
def run (code : Handle) (subject : Bytes) (start options : Int) (data : Handle)
    (caching : CachingStore scheme) : Except Fault Int × CachingStore scheme :=
  match caching.store.code? code, caching.store.matchData? data with
  | some cached, some offsets =>
      let (answer, cached, subjects) :=
        scheme.answer cached caching.subjects (offsets.length / 2) subject start options
      let store := caching.store.setCode code cached
      match answer with
      | .error fault => (.error fault, { store, subjects })
      | .ok (.code result) => (.ok result, { store, subjects })
      | .ok (.captures count offsets) =>
          (.ok count, { store := store.setMatchData data offsets, subjects })
  | _, _ => (.ok ResultCode.badHandle, caching)

/-- Compile a pattern, and store the code with its first expression. -/
def compileInto (pattern : Bytes) (options : Int) (caching : CachingStore scheme) :
    CompileResult × CachingStore scheme :=
  match CompileOptions.ofBits? options with
  | none =>
      (.rejected
        { code := ResultCode.badOption
          description := .text (Text.ofString "unknown compile option bits") },
        caching)
  | some options =>
      match backend.compile pattern options with
      | .error rejection => (.rejected rejection, caching)
      | .ok code =>
          let (handle, store) := caching.store.addCode (.ofCode scheme code)
          (.compiled handle, { caching with store })

/-- Make room for the captures of stored code. -/
def createMatchData (code : Handle) (caching : CachingStore scheme) :
    Handle × CachingStore scheme :=
  match caching.store.code? code with
  | none => (0, caching)
  | some cached =>
      let (handle, store) := caching.store.addMatchData
        (List.replicate ((backend.captureCount cached.code + 1) * 2) (-1))
      (handle, { caching with store })

/-- The engine that matches like the backend and keeps what it builds. -/
def toEngine : Engine (CachingStore scheme) where
  name := backend.kind.name
  capabilities := backend.kind.capabilities
  compile := scheme.compileInto
  captureCount := fun code caching =>
    (((caching.store.code? code).map fun cached => backend.captureCount cached.code).getD 0,
      caching)
  nameTable := fun code caching =>
    (((caching.store.code? code).map fun cached => backend.names cached.code).getD [], caching)
  createMatchData := scheme.createMatchData
  captureOffsets := fun data caching => ((caching.store.matchData? data).getD [], caching)
  mark := fun _ caching => (none, caching)
  freeMatchData := fun data caching =>
    ((), { caching with store := caching.store.dropMatchData data })
  createStack := none
  releaseStack := none
  run := fun code subject start options data _ =>
    ExceptT.mk (scheme.run code subject start options data)
  errorMessage := backend.errorMessage
  release := fun code caching => ((), { caching with store := caching.store.dropCode code })

end VariantScheme

/-! ## The expressions of the two engines -/

namespace Backtracking

/-- An expression of the host.  It is searched from where the last search ended, or matches there
only when it is sticky. -/
structure HostRegex where
  regex : Backtrack.Regex
  isSticky : Bool
  lastIndex : Nat := 0

/-- Search, and remember where the match ends; without a match, start again at the beginning. -/
def HostRegex.exec (host : HostRegex) (points : Array Nat) : Option PointSpans × HostRegex :=
  let found :=
    if points.size < host.lastIndex then none
    else host.regex.exec host.isSticky points host.lastIndex
  let behind := ((found.bind (·.head?)).join.map Prod.snd).getD 0
  (found, { host with lastIndex := behind })

/-- One expression for every choice of line edges and anchoring. -/
def variants : VariantScheme backend where
  Key := MatchOptions
  Variant := HostRegex
  key := fun code options => { code.withOwnAnchoring options with partialSoft := false }
  build := fun code key =>
    (code.regex? key).map fun regex => { regex, isSticky := key.anchored }
  failure := .badBacktrackVariant
  search := fun _ host text position _ => { host with lastIndex := position }.exec text.points
  first := fun code => code.withOwnAnchoring {}
  renewed := fun host => { host with lastIndex := 0 }
  renewed_build := by
    intro code key variant built
    obtain ⟨regex, -, rfl⟩ := Option.map_eq_some_iff.mp built
    rfl
  renewed_search := fun _ _ _ _ _ => rfl
  search_renewed := fun _ _ _ _ _ => rfl
  search_eq := by
    intro code text position options inside
    change search code text position options = _
    rw [search]
    dsimp only
    rw [show code.regex? { code.withOwnAnchoring options with partialSoft := false } =
      code.regex? (code.withOwnAnchoring options) from rfl]
    cases code.regex? (code.withOwnAnchoring options) with
    | none => rfl
    | some regex =>
        exact congrArg Except.ok (if_neg (Nat.not_lt.mpr inside)).symm

end Backtracking

namespace LinearTime

/-- The program of the pattern, and the one that has to reach the end. -/
def variants : VariantScheme backend where
  Key := Bool
  Variant := Linear.Regex
  key := fun code options => options.endAnchored || code.endAnchored
  build := regex?
  failure := .badLinearVariant
  search := fun code regex text position options =>
    let spans := regex.search text.points position
    let start := (spans.bind (·.head?)).join.map Prod.fst
    (if (options.anchored || code.anchored) && start != some position then none else spans, regex)
  first := fun _ => false
  renewed := id
  renewed_build := fun _ => rfl
  renewed_search := fun _ _ _ _ _ => rfl
  search_renewed := fun _ _ _ _ _ => rfl
  search_eq := by
    intro code text position options _
    change search code text position options = _
    rw [search]
    cases regex? code (options.endAnchored || code.endAnchored) with
    | none => rfl
    | some regex =>
        dsimp only
        split <;> rfl

end LinearTime

/-! ## Both engines side by side -/

/-- The states of the two engines that keep what they build. -/
structure CachingState where
  backtracking : CachingStore Backtracking.variants := {}
  linear : CachingStore LinearTime.variants := {}

/-- The engine of a kind that keeps what it builds. -/
def EngineKind.cachingEngine : EngineKind → Engine CachingState
  | .backtracking =>
      Backtracking.variants.toEngine.onPart CachingState.backtracking
        fun part state => { state with backtracking := part }
  | .linear =>
      LinearTime.variants.toEngine.onPart CachingState.linear
        fun part state => { state with linear := part }

/-- The state of an engine that keeps nothing and of one that does. -/
structure SharedState where
  plain : EngineState := {}
  caching : CachingState := {}

/-- The engine of a kind, with or without keeping what it builds. -/
def EngineKind.sharedEngine (kind : EngineKind) (isCaching : Bool) : Engine SharedState :=
  if isCaching then
    kind.cachingEngine.onPart SharedState.caching fun part state => { state with caching := part }
  else
    (EngineChoice.known kind).engine.onPart SharedState.plain
      fun part state => { state with plain := part }

end RegexMatching
