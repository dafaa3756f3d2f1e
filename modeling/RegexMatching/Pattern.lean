import RegexMatching.Engine.Adapter
import RegexMatching.Flags
import RegexMatching.Settings
import RegexMatching.Text.Canonical

/-!
# Patterns

A pattern is compiled for each of three ways of anchoring: not at all, at the
start, and at both ends.  An engine that cannot compile anchored code searches
with the plain code and is asked for anchoring by every call.  A pattern owns its
code and is closed when it is no longer needed.
-/

namespace RegexMatching

/-- How a match is anchored. -/
inductive Anchoring where
  /-- Anywhere from the start offset on. -/
  | search
  /-- At the start offset. -/
  | lookingAt
  /-- From the start offset to the end. -/
  | whole
deriving DecidableEq, Repr

namespace Anchoring

/-- Compile options together with an anchoring. -/
def applyTo (anchoring : Anchoring) (options : CompileOptions) : CompileOptions :=
  { options with
    anchored := anchoring != .search
    endAnchored := anchoring == .whole }

/-- The match options that ask for an anchoring. -/
def matchOptions (anchoring : Anchoring) : MatchOptions where
  anchored := anchoring != .search
  endAnchored := anchoring == .whole

end Anchoring

/-- Code for one anchoring: code of its own, or code that is anchored by options
of the match call. -/
structure CodeVariant where
  handle : Handle
  options : MatchOptions := {}
deriving DecidableEq, Repr

/-- The code of a pattern for every anchoring. -/
structure CodeVariants where
  search : CodeVariant
  lookingAt : CodeVariant
  whole : CodeVariant
deriving DecidableEq, Repr

namespace CodeVariants

/-- Plain code for every anchoring. -/
def shared (handle : Handle) : CodeVariants where
  search := { handle }
  lookingAt := { handle, options := Anchoring.lookingAt.matchOptions }
  whole := { handle, options := Anchoring.whole.matchOptions }

/-- The code for an anchoring. -/
def variant (variants : CodeVariants) : Anchoring → CodeVariant
  | .search => variants.search
  | .lookingAt => variants.lookingAt
  | .whole => variants.whole

/-- All code handles, each one once. -/
def handles (variants : CodeVariants) : List Handle :=
  [variants.search.handle, variants.lookingAt.handle, variants.whole.handle].eraseDups

end CodeVariants

/-- A compiled regular expression. -/
structure Pattern (σ : Type) where
  adapter : Adapter σ
  /-- The expression as the caller wrote it. -/
  source : Text
  /-- The flags as the caller gave them. -/
  flags : Number
  /-- Subjects are matched in canonical decomposition. -/
  canonicalEquivalence : Bool
  variants : CodeVariants
  groupCount : Nat
  names : GroupNames
  isClosed : Bool := false

/-! ## Compiling -/

/-- What an engine is given to compile: the expression or its canonical
decomposition, and the way back to offsets of the expression. -/
structure PatternText where
  source : Text
  text : Text
  toSource : Int → Int

namespace PatternText

/-- The text of an expression under flags. -/
def ofSource (source : Text) (flags : Flags) : PatternText :=
  if flags.canonicalEquivalence then
    let canonical := CanonicalText.ofText source
    { source
      text := canonical.normalized
      toSource := fun index => canonical.toSourceStart index.toNat }
  else
    { source, text := source, toSource := id }

end PatternText

namespace Pattern

variable {σ : Type}

/-- Compile the code for one anchoring. -/
def compileVariant (adapter : Adapter σ) (text : PatternText) (flags : Flags)
    (anchoring : Anchoring) : Work σ (Handle × Adapter σ) :=
  adapter.compile text.text (anchoring.applyTo flags.compileOptions).toBits
    text.toSource text.source

/-- Compile anchored code next to plain code.  When that fails, nothing stays
compiled. -/
def compileDedicated (adapter : Adapter σ) (text : PatternText) (flags : Flags)
    (search : Handle) : Work σ (CodeVariants × Adapter σ) := do
  let (lookingAt, adapter) ←
    (compileVariant adapter text flags .lookingAt).onFailure
      (adapter.releaseAll [search])
  let (whole, adapter) ←
    (compileVariant adapter text flags .whole).onFailure
      (adapter.releaseAll [search, lookingAt])
  return (⟨{ handle := search }, { handle := lookingAt }, { handle := whole }⟩, adapter)

/-- Compile the code for every anchoring. -/
def compileVariants (adapter : Adapter σ) (text : PatternText) (flags : Flags)
    (settings : PatternSettings) : Work σ (CodeVariants × Adapter σ) := do
  let (search, adapter) ← compileVariant adapter text flags .search
  let isSupported := adapter.engine.capabilities.anchoredVariants
  if settings.precompileAnchoredVariants && isSupported then
    compileDedicated adapter text flags search
  else
    Work.record adapter.isLogged
      (.variantFallback adapter.engine.name text.source
        (if isSupported then .disabled else .unsupported))
    return (.shared search, adapter)

/-- Compile an expression with the given flags. -/
def compile (engine : Engine σ) (isLogged : Bool) (source : Text) (flags : Number)
    (settings : PatternSettings) : Work σ (Pattern σ) := do
  let parsed ← Work.ofExcept (Flags.ofNumber flags)
  let text := PatternText.ofSource source parsed
  let (variants, adapter) ←
    compileVariants { engine, isLogged } text parsed settings
  Work.record isLogged (.compile engine.name source flags)
  let groupCount ← adapter.captureCount variants.search.handle
  let table ← adapter.nameTable variants.search.handle
  return {
    adapter, source, flags, variants, groupCount
    canonicalEquivalence := parsed.canonicalEquivalence
    names := GroupNames.ofTable table }

/-- Release the code of a pattern.  Closing it again does nothing. -/
def close (pattern : Pattern σ) : Work σ (Pattern σ) :=
  if pattern.isClosed then
    pure pattern
  else do
    let adapter ← pattern.adapter.releaseAll pattern.variants.handles
    return { pattern with adapter, isClosed := true }

end Pattern

end RegexMatching
