import RegexMatching.Engine

/-!
# The engines on offer

Two engines are known by name.  One backtracks, the other runs in linear time;
every use starts from a fresh one.
-/

namespace RegexMatching

/-- An engine that can be asked for by name. -/
inductive EngineKind where
  /-- Backtracking, with back references and lookaround. -/
  | backtracking
  /-- Linear time, without them. -/
  | linear
deriving DecidableEq, Repr

namespace EngineKind

/-- All engines, in the order in which they are listed. -/
def all : List EngineKind :=
  [backtracking, linear]

/-- The name an engine is asked for by. -/
def name : EngineKind → Text
  | backtracking => Text.ofString "ecmascript"
  | linear => Text.ofString "re2"

/-- What an engine is able to do. -/
def capabilities : EngineKind → Capabilities
  | backtracking =>
      { anchoredVariants := true
        partialMatching := false
        lineBoundaryOptions := true
        executionStack := false }
  | linear =>
      { anchoredVariants := false
        partialMatching := false
        lineBoundaryOptions := false
        executionStack := false }

/-- The engine used when none is asked for. -/
def standard : EngineKind :=
  backtracking

/-- The engine of a name; without a name, the standard one. -/
def select (wanted : Option Text) : Except Fault EngineKind :=
  match wanted with
  | none => .ok standard
  | some wanted =>
      match all.find? fun kind => kind.name == wanted with
      | some kind => .ok kind
      | none => .error (.unknownEngine wanted (all.map name))

end EngineKind

end RegexMatching
