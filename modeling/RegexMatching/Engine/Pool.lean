import RegexMatching.Engine.Backtracking
import RegexMatching.Engine.LinearTime
import RegexMatching.Engine.Scripted

/-!
# Several engines side by side

A pool keeps the state of engines that were made one after another, each apart
from the others.
-/

namespace RegexMatching

/-- An engine that can be made. -/
inductive EngineChoice where
  | known (kind : EngineKind)
  | scripted (script : Script)

/-- The state of one engine, of whichever kind it is. -/
structure EngineState where
  backtracking : Store BacktrackCode := {}
  linear : Store LinearCode := {}
  recording : Recording := {}

namespace EngineChoice

/-- The engine that was chosen. -/
def engine : EngineChoice → Engine EngineState
  | known .backtracking =>
      Backtracking.backend.toEngine.onPart EngineState.backtracking
        fun part state => { state with backtracking := part }
  | known .linear =>
      LinearTime.backend.toEngine.onPart EngineState.linear
        fun part state => { state with linear := part }
  | scripted script =>
      script.toEngine.onPart EngineState.recording
        fun part state => { state with recording := part }

end EngineChoice

/-- The states of engines, in the order in which they were made. -/
abbrev EnginePool := List EngineState

namespace EnginePool

/-- The state of an engine. -/
def state (pool : EnginePool) (index : Nat) : EngineState :=
  pool[index]?.getD {}

/-- An engine of a pool. -/
def engine (choice : EngineChoice) (index : Nat) : Engine EnginePool :=
  choice.engine.onPart (fun pool => pool.state index) fun state pool =>
    pool.set index state

end EnginePool

end RegexMatching
