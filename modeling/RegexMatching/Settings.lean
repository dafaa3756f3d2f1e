/-!
# Settings of patterns and matchers

A setting that is left out takes its default.
-/

namespace RegexMatching

/-- What a pattern is compiled for. -/
structure PatternSettings where
  /-- Compile code of its own for each way of anchoring, where the engine can. -/
  precompileAnchoredVariants : Bool := true

namespace PatternSettings

/-- Settings from what was given. -/
def resolve (precompileAnchoredVariants : Option Bool) : PatternSettings where
  precompileAnchoredVariants := precompileAnchoredVariants.getD true

end PatternSettings

/-- How a matcher starts out. -/
structure MatcherSettings where
  /-- The ends of the region count as the ends of the input. -/
  anchoringBounds : Bool := true
  /-- Report partial matches, which not every engine can. -/
  partialMatching : Bool := false

namespace MatcherSettings

/-- Settings from what was given. -/
def resolve (anchoringBounds partialMatching : Option Bool) : MatcherSettings where
  anchoringBounds := anchoringBounds.getD true
  partialMatching := partialMatching.getD false

end MatcherSettings

end RegexMatching
