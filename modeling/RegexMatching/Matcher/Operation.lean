import RegexMatching.Matcher.Replacing
import RegexMatching.Matcher.Results
import RegexMatching.Session.Reply

/-!
# Operations on matchers

Everything a caller can do with a matcher, as data, so that one can speak of
sequences of operations.
-/

namespace RegexMatching

namespace Matcher

variable {σ : Type}

/-- The matches that are left, `count` of them at most. -/
def findAll : Nat → Matching σ (List Snapshot)
  | 0 => return []
  | count + 1 => do
      if ← find then
        let snapshot := (← get).snapshot
        return snapshot :: (← findAll count)
      else
        return []

/-- The matches an iterator still hands out, `count` of them at most. -/
def results (iteration : Iteration) : Nat → Matching σ (List Snapshot)
  | 0 => return []
  | count + 1 => do
      match ← iteration.next with
      | none => return []
      | some snapshot =>
          return snapshot :: (← results (.after (.ok (some snapshot))) count)

/-- What can be done with a matcher. -/
inductive Operation (σ : Type) where
  | ask (query : Query)
  | find
  | findFrom (start : Number)
  | lookingAt
  | matchWhole
  | hasPartialMatch
  | mark
  | regionStart
  | regionEnd
  | source
  | describe
  | findAll (count : Nat)
  | results (count : Nat)
  | region (start stop : Number)
  | reset
  | resetTo (text : Text)
  | useAnchoringBounds (value : Bool)
  | usePartialMatching (value : Bool)
  | usePattern (pattern : Pattern σ)
  | appendReplacement (template : Text)
  | appendTail
  | replaceAll (replacement : Replacement)
  | replaceFirst (replacement : Replacement)
  | close

/-- Work with engines that hands back a changed matcher. -/
def change (work : Matcher σ → Work σ (Matcher σ)) : Matching σ Unit := do
  set (← Matching.ofWork (work (← get)))

/-- Perform an operation that appends nothing. -/
def perform : Operation σ → Matching σ Reply
  | .ask query => do Matching.ofWork (.ofExcept ((← get).snapshot.reply query))
  | .find => return .flag (← find)
  | .findFrom start => return .flag (← findFrom start)
  | .lookingAt => return .flag (← lookingAt)
  | .matchWhole => return .flag (← matchWhole)
  | .hasPartialMatch => return .flag (← get).hasPartialMatch
  | .mark => return .text (← get).mark
  | .regionStart => return .count (← get).regionStart
  | .regionEnd => return .count (← get).regionEnd
  | .source => return .text (← get).pattern.source
  | .describe => return .text (← get).toText
  | .findAll count => return .spans (← findAll count)
  | .results count => return .results (← results .notStarted count)
  | .region start stop => do
      change fun matcher => .ofExcept (matcher.region start stop)
      return .done
  | .reset => do
      modify reset
      return .done
  | .resetTo text => do
      modify (·.resetTo text)
      return .done
  | .useAnchoringBounds value => do
      modify (·.useAnchoringBounds value)
      return .flag (← get).anchoringBounds
  | .usePartialMatching value => do
      change fun matcher => .ofExcept (matcher.usePartialMatching value)
      return .done
  | .usePattern pattern => do
      change (·.usePattern pattern)
      return .done
  | .appendReplacement template => do
      let (expansion, matcher) := (← get).appendReplacement template
      set matcher
      match expansion.fault with
      | some fault => throw fault
      | none => return .done
  | .appendTail => return .done
  | .replaceAll replacement => return .text (← replaceAll replacement)
  | .replaceFirst replacement => return .text (← replaceFirst replacement)
  | .close => do
      change close
      return .done

/-- What an operation appends to its sink; it does so even when it fails. -/
def written (matcher : Matcher σ) : Operation σ → Text
  | .appendReplacement template => (matcher.appendReplacement template).1.output
  | .appendTail => matcher.tail
  | _ => []

end Matcher

end RegexMatching
