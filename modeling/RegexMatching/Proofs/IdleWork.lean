import RegexMatching.Proofs.KeptRelations
import RegexMatching.Proofs.Ledger

/-!
# Work that moves no code

Everything that is done with a matcher, splitting and streaming included, compiles no code and
releases none, and frees the match data it makes.  It goes on doing so with what it comes to: a
matcher or a stream of pieces that stays with audited engines.
-/

namespace RegexMatching

variable {σ : Type}

/-- Match calls free the match data they make, and stacks are not entered in the ledger. -/
theorem keptByCalls_idles : KeptByCalls
    (fun before after : Audited σ => before.ledger.Idles after.ledger) Pattern.IsAudited where
  refl state := .refl state.ledger
  trans first second := first.trans second
  exchange := by
    rintro pattern ⟨engine, isEngine⟩ request state
    rw [isEngine]
    exact engine.audited_exchange_idles request state
  makeStack := by
    rintro pattern ⟨engine, isEngine⟩ state
    rw [isEngine, engine.audited_makeStack_run]
    exact .refl _
  dropStack := by
    rintro pattern ⟨engine, isEngine⟩ stack state
    rw [isEngine, engine.audited_dropStack_run]
    exact .refl _

/-! ## Steps -/

namespace Matcher

/-- A later configuration has an audited pattern if the earlier one has, and no code was moved
in between. -/
def Idles (before after : Configuration (Audited σ)) : Prop :=
  before.matcher.pattern.IsAudited →
    after.matcher.pattern.IsAudited ∧
      before.trace.engines.ledger.Idles after.trace.engines.ledger

theorem Steps.idles {before after : Configuration (Audited σ)} (steps : Steps before after) :
    Idles before after :=
  steps.keeps keptByCalls_idles

/-- An operation that switches to audited patterns only moves no code. -/
theorem perform_idles {operation : Operation (Audited σ)}
    (isAllowed : operation.Allowed Pattern.IsAudited) (configuration : Configuration (Audited σ)) :
    Idles configuration ((perform operation).exec configuration).2 :=
  perform_keeps keptByCalls_idles isAllowed configuration

end Matcher

/-! ## Work -/

/-- Work that moves no code and comes to values of some kind, if it does not fail. -/
def Work.Idles {α : Type} (work : Work (Audited σ) α) (kind : α → Prop) : Prop :=
  ∀ trace, trace.engines.ledger.Idles (work.run trace).2.engines.ledger ∧
    ∀ value, (work.run trace).1 = .ok value → kind value

namespace Work.Idles

variable {α β : Type} {work : Work (Audited σ) α} {kind : α → Prop} {kind' : β → Prop}

theorem bind {next : α → Work (Audited σ) β} (first : work.Idles kind)
    (second : ∀ value, kind value → (next value).Idles kind') : (work >>= next).Idles kind' :=
  Work.Keeps.bind keptByCalls_idles.toPersists first second

/-- Work with a matcher of its own. -/
theorem on {matcher : Matcher (Audited σ)} {matching : Matching (Audited σ) α}
    (isAudited : matcher.pattern.IsAudited)
    (idles : ∀ configuration, Matcher.Idles configuration (matching.exec configuration).2) :
    (matching.on matcher).Idles fun _ => True := by
  have keeps : ∀ configuration,
      Matcher.Keeps (fun before after : Audited σ => before.ledger.Idles after.ledger)
        Pattern.IsAudited configuration (matching.exec configuration).2 := idles
  exact Work.Keeps.on isAudited keeps

end Work.Idles

theorem Matcher.create_idles {pattern : Pattern (Audited σ)} (isAudited : pattern.IsAudited)
    (text : Text) (settings : MatcherSettings) :
    (create pattern text settings).Idles fun matcher => matcher.pattern.IsAudited :=
  create_keeps keptByCalls_idles isAudited text settings

/-! ## Splitting and testing -/

namespace Pattern

variable {pattern : Pattern (Audited σ)} (isAudited : pattern.IsAudited)

include isAudited

theorem occursIn_idles (text : Text) : (pattern.occursIn text).Idles fun _ => True :=
  occursIn_keeps keptByCalls_idles isAudited text

theorem matchesWhole_idles (text : Text) : (pattern.matchesWhole text).Idles fun _ => True :=
  matchesWhole_keeps keptByCalls_idles isAudited text

theorem split_idles (text : Text) (rule : SplitRule) :
    (pattern.split text rule).Idles fun _ => True :=
  split_keeps keptByCalls_idles isAudited text rule

theorem pieces_idles (text : Text) : (pattern.pieces text).Idles fun _ => True :=
  pieces_keeps keptByCalls_idles isAudited text

end Pattern

/-! ## Piece by piece -/

/-- A stream that searches with an audited pattern, if it searches at all. -/
def PieceStream.IsAudited (stream : PieceStream (Audited σ)) : Prop :=
  stream.IsOf Pattern.IsAudited

/-- Work with a stream that moves no code, keeps the stream audited and comes to values of some
kind, if it does not fail. -/
def Streaming.Idles {α : Type} (streaming : Streaming (Audited σ) α) (kind : α → Prop) : Prop :=
  ∀ stream trace, stream.IsAudited →
    let ran := (streaming.run stream).run trace
    ran.1.2.IsAudited ∧ trace.engines.ledger.Idles ran.2.engines.ledger ∧
      ∀ value, ran.1.1 = .ok value → kind value

namespace PieceStream

theorem next_idles {pattern : Pattern (Audited σ)} (isAudited : pattern.IsAudited) :
    (next pattern).Idles fun _ => True :=
  next_keeps keptByCalls_idles isAudited

theorem close_idles : (close : Streaming (Audited σ) Unit).Idles fun _ => True :=
  close_keeps keptByCalls_idles

end PieceStream

end RegexMatching
