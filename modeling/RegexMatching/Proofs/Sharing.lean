import RegexMatching.Proofs.ReleasedHandles
import RegexMatching.Proofs.Turns

/-!
# Parties that share an engine

However the commands of a party and of others are interleaved on a shared engine, the replies to the
party are those of its own commands alone on a new engine.  It does not matter whether either of the
engines keeps what it builds.
-/

namespace RegexMatching

variable {σ : Type}

/-- A command of a party, or of others. -/
inductive Turn (σ : Type) where
  | own (command : Command σ)
  | other (command : Command σ)

/-- Whether it is the turn of the party. -/
def Turn.isOwn : Turn σ → Bool
  | .own _ => true
  | .other _ => false

namespace Session

/-- A new session with one engine. -/
def withEngine (isLogged : Bool) (label : Label) (engine : Engine σ) (state : σ) : Session σ where
  isLogged
  trace := { engines := state }
  engines := [(label, engine)]

/-- What the commands of the party come to, in a session that others share.  A command with a label
that stands for nothing comes to nothing and is not carried out. -/
def repliesTo (session : Session σ) : List (Turn σ) → List (Option (Except Fault Reply))
  | [] => []
  | .own command :: rest =>
      match (run command).run session with
      | none => none :: session.repliesTo rest
      | some (reply, after) => some reply :: after.repliesTo rest
  | .other command :: rest =>
      match (run command).run session with
      | none => session.repliesTo rest
      | some (_, after) => after.repliesTo rest

end Session

namespace Hosting.Hosts

variable {kind : EngineKind} {hosting : Hosting σ kind} {own : Counterparts}
  {crowd alone : Session σ}

/-- As long as one session hosts another one, both reply the same to the party. -/
theorem repliesTo_eq (hosts : hosting.Hosts own crowd alone) {turns : List (Turn σ)}
    (areWithin : ∀ command, .own command ∈ turns → command.Within hosting.share)
    (areApart : ∀ command, .other command ∈ turns →
      command.Apart hosting.share hosting.base.engine) :
    crowd.repliesTo turns = alone.repliesTo (turns.filter Turn.isOwn) := by
  induction turns generalizing own crowd alone with
  | nil => rfl
  | cons turn rest ih =>
      have areWithin' := fun command mem => areWithin command (List.mem_cons_of_mem turn mem)
      have areApart' := fun command mem => areApart command (List.mem_cons_of_mem turn mem)
      cases turn with
      | own command =>
          have related := Session.run_endsAlike (areWithin command List.mem_cons_self) crowd
            alone hosts
          rw [List.filter_cons_of_pos rfl, Session.repliesTo, Session.repliesTo]
          generalize (Session.run command).run crowd = ran, (Session.run command).run alone =
            ran' at related
          cases related with
          | none => exact congrArg _ (ih hosts areWithin' areApart')
          | some done =>
              obtain ⟨sameReply, own', hosts'⟩ := done
              dsimp only
              rw [sameReply, ih hosts' areWithin' areApart']
      | other command =>
          rw [List.filter_cons_of_neg Bool.false_ne_true, Session.repliesTo]
          cases ran : (Session.run command).run crowd with
          | none => exact ih hosts areWithin' areApart'
          | some done =>
              obtain ⟨own', hosts'⟩ := Session.run_leavesHosting
                (areApart command List.mem_cons_self) crowd alone done.1 done.2 hosts ran
              exact ih hosts' areWithin' areApart'

end Hosting.Hosts

/-- A shared engine gives out the handles from one on. -/
theorem EngineKind.one_le_next_shared (kind : EngineKind) (isCaching : Bool)
    (operations : List Engine.Operation) :
    1 ≤ (kind.shared isCaching).next ((kind.sharedEngine isCaching).behind {} operations) := by
  have isFirst : (kind.shared isCaching).next {} = 1 := by
    cases kind <;> cases isCaching <;> rfl
  have ages := @StoreEngine.ages_behind _ kind (kind.shared isCaching) {} operations
  exact Int.le_trans (Int.le_of_eq isFirst.symm) ages.next_le

namespace Session

/-- A party with a pattern and a matcher.  In between others compile a pattern and close it, fail to
compile another one, test an expression, and match the pattern of the party at the region start. -/
def betweenOthers : List (Turn SharedState) :=
  [.other (.compile "q" "engine" [0x62] (.ofNat 0) {}),
    .own (.compile "p" "engine" [0x61] (.ofNat 0) {}),
    .other (.makeMatcher "n" "p" [0x61] {}),
    .own (.makeMatcher "m" "p" [0x62, 0x61] {}),
    .other (.operate "n" .lookingAt),
    .own (.operate "m" .lookingAt),
    .other (.closePattern "q"),
    .other (.compile "r" "engine" [0x28] (.ofNat 0) {}),
    .own (.operate "m" .find),
    .other (.testOnce "engine" [0x61] [0x61]),
    .own (.operate "m" .find)]

end Session

end RegexMatching
