import RegexMatching.Matcher

/-!
# Running work with matchers

Work with a matcher is run on a configuration: the matcher and the engines as they
are at one moment.  It ends in an outcome and another configuration, also when it
fails.
-/

namespace RegexMatching

/-- A matcher together with the engines it works with. -/
structure Configuration (σ : Type) where
  matcher : Matcher σ
  trace : Trace σ

namespace Work

variable {σ α β : Type}

@[simp]
theorem run_pure (value : α) (trace : Trace σ) :
    (pure value : Work σ α).run trace = (.ok value, trace) :=
  rfl

@[simp]
theorem run_throw (fault : Fault) (trace : Trace σ) :
    (throw fault : Work σ α).run trace = (.error fault, trace) :=
  rfl

@[simp]
theorem run_ofExcept (outcome : Except Fault α) (trace : Trace σ) :
    (ofExcept outcome : Work σ α).run trace = (outcome, trace) :=
  rfl

@[simp]
theorem run_ofAction (action : StateM σ α) (trace : Trace σ) :
    (ofAction action).run trace =
      (.ok (action.run trace.engines).1,
        { trace with engines := (action.run trace.engines).2 }) :=
  rfl

@[simp]
theorem run_ofFallible (action : ExceptT Fault (StateM σ) α) (trace : Trace σ) :
    (ofFallible action).run trace =
      ((action.run.run trace.engines).1,
        { trace with engines := (action.run.run trace.engines).2 }) :=
  rfl

/-- Work that ends with an action ends as it did before the action. -/
theorem run_finally_ofAction (work : Work σ α) (action : StateM σ Unit) (trace : Trace σ) :
    (work.finally (ofAction action)).run trace =
      ((work.run trace).1,
        { (work.run trace).2 with
          engines := (action.run (work.run trace).2.engines).2 }) := by
  rcases ran : work.run trace with ⟨outcome, after⟩
  have applied : work trace = (outcome, after) := ran
  simp only [Work.finally, ExceptT.run, ExceptT.mk, applied]
  cases outcome <;> rfl

/-- What the last work does, it does to what the first work left. -/
theorem run_finally (work : Work σ α) (last : Work σ Unit) (trace : Trace σ) :
    ((work.finally last).run trace).2 = (last.run (work.run trace).2).2 := by
  rcases ran : work.run trace with ⟨outcome, after⟩
  rcases ran' : last.run after with ⟨ending, after'⟩
  have applied : work trace = (outcome, after) := ran
  have applied' : last after = (ending, after') := ran'
  simp only [Work.finally, ExceptT.run, ExceptT.mk, applied, applied']
  cases outcome <;> cases ending <;> rfl

theorem run_onFailure (work : Work σ α) (cleanup : Work σ β) (trace : Trace σ) :
    (work.onFailure cleanup).run trace =
      match work.run trace with
      | (.ok value, trace) => (.ok value, trace)
      | (.error fault, trace) => (.error fault, (cleanup.run trace).2) :=
  rfl

/-- Work in two parts fails with the first part, or goes on with the second. -/
theorem run_bind (work : Work σ α) (next : α → Work σ β) (trace : Trace σ) :
    (work >>= next).run trace =
      match work.run trace with
      | (.ok value, after) => (next value).run after
      | (.error fault, after) => (.error fault, after) := by
  change ExceptT.bindCont next (work.run trace).1 (work.run trace).2 = _
  rcases work.run trace with ⟨outcome, after⟩
  cases outcome <;> rfl

end Work

namespace Matching

variable {σ α β : Type}

/-- Run work on a configuration. -/
def exec (matching : Matching σ α) (configuration : Configuration σ) :
    Except Fault α × Configuration σ :=
  let ((outcome, matcher), trace) :=
    (matching.run configuration.matcher).run configuration.trace
  (outcome, ⟨matcher, trace⟩)

@[simp]
theorem exec_get (configuration : Configuration σ) :
    (get : Matching σ (Matcher σ)).exec configuration =
      (.ok configuration.matcher, configuration) :=
  rfl

@[simp]
theorem exec_set (matcher : Matcher σ) (configuration : Configuration σ) :
    (set matcher : Matching σ PUnit).exec configuration =
      (.ok ⟨⟩, { configuration with matcher }) :=
  rfl

@[simp]
theorem exec_modify (change : Matcher σ → Matcher σ) (configuration : Configuration σ) :
    (modify change : Matching σ PUnit).exec configuration =
      (.ok ⟨⟩, { configuration with matcher := change configuration.matcher }) :=
  rfl

@[simp]
theorem exec_ofWork (work : Work σ α) (configuration : Configuration σ) :
    (ofWork work).exec configuration =
      ((work.run configuration.trace).1,
        { configuration with trace := (work.run configuration.trace).2 }) :=
  rfl

/-- Work in two parts fails with the first part, or goes on with the second. -/
theorem exec_bind (matching : Matching σ α) (next : α → Matching σ β)
    (configuration : Configuration σ) :
    (matching >>= next).exec configuration =
      match matching.exec configuration with
      | (.ok value, after) => (next value).exec after
      | (.error fault, after) => (.error fault, after) := by
  rcases configuration with ⟨matcher, trace⟩
  change
    (let ((outcome, matcher), trace) :=
      ExceptT.bindCont next ((matching.run matcher).run trace).1.1
        ((matching.run matcher).run trace).1.2 ((matching.run matcher).run trace).2
    (outcome, (⟨matcher, trace⟩ : Configuration σ))) = _
  rw [exec]
  rcases (matching.run matcher).run trace with ⟨⟨outcome, after⟩, traceAfter⟩
  cases outcome <;> rfl

/-- Work in two parts comes to the fault of its first part. -/
theorem exec_bind_of_error {matching : Matching σ α} {configuration : Configuration σ}
    {fault : Fault} (failed : (matching.exec configuration).1 = .error fault)
    (next : α → Matching σ β) : ((matching >>= next).exec configuration).1 = .error fault := by
  rw [exec_bind]
  rcases executed : matching.exec configuration with ⟨outcome, after⟩
  rw [executed] at failed
  cases outcome with
  | error other =>
      obtain rfl := Except.error.inj failed
      rfl
  | ok value => cases failed

/-- What is made of a value does nothing more. -/
theorem exec_bind_pure (matching : Matching σ α) (value : α → β)
    (configuration : Configuration σ) :
    ((matching >>= fun result => pure (value result)).exec configuration).2 =
      (matching.exec configuration).2 := by
  rw [exec_bind]
  rcases matching.exec configuration with ⟨outcome, after⟩
  cases outcome <;> rfl

end Matching

end RegexMatching
