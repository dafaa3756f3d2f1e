import RegexMatching.Proofs.Captures

/-!
# An engine for the empty pattern

The empty pattern matches wherever a match call starts, and where the match has to
reach the end of the subject, at the end only.  An engine that knows no other
pattern needs to remember nothing but the start of its last match.
-/

namespace RegexMatching

/-- What the engine for the empty pattern reports. -/
def emptyReport (subject : Bytes) (start options : Int) : Report :=
  if 0 ≤ start ∧ Utf8.IsBoundary subject start.toNat then
    if options.toNat.testBit 1 = true ∧ start.toNat ≠ subject.length then
      { result := ResultCode.noMatch }
    else
      { result := 1, offsets := [start, start] }
  else
    { result := ResultCode.badOffset }

/-- The engine for the empty pattern. -/
def Engine.ofEmptyPattern : Engine Int where
  name := Text.ofString "empty"
  capabilities :=
    { anchoredVariants := false
      partialMatching := true
      lineBoundaryOptions := true
      executionStack := false }
  compile := fun _ _ => pure (.compiled 1)
  captureCount := fun _ => pure 0
  nameTable := fun _ => pure []
  createMatchData := fun _ => pure 1
  captureOffsets := fun _ last => ([last, last], last)
  mark := fun _ => pure none
  freeMatchData := fun _ => pure ()
  createStack := none
  releaseStack := none
  run := fun _ subject start options _ _ =>
    ExceptT.mk fun _ => (.ok (emptyReport subject start options).result, start)
  errorMessage := fun _ => []
  release := fun _ => pure ()

/-- The empty pattern. -/
def Pattern.ofEmptyPattern : Pattern Int where
  adapter := { engine := .ofEmptyPattern, isLogged := false }
  source := []
  flags := .ofNat 0
  canonicalEquivalence := false
  variants := .shared 1
  groupCount := 0
  names := []

namespace Engine

theorem exchange_ofEmptyPattern (request : Request) (last : Int) :
    (ofEmptyPattern.exchange request).run last =
      (.ok (emptyReport request.subject request.start request.options), request.start) := by
  have read : (ofEmptyPattern.readReport request.code 1
      (emptyReport request.subject request.start request.options).result).run request.start =
      (emptyReport request.subject request.start request.options, request.start) := by
    unfold emptyReport
    split
    · split <;> rfl
    · rfl
  rw [exchange_run]
  exact congrArg (fun read : Report × Int => (Except.ok read.1, read.2)) read

end Engine

theorem groupCount_emptyReport (subject : Bytes) (start options : Int) :
    (emptyReport subject start options).groupCount = 0 := by
  unfold emptyReport
  split
  · split <;> rfl
  · rfl

/-- The empty pattern matches at the start of a call. -/
theorem emptyReport_set? {subject : Bytes} {start options : Int} {group first last : Nat}
    (isSet : (emptyReport subject start options).set? group = some (first, last)) :
    group = 0 ∧ first = start.toNat ∧ last = start.toNat ∧
      Utf8.IsBoundary subject start.toNat := by
  unfold emptyReport at isSet
  split at isSet
  · next legal =>
      split at isSet
      · contradiction
      · cases group with
        | zero =>
            simp only [Report.set?, Nat.zero_mul, Nat.zero_add, List.getElem?_cons_zero,
              List.getElem?_cons_succ] at isSet
            split at isSet
            · rw [Option.some.injEq, Prod.mk.injEq] at isSet
              exact ⟨rfl, isSet.1.symm, isSet.2.symm, legal.2⟩
            · contradiction
        | succ group =>
            have behind : [start, start][(group + 1) * 2]? = none :=
              List.getElem?_eq_none (by simp only [List.length_cons, List.length_nil]; omega)
            simp only [Report.set?, behind] at isSet
            contradiction
  · contradiction

theorem emptyReport_placesMatch {subject : Bytes} {start : Nat} {options : Int}
    (boundary : Utf8.IsBoundary subject start)
    (isMatch : (emptyReport subject start options).isMatch = true) :
    (emptyReport subject start options).PlacesMatch subject start := by
  have legal : 0 ≤ (start : Int) ∧ Utf8.IsBoundary subject (start : Int).toNat :=
    ⟨Int.natCast_nonneg start, boundary⟩
  unfold emptyReport at isMatch ⊢
  rw [if_pos legal] at isMatch ⊢
  split at isMatch
  · contradiction
  · next atEnd =>
      rw [if_neg atEnd]
      refine ⟨start, start, ?_, Nat.le_refl _, Nat.le_refl _, boundary, boundary⟩
      simp [Report.set?]

end RegexMatching
