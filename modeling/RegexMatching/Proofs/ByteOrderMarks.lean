import RegexMatching.Proofs.Segments

/-!
# Byte order marks and decomposition

It is read off the tables that nothing decomposes into a byte order mark but the mark itself, and
that the mark has no combining class.  So canonical ordering does not move it, and a decomposed
text starts with a byte order mark only where the text does.
-/

namespace RegexMatching

open Utf8 (byteOrderMark)

namespace Unicode

/-- What is checked of the tables: no run of classes holds the byte order mark, and decompositions
are code points other than it. -/
def sparesByteOrderMark (classes : List (Run Nat)) (decompositions : List (Run (List Nat))) :
    Bool :=
  (classes.all fun run => run.last.blt byteOrderMark || byteOrderMark.blt run.first) &&
    decompositions.all fun run => run.value.all fun part =>
      !part.beq byteOrderMark && part.ble CodePoint.last

theorem sparesByteOrderMark_eq_true :
    sparesByteOrderMark combiningRuns.toList decompositionRuns.toList = true := by
  apply check_readRuns sparesByteOrderMark
  · dsimp only [combiningLines]
    repeat apply Spells.cons
    exact .nil
  · dsimp only [decompositionLines]
    repeat apply Spells.cons
    exact .nil
  · decide +kernel

theorem combiningClass_byteOrderMark : combiningClass byteOrderMark = 0 := by
  have spares := (Bool.and_eq_true_iff.mp sparesByteOrderMark_eq_true).1
  refine combiningClass_eq_zero_of_avoided fun run mem => Bool.eq_false_iff.mpr fun holds => ?_
  have apart := List.all_eq_true.mp spares run (Array.mem_def.mp mem)
  have bounds := Run.bounds_of_contains holds
  simp only [Bool.or_eq_true, Nat.blt_eq] at apart
  omega

/-- What a code point decomposes into. -/
theorem mem_decompose {point part : Nat} (le : point ≤ CodePoint.last)
    (mem : part ∈ decompose point) :
    part ≤ CodePoint.last ∧ (part = byteOrderMark → point = byteOrderMark) := by
  rw [decompose] at mem
  split at mem
  · next isSyllable =>
      simp only [Bool.and_eq_true, decide_eq_true_eq] at isSyllable
      have small : part ≤ 0x11C2 := by
        simp only [hangulParts] at mem
        split at mem
        · simp only [List.append_nil, List.mem_cons, List.not_mem_nil, or_false] at mem
          omega
        · simp only [List.mem_append, List.mem_cons, List.not_mem_nil, or_false] at mem
          omega
      unfold byteOrderMark CodePoint.last
      omega
  · cases found : lookup? decompositionRuns point with
    | none =>
        rw [found, Option.getD_none, List.mem_singleton] at mem
        subst mem
        exact ⟨le, id⟩
    | some parts =>
        rw [found, Option.getD_some] at mem
        obtain ⟨run, isRun, rfl, -⟩ := mem_of_lookup? found
        have spares := (Bool.and_eq_true_iff.mp sparesByteOrderMark_eq_true).2
        have checked := List.all_eq_true.mp
          (List.all_eq_true.mp spares run (Array.mem_def.mp isRun)) part mem
        simp only [Bool.and_eq_true, Bool.not_eq_true', Nat.ble_eq] at checked
        exact ⟨checked.2, fun isMark => absurd isMark (Nat.ne_of_beq_eq_false checked.1)⟩

/-! ## Ordering -/

theorem mem_insertOrdered {point other : Nat} {points : List Nat}
    (mem : other ∈ insertOrdered point points) : other = point ∨ other ∈ points := by
  induction points with
  | nil => exact .inl (List.mem_singleton.mp mem)
  | cons next rest ih =>
      rw [insertOrdered] at mem
      split at mem
      · rcases List.mem_cons.mp mem with rfl | mem
        · exact .inr List.mem_cons_self
        · exact (ih mem).imp_right (List.mem_cons_of_mem next)
      · exact List.mem_cons.mp mem

/-- What comes first is put in front, or has a class. -/
theorem head?_insertOrdered {point first : Nat} {points : List Nat}
    (isHead : (insertOrdered point points).head? = some first) :
    first = point ∨ combiningClass first ≠ 0 := by
  cases points with
  | nil => exact .inl (Option.some.inj isHead).symm
  | cons next rest =>
      rw [insertOrdered] at isHead
      split at isHead
      · next moves =>
          rw [Bool.and_eq_true, decide_eq_true_eq] at moves
          obtain rfl := Option.some.inj isHead
          exact .inr (Nat.ne_of_gt moves.1)
      · exact .inl (Option.some.inj isHead).symm

/-- Ordering puts nothing in front that has no class. -/
theorem head?_foldr_insertOrdered {points : List Nat} {first : Nat}
    (isHead : (points.foldr insertOrdered []).head? = some first)
    (noClass : combiningClass first = 0) : points.head? = some first := by
  cases points with
  | nil => contradiction
  | cons point rest =>
      rcases head?_insertOrdered isHead with rfl | hasClass
      · rfl
      · exact absurd noClass hasClass

theorem mem_canonicalDecomposition {points : List Nat} {part : Nat}
    (mem : part ∈ canonicalDecomposition points) : ∃ point ∈ points, part ∈ decompose point := by
  rw [← List.mem_flatMap]
  rw [canonicalDecomposition] at mem
  generalize points.flatMap decompose = parts at mem ⊢
  induction parts with
  | nil => exact mem
  | cons first rest ih =>
      rcases mem_insertOrdered mem with rfl | mem
      · exact List.mem_cons_self
      · exact List.mem_cons_of_mem first (ih mem)

/-- A decomposition starts with a byte order mark where what is decomposed does. -/
theorem head?_canonicalDecomposition {points : List Nat}
    (le : ∀ point ∈ points, point ≤ CodePoint.last)
    (isMark : (canonicalDecomposition points).head? = some byteOrderMark) :
    points.head? = some byteOrderMark := by
  cases points with
  | nil => contradiction
  | cons point rest =>
      have isFirst := head?_foldr_insertOrdered isMark combiningClass_byteOrderMark
      rw [List.flatMap_cons, List.head?_append_of_ne_nil _ (decompose_ne_nil point)] at isFirst
      have parts := mem_decompose (le point List.mem_cons_self) (List.mem_of_mem_head? isFirst)
      exact congrArg some (parts.2 rfl)

end Unicode

/-! ## Decomposed texts -/

theorem CodePoint.head?_units {point : Nat} (le : point ≤ CodePoint.last)
    (isMark : (CodePoint.units point).head? = some 0xFEFF) : point = byteOrderMark := by
  unfold CodePoint.last at le
  have ofUnit : ∀ unit : Nat, unit < 0x10000 → some unit.toUInt16 = some 0xFEFF →
      unit = byteOrderMark := by
    intro unit small same
    have values : unit % 0x10000 = byteOrderMark :=
      congrArg UInt16.toNat (Option.some.inj same)
    rwa [Nat.mod_eq_of_lt small] at values
  rw [CodePoint.units] at isMark
  split at isMark
  · next small => exact ofUnit point small isMark
  · have high := ofUnit _ (by omega) isMark
    unfold byteOrderMark at high
    omega

/-- Decomposing a text brings no byte order mark to its front. -/
theorem CanonicalText.head?_normalized_ne {text : Text} (noMark : text.head? ≠ some 0xFEFF) :
    (CanonicalText.ofText text).normalized.head? ≠ some 0xFEFF := by
  rw [normalized_ofText, decomposedText]
  intro isMark
  have le : ∀ point ∈ text.points, point ≤ CodePoint.last := fun _ => Text.le_last_of_mem_points
  refine Utf8.head?_points_ne noMark (Unicode.head?_canonicalDecomposition le ?_)
  cases decomposed : Unicode.canonicalDecomposition text.points with
  | nil =>
      rw [decomposed] at isMark
      contradiction
  | cons first rest =>
      rw [decomposed, Text.ofPoints, List.flatMap_cons,
        List.head?_append_of_ne_nil _ (CodePoint.units_ne_nil first)] at isMark
      obtain ⟨point, isPoint, isPart⟩ :=
        Unicode.mem_canonicalDecomposition (decomposed ▸ List.mem_cons_self)
      have parts := Unicode.mem_decompose (le point isPoint) isPart
      exact congrArg some (CodePoint.head?_units parts.1 isMark)

end RegexMatching
