import RegexMatching.Proofs.AnchoredSearches
import RegexMatching.Proofs.LineAnchors
import RegexMatching.Proofs.OffsetAgreement

/-!
# Variants of compiled code

A pattern is compiled from one rendering, and a match call may ask for another: one for other
line edges, or one that ends with the subject.  Code that backtracks lacks a variant only where
the start of a line is repeated, and code that runs in linear time only where the pattern ends in
quoted text.  No other call on compiled code fails for its syntax.
-/

namespace RegexMatching

/-! ## Variants that code lacks -/

/-- A call asks for a variant that cannot be read: the start of the subject begins no line, and
a quantifier follows the start of a line. -/
def BacktrackCode.LacksVariant (code : BacktrackCode) (call : MatchOptions) : Prop :=
  code.lowered.multiline = true ∧ call.notBol = true ∧
    Lowering.QuantifiesLineStart code.lowered.pieces

/-- A call asks for a variant that cannot be read: it has to reach the end of the subject, and
quoted text takes in what is put behind the pattern. -/
def LinearCode.LacksVariant (code : LinearCode) (call : MatchOptions) : Prop :=
  (call.endAnchored || code.endAnchored) = true ∧ Linear.QuotesToEnd code.source

namespace EngineKind

/-- Whether code lacks the variant that a call asks for. -/
def LacksVariant : (kind : EngineKind) → kind.Code → MatchOptions → Prop
  | backtracking => BacktrackCode.LacksVariant
  | linear => LinearCode.LacksVariant

/-- The fault of a call on code that lacks a variant. -/
def variantFault : EngineKind → Fault
  | backtracking => .badBacktrackVariant
  | linear => .badLinearVariant

end EngineKind

/-! ## Code that backtracks -/

namespace BacktrackCode

open Lowering

/-- The pieces that a call renders. -/
def pieces (code : BacktrackCode) (endAnchored : Bool) : List Piece :=
  if endAnchored then
    enclosePieces (Text.ofString "(?:") (Text.ofString ")(?![\\s\\S])") code.lowered.pieces
  else code.lowered.pieces

theorem regex?_eq (code : BacktrackCode) (call : MatchOptions) :
    code.regex? call = Backtrack.Regex.ofPoints?
      (renderPieces code.lowered.multiline code.lowered.newlineLf
        { notBol := call.notBol, notEol := call.notEol } (code.pieces call.endAnchored)).points
      code.lowered.caseless := by
  rw [regex?, pieces]
  cases call.endAnchored with
  | false => rfl
  | true =>
      rw [if_pos rfl, if_pos rfl, renderPieces_enclosePieces]
      rfl

theorem quantifiesLineStart_pieces (code : BacktrackCode) (endAnchored : Bool) :
    QuantifiesLineStart (code.pieces endAnchored) ↔ QuantifiesLineStart code.lowered.pieces := by
  cases endAnchored with
  | false => rfl
  | true => exact quantifiesLineStart_enclosePieces (by decide) _

theorem runText_pieces {code : BacktrackCode}
    (areMet : ∀ source, .source source ∈ code.lowered.pieces →
      (Backtrack.Mode.item false).runText source = .item false)
    (endAnchored : Bool) (source : Text) (mem : .source source ∈ code.pieces endAnchored) :
    (Backtrack.Mode.item false).runText source = .item false := by
  cases endAnchored with
  | false => exact areMet source mem
  | true =>
      simp only [pieces, enclosePieces, if_true, List.mem_cons, List.mem_append,
        List.not_mem_nil, or_false, Piece.source.injEq] at mem
      rcases mem with rfl | mem | rfl
      · rfl
      · exact areMet source mem
      · rfl

end BacktrackCode

namespace Backtracking

/-- The variant for a call can be read, unless it is lacking. -/
theorem isSome_regex?_iff {bytes : Bytes} {options : CompileOptions} {code : BacktrackCode}
    (compiled : compile bytes options = .ok code) (call : MatchOptions) :
    (code.regex? (code.withOwnAnchoring call)).isSome = true ↔ ¬code.LacksVariant call := by
  obtain ⟨lowered, isLowered, same, isSome⟩ := exists_lowered_of_compile compiled
  obtain ⟨groups, traces, -⟩ := Lowering.exists_traces_of_lower isLowered
  have areMet : ∀ source, .source source ∈ code.lowered.pieces →
      (Backtrack.Mode.item false).runText source = .item false := by
    rw [same]
    exact Lowering.runText_of_traces traces
  -- the same ending, with the line edges that the pattern was compiled with
  have isPlain : (code.regex?
      { endAnchored := call.endAnchored || code.endAnchored }).isSome = true := by
    cases ended : code.endAnchored with
    | true =>
        rw [Bool.or_true]
        rw [BacktrackCode.withOwnAnchoring, ended, Bool.or_true] at isSome
        exact isSome
    | false =>
        rw [BacktrackCode.withOwnAnchoring, ended, Bool.or_false] at isSome
        obtain ⟨regex, isRead⟩ := Option.isSome_iff_exists.mp isSome
        rw [Bool.or_false]
        cases call.endAnchored with
        | false => exact isSome
        | true => exact Option.isSome_of_mem (code.regex?_endAnchored _ rfl isRead)
  rw [BacktrackCode.regex?_eq] at isPlain ⊢
  dsimp only [BacktrackCode.withOwnAnchoring] at isPlain ⊢
  rw [Lowering.isSome_ofPoints?_renderPieces (BacktrackCode.runText_pieces areMet _) isPlain,
    BacktrackCode.quantifiesLineStart_pieces]
  rfl

/-- A call on compiled code fails for the variant that it lacks, and for nothing else. -/
theorem search_of_compile {bytes : Bytes} {options : CompileOptions} {code : BacktrackCode}
    (compiled : compile bytes options = .ok code) (text : PointText) (position : Nat)
    (call : MatchOptions) :
    (code.LacksVariant call → search code text position call = .error .badBacktrackVariant) ∧
      (¬code.LacksVariant call → ∃ spans?, search code text position call = .ok spans?) := by
  have isSome_iff := isSome_regex?_iff compiled call
  unfold search
  dsimp only
  generalize code.regex? (code.withOwnAnchoring call) = read at isSome_iff ⊢
  cases read with
  | none => exact ⟨fun _ => rfl, fun complete => absurd (isSome_iff.mpr complete) nofun⟩
  | some regex => exact ⟨fun lacks => absurd lacks (isSome_iff.mp rfl), fun _ => ⟨_, rfl⟩⟩

end Backtracking

/-! ## Code that runs in linear time -/

namespace LinearTime

/-- The variant for a call can be read, unless it is lacking. -/
theorem isSome_regex?_iff {bytes : Bytes} {options : CompileOptions} {code : LinearCode}
    (compiled : compile bytes options = .ok code) (call : MatchOptions) :
    (regex? code (call.endAnchored || code.endAnchored)).isSome = true ↔
      ¬code.LacksVariant call := by
  have isRead := (ofPoints?_of_compile compiled).1
  rw [regex?, LinearCode.LacksVariant]
  cases call.endAnchored || code.endAnchored with
  | false => simp
  | true =>
      have enclosed : Linear.Regex.ofPoints? (endAnchor code.source) code.flags =
          Linear.Regex.ofPoints? (Linear.enclosed code.source) code.flags := rfl
      rw [if_pos rfl, enclosed]
      by_cases quotes : Linear.QuotesToEnd code.source
      · rw [Linear.ofPoints?_enclosed_of_quotesToEnd isRead quotes]
        simpa using quotes
      · rw [Linear.ofPoints?_enclosed_of_ended isRead quotes]
        simpa using quotes

/-- A call on compiled code fails for the variant that it lacks, and for nothing else. -/
theorem search_of_compile {bytes : Bytes} {options : CompileOptions} {code : LinearCode}
    (compiled : compile bytes options = .ok code) (text : PointText) (position : Nat)
    (call : MatchOptions) :
    (code.LacksVariant call → search code text position call = .error .badLinearVariant) ∧
      (¬code.LacksVariant call → ∃ spans?, search code text position call = .ok spans?) := by
  have isSome_iff := isSome_regex?_iff compiled call
  unfold search
  generalize regex? code (call.endAnchored || code.endAnchored) = read at isSome_iff ⊢
  cases read with
  | none => exact ⟨fun _ => rfl, fun complete => absurd (isSome_iff.mpr complete) nofun⟩
  | some regex =>
      refine ⟨fun lacks => absurd lacks (isSome_iff.mp rfl), fun _ => ?_⟩
      dsimp only
      split <;> exact ⟨_, rfl⟩

end LinearTime

/-! ## Match calls on an engine -/

namespace EngineKind

variable {kind : EngineKind} {bytes : Bytes} {options : CompileOptions} {code : kind.Code}

/-- A call on compiled code fails for the variant that it lacks, and for nothing else. -/
theorem search_of_compile (compiled : kind.backend.compile bytes options = .ok code)
    (text : PointText) (position : Nat) (call : MatchOptions) :
    (kind.LacksVariant code call →
        kind.backend.search code text position call = .error kind.variantFault) ∧
      (¬kind.LacksVariant code call →
        ∃ spans?, kind.backend.search code text position call = .ok spans?) := by
  cases kind with
  | backtracking => exact Backtracking.search_of_compile compiled text position call
  | linear => exact LinearTime.search_of_compile compiled text position call

/-- Whether option bits ask for a variant that code lacks. -/
def BitsLackVariant (kind : EngineKind) (code : kind.Code) (bits : Int) : Prop :=
  ∃ call, MatchOptions.ofBits? bits = some call ∧ kind.backend.honours call = true ∧
    kind.LacksVariant code call

/-- Compiled code answers every call, unless it lacks the variant. -/
theorem lacksVariant_of_answer (compiled : kind.backend.compile bytes options = .ok code)
    {slots : Nat} {subject : Bytes} {start bits : Int} {fault : Fault}
    (failed : kind.backend.answer code slots subject start bits = .error fault) :
    fault = kind.variantFault ∧ kind.BitsLackVariant code bits := by
  rw [Backend.answer] at failed
  split at failed
  · contradiction
  · next call isRead =>
      split at failed
      · contradiction
      · next isHonoured =>
          split at failed
          · contradiction
          · dsimp only at failed
            split at failed
            · contradiction
            · next position _ =>
                have found := search_of_compile compiled (.ofBytes subject) position call
                by_cases lacks : kind.LacksVariant code call
                · rw [found.1 lacks] at failed
                  cases failed
                  refine ⟨rfl, call, isRead, ?_, lacks⟩
                  simpa using isHonoured
                · obtain ⟨spans?, found⟩ := found.2 lacks
                  rw [found] at failed
                  contradiction

theorem lacksVariant_of_report (compiled : kind.backend.compile bytes options = .ok code)
    {subject : Bytes} {start bits : Int} {fault : Fault}
    (failed : kind.backend.report (some code) subject start bits = .error fault) :
    fault = kind.variantFault ∧ kind.BitsLackVariant code bits := by
  rw [Backend.report] at failed
  cases answered : kind.backend.answer code (kind.backend.captureCount code + 1) subject start
    bits with
  | error cause =>
      rw [answered] at failed
      cases failed
      exact lacksVariant_of_answer compiled answered
  | ok answer =>
      rw [answered] at failed
      contradiction

/-- A match call on the handle of compiled code comes to a result code, unless the code lacks the
variant. -/
theorem lacksVariant_of_run (compiled : kind.backend.compile bytes options = .ok code)
    {engines : EngineState} {handle : Handle} (stored : kind.code? engines handle = some code)
    {subject : Bytes} {start bits : Int} {data stack : Handle} {fault : Fault}
    (failed : ((kind.engine.run handle subject start bits data stack).run.run engines).1 =
      .error fault) :
    fault = kind.variantFault ∧ kind.BitsLackVariant code bits := by
  have ran : ((kind.engine.run handle subject start bits data stack).run.run engines).1 =
      (kind.backend.run handle subject start bits data (kind.store engines)).1 := by
    cases kind <;> rfl
  rw [ran, Backend.run, show (kind.store engines).code? handle = some code from stored] at failed
  generalize (kind.store engines).matchData? data = offsets? at failed
  cases offsets? with
  | none => cases failed
  | some offsets =>
      dsimp only at failed
      split at failed
      · next answered =>
          cases failed
          exact lacksVariant_of_answer compiled answered
      · contradiction
      · contradiction

end EngineKind

end RegexMatching
