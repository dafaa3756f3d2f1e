import RegexMatching.Lowering.Escape

/-!
# Bracket expressions

A closing bracket directly after the opening one, or after its caret, stands for
itself.  A POSIX class inside brackets is replaced by its contents, and an
opening bracket is escaped.
-/

namespace RegexMatching.Lowering

/-- Source read before a reading. -/
def Reading.after (source : Text) (reading : Reading) : Reading :=
  reading.map fun (more, rest) => (source ++ more, rest)

/-- The name of a POSIX class and the text after it. -/
def readPosixName (rest : Text) : Option (Text × Text) :=
  readDelimited "[:" ":]" rest

theorem length_of_readPosixName {rest name after : Text}
    (read : readPosixName rest = some (name, after)) :
    after.length < rest.length := by
  obtain ⟨body, opened, closed⟩ := Option.bind_eq_some_iff.mp read
  have beforeBody := Text.length_of_dropPrefix? opened
  have beforeAfter := Text.length_of_cut? closed
  have mark : (Text.ofString "[:").length = 2 := by decide
  omega

/-- A unit of a class that has no meaning of its own there. -/
def classUnit (unit : CodeUnit) : Text :=
  if unit.toChar = '[' then Text.ofString "\\[" else [unit]

/-- Read the items of a class and its closing bracket.  `start` is the pattern
from the opening bracket on. -/
def readClassItems (options : Options) (captureCount : Nat) (start : Text) :
    Text → Reading
  | [] => .error ⟨.unclosedClass, start⟩
  | unit :: rest =>
      if unit.toChar = ']' then
        .ok ([unit], rest)
      else if unit.toChar = '\\' then
        match read : readEscape options captureCount true (unit :: rest) rest with
        | .error failure => .error failure
        | .ok (source, after) =>
            have _shorter := length_of_readEscape read
            (readClassItems options captureCount start after).after source
      else
        match read : readPosixName (unit :: rest) with
        | some (name, after) =>
            match posixClass? name with
            | some contents =>
                have _shorter := length_of_readPosixName read
                (readClassItems options captureCount start after).after contents
            | none => .error ⟨.unknownPosixClass name, unit :: rest⟩
        | none =>
            (readClassItems options captureCount start rest).after
              (classUnit unit)
termination_by text => text.length
decreasing_by
  · exact Nat.lt_succ_of_le _shorter
  · exact _shorter
  · exact Nat.lt_succ_self rest.length

/-- Read a class whose opening bracket has been read. -/
def readClass (options : Options) (captureCount : Nat) (start rest : Text) :
    Reading :=
  let caret := Text.splitPrefix (Text.ofString "^") rest
  let bracket := Text.splitPrefix (Text.ofString "]") caret.2
  (readClassItems options captureCount start bracket.2).after
    (Text.ofString "[" ++ caret.1 ++ escapeLiteral bracket.1)

/-! ## Readers move forward -/

theorem after_eq_ok_iff {reading : Reading} {first source rest : Text} :
    reading.after first = .ok (source, rest) ↔
      ∃ more, reading = .ok (more, rest) ∧ source = first ++ more := by
  unfold Reading.after
  cases reading with
  | error failure => simp [Except.map]
  | ok value =>
      obtain ⟨more, after⟩ := value
      simp only [Except.map, Except.ok.injEq, Prod.mk.injEq]
      constructor
      · rintro ⟨rfl, rfl⟩
        exact ⟨more, ⟨rfl, rfl⟩, rfl⟩
      · rintro ⟨_, ⟨rfl, rfl⟩, rfl⟩
        exact ⟨rfl, rfl⟩

theorem length_of_readClassItems {options : Options} {captureCount : Nat}
    {start text source after : Text}
    (read : readClassItems options captureCount start text = .ok (source, after)) :
    after.length ≤ text.length := by
  fun_induction readClassItems options captureCount start text
    generalizing source with
  | case1 => contradiction
  | case2 unit rest closes =>
      cases read
      simp
  | case3 => contradiction
  | case4 unit rest _ _ _ behind readItem shorter ih =>
      obtain ⟨more, readRest, _⟩ := after_eq_ok_iff.mp read
      have shorterRest := ih readRest
      simp only [List.length_cons]
      omega
  | case5 unit rest _ _ name behind readItem contents _ shorter ih =>
      obtain ⟨more, readRest, _⟩ := after_eq_ok_iff.mp read
      have shorterRest := ih readRest
      omega
  | case6 => contradiction
  | case7 unit rest _ _ _ ih =>
      obtain ⟨more, readRest, _⟩ := after_eq_ok_iff.mp read
      have shorterRest := ih readRest
      simp only [List.length_cons]
      omega

theorem length_of_readClass {options : Options} {captureCount : Nat}
    {start rest source after : Text}
    (read : readClass options captureCount start rest = .ok (source, after)) :
    after.length ≤ rest.length := by
  obtain ⟨more, readItems, _⟩ := after_eq_ok_iff.mp read
  have shorter := length_of_readClassItems readItems
  have afterCaret := Text.length_splitPrefix_le (Text.ofString "^") rest
  have afterBracket := Text.length_splitPrefix_le (Text.ofString "]")
    (Text.splitPrefix (Text.ofString "^") rest).2
  omega

end RegexMatching.Lowering
