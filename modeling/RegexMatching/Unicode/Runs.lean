/-!
# Tables over code points

A table gives values to ranges of code points.  It is written as lines of
entries, `first-last/step:value` with all numbers in hexadecimal, where the end,
the step and the value may be left out, and it is read once into runs sorted by
their first code point.
-/

namespace RegexMatching.Unicode

/-- Code points from `first` to `last`, a step apart, that share a value. -/
structure Run (α : Type) where
  first : Nat
  last : Nat
  step : Nat
  value : α

namespace Run

variable {α β : Type}

/-- Whether a run holds a code point. -/
def contains (run : Run α) (point : Nat) : Bool :=
  run.first ≤ point && point ≤ run.last && (point - run.first) % run.step == 0

/-- A run with its value changed. -/
def map (run : Run α) (change : α → β) : Run β :=
  ⟨run.first, run.last, run.step, change run.value⟩

end Run

/-! ## Reading tables -/

/-- The parts of a list of characters between separators. -/
def splitChars (separator : Char) : List Char → List (List Char)
  | [] => [[]]
  | char :: rest =>
      match splitChars separator rest with
      | [] => [[char]]
      | part :: parts =>
          if char = separator then [] :: part :: parts
          else (char :: part) :: parts

/-- The value of a hexadecimal digit in upper case. -/
def hexDigit (char : Char) : Nat :=
  if char.isDigit then char.toNat - 48 else char.toNat - 55

/-- The value of hexadecimal digits. -/
def hexNumber (digits : List Char) : Nat :=
  digits.foldl (fun value digit => value * 16 + hexDigit digit) 0

/-- The value of decimal digits. -/
def decimalNumber (digits : List Char) : Nat :=
  digits.foldl (fun value digit => value * 10 + hexDigit digit) 0

/-- Read an entry, leaving its value as it is written. -/
def readEntry (entry : List Char) : Run (List Char) :=
  let halves := splitChars ':' entry
  let place := splitChars '/' (halves.headD [])
  let range := splitChars '-' (place.headD [])
  let first := hexNumber (range.headD [])
  { first := first
    last := (range[1]?.map hexNumber).getD first
    step := (place[1]?.map hexNumber).getD 1
    value := halves[1]?.getD [] }

/-- Read the lines of a table. -/
def readRuns {α : Type} (readValue : List Char → α) (lines : List String) :
    Array (Run α) :=
  (lines.flatMap fun line =>
    (splitChars ' ' line.toList).map fun entry =>
      (readEntry entry).map readValue).toArray

/-! ## Looking up -/

/-- The run of a code point between two indices of a sorted table. -/
def findRun? {α : Type} (runs : Array (Run α)) (point low high : Nat) :
    Option (Run α) :=
  if _ : low < high then
    let middle := (low + high) / 2
    match runs[middle]? with
    | none => none
    | some run =>
        if point < run.first then findRun? runs point low middle
        else if run.last < point then findRun? runs point (middle + 1) high
        else if run.contains point then some run
        else none
  else
    none
termination_by high - low

/-- The value of a code point in a sorted table. -/
def lookup? {α : Type} (runs : Array (Run α)) (point : Nat) : Option α :=
  (findRun? runs point 0 runs.size).map Run.value

end RegexMatching.Unicode
