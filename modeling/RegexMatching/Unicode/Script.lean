import RegexMatching.Unicode.Runs
import RegexMatching.Unicode.ScriptTable

/-!
# Scripts

Every code point has one script; some are used with other scripts than their
own, which are their script extensions.  A script is held by its short name.
-/

namespace RegexMatching.Unicode

/-- The short name of the script of code points that have none. -/
def unknownScript : String :=
  "Zzzz"

/-- The table of scripts. -/
def scriptRuns : Array (Run String) :=
  readRuns String.ofList scriptLines

/-- The table of script extensions. -/
def extensionRuns : Array (Run (List String)) :=
  readRuns (fun names => (splitChars '+' names).map String.ofList) extensionLines

/-- The names of all scripts, the short one first. -/
def scriptNames : List (List String) :=
  scriptNameLines.flatMap fun line =>
    (splitChars ' ' line.toList).map fun names =>
      (splitChars '+' names).map String.ofList

/-- The script of a code point. -/
def script (point : Nat) : String :=
  (lookup? scriptRuns point).getD unknownScript

/-- The scripts a code point is used with. -/
def scriptExtensions (point : Nat) : List String :=
  (lookup? extensionRuns point).getD [script point]

/-- The short name of a script by any of its names. -/
def scriptOfName? (name : String) : Option String :=
  (scriptNames.find? fun names => names.contains name).bind List.head?

end RegexMatching.Unicode
