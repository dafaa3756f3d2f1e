import RegexMatching.Unicode.Category
import RegexMatching.Unicode.PropertyTable
import RegexMatching.Unicode.Script

/-!
# Properties of code points

A property is named by itself or as a value of a wider property.
-/

namespace RegexMatching.Unicode

/-- The table of alphabetic code points. -/
def alphabeticRuns : Array (Run Unit) :=
  readRuns (fun _ => ()) alphabeticLines

def isAlphabetic (point : Nat) : Bool :=
  (lookup? alphabeticRuns point).isSome

/-- Whether a code point is white space. -/
def isWhiteSpace (point : Nat) : Bool :=
  (0x9 ≤ point && point ≤ 0xD) || point == 0x20 || point == 0x85 ||
    point == 0xA0 || point == 0x1680 || (0x2000 ≤ point && point ≤ 0x200A) ||
    point == 0x2028 || point == 0x2029 || point == 0x202F || point == 0x205F ||
    point == 0x3000

/-- Whether a code point joins its neighbours or keeps them apart. -/
def isJoinControl (point : Nat) : Bool :=
  point == 0x200C || point == 0x200D

/-- A property of code points. -/
inductive Property where
  | any
  | alphabetic
  | whiteSpace
  | joinControl
  | categoryIn (categories : List Category)
  | script (name : String)
  | scriptExtension (name : String)
deriving DecidableEq, Repr

namespace Property

/-- Whether a code point has a property. -/
def holds : Property → Nat → Bool
  | any, _ => true
  | alphabetic, point => isAlphabetic point
  | whiteSpace, point => isWhiteSpace point
  | joinControl, point => isJoinControl point
  | categoryIn categories, point => categories.contains (category point)
  | script name, point => Unicode.script point == name
  | scriptExtension name, point => (scriptExtensions point).contains name

/-- The property of a name that stands by itself. -/
def ofName? (name : String) : Option Property :=
  match name with
  | "Any" => some any
  | "Alphabetic" => some alphabetic
  | "Alpha" => some alphabetic
  | "White_Space" => some whiteSpace
  | "space" => some whiteSpace
  | "Join_Control" => some joinControl
  | "Join_C" => some joinControl
  | _ => (Category.ofName? name).map categoryIn

/-- The property of a name and a value. -/
def ofValue? (name value : String) : Option Property :=
  match name with
  | "General_Category" => (Category.ofName? value).map categoryIn
  | "gc" => (Category.ofName? value).map categoryIn
  | "Script" => (scriptOfName? value).map script
  | "sc" => (scriptOfName? value).map script
  | "Script_Extensions" => (scriptOfName? value).map scriptExtension
  | "scx" => (scriptOfName? value).map scriptExtension
  | _ => none

end Property

end RegexMatching.Unicode
