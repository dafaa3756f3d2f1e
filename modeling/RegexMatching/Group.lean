import RegexMatching.Fault

/-!
# Groups by number and by name

A capturing group is addressed by its number, group zero being the whole match,
or by its name.  `GroupNames` keeps names in the order in which they were first
added, each with one number.
-/

namespace RegexMatching

/-! ## Names of groups -/

/-- A named capturing group. -/
structure GroupName where
  name : Text
  group : Nat
deriving DecidableEq, Repr

/-- The names of a pattern's groups, in the order in which they were added. -/
abbrev GroupNames := List GroupName

namespace GroupNames

/-- The group that a name stands for. -/
def group? (names : GroupNames) (name : Text) : Option Nat :=
  (names.find? fun entry => entry.name == name).map GroupName.group

/-- Add a name unless it is taken: the first group of a name keeps it. -/
def insertIfNew (names : GroupNames) (entry : GroupName) : GroupNames :=
  if (names.group? entry.name).isSome then names else names ++ [entry]

/-- Add a name; a name that is taken moves to the new group and keeps its
place. -/
def insert (names : GroupNames) (entry : GroupName) : GroupNames :=
  if (names.group? entry.name).isSome then
    names.map fun old => if old.name == entry.name then entry else old
  else
    names ++ [entry]

/-- The names of a table in which the first entry of a name counts. -/
def ofTable (table : List GroupName) : GroupNames :=
  table.foldl insertIfNew []

/-- The names of a table in which the last entry of a name counts. -/
def ofEntries (table : List GroupName) : GroupNames :=
  table.foldl insert []

end GroupNames

/-! ## References to groups -/

/-- A group as a caller names it. -/
inductive GroupRef where
  | number (number : Number)
  | name (name : Text)

namespace GroupRef

/-- The whole match. -/
def whole : GroupRef :=
  .number (.ofNat 0)

/-- The number of the group meant.  A number is handed back as it came, once it
is known to be an integer from zero to `count`; a name has to be known. -/
def resolve (ref : GroupRef) (count : Nat) (names : GroupNames) :
    Except Fault Number :=
  match ref with
  | .name wanted =>
      match names.group? wanted with
      | some group => .ok (.ofNat group)
      | none => .error (.noGroupNamed wanted)
  | .number given =>
      if (given.toIndex? count).isSome then .ok given
      else .error (.noGroup given)

/-- The index of the group meant. -/
def index (ref : GroupRef) (count : Nat) (names : GroupNames) :
    Except Fault Nat :=
  match ref with
  | .name wanted =>
      match names.group? wanted with
      | some group => .ok group
      | none => .error (.noGroupNamed wanted)
  | .number given =>
      match given.toIndex? count with
      | some group => .ok group
      | none => .error (.noGroup given)

end GroupRef

end RegexMatching
