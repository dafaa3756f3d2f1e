import RegexMatching.Engine

/-!
# What an engine owns

Handles are numbered from one on, in one sequence for everything an engine
owns.  A handle that was released stands for nothing, and it is never given out
again.
-/

namespace RegexMatching

/-- Compiled code and match data by their handles. -/
structure Store (κ : Type) where
  nextHandle : Handle := 1
  codes : List (Handle × κ) := []
  matchData : List (Handle × List Int) := []

namespace Store

variable {κ : Type}

/-- The code of a handle. -/
def code? (store : Store κ) (handle : Handle) : Option κ :=
  store.codes.lookup handle

/-- Take in code under a fresh handle. -/
def addCode (store : Store κ) (code : κ) : Handle × Store κ :=
  (store.nextHandle,
    { store with
      nextHandle := store.nextHandle + 1
      codes := (store.nextHandle, code) :: store.codes })

/-- Forget the code of a handle. -/
def dropCode (store : Store κ) (handle : Handle) : Store κ :=
  { store with codes := store.codes.filter fun entry => entry.1 != handle }

/-- The offsets held by match data. -/
def matchData? (store : Store κ) (handle : Handle) : Option (List Int) :=
  store.matchData.lookup handle

/-- Take in match data under a fresh handle. -/
def addMatchData (store : Store κ) (offsets : List Int) : Handle × Store κ :=
  (store.nextHandle,
    { store with
      nextHandle := store.nextHandle + 1
      matchData := (store.nextHandle, offsets) :: store.matchData })

/-- Change the offsets held by match data. -/
def setMatchData (store : Store κ) (handle : Handle) (offsets : List Int) : Store κ :=
  { store with
    matchData := store.matchData.map fun entry =>
      if entry.1 == handle then (handle, offsets) else entry }

/-- Forget match data. -/
def dropMatchData (store : Store κ) (handle : Handle) : Store κ :=
  { store with
    matchData := store.matchData.filter fun entry => entry.1 != handle }

end Store

end RegexMatching
