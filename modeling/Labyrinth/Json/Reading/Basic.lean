import Labyrinth.Json.Fault
import Labyrinth.Json.Numeral.Basic

/-!
# What a text holds, as far as it can be read

A reading is a value with the faults of its text left in place. It says nothing of what the text is
wanted for, so several readers can share it: one may pass over it (`Reading.skim`), one may want the
whole value, and one may want a value of a certain type. Each of them meets the faults in the order
of the text and stops at the first that counts for it.
-/

namespace Labyrinth.Json

/-- How the items of an array or the members of an object come to an end. -/
inductive Closing where
  | closed
  /-- After an item comes neither a comma nor the closing bracket. -/
  | cut (flaw : Flaw)
  deriving DecidableEq

/-- Stops at an end that is cut. -/
def Closing.check : Closing → Except Flaw Unit
  | .closed => .ok ()
  | .cut flaw => .error flaw

/-- The key of a member. Nothing but a string can be one. -/
inductive Key where
  /-- A string; it has no characters if a surrogate in it lacks its other half. -/
  | text (s : Option String)
  | broken (fault : Fault)
  deriving DecidableEq

namespace Key

/-- The name that a key spells. -/
def name : Key → Except Flaw String
  | .text (some s) => .ok s
  | .text none => .error .illFormed
  | .broken fault => .error fault.asKey

/-- Passes over a key. -/
def skim : Key → Except Flaw Unit
  | .text _ => .ok ()
  | .broken fault => .error fault.asSkippedKey

end Key

/-- A value with faults left in place. Nothing is read after a fault. -/
inductive Reading where
  | null
  | bool (b : Bool)
  | number (n : Numeral)
  /-- A string; it has no characters if a surrogate in it lacks its other half. -/
  | text (s : Option String)
  | array (items : List Reading) (closing : Closing)
  | object (members : List (Key × Reading)) (closing : Closing)
  | broken (fault : Fault)

namespace Reading

mutual

/-- Passes over a value. Neither the size of numerals nor the halves of surrogate pairs count. -/
def skim : Reading → Except Flaw Unit
  | .null | .bool _ | .number _ | .text _ => .ok ()
  | .array items closing => do
    skimItems items
    closing.check
  | .object members closing => do
    skimMembers members
    closing.check
  | .broken fault => .error fault.asSkipped

/-- Passes over the items of an array. -/
def skimItems : List Reading → Except Flaw Unit
  | [] => .ok ()
  | item :: rest => do
    skim item
    skimItems rest

/-- Passes over the members of an object. -/
def skimMembers : List (Key × Reading) → Except Flaw Unit
  | [] => .ok ()
  | (key, value) :: rest => do
    key.skim
    skim value
    skimMembers rest

end

end Reading

end Labyrinth.Json
