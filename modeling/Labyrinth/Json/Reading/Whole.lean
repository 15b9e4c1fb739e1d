import Labyrinth.Json.Reading.Basic
import Labyrinth.Json.Value

/-!
# Readings and whole values

A reading without a fault that counts is a value, whose members are sorted by key with the last of
each key only. A value is read back as it stands.
-/

namespace Labyrinth.Json

namespace Reading

/-- Puts a member in its place among members sorted by key; an older one of the same key goes. -/
def insertMember (key : String) (value : Value) : List (String × Value) → List (String × Value)
  | [] => [(key, value)]
  | (k, v) :: rest =>
    if key < k then (key, value) :: (k, v) :: rest
    else if key = k then (key, value) :: rest
    else (k, v) :: insertMember key value rest

/-- Members sorted by key; of several with one key the last stays. -/
def settle (members : List (String × Value)) : List (String × Value) :=
  members.foldl (fun sorted member => insertMember member.1 member.2 sorted) []

mutual

/-- The value, if the text holds no fault, every numeral has a double, every string has its
    characters, and arrays and objects are nested at most `room` deep. -/
def value? (room : Nat) : Reading → Except Flaw Value
  | .null => .ok .null
  | .bool b => .ok (.bool b)
  | .number n => if n.isTooLarge then .error .illFormed else .ok (.number n)
  | .text (some s) => .ok (.text s)
  | .text none => .error .illFormed
  | .array items closing =>
    match room with
    | 0 => .error .illFormed
    | room + 1 => do
      let values ← values? room items
      closing.check
      return .array values
  | .object members closing =>
    match room with
    | 0 => .error .illFormed
    | room + 1 => do
      let members ← members? room members
      closing.check
      return .object (settle members)
  | .broken fault => .error fault.asValue

/-- The values of the items of an array. -/
def values? (room : Nat) : List Reading → Except Flaw (List Value)
  | [] => .ok []
  | item :: rest => do return (← value? room item) :: (← values? room rest)

/-- The members of an object in the order of the text, each with its name. -/
def members? (room : Nat) : List (Key × Reading) → Except Flaw (List (String × Value))
  | [] => .ok []
  | (key, value) :: rest => do
    let key ← key.name
    let value ← value? room value
    return (key, value) :: (← members? room rest)

end

/-- The deepest nesting of arrays and objects in a value that is wanted whole. -/
def deepest : Nat := 127

end Reading

mutual

/-- A value as it would be read. -/
def Value.reading : Value → Reading
  | .null => .null
  | .bool b => .bool b
  | .number n => .number n
  | .text s => .text (some s)
  | .array items => .array (readingItems items) .closed
  | .object members => .object (readingMembers members) .closed

/-- The items of an array as they would be read. -/
def readingItems : List Value → List Reading
  | [] => []
  | item :: rest => item.reading :: readingItems rest

/-- The members of an object as they would be read. -/
def readingMembers : List (String × Value) → List (Key × Reading)
  | [] => []
  | (key, value) :: rest => (.text (some key), value.reading) :: readingMembers rest

end

end Labyrinth.Json
