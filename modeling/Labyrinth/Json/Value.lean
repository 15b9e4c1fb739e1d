import Labyrinth.Json.Numeral.Basic
import Labyrinth.Json.Text

/-!
# JSON values

A value of the data format, with the members of an object in order, and its compact text.
-/

namespace Labyrinth.Json

/-- A JSON value. -/
inductive Value where
  | null
  | bool (b : Bool)
  | number (n : Numeral)
  | text (s : String)
  | array (items : List Value)
  | object (members : List (String × Value))

namespace Value

/-- A whole number as a value. -/
def int (i : Int) : Value := .number (.ofInt i)

end Value

/-! ### Compact text -/

mutual

/-- The text of a value, without blanks. -/
def Value.print : Value → List Char
  | .null => "null".toList
  | .bool true => "true".toList
  | .bool false => "false".toList
  | .number n => n.print
  | .text s => printText s
  | .array [] => ['[', ']']
  | .array (item :: rest) => '[' :: item.print ++ printItems rest
  | .object [] => ['\x7b', '\x7d']
  | .object ((key, value) :: rest) =>
    '\x7b' :: printText key ++ ':' :: value.print ++ printMembers rest

/-- The items after the first, and the end of the array. -/
def printItems : List Value → List Char
  | [] => [']']
  | item :: rest => ',' :: item.print ++ printItems rest

/-- The members after the first, and the end of the object. -/
def printMembers : List (String × Value) → List Char
  | [] => ['\x7d']
  | (key, value) :: rest => ',' :: printText key ++ ':' :: value.print ++ printMembers rest

end

end Labyrinth.Json
