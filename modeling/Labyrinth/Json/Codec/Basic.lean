import Labyrinth.Json.Reading.Basic
import Labyrinth.Json.Value

/-!
# Codecs

A codec writes the values of a type as JSON and reads them back. There are two routes. In order, the
text is decoded as it is read, and the first fault met decides. On the whole route the text must
first hold a whole value; its members are then visited sorted by key, the last of each key only. The
decoder is the same on both: it works on a reading, and the route settles the few cases in which a
whole value is judged otherwise than a text that is still being read.
-/

namespace Labyrinth.Json

/-- How a text is decoded. -/
inductive Route where
  /-- While it is read. -/
  | inOrder
  /-- After it has been read to a whole value. -/
  | whole
  deriving DecidableEq

/-- Why well-formed JSON is not a value of the type that is wanted. -/
inductive Misfit where
  | wrongKind
  | wrongValue
  | wrongLength
  | missingField (name : String)
  | repeatedField (name : String)
  | unknownVariant (name : String)
  /-- The type refuses the value for a reason of its own. -/
  | refused (reason : String)
  deriving DecidableEq

def Misfit.message : Misfit → String
  | .wrongKind => "invalid type"
  | .wrongValue => "invalid value"
  | .wrongLength => "invalid length"
  | .missingField name => "missing field \x60" ++ name ++ "\x60"
  | .repeatedField name => "duplicate field \x60" ++ name ++ "\x60"
  | .unknownVariant name => "unknown variant \x60" ++ name ++ "\x60"
  | .refused reason => reason

/-- Why a text could not be decoded. -/
inductive Failure where
  | flaw (flaw : Flaw)
  | misfit (misfit : Misfit)
  deriving DecidableEq

/-- What is written for the values of a type, and how they are read. -/
structure Codec (α : Type) where
  encode : α → Value
  decode : Route → Reading → Except Failure α

/-- A flaw of the text as a reason for failure. -/
def flawed {α : Type} : Except Flaw α → Except Failure α
  | .ok a => .ok a
  | .error flaw => .error (.flaw flaw)

/-- What fails when a value of another kind is wanted. Brackets tell the kind at once; anything else
    has to be read first, and what is wrong with it comes before its kind. -/
def wrongKind : Reading → Failure
  | .number n => if n.isTooLarge then .flaw .illFormed else .misfit .wrongKind
  | .text none => .flaw .illFormed
  | .broken fault => .flaw fault.asValue
  | _ => .misfit .wrongKind

/-- What fails when there is an item too many: in order it stands where the end should be. -/
def surplus : Route → Failure
  | .inOrder => .flaw .illFormed
  | .whole => .misfit .wrongLength

namespace Codec

/-! ### Single values -/

/-- Truth values. -/
def bool : Codec Bool where
  encode := .bool
  decode _
    | .bool b => .ok b
    | other => .error (wrongKind other)

/-- Integers from `low` to `high`. -/
def intBetween (low high : Int) : Codec Int where
  encode := .int
  decode _
    | .number n =>
      match n.whole? with
      | some i => if low ≤ i ∧ i ≤ high then .ok i else .error (.misfit .wrongValue)
      | none => .error (wrongKind (.number n))
    | other => .error (wrongKind other)

/-- Codecs carry over along a pair of functions. -/
def map {α β : Type} (codec : Codec α) (make : α → β) (back : β → α) : Codec β where
  encode b := codec.encode (back b)
  decode route reading := (codec.decode route reading).map make

/-- Counts, which are words of 64 bits. -/
def count : Codec Nat := (intBetween 0 maxWord).map Int.toNat Int.ofNat

/-- Coordinates, which are signed words of 32 bits. -/
def coordinate : Codec Int32 :=
  (intBetween (-0x80000000) 0x7fffffff).map Int32.ofInt Int32.toInt

/-- Characters, each as a string that holds nothing else. -/
def character : Codec Char where
  encode c := .text (String.singleton c)
  decode _
    | .text (some s) =>
      match s.toList with
      | [c] => .ok c
      | _ => .error (.misfit .wrongValue)
    | other => .error (wrongKind other)

/-- Lists as arrays. -/
def list {α : Type} (codec : Codec α) : Codec (List α) where
  encode items := .array (items.map codec.encode)
  decode route
    | .array items closing => do
      let values ← items.mapM (codec.decode route)
      flawed closing.check
      return values
    | other => .error (wrongKind other)

/-- The values that pass a check of their type, with the reason for which others are refused. -/
def refine {α : Type} (codec : Codec α) (check : α → Except String α) : Codec α where
  encode := codec.encode
  decode route reading := do
    let value ← codec.decode route reading
    match check value with
    | .ok value => .ok value
    | .error reason => .error (.misfit (.refused reason))

end Codec

end Labyrinth.Json
