import Labyrinth.Json.Reading.Basic
import Labyrinth.Json.Token

/-!
# From a text to its reading

Tokens are put together to the reading of the value they start with. A fault ends the reading: after
it the tokens count as used up.
-/

namespace Labyrinth.Json

/-- The fault of tokens that stop here, or go on where they should not. -/
def faultAt : List Token → Fault
  | [] => .missing
  | _ :: _ => .stray

/-- The fault of tokens that do not start with a string where the key of a member should stand. -/
def keyFault : List Token → Fault
  | .broken fault :: _ => fault
  | tokens => faultAt tokens

mutual

/-- The value that the tokens start with, and the tokens after it. -/
def readValue : Nat → List Token → Reading × List Token
  | 0, _ => (.broken .missing, [])
  | _, [] => (.broken .missing, [])
  | fuel + 1, token :: rest =>
    match token with
    | .null => (.null, rest)
    | .bool b => (.bool b, rest)
    | .number n => (.number n, rest)
    | .text s => (.text s, rest)
    | .openArray =>
      match rest with
      | .closeArray :: rest => (.array [] .closed, rest)
      | _ =>
        let (items, closing, rest) := readItems fuel rest
        (.array items closing, rest)
    | .openObject =>
      match rest with
      | .closeObject :: rest => (.object [] .closed, rest)
      | _ =>
        let (members, closing, rest) := readMembers fuel rest
        (.object members closing, rest)
    | .broken fault => (.broken fault, [])
    | _ => (.broken .stray, [])

/-- The items of an array from here on, of which there must be one, and its end. -/
def readItems : Nat → List Token → List Reading × Closing × List Token
  | 0, _ => ([], .cut .truncated, [])
  | fuel + 1, tokens =>
    let (item, rest) := readValue fuel tokens
    match rest with
    | .closeArray :: rest => ([item], .closed, rest)
    | .comma :: rest =>
      let (items, closing, rest) := readItems fuel rest
      (item :: items, closing, rest)
    | [] => ([item], .cut .truncated, [])
    | _ => ([item], .cut .illFormed, [])

/-- The members of an object from here on, of which there must be one, and its end. -/
def readMembers : Nat → List Token → List (Key × Reading) × Closing × List Token
  | 0, _ => ([], .cut .truncated, [])
  | fuel + 1, tokens =>
    let (member, rest) := readMember fuel tokens
    match rest with
    | .closeObject :: rest => ([member], .closed, rest)
    | .comma :: rest =>
      let (members, closing, rest) := readMembers fuel rest
      (member :: members, closing, rest)
    | [] => ([member], .cut .truncated, [])
    | _ => ([member], .cut .illFormed, [])

/-- One member. Where there is no key or no colon, nothing is read after that. -/
def readMember : Nat → List Token → (Key × Reading) × List Token
  | 0, _ => ((.broken .missing, .broken .missing), [])
  | fuel + 1, .text key :: .colon :: rest =>
    let (value, rest) := readValue fuel rest
    ((.text key, value), rest)
  | _ + 1, .text key :: rest => ((.text key, .broken (faultAt rest)), [])
  | _ + 1, tokens => ((.broken (keyFault tokens), .broken .stray), [])

end

/-- What a text holds: the reading of its first value, and whether anything but blanks follows. -/
structure Document where
  root : Reading
  trailing : Bool

/-- What a text holds. A value needs at most three units of fuel a token. -/
def Document.ofText (text : List Char) : Document :=
  let tokens := tokens text
  let (root, rest) := readValue (3 * tokens.length + 3) tokens
  ⟨root, !rest.isEmpty⟩

end Labyrinth.Json
