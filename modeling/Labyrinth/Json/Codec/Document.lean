import Labyrinth.Json.Codec.Basic
import Labyrinth.Json.Reading.Parser
import Labyrinth.Json.Reading.Whole

/-!
# Decoding whole texts

A text holds one value and nothing after it. In order, what follows the value is noticed only once
the value is decoded; on the whole route, before.
-/

namespace Labyrinth.Json.Codec

/-- Decodes a text that holds one value and nothing after it. -/
def decodeText {α : Type} (codec : Codec α) (route : Route) (text : List Char) :
    Except Failure α := do
  let document := Document.ofText text
  match route with
  | .inOrder =>
    let value ← codec.decode .inOrder document.root
    if document.trailing then
      throw (.flaw .illFormed)
    return value
  | .whole =>
    let value ← flawed (document.root.value? Reading.deepest)
    if document.trailing then
      throw (.flaw .illFormed)
    codec.decode .whole value.reading

/-- The compact text of a value. -/
def encodeText {α : Type} (codec : Codec α) (a : α) : List Char := (codec.encode a).print

/-- Decodes a text and writes the value again. -/
def recode {α : Type} (codec : Codec α) (route : Route) (text : List Char) :
    Except Failure (List Char) := do
  return codec.encodeText (← codec.decodeText route text)

end Labyrinth.Json.Codec
