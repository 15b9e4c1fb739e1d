import Labyrinth.Json.Codec.Record

/-!
# Choices

A type with several variants is written as the name of the variant, or as an object with one member
that is named for the variant and has what it holds.
-/

namespace Labyrinth.Json

/-- What a variant of a type holds. -/
inductive Variant (α : Type) : Type 1 where
  | plain (a : α)
  | holding {β : Type} (codec : Codec β) (make : β → α)
  | fields {β : Type} (form : Form β) (make : β → α)

namespace Variant

/-- Decodes what a variant holds. A variant that holds nothing may hold `null`; one with fields has
    them as an object, and in order as an array too. -/
def decode (route : Route) {α : Type} (variant : Variant α) (reading : Reading) :
    Except Failure α :=
  match variant with
  | .plain a =>
    match reading with
    | .null => .ok a
    | other => .error (wrongKind other)
  | .holding codec make => (codec.decode route reading).map make
  | .fields form make =>
    match route with
    | .inOrder => (form.decode route reading).map make
    | .whole => (form.decodeObject route reading).map make

end Variant

namespace Codec

/-- The variant of a name. -/
def variantOf {α : Type} (variants : List (String × Variant α)) (name : String) :
    Except Failure (Variant α) :=
  match variants.find? fun variant => variant.1 = name with
  | some variant => .ok variant.2
  | none => .error (.misfit (.unknownVariant name))

/-- What fails when neither a name nor an object stands where a choice is wanted. In order the first
    character tells, so the rest of the value is not read. -/
def noChoice : Route → Reading → Failure
  | .inOrder, .broken fault => .flaw fault.asKey
  | .inOrder, _ => .flaw .illFormed
  | .whole, other => wrongKind other

/-- One of several variants: a name alone for one that holds nothing, and else an object whose only
    member is named for the variant and has what it holds. -/
def decodeChoice {α : Type} (variants : List (String × Variant α)) (route : Route) :
    Reading → Except Failure α
  | .text (some name) =>
    match variantOf variants name with
    | .ok (.plain a) => .ok a
    | .ok _ => .error (.misfit .wrongKind)
    | .error failure => .error failure
  | .object [] _ =>
    match route with
    | .inOrder => .error (.flaw .illFormed)
    | .whole => .error (.misfit .wrongValue)
  | .object ((key, content) :: rest) closing => do
    if route = .whole ∧ rest ≠ [] then
      throw (.misfit .wrongValue)
    match variantOf variants (← flawed key.name) with
    | .error failure => .error failure
    | .ok variant =>
      let value ← variant.decode route content
      if rest ≠ [] then
        throw (.flaw .illFormed)
      flawed closing.check
      return value
  | other => .error (noChoice route other)

/-- One of several variants. -/
def choice {α : Type} (variants : List (String × Variant α)) (encode : α → Value) : Codec α where
  encode := encode
  decode := decodeChoice variants

/-- The values of a type that has a name for each of them. -/
def named {α : Type} (all : List α) (name : α → String) : Codec α :=
  choice (all.map fun a => (name a, .plain a)) fun a => .text (name a)

end Codec

end Labyrinth.Json
