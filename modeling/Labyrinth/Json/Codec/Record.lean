import Labyrinth.Json.Codec.Basic

/-!
# Records

The fields of a record are a form that is filled in. An object fills it in by name, in any order, and
each field once; an array fills it in from the first field on. A field that was left out is missing
unless it has a value to fall back on.
-/

namespace Labyrinth.Json

/-- A form with named fields. A field that was not given may have a value to fall back on. -/
inductive Form : Type → Type 1 where
  | nil : Form Unit
  | field {α β : Type} (name : String) (codec : Codec α) (fallback given : Option α)
      (rest : Form β) : Form (α × β)

namespace Form

/-- The members that write the values of the fields. -/
def members : {α : Type} → Form α → α → List (String × Value)
  | _, .nil, () => []
  | _, .field name codec _ _ rest, (value, values) =>
    (name, codec.encode value) :: rest.members values

/-- Fills in the field of a name, which must not be given already. The value of a name that is not in
    the form is passed over. -/
def put (route : Route) (name : String) (reading : Reading) :
    {α : Type} → Form α → Except Failure (Form α)
  | _, .nil =>
    match reading.skim with
    | .ok () => .ok .nil
    | .error flaw => .error (.flaw flaw)
  | _, .field own codec fallback given rest =>
    if own = name then
      match given with
      | some _ => .error (.misfit (.repeatedField name))
      | none =>
        match codec.decode route reading with
        | .ok value => .ok (.field own codec fallback (some value) rest)
        | .error failure => .error failure
    else
      match rest.put route name reading with
      | .ok rest => .ok (.field own codec fallback given rest)
      | .error failure => .error failure

/-- The values of a form in which every field is given or has a value to fall back on. -/
def values : {α : Type} → Form α → Except Failure α
  | _, .nil => .ok ()
  | _, .field name _ fallback given rest =>
    match given.or fallback with
    | some value => do return (value, ← rest.values)
    | none => .error (.misfit (.missingField name))

/-- Fills in a form member by member and takes its values. -/
def fill (route : Route) {α : Type} (form : Form α) (closing : Closing) :
    List (Key × Reading) → Except Failure α
  | [] => do
    flawed closing.check
    form.values
  | (key, value) :: rest => do
    let name ← flawed key.name
    match form.put route name value with
    | .ok form => form.fill route closing rest
    | .error failure => .error failure

/-- Takes the values of the fields from the items of an array, in the order of the form. -/
def fillInOrder (route : Route) (closing : Closing) :
    {α : Type} → Form α → List Reading → Except Failure α
  | _, .nil, [] => flawed closing.check
  | _, .nil, _ :: _ => .error (surplus route)
  | _, .field _ codec _ _ rest, item :: items => do
    let value ← codec.decode route item
    return (value, ← rest.fillInOrder route closing items)
  | _, .field _ _ fallback _ rest, [] => do
    flawed closing.check
    match fallback with
    | some value => return (value, ← rest.fillInOrder route closing [])
    | none => .error (.misfit .wrongLength)

/-- The fields as an object. -/
def decodeObject (route : Route) {α : Type} (form : Form α) : Reading → Except Failure α
  | .object members closing => form.fill route closing members
  | other => .error (wrongKind other)

/-- The fields as an array. -/
def decodeArray (route : Route) {α : Type} (form : Form α) : Reading → Except Failure α
  | .array items closing => form.fillInOrder route closing items
  | other => .error (wrongKind other)

/-- The fields as an object or as an array. -/
def decode (route : Route) {α : Type} (form : Form α) : Reading → Except Failure α
  | .array items closing => form.fillInOrder route closing items
  | other => form.decodeObject route other

end Form

namespace Codec

/-- A record with the fields of a form, written as an object. -/
def record {α β : Type} (form : Form α) (make : α → β) (fields : β → α) : Codec β where
  encode b := .object (form.members (fields b))
  decode route reading := (form.decode route reading).map make

/-- A record written as an array of its fields. -/
def tuple {α β : Type} (form : Form α) (make : α → β) (fields : β → α) : Codec β where
  encode b := .array ((form.members (fields b)).map Prod.snd)
  decode route reading := (form.decodeArray route reading).map make

end Codec

end Labyrinth.Json
