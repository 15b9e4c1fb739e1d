import Labyrinth.Json.Codec.Choice
import Labyrinth.Json.Codec.Document
import Labyrinth.Verdict

/-!
# The JSON forms of the language

Every type that crosses the border has one codec here. A field stands in the order in which it is
written. A layout is checked like a drawn one once its fields are read, and limits fall back on their
defaults field by field.
-/

namespace Labyrinth.Wire

open Json (Codec Form Value Variant)

/-- The field of a name, not given yet. -/
def required {α β : Type} (name : String) (codec : Codec α) (rest : Form β) : Form (α × β) :=
  .field name codec none none rest

/-- The field of a name, not given yet, with a value to fall back on. -/
def optional {α β : Type} (name : String) (codec : Codec α) (fallback : α) (rest : Form β) :
    Form (α × β) :=
  .field name codec (some fallback) none rest

/-- The value of a variant that holds something: an object with one member. -/
def tagged (name : String) (content : Value) : Value := .object [(name, content)]

/-! ### Grid and layout -/

def tile : Codec Tile := .named Tile.all Tile.name

def heading : Codec Heading := .named Heading.all Heading.name

/-- A cell is the array of its column and its row. -/
def cell : Codec Cell :=
  .tuple (required "column" .coordinate <| required "row" .coordinate .nil)
    (fun (column, row, ()) => ⟨column, row⟩) (fun cell => (cell.column, cell.row, ()))

def robot : Codec Robot :=
  .record (required "position" cell <| required "orientation" heading .nil)
    (fun (position, heading, ()) => ⟨position, heading⟩) (fun r => (r.position, r.heading, ()))

/-- The fields of a layout, before they are checked. -/
def layoutFields : Codec Layout :=
  .record
    (required "width" .count <| required "height" .count <| required "tiles" (.list tile) <|
      required "start" robot <| required "goal" cell .nil)
    (fun (width, height, tiles, start, goal, ()) => ⟨width, height, tiles.toArray, start, goal⟩)
    (fun layout =>
      (layout.width, layout.height, layout.tiles.toList, layout.start, layout.goal, ()))

def layout : Codec Layout :=
  layoutFields.refine fun layout => layout.checked.mapError LayoutError.message

/-! ### Programs and runs -/

def moveResult : Codec MoveResult := .named MoveResult.all MoveResult.name

def instruction : Codec Instruction :=
  .choice
    [("Forward", .plain (.move .forward)),
     ("Backward", .plain (.move .backward)),
     ("TurnLeft", .plain (.move .turnLeft)),
     ("TurnRight", .plain (.move .turnRight)),
     ("Jump", .holding .count .jump),
     ("JumpIfWall", .holding .count (.jumpIf .wall)),
     ("JumpIfNotWall", .holding .count (.jumpIf .free))]
    fun i =>
      match i.target? with
      | none => .text i.name
      | some target => tagged i.name (Codec.count.encode target)

def program : Codec Program :=
  .record (required "instructions" (.list instruction) .nil)
    (fun (instructions, ()) => ⟨instructions⟩) (fun program => (program.instructions, ()))

def outcome : Codec Outcome := .named Outcome.all Outcome.name

def report : Codec Report :=
  .record (required "outcome" outcome <| required "steps" .count <| required "robot" robot .nil)
    (fun (outcome, steps, robot, ()) => ⟨outcome, steps, robot⟩)
    (fun report => (report.outcome, report.steps, report.robot, ()))

/-! ### Texts and verdicts -/

def shape : Codec Shape := .named Shape.all Shape.name

def disallowedFields : Form (Char × Nat × Unit) :=
  required "character" .character <| required "position" .count .nil

def tooLongFields : Form (Nat × Nat × Unit) :=
  required "length" .count <| required "limit" .count .nil

def rejection : Codec Rejection :=
  .choice
    [("DisallowedCharacter",
        .fields disallowedFields fun (character, position, ()) => .disallowed character position),
     ("TooLong", .fields tooLongFields fun (length, limit, ()) => .tooLong length limit),
     ("Syntax", .holding shape .malformed)]
    fun
      | .disallowed character position =>
        tagged "DisallowedCharacter" (.object (disallowedFields.members (character, position, ())))
      | .tooLong length limit =>
        tagged "TooLong" (.object (tooLongFields.members (length, limit, ())))
      | .malformed s => tagged "Syntax" (shape.encode s)

def completedFields : Form (Report × Bool × Unit) :=
  required "report" report <| required "unused_anchor" .bool .nil

def verdict : Codec Verdict :=
  .choice
    [("Rejected", .holding rejection .rejected),
     ("Completed",
        .fields completedFields fun (report, unusedAnchor, ()) => .completed report unusedAnchor)]
    fun
      | .rejected reason => tagged "Rejected" (rejection.encode reason)
      | .completed report unusedAnchor =>
        tagged "Completed" (.object (completedFields.members (report, unusedAnchor, ())))

/-! ### Limits -/

def limits : Codec Limits :=
  .record
    (optional "max_source_len" .count ({} : Limits).sourceLength <|
      optional "step_limit" .count ({} : Limits).steps .nil)
    (fun (sourceLength, steps, ()) => ⟨sourceLength, steps⟩)
    (fun limits => (limits.sourceLength, limits.steps, ()))

/-- Why limits could not be loaded. -/
inductive LoadError where
  | unreadable (failure : Json.Failure)
  | unfit (error : LimitsError)
  deriving DecidableEq

/-- What is said of limits that could not be loaded; a flaw of the text is not put into words. -/
def LoadError.message? : LoadError → Option String
  | .unreadable (.flaw _) => none
  | .unreadable (.misfit misfit) => some ("config is not valid JSON: " ++ misfit.message)
  | .unfit error => some error.message

/-- Loads limits fit for use. -/
def loadLimits (text : List Char) : Except LoadError Limits :=
  match limits.decodeText .inOrder text with
  | .error failure => .error (.unreadable failure)
  | .ok limits =>
    match limits.checked with
    | .error error => .error (.unfit error)
    | .ok limits => .ok limits

end Labyrinth.Wire
