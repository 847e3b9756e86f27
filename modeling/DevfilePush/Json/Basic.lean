/-!
JSON documents.

An object keeps its members in the order in which they were written, and a number
that is not a plain integer keeps its literal text, so that a document that is read
and written again does not change.
-/

namespace DevfilePush

/-- A JSON document. -/
inductive Json where
  | null
  | bool (value : Bool)
  | integer (value : Int)
  | decimal (literal : String)
  | string (value : String)
  | array (items : List Json)
  | object (members : List (String × Json))
  deriving Inhabited, Repr, BEq

namespace Json

/-- The value of the last member called `key`. -/
def get? (key : String) : Json → Option Json
  | .object members => (members.reverse.find? fun member => member.1 = key).map (·.2)
  | _ => none

/-- An object of the members that are present, in order. -/
def ofFields (fields : List (String × Option Json)) : Json :=
  .object (fields.filterMap fun field => field.2.map fun value => (field.1, value))

/-- An array of strings. -/
def ofStrings (texts : List String) : Json :=
  .array (texts.map .string)

/-- A string, or null. -/
def ofString? : Option String → Json
  | none => .null
  | some text => .string text

end Json

end DevfilePush
