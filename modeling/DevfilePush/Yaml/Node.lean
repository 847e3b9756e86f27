import DevfilePush.Json.Basic
import DevfilePush.Yaml.Token

/-!
YAML documents as trees.

A place where an anchored node is used again is an `alias`; the document keeps the
anchored nodes in a table, so a node may lie inside itself. A text that is no YAML
still has a document, made of what could be read: `unreadable` stands where it stops
making sense. A reader that never gets there never sees the error.

`Node.ofJson` is the document that JSON text denotes when it is read as YAML.
-/

namespace DevfilePush.Yaml

/-- A node of a document. -/
inductive Node where
  | scalar (style : ScalarStyle) (tag : Option String) (text : String)
  | sequence (items : List Node)
  | mapping (entries : List (Node × Node))
  /-- The node anchored under a number. -/
  | alias (anchor : Nat)
  /-- The text makes no sense from here on. -/
  | unreadable
  deriving Inhabited, Repr

/-- A YAML document. -/
structure Document where
  root : Node
  /-- The node that each anchor number stands for. -/
  anchored : List (Nat × Node)
  /-- The number of scalars, aliases and ends of collections. -/
  size : Nat
  /-- Whether the text holds this document and nothing else. -/
  complete : Bool

namespace Node

/-- A scalar that was left out. -/
def empty : Node :=
  .scalar .plain none ""

mutual

/-- Whether the node could be read to its end. -/
def isReadable : Node → Bool
  | .scalar .. => true
  | .sequence items => areReadable items
  | .mapping entries => haveReadableParts entries
  | .alias _ => true
  | .unreadable => false

def areReadable : List Node → Bool
  | [] => true
  | node :: rest => node.isReadable && areReadable rest

def haveReadableParts : List (Node × Node) → Bool
  | [] => true
  | (key, value) :: rest => key.isReadable && value.isReadable && haveReadableParts rest

end

mutual

/-- The node that JSON text denotes. -/
def ofJson : Json → Node
  | .null => .scalar .plain none "null"
  | .bool true => .scalar .plain none "true"
  | .bool false => .scalar .plain none "false"
  | .integer n => .scalar .plain none (toString n)
  | .decimal literal => .scalar .plain none literal
  | .string s => .scalar .doubleQuoted none s
  | .array items => .sequence (ofJsonItems items)
  | .object members => .mapping (ofJsonMembers members)

def ofJsonItems : List Json → List Node
  | [] => []
  | item :: rest => ofJson item :: ofJsonItems rest

def ofJsonMembers : List (String × Json) → List (Node × Node)
  | [] => []
  | (key, value) :: rest =>
    (.scalar .doubleQuoted none key, ofJson value) :: ofJsonMembers rest

end

end Node

/-- The document that JSON text denotes. -/
def Document.ofJson (document : Json) : Document :=
  ⟨Node.ofJson document, [], 0, true⟩

end DevfilePush.Yaml
