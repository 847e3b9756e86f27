import DevfilePush.Json.Writer
import DevfilePush.Yaml.Writer.Scalar

/-!
Writing a document as YAML, in block style.

Mappings are indented by two columns a level, lists not at all below the key that they
belong to. An empty list or mapping is written in brackets.
-/

namespace DevfilePush.Yaml

/-- A document that has no parts, with the end of its line. -/
def leafLine (indent : Nat) : Json → List Char
  | .string text => scalarLine indent text
  | leaf => leaf.leafChars ++ ['\n']

mutual

/-- What follows the colon behind a key. -/
def memberLines (indent : Nat) : Json → List Char
  | .object (first :: rest) => '\n' :: mappingLines (indent + 2) false (first :: rest)
  | .array (first :: rest) => '\n' :: listLines indent false (first :: rest)
  | leaf => ' ' :: leafLine (indent + 2) leaf

/-- What follows the dash of an item. -/
def itemLines (indent : Nat) : Json → List Char
  | .object (first :: rest) => ' ' :: mappingLines (indent + 2) true (first :: rest)
  | .array (first :: rest) => ' ' :: listLines (indent + 2) true (first :: rest)
  | leaf => ' ' :: leafLine (indent + 2) leaf

/-- The members of a mapping; the first one may stand in a line that is already
indented (`inline`). -/
def mappingLines (indent : Nat) (inline : Bool) : List (String × Json) → List Char
  | [] => []
  | (key, value) :: rest =>
    (if inline then [] else indentation indent) ++ keyChars key ++
      ':' :: memberLines indent value ++ mappingLines indent false rest

/-- The items of a list; the first one may stand in a line that is already indented
(`inline`). -/
def listLines (indent : Nat) (inline : Bool) : List Json → List Char
  | [] => []
  | item :: rest =>
    (if inline then [] else indentation indent) ++ '-' :: itemLines indent item ++
      listLines indent false rest

end

/-- The lines of a document. -/
def documentLines : Json → List Char
  | .object (first :: rest) => mappingLines 0 false (first :: rest)
  | .array (first :: rest) => listLines 0 false (first :: rest)
  | leaf => leafLine 0 leaf

mutual

/-- The texts in a document, in the order in which they are written. -/
def textsOf : Json → List String
  | .string text => [text]
  | .array items => textsOfItems items
  | .object members => textsOfMembers members
  | _ => []

def textsOfItems : List Json → List String
  | [] => []
  | item :: rest => textsOf item ++ textsOfItems rest

def textsOfMembers : List (String × Json) → List String
  | [] => []
  | (_, value) :: rest => textsOf value ++ textsOfMembers rest

end

/-- Whether the last block of a document keeps its line ends, so that a mark has to say
where the document ends. -/
def isOpenEnded (document : Json) : Bool :=
  let blocks := (textsOf document).filter fun text => ScalarForm.ofText text = .block
  blocks.getLast?.any fun text => Chomping.ofText text.toList = .keep

/-- A document as YAML. -/
def write (document : Json) : String :=
  String.ofList
    (documentLines document ++ (if isOpenEnded document then "...\n".toList else []))

/-- Documents as one text of YAML. -/
def writeAll (documents : List Json) : String :=
  "---\n".intercalate (documents.map write)

end DevfilePush.Yaml
