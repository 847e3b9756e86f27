import DevfilePush.Json.Basic
import DevfilePush.Text.Integer

/-!
Writing JSON.

`Json.compact` puts a document on one line without blanks; `Json.pretty` gives
every item a line of its own, indented by two spaces a level.
-/

namespace DevfilePush.Json

/-- One character as it stands in a string. -/
def escapedChar (c : Char) : List Char :=
  if c = '"' then ['\\', '"']
  else if c = '\\' then ['\\', '\\']
  else if c = '\n' then ['\\', 'n']
  else if c = '\r' then ['\\', 'r']
  else if c = '\t' then ['\\', 't']
  else if c = '\x08' then ['\\', 'b']
  else if c = '\x0c' then ['\\', 'f']
  else if c.toNat < 0x20 then ['\\', 'u'] ++ Text.Integer.hexPadded 4 c.toNat
  else [c]

/-- A string between its quotes. -/
def quotedChars (s : String) : List Char :=
  '"' :: (s.toList.flatMap escapedChar ++ ['"'])

/-- A document that has no parts. -/
def leafChars : Json → List Char
  | .null => "null".toList
  | .bool true => "true".toList
  | .bool false => "false".toList
  | .integer n => (toString n).toList
  | .decimal literal => literal.toList
  | .string s => quotedChars s
  | .array _ => "[]".toList
  | .object _ => "\x7b\x7d".toList

mutual

/-- A document on one line. -/
def compactChars : Json → List Char
  | .array items => '[' :: (compactItems true items ++ [']'])
  | .object members => '\x7b' :: (compactMembers true members ++ ['\x7d'])
  | leaf => leafChars leaf

/-- The items of an array, with a comma before each but the first. -/
def compactItems (first : Bool) : List Json → List Char
  | [] => []
  | item :: rest => (if first then [] else [',']) ++ compactChars item ++ compactItems false rest

/-- The members of an object, with a comma before each but the first. -/
def compactMembers (first : Bool) : List (String × Json) → List Char
  | [] => []
  | (key, value) :: rest =>
    (if first then [] else [',']) ++ quotedChars key ++ [':'] ++ compactChars value ++
      compactMembers false rest

end

/-- A document on one line, without blanks. -/
def compact (document : Json) : String :=
  String.ofList (compactChars document)

/-- A line break and the indentation of `depth` levels. -/
def lineBreak (depth : Nat) : List Char :=
  '\n' :: List.replicate (2 * depth) ' '

mutual

/-- A document spread over lines; its own first line starts where it stands. -/
def prettyChars (depth : Nat) : Json → List Char
  | .array (item :: rest) =>
    '[' :: (lineBreak (depth + 1) ++ prettyChars (depth + 1) item ++ prettyItems (depth + 1) rest ++
      lineBreak depth ++ [']'])
  | .object ((key, value) :: rest) =>
    '\x7b' :: (lineBreak (depth + 1) ++ quotedChars key ++ [':', ' '] ++
      prettyChars (depth + 1) value ++ prettyMembers (depth + 1) rest ++
      lineBreak depth ++ ['\x7d'])
  | leaf => leafChars leaf

/-- The items after the first. -/
def prettyItems (depth : Nat) : List Json → List Char
  | [] => []
  | item :: rest => ',' :: (lineBreak depth ++ prettyChars depth item ++ prettyItems depth rest)

/-- The members after the first. -/
def prettyMembers (depth : Nat) : List (String × Json) → List Char
  | [] => []
  | (key, value) :: rest =>
    ',' :: (lineBreak depth ++ quotedChars key ++ [':', ' '] ++ prettyChars depth value ++
      prettyMembers depth rest)

end

/-- A document spread over lines, indented by two spaces a level. -/
def pretty (document : Json) : String :=
  String.ofList (prettyChars 0 document)

end DevfilePush.Json
