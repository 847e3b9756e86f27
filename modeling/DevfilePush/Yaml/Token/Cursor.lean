import DevfilePush.Yaml.Character

/-!
A place in a text: what is left to read, and the line and column reached.

`Scan` is the activity of reading from such a place, which may find the text to be
no YAML. Functions that read an unbounded run take the number of characters left as
their fuel, so they never stop early.
-/

namespace DevfilePush.Yaml

/-- A place in a text. -/
structure Cursor where
  rest : List Char
  index : Nat
  line : Nat
  column : Nat
  deriving Repr

namespace Cursor

/-- The place before the first character. -/
def start (text : List Char) : Cursor :=
  ⟨text, 0, 0, 0⟩

/-- The place `n` characters further on in the same line. -/
def advance (c : Cursor) (n : Nat) : Cursor :=
  ⟨c.rest.drop n, c.index + n, c.line, c.column + n⟩

/-- The place after the line end here; carriage return and line feed are one. -/
def nextLine (c : Cursor) : Cursor :=
  match c.rest with
  | '\r' :: '\n' :: rest => ⟨rest, c.index + 2, c.line + 1, 0⟩
  | _ => ⟨c.rest.drop 1, c.index + 1, c.line + 1, 0⟩

/-- The line end here, as it counts in the text of a scalar. -/
def lineEnd (c : Cursor) : List Char :=
  match c.rest with
  | [] => []
  | '\u2028' :: _ => ['\u2028']
  | '\u2029' :: _ => ['\u2029']
  | _ => ['\n']

/-- The character `n` places on. -/
def peekAt (c : Cursor) (n : Nat) : Option Char :=
  c.rest[n]?

/-- Whether a document marker, three times `mark`, stands here at the start of a
line. -/
def atMarker (mark : Char) (c : Cursor) : Bool :=
  c.column = 0 && c.rest.take 3 = [mark, mark, mark] && endsWord (c.peekAt 3)

/-- Whether either document marker stands here. -/
def atDocumentMarker (c : Cursor) : Bool :=
  c.atMarker '-' || c.atMarker '.'

end Cursor

/-- Reading from a place in a text. -/
abbrev Scan := StateT Cursor Option

namespace Scan

/-- The character here, if the text goes on. -/
def peek : Scan (Option Char) := do
  return (← get).rest.head?

/-- The character `n` places on. -/
def peekAt (n : Nat) : Scan (Option Char) := do
  return (← get).peekAt n

/-- Passes over `n` characters of the line. -/
def skip (n : Nat) : Scan Unit :=
  modify (·.advance n)

/-- Reads a line end. -/
def takeLineEnd : Scan (List Char) := do
  let place ← get
  if place.rest.isEmpty then return []
  set place.nextLine
  return place.lineEnd

/-- Reads the characters of the line that satisfy `p`. -/
def takeWhile (p : Char → Bool) : Scan (List Char) := do
  let run := (← get).rest.takeWhile p
  skip run.length
  return run

/-- Passes over blanks. -/
def skipBlanks : Scan Unit := do
  let _ ← takeWhile isSpaceOrTab

/-- Passes over a comment, up to the line end. -/
def skipComment : Scan Unit := do
  if (← peek) = some '#' then
    let _ ← takeWhile fun c => !isBreak c

/-- Refuses the text unless `condition` holds. -/
def require (condition : Bool) : Scan Unit :=
  if condition then pure () else failure

/-- The number of characters left, as fuel. -/
def fuel : Scan Nat := do
  return (← get).rest.length + 1

end Scan

end DevfilePush.Yaml
