import DevfilePush.Text.Utf8

/-!
Capturing a program's output line by line.

Bytes are written in pieces of any size and read as lines. A line is handed over
without its line feed and without one carriage return before it; what cannot be decoded
becomes U+FFFD. Closing hands over an unfinished last line.
-/

namespace DevfilePush

/-- The line feeds that end lines. -/
def lineFeed : UInt8 := 10

/-- The complete lines of some bytes, and what follows the last of them. -/
def splitLines : List UInt8 → List (List UInt8) × List UInt8
  | [] => ([], [])
  | b :: rest =>
    match splitLines rest with
    | (lines, tail) =>
      if b = lineFeed then ([] :: lines, tail)
      else match lines with
        | [] => ([], b :: tail)
        | line :: others => ((b :: line) :: others, tail)

/-- The text of a line. -/
def lineText (line : List UInt8) : String :=
  Text.Utf8.decodeLossy (if line.getLast? = some 13 then line.dropLast else line)

/-- Output that is being captured. -/
structure LineCapture where
  /-- The bytes after the last complete line. -/
  pending : List UInt8
  /-- The lines that nobody has taken yet. -/
  lines : List String
  isOpen : Bool
  deriving DecidableEq, Repr

namespace LineCapture

/-- Nothing has been written yet. -/
def empty : LineCapture :=
  ⟨[], [], true⟩

/-- Writes bytes; nothing can be written after closing. -/
def write? (capture : LineCapture) (bytes : List UInt8) : Option LineCapture :=
  if capture.isOpen then
    let (lines, tail) := splitLines (capture.pending ++ bytes)
    some { capture with pending := tail, lines := capture.lines ++ lines.map lineText }
  else none

/-- Ends the output. -/
def close (capture : LineCapture) : LineCapture :=
  { pending := []
    lines :=
      if capture.pending.isEmpty then capture.lines
      else capture.lines ++ [lineText capture.pending]
    isOpen := false }

/-- The next line, and the capture without it. -/
def takeLine? (capture : LineCapture) : Option (String × LineCapture) :=
  match capture.lines with
  | [] => none
  | line :: rest => some (line, { capture with lines := rest })

end LineCapture

/-- The lines of a whole output. -/
def capturedLines (output : List UInt8) : List String :=
  ((LineCapture.empty.write? output).getD .empty).close.lines

end DevfilePush
