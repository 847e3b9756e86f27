import DevfilePush.Json.Basic
import DevfilePush.Text.Integer

/-!
Reading JSON.

`Json.read` takes a whole text. A text that ends before its document does is told
apart from one that is wrong, because a reader of a stream has to know whether more
input could have helped.
-/

namespace DevfilePush.Json

/-- Why a text is not a JSON document. -/
inductive Fault where
  /-- The text ends inside the document. -/
  | truncated
  /-- The text is no document, nor the start of one. -/
  | malformed
  deriving DecidableEq, Repr

/-- A blank between tokens. -/
def isSpace (c : Char) : Bool :=
  c = ' ' || c = '\t' || c = '\n' || c = '\r'

def skipSpaces (cs : List Char) : List Char :=
  cs.dropWhile isSpace

/-- `word` at the front of the text. -/
def expect (word : List Char) (cs : List Char) : Except Fault (Unit × List Char) :=
  match word, cs with
  | [], rest => .ok ((), rest)
  | _ :: _, [] => .error .truncated
  | w :: ws, c :: rest => if w = c then expect ws rest else .error .malformed

/-- The value of four hexadecimal digits. -/
def hexUnit : List Char → Except Fault (Nat × List Char)
  | a :: b :: c :: d :: rest =>
    match Text.Integer.natOfDigits? 16 [a, b, c, d] with
    | some n => .ok (n, rest)
    | none => .error .malformed
  | cs => if cs.all fun c => (Text.Integer.digitOf? 16 c).isSome then .error .truncated
    else .error .malformed

/-- The character of a `\u` escape; a high surrogate takes the low one with it. -/
def unicodeEscape (cs : List Char) : Except Fault (Char × List Char) := do
  let (unit, rest) ← hexUnit cs
  if 0xDC00 ≤ unit ∧ unit ≤ 0xDFFF then throw .malformed
  if 0xD800 ≤ unit ∧ unit ≤ 0xDBFF then
    let ((), rest) ← expect ['\\', 'u'] rest
    let (low, rest) ← hexUnit rest
    if 0xDC00 ≤ low ∧ low ≤ 0xDFFF then
      return (Char.ofNat (0x10000 + (unit - 0xD800) * 0x400 + (low - 0xDC00)), rest)
    throw .malformed
  return (Char.ofNat unit, rest)

/-- The character of an escape, from the character after the backslash on. -/
def escape : List Char → Except Fault (Char × List Char)
  | [] => .error .truncated
  | c :: rest =>
    match c with
    | '"' => .ok ('"', rest)
    | '\\' => .ok ('\\', rest)
    | '/' => .ok ('/', rest)
    | 'b' => .ok ('\x08', rest)
    | 'f' => .ok ('\x0c', rest)
    | 'n' => .ok ('\n', rest)
    | 'r' => .ok ('\r', rest)
    | 't' => .ok ('\t', rest)
    | 'u' => unicodeEscape rest
    | _ => .error .malformed

/-- The characters up to the closing quote; `fuel` bounds their number. -/
def stringChars : Nat → List Char → Except Fault (List Char × List Char)
  | 0, _ => .error .truncated
  | _ + 1, [] => .error .truncated
  | fuel + 1, c :: rest =>
    if c = '"' then .ok ([], rest)
    else if c = '\\' then do
      let (first, rest) ← escape rest
      let (others, rest) ← stringChars fuel rest
      return (first :: others, rest)
    else if c.toNat < 0x20 then .error .malformed
    else do
      let (others, rest) ← stringChars fuel rest
      return (c :: others, rest)

/-- A string, from the character after the opening quote on. -/
def stringBody (cs : List Char) : Except Fault (String × List Char) := do
  let (chars, rest) ← stringChars (cs.length + 1) cs
  return (String.ofList chars, rest)

/-- A non-empty run of digits. -/
def digitRun (cs : List Char) : Except Fault (List Char × List Char) :=
  let digits := cs.takeWhile Char.isDigit
  match digits, cs with
  | [], [] => .error .truncated
  | [], _ => .error .malformed
  | _, _ => .ok (digits, cs.dropWhile Char.isDigit)

/-- The digits before the point: no leading zero. -/
def wholePart (cs : List Char) : Except Fault (List Char × List Char) := do
  let (digits, rest) ← digitRun cs
  match digits with
  | '0' :: _ :: _ => throw .malformed
  | _ => return (digits, rest)

/-- The point and the digits after it, if there is a point. -/
def fractionPart : List Char → Except Fault (List Char × List Char)
  | '.' :: rest => do
    let (digits, rest) ← digitRun rest
    return ('.' :: digits, rest)
  | cs => .ok ([], cs)

/-- The exponent, if there is one. -/
def exponentPart : List Char → Except Fault (List Char × List Char)
  | c :: rest => do
    if c = 'e' ∨ c = 'E' then
      let (sign, rest) := match rest with
        | '+' :: more => (['+'], more)
        | '-' :: more => (['-'], more)
        | _ => ([], rest)
      let (digits, rest) ← digitRun rest
      return (c :: sign ++ digits, rest)
    return ([], c :: rest)
  | [] => .ok ([], [])

/-- A number. -/
def number (cs : List Char) : Except Fault (Json × List Char) := do
  let (negative, rest) := match cs with
    | '-' :: more => (true, more)
    | _ => (false, cs)
  let (whole, rest) ← wholePart rest
  let (fraction, rest) ← fractionPart rest
  let (exponent, rest) ← exponentPart rest
  let sign := if negative then ['-'] else []
  let literal := sign ++ whole ++ fraction ++ exponent
  let isInteger := fun n => !(negative && n = 0) && Text.Integer.fitsEither 64 n
  match (Text.Integer.signed? literal).filter isInteger with
  | some n => return (.integer n, rest)
  | none => return (.decimal (String.ofList literal), rest)

/-- How deep documents may nest. -/
def maxDepth : Nat := 127

mutual

/-- A document at the front of the text. `fuel` bounds the length of the text and
`room` the levels that may still open. -/
def value (fuel room : Nat) (cs : List Char) : Except Fault (Json × List Char) :=
  match fuel with
  | 0 => .error .truncated
  | fuel + 1 =>
    match skipSpaces cs with
    | [] => .error .truncated
    | 'n' :: rest => (expect "ull".toList rest).map fun r => (.null, r.2)
    | 't' :: rest => (expect "rue".toList rest).map fun r => (.bool true, r.2)
    | 'f' :: rest => (expect "alse".toList rest).map fun r => (.bool false, r.2)
    | '"' :: rest => (stringBody rest).map fun r => (.string r.1, r.2)
    | '[' :: rest =>
      match room with
      | 0 => .error .malformed
      | room + 1 =>
        match skipSpaces rest with
        | ']' :: rest => .ok (.array [], rest)
        | rest => (items fuel room rest).map fun r => (.array r.1, r.2)
    | '\x7b' :: rest =>
      match room with
      | 0 => .error .malformed
      | room + 1 =>
        match skipSpaces rest with
        | '\x7d' :: rest => .ok (.object [], rest)
        | rest => (members fuel room rest).map fun r => (.object r.1, r.2)
    | c :: rest =>
      if c = '-' || c.isDigit then number (c :: rest) else .error .malformed

/-- The items of an array, from the first one on. -/
def items (fuel room : Nat) (cs : List Char) : Except Fault (List Json × List Char) :=
  match fuel with
  | 0 => .error .truncated
  | fuel + 1 => do
    let (item, rest) ← value fuel room cs
    match skipSpaces rest with
    | [] => throw .truncated
    | ']' :: rest => return ([item], rest)
    | ',' :: rest =>
      let (others, rest) ← items fuel room rest
      return (item :: others, rest)
    | _ => throw .malformed

/-- The members of an object, from the first one on. -/
def members (fuel room : Nat) (cs : List Char) : Except Fault (List (String × Json) × List Char) :=
  match fuel with
  | 0 => .error .truncated
  | fuel + 1 => do
    match skipSpaces cs with
    | [] => throw .truncated
    | '"' :: rest =>
      let (key, rest) ← stringBody rest
      match skipSpaces rest with
      | [] => throw .truncated
      | ':' :: rest =>
        let (item, rest) ← value fuel room rest
        match skipSpaces rest with
        | [] => throw .truncated
        | '\x7d' :: rest => return ([(key, item)], rest)
        | ',' :: rest =>
          let (others, rest) ← members fuel room rest
          return ((key, item) :: others, rest)
        | _ => throw .malformed
      | _ => throw .malformed
    | _ => throw .malformed

end

/-- The document that a whole text holds. -/
def read (text : String) : Except Fault Json := do
  let cs := text.toList
  let (document, rest) ← value (2 * cs.length + 2) maxDepth cs
  match skipSpaces rest with
  | [] => return document
  | _ => throw .malformed

end DevfilePush.Json
