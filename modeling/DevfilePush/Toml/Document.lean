import DevfilePush.Text.Blank
import DevfilePush.Toml.Quoted

/-!
Flat TOML documents: one `key = value` on each line, where a value is text or an
integer, and comments.

That is the part of TOML in which settings can be written. Tables, dotted keys and the
other kinds of values are refused, as is a second value for one key.
-/

namespace DevfilePush.Toml

/-- A value. -/
inductive Value where
  | text (text : String)
  | integer (n : Int)
  deriving DecidableEq, Repr

/-- Values by key, in the order of the document. -/
abbrev Document := List (String × Value)

/-! ### Integers -/

/-- Digits of `base` in groups with single underscores between them. -/
def groupedDigits? (base : Nat) (cs : List Char) : Option Nat :=
  let groups := Text.pieces '_' cs
  if groups.any List.isEmpty then none else Text.Integer.natOfDigits? base groups.flatten

/-- A decimal number without leading zeros. -/
def decimal? (cs : List Char) : Option Nat :=
  if cs.head? = some '0' && cs ≠ ['0'] then none else groupedDigits? 10 cs

/-- An integer of 64 bits: decimal with an optional sign, or hexadecimal, octal or
binary. -/
def integer? (cs : List Char) : Option Int :=
  let number : Option Int := match cs with
    | '0' :: 'x' :: digits => (groupedDigits? 16 digits).map Int.ofNat
    | '0' :: 'o' :: digits => (groupedDigits? 8 digits).map Int.ofNat
    | '0' :: 'b' :: digits => (groupedDigits? 2 digits).map Int.ofNat
    | '+' :: digits => (decimal? digits).map Int.ofNat
    | '-' :: digits => (decimal? digits).map fun n => -Int.ofNat n
    | digits => (decimal? digits).map Int.ofNat
  number.filter (Text.Integer.fitsSigned 64)

/-! ### Lines -/

/-- A character of a key without quotes. -/
def isBareKeyChar (c : Char) : Bool :=
  c.isAlphanum || c = '-' || c = '_'

/-- A key. -/
def key : List Char → Quoted
  | '"' :: rest => basic rest
  | '\'' :: rest => literal rest
  | cs =>
    let name := cs.takeWhile isBareKeyChar
    if name.isEmpty then none else some (name, cs.dropWhile isBareKeyChar)

/-- Whether `c` belongs to a value without quotes. -/
def isValueChar (c : Char) : Bool :=
  !isSpace c && c ≠ '\n' && c ≠ '#'

/-- A value. -/
def value (cs : List Char) : Option (Value × List Char) :=
  match quoted cs with
  | some (text, rest) => some (.text (String.ofList text), rest)
  | none => do
    let n ← integer? (cs.takeWhile isValueChar)
    return (.integer n, cs.dropWhile isValueChar)

/-- What follows the line end here. There may be a comment in front of it, and the last
line needs none. -/
def lineEnd (cs : List Char) : Option (List Char) :=
  let cs := dropSpaces cs
  let cs := if cs.head? = some '#' then cs.dropWhile isPlain else cs
  match cs with
  | [] => some []
  | '\n' :: rest => some rest
  | _ => none

/-- A line with a key and a value, and what follows it. -/
def entry (cs : List Char) : Option ((String × Value) × List Char) := do
  let (name, rest) ← key cs
  match dropSpaces rest with
  | '=' :: rest =>
    let (value, rest) ← value (dropSpaces rest)
    return ((String.ofList name, value), ← lineEnd rest)
  | _ => none

/-- The entries of the lines, at most `fuel` lines of them. -/
def entries : Nat → List Char → Option Document
  | 0, _ => none
  | fuel + 1, cs =>
    match dropSpaces cs with
    | [] => some []
    | cs =>
      match lineEnd cs with
      | some rest => entries fuel rest
      | none => do
        let (first, rest) ← entry cs
        return first :: (← entries fuel rest)

/-! ### Documents -/

/-- The text with line feeds for its line ends. -/
def unifyLineEnds : List Char → List Char
  | '\r' :: '\n' :: rest => '\n' :: unifyLineEnds rest
  | c :: rest => c :: unifyLineEnds rest
  | [] => []

/-- Whether no two entries have the same key. -/
def hasDistinctKeys (document : Document) : Bool :=
  decide (document.map (·.1)).Nodup

/-- The document that a text holds; a byte order mark may stand in front of it. -/
def Document.ofText? (text : String) : Option Document :=
  let cs := unifyLineEnds (match text.toList with
    | '\ufeff' :: rest => rest
    | cs => cs)
  (entries (cs.length + 1) cs).filter hasDistinctKeys

end DevfilePush.Toml
