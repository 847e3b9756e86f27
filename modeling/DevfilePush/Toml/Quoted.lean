import DevfilePush.Text.Integer

/-!
The four kinds of quoted text in TOML.

Text stands between double quotes, with escapes, or between single quotes, as it is;
three quotes in place of one allow it to span lines. Every function starts after the
opening quotes and answers the text and what follows the closing ones. Line ends are
line feeds here: whoever reads a document turns a carriage return and line feed into
one first.
-/

namespace DevfilePush.Toml

/-- A blank within a line. -/
def isSpace (c : Char) : Bool :=
  c = ' ' || c = '\t'

/-- A character that may stand within a line as it is: no control character but a tab. -/
def isPlain (c : Char) : Bool :=
  c = '\t' || (0x20 ≤ c.toNat && c.toNat ≠ 0x7F)

def dropSpaces (cs : List Char) : List Char :=
  cs.dropWhile isSpace

/-- Text and what follows it. -/
abbrev Quoted := Option (List Char × List Char)

/-- `c` in front of a quoted text. -/
def Quoted.cons (c : Char) (quoted : Quoted) : Quoted :=
  quoted.map fun (text, rest) => (c :: text, rest)

/-- The character of a one-letter escape. -/
def escaped? : Char → Option Char
  | 'b' => some '\x08'
  | 't' => some '\t'
  | 'n' => some '\n'
  | 'f' => some '\x0c'
  | 'r' => some '\r'
  | '"' => some '"'
  | '\\' => some '\\'
  | _ => none

/-- The character with the code that the digits write. -/
def scalarOfHex? (digits : List Char) : Option Char := do
  let n ← Text.Integer.natOfDigits? 16 digits
  if n.isValidChar then some (Char.ofNat n) else none

/-- Text between double quotes, on one line. -/
def basic : List Char → Quoted
  | '"' :: rest => some ([], rest)
  | '\\' :: 'u' :: a :: b :: c :: d :: rest => do
    Quoted.cons (← scalarOfHex? [a, b, c, d]) (basic rest)
  | '\\' :: 'U' :: a :: b :: c :: d :: e :: f :: g :: h :: rest => do
    Quoted.cons (← scalarOfHex? [a, b, c, d, e, f, g, h]) (basic rest)
  | '\\' :: c :: rest => do Quoted.cons (← escaped? c) (basic rest)
  | c :: rest => if isPlain c then Quoted.cons c (basic rest) else none
  | [] => none

/-- Text between single quotes, on one line. -/
def literal : List Char → Quoted
  | '\'' :: rest => some ([], rest)
  | c :: rest => if isPlain c then Quoted.cons c (literal rest) else none
  | [] => none

/-- The end of a text between three quotes: up to two quotes in front of the closing
ones belong to the text. -/
def closing (quote : Char) (rest : List Char) : List Char × List Char :=
  match rest with
  | a :: b :: rest' =>
    if a = quote then (if b = quote then ([quote, quote], rest') else ([quote], b :: rest'))
    else ([], rest)
  | [a] => if a = quote then ([quote], []) else ([], rest)
  | [] => ([], [])

/-- Whether the rest of a line is blank and another line follows. -/
def endsLine (cs : List Char) : Bool :=
  (dropSpaces cs).head? = some '\n'

/-- Text between three double quotes. A backslash at the end of a line leaves out all
blanks and line ends up to the next character (`trimming`). -/
def basicLines (trimming : Bool) : List Char → Quoted
  | '"' :: '"' :: '"' :: rest => some (closing '"' rest)
  | '\\' :: 'u' :: a :: b :: c :: d :: rest => do
    Quoted.cons (← scalarOfHex? [a, b, c, d]) (basicLines false rest)
  | '\\' :: 'U' :: a :: b :: c :: d :: e :: f :: g :: h :: rest => do
    Quoted.cons (← scalarOfHex? [a, b, c, d, e, f, g, h]) (basicLines false rest)
  | '\\' :: c :: rest =>
    match escaped? c with
    | some d => Quoted.cons d (basicLines false rest)
    | none => if endsLine (c :: rest) then basicLines true rest else none
  | c :: rest =>
    if trimming && (isSpace c || c = '\n') then basicLines true rest
    else if isPlain c || c = '\n' then Quoted.cons c (basicLines false rest)
    else none
  | [] => none

/-- Text between three single quotes. -/
def literalLines : List Char → Quoted
  | '\'' :: '\'' :: '\'' :: rest => some (closing '\'' rest)
  | c :: rest => if isPlain c || c = '\n' then Quoted.cons c (literalLines rest) else none
  | [] => none

/-- `cs` without a line end at its front. -/
def dropLineEnd : List Char → List Char
  | '\n' :: rest => rest
  | cs => cs

/-- A quoted text of any kind, from its opening quote on. -/
def quoted : List Char → Quoted
  | '"' :: '"' :: '"' :: rest => basicLines false (dropLineEnd rest)
  | '"' :: rest => basic rest
  | '\'' :: '\'' :: '\'' :: rest => literalLines (dropLineEnd rest)
  | '\'' :: rest => literal rest
  | _ => none

end DevfilePush.Toml
