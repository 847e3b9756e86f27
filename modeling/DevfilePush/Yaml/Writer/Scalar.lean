import DevfilePush.Text.Integer
import DevfilePush.Yaml.Ambiguity
import DevfilePush.Yaml.Character

/-!
Writing text as a YAML scalar.

Text of one line is written plainly where it can be, otherwise between single quotes;
text of several lines is written as a block. Text that none of these can hold, such as
text with control characters, is written between double quotes with escapes.
-/

namespace DevfilePush.Yaml

/-- How a scalar is written. -/
inductive ScalarForm where
  | plain
  | singleQuoted
  | doubleQuoted
  | block
  deriving DecidableEq, Repr

/-! ### What a text can be written as -/

/-- A character that can be written without an escape. -/
def isWritable (c : Char) : Bool :=
  isReadable c && c ≠ '\t' && c ≠ '\r' && c ≠ '\u0085' && c ≠ byteOrderMark

/-- Whether somewhere a character of the first kind stands in front of one of the
second. -/
def hasPair (first second : Char → Bool) : List Char → Bool
  | a :: b :: rest => (first a && second b) || hasPair first second (b :: rest)
  | _ => false

def isSpace (c : Char) : Bool :=
  c = ' '

/-- Whether `c` in front of `next` means something other than text at the start. -/
def opensStructure (c : Char) (next : Option Char) : Bool :=
  if c = '-' || c = '?' || c = ':' then endsWord next else isIndicator c

/-- Whether somewhere after the first character a colon ends a word or a number sign
starts one. -/
def hasInnerIndicator : List Char → Bool
  | a :: b :: rest =>
    (b = ':' && endsWord rest.head?) || (b = '#' && endsWord (some a)) ||
      hasInnerIndicator (b :: rest)
  | _ => false

/-- Whether the text would be taken for something other than text. -/
def hasIndicator (cs : List Char) : Bool :=
  ['-', '-', '-'].isPrefixOf cs || ['.', '.', '.'].isPrefixOf cs ||
    cs.head?.any (fun c => opensStructure c (cs.drop 1).head?) || hasInnerIndicator cs

/-- A blank or line end. -/
def isGap (c : Char) : Bool :=
  isSpace c || isBreak c

/-- Whether the text survives everywhere but between double quotes. -/
def isCalm (cs : List Char) : Bool :=
  cs.all isWritable && !hasPair isSpace isBreak cs

def allowsPlain (cs : List Char) : Bool :=
  isCalm cs && !cs.any isBreak && !cs.head?.any isGap && !cs.getLast?.any isGap &&
    !hasIndicator cs

def allowsSingleQuotes (cs : List Char) : Bool :=
  isCalm cs && !hasPair isBreak isSpace cs

def allowsBlock (cs : List Char) : Bool :=
  isCalm cs && !cs.getLast?.any isSpace

/-- How a text is written. -/
def ScalarForm.ofText (text : String) : ScalarForm :=
  let cs := text.toList
  if cs.contains '\n' then (if allowsBlock cs then block else doubleQuoted)
  else if !Plain.isAmbiguous text && allowsPlain cs then plain
  else if allowsSingleQuotes cs then singleQuoted
  else doubleQuoted

/-! ### Between quotes -/

def indentation (indent : Nat) : List Char :=
  List.replicate indent ' '

/-- The text between single quotes, in which a quote is written twice. A line that
follows a line end is indented. -/
def singleQuotedChars (indent : Nat) (afterBreak : Bool) : List Char → List Char
  | [] => if afterBreak then indentation indent else []
  | c :: rest =>
    if isBreak c then c :: singleQuotedChars indent true rest
    else
      (if afterBreak then indentation indent else []) ++
        (if c = '\'' then ['\'', '\''] else [c]) ++ singleQuotedChars indent false rest

/-- The letter of an escape. -/
def escapeLetter? (c : Char) : Option Char :=
  [('\x00', '0'), ('\x07', 'a'), ('\x08', 'b'), ('\t', 't'), ('\n', 'n'), ('\x0b', 'v'),
    ('\x0c', 'f'), ('\r', 'r'), ('\x1b', 'e'), ('"', '"'), ('\\', '\\'), ('\u0085', 'N'),
    ('\u2028', 'L'), ('\u2029', 'P')].lookup c

/-- The code of a character in `width` hexadecimal digits. -/
def escapeDigits (width : Nat) (c : Char) : List Char :=
  (Text.Integer.hexPadded width c.toNat).map Char.toUpper

/-- A character as it is written between double quotes. -/
def escapedChar (c : Char) : List Char :=
  match escapeLetter? c with
  | some letter => ['\\', letter]
  | none =>
    if isWritable c then [c]
    else if c.toNat ≤ 0xFF then ['\\', 'x'] ++ escapeDigits 2 c
    else if c.toNat ≤ 0xFFFF then ['\\', 'u'] ++ escapeDigits 4 c
    else ['\\', 'U'] ++ escapeDigits 8 c

/-! ### Blocks -/

/-- How the line ends after the last line of a block are kept. -/
inductive Chomping where
  /-- There are none. -/
  | strip
  /-- There is one. -/
  | clip
  /-- There are several, or nothing else. -/
  | keep
  deriving DecidableEq, Repr

def Chomping.ofText (cs : List Char) : Chomping :=
  match cs.reverse with
  | [] => strip
  | [last] => if isBreak last then keep else strip
  | last :: before :: _ =>
    if !isBreak last then strip else if isBreak before then keep else clip

/-- The sign of a chomping behind the sign of the block. -/
def Chomping.sign : Chomping → List Char
  | strip => ['-']
  | clip => []
  | keep => ['+']

/-- The lines of a block: every line that is not empty is indented. -/
def blockChars (indent : Nat) (atStart : Bool) : List Char → List Char
  | [] => []
  | c :: rest =>
    if isBreak c then c :: blockChars indent true rest
    else (if atStart then indentation indent else []) ++ c :: blockChars indent false rest

/-- A block with its first line. The indentation is given where the text itself starts
with a blank or a line end. -/
def block (indent : Nat) (cs : List Char) : List Char :=
  ['|'] ++ (if cs.head?.any isGap then ['2'] else []) ++ (Chomping.ofText cs).sign ++ ['\n'] ++
    blockChars indent true cs ++ (if cs.getLast?.any isBreak then [] else ['\n'])

/-! ### Scalars -/

/-- A text as a scalar, with the end of its last line. Further lines are indented. -/
def scalarLine (indent : Nat) (text : String) : List Char :=
  let cs := text.toList
  match ScalarForm.ofText text with
  | .plain => cs ++ ['\n']
  | .singleQuoted => '\'' :: singleQuotedChars indent false cs ++ ['\'', '\n']
  | .doubleQuoted => '"' :: cs.flatMap escapedChar ++ ['"', '\n']
  | .block => block indent cs

/-- A text as the key of a mapping, on one line. -/
def keyChars (text : String) : List Char :=
  let cs := text.toList
  match ScalarForm.ofText text with
  | .plain => cs
  | .singleQuoted => '\'' :: singleQuotedChars 0 false cs ++ ['\'']
  | _ => '"' :: cs.flatMap escapedChar ++ ['"']

end DevfilePush.Yaml
