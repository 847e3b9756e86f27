/-!
The character classes of YAML.
-/

namespace DevfilePush.Yaml

/-- The character that may stand before a document and counts as nothing. -/
def byteOrderMark : Char := '\ufeff'

/-- A character that a YAML text may hold at all. -/
def isReadable (c : Char) : Bool :=
  let n := c.toNat
  n = 0x9 || n = 0xA || n = 0xD || (0x20 ≤ n && n ≤ 0x7E) || n = 0x85 ||
    (0xA0 ≤ n && n ≤ 0xD7FF) || (0xE000 ≤ n && n ≤ 0xFFFD) || 0x10000 ≤ n

/-- A character that ends a line. -/
def isBreak (c : Char) : Bool :=
  c = '\n' || c = '\r' || c = '\u0085' || c = '\u2028' || c = '\u2029'

/-- A blank inside a line. -/
def isSpaceOrTab (c : Char) : Bool :=
  c = ' ' || c = '\t'

/-- Whether a place in the text, given by the character there, ends a word: a
blank, a line end or the end of the text. -/
def endsWord : Option Char → Bool
  | none => true
  | some c => isSpaceOrTab c || isBreak c

/-- Whether a place in the text ends the line. -/
def endsLine : Option Char → Bool
  | none => true
  | some c => isBreak c

/-- A character of an anchor, a tag handle or a directive's name. -/
def isNameChar (c : Char) : Bool :=
  c.isAlphanum || c = '_' || c = '-'

/-- An indicator of the flow collections. -/
def isFlowIndicator (c : Char) : Bool :=
  c = ',' || c = '[' || c = ']' || c = '\x7b' || c = '\x7d'

/-- A character of a tag; the flow indicators only where `verbatim` is set. -/
def isTagChar (verbatim : Bool) (c : Char) : Bool :=
  isNameChar c || ";/?:@&=+$.%!~*'()".toList.contains c ||
    (verbatim && (c = ',' || c = '[' || c = ']'))

/-- A character that starts no plain scalar. -/
def isIndicator (c : Char) : Bool :=
  "-?:,[]\x7b\x7d#&*!|>'\"%@\x60".toList.contains c

end DevfilePush.Yaml
