/-!
Blank characters and the edges of a text.

`isBlank` is the property `White_Space`. `trim` takes blanks off both ends, and
`dropTrailing` takes any class of characters off the end.
-/

namespace DevfilePush.Text

/-- A character with the property `White_Space`. -/
def isBlank (c : Char) : Bool :=
  c = ' ' || (0x9 ≤ c.toNat && c.toNat ≤ 0xD) || c.toNat = 0x85 || c.toNat = 0xA0 ||
    c.toNat = 0x1680 || (0x2000 ≤ c.toNat && c.toNat ≤ 0x200A) || c.toNat = 0x2028 ||
    c.toNat = 0x2029 || c.toNat = 0x202F || c.toNat = 0x205F || c.toNat = 0x3000

/-- `cs` without the longest ending whose characters all satisfy `p`. -/
def dropTrailing (p : Char → Bool) (cs : List Char) : List Char :=
  (cs.reverse.dropWhile p).reverse

/-- The longest ending goes, nothing else: what is left starts the text. -/
theorem dropTrailing_isPrefix (p : Char → Bool) (cs : List Char) :
    dropTrailing p cs <+: cs := by
  have suffix : cs.reverse.dropWhile p <:+ cs.reverse := List.dropWhile_suffix p
  simpa [dropTrailing] using List.reverse_prefix.mpr suffix

/-- `cs` without the blanks at both ends. -/
def trimChars (cs : List Char) : List Char :=
  dropTrailing isBlank (cs.dropWhile isBlank)

/-- `s` without the blanks at both ends. -/
def trim (s : String) : String :=
  String.ofList (trimChars s.toList)

/-- A text made of blanks alone, the empty one included. -/
def isBlankText (s : String) : Bool :=
  s.toList.all isBlank

/-- The texts between the occurrences of `separator`, in order; always at least
one. -/
def pieces (separator : Char) : List Char → List (List Char)
  | [] => [[]]
  | c :: rest =>
    if c = separator then [] :: pieces separator rest
    else match pieces separator rest with
      | [] => [[c]]
      | first :: others => (c :: first) :: others

/-- The text before and the text after the first `separator`. -/
def splitFirst? (separator : Char) : List Char → Option (List Char × List Char)
  | [] => none
  | c :: rest =>
    if c = separator then some ([], rest)
    else (splitFirst? separator rest).map fun parts => (c :: parts.1, parts.2)

end DevfilePush.Text
