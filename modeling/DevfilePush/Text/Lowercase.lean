import DevfilePush.Text.CaseTable

/-!
Full lower case of a text.

Every character is replaced by its lower case form; a capital sigma becomes the
final form `ς` at the end of a word and `σ` elsewhere. Command ids are compared
through `lowercase`, and cluster object names are put into it.
-/

namespace DevfilePush.Text

/-- The lower case form of one character taken by itself. -/
def lowerChar (c : Char) : List Char :=
  if c.toNat < 0x80 then
    [if 'A' ≤ c ∧ c ≤ 'Z' then Char.ofNat (c.toNat + 32) else c]
  else if c = 'İ' then ['i', '\u0307']
  else match lowercaseRuns.findSome? (·.image? c.toNat) with
    | some n => [Char.ofNat n]
    | none => [c]

/-- Whether the first character of `cs` that is not case-ignorable is a cased
letter. -/
def meetsCased (cs : List Char) : Bool :=
  match cs.dropWhile (inRanges caseIgnorableRanges) with
  | [] => false
  | c :: _ => inRanges casedRanges c

/-- Whether a capital sigma between `before` (nearest first) and `after` ends a
word. -/
def endsWord (before after : List Char) : Bool :=
  meetsCased before && !meetsCased after

/-- Lower case of a text whose earlier characters, nearest first, are `before`. -/
def lowerAfter (before : List Char) : List Char → List Char
  | [] => []
  | c :: rest =>
    (if c = 'Σ' then [if endsWord before rest then 'ς' else 'σ'] else lowerChar c) ++
      lowerAfter (c :: before) rest

/-- Lower case of a text. -/
def lowercase (s : String) : String :=
  String.ofList (lowerAfter [] s.toList)

end DevfilePush.Text
