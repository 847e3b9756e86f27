import DevfilePush.Text.Integer
import DevfilePush.Yaml.Token
import DevfilePush.Yaml.Token.Cursor

/-!
Scalars: plain, quoted and block text.

All forms fold line ends: a single one between two words is a space, of several in
a row the first is dropped and the others are kept.
-/

namespace DevfilePush.Yaml.Scan

/-- Blanks and line ends met between two words. -/
structure Gap where
  /-- The blanks, while no line has ended. -/
  blanks : List Char
  /-- The first line end. -/
  first : List Char
  /-- The line ends after the first. -/
  later : List Char
  /-- Whether a line has ended. -/
  broken : Bool

/-- No blanks and no line end. -/
def Gap.none : Gap := ⟨[], [], [], false⟩

/-- What a gap adds to the text of a scalar. -/
def Gap.text (gap : Gap) : List Char :=
  if gap.broken then
    if gap.first = ['\n'] then (if gap.later.isEmpty then [' '] else gap.later)
    else gap.first ++ gap.later
  else gap.blanks

/-- Reads blanks and line ends. After a line end, a tab left of `indent` is refused. -/
def takeGap (indent : Option Nat) : Nat → Gap → Scan Gap
  | 0, gap => return gap
  | fuel + 1, gap => do
    match ← peek with
    | some c =>
      if isSpaceOrTab c then
        match indent with
        | some column =>
          if gap.broken && (← get).column < column && c = '\t' then failure
        | .none => pure ()
        skip 1
        takeGap indent fuel (if gap.broken then gap else { gap with blanks := gap.blanks ++ [c] })
      else if isBreak c then
        let lineEnd ← takeLineEnd
        takeGap indent fuel
          (if gap.broken then { gap with later := gap.later ++ lineEnd }
            else { gap with blanks := [], first := lineEnd, broken := true })
      else return gap
    | .none => return gap

/-! ### Quoted scalars -/

/-- The character of a one-letter escape. -/
def escapedChar? (c : Char) : Option Char :=
  match c with
  | '0' => some '\u0000'
  | 'a' => some '\x07'
  | 'b' => some '\x08'
  | 't' => some '\t'
  | '\t' => some '\t'
  | 'n' => some '\n'
  | 'v' => some '\x0b'
  | 'f' => some '\x0c'
  | 'r' => some '\r'
  | 'e' => some '\x1b'
  | ' ' => some ' '
  | '"' => some '"'
  | '/' => some '/'
  | '\\' => some '\\'
  | 'N' => some '\u0085'
  | '_' => some '\u00a0'
  | 'L' => some '\u2028'
  | 'P' => some '\u2029'
  | _ => none

/-- The number of digits of a numeric escape. -/
def escapeDigits? (c : Char) : Option Nat :=
  match c with
  | 'x' => some 2
  | 'u' => some 4
  | 'U' => some 8
  | _ => none

/-- Reads an escape, from the backslash on. -/
def takeEscape : Scan Char := do
  match ← peekAt 1 with
  | none => failure
  | some c =>
    skip 2
    match escapedChar? c, escapeDigits? c with
    | some escaped, _ => return escaped
    | none, some count =>
      let digits := (← get).rest.take count
      require (digits.length = count)
      match Text.Integer.natOfDigits? 16 digits with
      | none => failure
      | some n =>
        require (n.isValidChar)
        skip count
        return Char.ofNat n
    | none, none => failure

/-- The characters of one word of a quoted scalar. The flag tells that the word ends
in an escaped line end. -/
def takeQuotedWord (double : Bool) : Nat → Scan (List Char × Bool)
  | 0 => return ([], false)
  | fuel + 1 => do
    let here ← peek
    let next ← peekAt 1
    match here with
    | none => return ([], false)
    | some c =>
      if endsWord here then return ([], false)
      else if !double && c = '\'' && next = some '\'' then
        skip 2
        let (others, joined) ← takeQuotedWord double fuel
        return ('\'' :: others, joined)
      else if c = (if double then '"' else '\'') then return ([], false)
      else if double && c = '\\' && next.any isBreak then
        skip 1
        let _ ← takeLineEnd
        return ([], true)
      else if double && c = '\\' then
        let escaped ← takeEscape
        let (others, joined) ← takeQuotedWord double fuel
        return (escaped :: others, joined)
      else
        skip 1
        let (others, joined) ← takeQuotedWord double fuel
        return (c :: others, joined)

/-- The words of a quoted scalar up to the closing quote. -/
def takeQuotedWords (double : Bool) : Nat → Scan (List Char)
  | 0 => failure
  | fuel + 1 => do
    require (!(← get).atDocumentMarker)
    require (← peek).isSome
    let (word, joined) ← takeQuotedWord double (← Scan.fuel)
    if (← peek) = some (if double then '"' else '\'') then return word
    let gap ← takeGap none (← Scan.fuel) { Gap.none with broken := joined }
    let others ← takeQuotedWords double fuel
    return word ++ gap.text ++ others

/-- A quoted scalar, from its opening quote on. -/
def takeQuoted (double : Bool) : Scan Token := do
  skip 1
  let text ← takeQuotedWords double (← fuel)
  skip 1
  return .scalar (if double then .doubleQuoted else .singleQuoted) (String.ofList text)

/-! ### Plain scalars -/

/-- Whether a plain scalar in a flow collection (`flow`) or a block ends here. -/
def endsPlain (flow : Bool) (here next : Option Char) : Bool :=
  (here = some ':' && endsWord next) || (flow && here.any isFlowIndicator)

/-- The characters of one word of a plain scalar. -/
def takePlainWord (flow : Bool) : Nat → Scan (List Char)
  | 0 => return []
  | fuel + 1 => do
    let here ← peek
    let next ← peekAt 1
    match here with
    | none => return []
    | some c =>
      if endsWord here then return []
      require (!(flow && c = ':' && next.any fun d => isFlowIndicator d || d = '?'))
      if endsPlain flow here next then return []
      skip 1
      return c :: (← takePlainWord flow fuel)

/-- The words of a plain scalar after the gap `gap`, down to `indent`. The flag tells
that the scalar ended with a line. -/
def takePlainWords (flow : Bool) (indent : Nat) : Nat → Gap → Scan (List Char × Bool)
  | 0, gap => return ([], gap.broken)
  | fuel + 1, gap => do
    if (← get).atDocumentMarker || (← peek) = some '#' then return ([], gap.broken)
    let word ← takePlainWord flow (← Scan.fuel)
    let before := if word.isEmpty then [] else gap.text
    let kept := if word.isEmpty then gap else Gap.none
    match ← peek with
    | none => return (before ++ word, kept.broken)
    | some c =>
      if !(isSpaceOrTab c || isBreak c) then return (before ++ word, kept.broken)
      let after ← takeGap (some indent) (← Scan.fuel) kept
      if !flow && (← get).column < indent then return (before ++ word, after.broken)
      let (others, ended) ← takePlainWords flow indent fuel after
      return (before ++ word ++ others, ended)

/-- A plain scalar. The flag tells that it ended with a line. -/
def takePlain (flow : Bool) (indent : Nat) : Scan (Token × Bool) := do
  let (text, ended) ← takePlainWords flow indent (← fuel) Gap.none
  return (.scalar .plain (String.ofList text), ended)

/-! ### Block scalars -/

/-- What becomes of the line ends after the last line of a block scalar. -/
inductive Chomping where
  | clip
  | strip
  | keep
  deriving DecidableEq, Repr

/-- The chomping indicator, if it is here. -/
def takeChomping : Scan (Option Chomping) := do
  match ← peek with
  | some '+' => skip 1; return some .keep
  | some '-' => skip 1; return some .strip
  | _ => return none

/-- The indentation indicator, if it is here. -/
def takeIndentIndicator : Scan (Option Nat) := do
  match ← peek with
  | some c =>
    if c.isDigit then
      require (c ≠ '0')
      skip 1
      return some (c.toNat - '0'.toNat)
    return none
  | none => return none

/-- The indicators of a block scalar in either order. -/
def takeBlockHeader : Scan (Chomping × Option Nat) := do
  match ← takeChomping with
  | some chomping => return (chomping, ← takeIndentIndicator)
  | none =>
    match ← takeIndentIndicator with
    | none => return (.clip, none)
    | some indent => return ((← takeChomping).getD .clip, some indent)

/-- Reads line ends and the indentation of the lines between them. While `indent` is
open, every space counts and the deepest column reached is returned. -/
def takeIndentation (indent : Option Nat) : Nat → Nat → Scan (List Char × Nat)
  | 0, deepest => return ([], deepest)
  | fuel + 1, deepest => do
    let place ← get
    let spaces := (place.rest.takeWhile (· = ' ')).length
    let inside := match indent with
      | none => spaces
      | some column => min spaces (column - place.column)
    skip inside
    let place ← get
    let deepest := max deepest place.column
    let left := match indent with
      | none => true
      | some column => place.column < column
    require (!(left && place.rest.head? = some '\t'))
    if place.rest.head?.any isBreak then
      let lineEnd ← takeLineEnd
      let (others, deepest) ← takeIndentation indent fuel deepest
      return (lineEnd ++ others, deepest)
    return ([], deepest)

/-- The lines of a block scalar at `indent`, after a line end `pending` and the empty
lines `empty`. Returns the text without its last line end, then that line end and the
empty lines after it. -/
def takeBlockLines (folded : Bool) (indent : Nat) :
    Nat → Bool → List Char → List Char → Scan (List Char × List Char × List Char)
  | 0, _, pending, empty => return ([], pending, empty)
  | fuel + 1, afterBlank, pending, empty => do
    let place ← get
    if place.column ≠ indent || place.rest.isEmpty then return ([], pending, empty)
    let startsBlank := place.rest.head?.any isSpaceOrTab
    let joined :=
      if folded && pending = ['\n'] && !afterBlank && !startsBlank then
        (if empty.isEmpty then [' '] else [])
      else pending
    let line ← takeWhile fun c => !isBreak c
    let lineEnd ← takeLineEnd
    let (blankLines, _) ← takeIndentation (some indent) (← Scan.fuel) 0
    let (others, last, trailing) ← takeBlockLines folded indent fuel startsBlank lineEnd blankLines
    return (joined ++ empty ++ line ++ others, last, trailing)

/-- A block scalar, from its indicator on, in a block at `outer` (-1 outside of any). -/
def takeBlockScalar (folded : Bool) (outer : Int) : Scan Token := do
  skip 1
  let (chomping, indicated) ← takeBlockHeader
  skipBlanks
  skipComment
  require (endsLine (← peek))
  let _ ← takeLineEnd
  let fixed := indicated.map fun n => if 0 ≤ outer then outer.toNat + n else n
  let (blankLines, deepest) ← takeIndentation fixed (← fuel) 0
  let indent := fixed.getD (max deepest (max (outer + 1).toNat 1))
  let (text, last, trailing) ← takeBlockLines folded indent (← fuel) false [] blankLines
  let ending := match chomping with
    | .strip => []
    | .clip => last
    | .keep => last ++ trailing
  return .scalar (if folded then .folded else .literal) (String.ofList (text ++ ending))

end DevfilePush.Yaml.Scan
