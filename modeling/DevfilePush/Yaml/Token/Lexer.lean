import DevfilePush.Yaml.Token.Scalar
import DevfilePush.Yaml.Token.Tag

/-!
Cutting a YAML text into tokens.

Whether a scalar or a collection is the key of a mapping shows only when the colon
after it is met, so each place where a key may have begun is remembered
(`PossibleKey`), and the tokens that a key needs are put in there afterwards. A
token is therefore handed on only when no key can begin before it any more, and
when the text turns out to be no YAML, the tokens still held back are lost: `tokens`
says exactly which ones a reader gets to see.
-/

namespace DevfilePush.Yaml

/-- A place where the key of a mapping may have begun. -/
structure PossibleKey where
  /-- Whether the indentation allows nothing but a key here. -/
  required : Bool
  /-- The number of the token that would be the key. -/
  number : Nat
  index : Nat
  line : Nat
  column : Nat
  deriving Repr

/-- The text still to be cut and the tokens cut so far. -/
structure Lexer where
  cursor : Cursor
  /-- The tokens cut so far, latest first. -/
  made : List Token
  count : Nat
  /-- The column of the innermost block collection, -1 outside of any. -/
  indent : Int
  /-- The columns of the collections around it. -/
  outerIndents : List Int
  /-- The possible key at the current level. -/
  key : Option PossibleKey
  /-- The possible keys at the levels around it, one for each open flow collection. -/
  outerKeys : List (Option PossibleKey)
  keyAllowed : Bool
  /-- Whether the end of the text has been reached. -/
  ended : Bool

/-- Cutting tokens. -/
abbrev Lex := StateT Lexer Option

namespace Lexer

/-- The lexer at the start of a text. -/
def start (text : List Char) : Lexer :=
  { cursor := Cursor.start text
    made := []
    count := 0
    indent := -1
    outerIndents := []
    key := none
    outerKeys := []
    keyAllowed := true
    ended := false }

/-- Whether the place is inside a flow collection. -/
def inFlow (lexer : Lexer) : Bool :=
  !lexer.outerKeys.isEmpty

/-- Adds a token after those that there are. -/
def push (token : Token) : Lex Unit :=
  modify fun lexer => { lexer with made := token :: lexer.made, count := lexer.count + 1 }

/-- Puts a token in before the token with the given number. -/
def pushAt (number : Nat) (token : Token) : Lex Unit :=
  modify fun lexer =>
    let after := lexer.count - number
    { lexer with
      made := lexer.made.take after ++ token :: lexer.made.drop after
      count := lexer.count + 1 }

/-- Reads from the text. -/
def scan {α : Type} (reading : Scan α) : Lex α := do
  let lexer ← get
  let (result, cursor) ← reading.run lexer.cursor
  set { lexer with cursor := cursor }
  return result

/-- Refuses the text unless `condition` holds. -/
def require (condition : Bool) : Lex Unit :=
  if condition then pure () else failure

def allowKey (allowed : Bool) : Lex Unit :=
  modify fun lexer => { lexer with keyAllowed := allowed }

/-! ### Possible keys -/

/-- A possible key lies on the current line and at most 1024 characters back. -/
def PossibleKey.isStale (place : Cursor) (key : PossibleKey) : Bool :=
  key.line < place.line || key.index + 1024 < place.index

/-- A key that is not stale; a stale one that is required is an error. -/
def PossibleKey.refresh (place : Cursor) : Option PossibleKey → Option (Option PossibleKey)
  | none => some none
  | some key =>
    if PossibleKey.isStale place key then (if key.required then none else some none)
    else some (some key)

/-- Forgets the keys that have become stale. -/
def forgetStaleKeys : Lex Unit := do
  let lexer ← get
  let outer ← (lexer.outerKeys.reverse.mapM (PossibleKey.refresh lexer.cursor) : Option _)
  let key ← (PossibleKey.refresh lexer.cursor lexer.key : Option _)
  set { lexer with key := key, outerKeys := outer.reverse }

/-- Forgets the key at the current level; one that is required is an error. -/
def forgetKey : Lex Unit := do
  let lexer ← get
  require (!lexer.key.any (·.required))
  set { lexer with key := none }

/-- Notes that the next token may begin a key. -/
def noteKey : Lex Unit := do
  if (← get).keyAllowed then
    forgetKey
    modify fun lexer =>
      let place := lexer.cursor
      { lexer with
        key := some
          { required := !lexer.inFlow && lexer.indent = place.column
            number := lexer.count
            index := place.index
            line := place.line
            column := place.column } }

/-! ### Indentation -/

/-- Opens a block collection at `column` if it lies deeper than the current one; its
token goes before the token `number`. -/
def openBlock (column number : Nat) (token : Token) : Lex Unit := do
  let lexer ← get
  if !lexer.inFlow && lexer.indent < column then
    set { lexer with indent := column, outerIndents := lexer.indent :: lexer.outerIndents }
    pushAt number token

/-- The collections to close when the text continues at `column`, and the ones that
stay open. -/
def closing (column indent : Int) : List Int → Nat × Int × List Int
  | [] => (0, indent, [])
  | outer :: rest =>
    if column < indent then
      let (closed, inner, others) := closing column outer rest
      (closed + 1, inner, others)
    else (0, indent, outer :: rest)

/-- Closes the block collections deeper than `column`. -/
def closeBlocks (column : Int) : Lex Unit := do
  let lexer ← get
  if !lexer.inFlow then
    let (closed, indent, outer) := closing column lexer.indent lexer.outerIndents
    set
      { lexer with
        indent := indent
        outerIndents := outer
        made := List.replicate closed Token.blockEnd ++ lexer.made
        count := lexer.count + closed }

/-! ### One token -/

/-- Passes over blanks, comments and line ends. A tab is no indentation: it is passed
over only where no block structure can begin. -/
def skipToToken : Nat → Lex Unit
  | 0 => pure ()
  | fuel + 1 => do
    let lexer ← get
    if lexer.cursor.column = 0 && lexer.cursor.rest.head? = some byteOrderMark then
      scan (Scan.skip 1)
    let tabs := lexer.inFlow || !lexer.keyAllowed
    let _ ← scan (Scan.takeWhile fun c => c = ' ' || (tabs && c = '\t'))
    scan Scan.skipComment
    if (← get).cursor.rest.head?.any isBreak then
      let _ ← scan Scan.takeLineEnd
      if !lexer.inFlow then allowKey true
      skipToToken fuel

/-- Ends the text. -/
def lexEnd : Lex Unit := do
  closeBlocks (-1)
  forgetKey
  allowKey false
  push .streamEnd
  modify fun lexer => { lexer with ended := true }

/-- A token at the start of a line that closes every block. -/
def lexOutside (token : Scan Token) : Lex Unit := do
  closeBlocks (-1)
  forgetKey
  allowKey false
  push (← scan token)

def lexFlowStart (token : Token) : Lex Unit := do
  noteKey
  modify fun lexer => { lexer with key := none, outerKeys := lexer.key :: lexer.outerKeys }
  allowKey true
  scan (Scan.skip 1)
  push token

def lexFlowEnd (token : Token) : Lex Unit := do
  forgetKey
  modify fun lexer => match lexer.outerKeys with
    | [] => lexer
    | outer :: rest => { lexer with key := outer, outerKeys := rest }
  allowKey false
  scan (Scan.skip 1)
  push token

def lexFlowEntry : Lex Unit := do
  forgetKey
  allowKey true
  scan (Scan.skip 1)
  push .flowEntry

/-- Opens a block collection here, if the place is outside of flow collections and
allows one. -/
def openBlockHere (token : Token) : Lex Unit := do
  let lexer ← get
  if !lexer.inFlow then
    require lexer.keyAllowed
    openBlock lexer.cursor.column lexer.count token

def lexBlockEntry : Lex Unit := do
  openBlockHere .blockSequenceStart
  forgetKey
  allowKey true
  scan (Scan.skip 1)
  push .blockEntry

def lexKey : Lex Unit := do
  openBlockHere .blockMappingStart
  forgetKey
  allowKey (!(← get).inFlow)
  scan (Scan.skip 1)
  push .key

def lexValue : Lex Unit := do
  match (← get).key with
  | some key =>
    pushAt key.number .key
    openBlock key.column key.number .blockMappingStart
    modify fun lexer => { lexer with key := none }
    allowKey false
  | none =>
    openBlockHere .blockMappingStart
    allowKey (!(← get).inFlow)
  scan (Scan.skip 1)
  push .value

/-- A token that may be a key. -/
def lexContent (token : Scan Token) : Lex Unit := do
  noteKey
  allowKey false
  push (← scan token)

def lexPlain : Lex Unit := do
  noteKey
  allowKey false
  let lexer ← get
  let (token, ended) ← scan (Scan.takePlain lexer.inFlow (lexer.indent + 1).toNat)
  if ended then allowKey true
  push token

def lexBlockScalar (folded : Bool) : Lex Unit := do
  forgetKey
  allowKey true
  push (← scan (Scan.takeBlockScalar folded (← get).indent))

/-- A token whose text is known, three characters long. -/
def marker (token : Token) : Scan Token := do
  Scan.skip 3
  return token

/-- Whether a plain scalar may start with `c`, followed by `next`. -/
def startsPlain (flow : Bool) (c : Char) (next : Option Char) : Bool :=
  !(isIndicator c || endsWord (some c)) || (c = '-' && !next.any isSpaceOrTab) ||
    (!flow && (c = '?' || c = ':') && !endsWord next)

/-- Cuts the next token, together with the block ends before it. -/
def lexNext : Lex Unit := do
  skipToToken ((← get).cursor.rest.length + 1)
  forgetStaleKeys
  closeBlocks (← get).cursor.column
  let lexer ← get
  let place := lexer.cursor
  let flow := lexer.inFlow
  let next := place.peekAt 1
  match place.rest with
  | [] => lexEnd
  | c :: _ =>
    if place.column = 0 && c = '%' then lexOutside Scan.takeDirective
    else if place.atMarker '-' then lexOutside (marker .documentStart)
    else if place.atMarker '.' then lexOutside (marker .documentEnd)
    else if c = '[' then lexFlowStart .flowSequenceStart
    else if c = '\x7b' then lexFlowStart .flowMappingStart
    else if c = ']' then lexFlowEnd .flowSequenceEnd
    else if c = '\x7d' then lexFlowEnd .flowMappingEnd
    else if c = ',' then lexFlowEntry
    else if c = '-' && endsWord next then lexBlockEntry
    else if c = '?' && (flow || endsWord next) then lexKey
    else if c = ':' && (flow || endsWord next) then lexValue
    else if c = '*' then lexContent (return .alias (← Scan.takeAnchorName))
    else if c = '&' then lexContent (return .anchor (← Scan.takeAnchorName))
    else if c = '!' then lexContent (Scan.takeTag flow)
    else if c = '|' && !flow then lexBlockScalar false
    else if c = '>' && !flow then lexBlockScalar true
    else if c = '\'' then lexContent (Scan.takeQuoted false)
    else if c = '"' then lexContent (Scan.takeQuoted true)
    else if startsPlain flow c next then lexPlain
    else failure

/-! ### All tokens -/

/-- Whether a possible key begins at the token `number`. -/
def mayBeKey (lexer : Lexer) (number : Nat) : Bool :=
  (lexer.key :: lexer.outerKeys).any fun key => key.any (·.number = number)

/-- The number of tokens handed on, once `handed` of them are, and the lexer then. -/
def run : Nat → Nat → Lexer → Nat × Lexer
  | 0, handed, lexer => (handed, lexer)
  | fuel + 1, handed, lexer =>
    if handed < lexer.count then
      match forgetStaleKeys.run lexer with
      | none => (handed, lexer)
      | some ((), lexer) =>
        if lexer.mayBeKey handed then
          match lexNext.run lexer with
          | none => (handed, lexer)
          | some ((), lexer) => run fuel handed lexer
        else run fuel (handed + 1) lexer
    else if lexer.ended then (handed, lexer)
    else match lexNext.run lexer with
      | none => (handed, lexer)
      | some ((), lexer) => run fuel handed lexer

end Lexer

/-- The tokens that a reader of `text` gets. They end with `Token.streamEnd` unless
the text is no YAML. -/
def tokens (text : String) : List Token :=
  let chars := text.toList
  if chars.all isReadable then
    let (handed, lexer) := Lexer.run (8 * chars.length + 16) 0 (Lexer.start chars)
    lexer.made.reverse.take handed
  else []

end DevfilePush.Yaml
