import DevfilePush.Text.Integer
import DevfilePush.Text.Utf8
import DevfilePush.Yaml.Token
import DevfilePush.Yaml.Token.Cursor

/-!
Directives, anchors and tags.
-/

namespace DevfilePush.Yaml.Scan

/-- The bytes of a run of percent escapes and tag characters. -/
def takeTagBytes (verbatim : Bool) : Nat → Scan (List UInt8)
  | 0 => return []
  | fuel + 1 => do
    match ← peek with
    | none => return []
    | some c =>
      if !isTagChar verbatim c then return []
      if c = '%' then
        let digits := ((← get).rest.drop 1).take 2
        require (digits.length = 2)
        match Text.Integer.natOfDigits? 16 digits with
        | none => failure
        | some n =>
          skip 3
          return n.toUInt8 :: (← takeTagBytes verbatim fuel)
      skip 1
      return Text.Utf8.encode (String.singleton c) ++ (← takeTagBytes verbatim fuel)

/-- The text of a tag after the part `before` that was read already. -/
def takeTagText (verbatim : Bool) (before : List Char) : Scan String := do
  let bytes ← takeTagBytes verbatim (← fuel)
  require (!(before.isEmpty && bytes.isEmpty))
  match Text.Utf8.decode? bytes with
  | none => failure
  | some text => return String.ofList (before.drop 1) ++ text

/-- The handle of a tag: `!`, `!!`, or a name between exclamation marks. A directive
accepts no name that is left open. -/
def takeTagHandle (inDirective : Bool) : Scan (List Char) := do
  require ((← peek) = some '!')
  skip 1
  let name ← takeWhile isNameChar
  if (← peek) = some '!' then
    skip 1
    return '!' :: name ++ ['!']
  require (!inDirective || name.isEmpty)
  return '!' :: name

/-- A tag, from its exclamation mark on. -/
def takeTag (flow : Bool) : Scan Token := do
  let token ←
    if (← peekAt 1) = some '<' then do
      skip 2
      let text ← takeTagText true []
      require ((← peek) = some '>')
      skip 1
      pure (Token.tag "" text)
    else do
      let handle ← takeTagHandle false
      if 1 < handle.length && handle.getLast? = some '!' then
        let text ← takeTagText false []
        pure (Token.tag (String.ofList handle) text)
      else
        let text ← takeTagText false handle
        pure (if text.isEmpty then Token.tag "" "!" else Token.tag "!" text)
  let next ← peek
  require (endsWord next || (flow && next = some ','))
  return token

/-- The name of an anchor or alias, from its indicator on. -/
def takeAnchorName : Scan String := do
  skip 1
  let name ← takeWhile isNameChar
  let next ← peek
  require (!name.isEmpty && (endsWord next || next.any fun c => "?:,]\x7d%@\x60".toList.contains c))
  return String.ofList name

/-- A number of at most nine digits. -/
def takeVersionNumber : Scan Nat := do
  let digits ← takeWhile Char.isDigit
  require (digits.length ≤ 9)
  match Text.Integer.natOfDigits? 10 digits with
  | none => failure
  | some n => return n

/-- A directive with its line, from the percent sign on. -/
def takeDirective : Scan Token := do
  skip 1
  let name ← takeWhile isNameChar
  require (!name.isEmpty && endsWord (← peek))
  let token ←
    if name = "YAML".toList then do
      skipBlanks
      let major ← takeVersionNumber
      require ((← peek) = some '.')
      skip 1
      let minor ← takeVersionNumber
      pure (Token.versionDirective major minor)
    else if name = "TAG".toList then do
      skipBlanks
      let handle ← takeTagHandle true
      require ((← peek).any isSpaceOrTab)
      skipBlanks
      let expansion ← takeTagText true []
      require (endsWord (← peek))
      pure (Token.tagDirective (String.ofList handle) expansion)
    else failure
  skipBlanks
  skipComment
  require (endsLine (← peek))
  let _ ← takeLineEnd
  return token

end DevfilePush.Yaml.Scan
