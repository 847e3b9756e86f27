import DevfilePush.Yaml.Node
import DevfilePush.Yaml.Token.Lexer

/-!
Documents from tokens.

The grammar is read by recursive descent. Every function takes a fuel that its
callers bound by the number of tokens, since between two nested calls a token is
always passed over. When the grammar is violated, or the tokens run out, the node in
question becomes `Node.unreadable` and the collections around it end there.
-/

namespace DevfilePush.Yaml

/-- Tokens still to be read and the anchors met so far. -/
structure Composer where
  tokens : List Token
  /-- Tag handles and what they stand for. -/
  handles : List (String × String)
  /-- The number that each anchor name stands for at present, latest first. -/
  names : List (String × Nat)
  /-- For each anchor number the node, by the order in which nodes begin, latest
  first. -/
  places : List (Nat × Nat)
  /-- The nodes that have been read to their end. -/
  nodes : List (Nat × Node)
  size : Nat
  stuck : Bool

/-- Composing nodes. -/
abbrev Compose := StateM Composer

namespace Composer

/-- The next token, if there is one that makes sense. -/
def peek : Compose (Option Token) := do
  let composer ← get
  return if composer.stuck then none else composer.tokens.head?

/-- Passes over a token. -/
def skip : Compose Unit :=
  modify fun composer => { composer with tokens := composer.tokens.tail }

/-- Gives up on the text. -/
def giveUp : Compose Node := do
  modify fun composer => { composer with stuck := true }
  return .unreadable

/-- Adds to the size of the document. -/
def grow (n : Nat) : Compose Unit :=
  modify fun composer => { composer with size := composer.size + n }

/-- The empty scalar, where a node was left out. -/
def leftOut : Compose Node := do
  grow 1
  return Node.empty

/-! ### Anchors -/

/-- The number of different anchor names so far. -/
def nameCount (composer : Composer) : Nat :=
  (composer.names.map (·.1)).eraseDups.length

/-- Gives the node that begins here the name `anchor`. Returns the node's place. -/
def noteAnchor (anchor : Option String) : Compose (Option Nat) := do
  match anchor with
  | none => return none
  | some name =>
    let composer ← get
    let number := composer.nameCount
    let place := composer.places.length
    set
      { composer with
        names := (name, number) :: composer.names
        places := (number, place) :: composer.places }
    return some place

/-- Keeps a node that has been read to its end. -/
def keep (place : Option Nat) (node : Node) : Compose Node := do
  match place with
  | none => return node
  | some place =>
    modify fun composer => { composer with nodes := (place, node) :: composer.nodes }
    return node

/-- The nodes that the anchor numbers stand for in the end. -/
def anchored (composer : Composer) : List (Nat × Node) :=
  composer.places.filterMap fun (number, place) =>
    (composer.nodes.find? fun entry => entry.1 = place).map fun entry => (number, entry.2)

/-! ### Properties -/

/-- The anchor and the tag of a node, in either order. -/
structure Properties where
  anchor : Option String
  tag : Option (String × String)

def takeProperties : Compose Properties := do
  match ← peek with
  | some (.anchor name) =>
    skip
    match ← peek with
    | some (.tag handle suffix) =>
      skip
      return ⟨some name, some (handle, suffix)⟩
    | _ => return ⟨some name, none⟩
  | some (.tag handle suffix) =>
    skip
    match ← peek with
    | some (.anchor name) =>
      skip
      return ⟨some name, some (handle, suffix)⟩
    | _ => return ⟨none, some (handle, suffix)⟩
  | _ => return ⟨none, none⟩

/-- The full tag; nothing if its handle is not known. -/
def fullTag? (composer : Composer) : Option (String × String) → Option (Option String)
  | none => some none
  | some (handle, suffix) =>
    if handle.isEmpty then some (some suffix)
    else (composer.handles.find? fun entry => entry.1 = handle).map fun entry =>
      some (entry.2 ++ suffix)

/-- The tag that a scalar keeps: the tag `!` says nothing about it. -/
def scalarTag : Option String → Option String
  | some "!" => none
  | tag => tag

/-! ### Nodes -/

/-- Whether the next token is one of those that end a node left out. -/
def nextIn (ends : List Token) : Compose Bool := do
  match ← peek with
  | none => return false
  | some token => return ends.contains token

mutual

/-- A node. Block collections are allowed where `block` is set, and a sequence that
is not indented where `unindented` is. -/
def node (fuel : Nat) (block unindented : Bool) : Compose Node :=
  match fuel with
  | 0 => giveUp
  | fuel + 1 => do
    match ← peek with
    | none => giveUp
    | some (.alias name) =>
      skip
      match (← get).names.find? fun entry => entry.1 = name with
      | none => giveUp
      | some (_, number) =>
        grow 1
        return .alias number
    | some _ =>
      let properties ← takeProperties
      match fullTag? (← get) properties.tag with
      | none => giveUp
      | some tag =>
        match ← peek with
        | none => giveUp
        | some token =>
          if token = .blockEntry && unindented then
            let place ← noteAnchor properties.anchor
            keep place (.sequence (← unindentedItems fuel))
          else match token with
            | .scalar style text =>
              let place ← noteAnchor properties.anchor
              skip
              grow 1
              keep place (.scalar style (scalarTag tag) text)
            | .flowSequenceStart =>
              let place ← noteAnchor properties.anchor
              skip
              keep place (.sequence (← flowItems fuel true))
            | .flowMappingStart =>
              let place ← noteAnchor properties.anchor
              skip
              keep place (.mapping (← flowEntries fuel true))
            | _ =>
              if block && token = .blockSequenceStart then
                let place ← noteAnchor properties.anchor
                skip
                keep place (.sequence (← blockItems fuel))
              else if block && token = .blockMappingStart then
                let place ← noteAnchor properties.anchor
                skip
                keep place (.mapping (← blockEntries fuel))
              else if properties.anchor.isSome || properties.tag.isSome then
                let place ← noteAnchor properties.anchor
                grow 1
                keep place (.scalar .plain tag "")
              else giveUp

/-- The items of a block sequence. -/
def blockItems (fuel : Nat) : Compose (List Node) :=
  match fuel with
  | 0 => return [← giveUp]
  | fuel + 1 => do
    match ← peek with
    | some .blockEntry =>
      skip
      let item ← if ← nextIn [.blockEntry, .blockEnd] then leftOut else node fuel true false
      if (← get).stuck then return [item]
      return item :: (← blockItems fuel)
    | some .blockEnd =>
      skip
      grow 2
      return []
    | _ => return [← giveUp]

/-- The items of a sequence at the column of the mapping around it. -/
def unindentedItems (fuel : Nat) : Compose (List Node) :=
  match fuel with
  | 0 => return [← giveUp]
  | fuel + 1 => do
    match ← peek with
    | some .blockEntry =>
      skip
      let item ←
        if ← nextIn [.blockEntry, .key, .value, .blockEnd] then leftOut
        else node fuel true false
      if (← get).stuck then return [item]
      return item :: (← unindentedItems fuel)
    | none => return [← giveUp]
    | some _ =>
      grow 2
      return []

/-- The entries of a block mapping. -/
def blockEntries (fuel : Nat) : Compose (List (Node × Node)) :=
  match fuel with
  | 0 => return [(← giveUp, .unreadable)]
  | fuel + 1 => do
    match ← peek with
    | some .key =>
      skip
      let key ← if ← nextIn [.key, .value, .blockEnd] then leftOut else node fuel true true
      if (← get).stuck then return [(key, .unreadable)]
      let value ←
        match ← peek with
        | some .value => do
          skip
          if ← nextIn [.key, .value, .blockEnd] then leftOut else node fuel true true
        | none => giveUp
        | some _ => leftOut
      if (← get).stuck then return [(key, value)]
      return (key, value) :: (← blockEntries fuel)
    | some .blockEnd =>
      skip
      grow 2
      return []
    | _ => return [(← giveUp, .unreadable)]

/-- The comma before an item that is not the first. -/
def separator (first : Bool) : Compose Bool := do
  if first then return true
  match ← peek with
  | some .flowEntry =>
    skip
    return true
  | _ => return false

/-- The items of a flow sequence. -/
def flowItems (fuel : Nat) (first : Bool) : Compose (List Node) :=
  match fuel with
  | 0 => return [← giveUp]
  | fuel + 1 => do
    if ← nextIn [.flowSequenceEnd] then
      skip
      grow 2
      return []
    if !(← separator first) then return [← giveUp]
    match ← peek with
    | some .flowSequenceEnd =>
      skip
      grow 2
      return []
    | some .key =>
      skip
      let entry ← singleEntry fuel
      let item := Node.mapping [entry]
      if (← get).stuck then return [item]
      grow 2
      return item :: (← flowItems fuel false)
    | _ =>
      let item ← node fuel false false
      if (← get).stuck then return [item]
      return item :: (← flowItems fuel false)

/-- The entry of a mapping of one entry inside a flow sequence. Where its key is left
out, the token that shows it goes with it. -/
def singleEntry (fuel : Nat) : Compose (Node × Node) :=
  match fuel with
  | 0 => return (← giveUp, .unreadable)
  | fuel + 1 => do
    let key ←
      if ← nextIn [.value, .flowEntry, .flowSequenceEnd] then do
        skip
        leftOut
      else node fuel false false
    if (← get).stuck then return (key, .unreadable)
    match ← peek with
    | none => return (key, ← giveUp)
    | some .value =>
      skip
      if ← nextIn [.flowEntry, .flowSequenceEnd] then return (key, ← leftOut)
      return (key, ← node fuel false false)
    | some _ => return (key, ← leftOut)

/-- The entries of a flow mapping. -/
def flowEntries (fuel : Nat) (first : Bool) : Compose (List (Node × Node)) :=
  match fuel with
  | 0 => return [(← giveUp, .unreadable)]
  | fuel + 1 => do
    if ← nextIn [.flowMappingEnd] then
      skip
      grow 2
      return []
    if !(← separator first) then return [(← giveUp, .unreadable)]
    match ← peek with
    | some .flowMappingEnd =>
      skip
      grow 2
      return []
    | some .key =>
      skip
      let key ←
        if ← nextIn [.value, .flowEntry, .flowMappingEnd] then leftOut
        else node fuel false false
      if (← get).stuck then return [(key, .unreadable)]
      let value ←
        match ← peek with
        | some .value => do
          skip
          if ← nextIn [.flowEntry, .flowMappingEnd] then leftOut else node fuel false false
        | none => giveUp
        | some _ => leftOut
      if (← get).stuck then return [(key, value)]
      return (key, value) :: (← flowEntries fuel false)
    | _ =>
      let key ← node fuel false false
      if (← get).stuck then return [(key, .unreadable)]
      match ← peek with
      | none => return [(key, ← giveUp)]
      | some _ =>
        let value ← leftOut
        return (key, value) :: (← flowEntries fuel false)

end

/-! ### Documents -/

/-- Reads the directives before a document; `false` when they are not in order. -/
def takeDirectives : Nat → Bool → Compose Bool
  | 0, _ => return false
  | fuel + 1, versioned => do
    match ← peek with
    | some (.versionDirective major minor) =>
      if versioned || major ≠ 1 || (minor ≠ 1 && minor ≠ 2) then return false
      skip
      takeDirectives fuel true
    | some (.tagDirective handle expansion) =>
      if (← get).handles.any fun entry => entry.1 = handle then return false
      modify fun composer =>
        { composer with handles := composer.handles ++ [(handle, expansion)] }
      skip
      takeDirectives fuel versioned
    | _ => return true

/-- The handles that need no directive. -/
def standardHandles : List (String × String) :=
  [("!", "!"), ("!!", "tag:yaml.org,2002:")]

/-- The root of the first document. -/
def root (fuel : Nat) : Compose Node := do
  match ← peek with
  | none => giveUp
  | some .streamEnd => leftOut
  | some first =>
    let explicit := match first with
      | .versionDirective .. | .tagDirective .. | .documentStart => true
      | _ => false
    if !(← takeDirectives fuel false) then giveUp
    else
      modify fun composer => { composer with handles := composer.handles ++ standardHandles }
      if explicit then
        match ← peek with
        | some .documentStart =>
          skip
          match ← peek with
          | some (.versionDirective ..) | some (.tagDirective ..) | some .documentStart
          | some .documentEnd | some .streamEnd => leftOut
          | _ => node fuel true false
        | _ => giveUp
      else node fuel true false

/-- Whether nothing but document ends follows. -/
def atStreamEnd (composer : Composer) : Bool :=
  !composer.stuck && composer.tokens.dropWhile (· = .documentEnd) = [.streamEnd]

end Composer

/-- The document that the tokens make up. -/
def Document.ofTokens (tokens : List Token) : Document :=
  let (root, composer) := (Composer.root (2 * tokens.length + 4)).run
    { tokens, handles := [], names := [], places := [], nodes := [], size := 0, stuck := false }
  ⟨root, composer.anchored, composer.size, composer.atStreamEnd⟩

/-- The document that a text holds. -/
def Document.ofText (text : String) : Document :=
  Document.ofTokens (tokens text)

end DevfilePush.Yaml
