import DevfilePush.Yaml.Node
import DevfilePush.Yaml.Plain

/-!
Reading values out of a YAML document.

A reader walks a node in the order of the text and stops at the first thing that it
cannot use, so of two faults the earlier one is reported. Text is taken from any
scalar as written; a value that may be absent is absent when its node is a plain
null; a list or record is also read from a node that was left out.
-/

namespace DevfilePush.Yaml

/-- Why a document holds no such value. -/
inductive Decode.Fault where
  /-- The text is no YAML, or a node has the wrong shape. -/
  | malformed
  /-- The shapes are right, but the value is refused. -/
  | refused (reason : String)
  deriving DecidableEq, Repr

/-- What aliases stand for, and how often they may be followed. -/
structure Decode.Anchors where
  nodes : List (Nat × Node)
  limit : Nat

/-- Reading a value. The state counts the aliases followed. -/
abbrev Decode := ReaderT Decode.Anchors (StateT Nat (Except Decode.Fault))

namespace Decode

def malformed {α : Type} : Decode α :=
  throw .malformed

/-- The node itself, for an alias the node that it stands for. -/
def follow (node : Node) : Decode Node := do
  match node with
  | .alias anchor =>
    modify (· + 1)
    let anchors ← read
    if anchors.limit < (← get) then malformed
    else match anchors.nodes.find? fun entry => entry.1 = anchor with
      | some (_, target) => return target
      | none => malformed
  | .unreadable => malformed
  | node => return node

/-- The text of a scalar, however it is written. -/
def text (node : Node) : Decode String := do
  match ← follow node with
  | .scalar _ _ value => return value
  | _ => malformed

/-- A scalar that may stand for more than its text: plain, or literal with the tag. -/
def plainText (tag : String) (node : Node) : Decode String := do
  match ← follow node with
  | .scalar .plain _ value => return value
  | .scalar .literal (some actual) value => if actual = tag then return value else malformed
  | _ => malformed

/-- A truth value. -/
def bool (node : Node) : Decode Bool := do
  match Plain.bool? (← plainText "tag:yaml.org,2002:bool" node) with
  | some value => return value
  | none => malformed

/-- An integer that fits 32 bits. -/
def int32 (node : Node) : Decode Int := do
  match Plain.integer? (← plainText "tag:yaml.org,2002:int" node) with
  | some value => if Text.Integer.fitsSigned 32 value then return value else malformed
  | none => malformed

/-- Whether a scalar stands for an absent value. A null tag on other text is a fault. -/
def isAbsent (node : Node) : Decode Bool := do
  match node with
  | .scalar .plain none value => return value.isEmpty || Plain.isNullWord value
  | .scalar .plain (some "tag:yaml.org,2002:null") value =>
    if Plain.isNullWord value then return true else malformed
  | _ => return false

/-- A value that may be absent. -/
def optional {α : Type} (read : Node → Decode α) (node : Node) : Decode (Option α) := do
  let node ← follow node
  if ← isAbsent node then return none
  return some (← read node)

/-- A list. -/
def list {α : Type} (read : Node → Decode α) (node : Node) : Decode (List α) := do
  match ← follow node with
  | .sequence items => items.mapM read
  | .scalar .plain _ "" => return []
  | _ => malformed

/-- One of several words: the text of the scalar, or a tag of one's own on a null. -/
def word {α : Type} (meaning : String → Option α) (node : Node) : Decode α := do
  let spelled ← match ← follow node with
    | .scalar style (some tag) value =>
      match tag.toList with
      | '!' :: c :: rest =>
        if style = .plain && (value.isEmpty || Plain.isNullWord value) then
          pure (String.ofList (c :: rest))
        else malformed
      | _ => pure value
    | .scalar _ none value => pure value
    | _ => malformed
  match meaning spelled with
  | some value => return value
  | none => malformed

/-- Passes over a value that nobody asked for. -/
def ignore (node : Node) : Decode Unit :=
  if node.isReadable then pure () else malformed

/-- Reads the entries of a record into `value`, in order. `field` says how the value
under a known key is taken in; other keys are passed over, and a known key may not
come twice. Returns the known keys met. -/
def fields {α : Type} (field : String → Option (Node → α → Decode α)) :
    List (Node × Node) → List String → α → Decode (α × List String)
  | [], seen, value => return (value, seen)
  | (keyNode, node) :: rest, seen, value => do
    let key ← text keyNode
    match field key with
    | none =>
      ignore node
      fields field rest seen value
    | some take =>
      if seen.contains key then malformed
      else fields field rest (key :: seen) (← take node value)

/-- A record that starts as `initial` and has to give the keys `required`. -/
def record {α : Type} (required : List String) (initial : α)
    (field : String → Option (Node → α → Decode α)) (node : Node) : Decode α := do
  let entries ← match ← follow node with
    | .mapping entries => pure entries
    | .scalar .plain _ "" => pure []
    | _ => malformed
  let (value, seen) ← fields field entries [] initial
  if required.all seen.contains then return value else malformed

end Decode

/-- The value that a whole document holds. -/
def Document.decode {α : Type} (read : Node → Decode α) (document : Document) :
    Except Decode.Fault α := do
  let anchors : Decode.Anchors := ⟨document.anchored, 100 * document.size⟩
  let (value, _) ← ((read document.root).run anchors).run 0
  if document.complete then return value else throw .malformed

end DevfilePush.Yaml
