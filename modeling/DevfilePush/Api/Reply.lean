import DevfilePush.Failure
import DevfilePush.Json.Reader
import DevfilePush.Kubernetes.Reader
import DevfilePush.Text.Quoted

/-!
Replies of the API of a cluster.

A reply with a status from 400 to 599 is a refusal. What the refusal says about itself
counts for more than the status: its own code and message, where it has them. Anything
else in a refusal is quoted as the message.
-/

namespace DevfilePush.Api

/-- A part of what a program in a container writes. -/
structure Frame where
  channel : Nat
  payload : List UInt8
  deriving DecidableEq, Repr

/-- A reply. -/
inductive Reply where
  | body (status : Nat) (text : String)
  /-- The connection turns into a stream of frames, which then ends. -/
  | stream (frames : List Frame)
  deriving DecidableEq, Repr

/-- A refusal. -/
structure Refusal where
  code : Nat
  message : String
  reason : String
  deriving DecidableEq, Repr

namespace Refusal

/-- An integer of 16 bits without a sign. -/
def readCode : Json → Option Nat
  | .integer n => if 0 ≤ n ∧ n < 65536 then some n.toNat else none
  | _ => none

/-- A text that may be left out but not be null. -/
def readOptionalText (key : String) (json : Json) : Option String :=
  match json.get? key with
  | none => some ""
  | some value => Kubernetes.readText value

/-- A refusal as the cluster words it. -/
def read (json : Json) : Option Refusal := do
  let _ ← Kubernetes.readText (← json.get? "status")
  return {
    code := ← readCode (← json.get? "code")
    message := ← readOptionalText "message" json
    reason := ← readOptionalText "reason" json }

/-- The refusal that a text words. -/
def ofText? (text : String) : Option Refusal :=
  (Json.read text).toOption.bind read

/-- The refusal in a reply, if the reply is one. -/
def ofReply? (status : Nat) (text : String) : Option Refusal :=
  if 400 ≤ status ∧ status < 600 then
    some ((ofText? text).getD ⟨status, Text.quoted text, "Failed to parse error data"⟩)
  else none

/-- The refusal as a failure. -/
def failure (refusal : Refusal) : Failure :=
  .cluster (.api refusal.code refusal.message)

/-- The refusal of work on one object: with code 404, the object is not there. -/
def failureFor (refusal : Refusal) (kind name : String) : Failure :=
  if refusal.code = 404 then .cluster (.notFound kind name) else refusal.failure

/-- Whether the refusal says that an object is not there, in its own words. -/
def saysNotFound (refusal : Refusal) : Bool :=
  refusal.reason = "NotFound"

end Refusal

/-- A reply cannot be understood. -/
def notUnderstood : Failure :=
  .cluster (.client none)

/-- Why a reply has no content. -/
inductive NoContent where
  | refused (refusal : Refusal)
  | unreadable
  deriving DecidableEq, Repr

/-- The content of a reply. -/
def Reply.read {α : Type} (reply : Reply) (read : Json → Option α) : Except NoContent α :=
  match reply with
  | .stream _ => .error .unreadable
  | .body status text =>
    match Refusal.ofReply? status text with
    | some refusal => .error (.refused refusal)
    | none =>
      match (Json.read text).toOption.bind read with
      | some content => .ok content
      | none => .error .unreadable

namespace NoContent

/-- The failure of a request. -/
def failure : NoContent → Failure
  | refused refusal => refusal.failure
  | unreadable => notUnderstood

/-- The failure of a request about one object. -/
def failureFor (kind name : String) : NoContent → Failure
  | refused refusal => refusal.failureFor kind name
  | unreadable => notUnderstood

end NoContent

/-! ### Statuses -/

/-- A status, as the reply to a deletion. -/
def readStatus (json : Json) : Option Unit := do
  Kubernetes.requireObject json
  match json.get? "status" with
  | none | some .null | some (.string "Success") | some (.string "Failure") => some ()
  | _ => none
  match json.get? "code" with
  | none => some ()
  | some code => (Refusal.readCode code).map fun _ => ()
  let _ ← Refusal.readOptionalText "message" json
  let _ ← Refusal.readOptionalText "reason" json
  let _ ← Kubernetes.optional Kubernetes.requireObject "metadata" json
  let _ ← Kubernetes.optional Kubernetes.requireObject "details" json

/-- The reply to a deletion: a status, or the object that is going. -/
def readDeleted {α : Type} (read : Json → Option α) (json : Json) : Option Unit :=
  if json.get? "kind" == some (.string "Status") then readStatus json
  else (read json).map fun _ => ()

end DevfilePush.Api
