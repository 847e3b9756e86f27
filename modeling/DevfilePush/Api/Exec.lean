import DevfilePush.Api.Reply
import DevfilePush.Cluster.Client
import DevfilePush.Cluster.LineCapture

/-!
Running a program through a stream of frames.

The program's output comes on one channel, and a final status on another, which ends
the stream. A program whose status is missing or cannot be read counts as successful.
-/

namespace DevfilePush.Api

/-- The channel of a program's output. -/
def outputChannel : Nat := 1

/-- The channel of the final status. -/
def statusChannel : Nat := 3

/-- How a program ended. -/
structure ExitStatus where
  status : Option String
  message : Option String
  deriving DecidableEq, Repr

namespace ExitStatus

def read (json : Json) : Option ExitStatus := do
  Kubernetes.requireType "v1" "Status" json
  let _ ← Kubernetes.metadataOf json
  let _ ← Kubernetes.optional Kubernetes.readInt32 "code" json
  let _ ← Kubernetes.optional Kubernetes.readText "reason" json
  let _ ← Kubernetes.optional Kubernetes.requireObject "details" json
  return ⟨← Kubernetes.optional Kubernetes.readText "status" json,
    ← Kubernetes.optional Kubernetes.readText "message" json⟩

/-- The status in the payload of a frame. -/
def ofPayload? (payload : List UInt8) : Option ExitStatus :=
  (Text.Utf8.decode? payload).bind fun text => (Json.read text).toOption.bind read

/-- The failure of the program, unless it ended well. -/
def failure? (container : String) (exit : ExitStatus) : Option Failure :=
  if exit.status = some "Success" then none
  else some (.cluster (.exec container
    (exit.message.getD "command failed without a message")))

end ExitStatus

/-- The output of a program and its status, if there is one. -/
def readFrames : List Frame → List UInt8 × Option ExitStatus
  | [] => ([], none)
  | frame :: rest =>
    if frame.payload.isEmpty then readFrames rest
    else if frame.channel = statusChannel then ([], ExitStatus.ofPayload? frame.payload)
    else
      let (output, exit) := readFrames rest
      (if frame.channel = outputChannel then frame.payload ++ output else output, exit)

/-- What came of running a program. -/
def execResult (container : String) (frames : List Frame) : ExecResult :=
  let (output, exit) := readFrames frames
  ⟨capturedLines output, exit.bind (ExitStatus.failure? container)⟩

end DevfilePush.Api
