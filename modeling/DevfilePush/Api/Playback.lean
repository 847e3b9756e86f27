import DevfilePush.Api.Reply
import DevfilePush.Api.Request

/-!
A connection whose replies are given in advance.

A request takes the first reply left for its address and is recorded. A connection
that has no reply for a request stays silent from then on, because nobody asks again
before the reply is there.
-/

namespace DevfilePush.Api

/-- A connection with the replies that it is going to give. -/
structure Playback where
  /-- Replies by address. -/
  replies : List (String × Reply)
  /-- The requests so far, in order. -/
  requests : List Request := []
  /-- Whether a request has been left without a reply. -/
  silent : Bool := false

/-- The first reply for an address, and the replies without it. -/
def takeReply? (address : String) :
    List (String × Reply) → Option (Reply × List (String × Reply))
  | [] => none
  | (key, reply) :: rest =>
    if key = address then some (reply, rest)
    else (takeReply? address rest).map fun (found, rest) => (found, (key, reply) :: rest)

theorem length_of_takeReply? {address : String} {replies rest : List (String × Reply)}
    {reply : Reply} (taken : takeReply? address replies = some (reply, rest)) :
    rest.length < replies.length := by
  induction replies generalizing rest with
  | nil => simp [takeReply?] at taken
  | cons first others ih =>
    obtain ⟨key, other⟩ := first
    simp only [takeReply?] at taken
    split at taken
    · simp only [Option.some.injEq, Prod.mk.injEq] at taken
      simp [taken.2]
    · simp only [Option.map_eq_some_iff, Prod.mk.injEq] at taken
      obtain ⟨⟨found, kept⟩, mem, rfl, rfl⟩ := taken
      simpa using ih mem

/-- Sends a request and waits for the reply; there is none on a silent connection. -/
def send (request : Request) : StateM Playback (Option Reply) :=
  fun playback =>
    if playback.silent then (none, playback)
    else
      let requests := playback.requests ++ [request]
      match takeReply? request.address playback.replies with
      | some (reply, rest) => (some reply, { playback with replies := rest, requests })
      | none => (none, { playback with requests, silent := true })

end DevfilePush.Api
