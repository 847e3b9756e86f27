import DevfilePush.Proofs.Push.Recording

/-!
Transcripts of what a client is asked for.

A client of any kind can take note of its requests, each with all that was sent along and with
the answer (`ClusterClient.transcribing`); it answers no differently for that. A `Dialogue` says
which conversations there are when every request is answered, and what they come to. Work that
ends with the first request that fails holds conversations of a dialogue up to that failure
(`Converses`), whatever the client answers.
-/

namespace DevfilePush

variable {σ α β : Type}

/-! ### Taking note -/

/-- A request to a client, and what came of it. -/
structure Exchange where
  request : ClientRequest
  answer : Except Failure request.Answer

/-- Asks the client, and takes note of it. -/
def ClusterClient.note (client : ClusterClient σ) (request : ClientRequest) :
    Session (σ × List Exchange) request.Answer :=
  fun (s, log) =>
    let (answer, t) := client.ask request s
    (answer, (t, log ++ [⟨request, answer⟩]))

/-- The client with a log of all that it is asked for. Ending a watch asks for nothing: it only
lets go of what was answered. -/
def ClusterClient.transcribing (client : ClusterClient σ) :
    ClusterClient (σ × List Exchange) where
  listDeployments selector := client.note (.listDeployments selector)
  createDeployment deployment := client.note (.createDeployment deployment)
  replaceDeployment deployment := client.note (.replaceDeployment deployment)
  deleteDeployment name := client.note (.deleteDeployment name)
  getService name := client.note (.getService name)
  createService service := client.note (.createService service)
  replaceService service := client.note (.replaceService service)
  deleteService name := client.note (.deleteService name)
  getClaim name := client.note (.getClaim name)
  createClaim claim := client.note (.createClaim claim)
  listPods selector := client.note (.listPods selector)
  deletePod name := client.note (.deletePod name)
  watchPods selector := client.note (.watchPods selector)
  endWatch waited := fun (s, log) => ((), ((client.endWatch waited s).2, log))
  exec pod container program := fun (s, log) =>
    let (result, t) := client.exec pod container program s
    (result, (t, log ++ [⟨.exec pod container program, result.answer⟩]))

/-! ### Conversations -/

/-- The whole conversations of some work, in which every request is answered, each with what
the work then comes to. -/
abbrev Dialogue (α : Type) :=
  List Exchange → Except Failure α → Prop

/-- Conversations that are whole, or that end with the first request that fails. -/
inductive UpToFailure (dialogue : Dialogue α) : Dialogue α where
  | whole {made : List Exchange} {result : Except Failure α} (held : dialogue made result) :
      UpToFailure dialogue made result
  /-- Had the last request been answered, the conversation could have gone on to a whole one. -/
  | failed {earlier later : List Exchange} {request : ClientRequest} {answer : request.Answer}
      {failure : Failure} {result : Except Failure α}
      (wouldGoOn : dialogue (earlier ++ ⟨request, .ok answer⟩ :: later) result) :
      UpToFailure dialogue (earlier ++ [⟨request, .error failure⟩]) (.error failure)

namespace UpToFailure

variable {first dialogue : Dialogue α} {made more : List Exchange} {result : Except Failure α}

theorem imp (wider : ∀ made result, first made result → dialogue made result)
    (upTo : UpToFailure first made result) : UpToFailure dialogue made result := by
  cases upTo with
  | whole held => exact .whole (wider made result held)
  | failed wouldGoOn => exact .failed (wider _ _ wouldGoOn)

/-- What was said before belongs to the conversation. -/
theorem after {rest : Dialogue α}
    (joined : ∀ more result, rest more result → dialogue (made ++ more) result)
    (upTo : UpToFailure rest more result) : UpToFailure dialogue (made ++ more) result := by
  cases upTo with
  | whole held => exact .whole (joined more result held)
  | @failed earlier later request answer failure ending wouldGoOn =>
    have goesOn := joined _ ending wouldGoOn
    rw [← List.append_assoc] at goesOn ⊢
    exact .failed goesOn

/-- A first part that has failed is all there is, if it could have gone on. -/
theorem extend {first : Dialogue β} {failure : Failure}
    (goesOn : ∀ made value, first made (.ok value) → ∃ more result, dialogue (made ++ more) result)
    (ended : ∀ made failure, first made (.error failure) → dialogue made (.error failure))
    (upTo : UpToFailure first made (.error failure)) :
    UpToFailure dialogue made (.error failure) := by
  cases upTo with
  | whole held => exact .whole (ended made failure held)
  | @failed earlier later request answer _ ending wouldGoOn =>
    cases ending with
    | error other => exact .failed (ended _ other wouldGoOn)
    | ok value =>
      obtain ⟨more, result, whole⟩ := goesOn _ value wouldGoOn
      rw [List.append_assoc, List.cons_append] at whole
      exact .failed whole

end UpToFailure

/-- With a transcribing client, work does the same as without, and the transcript is a
conversation of the dialogue up to a failure. -/
structure Converses (work : Session (σ × List Exchange) α) (plain : Session σ α)
    (dialogue : Dialogue α) : Prop where
  /-- There are whole conversations. -/
  possible : ∃ made result, dialogue made result
  held : ∀ s log, ∃ made, work (s, log) = ((plain s).1, ((plain s).2, log ++ made)) ∧
    UpToFailure dialogue made (plain s).1

/-- A dialogue of one request. -/
inductive Asks (request : ClientRequest) : Dialogue request.Answer where
  | answered (answer : request.Answer) : Asks request [⟨request, .ok answer⟩] (.ok answer)

/-- A dialogue in which nothing is asked for. -/
inductive AsksNothing (result : Except Failure α) : Dialogue α where
  | silent : AsksNothing result [] result

theorem ClientRequest.exists_answer (request : ClientRequest) : Nonempty request.Answer := by
  cases request with
  | listDeployments selector => exact ⟨([] : List _)⟩
  | createDeployment deployment => exact ⟨deployment⟩
  | replaceDeployment deployment => exact ⟨deployment⟩
  | deleteDeployment name => exact ⟨()⟩
  | getService name => exact ⟨(none : Option _)⟩
  | createService service => exact ⟨service⟩
  | replaceService service => exact ⟨service⟩
  | deleteService name => exact ⟨()⟩
  | getClaim name => exact ⟨(none : Option _)⟩
  | createClaim claim => exact ⟨claim⟩
  | listPods selector => exact ⟨([] : List _)⟩
  | deletePod name => exact ⟨()⟩
  | watchPods selector => exact ⟨(⟨[], [], true⟩ : PodWatch)⟩
  | exec pod container program => exact ⟨([] : List _)⟩

namespace Converses

/-! ### Rules -/

/-- Work that goes past the client and always comes to the same. -/
theorem beside {plain : Session σ α} {result : Except Failure α}
    (ends : ∀ s, (plain s).1 = result) :
    Converses (Session.beside plain) plain (AsksNothing result) where
  possible := ⟨[], result, .silent⟩
  held := by
    intro s log
    refine ⟨[], by rw [List.append_nil]; rfl, ?_⟩
    rw [ends s]
    exact .whole .silent

theorem pure (value : α) :
    Converses (Pure.pure value : Session (σ × List Exchange) α) (Pure.pure value : Session σ α)
      (AsksNothing (.ok value)) :=
  @beside σ α (Pure.pure value) (.ok value) fun _ => rfl

/-- One request. -/
theorem note (client : ClusterClient σ) (request : ClientRequest) :
    Converses (client.note request) (client.ask request) (Asks request) where
  possible := by
    obtain ⟨answer⟩ := request.exists_answer
    exact ⟨_, _, .answered answer⟩
  held := by
    intro s log
    refine ⟨[⟨request, (client.ask request s).1⟩], rfl, ?_⟩
    cases (client.ask request s).1 with
    | ok answer => exact .whole (.answered answer)
    | error failure =>
      obtain ⟨answer⟩ := request.exists_answer
      exact @UpToFailure.failed _ (Asks request) [] [] request answer failure _ (.answered answer)

variable {work : Session (σ × List Exchange) β} {plain : Session σ β}
  {next : β → Session (σ × List Exchange) α} {plainNext : β → Session σ α}
  {first : Dialogue β} {dialogue : Dialogue α}

/-- One part after another: the requests of the second follow those of the first, and a first
part that comes to a failure is all there is. -/
theorem bind (rest : β → Dialogue α) (begins : Converses work plain first)
    (goesOn : ∀ value, Converses (next value) (plainNext value) (rest value))
    (joined : ∀ made value more result, first made (.ok value) → rest value more result →
      dialogue (made ++ more) result)
    (ended : ∀ made failure, first made (.error failure) → dialogue made (.error failure)) :
    Converses (work >>= next) (plain >>= plainNext) dialogue where
  possible := by
    obtain ⟨made, result, whole⟩ := begins.possible
    cases result with
    | error failure => exact ⟨made, _, ended made failure whole⟩
    | ok value =>
      obtain ⟨more, result, wholeRest⟩ := (goesOn value).possible
      exact ⟨made ++ more, result, joined made value more result whole wholeRest⟩
  held := by
    intro s log
    obtain ⟨made, run, upTo⟩ := begins.held s log
    rw [Session.bind_run, Session.bind_run, run]
    cases ran : plain s with
    | mk result t =>
      rw [ran] at upTo
      cases result with
      | error failure =>
        refine ⟨made, rfl, upTo.extend (fun made value held => ?_) ended⟩
        obtain ⟨more, result, heldRest⟩ := (goesOn value).possible
        exact ⟨more, result, joined made value more result held heldRest⟩
      | ok value =>
        obtain ⟨more, runRest, upToRest⟩ := (goesOn value).held t (log ++ made)
        dsimp only
        refine ⟨made ++ more, by rw [runRest, List.append_assoc], ?_⟩
        cases upTo with
        | whole held =>
          exact upToRest.after fun more result => joined made value more result held

/-- A value that is made something else of. -/
theorem bind_pure (converses : Converses work plain first) (change : β → α)
    (changed : ∀ made result, first made result → dialogue made (result.map change)) :
    Converses (work >>= fun value => Pure.pure (change value))
      (plain >>= fun value => Pure.pure (change value)) dialogue := by
  refine converses.bind (fun value => AsksNothing (.ok (change value)))
    (fun value => .pure (change value)) ?_ ?_
  · rintro made value _ _ held ⟨⟩
    rw [List.append_nil]
    exact changed made (.ok value) held
  · intro made failure held
    exact changed made (.error failure) held

/-- A request, and what follows it if it is answered. -/
theorem note_bind {client : ClusterClient σ} (request : ClientRequest)
    {next : request.Answer → Session (σ × List Exchange) α}
    {plainNext : request.Answer → Session σ α} (rest : request.Answer → Dialogue α)
    (goesOn : ∀ answer, Converses (next answer) (plainNext answer) (rest answer))
    (joined : ∀ answer more result, rest answer more result →
      dialogue (⟨request, .ok answer⟩ :: more) result) :
    Converses (client.note request >>= next) (client.ask request >>= plainNext) dialogue := by
  refine (note client request).bind rest goesOn ?_ ?_
  · intro made answer more result asked wholeRest
    cases asked
    exact joined answer more result wholeRest
  · intro made failure asked
    cases asked

/-- The same work holds more conversations. -/
theorem imp {work : Session (σ × List Exchange) α} {plain : Session σ α} {fewer : Dialogue α}
    (converses : Converses work plain fewer)
    (wider : ∀ made result, fewer made result → dialogue made result) :
    Converses work plain dialogue where
  possible := by
    obtain ⟨made, result, whole⟩ := converses.possible
    exact ⟨made, result, wider made result whole⟩
  held := by
    intro s log
    obtain ⟨made, run, upTo⟩ := converses.held s log
    exact ⟨made, run, upTo.imp wider⟩

end Converses

end DevfilePush
