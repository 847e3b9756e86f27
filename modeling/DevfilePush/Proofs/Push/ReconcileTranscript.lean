import DevfilePush.Proofs.Push.Transcript

/-!
What reconciling asks a client for.

Whatever the client answers, its requests are these, in this order: the Deployments are listed,
each desired claim is looked up and created if it is not there, the Deployment is created or
replaced and the Service with it, and at last the pods are watched (`Reconciles`). The first
request that fails is the last one, and its failure is what reconciling comes to
(`reconcile_transcript`).
-/

namespace DevfilePush

open Kubernetes (Claim Deployment Service ServiceSpec)

/-! ### Dialogues -/

/-- Each claim is looked up, and created exactly if it is not there. -/
inductive EnsuresClaims : List Claim → Dialogue Unit where
  | nil : EnsuresClaims [] [] (.ok ())
  | present {claim : Claim} {rest : List Claim} {made : List Exchange}
      {result : Except Failure Unit} (live : Claim) (others : EnsuresClaims rest made result) :
      EnsuresClaims (claim :: rest)
        (⟨.getClaim claim.metadata.nameOrEmpty, .ok (some live)⟩ :: made) result
  | absent {claim : Claim} {rest : List Claim} {made : List Exchange}
      {result : Except Failure Unit} (stored : Claim) (others : EnsuresClaims rest made result) :
      EnsuresClaims (claim :: rest)
        (⟨.getClaim claim.metadata.nameOrEmpty, .ok none⟩ :: ⟨.createClaim claim, .ok stored⟩ ::
          made) result

/-- Claims are ensured or a request fails: there is no other failure. -/
theorem EnsuresClaims.result_eq {claims : List Claim} {made : List Exchange}
    {result : Except Failure Unit} (ensures : EnsuresClaims claims made result) :
    result = .ok () := by
  induction ensures with
  | nil => rfl
  | present live others ih => exact ih
  | absent stored others ih => exact ih

/-- The specification of a Service with the addresses of the live one, if that has any
specification. -/
def Kubernetes.ServiceSpec.atAddressesOf (spec : ServiceSpec) : Option ServiceSpec → ServiceSpec
  | none => spec
  | some live => { spec with clusterIP := live.clusterIP, clusterIPs := live.clusterIPs }

/-- `sent` is the desired Service with the version of the live one and at its addresses. -/
structure StandsInFor (live desired sent : Service) : Prop where
  metadata : sent.metadata =
    { desired.metadata with resourceVersion := live.metadata.resourceVersion }
  spec : sent.spec = desired.spec.map fun spec => spec.atAddressesOf live.spec

/-- The live Service is looked up and brought in line with the desired one: there are four
cases, as each of them is there or not. -/
inductive AlignsService (desired : DesiredComponent) : Dialogue Unit where
  | replaced {service sent : Service} (live stored : Service)
      (isDesired : desired.service = some service) (standsIn : StandsInFor live service sent) :
      AlignsService desired
        [⟨.getService desired.name, .ok (some live)⟩, ⟨.replaceService sent, .ok stored⟩] (.ok ())
  | created {service : Service} (stored : Service) (isDesired : desired.service = some service) :
      AlignsService desired
        [⟨.getService desired.name, .ok none⟩, ⟨.createService service, .ok stored⟩] (.ok ())
  | deleted (live : Service) (notDesired : desired.service = none) :
      AlignsService desired
        [⟨.getService desired.name, .ok (some live)⟩, ⟨.deleteService desired.name, .ok ()⟩]
        (.ok ())
  | absent (notDesired : desired.service = none) :
      AlignsService desired [⟨.getService desired.name, .ok none⟩] (.ok ())

theorem AlignsService.result_eq {desired : DesiredComponent} {made : List Exchange}
    {result : Except Failure Unit} (aligns : AlignsService desired made result) :
    result = .ok () := by
  cases aligns <;> rfl

/-- `sent` is the desired Deployment with the version of the live one. -/
structure Supersedes (live desired sent : Deployment) : Prop where
  metadata : sent.metadata =
    { desired.metadata with resourceVersion := live.metadata.resourceVersion }
  spec : sent.spec = desired.spec

/-- A component without a live Deployment is created, and any other is updated over the version
of its Deployment. -/
inductive AppliesComponent (desired : DesiredComponent) :
    Option Deployment → Dialogue ReconcileAction where
  | created (stored : Deployment) (notDesired : desired.service = none) :
      AppliesComponent desired none [⟨.createDeployment desired.deployment, .ok stored⟩]
        (.ok .created)
  | exposed {service : Service} (stored : Deployment) (exposing : Service)
      (isDesired : desired.service = some service) :
      AppliesComponent desired none
        [⟨.createDeployment desired.deployment, .ok stored⟩,
          ⟨.createService service, .ok exposing⟩] (.ok .created)
  | updated {live sent : Deployment} {made : List Exchange} (stored : Deployment)
      (supersedes : Supersedes live desired.deployment sent)
      (aligns : AlignsService desired made (.ok ())) :
      AppliesComponent desired (some live) (⟨.replaceDeployment sent, .ok stored⟩ :: made)
        (.ok .updated)

/-- Nor can applying a component fail by itself. -/
theorem AppliesComponent.exists_ok {desired : DesiredComponent} {live : Option Deployment}
    {made : List Exchange} {result : Except Failure ReconcileAction}
    (applies : AppliesComponent desired live made result) : ∃ action, result = .ok action := by
  cases applies <;> exact ⟨_, rfl⟩

/-- The pods are watched once. What this comes to is up to the pods. -/
inductive WatchesPods (timeout : Duration) (selector : String) : Dialogue Kubernetes.Pod where
  | watched (watch : PodWatch) :
      WatchesPods timeout selector [⟨.watchPods selector, .ok watch⟩]
        (watch.outcome selector timeout).2

/-- The component is applied, and then its pods are watched. -/
inductive BringsUp (timeout : Duration) (desired : DesiredComponent) (live : Option Deployment) :
    Dialogue ReconcileOutcome where
  | brought {applying watching : List Exchange} {action : ReconcileAction}
      {result : Except Failure Kubernetes.Pod}
      (applies : AppliesComponent desired live applying (.ok action))
      (watches : WatchesPods timeout desired.selector watching result) :
      BringsUp timeout desired live (applying ++ watching)
        (result.map fun pod => ⟨action, pod.metadata.nameOrEmpty⟩)

/-- All that reconciling asks for. The Deployment that is updated is the first listed one of the
component's name. -/
inductive Reconciles (timeout : Duration) (desired : DesiredComponent) :
    Dialogue ReconcileOutcome where
  | listed {listed : List Deployment} {ensuring bringing : List Exchange}
      {result : Except Failure ReconcileOutcome}
      (ensures : EnsuresClaims desired.claims ensuring (.ok ()))
      (bringsUp : BringsUp timeout desired
        (listed.find? fun deployment => deployment.metadata.name = some desired.name) bringing
        result) :
      Reconciles timeout desired
        (⟨.listDeployments desired.selector, .ok listed⟩ :: (ensuring ++ bringing)) result

/-! ### Parts of the work -/

variable {σ : Type} (client : ClusterClient σ)

theorem ensureClaims_converses (claims : List Claim) :
    Converses (ensureClaims client.transcribing claims) (ensureClaims client claims)
      (EnsuresClaims claims) := by
  induction claims with
  | nil =>
    refine (Converses.pure ()).imp ?_
    rintro _ _ ⟨⟩
    exact .nil
  | cons claim rest ih =>
    refine Converses.note_bind (.getClaim claim.metadata.nameOrEmpty)
      (fun found made => EnsuresClaims (claim :: rest)
        (⟨.getClaim claim.metadata.nameOrEmpty, .ok found⟩ :: made)) (fun found => ?_)
      fun _ _ _ ensures => ensures
    cases found with
    | some live => exact ih.imp fun _ _ others => .present live others
    | none =>
      refine Converses.note_bind (.createClaim claim) (fun _ => EnsuresClaims rest)
        (fun _ => ih) ?_
      intro stored made result others
      exact .absent stored others

variable (desired : DesiredComponent)

theorem createComponent_converses :
    Converses (createComponent client.transcribing desired) (createComponent client desired)
      fun made result => AppliesComponent desired none made (result.map fun _ => .created) := by
  unfold createComponent
  refine Converses.note_bind (.createDeployment desired.deployment)
    (fun stored made result => AppliesComponent desired none
      (⟨.createDeployment desired.deployment, .ok stored⟩ :: made) (result.map fun _ => .created))
    (fun stored => ?_) fun _ _ _ applies => applies
  cases isDesired : desired.service with
  | none =>
    refine (Converses.pure ()).imp ?_
    rintro _ _ ⟨⟩
    exact .created stored isDesired
  | some service =>
    refine Converses.note_bind (.createService service) (fun _ => AsksNothing (.ok ()))
      (fun _ => .pure ()) ?_
    rintro exposing _ _ ⟨⟩
    exact .exposed stored exposing isDesired

/-- What is sent in place of the live Service has its version and its addresses. -/
theorem standsInFor_replacing (service live : Service) :
    StandsInFor live service (service.replacing live) where
  metadata := rfl
  spec := by
    obtain ⟨metadata, spec⟩ := service
    obtain ⟨liveMetadata, liveSpec⟩ := live
    cases spec with
    | none => rfl
    | some spec => cases liveSpec <;> rfl

/-- What follows on the look at the live Service is one request at most. -/
theorem updateService_converses :
    Converses (updateService client.transcribing desired) (updateService client desired)
      (AlignsService desired) := by
  unfold updateService
  refine Converses.note_bind (.getService desired.name)
    (fun live made => AlignsService desired (⟨.getService desired.name, .ok live⟩ :: made))
    (fun live => ?_) fun _ _ _ aligns => aligns
  cases isDesired : desired.service with
  | none =>
    cases live with
    | none =>
      refine (Converses.pure ()).imp ?_
      rintro _ _ ⟨⟩
      exact .absent isDesired
    | some live =>
      refine (Converses.note client (.deleteService desired.name)).imp ?_
      rintro _ _ ⟨⟩
      exact .deleted live isDesired
  | some service =>
    cases live with
    | none =>
      refine Converses.note_bind (.createService service) (fun _ => AsksNothing (.ok ()))
        (fun _ => .pure ()) ?_
      rintro stored _ _ ⟨⟩
      exact .created stored isDesired
    | some live =>
      refine Converses.note_bind (.replaceService (service.replacing live))
        (fun _ => AsksNothing (.ok ())) (fun _ => .pure ()) ?_
      rintro stored _ _ ⟨⟩
      exact .replaced live stored isDesired (standsInFor_replacing service live)

/-- What is sent in place of the live Deployment has its version. -/
theorem supersedes_withVersion (deployment live : Deployment) :
    Supersedes live deployment (deployment.withVersion live.metadata.resourceVersion) where
  metadata := rfl
  spec := rfl

/-- The Service is looked at after the Deployment has been replaced. -/
theorem updateComponent_converses (live : Deployment) :
    Converses (updateComponent client.transcribing desired live)
      (updateComponent client desired live)
      fun made result =>
        AppliesComponent desired (some live) made (result.map fun _ => .updated) := by
  refine Converses.note_bind
    (.replaceDeployment (desired.deployment.withVersion live.metadata.resourceVersion))
    (fun _ => AlignsService desired) (fun _ => updateService_converses client desired) ?_
  intro stored made result aligns
  cases aligns.result_eq
  exact .updated stored (supersedes_withVersion desired.deployment live) aligns

/-- Whether a component is created or updated is up to the live Deployment alone. -/
theorem applyComponent_converses (live : Option Deployment) :
    Converses (applyComponent client.transcribing desired live)
      (applyComponent client desired live) (AppliesComponent desired live) := by
  cases live with
  | none => exact (createComponent_converses client desired).bind_pure _ fun _ _ applies => applies
  | some live =>
    exact (updateComponent_converses client desired live).bind_pure _ fun _ _ applies => applies

/-- One request opens the watch. From then on the events of the pods decide. -/
theorem waitForRunningPod_converses (timeout : Duration) (selector : String) :
    Converses (waitForRunningPod client.transcribing timeout selector)
      (waitForRunningPod client timeout selector) (WatchesPods timeout selector) := by
  refine Converses.note_bind (.watchPods selector)
    (fun watch => AsksNothing (PodWatch.outcome watch selector timeout).2) (fun watch => ?_) ?_
  · -- Whatever the pods do, the client is not asked any more.
    generalize PodWatch.outcome watch selector timeout = outcome
    obtain ⟨waited, ends⟩ := outcome
    let stopped : Session σ Unit := liftM (client.endWatch waited)
    cases ends with
    | ok pod =>
      exact @Converses.beside σ _ (do stopped; return pod) (.ok pod) fun _ => rfl
    | error failure =>
      exact @Converses.beside σ _ (do stopped; throw failure) (.error failure) fun _ => rfl
  · rintro watch _ _ ⟨⟩
    exact .watched watch

/-! ### Reconciling -/

/-- What comes after the claims. -/
theorem bringUp_converses (timeout : Duration) (live : Option Deployment) :
    Converses
      (do
        let action ← applyComponent client.transcribing desired live
        let pod ← waitForRunningPod client.transcribing timeout desired.selector
        return ⟨action, pod.metadata.nameOrEmpty⟩)
      (do
        let action ← applyComponent client desired live
        let pod ← waitForRunningPod client timeout desired.selector
        return ⟨action, pod.metadata.nameOrEmpty⟩)
      (BringsUp timeout desired live) := by
  refine (applyComponent_converses client desired live).bind
    (fun action made result => ∃ watched, WatchesPods timeout desired.selector made watched ∧
      result = watched.map fun pod => ⟨action, pod.metadata.nameOrEmpty⟩)
    (fun action => ?_) ?_ ?_
  · refine (waitForRunningPod_converses client timeout desired.selector).bind_pure _ ?_
    intro made result watches
    exact ⟨result, watches, rfl⟩
  · rintro applying action watching _ applies ⟨watched, watches, rfl⟩
    exact .brought applies watches
  · intro made failure applies
    obtain ⟨action, impossible⟩ := applies.exists_ok
    cases impossible

theorem reconcile_converses (timeout : Duration) :
    Converses (reconcile client.transcribing timeout desired) (reconcile client timeout desired)
      (Reconciles timeout desired) := by
  refine Converses.note_bind (.listDeployments desired.selector)
    (fun listed made => Reconciles timeout desired
      (⟨.listDeployments desired.selector, .ok listed⟩ :: made)) (fun listed => ?_)
    fun _ _ _ reconciles => reconciles
  refine (ensureClaims_converses client desired.claims).bind
    (fun _ => BringsUp timeout desired _) (fun _ => bringUp_converses client desired timeout _)
    ?_ ?_
  · intro ensuring _ bringing result ensures bringsUp
    exact .listed ensures bringsUp
  · intro made failure ensures
    cases ensures.result_eq

/-- Whatever a client answers, reconciling asks it for what `Reconciles` says, in that order and
for nothing else. The first request that fails is the last one, and then its failure is what
reconciling comes to. -/
theorem reconcile_transcript {σ : Type} (client : ClusterClient σ) (timeout : Duration)
    (desired : DesiredComponent) (s : σ) :
    let run := reconcile client timeout desired s
    ∃ made, reconcile client.transcribing timeout desired (s, []) = (run.1, (run.2, made)) ∧
      UpToFailure (Reconciles timeout desired) made run.1 :=
  (reconcile_converses client desired timeout).held s []

end DevfilePush
