import DevfilePush.Proofs.Cluster.Calm
import DevfilePush.Proofs.Cluster.Reachable
import DevfilePush.Proofs.Cluster.Selector
import DevfilePush.Proofs.Push.SoleComponent

/-!
Creating a component on an empty cluster.

What is listed for a component before anything is written, its manifests, is what reconciling
then creates: one call for each, in the order of the list, and afterwards the cluster holds
just these objects. They differ from the manifests only in what the cluster assigns, the
versions and the addresses of the Service (`reconcile_creates_manifests`).

The claims are looked for and created one after another. As long as their names differ, none
that has just been created is taken for the next one (`ensureClaims_performs_of_free`).
-/

namespace DevfilePush

open Kubernetes (Claim Deployment Metadata Pod Service)

/-! ### What a manifest says it is -/

/-- The text of a JSON string. -/
def Json.text? : Json → Option String
  | .string text => some text
  | _ => none

/-- The kind and the name that a manifest gives. -/
def Json.identity (manifest : Json) : Option String × Option String :=
  ((manifest.get? "kind").bind Json.text?,
    ((manifest.get? "metadata").bind (·.get? "name")).bind Json.text?)

/-- The kind of object that an operation creates. -/
def Operation.createdKind? : Operation → Option String
  | createDeployment => some Deployment.kind
  | createService => some Service.kind
  | createClaim => some Claim.kind
  | _ => none

/-- The kind and the name that a call creates. -/
def Call.creation (call : Call) : Option String × Option String :=
  (call.operation.createdKind?, some call.target)

namespace Kubernetes

theorem Metadata.get?_name_toJson (metadata : Metadata) :
    (metadata.toJson.get? "name").bind Json.text? = metadata.name := by
  obtain ⟨name, labels, resourceVersion, deletionTimestamp⟩ := metadata
  cases name <;> cases labels <;> cases resourceVersion <;> cases deletionTimestamp <;> rfl

/-- An object's manifest gives its kind and its name, whether it has a specification or
not. -/
theorem identity_typedJson (apiVersion kind : String) (metadata : Metadata) (spec : Option Json) :
    (typedJson apiVersion kind [("metadata", some metadata.toJson), ("spec", spec)]).identity =
      (some kind, metadata.name) := by
  have named := metadata.get?_name_toJson
  cases spec with
  | none => exact Prod.ext rfl named
  | some spec => exact Prod.ext rfl named

theorem Deployment.identity_toJson (deployment : Deployment) :
    deployment.toJson.identity = (some Deployment.kind, deployment.metadata.name) :=
  identity_typedJson _ _ _ _

theorem Service.identity_toJson (service : Service) :
    service.toJson.identity = (some Service.kind, service.metadata.name) :=
  identity_typedJson _ _ _ _

theorem Claim.identity_toJson (claim : Claim) :
    claim.toJson.identity = (some Claim.kind, claim.metadata.name) :=
  identity_typedJson _ _ _ _

/-! ### What the cluster assigns -/

/-- Metadata without what the cluster assigns. -/
def Metadata.unassigned (metadata : Metadata) : Metadata :=
  { metadata with resourceVersion := none }

/-- The object without what the cluster assigns to it. -/
def Deployment.unassigned (deployment : Deployment) : Deployment :=
  { deployment with metadata := deployment.metadata.unassigned }

@[inherit_doc Deployment.unassigned]
def Claim.unassigned (claim : Claim) : Claim :=
  { claim with metadata := claim.metadata.unassigned }

/-- The Service without its version and addresses. -/
def Service.unassigned (service : Service) : Service :=
  { metadata := service.metadata.unassigned
    spec := service.spec.map fun spec => { spec with clusterIP := none, clusterIPs := none } }

end Kubernetes

/-- The manifests of what is stored, without what the cluster has assigned. -/
def ClusterObjects.manifests (objects : ClusterObjects) : List Json :=
  objects.claims.values.map (·.unassigned.toJson) ++
    objects.deployments.values.map (·.unassigned.toJson) ++
    objects.services.values.map (·.unassigned.toJson)

/-! ### Creating claims -/

namespace ClusterObjects

/-- What is left after creating claims one after another. -/
def withClaims (objects : ClusterObjects) : List Claim → ClusterObjects
  | [] => objects
  | claim :: rest => (objects.withClaim claim).2.withClaims rest

variable {objects : ClusterObjects} {claims : List Claim}

@[simp] theorem withClaims_deployments :
    (objects.withClaims claims).deployments = objects.deployments := by
  induction claims generalizing objects with
  | nil => rfl
  | cons claim rest ih => exact ih

@[simp] theorem withClaims_services :
    (objects.withClaims claims).services = objects.services := by
  induction claims generalizing objects with
  | nil => rfl
  | cons claim rest ih => exact ih

@[simp] theorem withClaims_pods : (objects.withClaims claims).pods = objects.pods := by
  induction claims generalizing objects with
  | nil => rfl
  | cons claim rest ih => exact ih

/-- No claim of the given ones is there yet, and no two of them have the same name. -/
structure Free (objects : ClusterObjects) (claims : List Claim) : Prop where
  absent : ∀ claim ∈ claims, objects.claims.get? claim.metadata.nameOrEmpty = none
  distinct : (claims.map fun claim => claim.metadata.nameOrEmpty).Nodup

/-- The first of the claims being created, the others are still free. -/
theorem Free.tail {claim : Claim} (free : objects.Free (claim :: claims)) :
    (objects.withClaim claim).2.Free claims := by
  obtain ⟨others, distinct⟩ := List.nodup_cons.mp free.distinct
  refine ⟨fun other mem => ?_, distinct⟩
  have ne : other.metadata.nameOrEmpty ≠ claim.metadata.nameOrEmpty := by
    intro same
    exact others (List.mem_map.mpr ⟨other, mem, same⟩)
  rw [withClaim_claims, OrderedMap.get?_insert_of_ne _ ne]
  exact free.absent other (List.mem_cons_of_mem _ mem)

/-- Claims that are created come after those that are there, as they were given. -/
theorem Free.values_withClaims (free : objects.Free claims) :
    (objects.withClaims claims).claims.values.map Claim.unassigned =
      objects.claims.values.map Claim.unassigned ++ claims.map Claim.unassigned := by
  induction claims generalizing objects with
  | nil => rw [withClaims, List.map_nil, List.append_nil]
  | cons claim rest ih =>
    have absent := free.absent claim List.mem_cons_self
    rw [withClaims, ih free.tail, withClaim_claims, OrderedMap.values_insert_of_get?_eq_none absent,
      List.map_append, List.append_assoc]
    rfl

/-! ### Creating the component -/

/-- What is left after creating the Deployment, and the Service if there is to be one. -/
def withComponent (objects : ClusterObjects) (phase : Option String)
    (desired : DesiredComponent) : ClusterObjects :=
  match desired.service with
  | none => (objects.storeDeployment phase desired.deployment).2
  | some service => ((objects.storeDeployment phase desired.deployment).2.withService service).2

variable {phase : Option String} {desired : DesiredComponent}

theorem withComponent_claims : (objects.withComponent phase desired).claims = objects.claims := by
  rw [withComponent]
  split
  · exact storeDeployment_claims
  · exact storeDeployment_claims

theorem withComponent_pods :
    (objects.withComponent phase desired).pods =
      (objects.schedulePod phase desired.deployment).pods := by
  rw [withComponent]
  split
  · exact storeDeployment_pods
  · exact storeDeployment_pods

theorem withComponent_deployments :
    (objects.withComponent phase desired).deployments =
      objects.deployments.insert desired.deployment.metadata.nameOrEmpty
        (objects.storeDeployment phase desired.deployment).1 := by
  rw [withComponent]
  split
  · exact storeDeployment_deployments
  · exact storeDeployment_deployments

/-- The Service that is created is the desired one, but for its version and address. -/
theorem values_services_withComponent (rendered : desired.IsRendered)
    (none : objects.services = .empty) :
    (objects.withComponent phase desired).services.values.map Service.unassigned =
      desired.service.toList := by
  rw [withComponent]
  cases isDesired : desired.service with
  | none =>
    rw [storeDeployment_services, none]
    rfl
  | some service =>
    obtain ⟨ports, rfl⟩ := rendered.service_eq isDesired
    rw [withService_services, storeDeployment_services, none]
    rfl

end ClusterObjects

/-- How a claim is created: it is looked for first. -/
def Kubernetes.Claim.creationCalls (claim : Claim) : List Call :=
  [⟨.getClaim, claim.metadata.nameOrEmpty, []⟩, ⟨.createClaim, claim.metadata.nameOrEmpty, []⟩]

namespace MemoryCluster

variable {behaviour : ClusterBehaviour} {objects : ClusterObjects} {desired : DesiredComponent}
  {timeout : Duration}

section

variable (calm : behaviour.IsCalm)

include calm

/-- Claims of which none is there yet are all created, each after it has been looked for. -/
theorem ensureClaims_performs_of_free {claims : List Claim} (free : objects.Free claims) :
    Performs behaviour (ensureClaims client claims) objects (claims.flatMap Claim.creationCalls) ()
      (objects.withClaims claims) := by
  induction claims generalizing objects with
  | nil => exact .pure ()
  | cons claim rest ih =>
    have absent := free.absent claim List.mem_cons_self
    have asks := getClaim_performs calm objects claim.metadata.nameOrEmpty
    rw [absent] at asks
    exact asks.bind ((createClaim_performs calm absent).bind (ih free.tail))

/-- Where neither a Deployment nor a Service of the component is there, both are created. -/
theorem createComponent_performs_of_free (rendered : desired.IsRendered)
    (noDeployment : objects.deployments.get? desired.name = none)
    (noService : objects.services.get? desired.name = none) :
    Performs behaviour (createComponent client desired) objects
      (⟨.createDeployment, desired.name, []⟩ ::
        desired.service.toList.map fun _ => ⟨.createService, desired.name, []⟩) ()
      (objects.withComponent behaviour.scheduledPodPhase desired) := by
  rw [← rendered.deployment_nameOrEmpty] at noDeployment
  have creates := createDeployment_performs calm noDeployment
  rw [rendered.deployment_nameOrEmpty] at creates
  rw [createComponent, ClusterObjects.withComponent]
  cases isDesired : desired.service with
  | none => exact creates.bind (.pure ())
  | some service =>
    have isNamed : service.metadata.nameOrEmpty = desired.name := by
      obtain ⟨ports, rfl⟩ := rendered.service_eq isDesired
      rfl
    have stillNone : (objects.storeDeployment behaviour.scheduledPodPhase
        desired.deployment).2.services.get? service.metadata.nameOrEmpty = none := by
      rw [ClusterObjects.storeDeployment_services, isNamed, noService]
    have serves := createService_performs calm stillNone
    rw [isNamed] at serves
    exact creates.bind (serves.bind (.pure ()))

/-- So everything but the claims takes one call, or two if there is to be a Service. -/
theorem applyComponent_performs_of_free (rendered : desired.IsRendered)
    (noDeployment : objects.deployments.get? desired.name = none)
    (noService : objects.services.get? desired.name = none) :
    Performs behaviour (applyComponent client desired none) objects
      (⟨.createDeployment, desired.name, []⟩ ::
        desired.service.toList.map fun _ => ⟨.createService, desired.name, []⟩) .created
      (objects.withComponent behaviour.scheduledPodPhase desired) := by
  have creates := createComponent_performs_of_free calm rendered noDeployment noService
  have applies : Performs behaviour (applyComponent client desired none) objects (_ ++ [])
      ReconcileAction.created _ := creates.bind (.pure ReconcileAction.created)
  rw [List.append_nil] at applies
  exact applies

end

end MemoryCluster

/-! ### Creating everything -/

/-- Everything that is asked for and written on an empty cluster. -/
def DesiredComponent.creationCalls (desired : DesiredComponent) : List Call :=
  ⟨.listDeployments, desired.selector, []⟩ :: desired.claims.flatMap Claim.creationCalls ++
    ⟨.createDeployment, desired.name, []⟩ ::
      (desired.service.toList.map fun _ => ⟨.createService, desired.name, []⟩) ++
    [⟨.watchPods, desired.selector, []⟩]

/-- The calls that create the component's objects. -/
def DesiredComponent.creations (desired : DesiredComponent) : List Call :=
  (desired.claims.map fun claim => ⟨.createClaim, claim.metadata.nameOrEmpty, []⟩) ++
    [⟨.createDeployment, desired.name, []⟩] ++
    desired.service.toList.map fun _ => ⟨.createService, desired.name, []⟩

/-- Of the calls for claims, those that create them are the mutating ones. -/
theorem filter_claimCalls (claims : List Claim) :
    (claims.flatMap Claim.creationCalls).filter (fun call => call.operation.isMutating) =
      claims.map fun claim => ⟨.createClaim, claim.metadata.nameOrEmpty, []⟩ := by
  induction claims with
  | nil => rfl
  | cons claim rest ih =>
    rw [List.flatMap_cons, List.filter_append, ih]
    rfl

/-- Nothing else is written. -/
theorem DesiredComponent.filter_creationCalls (desired : DesiredComponent) :
    desired.creationCalls.filter (fun call => call.operation.isMutating) = desired.creations := by
  rw [creationCalls, creations, List.filter_append, List.filter_append, ← filter_claimCalls,
    List.append_assoc, List.append_assoc]
  cases desired.service <;> rfl

/-- What is created is what the manifests list, in their order. -/
theorem DesiredComponent.IsRendered.creations_eq {desired : DesiredComponent}
    (rendered : desired.IsRendered) :
    desired.creations.map Call.creation = desired.manifests.map Json.identity := by
  have claims : (desired.claims.map fun claim =>
      (⟨.createClaim, claim.metadata.nameOrEmpty, []⟩ : Call)).map Call.creation =
        (desired.claims.map Claim.toJson).map Json.identity := by
    rw [List.map_map, List.map_map]
    refine List.map_congr_left fun claim mem => ?_
    obtain ⟨name, named⟩ := rendered.claim_metadata mem
    simp only [Function.comp_apply, claim.identity_toJson, Call.creation, named]
    rfl
  have deployment : Call.creation ⟨.createDeployment, desired.name, []⟩ =
      desired.deployment.toJson.identity := by
    rw [Deployment.identity_toJson, rendered.deployment_metadata]
    rfl
  have services : (desired.service.toList.map fun _ =>
      (⟨.createService, desired.name, []⟩ : Call)).map Call.creation =
        (desired.service.toList.map Service.toJson).map Json.identity := by
    cases isDesired : desired.service with
    | none => rfl
    | some service =>
      obtain ⟨ports, rfl⟩ := rendered.service_eq isDesired
      simp only [Option.toList_some, List.map_singleton, Service.identity_toJson]
      rfl
  rw [creations, manifests, List.map_append, List.map_append, List.map_append, List.map_append,
    claims, services, List.map_singleton, List.map_singleton, deployment]

/-! ### What is stored -/

/-- What is left after creating everything on an empty cluster. -/
def ClusterObjects.ofDesired (phase : Option String) (desired : DesiredComponent) :
    ClusterObjects :=
  (empty.withClaims desired.claims).withComponent phase desired

/-- On a cluster that held nothing, the desired objects are stored and no others, but for
what the cluster has assigned to them. -/
structure CreatedAs (desired : DesiredComponent) (objects : ClusterObjects) : Prop where
  claims : objects.claims.values.map Claim.unassigned = desired.claims
  deployments : objects.deployments.values.map Deployment.unassigned = [desired.deployment]
  services : objects.services.values.map Service.unassigned = desired.service.toList
  /-- Each stands under its own name. -/
  filed : objects.Filed

/-- So what is stored has the manifests of what is desired. -/
theorem CreatedAs.manifests_eq {desired : DesiredComponent} {objects : ClusterObjects}
    (created : CreatedAs desired objects) : objects.manifests = desired.manifests := by
  have claims : objects.claims.values.map (·.unassigned.toJson) =
      desired.claims.map Claim.toJson := by
    rw [← created.claims, List.map_map]
    rfl
  have deployments : objects.deployments.values.map (·.unassigned.toJson) =
      [desired.deployment.toJson] := by
    rw [← List.map_singleton, ← created.deployments, List.map_map]
    rfl
  have services : objects.services.values.map (·.unassigned.toJson) =
      desired.service.toList.map Service.toJson := by
    rw [← created.services, List.map_map]
    rfl
  rw [ClusterObjects.manifests, DesiredComponent.manifests, claims, deployments, services]

namespace ClusterObjects

variable {objects : ClusterObjects} {desired : DesiredComponent} {phase : Option String}

theorem Filed.withClaims {claims : List Claim} (filed : objects.Filed) :
    (objects.withClaims claims).Filed := by
  induction claims generalizing objects with
  | nil => exact filed
  | cons claim rest ih => exact ih (filed.withClaim claim)

theorem Filed.withComponent (filed : objects.Filed) :
    (objects.withComponent phase desired).Filed := by
  rw [ClusterObjects.withComponent]
  split
  · exact filed.storeDeployment _ _
  · exact (filed.storeDeployment _ _).withService _

/-- What is created on an empty cluster is what is desired: nothing desired has a version or
an address of its own. -/
theorem createdAs_ofDesired (phase : Option String) (rendered : desired.IsRendered)
    (distinct : (desired.claims.map fun claim => claim.metadata.nameOrEmpty).Nodup) :
    CreatedAs desired (ofDesired phase desired) := by
  have free : empty.Free desired.claims := ⟨fun _ _ => rfl, distinct⟩
  constructor
  case claims =>
    have unassigned : ∀ claim ∈ desired.claims, claim.unassigned = claim := by
      intro claim mem
      obtain ⟨name, named⟩ := rendered.claim_metadata mem
      obtain ⟨metadata, spec⟩ := claim
      change metadata = _ at named
      rw [named]
      rfl
    rw [ofDesired, withComponent_claims, free.values_withClaims, List.map_congr_left unassigned,
      List.map_id']
    rfl
  case deployments =>
    obtain ⟨containers, initContainers, volumes, same⟩ := rendered.exists_buildDeployment
    rw [ofDesired, withComponent_deployments, withClaims_deployments, same]
    rfl
  case services =>
    exact values_services_withComponent rendered withClaims_services
  case filed => exact Filed.empty.withClaims.withComponent

end ClusterObjects

namespace MemoryCluster

variable {behaviour : ClusterBehaviour} {desired : DesiredComponent} {timeout : Duration}

/-- The pod that is scheduled is the only one, and it runs. -/
theorem exists_running_ofDesired (rendered : desired.IsRendered) (plain : PlainName desired.name) :
    ∃ pod, ((watchOf (.ofDesired (some Pod.runningPhase) desired) desired.selector).outcome
      desired.selector timeout).2 = .ok pod := by
  have only : (ClusterObjects.ofDesired (some Pod.runningPhase) desired).pods.values =
      [ClusterObjects.scheduledPod desired.deployment Pod.runningPhase
        ((ClusterObjects.empty.withClaims desired.claims).podCount + 1)] := by
    rw [ClusterObjects.ofDesired, ClusterObjects.withComponent_pods,
      ClusterObjects.schedulePod_pods, ClusterObjects.withClaims_pods]
    rfl
  exact ⟨_, outcome_of_only_pod rendered plain only⟩

/-- Reconciling on an empty cluster creates one object after another. -/
theorem reconcile_performs_of_empty (calm : behaviour.IsCalm)
    (running : behaviour.scheduledPodPhase = some Pod.runningPhase)
    (rendered : desired.IsRendered) (plain : PlainName desired.name)
    (distinct : (desired.claims.map fun claim => claim.metadata.nameOrEmpty).Nodup) :
    ∃ pod after, Performs behaviour (reconcile client timeout desired) .empty
      desired.creationCalls ⟨.created, pod⟩ after ∧ CreatedAs desired after := by
  have lists := listDeployments_performs calm .empty desired.selector
  have free : ClusterObjects.empty.Free desired.claims := ⟨fun _ _ => rfl, distinct⟩
  have ensures := ensureClaims_performs_of_free calm free
  have noDeployment : (ClusterObjects.empty.withClaims desired.claims).deployments.get?
      desired.name = none := by
    rw [ClusterObjects.withClaims_deployments]
    rfl
  have noService : (ClusterObjects.empty.withClaims desired.claims).services.get?
      desired.name = none := by
    rw [ClusterObjects.withClaims_services]
    rfl
  have applies := applyComponent_performs_of_free calm rendered noDeployment noService
  rw [running] at applies
  obtain ⟨pod, isRunning⟩ := exists_running_ofDesired rendered plain
  obtain ⟨watches, count, waits⟩ := waitForRunningPod_performs calm isRunning
  have inOrder : desired.creationCalls = [⟨.listDeployments, desired.selector, []⟩] ++
      (desired.claims.flatMap Claim.creationCalls ++
        (⟨.createDeployment, desired.name, []⟩ ::
            (desired.service.toList.map fun _ => ⟨.createService, desired.name, []⟩) ++
          ([⟨.watchPods, desired.selector, []⟩] ++ []))) := by
    simp [DesiredComponent.creationCalls]
  have created := ClusterObjects.createdAs_ofDesired (some Pod.runningPhase) rendered distinct
  refine ⟨pod.metadata.nameOrEmpty, { ClusterObjects.ofDesired (some Pod.runningPhase) desired with
    watches := watches, watchCount := count }, ?_,
    ⟨created.claims, created.deployments, created.services, { created.filed with }⟩⟩
  rw [inOrder]
  exact lists.bind (ensures.bind (applies.bind (waits.bind (.pure _))))

/-- Reconciling on an empty cluster creates what the manifests list: its mutating calls are
one for each manifest, in their order and each with the kind and the name of its manifest, and
what is stored afterwards are just these objects, but for the versions and addresses that the
cluster has assigned. -/
theorem reconcile_creates_manifests (calm : behaviour.IsCalm)
    (running : behaviour.scheduledPodPhase = some Pod.runningPhase)
    (rendered : desired.IsRendered) (plain : PlainName desired.name)
    (distinct : (desired.claims.map fun claim => claim.metadata.nameOrEmpty).Nodup)
    (timeout : Duration) (history : List Call) :
    ∃ pod calls after,
      reconcile client timeout desired ⟨behaviour, .empty, history⟩ = (.ok ⟨.created, pod⟩, after) ∧
      after.history = history ++ calls ∧
      (calls.filter fun call => call.operation.isMutating).map Call.creation =
        desired.manifests.map Json.identity ∧
      after.objects.manifests = desired.manifests ∧ CreatedAs desired after.objects := by
  obtain ⟨pod, after, performs, created⟩ :=
    reconcile_performs_of_empty calm running rendered plain distinct
  refine ⟨pod, desired.creationCalls, _, performs history, rfl, ?_, created.manifests_eq, created⟩
  rw [desired.filter_creationCalls, rendered.creations_eq]

/-- The sample component with a port and two volumes. -/
def stocked : Devfile :=
  { Devfile.sample [8080] with
    components := (Devfile.sample [8080]).components ++
      [⟨"data", .volume { size := some "2Gi" }⟩, ⟨"cache", .volume {}⟩] }

/-- Its two claims, its Deployment and its Service are created, in this order. -/
theorem reconcile_creates_manifests_sample :
    ∃ desired pod calls after, render stocked {} = .ok desired ∧
      reconcile client ⟨0⟩ desired (.empty (some Pod.runningPhase)) =
        (.ok ⟨.created, pod⟩, after) ∧
      after.history = calls ∧
      (calls.filter fun call => call.operation.isMutating).map Call.creation =
        [(some Claim.kind, some "web-data"), (some Claim.kind, some "web-cache"),
          (some Deployment.kind, some "web"), (some Service.kind, some "web")] := by
  have renders : ∃ desired, render stocked {} = .ok desired ∧
      (decide (desired.name = "web") &&
        decide (desired.claims.map fun claim => claim.metadata.nameOrEmpty).Nodup &&
        decide (desired.manifests.map Json.identity =
          [(some Claim.kind, some "web-data"), (some Claim.kind, some "web-cache"),
            (some Deployment.kind, some "web"), (some Service.kind, some "web")])) = true :=
    Checked.exists_of_any_toOption (by decide +kernel)
  obtain ⟨desired, rendered, found⟩ := renders
  simp only [Bool.and_eq_true, decide_eq_true_eq] at found
  obtain ⟨⟨isNamed, distinct⟩, manifests⟩ := found
  have plain : PlainName desired.name := by
    rw [isNamed]
    exact ⟨by decide, by decide⟩
  have calm : (empty (some Pod.runningPhase)).behaviour.IsCalm := fun _ => rfl
  obtain ⟨pod, calls, after, run, made, creations, -, -⟩ :=
    reconcile_creates_manifests calm rfl ⟨_, _, rendered⟩ plain distinct ⟨0⟩ []
  exact ⟨desired, pod, calls, after, rendered, run, made, creations.trans manifests⟩

end MemoryCluster

end DevfilePush
