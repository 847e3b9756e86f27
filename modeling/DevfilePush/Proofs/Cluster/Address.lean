import DevfilePush.Proofs.Cluster.Event

/-!
The addresses of Services.

A Service gets its address when it is created. Replacing it stores what is sent as a whole, even
without a specification, but only if what is sent has the address of the live one. So each
event leaves the address of a Service alone, unless it creates or deletes the Service
(`Occurs.affectsService`), and in every run the stored Services are those that have been
created and not been deleted since, each with the address that it was created with
(`address_kept`).
-/

namespace DevfilePush

open Kubernetes (Service)

/-! ### Assigned addresses -/

/-- The event creates a Service of that name, which gets the address. -/
def ClusterEvent.Assigns (name address : String) : ClusterEvent → Prop
  | .create (.service _) (.ok (.service created)) =>
    created.metadata.nameOrEmpty = name ∧ created.clusterIP? = some address
  | _ => False

/-- The event deletes the Service of that name. -/
def ClusterEvent.DeletesService (name : String) : ClusterEvent → Prop
  | .delete place answer => place = ⟨.service, name⟩ ∧ answer = .ok ()
  | _ => False

namespace ClusterEvent

variable {event : ClusterEvent} {name address other : String}

theorem Assigns.exists_created (assigns : event.Assigns name address) :
    ∃ sent created, event = .create (.service sent) (.ok (.service created)) ∧
      created.metadata.nameOrEmpty = name ∧ created.clusterIP? = some address := by
  unfold Assigns at assigns
  split at assigns
  · exact ⟨_, _, rfl, assigns⟩
  · cases assigns

/-- A Service gets one address. -/
theorem Assigns.address_eq (assigns : event.Assigns name address)
    (again : event.Assigns name other) : address = other := by
  obtain ⟨sent, created, rfl, -, isAddress⟩ := assigns.exists_created
  exact Option.some.inj (isAddress.symm.trans again.2)

theorem Assigns.not_deletesService (assigns : event.Assigns name address) :
    ¬ event.DeletesService other := by
  obtain ⟨sent, created, rfl, -⟩ := assigns.exists_created
  exact id

end ClusterEvent

/-- A Service of that name has been created with the address, and it has not been deleted
since. -/
def AssignedSince (events : List ClusterEvent) (name address : String) : Prop :=
  ∃ earlier creation later, events = earlier ++ creation :: later ∧
    creation.Assigns name address ∧ ∀ event ∈ later, ¬ event.DeletesService name

/-- A Service of that name is stored, with the address. -/
def ClusterObjects.HasAddress (objects : ClusterObjects) (name address : String) : Prop :=
  ∃ service, objects.services.get? name = some service ∧ service.clusterIP? = some address

variable {events : List ClusterEvent} {event : ClusterEvent} {name address : String}

theorem not_assignedSince_nil : ¬ AssignedSince [] name address := by
  rintro ⟨earlier, creation, later, split, -⟩
  cases earlier <;> cases split

/-- What the last event has to do with it. -/
theorem assignedSince_snoc_iff :
    AssignedSince (events ++ [event]) name address ↔
      event.Assigns name address ∨
        AssignedSince events name address ∧ ¬ event.DeletesService name := by
  constructor
  · rintro ⟨earlier, creation, later, split, assigns, undeleted⟩
    rcases List.eq_nil_or_concat later with rfl | ⟨later, last, rfl⟩
    · obtain ⟨-, isLast⟩ := List.append_inj' split rfl
      cases isLast
      exact .inl assigns
    · rw [List.concat_eq_append, ← List.cons_append, ← List.append_assoc] at split
      obtain ⟨rfl, isLast⟩ := List.append_inj' split rfl
      cases isLast
      rw [List.concat_eq_append] at undeleted
      exact .inr ⟨⟨earlier, creation, later, rfl, assigns,
        fun event mem => undeleted event (List.mem_append_left _ mem)⟩,
        undeleted event (List.mem_append_right _ List.mem_cons_self)⟩
  · rintro (assigns | ⟨⟨earlier, creation, later, rfl, assigns, undeleted⟩, kept⟩)
    · exact ⟨events, event, [], rfl, assigns, fun _ mem => absurd mem List.not_mem_nil⟩
    · refine ⟨earlier, creation, later ++ [event], by simp, assigns, fun since mem => ?_⟩
      rcases List.mem_append.mp mem with mem | mem
      · exact undeleted since mem
      · cases List.mem_singleton.mp mem
        exact kept

/-! ### What an event does to a Service -/

/-- What becomes of the Service of a name. -/
inductive AffectsService (name : String) (before : ClusterObjects) (event : ClusterEvent)
    (after : ClusterObjects) : Prop where
  /-- There is none, and one is created. It gets the next address. -/
  | creates (free : before.services.get? name = none)
      (assigns : event.Assigns name before.nextAddress)
      (stored : after.HasAddress name before.nextAddress)
  | deletes (isDeletion : event.DeletesService name) (gone : after.services.get? name = none)
  /-- There is one exactly if there was, and with the same address. -/
  | keeps (noCreation : ∀ address, ¬ event.Assigns name address)
      (noDeletion : ¬ event.DeletesService name)
      (same : (after.services.get? name).map (·.clusterIP?) =
        (before.services.get? name).map (·.clusterIP?))

namespace AffectsService

variable {before after : ClusterObjects}

/-- Nothing is created or deleted. -/
theorem of_unrelated (noCreation : ∀ address, ¬ event.Assigns name address)
    (noDeletion : ¬ event.DeletesService name)
    (same : after.services = before.services) : AffectsService name before event after :=
  .keeps noCreation noDeletion (by rw [same])

/-- A Service has an address when it has just been given it, or if it had it before. -/
theorem hasAddress_iff (affects : AffectsService name before event after) :
    after.HasAddress name address ↔
      event.Assigns name address ∨
        before.HasAddress name address ∧ ¬ event.DeletesService name := by
  cases affects with
  | creates free assigns stored =>
    have notBefore : ¬ before.HasAddress name address := by
      rintro ⟨service, found, -⟩
      rw [free] at found
      cases found
    obtain ⟨service, found, isAddress⟩ := stored
    constructor
    · rintro ⟨service', found', isAddress'⟩
      cases found.symm.trans found'
      obtain rfl := Option.some.inj (isAddress.symm.trans isAddress')
      exact .inl assigns
    · rintro (again | ⟨has, -⟩)
      · obtain rfl := again.address_eq assigns
        exact ⟨service, found, isAddress⟩
      · exact absurd has notBefore
  | deletes isDeletion gone =>
    constructor
    · rintro ⟨service, found, -⟩
      rw [gone] at found
      cases found
    · rintro (assigns | ⟨-, kept⟩)
      · exact absurd isDeletion assigns.not_deletesService
      · exact absurd isDeletion kept
  | keeps noCreation noDeletion same =>
    have sameAddress : after.HasAddress name address ↔ before.HasAddress name address := by
      simp only [ClusterObjects.HasAddress, ← Option.map_eq_some_iff, same]
    rw [sameAddress]
    constructor
    · intro has
      exact .inr ⟨has, noDeletion⟩
    · rintro (assigns | ⟨has, -⟩)
      · exact absurd assigns (noCreation address)
      · exact has

/-- If there has been no Service without an address, then there is none. -/
theorem exists_address (affects : AffectsService name before event after)
    (addressed : ∀ service, before.services.get? name = some service →
      ∃ address, service.clusterIP? = some address) {service : Service}
    (found : after.services.get? name = some service) :
    ∃ address, service.clusterIP? = some address := by
  cases affects with
  | creates free assigns stored =>
    obtain ⟨created, isStored, isAddress⟩ := stored
    cases found.symm.trans isStored
    exact ⟨_, isAddress⟩
  | deletes isDeletion gone =>
    rw [gone] at found
    cases found
  | keeps noCreation noDeletion same =>
    rw [found, Option.map_some] at same
    obtain ⟨old, wasFound, sameAddress⟩ := Option.map_eq_some_iff.mp same.symm
    rw [← sameAddress]
    exact addressed old wasFound

end AffectsService

namespace MemoryCluster

variable {cluster next : MemoryCluster} {call : Call} {α : Type}

/-- A transaction leaves the Services alone if it does so when it is done. -/
theorem services_transact
    {outcome : ClusterBehaviour → ClusterObjects → Except Failure (α × ClusterObjects)}
    (unaffected : ∀ value after, outcome cluster.behaviour cluster.objects = .ok (value, after) →
      after.services = cluster.objects.services) :
    (transact call outcome cluster).2.objects.services = cluster.objects.services := by
  rcases transact_cases cluster call outcome with ⟨failure, run⟩ | ⟨value, after, came, run⟩
  · rw [run]
    rfl
  · rw [run]
    exact unaffected value after came

theorem services_inspect (view : ClusterObjects → α) :
    (inspect call view cluster).2.objects.services = cluster.objects.services := by
  rw [inspect_eq]
  refine services_transact fun value after came => ?_
  cases came
  rfl

theorem services_watchPods (selector : String) :
    (client.watchPods selector cluster).2.objects.services = cluster.objects.services := by
  rcases watchPods_cases cluster selector with ⟨failure, run⟩ | ⟨watch, run⟩
  · rw [run]
    rfl
  · rw [run]
    rfl

/-- A transaction that fails leaves all Services alone. -/
theorem affectsService_transact (toEvent : Except Failure α → ClusterEvent)
    {outcome : ClusterBehaviour → ClusterObjects → Except Failure (α × ClusterObjects)}
    (failed : ∀ failure, (∀ address, ¬ (toEvent (.error failure)).Assigns name address) ∧
      ¬ (toEvent (.error failure)).DeletesService name)
    (done : ∀ value after, outcome cluster.behaviour cluster.objects = .ok (value, after) →
      AffectsService name cluster.objects (toEvent (.ok value)) after) :
    AffectsService name cluster.objects (toEvent (transact call outcome cluster).1)
      (transact call outcome cluster).2.objects := by
  rcases transact_cases cluster call outcome with ⟨failure, run⟩ | ⟨value, after, came, run⟩
  · rw [run]
    exact .of_unrelated (failed failure).1 (failed failure).2 rfl
  · rw [run]
    exact done value after came

/-- A Service is created under a name that is free, with the next address. -/
theorem affectsService_createService (service : Service) :
    AffectsService name cluster.objects
      (.create (.service service) ((client.createService service cluster).1.map .service))
      (client.createService service cluster).2.objects := by
  rw [client_createService]
  refine affectsService_transact (fun answer => .create (.service service) (answer.map .service))
    (fun failure => ⟨fun _ => id, id⟩) fun created after came => ?_
  have free := ClusterObjects.free_of_createService came
  obtain ⟨rfl, rfl⟩ := ClusterObjects.createService_eq_ok came
  by_cases isNamed : service.metadata.nameOrEmpty = name
  · subst isNamed
    refine .creates free ⟨rfl, rfl⟩ ⟨(cluster.objects.withService service).1, ?_, rfl⟩
    rw [ClusterObjects.withService_services, OrderedMap.get?_insert, if_pos rfl]
  · refine .keeps (fun address assigns => isNamed assigns.1) id ?_
    rw [ClusterObjects.withService_services, OrderedMap.get?_insert, if_neg (Ne.symm isNamed)]

/-- A Service is replaced over its own address only. -/
theorem affectsService_replaceService (service : Service) :
    AffectsService name cluster.objects
      (.replace (.service service) ((client.replaceService service cluster).1.map .service))
      (client.replaceService service cluster).2.objects := by
  rw [client_replaceService]
  refine affectsService_transact (fun answer => .replace (.service service) (answer.map .service))
    (fun failure => ⟨fun _ => id, id⟩) fun replaced after came => ?_
  obtain ⟨live, isLive, sameAddress⟩ := ClusterObjects.exists_live_of_replaceService came
  obtain ⟨rfl, rfl⟩ := ClusterObjects.replaceService_eq_ok came
  refine .keeps (fun _ => id) id ?_
  rw [ClusterObjects.storeService_services, OrderedMap.get?_insert]
  by_cases isNamed : name = service.metadata.nameOrEmpty
  · rw [if_pos isNamed, isNamed, isLive, Option.map_some, Option.map_some, sameAddress]
    rfl
  · rw [if_neg isNamed]

theorem affectsService_deleteService (deleted : String) :
    AffectsService name cluster.objects
      (.delete ⟨.service, deleted⟩ (client.deleteService deleted cluster).1)
      (client.deleteService deleted cluster).2.objects := by
  rw [client_deleteService]
  refine affectsService_transact (.delete ⟨.service, deleted⟩)
    (fun failure => ⟨fun _ => id, fun deletes => nomatch deletes.2⟩) fun done after came => ?_
  cases ClusterObjects.deleteService_eq_ok came
  by_cases isNamed : name = deleted
  · subst isNamed
    refine .deletes ⟨rfl, rfl⟩ ?_
    rw [OrderedMap.get?_erase, if_pos rfl]
  · refine .keeps (fun _ => id) (fun deletes => isNamed (congrArg Place.name deletes.1).symm) ?_
    rw [OrderedMap.get?_erase, if_neg isNamed]

/-- What any event does to the Service of a name. -/
theorem Occurs.affectsService (occurs : Occurs cluster event next) (name : String) :
    AffectsService name cluster.objects event next.objects := by
  cases occurs with
  | createService service => exact affectsService_createService service
  | replaceService service => exact affectsService_replaceService service
  | deleteService deleted => exact affectsService_deleteService deleted
  | createDeployment deployment =>
    refine .of_unrelated (fun _ => id) id ?_
    rw [client_createDeployment]
    refine services_transact fun _ _ created => ?_
    rw [(ClusterObjects.createDeployment_eq_ok created).2]
    exact ClusterObjects.storeDeployment_services
  | replaceDeployment deployment =>
    refine .of_unrelated (fun _ => id) id ?_
    rw [client_replaceDeployment]
    refine services_transact fun _ _ replaced => ?_
    rw [(ClusterObjects.replaceDeployment_eq_ok replaced).2]
    exact ClusterObjects.storeDeployment_services
  | deleteDeployment deleted =>
    refine .of_unrelated (fun _ => id) (fun deletes => nomatch deletes.1) ?_
    rw [objects_deleteDeployment]
  | createClaim claim =>
    refine .of_unrelated (fun _ => id) id ?_
    rw [client_createClaim]
    refine services_transact fun _ _ created => ?_
    rw [(ClusterObjects.createClaim_eq_ok created).2]
    exact ClusterObjects.withClaim_services
  | listDeployments selector => exact .of_unrelated (fun _ => id) id (services_inspect _)
  | getService name => exact .of_unrelated (fun _ => id) id (services_inspect _)
  | getClaim name => exact .of_unrelated (fun _ => id) id (services_inspect _)
  | listPods selector => exact .of_unrelated (fun _ => id) id (services_inspect _)
  | deletePod deleted =>
    refine .of_unrelated (fun _ => id) id ?_
    rw [objects_deletePod]
  | watchPods selector => exact .of_unrelated (fun _ => id) id (services_watchPods selector)
  | exec pod container program =>
    refine .of_unrelated (fun _ => id) id ?_
    rw [exec_eq]
    rfl
  | closeWatch number => exact .of_unrelated (fun _ => id) id rfl
  | addPod pod => exact .of_unrelated (fun _ => id) id rfl
  | behave behaviour => exact .of_unrelated (fun _ => id) id rfl
  | forget => exact .of_unrelated (fun _ => id) id rfl

/-! ### Addresses in a run -/

variable {phase : Option String}

/-- No Service is without an address. -/
theorem Run.exists_address (run : Run (.empty phase) events cluster) {service : Service}
    (found : cluster.objects.services.get? name = some service) :
    ∃ address, service.clusterIP? = some address := by
  induction run generalizing service with
  | nil => cases found
  | snoc _ occurs ih => exact (occurs.affectsService name).exists_address (fun _ => ih) found

/-- The addresses of Services are those of their creation. -/
theorem Run.hasAddress_iff (run : Run (.empty phase) events cluster) :
    cluster.objects.HasAddress name address ↔ AssignedSince events name address := by
  induction run with
  | nil =>
    refine iff_of_false ?_ not_assignedSince_nil
    rintro ⟨service, found, -⟩
    cases found
  | snoc _ occurs ih =>
    rw [(occurs.affectsService name).hasAddress_iff, ih, assignedSince_snoc_iff]

/-- What a Service is created with is the next address, whatever has been sent. -/
theorem Occurs.clusterIP?_created {sent created : Service}
    (occurs : Occurs cluster (.create (.service sent) (.ok (.service created))) next) :
    created.clusterIP? = some cluster.objects.nextAddress := by
  generalize isEvent : ClusterEvent.create (.service sent) (.ok (.service created)) = event
    at occurs
  cases occurs with
  | createService service =>
    injection isEvent with _ answered
    rw [client_createService] at answered
    rcases transact_cases cluster ⟨.createService, service.metadata.nameOrEmpty, []⟩
      (fun _ objects => objects.createService service) with
      ⟨failure, run⟩ | ⟨stored, after, came, run⟩
    · rw [run] at answered
      cases answered
    · rw [run] at answered
      cases answered
      rw [(ClusterObjects.createService_eq_ok came).1]
      rfl
  | _ => cases isEvent

/-- In every run, every stored Service has an address in its specification. A Service is stored
with an address exactly if it has been created with it, and has not been deleted since; a Service
that is created gets the next address. -/
theorem address_kept (run : Run (.empty phase) events cluster) :
    (∀ name service, cluster.objects.services.get? name = some service →
      ∃ spec address, service.spec = some spec ∧ spec.clusterIP = some address) ∧
    (∀ name address, cluster.objects.HasAddress name address ↔
      AssignedSince events name address) ∧
    ∀ sent created next, Occurs cluster (.create (.service sent) (.ok (.service created))) next →
      created.clusterIP? = some cluster.objects.nextAddress := by
  refine ⟨fun name service found => ?_, fun name address => run.hasAddress_iff,
    fun _ _ _ occurs => occurs.clusterIP?_created⟩
  obtain ⟨address, isAddress⟩ := run.exists_address found
  obtain ⟨spec, isSpec, isAddress⟩ := Option.bind_eq_some_iff.mp isAddress
  exact ⟨spec, address, isSpec, isAddress⟩

/-- A Service called `web`, as it is sent over the given version and with the given address. -/
def webService (version address : Option String) : Service :=
  { metadata := { name := some "web", resourceVersion := version }
    spec := address.map fun address => { clusterIP := some address } }

/-- The Service has been created, not with the address that it has asked for. -/
def webServed : MemoryCluster :=
  (client.createService (webService none (some "1.2.3.4")) (.empty none)).2

/-- It has been tried to replace it without an address. -/
def webRefused : MemoryCluster :=
  (client.replaceService (webService (some "1") none) webServed).2

/-- It has been replaced. -/
def webServedAnew : MemoryCluster :=
  (client.replaceService (webService (some "1") (some "10.96.0.1")) webRefused).2

/-- The Service has been written anew, and has the address that it was created with. -/
theorem address_kept_sample :
    ∃ events, Run (.empty none) events webServedAnew ∧ AssignedSince events "web" "10.96.0.1" ∧
      webServedAnew.objects.version = 2 ∧
      webServedAnew.objects.HasAddress "web" "10.96.0.1" := by
  have creates := Occurs.createService (.empty none) (webService none (some "1.2.3.4"))
  have refuses := Occurs.replaceService webServed (webService (some "1") none)
  have replaces := Occurs.replaceService webRefused (webService (some "1") (some "10.96.0.1"))
  have run := ((Run.nil.snoc creates).snoc refuses).snoc replaces
  refine ⟨_, run, ?created, by decide +kernel,
    ((address_kept run).2.1 "web" "10.96.0.1").mpr ?created⟩
  refine assignedSince_snoc_iff.mpr (.inr ⟨?_, id⟩)
  refine assignedSince_snoc_iff.mpr (.inr ⟨?_, id⟩)
  exact assignedSince_snoc_iff.mpr (.inl ⟨rfl, by decide⟩)

end MemoryCluster

end DevfilePush
