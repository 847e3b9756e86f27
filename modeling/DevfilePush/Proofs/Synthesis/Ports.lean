import DevfilePush.Proofs.Text.Decimal
import DevfilePush.Synthesis.Ports
import Mathlib.Data.List.Forall2
import Mathlib.Data.List.Induction
import Mathlib.Data.List.Nodup
import Mathlib.Data.List.Perm.Basic
import Mathlib.Data.Option.Basic

/-!
Which ports there are.

Endpoints are gathered one after another. Each joins the port of its number or is a port of its
own, so that at any time there is one port for each number, in the order in which the numbers came
up, and it sums up the endpoints that have declared it (`Gathers.add`). What is exposed follows
from the most open endpoint of each number (`ports_spec`), and for that it makes no difference in
which order the endpoints come.
-/

namespace DevfilePush

/-! ### Exposures -/

namespace Exposure

/-- No two exposures are equally open. -/
theorem rank_injective : Function.Injective rank := by
  intro first second same
  cases first <;> cases second <;> first | rfl | cases same

theorem eq_hidden_of_rank_le {exposure : Exposure} (least : exposure.rank ≤ rank .hidden) :
    exposure = .hidden := by
  cases exposure with
  | hidden => rfl
  | everywhere => cases least
  | internal => cases least

end Exposure

/-- The exposure is that of one of the endpoints, and none of them is more open. -/
def IsMostOpen (endpoints : List Endpoint) (exposure : Exposure) : Prop :=
  (∃ endpoint ∈ endpoints, endpoint.exposure = exposure) ∧
    ∀ endpoint ∈ endpoints, endpoint.exposure.rank ≤ exposure.rank

/-- A single endpoint is the most open one. -/
theorem isMostOpen_singleton (endpoint : Endpoint) : IsMostOpen [endpoint] endpoint.exposure :=
  ⟨⟨endpoint, List.mem_singleton_self _, rfl⟩,
    fun _ mem => List.mem_singleton.mp mem ▸ Nat.le_refl _⟩

namespace IsMostOpen

variable {endpoints others : List Endpoint} {exposure other : Exposure}

/-- How open something is as a whole is determined by its endpoints. -/
theorem unique (most : IsMostOpen endpoints exposure) (mostOther : IsMostOpen endpoints other) :
    exposure = other := by
  obtain ⟨⟨first, isFirst, rfl⟩, atMost⟩ := most
  obtain ⟨⟨second, isSecond, rfl⟩, atMostOther⟩ := mostOther
  exact Exposure.rank_injective
    (Nat.le_antisymm (atMostOther first isFirst) (atMost second isSecond))

theorem of_perm (perm : others.Perm endpoints) (most : IsMostOpen endpoints exposure) :
    IsMostOpen others exposure := by
  obtain ⟨⟨endpoint, mem, isExposure⟩, atMost⟩ := most
  exact ⟨⟨endpoint, perm.mem_iff.mpr mem, isExposure⟩,
    fun endpoint mem => atMost endpoint (perm.mem_iff.mp mem)⟩

/-- A further endpoint counts only if it is more open than all before it. -/
theorem snoc (most : IsMostOpen endpoints exposure) (endpoint : Endpoint) :
    IsMostOpen (endpoints ++ [endpoint])
      (if exposure.rank < endpoint.exposure.rank then endpoint.exposure else exposure) := by
  obtain ⟨⟨first, isFirst, isExposure⟩, atMost⟩ := most
  split
  · rename_i more
    refine ⟨⟨endpoint, by simp, rfl⟩, fun other mem => ?_⟩
    rcases List.mem_append.mp mem with mem | mem
    · exact Nat.le_trans (atMost other mem) (Nat.le_of_lt more)
    · exact List.mem_singleton.mp mem ▸ Nat.le_refl _
  · rename_i notMore
    refine ⟨⟨first, List.mem_append_left _ isFirst, isExposure⟩, fun other mem => ?_⟩
    rcases List.mem_append.mp mem with mem | mem
    · exact atMost other mem
    · exact List.mem_singleton.mp mem ▸ Nat.not_lt.mp notMore

/-- Something is hidden as a whole exactly if each part of it is. -/
theorem eq_hidden_iff (most : IsMostOpen endpoints exposure) :
    exposure = .hidden ↔ ∀ endpoint ∈ endpoints, endpoint.exposure = .hidden := by
  obtain ⟨⟨endpoint, mem, rfl⟩, atMost⟩ := most
  constructor
  · intro isHidden other isOther
    exact Exposure.eq_hidden_of_rank_le (isHidden ▸ atMost other isOther)
  · intro hidden
    exact hidden endpoint mem

end IsMostOpen

/-! ### Gathering endpoints -/

/-- The endpoints that declare the port of that number, in order of declaration. -/
def sharing (number : Int) (endpoints : List Endpoint) : List Endpoint :=
  endpoints.filter fun endpoint => endpoint.targetPort = number

section

variable {number : Int} {endpoints : List Endpoint} {endpoint : Endpoint}

theorem mem_sharing_iff :
    endpoint ∈ sharing number endpoints ↔ endpoint ∈ endpoints ∧ endpoint.targetPort = number := by
  simp [sharing]

theorem sharing_snoc_of_eq (same : endpoint.targetPort = number) :
    sharing number (endpoints ++ [endpoint]) = sharing number endpoints ++ [endpoint] := by
  simp [sharing, same]

theorem sharing_snoc_of_ne (ne : endpoint.targetPort ≠ number) :
    sharing number (endpoints ++ [endpoint]) = sharing number endpoints := by
  simp [sharing, ne]

/-- A number that no endpoint has is shared by none. -/
theorem sharing_eq_nil (fresh : number ∉ endpoints.map (·.targetPort)) :
    sharing number endpoints = [] := by
  refine List.filter_eq_nil_iff.mpr fun endpoint mem isNumber => fresh ?_
  exact List.mem_map.mpr ⟨endpoint, mem, of_decide_eq_true isNumber⟩

end

namespace AggregatedPort

/-- What the port says of the endpoints that declare it. -/
structure SumsUp (port : AggregatedPort) (endpoints : List Endpoint) : Prop where
  /-- It has their names, each as often as it is declared, in order of declaration. -/
  names : port.endpoints = (sharing port.port endpoints).map (·.name)
  /-- It has the transport of the first. -/
  transport :
    (sharing port.port endpoints).head?.map (·.protocol.transport) = some port.protocol
  /-- It is as open as the most open. -/
  exposure : IsMostOpen (sharing port.port endpoints) port.exposure

variable {port : AggregatedPort} {ports : List AggregatedPort} {endpoints : List Endpoint}
  {endpoint : Endpoint}

/-- An endpoint with another number does not concern the port. -/
theorem SumsUp.keep (sums : port.SumsUp endpoints) (ne : port.port ≠ endpoint.targetPort) :
    port.SumsUp (endpoints ++ [endpoint]) := by
  have same := @sharing_snoc_of_ne port.port endpoints endpoint ne.symm
  exact ⟨same ▸ sums.names, same ▸ sums.transport, same ▸ sums.exposure⟩

/-- An endpoint with the number of the port joins those that the port sums up. -/
theorem SumsUp.merge (sums : port.SumsUp endpoints) (same : port.port = endpoint.targetPort) :
    (port.merge endpoint).SumsUp (endpoints ++ [endpoint]) := by
  have longer : sharing (port.merge endpoint).port (endpoints ++ [endpoint]) =
      sharing port.port endpoints ++ [endpoint] := sharing_snoc_of_eq same.symm
  constructor
  case names => rw [longer, List.map_append, ← sums.names]; rfl
  case transport =>
    obtain ⟨first, isFirst, isTransport⟩ := Option.map_eq_some_iff.mp sums.transport
    rw [longer, List.head?_append, isFirst]
    exact congrArg some isTransport
  case exposure => exact longer ▸ sums.exposure.snoc endpoint

/-- A new port sums up the one endpoint that declares it so far. -/
theorem sumsUp_ofEndpoint (fresh : endpoint.targetPort ∉ endpoints.map (·.targetPort)) :
    (ofEndpoint endpoint).SumsUp (endpoints ++ [endpoint]) := by
  have alone : sharing (ofEndpoint endpoint).port (endpoints ++ [endpoint]) = [endpoint] := by
    rw [ofEndpoint, sharing_snoc_of_eq rfl, sharing_eq_nil fresh, List.nil_append]
  constructor
  case names => rw [alone]; rfl
  case transport => rw [alone]; rfl
  case exposure => rw [alone]; exact isMostOpen_singleton endpoint

/-- A further endpoint brings in the number of its port, if that is new. -/
theorem map_port_add (endpoint : Endpoint) (ports : List AggregatedPort) :
    (add endpoint ports).map (·.port) =
      if endpoint.targetPort ∈ ports.map (·.port) then ports.map (·.port)
      else ports.map (·.port) ++ [endpoint.targetPort] := by
  induction ports with
  | nil => rfl
  | cons first rest ih =>
    rw [add]
    split
    · rename_i same
      simp [same, AggregatedPort.merge]
    · rename_i other
      have ne : endpoint.targetPort ≠ first.port := fun same => other same.symm
      simp only [List.map_cons, ih, List.mem_cons, ne, false_or]
      split <;> rfl

/-- What becomes of the ports when there is a further endpoint. -/
theorem mem_add (distinct : (ports.map (·.port)).Nodup) (mem : port ∈ add endpoint ports) :
    (port ∈ ports ∧ port.port ≠ endpoint.targetPort) ∨
      (∃ earlier ∈ ports, earlier.port = endpoint.targetPort ∧ port = earlier.merge endpoint) ∨
      (endpoint.targetPort ∉ ports.map (·.port) ∧ port = ofEndpoint endpoint) := by
  induction ports with
  | nil => exact .inr (.inr ⟨List.not_mem_nil, List.mem_singleton.mp mem⟩)
  | cons first rest ih =>
    obtain ⟨fresh, distinct⟩ := List.nodup_cons.mp distinct
    rw [add] at mem
    split at mem
    · rename_i same
      rcases List.mem_cons.mp mem with rfl | mem
      · exact .inr (.inl ⟨first, List.mem_cons_self, same, rfl⟩)
      · refine .inl ⟨List.mem_cons_of_mem _ mem, fun again => fresh ?_⟩
        exact List.mem_map.mpr ⟨port, mem, again.trans same.symm⟩
    · rename_i other
      rcases List.mem_cons.mp mem with rfl | mem
      · exact .inl ⟨List.mem_cons_self, other⟩
      rcases ih distinct mem with ⟨isOld, ne⟩ | ⟨earlier, isOld, merged⟩ | ⟨isNew, single⟩
      · exact .inl ⟨List.mem_cons_of_mem _ isOld, ne⟩
      · exact .inr (.inl ⟨earlier, List.mem_cons_of_mem _ isOld, merged⟩)
      · refine .inr (.inr ⟨fun known => ?_, single⟩)
        rcases List.mem_cons.mp known with same | known
        · exact other same.symm
        · exact isNew known

/-- The ports that endpoints come to. -/
structure Gathers (endpoints : List Endpoint) (ports : List AggregatedPort) : Prop where
  /-- There is one port for each number, in the order in which the numbers are first declared. -/
  numbers : ports.map (·.port) = (endpoints.map (·.targetPort)).eraseDups
  distinct : (ports.map (·.port)).Nodup
  /-- Each sums up the endpoints of its number. -/
  sums : ∀ port ∈ ports, port.SumsUp endpoints

namespace Gathers

/-- There is a port for each number that is declared. -/
theorem mem_numbers_iff (gathers : Gathers endpoints ports) (number : Int) :
    number ∈ ports.map (·.port) ↔ number ∈ endpoints.map (·.targetPort) := by
  rw [gathers.numbers, List.mem_eraseDups]

/-- A further endpoint keeps what is true of the ports: this is the step of the induction below. -/
theorem add (gathers : Gathers endpoints ports) (endpoint : Endpoint) :
    Gathers (endpoints ++ [endpoint]) (add endpoint ports) := by
  have known := gathers.mem_numbers_iff endpoint.targetPort
  constructor
  case numbers =>
    rw [map_port_add, List.map_append, List.map_singleton, List.eraseDups_append,
      ← gathers.numbers, List.cons_removeAll, List.nil_removeAll]
    by_cases isOld : endpoint.targetPort ∈ ports.map (·.port)
    · rw [if_pos isOld, if_neg (by simpa using known.mp isOld), List.eraseDups_nil,
        List.append_nil]
    · rw [if_neg isOld, if_pos (by simpa using mt known.mpr isOld), List.eraseDups_cons,
        List.filter_nil, List.eraseDups_nil]
  case distinct =>
    rw [map_port_add]
    split
    · exact gathers.distinct
    · rename_i isNew
      exact List.concat_eq_append ▸ gathers.distinct.concat isNew
  case sums =>
    intro port mem
    rcases mem_add gathers.distinct mem with
      ⟨isOld, ne⟩ | ⟨earlier, isOld, same, rfl⟩ | ⟨isNew, rfl⟩
    · exact (gathers.sums port isOld).keep ne
    · exact (gathers.sums earlier isOld).merge same
    · exact sumsUp_ofEndpoint (mt known.mpr isNew)

/-- What is declared with a number decides how open the port of that number is. -/
theorem exists_port_iff (gathers : Gathers endpoints ports) (number : Int) (exposure : Exposure) :
    (∃ port ∈ ports, port.port = number ∧ port.exposure = exposure) ↔
      IsMostOpen (sharing number endpoints) exposure := by
  constructor
  · rintro ⟨port, mem, rfl, rfl⟩
    exact (gathers.sums port mem).exposure
  · intro most
    obtain ⟨endpoint, shares, -⟩ := most.1
    obtain ⟨isEndpoint, isNumber⟩ := mem_sharing_iff.mp shares
    obtain ⟨port, mem, rfl⟩ := List.mem_map.mp
      ((gathers.mem_numbers_iff number).mpr (List.mem_map.mpr ⟨endpoint, isEndpoint, isNumber⟩))
    exact ⟨port, mem, rfl, (gathers.sums port mem).exposure.unique most⟩

end Gathers

/-- So the ports gathered from endpoints sum these up. -/
theorem gathers_foldl (endpoints : List Endpoint) :
    Gathers endpoints (endpoints.foldl (fun ports endpoint => add endpoint ports) []) := by
  -- The fold takes the endpoints in order, so the induction is on the last of them.
  induction endpoints using List.reverseRecOn with
  | nil => exact ⟨List.eraseDups_nil.symm, List.nodup_nil, nofun⟩
  | append_singleton rest last ih =>
    rw [List.foldl_concat]
    exact ih.add last

/-- The numeral can be read off the name, so different numbers give different names. -/
theorem serviceName_injective :
    Function.Injective fun number : Int => "port-" ++ toString number := by
  intro first second same
  have texts : (toString first).toList = (toString second).toList := by
    have lists := congrArg String.toList same
    simpa only [String.toList_append, List.append_cancel_left_eq] using lists
  exact Text.toString_int_injective (String.toList_inj.mp texts)

end AggregatedPort

namespace Devfile

variable {devfile other : Devfile}

/-- The ports of a component are gathered from its endpoints. -/
theorem gathers_aggregatedPorts (devfile : Devfile) :
    AggregatedPort.Gathers devfile.endpoints devfile.aggregatedPorts :=
  AggregatedPort.gathers_foldl devfile.endpoints

/-! ### What is exposed -/

/-- A number is exposed if the port of that number is not hidden. -/
theorem mem_map_port_servicePorts_iff {number : Int} :
    number ∈ devfile.servicePorts.map (·.port) ↔
      ∃ port ∈ devfile.aggregatedPorts, port.port = number ∧ port.exposure ≠ .hidden := by
  simp only [servicePorts, List.map_map, List.mem_map, List.mem_filter, decide_eq_true_eq]
  constructor
  · rintro ⟨port, ⟨mem, isOpen⟩, rfl⟩
    exact ⟨port, mem, rfl, isOpen⟩
  · rintro ⟨port, mem, rfl, isOpen⟩
    exact ⟨port, ⟨mem, isOpen⟩, rfl⟩

/-- A port is exposed when one of its endpoints is. -/
theorem exposes_iff {number : Int} :
    number ∈ devfile.servicePorts.map (·.port) ↔
      ∃ endpoint ∈ devfile.endpoints, endpoint.targetPort = number ∧
        endpoint.exposure ≠ .hidden := by
  have gathers := gathers_aggregatedPorts devfile
  rw [mem_map_port_servicePorts_iff]
  constructor
  · rintro ⟨port, mem, rfl, isOpen⟩
    obtain ⟨⟨endpoint, shares, isExposure⟩, -⟩ := (gathers.sums port mem).exposure
    obtain ⟨isEndpoint, isNumber⟩ := mem_sharing_iff.mp shares
    exact ⟨endpoint, isEndpoint, isNumber, isExposure ▸ isOpen⟩
  · rintro ⟨endpoint, isEndpoint, rfl, isOpen⟩
    obtain ⟨port, mem, isNumber⟩ := List.mem_map.mp
      ((gathers.mem_numbers_iff endpoint.targetPort).mpr (List.mem_map.mpr ⟨_, isEndpoint, rfl⟩))
    refine ⟨port, mem, isNumber, fun isHidden => isOpen ?_⟩
    exact (gathers.sums port mem).exposure.eq_hidden_iff.mp isHidden endpoint
      (mem_sharing_iff.mpr ⟨isEndpoint, isNumber.symm⟩)

/-- No number is exposed twice, as there is one port for each. -/
theorem nodup_map_port_servicePorts (devfile : Devfile) :
    (devfile.servicePorts.map (·.port)).Nodup := by
  have fewer : (devfile.servicePorts.map (·.port)).Sublist
      (devfile.aggregatedPorts.map (·.port)) := by
    rw [servicePorts, List.map_map]
    exact List.filter_sublist.map _
  exact fewer.nodup (gathers_aggregatedPorts devfile).distinct

/-- Ports of different numbers have different names. -/
theorem nodup_map_name_servicePorts (devfile : Devfile) :
    (devfile.servicePorts.map (·.name)).Nodup := by
  have named : devfile.servicePorts.map (·.name) =
      (devfile.servicePorts.map (·.port)).map fun number => some ("port-" ++ toString number) := by
    simp only [servicePorts, List.map_map]
    rfl
  rw [named]
  exact (nodup_map_port_servicePorts devfile).map
    ((Option.some_injective _).comp AggregatedPort.serviceName_injective)

/-- There is no Service exactly if all endpoints are hidden. -/
theorem synthesizeService_eq_none_iff {name : String} {labels : Labels} :
    devfile.synthesizeService name labels = none ↔
      ¬ ∃ endpoint ∈ devfile.endpoints, endpoint.exposure ≠ .hidden := by
  have isNone : devfile.synthesizeService name labels = none ↔ devfile.servicePorts = [] := by
    rw [synthesizeService]
    cases devfile.servicePorts <;> simp
  rw [isNone]
  constructor
  · rintro isNil ⟨endpoint, isEndpoint, isOpen⟩
    have exposed := exposes_iff.mpr ⟨endpoint, isEndpoint, rfl, isOpen⟩
    rw [isNil] at exposed
    cases exposed
  · intro noneOpen
    refine List.eq_nil_iff_forall_not_mem.mpr fun port mem => noneOpen ?_
    obtain ⟨endpoint, isEndpoint, -, isOpen⟩ := exposes_iff.mp (List.mem_map_of_mem mem)
    exact ⟨endpoint, isEndpoint, isOpen⟩

/-! ### Orders of declaration -/

/-- The containers of a devfile in another order, each with its endpoints in another order. -/
def Redeclares (other devfile : Devfile) : Prop :=
  ∃ containers, other.containers.Perm containers ∧
    List.Forall₂ (fun container original => container.2.endpoints.Perm original.2.endpoints)
      containers devfile.containers

theorem Redeclares.endpoints_perm (redeclares : other.Redeclares devfile) :
    other.endpoints.Perm devfile.endpoints := by
  obtain ⟨containers, perm, each⟩ := redeclares
  refine (perm.flatMap_right _).trans ?_
  unfold endpoints
  clear perm
  generalize devfile.containers = originals at each ⊢
  induction each with
  | nil => exact .nil
  | cons first _ ih =>
    rw [List.flatMap_cons, List.flatMap_cons]
    exact first.append ih

/-- How open the port of a number is does not depend on the order of the endpoints. -/
theorem exists_port_iff_of_perm (perm : other.endpoints.Perm devfile.endpoints) (number : Int)
    (exposure : Exposure) :
    (∃ port ∈ other.aggregatedPorts, port.port = number ∧ port.exposure = exposure) ↔
      ∃ port ∈ devfile.aggregatedPorts, port.port = number ∧ port.exposure = exposure := by
  have sharers : (sharing number other.endpoints).Perm (sharing number devfile.endpoints) :=
    perm.filter _
  rw [(gathers_aggregatedPorts other).exists_port_iff,
    (gathers_aggregatedPorts devfile).exists_port_iff]
  exact ⟨.of_perm sharers.symm, .of_perm sharers⟩

/-- Which numbers are exposed does not depend on the order either. -/
theorem exposes_iff_of_perm (perm : other.endpoints.Perm devfile.endpoints) (number : Int) :
    number ∈ other.servicePorts.map (·.port) ↔ number ∈ devfile.servicePorts.map (·.port) := by
  rw [exposes_iff, exposes_iff]
  exact exists_congr fun endpoint => and_congr_left' perm.mem_iff

/-- A devfile of containers with the given endpoints. -/
def serving (containers : List (String × List Endpoint)) : Devfile :=
  { components := containers.map fun container =>
      ⟨container.1, .container { image := "alpine", endpoints := container.2 }⟩ }

/-- Two containers with a port in common, which only one of the endpoints opens to all. -/
def merging : Devfile :=
  serving
    [("main",
      [{ name := "health", targetPort := 8080, exposure := .hidden, protocol := .udp },
        { name := "dns", targetPort := 53, exposure := .internal }]),
      ("tools",
      [{ name := "web", targetPort := 8080 },
        { name := "probe", targetPort := 9000, exposure := .hidden },
        { name := "admin", targetPort := 8080, exposure := .internal }])]

/-- The same, with containers and endpoints the other way round. -/
def mergingBackwards : Devfile :=
  serving (merging.containers.reverse.map fun container =>
    (container.1, container.2.endpoints.reverse))

end Devfile

end DevfilePush
