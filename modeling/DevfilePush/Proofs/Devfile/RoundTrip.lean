import DevfilePush.Devfile.Reader
import DevfilePush.Proofs.Yaml.Decoder

/-!
Devfiles come back from their JSON.

The writer leaves out absent values and empty lists, and the reader starts every record with what
stands for them, so nothing is lost (`Devfile.decode_toJson`). There is one lemma for each record
type, with one step for each of its members.
-/

namespace DevfilePush

open Yaml Yaml.Decode

/-- An exposure is known by the name that it is written under, and so is a protocol below. -/
theorem Exposure.ofName?_name (exposure : Exposure) : ofName? exposure.name = some exposure := by
  cases exposure <;> rfl

theorem EndpointProtocol.ofName?_name (protocol : EndpointProtocol) :
    ofName? protocol.name = some protocol := by
  cases protocol <;> rfl

/-- Both members of a group are written, a default that is false as well. -/
theorem CommandGroup.decode_toJson (group : CommandGroup) :
    CommandGroup.decode (Node.ofJson group.toJson) = pure group := by
  change CommandGroup.decode (Node.ofJson (Json.ofFields [("kind", some _), ("isDefault", some _)]))
    = _
  unfold CommandGroup.decode
  refine record_of_fills ?_ (by simp) (by simp)
  refine .value (by rfl) (word_string group.kind.ofName?_name) ?_
  refine .value (by rfl) (bool_bool _) ?_
  exact .nil

/-- A variable without a value is written with an empty one, which is what it is read with. -/
theorem EnvVar.decode_toJson (var : EnvVar) :
    EnvVar.decode (Node.ofJson var.toJson) = pure var := by
  change EnvVar.decode (Node.ofJson (Json.ofFields [("name", some _), ("value", some _)])) = _
  unfold EnvVar.decode
  refine record_of_fills ?_ (by simp) (by simp)
  refine .value (by rfl) (text_string _) ?_
  refine .value (by rfl) (text_string _) ?_
  exact .nil

/-! ### Commands -/

/-- An exec body is written without variables if there are none, and its directory and group may be
left out. -/
theorem ExecBody.decode_toJson (body : ExecBody) :
    ExecBody.decode (Node.ofJson body.toJson) = pure body := by
  unfold ExecBody.toJson ExecBody.decode
  refine record_of_fills ?_ (by simp) (by simp)
  refine .value (by rfl) (text_string _) ?_
  refine .value (by rfl) (text_string _) ?_
  refine .optional (by rfl) (by rfl) (fun _ => rfl) (fun _ _ => text_string _) ?_
  refine .list (by rfl) (by rfl) (fun var _ => var.decode_toJson) ?_
  refine .optional (by rfl) (by rfl) (fun _ => rfl) (fun group _ => group.decode_toJson) ?_
  exact .nil

/-- The sub-ids of a composite body come back in their order. -/
theorem CompositeBody.decode_toJson (body : CompositeBody) :
    CompositeBody.decode (Node.ofJson body.toJson) = pure body := by
  unfold CompositeBody.toJson CompositeBody.decode
  refine record_of_fills ?_ (by simp) (by simp)
  -- The ids are written even if there are none.
  refine .value (by rfl) (list_array fun _ _ => text_string _) ?_
  refine .optional (by rfl) (by rfl) (fun _ => rfl) (fun group _ => group.decode_toJson) ?_
  refine .value (by rfl) (bool_bool _) ?_
  exact .nil

/-- The body of an exec command fills its own field and leaves that of a composite body empty. -/
theorem CommandFields.decode_exec (id : String) (body : ExecBody) :
    CommandFields.decode (Node.ofJson (Command.mk id (.exec body)).toJson) =
      pure { id, exec := some body } := by
  change CommandFields.decode (Node.ofJson (Json.ofFields
    [("id", some _), ("exec", some (ExecBody.toJson body))])) = _
  unfold CommandFields.decode
  refine record_of_fills ?_ (by simp) (by simp)
  refine .value (by rfl) (text_string _) ?_
  refine .value (by rfl) (optional_ofJson rfl body.decode_toJson) ?_
  exact .nil

/-- The other way round for a composite command. -/
theorem CommandFields.decode_composite (id : String) (body : CompositeBody) :
    CommandFields.decode (Node.ofJson (Command.mk id (.composite body)).toJson) =
      pure { id, composite := some body } := by
  change CommandFields.decode (Node.ofJson (Json.ofFields
    [("id", some _), ("composite", some (CompositeBody.toJson body))])) = _
  unfold CommandFields.decode
  refine record_of_fills ?_ (by simp) (by simp)
  refine .value (by rfl) (text_string _) ?_
  refine .value (by rfl) (optional_ofJson rfl body.decode_toJson) ?_
  exact .nil

/-- The body that has been filled tells what kind of command it was. -/
theorem Command.decode_toJson (command : Command) :
    Command.decode (Node.ofJson command.toJson) = pure command := by
  obtain ⟨id, body⟩ := command
  cases body with
  | exec body =>
    rw [Command.decode, CommandFields.decode_exec, pure_bind]
    rfl
  | composite body =>
    rw [Command.decode, CommandFields.decode_composite, pure_bind]
    rfl

/-! ### Components -/

/-- The port is one that an integer of 32 bits can hold. -/
def Endpoint.PortFits (endpoint : Endpoint) : Prop :=
  Text.Integer.fitsSigned 32 endpoint.targetPort = true

instance (endpoint : Endpoint) : Decidable endpoint.PortFits :=
  inferInstanceAs (Decidable (_ = true))

/-- An endpoint comes back if its port fits: the reader refuses every other number. -/
theorem Endpoint.decode_toJson {endpoint : Endpoint} (fits : endpoint.PortFits) :
    Endpoint.decode (Node.ofJson endpoint.toJson) = pure endpoint := by
  unfold Endpoint.toJson Endpoint.decode
  refine record_of_fills ?_ (by simp) (by simp)
  refine .value (by rfl) (text_string _) ?_
  refine .value (by rfl) (int32_integer fits) ?_
  refine .value (by rfl) (word_string endpoint.exposure.ofName?_name) ?_
  refine .value (by rfl) (word_string endpoint.protocol.ofName?_name) ?_
  refine .value (by rfl) (bool_bool _) ?_
  refine .optional (by rfl) (by rfl) (fun _ => rfl) (fun _ _ => text_string _) ?_
  exact .nil

theorem VolumeMountRef.decode_toJson (mount : VolumeMountRef) :
    VolumeMountRef.decode (Node.ofJson mount.toJson) = pure mount := by
  unfold VolumeMountRef.toJson VolumeMountRef.decode
  refine record_of_fills ?_ (by simp) (by simp)
  refine .value (by rfl) (text_string _) ?_
  refine .optional (by rfl) (by rfl) (fun _ => rfl) (fun _ _ => text_string _) ?_
  exact .nil

/-- All ports of the container fit. -/
def ContainerBody.PortsFit (body : ContainerBody) : Prop :=
  ∀ endpoint ∈ body.endpoints, endpoint.PortFits

instance (body : ContainerBody) : Decidable body.PortsFit :=
  inferInstanceAs (Decidable (∀ endpoint ∈ body.endpoints, endpoint.PortFits))

/-- A container comes back if its ports fit. Whether it mounts the sources may be left open, which
is not the same as either answer. -/
theorem ContainerBody.decode_toJson {body : ContainerBody} (fits : body.PortsFit) :
    ContainerBody.decode (Node.ofJson body.toJson) = pure body := by
  unfold ContainerBody.toJson ContainerBody.decode
  refine record_of_fills ?_ (by simp) (by simp)
  refine .value (by rfl) (text_string _) ?_
  refine .list (by rfl) (by rfl) (fun _ _ => text_string _) ?_
  refine .list (by rfl) (by rfl) (fun _ _ => text_string _) ?_
  refine .list (by rfl) (by rfl) (fun var _ => var.decode_toJson) ?_
  refine .list (by rfl) (by rfl) (fun _ mem => Endpoint.decode_toJson (fits _ mem)) ?_
  refine .optional (by rfl) (by rfl) (fun _ => rfl) (fun _ _ => text_string _) ?_
  refine .optional (by rfl) (by rfl) isAbsent_bool (fun _ _ => bool_bool _) ?_
  refine .optional (by rfl) (by rfl) (fun _ => rfl) (fun _ _ => text_string _) ?_
  refine .list (by rfl) (by rfl) (fun mount _ => mount.decode_toJson) ?_
  exact .nil

/-- The body of a volume without a size is written as an object without members, not left out. -/
theorem VolumeBody.decode_toJson (body : VolumeBody) :
    VolumeBody.decode (Node.ofJson body.toJson) = pure body := by
  unfold VolumeBody.toJson VolumeBody.decode
  refine record_of_fills ?_ (by simp) (by simp)
  refine .optional (by rfl) (by rfl) (fun _ => rfl) (fun _ _ => text_string _) ?_
  exact .nil

/-- A container fills its own field and leaves that of a volume empty. -/
theorem ComponentFields.decode_container (name : String) {body : ContainerBody}
    (fits : body.PortsFit) :
    ComponentFields.decode (Node.ofJson (Component.mk name (.container body)).toJson) =
      pure { name, container := some body } := by
  change ComponentFields.decode (Node.ofJson (Json.ofFields
    [("name", some _), ("container", some (ContainerBody.toJson body))])) = _
  unfold ComponentFields.decode
  refine record_of_fills ?_ (by simp) (by simp)
  refine .value (by rfl) (text_string _) ?_
  refine .value (by rfl) (optional_ofJson rfl (ContainerBody.decode_toJson fits)) ?_
  exact .nil

theorem ComponentFields.decode_volume (name : String) (body : VolumeBody) :
    ComponentFields.decode (Node.ofJson (Component.mk name (.volume body)).toJson) =
      pure { name, volume := some body } := by
  change ComponentFields.decode (Node.ofJson (Json.ofFields
    [("name", some _), ("volume", some (VolumeBody.toJson body))])) = _
  unfold ComponentFields.decode
  refine record_of_fills ?_ (by simp) (by simp)
  refine .value (by rfl) (text_string _) ?_
  refine .value (by rfl) (optional_ofJson rfl body.decode_toJson) ?_
  exact .nil

/-- All ports of the component fit. -/
def Component.PortsFit (component : Component) : Prop :=
  match component.body with
  | .container body => body.PortsFit
  | .volume _ => True

instance : (component : Component) → Decidable component.PortsFit
  | ⟨_, .container body⟩ => inferInstanceAs (Decidable body.PortsFit)
  | ⟨_, .volume _⟩ => .isTrue trivial

/-- The body that has been filled tells a container from a volume. -/
theorem Component.decode_toJson {component : Component} (fits : component.PortsFit) :
    Component.decode (Node.ofJson component.toJson) = pure component := by
  obtain ⟨name, body⟩ := component
  cases body with
  | container body =>
    rw [Component.decode, ComponentFields.decode_container name fits, pure_bind]
    rfl
  | volume body =>
    rw [Component.decode, ComponentFields.decode_volume, pure_bind]
    rfl

/-! ### Devfiles -/

theorem Project.decode_toJson (project : Project) :
    Project.decode (Node.ofJson project.toJson) = pure project := by
  unfold Project.toJson Project.decode
  refine record_of_fills ?_ (by simp) (by simp)
  refine .value (by rfl) (text_string _) ?_
  refine .optional (by rfl) (by rfl) (fun _ => rfl) (fun _ _ => text_string _) ?_
  exact .nil

/-- Each of the two events is left out if it has no commands. -/
theorem Events.decode_toJson (events : Events) :
    Events.decode (Node.ofJson events.toJson) = pure events := by
  unfold Events.toJson Events.decode
  refine record_of_fills ?_ (by simp) (by simp)
  refine .list (by rfl) (by rfl) (fun _ _ => text_string _) ?_
  refine .list (by rfl) (by rfl) (fun _ _ => text_string _) ?_
  exact .nil

theorem Metadata.decode_toJson (metadata : Metadata) :
    Metadata.decode (Node.ofJson metadata.toJson) = pure metadata := by
  unfold Metadata.toJson Metadata.decode
  refine record_of_fills ?_ (by simp) (by simp)
  refine .optional (by rfl) (by rfl) (fun _ => rfl) (fun _ _ => text_string _) ?_
  exact .nil

/-- All ports of the devfile fit. -/
def Devfile.PortsFit (devfile : Devfile) : Prop :=
  ∀ component ∈ devfile.components, component.PortsFit

instance (devfile : Devfile) : Decidable devfile.PortsFit :=
  inferInstanceAs (Decidable (∀ component ∈ devfile.components, component.PortsFit))

/-- A devfile whose ports fit comes back. Its metadata and events are written even if there is
nothing in them. -/
theorem Devfile.decode_toJson {devfile : Devfile} (fits : devfile.PortsFit) :
    Devfile.decode (Node.ofJson devfile.toJson) = pure devfile := by
  unfold Devfile.toJson Devfile.decode
  refine record_of_fills ?_ (by simp) (by simp)
  refine .optional (by rfl) (by rfl) (fun _ => rfl) (fun _ _ => text_string _) ?_
  refine .value (by rfl) (Metadata.decode_toJson _) ?_
  refine .list (by rfl) (by rfl) (fun project _ => project.decode_toJson) ?_
  refine .list (by rfl) (by rfl) (fun _ mem => Component.decode_toJson (fits _ mem)) ?_
  refine .list (by rfl) (by rfl) (fun command _ => command.decode_toJson) ?_
  refine .value (by rfl) (Events.decode_toJson _) ?_
  exact .nil

/-- The document made from the JSON has no anchors to be followed, so reading it is reading its
root. -/
theorem Devfile.ofDocument_toJson {devfile : Devfile} (fits : devfile.PortsFit) :
    Devfile.ofDocument (.ofJson devfile.toJson) = .ok devfile := by
  rw [ofDocument, Document.decode_ofJson (decode_toJson fits)]

end DevfilePush
