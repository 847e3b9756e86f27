import DevfilePush.Proofs.Devfile.RoundTrip
import DevfilePush.Proofs.Yaml.Reading
import Mathlib.Logic.Basic

/-!
Which devfiles are read.

From the JSON of a devfile the same devfile is read, provided that its ports are such as a devfile
can have; and no devfile is read from a document with a command, or a component, that carries both
of its possible bodies or none (`Devfile.reading_spec`). A body that is null is none. The document
may be any one, with aliases and tags, so the JSON values (`Document.ofJson`) are among them.
-/

namespace DevfilePush

open Yaml Yaml.Decode

variable {anchors : Anchors} {node : Node}

/-! ### One body -/

/-- An exec body has been read exactly if the node carries one: no other key touches its field. -/
theorem CommandFields.exec_isSome_iff {fields : CommandFields}
    (reads : Reads anchors (CommandFields.decode node) fields) :
    fields.exec.isSome = true ↔ node.Carries anchors.nodes "exec" := by
  refine reads.isSome_iff_carries ⟨⟨_, by rfl, fun _ _ => rfl⟩, ?_⟩ rfl
  intro other take isTake apart entry before after taken
  split at isTake <;> cases isTake
  case h_2 => exact absurd rfl apart
  all_goals
    obtain ⟨found, -, rfl⟩ := taken.of_map
    rfl

/-- The same for a composite body. -/
theorem CommandFields.composite_isSome_iff {fields : CommandFields}
    (reads : Reads anchors (CommandFields.decode node) fields) :
    fields.composite.isSome = true ↔ node.Carries anchors.nodes "composite" := by
  refine reads.isSome_iff_carries ⟨⟨_, by rfl, fun _ _ => rfl⟩, ?_⟩ rfl
  intro other take isTake apart entry before after taken
  split at isTake <;> cases isTake
  case h_3 => exact absurd rfl apart
  all_goals
    obtain ⟨found, -, rfl⟩ := taken.of_map
    rfl

/-- A command is made of the one body that is there. -/
theorem CommandFields.one_of_command? {fields : CommandFields} {command : Command}
    (isCommand : fields.command? = some command) :
    Xor (fields.exec.isSome = true) (fields.composite.isSome = true) := by
  unfold CommandFields.command? at isCommand
  split at isCommand
  · rename_i isExec isComposite
    rw [isExec, isComposite]
    exact .inl ⟨rfl, Bool.false_ne_true⟩
  · rename_i isExec isComposite
    rw [isExec, isComposite]
    exact .inr ⟨rfl, Bool.false_ne_true⟩
  · cases isCommand

/-- A node from which a command is read carries one of the two bodies and not the other. -/
theorem Command.carries_one {command : Command}
    (reads : Reads anchors (Command.decode node) command) :
    Xor (node.Carries anchors.nodes "exec") (node.Carries anchors.nodes "composite") := by
  obtain ⟨fields, readsFields, reads⟩ := reads.of_bind
  rw [← fields.exec_isSome_iff readsFields, ← fields.composite_isSome_iff readsFields]
  split at reads
  · rename_i isCommand
    exact fields.one_of_command? isCommand
  · exact absurd reads Reads.not_throw

/-- A container has been read exactly if the node carries one. -/
theorem ComponentFields.container_isSome_iff {fields : ComponentFields}
    (reads : Reads anchors (ComponentFields.decode node) fields) :
    fields.container.isSome = true ↔ node.Carries anchors.nodes "container" := by
  refine reads.isSome_iff_carries ⟨⟨_, by rfl, fun _ _ => rfl⟩, ?_⟩ rfl
  intro other take isTake apart entry before after taken
  split at isTake <;> cases isTake
  case h_2 => exact absurd rfl apart
  all_goals
    obtain ⟨found, -, rfl⟩ := taken.of_map
    rfl

theorem ComponentFields.volume_isSome_iff {fields : ComponentFields}
    (reads : Reads anchors (ComponentFields.decode node) fields) :
    fields.volume.isSome = true ↔ node.Carries anchors.nodes "volume" := by
  refine reads.isSome_iff_carries ⟨⟨_, by rfl, fun _ _ => rfl⟩, ?_⟩ rfl
  intro other take isTake apart entry before after taken
  split at isTake <;> cases isTake
  case h_3 => exact absurd rfl apart
  all_goals
    obtain ⟨found, -, rfl⟩ := taken.of_map
    rfl

/-- A component is made of the one body that is there. -/
theorem ComponentFields.one_of_component? {fields : ComponentFields} {component : Component}
    (isComponent : fields.component? = some component) :
    Xor (fields.container.isSome = true) (fields.volume.isSome = true) := by
  unfold ComponentFields.component? at isComponent
  split at isComponent
  · rename_i isContainer isVolume
    rw [isContainer, isVolume]
    exact .inl ⟨rfl, Bool.false_ne_true⟩
  · rename_i isContainer isVolume
    rw [isContainer, isVolume]
    exact .inr ⟨rfl, Bool.false_ne_true⟩
  · cases isComponent

/-- A node from which a component is read is a container or a volume, and not both. -/
theorem Component.carries_one {component : Component}
    (reads : Reads anchors (Component.decode node) component) :
    Xor (node.Carries anchors.nodes "container") (node.Carries anchors.nodes "volume") := by
  obtain ⟨fields, readsFields, reads⟩ := reads.of_bind
  rw [← fields.container_isSome_iff readsFields, ← fields.volume_isSome_iff readsFields]
  split at reads
  · rename_i isComponent
    exact fields.one_of_component? isComponent
  · exact absurd reads Reads.not_throw

/-! ### Ports -/

/-- The reader of numbers lets through only what 32 bits can hold, and a port is read by it. -/
theorem Endpoint.portFits_of_reads {endpoint : Endpoint}
    (reads : Reads anchors (Endpoint.decode node) endpoint) : endpoint.PortFits := by
  refine Reads.holds_of_record (by rfl) ?_ reads
  intro key take isTake entry before after fits taken
  split at isTake <;> cases isTake
  case h_2 =>
    obtain ⟨port, isPort, rfl⟩ := taken.of_map
    exact isPort.of_int32
  all_goals
    obtain ⟨found, -, rfl⟩ := taken.of_map
    exact fits

/-- Every endpoint of a container comes from an item of its list. -/
theorem ContainerBody.portsFit_of_reads {body : ContainerBody}
    (reads : Reads anchors (ContainerBody.decode node) body) : body.PortsFit := by
  refine Reads.holds_of_record ?_ ?_ reads
  · exact List.forall_mem_nil _
  intro key take isTake entry before after fits taken
  split at isTake <;> cases isTake
  case h_5 =>
    obtain ⟨endpoints, areEndpoints, rfl⟩ := taken.of_map
    intro endpoint mem
    obtain ⟨item, -, readsItem⟩ := areEndpoints.of_list.2 endpoint mem
    exact Endpoint.portFits_of_reads readsItem
  all_goals
    obtain ⟨found, -, rfl⟩ := taken.of_map
    exact fits

/-- All ports of the container that has been read fit, if there is one. -/
def ComponentFields.PortsFit (fields : ComponentFields) : Prop :=
  ∀ body, fields.container = some body → body.PortsFit

/-- While the fields of a component are read, only the container brings ports with it. -/
theorem ComponentFields.portsFit_of_reads {fields : ComponentFields}
    (reads : Reads anchors (ComponentFields.decode node) fields) : fields.PortsFit := by
  refine Reads.holds_of_record ?_ ?_ reads
  · rintro _ ⟨⟩
  intro key take isTake entry before after fits taken
  split at isTake <;> cases isTake
  case h_2 =>
    obtain ⟨container, isContainer, rfl⟩ := taken.of_map
    intro body isBody
    exact ContainerBody.portsFit_of_reads (isContainer.of_optional.2 body isBody)
  all_goals
    obtain ⟨found, -, rfl⟩ := taken.of_map
    exact fits

theorem ComponentFields.portsFit_of_component? {fields : ComponentFields} {component : Component}
    (fits : fields.PortsFit) (isComponent : fields.component? = some component) :
    component.PortsFit := by
  unfold ComponentFields.component? at isComponent
  split at isComponent
  · rename_i body isContainer _
    cases isComponent
    exact fits body isContainer
  · cases isComponent
    exact trivial
  · cases isComponent

/-- So a component that is read has ports that fit, whichever body it is made of. -/
theorem Component.portsFit_of_reads {component : Component}
    (reads : Reads anchors (Component.decode node) component) : component.PortsFit := by
  obtain ⟨fields, readsFields, reads⟩ := reads.of_bind
  split at reads
  · rename_i isComponent
    cases reads.of_pure
    exact fields.portsFit_of_component? (fields.portsFit_of_reads readsFields) isComponent
  · exact absurd reads Reads.not_throw

/-- Whatever a devfile is read from, its ports fit. -/
theorem Devfile.portsFit_of_reads {devfile : Devfile}
    (reads : Reads anchors (Devfile.decode node) devfile) : devfile.PortsFit := by
  refine Reads.holds_of_record ?_ ?_ reads
  · exact List.forall_mem_nil _
  intro key take isTake entry before after fits taken
  split at isTake <;> cases isTake
  case h_4 =>
    obtain ⟨components, areComponents, rfl⟩ := taken.of_map
    intro component mem
    obtain ⟨item, -, readsItem⟩ := areComponents.of_list.2 component mem
    exact Component.portsFit_of_reads readsItem
  all_goals
    obtain ⟨found, -, rfl⟩ := taken.of_map
    exact fits

/-! ### Devfiles -/

/-- No item under the commands is passed over: each of them has been read as a command. -/
theorem Devfile.command_of_reads {devfile : Devfile}
    (reads : Reads anchors (Devfile.decode node) devfile) :
    ∀ item ∈ node.itemsUnder anchors.nodes "commands",
      ∃ command ∈ devfile.commands, Reads anchors (Command.decode item) command := by
  refine reads.items_of_record ⟨⟨_, by rfl, fun _ _ => rfl⟩, ?_⟩
  intro other take isTake apart entry before after taken
  split at isTake <;> cases isTake
  case h_5 => exact absurd rfl apart
  all_goals
    obtain ⟨found, -, rfl⟩ := taken.of_map
    rfl

/-- Each item under the components has been read as a component. -/
theorem Devfile.component_of_reads {devfile : Devfile}
    (reads : Reads anchors (Devfile.decode node) devfile) :
    ∀ item ∈ node.itemsUnder anchors.nodes "components",
      ∃ component ∈ devfile.components, Reads anchors (Component.decode item) component := by
  refine reads.items_of_record ⟨⟨_, by rfl, fun _ _ => rfl⟩, ?_⟩
  intro other take isTake apart entry before after taken
  split at isTake <;> cases isTake
  case h_4 => exact absurd rfl apart
  all_goals
    obtain ⟨found, -, rfl⟩ := taken.of_map
    rfl

/-- Faults are only reworded, so a devfile is read exactly if the decoder reads it. -/
theorem Devfile.ofDocument_eq_ok_iff {document : Document} {devfile : Devfile} :
    Devfile.ofDocument document = .ok devfile ↔
      document.decode Devfile.decode = .ok devfile := by
  unfold Devfile.ofDocument
  split
  · rename_i decoded
    rw [decoded]
    simp
  · rename_i decoded
    rw [decoded]
    simp
  · rename_i decoded
    rw [decoded]
    simp

/-- A devfile comes back from its JSON exactly if its ports fit. They do so for whatever document a
devfile is read from, and the commands and components that stand in the document carry exactly one
body each. -/
theorem Devfile.reading_spec (devfile : Devfile) :
    (Devfile.ofDocument (.ofJson devfile.toJson) = .ok devfile ↔ devfile.PortsFit) ∧
      ∀ document, Devfile.ofDocument document = .ok devfile →
        devfile.PortsFit ∧
        (∀ command ∈ document.root.itemsUnder document.anchored "commands",
          Xor (command.Carries document.anchored "exec")
            (command.Carries document.anchored "composite")) ∧
        ∀ component ∈ document.root.itemsUnder document.anchored "components",
          Xor (component.Carries document.anchored "container")
            (component.Carries document.anchored "volume") := by
  have reads : ∀ document, Devfile.ofDocument document = .ok devfile →
      Reads ⟨document.anchored, 100 * document.size⟩ (Devfile.decode document.root) devfile :=
    fun document read => Document.reads_of_decode (ofDocument_eq_ok_iff.mp read)
  refine ⟨⟨fun read => portsFit_of_reads (reads _ read), ofDocument_toJson⟩, ?_⟩
  intro document read
  refine ⟨portsFit_of_reads (reads document read), fun command mem => ?_, fun component mem => ?_⟩
  · obtain ⟨found, -, readsCommand⟩ := command_of_reads (reads document read) command mem
    exact Command.carries_one readsCommand
  · obtain ⟨found, -, readsComponent⟩ := component_of_reads (reads document read) component mem
    exact Component.carries_one readsComponent

/-- A devfile with both kinds of commands and of components, some of their members left out. -/
def Devfile.assorted : Devfile where
  metadata := { name := some "null" }
  projects := [{ name := "shop" }, { name := "docs", clonePath := some "" }]
  components :=
    [⟨"main", .container
      { image := "alpine"
        args := ["-v", ""]
        endpoints :=
          [{ name := "web", targetPort := 8080 },
            { name := "debug", targetPort := -1, exposure := .hidden, path := some "/" }]
        mountSources := some false
        volumeMounts := [{ name := "data" }] }⟩,
      ⟨"data", .volume {}⟩]
  commands :=
    [⟨"make", .exec
      { component := "main", env := [{ name := "MODE" }], group := some { kind := .build } }⟩,
      ⟨"all", .composite { parallel := true }⟩]
  events := { postStart := ["make"] }

theorem Devfile.reading_assorted :
    Devfile.ofDocument (.ofJson assorted.toJson) = .ok assorted ∧
    (Node.itemsUnder [] "commands" (.ofJson assorted.toJson)).length = 2 ∧
    (∀ command ∈ Node.itemsUnder [] "commands" (.ofJson assorted.toJson),
      Xor (command.Carries [] "exec") (command.Carries [] "composite")) ∧
    ∀ devfile, Devfile.ofDocument (.ofJson (.object [("commands", .array
      [.object [("id", .string "none"), ("exec", .null)]])])) ≠ .ok devfile := by
  have comesBack := (reading_spec assorted).1.mpr (by decide)
  refine ⟨comesBack, by decide +kernel, ((reading_spec assorted).2 _ comesBack).2.1, ?_⟩
  intro devfile read
  have one := ((reading_spec devfile).2 _ read).2.1 _ List.mem_cons_self
  exact absurd one (by decide +kernel)

end DevfilePush
