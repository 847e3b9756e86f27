import DevfilePush.Proofs.Cluster.Requirement
import DevfilePush.Synthesis.Identity

/-!
Asking for labels by a selector.

The selector that is written for some labels asks for exactly these labels
(`matchesSelector_labelSelector`), as long as no key or value is taken for something else
on the way: for the end of a part, for the end of a key, or for blanks at an edge. The name
of a component that contains such characters is asked for in part only (`requestedName`).
There are no other labels for which the selector asks for exactly these
(`selectable_of_asks`).
-/

namespace DevfilePush

/-- A label that a selector can ask for: its key and value keep their meaning. -/
structure Selectable (label : String × String) : Prop where
  key_free : ',' ∉ label.1.toList
  key_unequal : '=' ∉ label.1.toList
  key_trimmed : Text.trim label.1 = label.1
  value_free : ',' ∉ label.2.toList
  value_trimmed : Text.trim label.2 = label.2

instance (label : String × String) : Decidable (Selectable label) :=
  decidable_of_iff (',' ∉ label.1.toList ∧ '=' ∉ label.1.toList ∧ Text.trim label.1 = label.1 ∧
      ',' ∉ label.2.toList ∧ Text.trim label.2 = label.2)
    ⟨fun ⟨free, unequal, trimmed, valueFree, valueTrimmed⟩ =>
      ⟨free, unequal, trimmed, valueFree, valueTrimmed⟩,
      fun ⟨free, unequal, trimmed, valueFree, valueTrimmed⟩ =>
      ⟨free, unequal, trimmed, valueFree, valueTrimmed⟩⟩

theorem trimChars_toList {text : String} (trimmed : Text.trim text = text) :
    Text.trimChars text.toList = text.toList := by
  have edges := congrArg String.toList trimmed
  rwa [Text.trim, String.toList_ofList] at edges

/-- Labels that include all of `required`. Absent labels are no labels. -/
def Labels.IncludedIn (required : Labels) (labels : Option Labels) : Prop :=
  ∀ label ∈ required.entries, (labels.getD .empty).get? label.1 = some label.2

/-- A part that asks for a value asks for it without the blanks at its edges. -/
theorem matchesPart_iff {labels : Option Labels} {key : String} {value : List Char}
    (unequal : '=' ∉ key.toList) (trimmed : Text.trim key = key) :
    matchesPart labels (key.toList ++ '=' :: value) = true ↔
      (labels.getD .empty).get? key = some (String.ofList (Text.trimChars value)) := by
  rw [Requirement.matchesPart_iff_metBy, Requirement.ofPart?_entry unequal,
    trimChars_toList trimmed, String.ofList_toList]
  simp [Requirement.MetBy]

namespace Selectable

variable {label : String × String} (selectable : Selectable label)

include selectable

/-- The part that is written for a label asks for that label. -/
theorem matchesPart_label {labels : Option Labels} :
    matchesPart labels (label.1.toList ++ '=' :: label.2.toList) = true ↔
      (labels.getD .empty).get? label.1 = some label.2 := by
  rw [matchesPart_iff selectable.key_unequal selectable.key_trimmed,
    trimChars_toList selectable.value_trimmed, String.ofList_toList]

theorem comma_notMem : ',' ∉ label.1.toList ++ '=' :: label.2.toList := by
  intro mem
  rcases List.mem_append.mp mem with mem | mem
  · exact selectable.key_free mem
  · rcases List.mem_cons.mp mem with isEqual | mem
    · cases isEqual
    · exact selectable.value_free mem

end Selectable

/-- The text of a selector, part by part. -/
theorem toList_labelSelector (required : Labels) :
    (labelSelector required).toList =
      [','].intercalate (required.entries.map fun label =>
        label.1.toList ++ '=' :: label.2.toList) := by
  simp [labelSelector, String.toList_intercalate, Function.comp_def]

/-- Labels satisfy the selector for `required` exactly when they include `required`. -/
theorem matchesSelector_labelSelector {labels : Option Labels} {required : Labels}
    (selectable : ∀ label ∈ required.entries, Selectable label) :
    matchesSelector labels (labelSelector required) = true ↔ required.IncludedIn labels := by
  rw [matchesSelector, toList_labelSelector, Labels.IncludedIn]
  cases isEntries : required.entries with
  | nil => simp [Text.pieces, matchesPart, Text.trimChars, Text.dropTrailing]
  | cons first rest =>
    rw [← isEntries]
    have free : ∀ part ∈ required.entries.map fun label =>
        label.1.toList ++ '=' :: label.2.toList, ',' ∉ part := by
      intro part mem
      obtain ⟨label, labelMem, rfl⟩ := List.mem_map.mp mem
      exact (selectable label labelMem).comma_notMem
    have some : (required.entries.map fun label =>
        label.1.toList ++ '=' :: label.2.toList) ≠ [] := by
      simp [isEntries]
    rw [Text.pieces_intercalate free some, List.all_map, List.all_eq_true]
    constructor
    · intro holds label mem
      exact (selectable label mem).matchesPart_label.mp (holds label mem)
    · intro holds label mem
      exact (selectable label mem).matchesPart_label.mpr (holds label mem)

/-! ### The labels of a component -/

/-- A component name that a selector can ask for. -/
structure PlainName (name : String) : Prop where
  free : ',' ∉ name.toList
  trimmed : Text.trim name = name

theorem entries_componentLabels (name : String) :
    (componentLabels name).entries = [(managedByLabel, manager), (componentLabel, name)] := by
  have first : managedByLabel < componentLabel := by decide
  simp [componentLabels, TextMap.ofList, TextMap.insert, TextMap.put, TextMap.empty, first]

theorem includedIn_componentLabels {name : String} {labels : Option Labels} :
    (componentLabels name).IncludedIn labels ↔
      (labels.getD .empty).get? managedByLabel = some manager ∧
        (labels.getD .empty).get? componentLabel = some name := by
  simp [Labels.IncludedIn, entries_componentLabels]

/-- A component's own labels include themselves. -/
theorem componentLabels_includedIn (name : String) :
    (componentLabels name).IncludedIn (some (componentLabels name)) := by
  have distinct : managedByLabel ≠ componentLabel := by decide
  rw [includedIn_componentLabels]
  simp [TextMap.get?, entries_componentLabels, distinct]

/-- A selector can ask for the labels of a component with a plain name. -/
theorem PlainName.selectable {name : String} (plain : PlainName name) :
    ∀ label ∈ (componentLabels name).entries, Selectable label := by
  rw [entries_componentLabels]
  intro label mem
  rcases List.mem_cons.mp mem with rfl | mem
  · constructor <;> decide
  · rw [List.mem_singleton.mp mem]
    constructor
    case key_free => exact (by decide : ',' ∉ componentLabel.toList)
    case key_unequal => exact (by decide : '=' ∉ componentLabel.toList)
    case key_trimmed => exact (by decide : Text.trim componentLabel = componentLabel)
    case value_free => exact plain.free
    case value_trimmed => exact plain.trimmed

/-- What carries the labels of a component is found by the component's selector. -/
theorem PlainName.matchesSelector {name : String} (plain : PlainName name) :
    matchesSelector (some (componentLabels name)) (labelSelector (componentLabels name)) =
      true :=
  (matchesSelector_labelSelector plain.selectable).mpr (componentLabels_includedIn name)

/-! ### Names that are not plain -/

/-- The component that the selector written for `name` asks for. A comma ends the name, and
blanks at its edges are lost. -/
def requestedName (name : String) : String :=
  String.ofList (Text.trimChars ((Text.pieces ',' name.toList).headD []))

theorem PlainName.requestedName_eq {name : String} (plain : PlainName name) :
    requestedName name = name := by
  have whole : Text.pieces ',' name.toList = [name.toList] := by
    have joined : Text.pieces ',' ([','].intercalate [name.toList]) = [name.toList] :=
      Text.pieces_intercalate (by simpa using plain.free) (List.cons_ne_nil _ _)
    simpa using joined
  rw [requestedName, whole]
  exact plain.trimmed

/-- Whatever the name of a component, what its selector finds belongs to the one component
that it asks for. -/
theorem includedIn_of_matchesSelector {name : String} {labels : Option Labels}
    (isMatch : matchesSelector labels (labelSelector (componentLabels name)) = true) :
    (componentLabels (requestedName name)).IncludedIn labels := by
  -- The name comes last in the selector, so only what follows its first comma is cut off.
  have parts : Text.pieces ',' (labelSelector (componentLabels name)).toList =
      (managedByLabel.toList ++ '=' :: manager.toList) ::
        (Text.pieces ',' name.toList).modifyHead (componentLabel.toList ++ ['='] ++ ·) := by
    have text : (labelSelector (componentLabels name)).toList =
        (managedByLabel.toList ++ '=' :: manager.toList) ++
          ',' :: (componentLabel.toList ++ ['='] ++ name.toList) := by
      simp [toList_labelSelector, entries_componentLabels]
    rw [text, Text.pieces_append_cons (by decide), Text.pieces_append (by decide)]
  rw [matchesSelector, parts, List.all_cons, Bool.and_eq_true] at isMatch
  obtain ⟨isManaged, others⟩ := isMatch
  rw [matchesPart_iff (by decide) (by decide)] at isManaged
  have managed : Text.trimChars manager.toList = manager.toList := by decide
  refine includedIn_componentLabels.mpr ⟨?_, ?_⟩
  · rw [isManaged, managed, String.ofList_toList]
  · cases isPieces : Text.pieces ',' name.toList with
    | nil => exact absurd isPieces Text.pieces_ne_nil
    | cons first rest =>
      rw [isPieces, List.modifyHead_cons, List.all_cons, Bool.and_eq_true, List.append_assoc,
        List.singleton_append, matchesPart_iff (by decide) (by decide)] at others
      rw [others.1, requestedName, isPieces, List.headD_cons]

/-- What is asked for has no comma and clear edges, so a name that has is not. -/
theorem plainName_of_requestedName_eq {name : String} (same : requestedName name = name) :
    PlainName name := by
  obtain ⟨first, isFirst, requested⟩ : ∃ first ∈ Text.pieces ',' name.toList,
      requestedName name = String.ofList (Text.trimChars first) := by
    unfold requestedName
    cases isPieces : Text.pieces ',' name.toList with
    | nil => exact absurd isPieces Text.pieces_ne_nil
    | cons first rest => exact ⟨first, List.mem_cons_self, rfl⟩
  rw [← same, requested]
  constructor
  · rw [String.toList_ofList]
    exact fun mem => Text.separator_notMem_of_mem_pieces isFirst (Text.mem_of_mem_trimChars mem)
  · rw [Text.trim, String.toList_ofList, Text.trimChars_trimChars]

/-! ### Reading back what was written -/

theorem requirements_intercalate (parts : List String) :
    requirements (",".intercalate parts) = parts.flatMap requirements := by
  induction parts with
  | nil => rfl
  | cons part rest ih =>
    cases rest with
    | nil => simp
    | cons next others =>
      rw [String.intercalate_cons_cons, requirements_append, ih]
      rfl

/-- For a label whose key can be asked for, its value is asked for as a name is. -/
theorem mem_requirements_labelSelector {required : Labels} {key value : String}
    (mem : (key, value) ∈ required.entries) (free : ',' ∉ key.toList)
    (unequal : '=' ∉ key.toList) (trimmed : Text.trim key = key) :
    .entry key (requestedName value) ∈ requirements (labelSelector required) := by
  have own : .entry key (requestedName value) ∈ requirements (key ++ "=" ++ value) := by
    have start : ',' ∉ key.toList ++ ['='] := by simp [free]
    have text : (key ++ "=" ++ value).toList = key.toList ++ ['='] ++ value.toList := by simp
    rw [requirements, selectorParts, text, Text.pieces_append start, requestedName]
    cases isPieces : Text.pieces ',' value.toList with
    | nil => exact absurd isPieces Text.pieces_ne_nil
    | cons first rest =>
      refine List.mem_filterMap.mpr ⟨_, List.mem_cons_self, ?_⟩
      beta_reduce
      rw [List.append_assoc, List.singleton_append, Requirement.ofPart?_entry unequal,
        trimChars_toList trimmed, String.ofList_toList, List.headD_cons]
  rw [labelSelector, requirements_intercalate]
  exact List.mem_flatMap.mpr ⟨_, List.mem_map.mpr ⟨_, mem, rfl⟩, own⟩

/-- Only labels that can be asked for are asked for exactly: a key that means something else is
asked for nowhere, and of a value only the beginning. -/
theorem selectable_of_asks {required : Labels}
    (asks : ∀ labels : Labels, matchesSelector (some labels) (labelSelector required) = true ↔
      required.IncludedIn (some labels)) : ∀ label ∈ required.entries, Selectable label := by
  rintro ⟨key, value⟩ mem
  have own : matchesSelector (some required) (labelSelector required) = true :=
    (asks required).mpr fun label isLabel => TextMap.get?_eq_some_of_mem isLabel
  have met := matchesSelector_iff.mp own
  have asked : ∃ requirement ∈ requirements (labelSelector required), requirement.key = key := by
    by_contra unasked
    -- With another value under the key the labels match as well.
    have another : matchesSelector (some (required.insert key (value ++ " ")))
        (labelSelector required) = true := by
      refine matchesSelector_iff.mpr fun requirement isAsked => ?_
      have ne : key ≠ requirement.key := fun same => unasked ⟨requirement, isAsked, same.symm⟩
      exact (Requirement.metBy_insert_of_ne ne).mpr (met requirement isAsked)
    have found := (asks _).mp another (key, value) mem
    rw [Option.getD_some, TextMap.get?_insert, if_pos rfl] at found
    have longer := congrArg String.length (Option.some.inj found)
    simp at longer
  obtain ⟨requirement, isAsked, sameKey⟩ := asked
  obtain ⟨free, unequal, trimmed⟩ := key_of_mem_requirements isAsked
  rw [sameKey] at free unequal trimmed
  have requested : required.get? key = some (requestedName value) :=
    met _ (mem_requirements_labelSelector mem free unequal trimmed)
  rw [TextMap.get?_eq_some_of_mem mem] at requested
  have plain := plainName_of_requestedName_eq (Option.some.inj requested).symm
  exact ⟨free, unequal, trimmed, plain.free, plain.trimmed⟩

/-- **A selector is read back as the labels that it was written for**, whatever they are
compared with, exactly when their keys have neither commas nor equals signs, their values have
no commas, and both have no blanks at their edges. So the selectors of components tell their
names apart, exactly where names have no commas and no blanks at their edges. -/
theorem labelSelector_read_back :
    (∀ required : Labels,
      (∀ labels : Labels, matchesSelector (some labels) (labelSelector required) = true ↔
        ∀ label ∈ required.entries, labels.get? label.1 = some label.2) ↔
      ∀ label ∈ required.entries, Selectable label) ∧
    (∀ name : String,
      (∀ other : String,
        matchesSelector (some (componentLabels other)) (labelSelector (componentLabels name)) =
          true ↔ other = name) ↔
      PlainName name) := by
  constructor
  · intro required
    exact ⟨selectable_of_asks, fun selectable labels => matchesSelector_labelSelector selectable⟩
  · intro name
    constructor
    · intro tellsApart
      have own := includedIn_of_matchesSelector ((tellsApart name).mpr rfl)
      have requested := (includedIn_componentLabels.mp own).2
      rw [(includedIn_componentLabels.mp (componentLabels_includedIn name)).2] at requested
      exact plainName_of_requestedName_eq (Option.some.inj requested).symm
    · intro plain other
      rw [matchesSelector_labelSelector plain.selectable, includedIn_componentLabels]
      have own := includedIn_componentLabels.mp (componentLabels_includedIn other)
      rw [own.2, Option.some_inj]
      exact ⟨And.right, fun same => ⟨own.1, same⟩⟩

/-- An empty key, an empty value, and a value with an equals sign and a blank inside. -/
theorem labelSelector_read_back_unusual :
    let required : Labels := .ofList [("", ""), ("tier", "a=b c")]
    (∀ label ∈ required.entries, Selectable label) ∧
      matchesSelector (some (required.insert "zone" "x")) (labelSelector required) = true ∧
      PlainName "web" ∧
      ¬ matchesSelector (some (componentLabels "web api"))
        (labelSelector (componentLabels "web")) = true := by
  intro required
  have selectable : ∀ label ∈ required.entries, Selectable label := by decide
  have plain : PlainName "web" := ⟨by decide, by decide⟩
  refine ⟨selectable, ?_, plain, ?_⟩
  · exact ((labelSelector_read_back.1 required).mpr selectable _).mpr (by decide)
  · rw [(labelSelector_read_back.2 "web").mpr plain]
    decide

end DevfilePush
