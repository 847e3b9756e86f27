import DevfilePush.Proofs.Naming.Label
import DevfilePush.Proofs.Synthesis.Names

/-!
Claims that two components have in common.

The name of a claim is the component's name, a dash and the volume's name. Both parts may hold
dashes themselves, so one name can be taken apart in two ways: at the dash after `a` the claim
`a-b-c` is that of the volume `b-c` of the component `a`, at the next one that of the volume `c`
of the component `a-b`. Claims whose names are not cut are told apart in all other cases, so two
components have a claim in common exactly if two of their volumes can be mistaken like this
(`claims_shared_iff`).
-/

namespace DevfilePush

namespace Naming

variable {component volume other second : String}

/-- Labels that make up the name of a claim without its being cut. -/
structure ClaimParts (component volume : String) : Prop where
  isComponent : IsLabel component
  isVolume : IsLabel volume
  fits : (component ++ "-" ++ volume).length ≤ maxLength

/-- The other component's name goes on, after a dash, with what the first one's volume name begins
with. -/
def Mistakable (component volume other second : String) : Prop :=
  ∃ middle, IsLabel middle ∧ other = component ++ "-" ++ middle ∧ volume = middle ++ "-" ++ second

theorem claimName_of_fits (fits : (component ++ "-" ++ volume).length ≤ maxLength) :
    claimName component volume = component ++ "-" ++ volume := by
  unfold claimName
  exact if_neg (Nat.not_lt.mpr fits)

/-- A text can be cut at two of its dashes only if there is something between them. -/
theorem cut_eq_cut_iff {left left' : List Char} (distinct : left ≠ left')
    (right right' : List Char) :
    left ++ '-' :: right = left' ++ '-' :: right' ↔
      (∃ middle, left' = left ++ '-' :: middle ∧ right = middle ++ '-' :: right') ∨
        ∃ middle, left = left' ++ '-' :: middle ∧ right' = middle ++ '-' :: right := by
  constructor
  · intro same
    rcases List.append_eq_append_iff.mp same with ⟨between, isLeft, rest⟩ | ⟨between, isLeft, rest⟩
    · cases between with
      | nil => exact absurd (by simpa using isLeft.symm) distinct
      | cons c middle =>
        obtain ⟨rfl, isRight⟩ := List.cons.inj rest
        exact .inl ⟨middle, isLeft, isRight⟩
    · cases between with
      | nil => exact absurd (by simpa using isLeft) distinct
      | cons c middle =>
        obtain ⟨rfl, isRight⟩ := List.cons.inj rest
        exact .inr ⟨middle, isLeft, isRight⟩
  · rintro (⟨middle, rfl, rfl⟩ | ⟨middle, rfl, rfl⟩) <;> simp

/-- What stands between the two dashes is a label: it ends like one label and begins like the
other. -/
theorem isLabel_middle {middle : String} (isOther : IsLabel (component ++ "-" ++ middle))
    (isVolume : IsLabel (middle ++ "-" ++ second)) : IsLabel middle := by
  have nonempty : middle.toList ≠ [] := by
    intro none
    apply isVolume.first
    simp [none]
  have short : middle.length ≤ maxLength := by
    have whole := isOther.short.2
    simp only [String.length_append] at whole
    omega
  refine ⟨⟨?_, short⟩, ?_, ?_, ?_⟩
  · rw [← String.length_toList]
    exact List.length_pos_iff.mpr nonempty
  · have plain := isOther.plain
    rw [String.toList_append, List.all_append, Bool.and_eq_true] at plain
    exact plain.2
  · have first := isVolume.first
    rwa [String.toList_append, String.toList_append, List.append_assoc,
      List.head?_append_of_ne_nil _ nonempty] at first
  · have last := isOther.last
    rwa [String.toList_append, List.getLast?_append_of_ne_nil _ nonempty] at last

theorem mistakable_iff (isOther : IsLabel other) (isVolume : IsLabel volume) :
    (∃ middle, other.toList = component.toList ++ '-' :: middle ∧
        volume.toList = middle ++ '-' :: second.toList) ↔
      Mistakable component volume other second := by
  constructor
  · rintro ⟨middle, isOtherText, isVolumeText⟩
    have otherEq : other = component ++ "-" ++ String.ofList middle := by
      simp [← String.toList_inj, isOtherText]
    have volumeEq : volume = String.ofList middle ++ "-" ++ second := by
      simp [← String.toList_inj, isVolumeText]
    exact ⟨_, isLabel_middle (otherEq ▸ isOther) (volumeEq ▸ isVolume), otherEq, volumeEq⟩
  · rintro ⟨middle, -, rfl, rfl⟩
    exact ⟨middle.toList, by simp, by simp⟩

/-- Two components give their volumes one claim only where the volumes can be mistaken. -/
theorem claimName_eq_iff (parts : ClaimParts component volume) (others : ClaimParts other second)
    (distinct : component ≠ other) :
    claimName component volume = claimName other second ↔
      Mistakable component volume other second ∨ Mistakable other second component volume := by
  have apart : component.toList ≠ other.toList :=
    fun same => distinct (String.toList_inj.mp same)
  rw [claimName_of_fits parts.fits, claimName_of_fits others.fits, ← String.toList_inj]
  simp only [String.toList_append, List.append_assoc]
  refine (cut_eq_cut_iff apart volume.toList second.toList).trans (or_congr ?_ ?_)
  · exact mistakable_iff others.isComponent parts.isVolume
  · exact mistakable_iff parts.isComponent others.isVolume

end Naming

/-! ### Rendered components -/

/-- The names of the claims of a component. -/
def DesiredComponent.claimNames (desired : DesiredComponent) : List String :=
  desired.claims.filterMap (·.metadata.name)

theorem claimNames_eq {devfile : Devfile} {params : PushParameters} {desired : DesiredComponent}
    (rendered : render devfile params = .ok desired) :
    desired.claimNames =
      devfile.volumes.map fun volume => Naming.claimName desired.name volume.1 := by
  have metadata := map_metadata_of_synthesizeClaims (renders_of_render rendered).claims
  calc desired.claimNames
      = (desired.claims.map (·.metadata)).filterMap (·.name) := by
        rw [DesiredComponent.claimNames, List.filterMap_map]
        rfl
    _ = devfile.volumes.map fun volume => Naming.claimName desired.name volume.1 := by
        rw [metadata, List.filterMap_map, ← List.filterMap_eq_map]
        rfl

theorem mem_claimNames_iff {devfile : Devfile} {params : PushParameters}
    {desired : DesiredComponent} (rendered : render devfile params = .ok desired) {name : String} :
    name ∈ desired.claimNames ↔
      ∃ volume ∈ devfile.volumes, Naming.claimName desired.name volume.1 = name := by
  rw [claimNames_eq rendered, List.mem_map]

/-- The names of claims tell volumes of different components apart unless the volumes can be
mistaken, and so two components have a claim in common exactly if they have such volumes. -/
theorem claims_shared_iff (component other : String) (distinct : component ≠ other) :
    (∀ volume second, Naming.ClaimParts component volume → Naming.ClaimParts other second →
      (Naming.claimName component volume = Naming.claimName other second ↔
        Naming.Mistakable component volume other second ∨
          Naming.Mistakable other second component volume)) ∧
      ∀ (devfile otherDevfile : Devfile) (params otherParams : PushParameters)
        (desired otherDesired : DesiredComponent), render devfile params = .ok desired →
        render otherDevfile otherParams = .ok otherDesired → desired.name = component →
        otherDesired.name = other →
        (∀ volume ∈ devfile.volumes, Naming.ClaimParts component volume.1) →
        (∀ second ∈ otherDevfile.volumes, Naming.ClaimParts other second.1) →
        ((∃ name ∈ desired.claimNames, name ∈ otherDesired.claimNames) ↔
          ∃ volume ∈ devfile.volumes, ∃ second ∈ otherDevfile.volumes,
            Naming.Mistakable component volume.1 other second.1 ∨
              Naming.Mistakable other second.1 component volume.1) := by
  refine ⟨fun volume second parts others => Naming.claimName_eq_iff parts others distinct, ?_⟩
  rintro devfile otherDevfile params otherParams desired otherDesired rendered otherRendered rfl rfl
    parts otherParts
  constructor
  · rintro ⟨name, isClaim, isOtherClaim⟩
    obtain ⟨volume, mem, isName⟩ := (mem_claimNames_iff rendered).mp isClaim
    obtain ⟨second, secondMem, isOtherName⟩ := (mem_claimNames_iff otherRendered).mp isOtherClaim
    refine ⟨volume, mem, second, secondMem, ?_⟩
    exact (Naming.claimName_eq_iff (parts volume mem) (otherParts second secondMem) distinct).mp
      (isName.trans isOtherName.symm)
  · rintro ⟨volume, mem, second, secondMem, mistakable⟩
    have same := (Naming.claimName_eq_iff (parts volume mem) (otherParts second secondMem)
      distinct).mpr mistakable
    refine ⟨_, (mem_claimNames_iff rendered).mpr ⟨volume, mem, rfl⟩, ?_⟩
    exact (mem_claimNames_iff otherRendered).mpr ⟨second, secondMem, same.symm⟩

/-- The components "web-db" and "web" have a claim in common if the first one has a volume "data"
and the second one a volume "db-data". -/
theorem claims_shared_sample :
    Naming.claimName "web-db" "data" = Naming.claimName "web" "db-data" ∧
      ∃ desired other,
        render (.calling "main" "data") { componentName := some "web-db" } = .ok desired ∧
        render (.calling "main" "db-data") { componentName := some "web" } = .ok other ∧
        desired.name = "web-db" ∧ other.name = "web" ∧
        ∃ name ∈ desired.claimNames, name ∈ other.claimNames := by
  have parts : Naming.ClaimParts "web-db" "data" :=
    ⟨by constructor <;> decide, by constructor <;> decide, by decide⟩
  have otherParts : Naming.ClaimParts "web" "db-data" :=
    ⟨by constructor <;> decide, by constructor <;> decide, by decide⟩
  have middle : Naming.IsLabel "db" := by constructor <;> decide
  have mistakable : Naming.Mistakable "web" "db-data" "web-db" "data" :=
    ⟨"db", middle, by decide, by decide⟩
  obtain ⟨names, components⟩ := claims_shared_iff "web-db" "web" (by decide)
  refine ⟨(names _ _ parts otherParts).mpr (.inr mistakable), ?_⟩
  have renders : (render (.calling "main" "data") { componentName := some "web-db" }).toOption.any
      (·.name = "web-db") = true := by decide +kernel
  have otherRenders : (render (.calling "main" "db-data")
      { componentName := some "web" }).toOption.any (·.name = "web") = true := by decide +kernel
  obtain ⟨desired, rendered, isName⟩ := Checked.exists_of_any_toOption renders
  obtain ⟨other, otherRendered, isOtherName⟩ := Checked.exists_of_any_toOption otherRenders
  have isName := of_decide_eq_true isName
  have isOtherName := of_decide_eq_true isOtherName
  refine ⟨desired, other, rendered, otherRendered, isName, isOtherName, ?_⟩
  refine (components _ _ _ _ desired other rendered otherRendered isName isOtherName ?_ ?_).mpr ?_
  · intro volume mem
    obtain rfl := List.mem_singleton.mp mem
    exact parts
  · intro volume mem
    obtain rfl := List.mem_singleton.mp mem
    exact otherParts
  · exact ⟨("data", {}), List.mem_singleton_self _, ("db-data", {}), List.mem_singleton_self _,
      .inr mistakable⟩

/-- The names of claims do not tell all components apart. -/
theorem not_apart_of_dashes :
    ¬ ∀ component volume other second : String, Naming.IsLabel component →
      Naming.IsLabel volume → Naming.IsLabel other → Naming.IsLabel second →
      (component ++ "-" ++ volume).length ≤ Naming.maxLength →
      (other ++ "-" ++ second).length ≤ Naming.maxLength → component ≠ other →
      Naming.claimName component volume ≠ Naming.claimName other second := by
  intro claim
  refine claim "a-b" "c" "a" "b-c" ?_ ?_ ?_ ?_ ?_ ?_ ?_ ?_
  · constructor <;> decide
  · constructor <;> decide
  · constructor <;> decide
  · constructor <;> decide
  · decide
  · decide
  · decide
  · decide

end DevfilePush
