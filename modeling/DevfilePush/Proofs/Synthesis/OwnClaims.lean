import DevfilePush.Proofs.Naming.Shape
import DevfilePush.Proofs.Synthesis.SharedClaims

/-!
Claims that one component has for its volumes.

The name of a claim is the component's name, a dash and the volume's name as long as this fits a
label, and then it is the volume that tells the claims of a component apart. From longer names a
hash is made, and what stands before it may be the same for all of them, so there it is the hash
that has to be different. Beyond that, a name that fits could by chance be what another one has
been cut to. Unless one of the two happens, the claims of a component are different
(`claims_distinct`).
-/

namespace DevfilePush

namespace Naming

variable {component volume other : String} {volumes : List String}

/-- The name of the claim has to be cut. -/
def OverLong (component volume : String) : Prop :=
  maxLength < (component ++ "-" ++ volume).length

instance (component volume : String) : Decidable (OverLong component volume) :=
  inferInstanceAs (Decidable (_ < _))

/-- Hashes tell the over-long names apart, and no other name is what one of these is cut to. -/
structure Discernible (component : String) (volumes : List String) : Prop where
  hashes : ∀ volume ∈ volumes, ∀ other ∈ volumes, volume ≠ other →
    OverLong component volume → OverLong component other →
      shortHash (component ++ "-" ++ volume) ≠ shortHash (component ++ "-" ++ other)
  uncut : ∀ volume ∈ volumes, ∀ other ∈ volumes,
    ¬ OverLong component volume → OverLong component other →
      component ++ "-" ++ volume ≠ hashed shortHash (component ++ "-" ++ other) maxLength

theorem claimName_of_overLong (isLong : OverLong component volume) :
    claimName component volume = hashed shortHash (component ++ "-" ++ volume) maxLength := by
  unfold claimName
  exact if_pos isLong

/-- Volumes have one claim only if neither their hashes nor their names tell them apart. -/
theorem claimName_ne (discernible : Discernible component volumes) (mem : volume ∈ volumes)
    (otherMem : other ∈ volumes) (distinct : volume ≠ other) :
    claimName component volume ≠ claimName component other := by
  by_cases isLong : OverLong component volume
  · rw [claimName_of_overLong isLong]
    by_cases otherLong : OverLong component other
    · rw [claimName_of_overLong otherLong]
      -- Hashes have no dash, so they can be read off the names.
      exact fun same => discernible.hashes volume mem other otherMem distinct isLong otherLong
        (withSuffix_inj (isShortHash_shortHash _).dash_notMem
          (isShortHash_shortHash _).dash_notMem same)
    · rw [claimName_of_fits (Nat.le_of_not_lt otherLong)]
      exact (discernible.uncut other otherMem volume mem otherLong isLong).symm
  · rw [claimName_of_fits (Nat.le_of_not_lt isLong)]
    by_cases otherLong : OverLong component other
    · rw [claimName_of_overLong otherLong]
      exact discernible.uncut volume mem other otherMem isLong otherLong
    · rw [claimName_of_fits (Nat.le_of_not_lt otherLong)]
      intro same
      have lists := congrArg String.toList same
      simp only [String.toList_append] at lists
      exact distinct (String.toList_inj.mp (List.append_cancel_left lists))

end Naming

open Naming (Discernible OverLong claimName)

/-- The claims of a component for different volumes have different names that fit a label, however
long the component's and the volumes' names are, unless hashes collide or a name that fits looks
like one that has been cut. So no two volumes of a component that is rendered share a claim. -/
theorem claims_distinct (component : String) :
    (∀ volume, (claimName component volume).length ≤ Naming.maxLength) ∧
    (∀ volumes : List String, volumes.Nodup → Discernible component volumes →
      (volumes.map (claimName component)).Nodup) ∧
    ∀ devfile params desired, render devfile params = .ok desired → desired.name = component →
      (devfile.volumes.map (·.1)).Nodup → Discernible component (devfile.volumes.map (·.1)) →
        desired.claimNames.Nodup := by
  have distinct : ∀ volumes : List String, volumes.Nodup → Discernible component volumes →
      (volumes.map (claimName component)).Nodup := by
    intro volumes distinct discernible
    refine List.Nodup.map_on (fun volume mem other otherMem same => ?_) distinct
    by_contra differ
    exact Naming.claimName_ne discernible mem otherMem differ same
  refine ⟨Naming.length_claimName_le component, distinct, ?_⟩
  rintro devfile params desired rendered rfl volumes discernible
  have names := distinct _ volumes discernible
  rw [List.map_map] at names
  rw [claimNames_eq rendered]
  exact names

/-- A component with volumes for which its name leaves no room, and one for which it does. -/
def Devfile.caching : Devfile :=
  { Devfile.calling "main" "m2" with
    components := ⟨"main", .container { image := "alpine" }⟩ ::
      ["m2", "maven2", "gradle"].map fun volume => ⟨volume, .volume {}⟩ }

theorem claims_distinct_caching :
    let component := String.ofList (List.replicate 57 'a')
    Discernible component ["m2", "maven2", "gradle"] ∧
      ¬ OverLong component "m2" ∧ OverLong component "maven2" ∧ OverLong component "gradle" ∧
      (["m2", "maven2", "gradle"].map (claimName component)).Nodup ∧
      ∃ desired, render .caching { componentName := some component } = .ok desired ∧
        desired.name = component ∧ desired.claimNames.Nodup := by
  intro component
  have fits : ¬ OverLong component "m2" := by decide +kernel
  have maven : OverLong component "maven2" := by decide +kernel
  have gradle : OverLong component "gradle" := by decide +kernel
  have mavenHash : Naming.shortHash (component ++ "-" ++ "maven2") = "a44b4a06" := by
    decide +kernel
  have gradleHash : Naming.shortHash (component ++ "-" ++ "gradle") = "e1f9662a" := by
    decide +kernel
  have mavenApart : component ++ "-" ++ "m2" ≠
      Naming.hashed Naming.shortHash (component ++ "-" ++ "maven2") Naming.maxLength := by
    rw [Naming.hashed, mavenHash]
    decide +kernel
  have gradleApart : component ++ "-" ++ "m2" ≠
      Naming.hashed Naming.shortHash (component ++ "-" ++ "gradle") Naming.maxLength := by
    rw [Naming.hashed, gradleHash]
    decide +kernel
  have discernible : Discernible component ["m2", "maven2", "gradle"] := by
    constructor
    case hashes => simp [fits, mavenHash, gradleHash]
    case uncut => simp [fits, maven, gradle, mavenApart, gradleApart]
  obtain ⟨-, names, claims⟩ := claims_distinct component
  have renders : (render .caching { componentName := some component }).toOption.any
      (·.name = component) = true := by decide +kernel
  obtain ⟨desired, rendered, isName⟩ := Checked.exists_of_any_toOption renders
  have isName := of_decide_eq_true isName
  exact ⟨discernible, fits, maven, gradle, names _ (by decide) discernible,
    desired, rendered, isName, claims _ _ desired rendered isName (by decide) discernible⟩

end DevfilePush
