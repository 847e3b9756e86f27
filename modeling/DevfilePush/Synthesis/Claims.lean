import DevfilePush.Devfile.Basic
import DevfilePush.Failure
import DevfilePush.Kubernetes.Object
import DevfilePush.Naming.Label
import DevfilePush.Synthesis.Quantity

/-!
Volume claims, one for each volume component.
-/

namespace DevfilePush

/-- The size of a volume whose component gives none. -/
def defaultVolumeSize : String := "1Gi"

/-- The claim for a volume of a component. -/
def VolumeBody.claim (body : VolumeBody) (component : String) (labels : Labels)
    (volume : String) : Except SynthesisError Kubernetes.Claim :=
  let size := body.size.getD defaultVolumeSize
  match Quantity.ofText? size with
  | none => .error (.invalidQuantity ("volume " ++ volume ++ " size") size)
  | some amount =>
    .ok
      { metadata := .named (Naming.claimName component volume) labels
        spec := some
          { accessModes := some ["ReadWriteOnce"]
            resources := some { requests := some (.ofList [("storage", amount)]) } } }

/-- The claims for all volume components, in order of declaration. -/
def Devfile.synthesizeClaims (devfile : Devfile) (component : String) (labels : Labels) :
    Except SynthesisError (List Kubernetes.Claim) :=
  devfile.volumes.mapM fun volume => volume.2.claim component labels volume.1

end DevfilePush
