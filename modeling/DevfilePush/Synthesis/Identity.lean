import DevfilePush.Kubernetes.Metadata

/-!
What identifies the cluster objects of a component: two labels, and the selector that
asks for them.
-/

namespace DevfilePush

/-- The label that holds the component's name. -/
def componentLabel : String := "component"

/-- The label that says who manages an object. -/
def managedByLabel : String := "app.kubernetes.io/managed-by"

/-- The value of `managedByLabel` on the objects of a push. -/
def manager : String := "devpush"

/-- The labels on every object of a component. -/
def componentLabels (component : String) : Labels :=
  .ofList [(componentLabel, component), (managedByLabel, manager)]

/-- The selector that asks for all of the labels: `key=value` parts between commas, in
the order of the keys. -/
def labelSelector (labels : Labels) : String :=
  ",".intercalate (labels.entries.map fun entry => entry.1 ++ "=" ++ entry.2)

end DevfilePush
