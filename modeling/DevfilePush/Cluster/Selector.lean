import DevfilePush.Kubernetes.Metadata
import DevfilePush.Text.Blank

/-!
Matching labels against a selector.

A selector is a list of parts between commas, all of which have to hold: `key=value`
asks for that entry, `key` for any entry under the key, and a blank part for nothing.
Labels that are absent satisfy blank parts only.
-/

namespace DevfilePush

/-- Whether labels satisfy one part of a selector. -/
def matchesPart (labels : Option Labels) (part : List Char) : Bool :=
  match Text.trimChars part, labels with
  | [], _ => true
  | _, none => false
  | part, some labels =>
    match Text.splitFirst? '=' part with
    | some (key, value) =>
      labels.get? (String.ofList (Text.trimChars key)) = some (String.ofList (Text.trimChars value))
    | none => labels.contains (String.ofList part)

/-- Whether labels satisfy a selector. -/
def matchesSelector (labels : Option Labels) (selector : String) : Bool :=
  (Text.pieces ',' selector.toList).all (matchesPart labels)

end DevfilePush
