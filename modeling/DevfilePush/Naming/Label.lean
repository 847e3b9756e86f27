import DevfilePush.Digest.Blake3
import DevfilePush.Text.Blank
import DevfilePush.Text.Lowercase

/-!
Names that fit a DNS label.

A name that is too long is cut; where that could make two names equal, its end is
replaced by a hash of the whole name. A cut never leaves a dash at the end.
-/

namespace DevfilePush.Naming

/-- The greatest length of a label. -/
def maxLength : Nat := 63

/-- `name` without the dashes at its end. -/
def dropDashes (name : List Char) : List Char :=
  Text.dropTrailing (· = '-') name

/-- `name`, cut to at most `limit` characters. -/
def truncate (name : String) (limit : Nat) : String :=
  if name.length ≤ limit then name
  else String.ofList (dropDashes (name.toList.take limit))

/-- `name`, cut to make room for a dash and `suffix` within `limit` characters. -/
def withSuffix (name suffix : String) (limit : Nat) : String :=
  String.ofList (dropDashes (name.toList.take (limit - (suffix.length + 1))) ++
    '-' :: suffix.toList)

/-- The first eight hexadecimal digits of the digest of a text. -/
def shortHash (text : String) : String :=
  String.ofList ((Digest.Blake3.hexDigest (Text.Utf8.encode text)).take 8)

/-- `name` with its end replaced by its hash, within `limit` characters. -/
def hashed (hash : String → String) (name : String) (limit : Nat) : String :=
  withSuffix name (hash name) limit

/-- The name of the claim for a volume of a component. Over-long names take a hash,
so that the volumes of one component have different claims. -/
def claimName (component volume : String) : String :=
  let full := component ++ "-" ++ volume
  if maxLength < full.length then hashed shortHash full maxLength else full

/-- A component's name as the name of its cluster objects. -/
def normalize (name : String) : String :=
  truncate (Text.lowercase name) maxLength

end DevfilePush.Naming
