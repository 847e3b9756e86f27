import DevfilePush.Kubernetes.Container
import DevfilePush.Text.Blank
import DevfilePush.Text.DecimalDigit

/-!
Amounts of a resource, such as `512Mi` or `1.5G`.

An amount is a decimal number with an optional sign, followed by a unit, a binary unit
or a decimal exponent. Its text is kept as it was written.
-/

namespace DevfilePush.Quantity

/-- Whether `cs` is a non-empty run of digits. -/
def isDigitRun (cs : List Char) : Bool :=
  !cs.isEmpty && cs.all Text.isDecimalDigit

/-- `cs` without the sign that it may start with. -/
def dropSign : List Char → List Char
  | '+' :: rest => rest
  | '-' :: rest => rest
  | cs => cs

/-- Units of one letter. -/
def units : List Char := "numkMGTPE".toList

/-- Letters that a binary unit starts with. -/
def binaryUnits : List Char := "KMGTPE".toList

/-- Whether `cs` may follow the number: nothing, a unit or an exponent. -/
def isSuffix : List Char → Bool
  | [] => true
  | [c] => units.contains c
  | c :: rest =>
    (binaryUnits.contains c && rest = ['i']) ||
      ((c = 'e' || c = 'E') && isDigitRun (dropSign rest))

/-- Whether `cs` is an amount. -/
def isAmount (cs : List Char) : Bool :=
  let number := dropSign cs
  let whole := number.takeWhile Text.isDecimalDigit
  let rest := number.dropWhile Text.isDecimalDigit
  match rest with
  | '.' :: afterPoint =>
    let fraction := afterPoint.takeWhile Text.isDecimalDigit
    !(whole.isEmpty && fraction.isEmpty) &&
      isSuffix (afterPoint.dropWhile Text.isDecimalDigit)
  | _ => !whole.isEmpty && isSuffix rest

/-- The amount that a text gives, without the blanks around it. -/
def ofText? (text : String) : Option String :=
  let cs := Text.trimChars text.toList
  if isAmount cs then some (String.ofList cs) else none

/-- The limits that a container gets from its memory limit; a limit that is no amount is
passed over. -/
def memoryResources (limit : Option String) : Kubernetes.Resources :=
  match limit.bind ofText? with
  | some amount => { limits := some (.ofList [("memory", amount)]) }
  | none => {}

end DevfilePush.Quantity
