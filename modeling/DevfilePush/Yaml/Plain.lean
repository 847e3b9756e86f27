import DevfilePush.Text.Integer

/-!
What a plain scalar stands for besides text: nothing, a truth value or an integer.
-/

namespace DevfilePush.Yaml.Plain

/-- The spellings of the null value, the empty text apart. -/
def isNullWord (text : String) : Bool :=
  text = "null" || text = "Null" || text = "NULL" || text = "~"

/-- The spellings of the truth values. -/
def bool? (text : String) : Option Bool :=
  if text = "true" || text = "True" || text = "TRUE" then some true
  else if text = "false" || text = "False" || text = "FALSE" then some false
  else none

/-- Whether the digits, after a sign, start with a zero that a decimal number may not
start with. -/
def hasLeadingZero (digits : List Char) : Bool :=
  match digits with
  | '0' :: rest => !rest.isEmpty && rest.all Char.isDigit
  | _ => false

/-- `cs` without the sign that it may start with. -/
def dropSign : List Char → List Char
  | '+' :: rest => rest
  | '-' :: rest => rest
  | cs => cs

/-- Whether a sign starts `cs`. -/
def startsWithSign : List Char → Bool
  | '+' :: _ => true
  | '-' :: _ => true
  | _ => false

/-- The base that a letter after a leading zero stands for. -/
def baseOf? : Char → Option Nat
  | 'x' => some 16
  | 'o' => some 8
  | 'b' => some 2
  | _ => none

/-- An integer: decimal without leading zeros, or with `0x`, `0o` or `0b` in front, of
either sign. -/
def integer? (text : String) : Option Int :=
  let cs := text.toList
  let (negative, digits) := match cs with
    | '+' :: rest => (false, rest)
    | '-' :: rest => (true, rest)
    | _ => (false, cs)
  if startsWithSign digits then none
  else
    let magnitude := match digits with
      | '0' :: letter :: rest =>
        match baseOf? letter with
        | some base => Text.Integer.natOfDigits? base rest
        | none => if hasLeadingZero digits then none else Text.Integer.natOfDigits? 10 digits
      | _ => Text.Integer.natOfDigits? 10 digits
    magnitude.map fun n => if negative then -Int.ofNat n else Int.ofNat n

end DevfilePush.Yaml.Plain
