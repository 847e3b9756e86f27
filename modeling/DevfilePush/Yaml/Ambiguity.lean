import DevfilePush.Yaml.Plain

/-!
Text that would not be read as text if it were written plainly.

That is text which stands for nothing, a truth value or a number, and digits after a zero,
which some readers of YAML take for a number. The numbers are the integers of 128 bits and the
decimal numbers that a binary fraction of 64 bits can hold.
-/

namespace DevfilePush.Yaml.Plain

/-! ### Decimal numbers -/

/-- An optional exponent that ends the text. -/
def exponent? : List Char → Option Int
  | [] => some 0
  | 'e' :: rest => Text.Integer.signed? rest
  | 'E' :: rest => Text.Integer.signed? rest
  | _ => none

/-- The digits of a decimal number without a sign, and the power of ten of the last of
them. -/
def decimalParts? (cs : List Char) : Option (List Char × Int) :=
  let whole := cs.takeWhile Char.isDigit
  let (fraction, rest) := match cs.dropWhile Char.isDigit with
    | '.' :: rest => (rest.takeWhile Char.isDigit, rest.dropWhile Char.isDigit)
    | rest => ([], rest)
  if whole.isEmpty && fraction.isEmpty then none
  else (exponent? rest).map fun exponent => (whole ++ fraction, exponent - fraction.length)

/-- The least magnitude that is rounded to infinity. -/
def infiniteFrom : Nat := Nat.pow 2 1024 - Nat.pow 2 970

/-- How many digits `infiniteFrom` has. -/
def infiniteDigits : Int := 309

/-- Whether the number with these digits, the last of which stands for this power of ten,
is not rounded to infinity. -/
def isFinite (digits : List Char) (power : Int) : Bool :=
  match digits.dropWhile (· = '0') with
  | [] => true
  | digits =>
    let places := digits.length + power
    if places < infiniteDigits then true
    else if infiniteDigits < places then false
    else
      let magnitude := (Text.Integer.natOfDigits? 10 digits).getD 0
      magnitude * Nat.pow 10 power.toNat < infiniteFrom * Nat.pow 10 (-power).toNat

/-- The spellings of the infinite numbers and of what is no number. -/
def isSpecialNumber (text : String) : Bool :=
  [".inf", ".Inf", ".INF", "+.inf", "+.Inf", "+.INF", "-.inf", "-.Inf", "-.INF",
    ".nan", ".NaN", ".NAN"].contains text

/-- Whether the text is a decimal number. -/
def isDecimal (text : String) : Bool :=
  match decimalParts? (dropSign text.toList) with
  | some (digits, power) => isFinite digits power
  | none => false

/-! ### Ambiguous text -/

/-- Whether the text is an integer of at most 128 bits. -/
def isInteger (text : String) : Bool :=
  (integer? text).any (Text.Integer.fitsEither 128)

/-- Whether the text must not be written plainly because of what it could stand for. -/
def isAmbiguous (text : String) : Bool :=
  text = "" || isNullWord text || (bool? text).isSome || isInteger text ||
    isSpecialNumber text || hasLeadingZero (dropSign text.toList) || isDecimal text

end DevfilePush.Yaml.Plain
