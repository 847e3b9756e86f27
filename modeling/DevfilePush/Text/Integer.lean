/-!
Integers in digits.

`natOfDigits?` reads digits of a base, `signed?` a decimal number with an
optional sign. Both refuse an empty run of digits; neither takes separators.
-/

namespace DevfilePush.Text.Integer

/-- The value of a digit: `0`–`9`, then letters of either case. -/
def digitValue? (c : Char) : Option Nat :=
  if c.isDigit then some (c.toNat - '0'.toNat)
  else if 'a' ≤ c ∧ c ≤ 'z' then some (c.toNat - 'a'.toNat + 10)
  else if 'A' ≤ c ∧ c ≤ 'Z' then some (c.toNat - 'A'.toNat + 10)
  else none

/-- The value of `c` as a digit of `base`. -/
def digitOf? (base : Nat) (c : Char) : Option Nat :=
  (digitValue? c).filter (· < base)

/-- The number written by the digits `cs` after those that gave `value`. -/
def continueDigits? (base : Nat) (value : Nat) : List Char → Option Nat
  | [] => some value
  | c :: rest => do
    let digit ← digitOf? base c
    continueDigits? base (value * base + digit) rest

/-- The number written by a non-empty run of digits. -/
def natOfDigits? (base : Nat) (cs : List Char) : Option Nat :=
  if cs.isEmpty then none else continueDigits? base 0 cs

/-- A decimal number with an optional plus sign. -/
def unsigned? (cs : List Char) : Option Nat :=
  match cs with
  | '+' :: digits => natOfDigits? 10 digits
  | _ => natOfDigits? 10 cs

/-- A number of `base` with an optional sign. -/
def signedOfBase? (base : Nat) (cs : List Char) : Option Int :=
  match cs with
  | '+' :: digits => (natOfDigits? base digits).map Int.ofNat
  | '-' :: digits => (natOfDigits? base digits).map fun n => -Int.ofNat n
  | _ => (natOfDigits? base cs).map Int.ofNat

/-- A decimal number with an optional sign. -/
def signed? (cs : List Char) : Option Int :=
  signedOfBase? 10 cs

/-- Whether `n` fits `bits` bits in two's complement. -/
def fitsSigned (bits : Nat) (n : Int) : Bool :=
  -Int.ofNat (Nat.pow 2 (bits - 1)) ≤ n && n < Int.ofNat (Nat.pow 2 (bits - 1))

/-- Whether `n` fits `bits` bits without a sign. -/
def fitsUnsigned (bits : Nat) (n : Nat) : Bool :=
  n < Nat.pow 2 bits

/-- Whether `n` fits `bits` bits, in two's complement or without a sign. -/
def fitsEither (bits : Nat) (n : Int) : Bool :=
  fitsSigned bits n || (0 ≤ n && fitsUnsigned bits n.toNat)

/-- The digit of a value below 16. -/
def hexDigit (n : Nat) : Char :=
  if n < 10 then Char.ofNat ('0'.toNat + n) else Char.ofNat ('a'.toNat + (n - 10))

/-- `n` in hexadecimal, lower case, without leading zeros. -/
def hex (n : Nat) : List Char :=
  if n < 16 then [hexDigit n] else hex (n / 16) ++ [hexDigit (n % 16)]
  termination_by n
  decreasing_by omega

/-- `n` in hexadecimal, lower case, with leading zeros up to `width` digits. -/
def hexPadded (width n : Nat) : List Char :=
  let digits := hex n
  List.replicate (width - digits.length) '0' ++ digits

/-- The bytes that pairs of hexadecimal digits write. -/
def bytesOfHex? : List Char → Option (List UInt8)
  | [] => some []
  | [_] => none
  | high :: low :: rest => do
    let byte ← natOfDigits? 16 [high, low]
    return UInt8.ofNat byte :: (← bytesOfHex? rest)

/-- A byte as two hexadecimal digits. -/
def hexByte (b : UInt8) : List Char :=
  hexPadded 2 b.toNat

end DevfilePush.Text.Integer
