/-!
Spans of time and the way they are written.

A span is a number of nanoseconds. It is written in the largest of the units
seconds, milliseconds, microseconds and nanoseconds that it reaches, with as many
decimal places as it needs: `240s`, `1.5s`, `50ms`, `0ns`.
-/

namespace DevfilePush

/-- A span of time. -/
structure Duration where
  nanoseconds : Nat
  deriving DecidableEq, Repr

namespace Duration

/-- A span of whole seconds. -/
def ofSeconds (seconds : Nat) : Duration :=
  ⟨seconds * 1000000000⟩

/-- A span of whole milliseconds. -/
def ofMilliseconds (milliseconds : Nat) : Duration :=
  ⟨milliseconds * 1000000⟩

/-- `n` in decimal with leading zeros up to `width` digits. -/
def paddedDigits (width n : Nat) : List Char :=
  let digits := Nat.toDigits 10 n
  List.replicate (width - digits.length) '0' ++ digits

/-- `whole` and the fraction `part / 10 ^ places`, without trailing zeros. -/
def decimal (whole part places : Nat) : List Char :=
  let fraction := (((paddedDigits places part).reverse).dropWhile (· = '0')).reverse
  Nat.toDigits 10 whole ++ (if fraction.isEmpty then [] else '.' :: fraction)

/-- The text of a span. -/
def text (d : Duration) : String :=
  let n := d.nanoseconds
  if 1000000000 ≤ n then
    String.ofList (decimal (n / 1000000000) (n % 1000000000) 9 ++ ['s'])
  else if 1000000 ≤ n then
    String.ofList (decimal (n / 1000000) (n % 1000000) 6 ++ ['m', 's'])
  else if 1000 ≤ n then
    String.ofList (decimal (n / 1000) (n % 1000) 3 ++ ['µ', 's'])
  else String.ofList (Nat.toDigits 10 n ++ ['n', 's'])

end Duration

end DevfilePush
