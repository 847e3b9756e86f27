/-!
Reading UTF-8 that may be damaged.

Each longest start of a character that cannot be continued, and each byte that
starts none, is read as one U+FFFD. `decodeLossy` therefore always answers, and
on well-formed bytes it gives exactly their text.
-/

namespace DevfilePush.Text.Utf8

/-- The character that stands for unreadable bytes. -/
def replacement : Char := '\ufffd'

/-- A byte of the form `10xxxxxx`. -/
def isContinuation (b : UInt8) : Bool :=
  b.toNat / 64 = 2

/-- The low six bits of a continuation byte. -/
def payload (b : UInt8) : Nat :=
  b.toNat % 64

/-- Whether `second` may follow `lead`: this is where over-long forms, surrogates
and values beyond U+10FFFF are refused. -/
def mayFollow (lead second : UInt8) : Bool :=
  if lead = 0xE0 then 0xA0 ≤ second && second ≤ 0xBF
  else if lead = 0xED then 0x80 ≤ second && second ≤ 0x9F
  else if lead = 0xF0 then 0x90 ≤ second && second ≤ 0xBF
  else if lead = 0xF4 then 0x80 ≤ second && second ≤ 0x8F
  else isContinuation second

/-- The character that `lead` starts and the number of bytes of `rest` that belong
to it; for damaged bytes the replacement and the bytes it covers. -/
def readScalar (lead : UInt8) (rest : List UInt8) : Char × Nat :=
  if lead < 0x80 then (Char.ofNat lead.toNat, 0)
  else if 0xC2 ≤ lead && lead ≤ 0xDF then
    match rest with
    | b :: _ =>
      if isContinuation b then (Char.ofNat ((lead.toNat % 32) * 64 + payload b), 1)
      else (replacement, 0)
    | [] => (replacement, 0)
  else if 0xE0 ≤ lead && lead ≤ 0xEF then
    match rest with
    | b :: more =>
      if !mayFollow lead b then (replacement, 0)
      else match more with
        | c :: _ =>
          if isContinuation c then
            (Char.ofNat ((lead.toNat % 16) * 4096 + payload b * 64 + payload c), 2)
          else (replacement, 1)
        | [] => (replacement, 1)
    | [] => (replacement, 0)
  else if 0xF0 ≤ lead && lead ≤ 0xF4 then
    match rest with
    | b :: more =>
      if !mayFollow lead b then (replacement, 0)
      else match more with
        | c :: others =>
          if !isContinuation c then (replacement, 1)
          else match others with
            | d :: _ =>
              if isContinuation d then
                (Char.ofNat ((lead.toNat % 8) * 262144 + payload b * 4096 + payload c * 64 +
                  payload d), 3)
              else (replacement, 2)
            | [] => (replacement, 2)
        | [] => (replacement, 1)
    | [] => (replacement, 0)
  else (replacement, 0)

/-- The characters of `bytes`, with U+FFFD for what cannot be read. -/
def decodeLossyChars : List UInt8 → List Char
  | [] => []
  | lead :: rest =>
    (readScalar lead rest).1 :: decodeLossyChars (rest.drop (readScalar lead rest).2)
  termination_by bytes => bytes.length
  decreasing_by simp only [List.length_drop, List.length_cons]; omega

/-- The text of `bytes`, with U+FFFD for what cannot be read. -/
def decodeLossy (bytes : List UInt8) : String :=
  String.ofList (decodeLossyChars bytes)

/-- The bytes of a text. -/
def encode (s : String) : List UInt8 :=
  s.toUTF8.data.toList

/-- The text of `bytes`, or nothing when they are damaged. -/
def decode? (bytes : List UInt8) : Option String :=
  String.fromUTF8? ⟨bytes.toArray⟩

end DevfilePush.Text.Utf8
