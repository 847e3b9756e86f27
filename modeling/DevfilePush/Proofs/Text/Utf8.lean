import DevfilePush.Text.Utf8

/-!
Text as bytes and back.

Whatever follows it, the first character of well-formed bytes is read as itself
(`readScalar_utf8EncodeChar`), so decoding a text's bytes gives the text
(`decodeLossy_encode`).
-/

namespace DevfilePush.Text.Utf8

/-! ### Bytes as numbers -/

theorem toNat_ofNat_of_lt {n : Nat} (small : n < 256) : (UInt8.ofNat n).toNat = n := by
  rw [UInt8.toNat_ofNat']
  exact Nat.mod_eq_of_lt small

/-- Continuation bytes are those from 128 to 191. -/
theorem isContinuation_iff {b : UInt8} :
    isContinuation b = true ↔ 128 ≤ b.toNat ∧ b.toNat < 192 := by
  rw [isContinuation, decide_eq_true_iff]
  omega

theorem isContinuation_ofNat (n : Nat) : isContinuation (UInt8.ofNat (n % 64 + 128)) = true := by
  rw [isContinuation_iff, toNat_ofNat_of_lt (by omega)]
  omega

/-- The six bits that a continuation byte carries are read back. -/
theorem payload_ofNat (n : Nat) : payload (UInt8.ofNat (n % 64 + 128)) = n % 64 := by
  rw [payload, toNat_ofNat_of_lt (by omega)]
  omega

/-- A continuation byte may follow unless that made an over-long form, a surrogate or a number
beyond the last character. -/
theorem mayFollow_of_toNat {lead second : UInt8}
    (continues : 128 ≤ second.toNat ∧ second.toNat < 192)
    (three : lead.toNat = 0xE0 → 0xA0 ≤ second.toNat)
    (noSurrogate : lead.toNat = 0xED → second.toNat ≤ 0x9F)
    (four : lead.toNat = 0xF0 → 0x90 ≤ second.toNat)
    (inRange : lead.toNat = 0xF4 → second.toNat ≤ 0x8F) : mayFollow lead second = true := by
  simp only [mayFollow, isContinuation, ← UInt8.toNat_inj, UInt8.le_iff_toNat_le,
    UInt8.reduceToNat]
  split
  · simp
    omega
  · split
    · simp
      omega
    · split
      · simp
        omega
      · split
        · simp
          omega
        · simp
          omega

/-! ### Reading a character -/

/-- A character of ASCII is one byte, which is read as the character. -/
theorem readScalar_of_one {n : Nat} (most : n ≤ 127) (rest : List UInt8) :
    readScalar (UInt8.ofNat n) rest = (Char.ofNat n, 0) := by
  have lead := toNat_ofNat_of_lt (show n < 256 by omega)
  unfold readScalar
  rw [if_pos, lead]
  rw [UInt8.lt_iff_toNat_lt, lead]
  exact Nat.lt_succ_of_le most

/-- Of two bytes the second one may be any continuation byte. -/
theorem readScalar_of_two {n : Nat} (least : 127 < n) (most : n ≤ 2047) (rest : List UInt8) :
    readScalar (UInt8.ofNat (n / 64 % 32 + 192)) (UInt8.ofNat (n % 64 + 128) :: rest) =
      (Char.ofNat n, 1) := by
  have lead := toNat_ofNat_of_lt (show n / 64 % 32 + 192 < 256 by omega)
  have number : (n / 64 % 32 + 192) % 32 * 64 + n % 64 = n := by omega
  unfold readScalar
  rw [if_neg, if_pos]
  · simp only [isContinuation_ofNat, if_true, payload_ofNat, lead, number]
  · simp [UInt8.le_iff_toNat_le]
    omega
  · simp [UInt8.lt_iff_toNat_lt]
    omega

/-- Of three bytes the second one is restricted where the form would be over-long or a
surrogate. -/
theorem readScalar_of_three {n : Nat} (least : 2047 < n) (most : n ≤ 65535)
    (valid : n < 0xD800 ∨ 0xDFFF < n) (rest : List UInt8) :
    readScalar (UInt8.ofNat (n / 4096 % 16 + 224))
        (UInt8.ofNat (n / 64 % 64 + 128) :: UInt8.ofNat (n % 64 + 128) :: rest) =
      (Char.ofNat n, 2) := by
  have lead := toNat_ofNat_of_lt (show n / 4096 % 16 + 224 < 256 by omega)
  have second := toNat_ofNat_of_lt (show n / 64 % 64 + 128 < 256 by omega)
  have number : (n / 4096 % 16 + 224) % 16 * 4096 + n / 64 % 64 * 64 + n % 64 = n := by omega
  have follows : mayFollow (UInt8.ofNat (n / 4096 % 16 + 224))
      (UInt8.ofNat (n / 64 % 64 + 128)) = true := by
    apply mayFollow_of_toNat <;> rw [second]
    · omega
    all_goals
      rw [lead]
      omega
  unfold readScalar
  rw [if_neg, if_neg, if_pos]
  · simp only [follows, Bool.not_true, Bool.false_eq_true, if_false, isContinuation_ofNat,
      if_true, payload_ofNat, lead, number]
  · simp [UInt8.le_iff_toNat_le]
    omega
  · simp [UInt8.le_iff_toNat_le]
    omega
  · simp [UInt8.lt_iff_toNat_lt]
    omega

/-- Of four bytes it is restricted as well, lest the number be too large. -/
theorem readScalar_of_four {n : Nat} (least : 65535 < n) (most : n ≤ 0x10FFFF)
    (rest : List UInt8) :
    readScalar (UInt8.ofNat (n / 262144 % 8 + 240))
        (UInt8.ofNat (n / 4096 % 64 + 128) :: UInt8.ofNat (n / 64 % 64 + 128) ::
          UInt8.ofNat (n % 64 + 128) :: rest) =
      (Char.ofNat n, 3) := by
  have lead := toNat_ofNat_of_lt (show n / 262144 % 8 + 240 < 256 by omega)
  have second := toNat_ofNat_of_lt (show n / 4096 % 64 + 128 < 256 by omega)
  have number : (n / 262144 % 8 + 240) % 8 * 262144 + n / 4096 % 64 * 4096 +
      n / 64 % 64 * 64 + n % 64 = n := by omega
  have follows : mayFollow (UInt8.ofNat (n / 262144 % 8 + 240))
      (UInt8.ofNat (n / 4096 % 64 + 128)) = true := by
    apply mayFollow_of_toNat <;> rw [second]
    · omega
    all_goals
      rw [lead]
      omega
  unfold readScalar
  rw [if_neg, if_neg, if_neg, if_pos]
  · simp only [follows, Bool.not_true, Bool.false_eq_true, if_false, isContinuation_ofNat,
      if_true, payload_ofNat, lead, number]
  · simp [UInt8.le_iff_toNat_le]
    omega
  · simp [UInt8.le_iff_toNat_le]
    omega
  · simp [UInt8.le_iff_toNat_le]
    omega
  · simp [UInt8.lt_iff_toNat_lt]
    omega

/-- A character's bytes are read as that character, whatever follows them. -/
theorem readScalar_utf8EncodeChar (c : Char) :
    ∃ lead others, String.utf8EncodeChar c = lead :: others ∧
      ∀ rest, readScalar lead (others ++ rest) = (c, others.length) := by
  have self : Char.ofNat c.val.toNat = c := Char.ofNat_toNat c
  unfold String.utf8EncodeChar
  by_cases one : c.val.toNat ≤ 127
  · refine ⟨_, [], if_pos one, fun rest => ?_⟩
    rw [readScalar_of_one one, self, List.length_nil]
  by_cases two : c.val.toNat ≤ 2047
  · refine ⟨_, [_], (if_neg one).trans (if_pos two), fun rest => ?_⟩
    rw [List.singleton_append, readScalar_of_two (by omega) two, self, List.length_singleton]
  by_cases three : c.val.toNat ≤ 65535
  · have valid : c.val.toNat < 0xD800 ∨ 0xDFFF < c.val.toNat := by
      rcases c.valid with low | high
      · exact .inl low
      · exact .inr high.1
    refine ⟨_, [_, _], (if_neg one).trans ((if_neg two).trans (if_pos three)), fun rest => ?_⟩
    rw [List.cons_append, List.singleton_append, readScalar_of_three (by omega) three valid, self]
    rfl
  · have most : c.val.toNat ≤ 0x10FFFF := by
      rcases c.valid with low | high
      · exact Nat.le_trans (Nat.le_of_lt low) (by decide)
      · exact Nat.le_of_lt_succ high.2
    refine ⟨_, [_, _, _], (if_neg one).trans ((if_neg two).trans (if_neg three)), fun rest => ?_⟩
    rw [List.cons_append, List.cons_append, List.singleton_append,
      readScalar_of_four (by omega) most, self]
    rfl

/-! ### Reading a text -/

/-- Characters are read one after another, each from its own bytes. -/
theorem decodeLossyChars_flatMap (cs : List Char) :
    decodeLossyChars (cs.flatMap String.utf8EncodeChar) = cs := by
  induction cs with
  | nil => rw [List.flatMap_nil, decodeLossyChars]
  | cons c rest ih =>
    obtain ⟨lead, others, bytes, reads⟩ := readScalar_utf8EncodeChar c
    rw [List.flatMap_cons, bytes, List.cons_append, decodeLossyChars, reads, List.drop_left, ih]

theorem encode_eq_flatMap (text : String) :
    encode text = text.toList.flatMap String.utf8EncodeChar := by
  rw [encode, String.toUTF8_eq_toByteArray, ← String.utf8Encode_toList]
  exact List.toList_data_toByteArray

/-- Well-formed bytes give their text. -/
theorem decodeLossy_encode (text : String) : decodeLossy (encode text) = text := by
  rw [decodeLossy, encode_eq_flatMap, decodeLossyChars_flatMap, String.ofList_toList]

/-! ### Bytes that are characters -/

/-- A character beyond ASCII has only bytes that are marked in their highest bit. -/
theorem le_toNat_of_mem_utf8EncodeChar {b : UInt8} {c : Char} (beyond : 127 < c.val.toNat)
    (mem : b ∈ String.utf8EncodeChar c) : 128 ≤ b.toNat := by
  revert b
  unfold String.utf8EncodeChar
  simp only [if_neg (Nat.not_le.mpr beyond)]
  split
  · simp
    omega
  · split
    · simp
      omega
    · simp
      omega

/-- An unmarked byte of a character is the whole character. -/
theorem toNat_eq_of_mem_utf8EncodeChar {b : UInt8} {c : Char}
    (mem : b ∈ String.utf8EncodeChar c) (low : b.toNat < 128) : c.toNat = b.toNat := by
  by_cases one : c.val.toNat ≤ 127
  · simp only [String.utf8EncodeChar, if_pos one, List.mem_singleton] at mem
    rw [mem, toNat_ofNat_of_lt (by omega)]
    rfl
  · have marked := le_toNat_of_mem_utf8EncodeChar (Nat.not_le.mp one) mem
    omega

/-- So the unmarked bytes of a text are characters of the text. -/
theorem mem_of_mem_encode {b : UInt8} {text : String} (mem : b ∈ encode text)
    (low : b.toNat < 128) : Char.ofNat b.toNat ∈ text.toList := by
  rw [encode_eq_flatMap] at mem
  obtain ⟨c, isChar, isByte⟩ := List.mem_flatMap.mp mem
  rwa [← toNat_eq_of_mem_utf8EncodeChar isByte low, Char.ofNat_toNat]

/-- If the last byte of a text is unmarked, it is the last character. -/
theorem getLast?_of_encode {b : UInt8} {text : String} (isLast : (encode text).getLast? = some b)
    (low : b.toNat < 128) : text.toList.getLast? = some (Char.ofNat b.toNat) := by
  rw [encode_eq_flatMap] at isLast
  rcases List.eq_nil_or_concat text.toList with isEmpty | ⟨others, c, ends⟩
  · simp [isEmpty] at isLast
  · rw [List.concat_eq_append] at ends
    rw [ends, List.flatMap_append, List.flatMap_singleton, List.getLast?_append,
      List.getLast?_eq_some_getLast String.utf8EncodeChar_ne_nil, Option.some_or,
      ← List.getLast?_eq_some_getLast String.utf8EncodeChar_ne_nil] at isLast
    rw [ends, List.getLast?_concat,
      ← toNat_eq_of_mem_utf8EncodeChar (List.mem_of_getLast? isLast) low, Char.ofNat_toNat]

end DevfilePush.Text.Utf8
