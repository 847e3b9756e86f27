import DevfilePush.Text.Integer
import Mathlib.Logic.Function.Defs

/-!
Numbers as texts.

Versions, pods and names that would be taken otherwise are told apart by a number in them: its
text determines it, and there is no dash in it. What is written in digits is read back as the same
number, and no digit of it could be taken for anything else. A byte has two hexadecimal digits.
-/

namespace DevfilePush.Text

/-- The digits of a number are those of no other number. -/
theorem toString_injective : Function.Injective (toString : Nat → String) := by
  intro first second same
  have digits : Nat.toDigits 10 first = Nat.toDigits 10 second := by
    rw [← Nat.toList_repr, ← Nat.toList_repr, ← Nat.toString_eq_repr, same, Nat.toString_eq_repr]
  calc
    first = Nat.ofDigitChars 10 (Nat.toDigits 10 first) 0 := Nat.ofDigitChars_ten_toDigits.symm
    _ = Nat.ofDigitChars 10 (Nat.toDigits 10 second) 0 := by rw [digits]
    _ = second := Nat.ofDigitChars_ten_toDigits

/-- A natural number is written in digits alone. -/
theorem dash_notMem_toString (number : Nat) : '-' ∉ (toString number).toList := by
  rw [Nat.toString_eq_ofList_toDigits, String.toList_ofList]
  intro mem
  cases Nat.isDigit_of_mem_toDigits (by decide) (by decide) mem

theorem toList_toString_negSucc (number : Nat) :
    (toString (Int.negSucc number)).toList = '-' :: (toString (number + 1)).toList := by
  have signed : toString (Int.negSucc number) = "-" ++ toString (number + 1) := rfl
  rw [signed, String.toList_append]
  rfl

/-- The sign of a negative number is a dash, and other numbers have none. -/
theorem toString_ofNat_ne_negSucc (plain negated : Nat) :
    toString (Int.ofNat plain) ≠ toString (Int.negSucc negated) := by
  intro same
  have isSigned : (toString plain).toList = '-' :: (toString (negated + 1)).toList := by
    rw [← toList_toString_negSucc, ← same]
    rfl
  exact dash_notMem_toString plain (isSigned ▸ List.mem_cons_self)

/-- Numbers below zero are told from the others by their sign. -/
theorem toString_int_injective : Function.Injective (toString : Int → String) := by
  intro first second same
  cases first with
  | ofNat first =>
    cases second with
    | ofNat second => exact congrArg Int.ofNat (toString_injective same)
    | negSucc second => exact absurd same (toString_ofNat_ne_negSucc first second)
  | negSucc first =>
    cases second with
    | ofNat second => exact absurd same.symm (toString_ofNat_ne_negSucc second first)
    | negSucc second =>
      have lists := congrArg String.toList same
      rw [toList_toString_negSucc, toList_toString_negSucc] at lists
      have digits := toString_injective (String.toList_inj.mp (List.cons.inj lists).2)
      rw [Nat.succ.inj digits]

/-! ### Reading digits -/

/-- Reading goes on as long as there are digits, and they are all there is. -/
theorem continueDigits?_of_isDigit {cs : List Char} (digits : ∀ c ∈ cs, c.isDigit = true)
    (value : Nat) : Integer.continueDigits? 10 value cs = some (Nat.ofDigitChars 10 cs value) := by
  induction cs generalizing value with
  | nil => rfl
  | cons c rest ih =>
    obtain ⟨isDigit, digits⟩ := List.forall_mem_cons.mp digits
    have atMost : c.toNat ≤ '9'.toNat := by
      simp only [Char.isDigit, Bool.and_eq_true, decide_eq_true_eq,
        UInt32.le_iff_toNat_le] at isDigit
      exact isDigit.2
    have small : c.toNat - '0'.toNat < 10 := by
      have isNine : '9'.toNat = '0'.toNat + 9 := rfl
      omega
    have isValue : Integer.digitOf? 10 c = some (c.toNat - '0'.toNat) := by
      rw [Integer.digitOf?, Integer.digitValue?, if_pos isDigit, Option.filter_some,
        if_pos (decide_eq_true small)]
    rw [Integer.continueDigits?, isValue, Nat.ofDigitChars_cons, Nat.mul_comm 10]
    exact ih digits _

/-- The digits of a number are read back as the number. -/
theorem natOfDigits?_toDigits (number : Nat) :
    Integer.natOfDigits? 10 (Nat.toDigits 10 number) = some number := by
  have digits : ∀ c ∈ Nat.toDigits 10 number, c.isDigit = true := fun c mem =>
    Nat.isDigit_of_mem_toDigits (by decide) (by decide) mem
  have given : (Nat.toDigits 10 number).isEmpty ≠ true :=
    fun empty => Nat.toDigits_ne_nil (List.isEmpty_iff.mp empty)
  rw [Integer.natOfDigits?, if_neg given, continueDigits?_of_isDigit digits,
    Nat.ofDigitChars_ten_toDigits]

/-- Only zero starts with a zero. -/
theorem eq_nil_of_toDigits {number : Nat} {rest : List Char}
    (isDigits : Nat.toDigits 10 number = '0' :: rest) : rest = [] := by
  induction number using Nat.strongRecOn generalizing rest with
  | ind number ih =>
    by_cases small : number < 10
    · rw [Nat.toDigits_of_lt_base small] at isDigits
      exact (List.cons.inj isDigits).2.symm
    · rw [Nat.toDigits_of_base_le (by decide) (Nat.not_lt.mp small)] at isDigits
      obtain ⟨first, others, isFirst⟩ := List.exists_cons_of_ne_nil
        (Nat.toDigits_ne_nil : Nat.toDigits 10 (number / 10) ≠ [])
      rw [isFirst] at isDigits
      obtain ⟨rfl, -⟩ := List.cons.inj isDigits
      have alone := ih _ (by omega) isFirst
      have isZero : number / 10 = 0 := by
        rw [← @Nat.ofDigitChars_ten_toDigits (number / 10), isFirst, alone]
        rfl
      omega

/-- The first of the digits is no sign, and a zero is the only one. -/
theorem toDigits_eq_cons (number : Nat) : ∃ c rest, Nat.toDigits 10 number = c :: rest ∧
    c ≠ '+' ∧ c ≠ '-' ∧ (c = '0' → rest = []) := by
  obtain ⟨c, rest, isDigits⟩ := List.exists_cons_of_ne_nil
    (Nat.toDigits_ne_nil : Nat.toDigits 10 number ≠ [])
  have isDigit : c.isDigit = true :=
    Nat.isDigit_of_mem_toDigits (by decide) (by decide) (isDigits ▸ List.mem_cons_self)
  refine ⟨c, rest, isDigits, ?_, ?_, ?_⟩
  · rintro rfl
    cases isDigit
  · rintro rfl
    cases isDigit
  · rintro rfl
    exact eq_nil_of_toDigits isDigits

/-! ### Hexadecimal digits -/

/-- A hexadecimal digit, a letter in lower case. -/
def isHexDigit (c : Char) : Bool :=
  c.isDigit || ('a' ≤ c && c ≤ 'f')

/-- There are sixteen values to check. -/
theorem isHexDigit_hexDigit : ∀ n < 16, isHexDigit (Integer.hexDigit n) = true := by
  decide

/-- Each half of a byte is less than sixteen and has a digit of its own. -/
theorem hexByte_eq (byte : UInt8) : Integer.hexByte byte =
    [Integer.hexDigit (byte.toNat / 16), Integer.hexDigit (byte.toNat % 16)] := by
  have small : byte.toNat < 256 := byte.toNat_lt
  rw [Integer.hexByte, Integer.hexPadded, Integer.hex]
  split
  · rename_i single
    rw [Nat.div_eq_of_lt single, Nat.mod_eq_of_lt single]
    rfl
  · have single : byte.toNat / 16 < 16 := by omega
    rw [Integer.hex, if_pos single]
    rfl

theorem length_hexByte (byte : UInt8) : (Integer.hexByte byte).length = 2 := by
  rw [hexByte_eq]
  rfl

theorem isHexDigit_of_mem_hexByte {byte : UInt8} {c : Char} (mem : c ∈ Integer.hexByte byte) :
    isHexDigit c = true := by
  have small : byte.toNat < 256 := byte.toNat_lt
  simp only [hexByte_eq, List.mem_cons, List.not_mem_nil, or_false] at mem
  rcases mem with rfl | rfl
  · exact isHexDigit_hexDigit _ (by omega)
  · exact isHexDigit_hexDigit _ (by omega)

end DevfilePush.Text
