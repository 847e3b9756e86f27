import DevfilePush.Synthesis.Quantity
import Mathlib.Data.List.TakeWhile

/-!
Which texts are amounts of a resource.

An amount is a sign, a number and a suffix, one after another (`Amount`), and a text is read
exactly when it is one between the blanks at its edges. The grammar leaves open what a digit
is. The reader takes a digit of any script, so it also accepts amounts that a cluster does not
know; those with ASCII digits alone are the ones that a cluster knows (`ofText?_spec`).
-/

namespace DevfilePush.Quantity

/-! ### The grammar -/

/-- A sign, which may be missing. -/
inductive Sign : List Char → Prop where
  | none : Sign []
  | plus : Sign ['+']
  | minus : Sign ['-']

section

variable (digit : Char → Bool)

/-- Nothing but digits, possibly none. -/
def Digits (cs : List Char) : Prop :=
  ∀ c ∈ cs, digit c = true

/-- Digits, which may be followed by a point and further digits, or a point before digits. -/
inductive Number : List Char → Prop where
  | whole {whole : List Char} (some : whole ≠ []) (digits : Digits digit whole) : Number whole
  | pointed {whole fraction : List Char} (some : whole ≠ []) (digits : Digits digit whole)
      (further : Digits digit fraction) : Number (whole ++ '.' :: fraction)
  | fraction {fraction : List Char} (some : fraction ≠ []) (digits : Digits digit fraction) :
      Number ('.' :: fraction)

/-- The units, decimal ones and binary ones. -/
def unitNames : List String :=
  ["n", "u", "m", "k", "M", "G", "T", "P", "E", "Ki", "Mi", "Gi", "Ti", "Pi", "Ei"]

/-- What may follow the number: nothing, a unit or a decimal exponent. -/
inductive Suffix : List Char → Prop where
  | none : Suffix []
  | unit {name : String} (isUnit : name ∈ unitNames) : Suffix name.toList
  | exponent {e : Char} {sign exponent : List Char} (isMark : e = 'e' ∨ e = 'E')
      (isSign : Sign sign) (some : exponent ≠ []) (digits : Digits digit exponent) :
      Suffix (e :: (sign ++ exponent))

/-- An amount of a resource. -/
inductive Amount : List Char → Prop where
  | intro {sign number suffix : List Char} (isSign : Sign sign) (isNumber : Number digit number)
      (isSuffix : Suffix digit suffix) : Amount (sign ++ (number ++ suffix))

end

variable {digit other : Char → Bool} {cs digits rest sign : List Char}

/-! ### Signs and digits -/

theorem isDigitRun_iff : isDigitRun cs = true ↔ cs ≠ [] ∧ Digits Text.isDecimalDigit cs := by
  rw [isDigitRun, Bool.and_eq_true, Bool.not_eq_true', List.isEmpty_eq_false_iff,
    List.all_eq_true]
  rfl

/-- A text is what is taken for its sign, and the rest. -/
theorem exists_sign (cs : List Char) : ∃ sign, Sign sign ∧ cs = sign ++ dropSign cs := by
  unfold dropSign
  split
  · exact ⟨_, .plus, rfl⟩
  · exact ⟨_, .minus, rfl⟩
  · exact ⟨_, .none, rfl⟩

/-- A sign is dropped, unless what follows it looks like another one. -/
theorem dropSign_append (isSign : Sign sign) (unsigned : ∀ c ∈ rest.head?, c ≠ '+' ∧ c ≠ '-') :
    dropSign (sign ++ rest) = rest := by
  cases isSign with
  | plus => rfl
  | minus => rfl
  | none =>
    cases rest with
    | nil => rfl
    | cons c rest =>
      obtain ⟨notPlus, notMinus⟩ := unsigned c rfl
      rw [List.nil_append, dropSign]
      · exact fun _ same => notPlus (List.cons.inj same).1
      · exact fun _ same => notMinus (List.cons.inj same).1

/-- A sign is no digit. -/
theorem unsigned_of_isDecimalDigit {c : Char} (isDigit : Text.isDecimalDigit c = true) :
    c ≠ '+' ∧ c ≠ '-' := by
  constructor
  all_goals
    rintro rfl
    cases isDigit

/-- Digits cannot be taken for a sign. -/
theorem Digits.unsigned (some : digits ≠ []) (areDigits : Digits Text.isDecimalDigit digits) :
    ∀ c ∈ (digits ++ rest).head?, c ≠ '+' ∧ c ≠ '-' := by
  obtain ⟨first, others, rfl⟩ := List.exists_cons_of_ne_nil some
  rintro _ ⟨⟩
  exact unsigned_of_isDecimalDigit (areDigits _ List.mem_cons_self)

/-- Digits end where something else begins. -/
theorem Digits.span (areDigits : Digits digit digits) (ends : ∀ c ∈ rest.head?, digit c = false) :
    (digits ++ rest).takeWhile digit = digits ∧ (digits ++ rest).dropWhile digit = rest := by
  rw [List.takeWhile_append_of_pos areDigits, List.dropWhile_append_of_pos areDigits]
  cases rest with
  | nil => simp
  | cons c rest => simp [ends c rfl]

theorem digits_takeWhile : Digits digit (cs.takeWhile digit) :=
  fun _ mem => List.mem_takeWhile_imp mem

/-! ### Suffixes -/

/-- The reader keeps the units as characters, with the `i` of the binary ones apart, and each of
them is a name of the list. -/
theorem exists_unit {c : Char} (mem : c ∈ units) : ∃ name ∈ unitNames, name.toList = [c] := by
  have all : (units.all fun c => unitNames.any fun name => name.toList = [c]) = true := by decide
  obtain ⟨name, isUnit, spelled⟩ := List.any_eq_true.mp (List.all_eq_true.mp all c mem)
  exact ⟨name, isUnit, of_decide_eq_true spelled⟩

theorem exists_binaryUnit {c : Char} (mem : c ∈ binaryUnits) :
    ∃ name ∈ unitNames, name.toList = [c, 'i'] := by
  have all : (binaryUnits.all fun c =>
      unitNames.any fun name => name.toList = [c, 'i']) = true := by decide
  obtain ⟨name, isUnit, spelled⟩ := List.any_eq_true.mp (List.all_eq_true.mp all c mem)
  exact ⟨name, isUnit, of_decide_eq_true spelled⟩

/-- The reader of suffixes takes those of the grammar. -/
theorem isSuffix_iff : isSuffix cs = true ↔ Suffix Text.isDecimalDigit cs := by
  constructor
  · intro found
    unfold isSuffix at found
    split at found
    · exact .none
    · rename_i c
      obtain ⟨name, isUnit, spelled⟩ := exists_unit (List.contains_iff_mem.mp found)
      exact spelled ▸ .unit isUnit
    · rename_i c rest _
      rw [Bool.or_eq_true, Bool.and_eq_true, Bool.and_eq_true, Bool.or_eq_true,
        decide_eq_true_eq, decide_eq_true_eq, decide_eq_true_eq, isDigitRun_iff] at found
      rcases found with ⟨isBinary, rfl⟩ | ⟨isMark, some, areDigits⟩
      · obtain ⟨name, isUnit, spelled⟩ := exists_binaryUnit (List.contains_iff_mem.mp isBinary)
        exact spelled ▸ .unit isUnit
      · obtain ⟨sign, isSign, whole⟩ := exists_sign rest
        rw [whole]
        exact .exponent isMark isSign some areDigits
  · intro found
    cases found with
    | none => rfl
    | unit isUnit =>
      exact (by decide : ∀ name ∈ unitNames, isSuffix name.toList = true) _ isUnit
    | @exponent e sign exponent isMark isSign some areDigits =>
      have dropped : dropSign (sign ++ exponent) = exponent := by
        refine dropSign_append isSign ?_
        have unsigned : ∀ c ∈ (exponent ++ []).head?, c ≠ '+' ∧ c ≠ '-' := areDigits.unsigned some
        rwa [List.append_nil] at unsigned
      have isRun : isDigitRun (dropSign (sign ++ exponent)) = true := by
        rw [dropped]
        exact isDigitRun_iff.mpr ⟨some, areDigits⟩
      obtain ⟨c, others, shape⟩ :=
        List.exists_cons_of_ne_nil (List.append_ne_nil_of_right_ne_nil sign some)
      rw [shape] at isRun ⊢
      simp [isSuffix, isRun, isMark]

/-- No suffix begins with what could belong to the number. -/
theorem Suffix.apart (isSuffix : Suffix Text.isDecimalDigit cs) :
    ∀ c ∈ cs.head?, Text.isDecimalDigit c = false ∧ c ≠ '.' := by
  cases isSuffix with
  | none => nofun
  | @unit name isUnit =>
    have all : (unitNames.all fun name =>
        name.toList.head?.all fun c => !Text.isDecimalDigit c && c ≠ '.') = true := by decide
    intro c isFirst
    have apart := List.all_eq_true.mp all name isUnit
    rw [Option.mem_def.mp isFirst] at apart
    simpa using apart
  | exponent isMark =>
    rintro _ ⟨⟩
    rcases isMark with rfl | rfl
    · decide
    · decide

/-! ### Amounts -/

/-- Neither can a number, which may also begin with a point. -/
theorem Number.unsigned (isNumber : Number Text.isDecimalDigit cs) :
    ∀ c ∈ (cs ++ rest).head?, c ≠ '+' ∧ c ≠ '-' := by
  cases isNumber with
  | whole some areDigits => exact areDigits.unsigned some
  | pointed some areDigits =>
    rw [List.append_assoc]
    exact areDigits.unsigned some
  | fraction =>
    rintro _ ⟨⟩
    decide

/-- Where the number ends, the suffix begins: neither can be taken for the other. -/
theorem isAmount_iff_exists : isAmount cs = true ↔
    ∃ number suffix, Number Text.isDecimalDigit number ∧ Suffix Text.isDecimalDigit suffix ∧
      dropSign cs = number ++ suffix := by
  unfold isAmount
  dsimp only
  constructor
  · intro found
    generalize dropSign cs = text at found ⊢
    have whole := (List.takeWhile_append_dropWhile (p := Text.isDecimalDigit) (l := text)).symm
    split at found
    · rename_i afterPoint isRest
      rw [isRest] at whole
      rw [Bool.and_eq_true, isSuffix_iff] at found
      obtain ⟨some, isSuffix⟩ := found
      have parts := (List.takeWhile_append_dropWhile (p := Text.isDecimalDigit)
        (l := afterPoint)).symm
      by_cases isEmpty : text.takeWhile Text.isDecimalDigit = []
      · refine ⟨'.' :: afterPoint.takeWhile Text.isDecimalDigit, _,
          .fraction (fun none => ?_) digits_takeWhile, isSuffix, ?_⟩
        · rw [isEmpty, none] at some
          cases some
        · rw [List.cons_append, ← parts, whole, isEmpty, List.nil_append]
      · have further : Digits Text.isDecimalDigit (afterPoint.takeWhile Text.isDecimalDigit) :=
          digits_takeWhile
        refine ⟨_, _, .pointed isEmpty digits_takeWhile further, isSuffix, ?_⟩
        rw [List.append_assoc, List.cons_append, ← parts]
        exact whole
    · rw [Bool.and_eq_true, Bool.not_eq_true', List.isEmpty_eq_false_iff, isSuffix_iff] at found
      exact ⟨_, _, .whole found.1 digits_takeWhile, found.2, whole⟩
  · rintro ⟨number, suffix, isNumber, isSuffix, parts⟩
    have apart := isSuffix.apart
    have found := isSuffix_iff.mpr isSuffix
    rw [parts]
    cases isNumber with
    | whole some areDigits =>
      obtain ⟨taken, dropped⟩ := areDigits.span fun c mem => (apart c mem).1
      rw [taken, dropped]
      split
      · exact absurd rfl (apart '.' rfl).2
      · simp [some, found]
    | @pointed whole fraction some areDigits further =>
      have ends : ∀ c ∈ ('.' :: (fraction ++ suffix)).head?, Text.isDecimalDigit c = false := by
        rintro _ ⟨⟩
        decide
      obtain ⟨taken, dropped⟩ := areDigits.span ends
      obtain ⟨takenAfter, droppedAfter⟩ := further.span fun c mem => (apart c mem).1
      rw [List.append_assoc, List.cons_append, taken, dropped]
      simp [takenAfter, droppedAfter, some, found]
    | @fraction fraction some areDigits =>
      obtain ⟨takenAfter, droppedAfter⟩ := areDigits.span fun c mem => (apart c mem).1
      have isPoint : Text.isDecimalDigit '.' = false := by decide
      simp [isPoint, takenAfter, droppedAfter, some, found]

/-- So the reader of amounts takes those of the grammar. -/
theorem isAmount_iff : isAmount cs = true ↔ Amount Text.isDecimalDigit cs := by
  rw [isAmount_iff_exists]
  constructor
  · rintro ⟨number, suffix, isNumber, isSuffix, parts⟩
    obtain ⟨sign, isSign, whole⟩ := exists_sign cs
    rw [whole, parts]
    exact .intro isSign isNumber isSuffix
  · rintro ⟨isSign, isNumber, isSuffix⟩
    exact ⟨_, _, isNumber, isSuffix, dropSign_append isSign isNumber.unsigned⟩

/-! ### Scripts -/

theorem Digits.imp (areDigits : Digits digit cs)
    (same : ∀ c ∈ cs, digit c = true → other c = true) : Digits other cs :=
  fun c mem => same c mem (areDigits c mem)

/-- What a number consists of may be said of digits of any kind. -/
theorem Number.imp (isNumber : Number digit cs)
    (same : ∀ c ∈ cs, digit c = true → other c = true) : Number other cs := by
  cases isNumber with
  | whole some areDigits => exact .whole some (areDigits.imp same)
  | pointed some areDigits further =>
    refine .pointed some (areDigits.imp fun c mem => same c ?_) (further.imp fun c mem => same c ?_)
    · exact List.mem_append_left _ mem
    · exact List.mem_append_right _ (List.mem_cons_of_mem _ mem)
  | fraction some areDigits =>
    exact .fraction some (areDigits.imp fun c mem => same c (List.mem_cons_of_mem _ mem))

theorem Suffix.imp (isSuffix : Suffix digit cs)
    (same : ∀ c ∈ cs, digit c = true → other c = true) : Suffix other cs := by
  cases isSuffix with
  | none => exact .none
  | unit isUnit => exact .unit isUnit
  | exponent isMark isSign some areDigits =>
    refine .exponent isMark isSign some (areDigits.imp fun c mem => same c ?_)
    exact List.mem_cons_of_mem _ (List.mem_append_right _ mem)

/-- An amount stays one where its digits are also digits of another kind. -/
theorem Amount.imp (isAmount : Amount digit cs)
    (same : ∀ c ∈ cs, digit c = true → other c = true) : Amount other cs := by
  obtain ⟨isSign, isNumber, isSuffix⟩ := isAmount
  refine .intro isSign (isNumber.imp fun c mem => same c ?_) (isSuffix.imp fun c mem => same c ?_)
  · exact List.mem_append_right _ (List.mem_append_left _ mem)
  · exact List.mem_append_right _ (List.mem_append_right _ mem)

/-- The characters of an amount that are not digits. -/
def marks : List Char :=
  "+-.eEnumkKMGTPi".toList

/-- No mark is a digit of any script. -/
theorem isDecimalDigit_of_mem_marks {c : Char} (mem : c ∈ marks) :
    Text.isDecimalDigit c = false := by
  have all : (marks.all fun c => !Text.isDecimalDigit c) = true := by decide
  exact Bool.not_eq_true' _ ▸ List.all_eq_true.mp all c mem

theorem Sign.mem_marks (isSign : Sign sign) : ∀ c ∈ sign, c ∈ marks := by
  cases isSign with
  | none => nofun
  | plus => exact List.forall_mem_singleton.mpr (by decide)
  | minus => exact List.forall_mem_singleton.mpr (by decide)

theorem Number.digit_or_mark (isNumber : Number digit cs) :
    ∀ c ∈ cs, digit c = true ∨ c ∈ marks := by
  have point : '.' ∈ marks := by decide
  intro c mem
  cases isNumber with
  | whole _ areDigits => exact .inl (areDigits c mem)
  | pointed _ areDigits further =>
    rcases List.mem_append.mp mem with mem | mem
    · exact .inl (areDigits c mem)
    · rcases List.mem_cons.mp mem with rfl | mem
      · exact .inr point
      · exact .inl (further c mem)
  | fraction _ areDigits =>
    rcases List.mem_cons.mp mem with rfl | mem
    · exact .inr point
    · exact .inl (areDigits c mem)

theorem Suffix.digit_or_mark (isSuffix : Suffix digit cs) :
    ∀ c ∈ cs, digit c = true ∨ c ∈ marks := by
  intro c mem
  cases isSuffix with
  | none => cases mem
  | @unit name isUnit =>
    have all : (unitNames.all fun name => name.toList.all marks.contains) = true := by decide
    have isMark := List.all_eq_true.mp (List.all_eq_true.mp all name isUnit) c mem
    exact .inr (List.contains_iff_mem.mp isMark)
  | exponent isMark isSign _ areDigits =>
    rcases List.mem_cons.mp mem with rfl | mem
    · rcases isMark with rfl | rfl
      · exact .inr (by decide)
      · exact .inr (by decide)
    · rcases List.mem_append.mp mem with mem | mem
      · exact .inr (isSign.mem_marks c mem)
      · exact .inl (areDigits c mem)

/-- An amount consists of digits and marks. -/
theorem Amount.digit_or_mark (isAmount : Amount digit cs) :
    ∀ c ∈ cs, digit c = true ∨ c ∈ marks := by
  obtain ⟨isSign, isNumber, isSuffix⟩ := isAmount
  intro c mem
  rcases List.mem_append.mp mem with mem | mem
  · exact .inr (isSign.mem_marks c mem)
  · rcases List.mem_append.mp mem with mem | mem
    · exact isNumber.digit_or_mark c mem
    · exact isSuffix.digit_or_mark c mem

/-- The amounts of ASCII digits are those in which there are no digits of another script. -/
theorem amount_isDigit_iff : Amount Char.isDigit cs ↔
    Amount Text.isDecimalDigit cs ∧
      ∀ c ∈ cs, Text.isDecimalDigit c = true → c.isDigit = true := by
  constructor
  · intro isAmount
    refine ⟨isAmount.imp fun _ _ => Text.isDecimalDigit_of_isDigit, fun c mem isDecimal => ?_⟩
    refine (isAmount.digit_or_mark c mem).resolve_right fun isMark => ?_
    rw [isDecimalDigit_of_mem_marks isMark] at isDecimal
    cases isDecimal
  · rintro ⟨isAmount, ascii⟩
    exact isAmount.imp ascii

/-- **A text is read as an amount exactly when it is one between the blanks at its edges**, with
digits of any script, and the amount that is read is what stands between the blanks. The amounts
with ASCII digits, which a cluster knows, are those of them without digits of another script. -/
theorem ofText?_spec (text : String) :
    (∀ amount, ofText? text = some amount ↔
      amount = Text.trim text ∧ Amount Text.isDecimalDigit (Text.trim text).toList) ∧
    (Amount Char.isDigit (Text.trim text).toList ↔
      (ofText? text).isSome = true ∧
        ∀ c ∈ (Text.trim text).toList, Text.isDecimalDigit c = true → c.isDigit = true) := by
  have read : ofText? text =
      if isAmount (Text.trim text).toList then some (Text.trim text) else none := by
    rw [Text.trim, String.toList_ofList]
    rfl
  constructor
  · intro amount
    rw [read, ← isAmount_iff, Option.ite_none_right_eq_some, and_comm, Option.some_inj, eq_comm]
  · rw [amount_isDigit_iff, read, ← isAmount_iff, Option.isSome_ite]

/-- An amount of mebibytes in Eastern Arabic digits is read, although no cluster knows it. -/
theorem not_ascii_of_read :
    ¬ ∀ text, (ofText? text).isSome = true ↔ Amount Char.isDigit (Text.trim text).toList := by
  intro ascii
  have isAmount := (ascii "٥١٢Mi").mp (by decide)
  have isDigit := (amount_isDigit_iff.mp isAmount).2 '٥' (by decide) (by decide)
  cases isDigit

end DevfilePush.Quantity
