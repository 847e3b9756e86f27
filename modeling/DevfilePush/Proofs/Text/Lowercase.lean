import DevfilePush.Text.Lowercase
import Mathlib.Data.List.Chain

/-!
Lower case is settled.

The code points that the runs of the table give are none that a run maps (`apart_lowercaseRuns`),
so a character in lower case is its own lower case form (`lowerChar_of_mem_lowerChar`). A capital
sigma is the only character whose form depends on what is around it, and there is none left. So
lower case text stays as it is, and so does any part of it (`lowercase_of_subset`).
-/

namespace DevfilePush.Text

/-! ### Runs -/

namespace CaseRun

variable {run other : CaseRun} {table : List CaseRun} {n image : Nat}

/-- The code points that the run gives, as a run. -/
def images (run : CaseRun) : CaseRun :=
  ⟨(run.first + run.shift).toNat, (run.last + run.shift).toNat, run.step, 0⟩

/-- Of the two runs, one has even code points and the other has odd ones. -/
def Interleaved (run other : CaseRun) : Prop :=
  (run.step = 2 ∨ run.first = run.last) ∧ other.step = 2 ∧ (run.first + other.first) % 2 = 1

instance (run other : CaseRun) : Decidable (run.Interleaved other) :=
  inferInstanceAs (Decidable (_ ∧ _))

/-- The runs have no code point in common. -/
def Apart (run other : CaseRun) : Prop :=
  other.last < run.first ∨ run.last < other.first ∨ run.Interleaved other

/-- Whether the run is apart from those of a table in code point order: whatever follows a run
that begins after it does so too. -/
def apartFrom (run : CaseRun) : List CaseRun → Bool
  | [] => true
  | other :: rest =>
    bif other.last.blt run.first then apartFrom run rest
    else bif run.last.blt other.first then true
    else run.Interleaved other && apartFrom run rest

/-- It is enough to look at the runs up to the first that begins behind this one. -/
theorem apart_of_apartFrom (sorted : table.Pairwise fun run other => run.first ≤ other.first)
    (isApart : run.apartFrom table = true) : ∀ other ∈ table, run.Apart other := by
  induction table with
  | nil => exact nofun
  | cons first rest ih =>
    obtain ⟨isFirst, sorted⟩ := List.pairwise_cons.mp sorted
    intro other mem
    rw [apartFrom] at isApart
    cases before : first.last.blt run.first with
    | true =>
      rw [before] at isApart
      rcases List.mem_cons.mp mem with rfl | mem
      · exact .inl (Nat.blt_eq.mp before)
      · exact ih sorted isApart other mem
    | false =>
      cases after : run.last.blt first.first with
      | true =>
        have after := Nat.blt_eq.mp after
        rcases List.mem_cons.mp mem with rfl | mem
        · exact .inr (.inl after)
        · exact .inr (.inl (after.trans_le (isFirst other mem)))
      | false =>
        rw [before, after] at isApart
        obtain ⟨isInterleaved, isApart⟩ := (Bool.and_eq_true ..).mp isApart
        rcases List.mem_cons.mp mem with rfl | mem
        · exact .inr (.inr (of_decide_eq_true isInterleaved))
        · exact ih sorted isApart other mem

/-- The run gives characters: no code point below zero, above all others or of a surrogate. -/
structure Sound (run : CaseRun) : Prop where
  nonneg : 0 ≤ run.first + run.shift
  valid : run.images.last < 0xD800 ∨ 0xDFFF < run.images.first ∧ run.images.last < 0x110000

instance (run : CaseRun) : Decidable run.Sound :=
  decidable_of_iff (0 ≤ run.first + run.shift ∧
    (run.images.last < 0xD800 ∨ 0xDFFF < run.images.first ∧ run.images.last < 0x110000))
    ⟨fun ⟨nonneg, valid⟩ => ⟨nonneg, valid⟩, fun ⟨nonneg, valid⟩ => ⟨nonneg, valid⟩⟩

/-- A run maps every so many code points from its first to its last, and moves them all alike. -/
theorem image?_eq_some_iff : run.image? n = some image ↔
    run.first ≤ n ∧ n ≤ run.last ∧ (n - run.first) % run.step = 0 ∧
      (n + run.shift).toNat = image := by
  unfold image?
  split
  · rename_i isMapped
    simp [isMapped]
  · rename_i notMapped
    exact iff_of_false nofun fun ⟨above, below, onStep, _⟩ => notMapped ⟨above, below, onStep⟩

/-- What it gives lies between what it gives for its ends. -/
theorem image_mem_images (isImage : run.image? n = some image) :
    run.images.first ≤ image ∧ image ≤ run.images.last := by
  obtain ⟨above, below, -, rfl⟩ := image?_eq_some_iff.mp isImage
  unfold images
  dsimp only
  omega

/-- What a run gives is not mapped by a run that is apart from it. -/
theorem image?_eq_none_of_apart (sound : run.Sound) (isImage : run.image? n = some image)
    (isApart : run.images.Apart other) : other.image? image = none := by
  by_contra mapped
  obtain ⟨further, isFurther⟩ := Option.ne_none_iff_exists'.mp mapped
  obtain ⟨aboveOther, belowOther, onOtherStep, -⟩ := image?_eq_some_iff.mp isFurther
  obtain ⟨above, below⟩ := image_mem_images isImage
  obtain ⟨aboveRun, belowRun, onStep, isShifted⟩ := image?_eq_some_iff.mp isImage
  rcases isApart with before | after | isInterleaved
  · omega
  · omega
  · have nonneg := sound.nonneg
    simp only [Interleaved, images] at isInterleaved
    obtain ⟨isStep, isOtherStep, parity⟩ := isInterleaved
    rw [isOtherStep] at onOtherStep
    -- The image is as even or odd as the first one.
    rcases isStep with isStep | single
    · rw [isStep] at onStep
      omega
    · omega

end CaseRun

/-- The run of the capital `İ`, which has a form of its own. -/
def dottedRun : CaseRun := ⟨0x130, 0x130, 1, 0⟩

theorem sound_lowercaseRuns : ∀ run ∈ lowercaseRuns, run.Sound := by
  decide +kernel

theorem isChain_lowercaseRuns :
    lowercaseRuns.IsChain fun run other => run.first ≤ other.first := by
  decide +kernel

/-- This is the one check of the table as a whole: no run maps what another one gives. -/
theorem apart_lowercaseRuns :
    (lowercaseRuns.all fun run => run.images.apartFrom lowercaseRuns) = true := by
  decide +kernel

theorem apart_dottedRun :
    (lowercaseRuns.all fun run => run.images.apartFrom [dottedRun]) = true := by
  decide +kernel

variable {run : CaseRun} {n image : Nat} {before cs : List Char} {c d : Char}

/-- No run maps what a run of the table gives, and it is not a capital `İ` either. -/
theorem image?_image_eq_none (mem : run ∈ lowercaseRuns) (isImage : run.image? n = some image) :
    (∀ other ∈ lowercaseRuns, other.image? image = none) ∧ image ≠ 0x130 := by
  have sound := sound_lowercaseRuns run mem
  constructor
  · intro other isOther
    have sorted := List.isChain_iff_pairwise.mp isChain_lowercaseRuns
    have isApart := List.all_eq_true.mp apart_lowercaseRuns run mem
    exact CaseRun.image?_eq_none_of_apart sound isImage
      (CaseRun.apart_of_apartFrom sorted isApart other isOther)
  · rintro rfl
    have isApart := List.all_eq_true.mp apart_dottedRun run mem
    have unmapped : dottedRun.image? 0x130 = none :=
      CaseRun.image?_eq_none_of_apart sound isImage
        (CaseRun.apart_of_apartFrom (List.pairwise_singleton _ _) isApart _ List.mem_cons_self)
    cases unmapped

/-- It is the code point of a character. -/
theorem toNat_ofNat_image (mem : run ∈ lowercaseRuns) (isImage : run.image? n = some image) :
    (Char.ofNat image).toNat = image := by
  have valid := (sound_lowercaseRuns run mem).valid
  obtain ⟨above, below⟩ := CaseRun.image_mem_images isImage
  have isChar : image.isValidChar := by
    unfold Nat.isValidChar
    omega
  rw [Char.ofNat, dif_pos isChar]
  rfl

/-! ### Characters -/

/-- A character that no run maps is its own lower case form, but for `İ`. -/
theorem lowerChar_eq_self (unmapped : ∀ run ∈ lowercaseRuns, run.image? c.toNat = none)
    (notDotted : c.toNat ≠ 0x130) : lowerChar c = [c] := by
  have notCapital : ¬ ('A' ≤ c ∧ c ≤ 'Z') := by
    rintro ⟨above, below⟩
    have fromCapital : 0x41 ≤ c.toNat := above
    have toCapital : c.toNat ≤ 0x5A := below
    have isCapital : (⟨0x41, 0x5A, 1, 32⟩ : CaseRun).image? c.toNat = none :=
      unmapped _ List.mem_cons_self
    simp [CaseRun.image?, fromCapital, toCapital, Nat.mod_one] at isCapital
  have notCapitalI : c ≠ 'İ' := by
    rintro rfl
    exact notDotted rfl
  unfold lowerChar
  rw [if_neg notCapital, if_neg notCapitalI, List.findSome?_eq_none_iff.mpr unmapped]
  exact ite_self _

/-- A capital of ASCII stands 32 before its small letter. -/
theorem toNat_toLower (isCapital : 'A' ≤ c ∧ c ≤ 'Z') : c.toLower.toNat = c.toNat + 32 := by
  have isLast : c.toNat ≤ 0x5A := isCapital.2
  have inRange : c.toNat + 32 < 2 ^ 32 := by omega
  calc c.toLower.toNat
    _ = (c.val + 32).toNat := congrArg Char.toNat (dif_pos isCapital)
    _ = c.toNat + 32 := (UInt32.toNat_add ..).trans (Nat.mod_eq_of_lt inRange)

/-- On ASCII the table says the same as the lower case of the library. -/
theorem lowerChar_eq_toLower (isAscii : c.toNat < 0x80) : lowerChar c = [c.toLower] := by
  rw [lowerChar, if_pos isAscii]
  by_cases isCapital : 'A' ≤ c ∧ c ≤ 'Z'
  · rw [if_pos isCapital, ← toNat_toLower isCapital, Char.ofNat_toNat]
  · have isSame : c.toLower = c := dif_neg isCapital
    rw [if_neg isCapital, isSame]

/-- A small letter is no capital. -/
theorem lowerChar_toLower (isAscii : c.toNat < 0x80) : lowerChar c.toLower = [c.toLower] := by
  by_cases isCapital : 'A' ≤ c ∧ c ≤ 'Z'
  · have isFirst : 0x41 ≤ c.toNat := isCapital.1
    have isLast : c.toNat ≤ 0x5A := isCapital.2
    have shifted := toNat_toLower isCapital
    have notCapital : ¬ ('A' ≤ c.toLower ∧ c.toLower ≤ 'Z') := by
      rintro ⟨-, below⟩
      have below : c.toLower.toNat ≤ 0x5A := below
      omega
    rw [lowerChar, if_pos (by omega), if_neg notCapital]
  · have isSame : c.toLower = c := dif_neg isCapital
    rw [isSame, lowerChar_eq_toLower isAscii, isSame]

/-- The characters of what a capital `İ` and a capital sigma become. -/
def specialForms : List Char := ['i', '\u0307', 'σ', 'ς']

theorem unmapped_specialForms :
    (lowercaseRuns.all fun run =>
      specialForms.all fun c => (run.image? c.toNat).isNone) = true := by
  decide +kernel

/-- The special forms are in lower case themselves. -/
theorem lowerChar_specialForm (mem : c ∈ specialForms) : lowerChar c = [c] := by
  have notDotted : ∀ c ∈ specialForms, c.toNat ≠ 0x130 := by simp [specialForms]
  refine lowerChar_eq_self (fun run isRun => ?_) (notDotted c mem)
  have unmapped := List.all_eq_true.mp unmapped_specialForms run isRun
  exact Option.isNone_iff_eq_none.mp (List.all_eq_true.mp unmapped c mem)

/-- The lower case form of a character is in lower case. -/
theorem lowerChar_of_mem_lowerChar (mem : d ∈ lowerChar c) : lowerChar d = [d] := by
  by_cases isAscii : c.toNat < 0x80
  · rw [lowerChar_eq_toLower isAscii] at mem
    cases List.mem_singleton.mp mem
    exact lowerChar_toLower isAscii
  · by_cases isDotted : c = 'İ'
    · subst isDotted
      exact lowerChar_specialForm (List.mem_append_left ['σ', 'ς'] mem)
    · rw [lowerChar, if_neg isAscii, if_neg isDotted] at mem
      split at mem
      · rename_i image isImage
        cases List.mem_singleton.mp mem
        obtain ⟨run, isRun, isImage⟩ := List.exists_of_findSome?_eq_some isImage
        obtain ⟨unmapped, notDotted⟩ := image?_image_eq_none isRun isImage
        have isChar := toNat_ofNat_image isRun isImage
        exact lowerChar_eq_self (isChar.symm ▸ unmapped) (isChar.symm ▸ notDotted)
      · rename_i isNone
        cases List.mem_singleton.mp mem
        refine lowerChar_eq_self (List.findSome?_eq_none_iff.mp isNone) fun same => isDotted ?_
        rw [← Char.ofNat_toNat c, same]

/-! ### Texts -/

/-- So all characters of a text in lower case are. -/
theorem lowerChar_of_mem_lowerAfter (mem : d ∈ lowerAfter before cs) : lowerChar d = [d] := by
  induction cs generalizing before with
  | nil => cases mem
  | cons c rest ih =>
    rw [lowerAfter] at mem
    rcases List.mem_append.mp mem with isForm | mem
    · split at isForm
      · cases List.mem_singleton.mp isForm
        refine lowerChar_specialForm ?_
        split <;> decide
      · exact lowerChar_of_mem_lowerChar isForm
    · exact ih mem

/-- Characters in lower case stay as they are, whatever is around them. -/
theorem lowerAfter_eq_self (settled : ∀ c ∈ cs, lowerChar c = [c]) : lowerAfter before cs = cs := by
  induction cs generalizing before with
  | nil => rfl
  | cons c rest ih =>
    obtain ⟨isSettled, settled⟩ := List.forall_mem_cons.mp settled
    have notSigma : c ≠ 'Σ' := by
      rintro rfl
      exact absurd isSettled (by decide +kernel)
    rw [lowerAfter, if_neg notSigma, isSettled, ih settled]
    rfl

/-- A text of characters of a text in lower case is in lower case. -/
theorem lowercase_of_subset {part text : String}
    (isPart : part.toList ⊆ (lowercase text).toList) : lowercase part = part := by
  rw [lowercase, lowerAfter_eq_self, String.ofList_toList]
  intro c mem
  have isLowered := isPart mem
  rw [lowercase, String.toList_ofList] at isLowered
  exact lowerChar_of_mem_lowerAfter isLowered

/-! ### ASCII -/

/-- Without a sigma there is nothing to look around for. -/
theorem lowerAfter_eq_map (ascii : ∀ c ∈ cs, c.toNat < 0x80) :
    lowerAfter before cs = cs.map Char.toLower := by
  induction cs generalizing before with
  | nil => rfl
  | cons c rest ih =>
    obtain ⟨isAscii, ascii⟩ := List.forall_mem_cons.mp ascii
    have notSigma : c ≠ 'Σ' := by
      rintro rfl
      exact absurd isAscii (by decide)
    rw [lowerAfter, if_neg notSigma, lowerChar_eq_toLower isAscii, ih ascii]
    rfl

/-- Of a text in ASCII, only the letters `A` to `Z` are replaced. -/
theorem lowercase_eq_toLower {text : String} (ascii : ∀ c ∈ text.toList, c.toNat < 0x80) :
    lowercase text = text.toLower := by
  rw [lowercase, lowerAfter_eq_map ascii, ← String.toList_inj, String.toList_ofList]
  exact String.toList_map.symm

end DevfilePush.Text
