import DevfilePush.Proofs.Naming.Allocator
import DevfilePush.Proofs.Text.Blank

/-!
Names that stay labels.

A name has the shape of a label if it is one but for its length. What is cut from it has this
shape too, since a cut drops the dashes that it ends with (`LabelShape.cut`), and so have two such
names with a dash between them (`LabelShape.join`). All names that are made from a name and a hash
are made in these two ways, so they are labels, however long the name is (`labels_kept`).
-/

namespace DevfilePush.Naming

variable {name suffix component volume : String} {hash : String → String} {keep : Nat}

/-- A name that is made like a label, of whatever length. -/
structure LabelShape (name : String) : Prop where
  nonempty : name.toList ≠ []
  plain : (name.toList.all fun c => c.isLower || c.isDigit || c = '-') = true
  first : name.toList.head? ≠ some '-'
  last : name.toList.getLast? ≠ some '-'

/-- A label is a name of this shape that is not too long. -/
theorem isLabel_iff : IsLabel name ↔ LabelShape name ∧ name.length ≤ maxLength := by
  have nonempty : 0 < name.length ↔ name.toList ≠ [] := by
    rw [← String.length_toList, List.length_pos_iff]
  constructor
  · rintro ⟨⟨positive, short⟩, plain, first, last⟩
    exact ⟨⟨nonempty.mp positive, plain, first, last⟩, short⟩
  · rintro ⟨⟨isNonempty, plain, first, last⟩, short⟩
    exact ⟨⟨nonempty.mpr isNonempty, short⟩, plain, first, last⟩

/-! ### Cutting and joining -/

/-- What is cut from a name begins like the name, so dropping dashes does not empty it. -/
theorem LabelShape.cut (shape : LabelShape name) (kept : 0 < keep) :
    LabelShape (String.ofList (dropDashes (name.toList.take keep))) := by
  obtain ⟨c, rest, isName⟩ := List.exists_cons_of_ne_nil shape.nonempty
  have notDash : c ≠ '-' := by
    rintro rfl
    exact shape.first (by rw [isName, List.head?_cons])
  have isCut : dropDashes (name.toList.take keep) = c :: dropDashes (rest.take (keep - 1)) := by
    rw [isName, List.take_cons kept, dropDashes, Text.dropTrailing_cons]
    exact if_neg fun dropped => notDash (of_decide_eq_true dropped.1)
  have begins := dropDashes_take_isPrefix name.toList keep
  constructor
  case nonempty =>
    rw [String.toList_ofList, isCut]
    exact List.cons_ne_nil _ _
  case plain =>
    rw [String.toList_ofList, List.all_eq_true]
    exact fun d mem => List.all_eq_true.mp shape.plain d (begins.subset mem)
  case first =>
    rw [String.toList_ofList, isCut, List.head?_cons]
    exact fun same => notDash (Option.some.inj same)
  case last =>
    rw [String.toList_ofList]
    intro isDash
    cases Text.getLast?_dropTrailing _ (name.toList.take keep) '-' isDash

/-- Between two such names a dash is neither the first character nor the last one. -/
theorem LabelShape.join (shape : LabelShape name) (ending : LabelShape suffix) :
    LabelShape (name ++ "-" ++ suffix) := by
  constructor
  case nonempty => simp
  case plain =>
    simp only [String.toList_append, List.all_append, shape.plain, ending.plain, Bool.and_true,
      Bool.true_and]
    decide
  case first =>
    rw [String.toList_append, String.toList_append, List.append_assoc,
      List.head?_append_of_ne_nil _ shape.nonempty]
    exact shape.first
  case last =>
    rw [String.toList_append, List.getLast?_append_of_ne_nil _ ending.nonempty]
    exact ending.last

/-- Cutting to the greatest length keeps the shape, and keeps names that are short enough. -/
theorem LabelShape.truncate (shape : LabelShape name) :
    LabelShape (truncate name maxLength) := by
  unfold Naming.truncate
  split
  · exact shape
  · exact shape.cut (by decide)

/-- A suffix takes the place of what is cut, if it leaves room for at least one character. -/
theorem LabelShape.withSuffix (shape : LabelShape name) (ending : LabelShape suffix)
    (room : suffix.length + 1 < maxLength) : LabelShape (withSuffix name suffix maxLength) := by
  have isJoined : Naming.withSuffix name suffix maxLength =
      String.ofList (dropDashes (name.toList.take (maxLength - (suffix.length + 1)))) ++ "-" ++
        suffix := by
    simp [← String.toList_inj, Naming.withSuffix]
  rw [isJoined]
  exact (shape.cut (Nat.sub_pos_of_lt room)).join ending

/-! ### Hashes -/

/-- Eight hexadecimal digits. -/
structure IsShortHash (text : String) : Prop where
  length : text.length = 8
  digits : text.toList.all Text.isHexDigit = true

/-- The hash in use is cut from the hexadecimal digits of a digest. -/
theorem isShortHash_shortHash (text : String) : IsShortHash (shortHash text) := by
  constructor
  case length => exact length_shortHash text
  case digits =>
    rw [shortHash, String.toList_ofList, List.all_eq_true]
    intro c mem
    obtain ⟨byte, -, isDigit⟩ := List.mem_flatMap.mp (List.mem_of_mem_take mem)
    exact Text.isHexDigit_of_mem_hexByte isDigit

theorem isLower_iff {c : Char} : c.isLower = true ↔ 'a' ≤ c ∧ c ≤ 'z' := by
  change (decide (c.val ≥ 'a'.val) && decide (c.val ≤ 'z'.val)) = true ↔ _
  rw [Bool.and_eq_true, decide_eq_true_iff, decide_eq_true_iff]
  rfl

/-- Hexadecimal digits are written in lower case, so they are plain, and none is a dash. -/
theorem plain_of_isHexDigit {c : Char} (isDigit : Text.isHexDigit c = true) :
    (c.isLower || c.isDigit) = true ∧ c ≠ '-' := by
  constructor
  · simp only [Text.isHexDigit, isLower_iff, Bool.or_eq_true, Bool.and_eq_true,
      decide_eq_true_eq] at isDigit ⊢
    rcases isDigit with isDigit | ⟨above, below⟩
    · exact .inr isDigit
    · exact .inl ⟨above, Nat.le_trans below (by decide)⟩
  · rintro rfl
    cases isDigit

theorem IsShortHash.dash_notMem (isHash : IsShortHash suffix) : '-' ∉ suffix.toList :=
  fun mem => (plain_of_isHexDigit (List.all_eq_true.mp isHash.digits _ mem)).2 rfl

/-- Without a dash a hash has the shape of a label by itself. -/
theorem IsShortHash.shape (isHash : IsShortHash suffix) : LabelShape suffix := by
  have digits := List.all_eq_true.mp isHash.digits
  have dashless := isHash.dash_notMem
  constructor
  case nonempty =>
    rw [← List.length_pos_iff, String.length_toList, isHash.length]
    decide
  case plain =>
    refine List.all_eq_true.mpr fun c mem => ?_
    rw [(plain_of_isHexDigit (digits c mem)).1]
    rfl
  case first => exact fun isDash => dashless (List.mem_of_mem_head? isDash)
  case last => exact fun isDash => dashless (List.mem_of_mem_getLast? isDash)

/-! ### Names made from a name -/

/-- A name with a hash at its end is a label. -/
theorem LabelShape.isLabel_withSuffix (shape : LabelShape name) (isHash : IsShortHash suffix) :
    IsLabel (Naming.withSuffix name suffix maxLength) := by
  have room : suffix.length + 1 < maxLength := by
    rw [isHash.length]
    decide
  exact isLabel_iff.mpr
    ⟨shape.withSuffix isHash.shape room, length_withSuffix_le (Nat.lt_of_succ_lt room)⟩

theorem LabelShape.isLabel_truncate (shape : LabelShape name) :
    IsLabel (Naming.truncate name maxLength) :=
  isLabel_iff.mpr ⟨shape.truncate, length_truncate_le⟩

/-- Every candidate is a label: the name itself, cut if need be, and the name with any of its
hashes. -/
theorem LabelShape.isLabel_candidate (shape : LabelShape name)
    (isHash : ∀ text, IsShortHash (hash text)) :
    ∀ index, IsLabel (Allocator.candidate hash name index)
  | 0 => shape.isLabel_truncate
  | 1 => shape.isLabel_withSuffix (isHash name)
  | _ + 2 => shape.isLabel_withSuffix (isHash _)

/-- What is handed out is the first free candidate, and so a label. -/
theorem LabelShape.isLabel_allocate {names : Allocator} (shape : LabelShape name)
    (isHash : ∀ text, IsShortHash (hash text))
    (ends : ∃ found, Allocator.search hash names name 0 = some found) :
    IsLabel (names.allocate hash name).1 := by
  obtain ⟨found, ends⟩ := ends
  obtain ⟨index, first, -⟩ := Allocator.search_eq_some_iff.mp ends
  have isCandidate : (names.allocate hash name).1 = Allocator.candidate hash name index :=
    Allocator.freshName_of_firstFree first
  rw [isCandidate]
  exact shape.isLabel_candidate isHash index

/-- The name of a claim is a label, whether it is hashed or not. -/
theorem LabelShape.isLabel_claimName (shape : LabelShape component) (other : LabelShape volume) :
    IsLabel (claimName component volume) := by
  unfold claimName
  dsimp only
  split
  · exact (shape.join other).isLabel_withSuffix (isShortHash_shortHash _)
  · rename_i fits
    exact isLabel_iff.mpr ⟨shape.join other, Nat.le_of_not_lt fits⟩

/-- A character that is plain in lower case is one of ASCII. -/
theorem ascii_of_toLower {c : Char}
    (plain : (c.toLower.isLower || c.toLower.isDigit || c.toLower = '-') = true) :
    c.toNat < 0x80 := by
  by_cases isCapital : c.val ≥ 'A'.val ∧ c.val ≤ 'Z'.val
  · exact Nat.lt_of_le_of_lt isCapital.2 (by decide)
  · have isSame : c.toLower = c := dif_neg isCapital
    simp only [isSame, Bool.or_eq_true, isLower_iff, Char.isDigit, Bool.and_eq_true,
      decide_eq_true_eq] at plain
    rcases plain with (⟨-, below⟩ | ⟨-, below⟩) | rfl
    · exact Nat.lt_of_le_of_lt below (by decide)
    · exact Nat.lt_of_le_of_lt below (by decide)
    · decide

/-- The shape is asked of the name in the lower case of ASCII. It leaves no room for other letters,
so lower case is the same for all letters here. -/
theorem isLabel_normalize (shape : LabelShape name.toLower) : IsLabel (normalize name) := by
  have ascii : ∀ c ∈ name.toList, c.toNat < 0x80 := fun c mem => by
    refine ascii_of_toLower (List.all_eq_true.mp shape.plain c.toLower ?_)
    have isMap : name.toLower.toList = name.toList.map Char.toLower := String.toList_map
    exact isMap ▸ List.mem_map_of_mem mem
  rw [normalize, Text.lowercase_eq_toLower ascii]
  exact shape.isLabel_truncate

/-- Made from names that are labels but for their length, and from hashes of eight hexadecimal
digits, these are all labels: what is left of a name when it is cut, and when a hash is put in its
place; what is handed out for it, whatever is in use, if the search ends; the name of a claim for
a volume; and the name for the objects of a component, which may be given in letters of either
case. The hash in use is such a one. -/
theorem labels_kept (isHash : ∀ text, IsShortHash (hash text)) :
    (∀ text, IsShortHash (shortHash text)) ∧
      (∀ name, LabelShape name →
        IsLabel (truncate name maxLength) ∧ IsLabel (hashed hash name maxLength) ∧
          ∀ names : Allocator, (∃ found, Allocator.search hash names name 0 = some found) →
            IsLabel (names.allocate hash name).1) ∧
      (∀ component volume, LabelShape component → LabelShape volume →
        IsLabel (claimName component volume)) ∧
      ∀ name, LabelShape name.toLower → IsLabel (normalize name) := by
  refine ⟨isShortHash_shortHash, fun name shape => ?_, fun component volume shape other =>
    shape.isLabel_claimName other, fun name => isLabel_normalize⟩
  exact ⟨shape.isLabel_truncate, shape.isLabel_withSuffix (isHash name),
    fun names ends => shape.isLabel_allocate isHash ends⟩

/-- A name with so many dashes that each cut ends within them. -/
def dashed : String :=
  String.ofList (List.replicate 50 'a' ++ List.replicate 20 '-' ++ ['b'])

/-- The name is cut within its dashes, and the search goes on to a hash. -/
theorem labels_kept_dashed :
    let hash : String → String := fun _ => "00c0ffee"
    let names : Allocator := ⟨[truncate dashed maxLength]⟩
    (∀ text, IsShortHash (hash text)) ∧ LabelShape dashed ∧
      (∃ found, Allocator.search hash names dashed 0 = some found) ∧
      IsLabel (truncate dashed maxLength) ∧ IsLabel (hashed hash dashed maxLength) ∧
      IsLabel (names.allocate hash dashed).1 ∧ IsLabel (claimName dashed dashed) ∧
      LabelShape "Web-API".toLower ∧ IsLabel (normalize "Web-API") := by
  intro hash names
  have isHash : ∀ text, IsShortHash (hash text) := fun _ => ⟨by decide, by decide⟩
  have shape : LabelShape dashed := by constructor <;> decide +kernel
  have lowered : LabelShape "Web-API".toLower := by constructor <;> decide +kernel
  have ends : ∃ found, Allocator.search hash names dashed 0 = some found :=
    Allocator.exists_search_iff.mpr ⟨1, by decide +kernel⟩
  obtain ⟨-, made, claims, normalized⟩ := labels_kept isHash
  obtain ⟨cut, isHashed, handedOut⟩ := made dashed shape
  exact ⟨isHash, shape, ends, cut, isHashed, handedOut names ends,
    claims dashed dashed shape shape, lowered, normalized "Web-API" lowered⟩

end DevfilePush.Naming
