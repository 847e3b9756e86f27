import DevfilePush.Naming.Label
import DevfilePush.Proofs.Text.Decimal
import DevfilePush.Proofs.Text.Lowercase
import Mathlib.Data.List.TakeWhile

/-!
What fits a label.

Cutting a name keeps it within the limit, and so does putting a suffix to it that leaves room
for something to stand before it. The names of claims and of cluster objects are within the
limit of a label, whatever they are made of.
-/

namespace DevfilePush.Naming

variable {name suffix : String} {limit : Nat}

/-- A cut keeps the beginning of a name. -/
theorem dropDashes_take_isPrefix (cs : List Char) (keep : Nat) : dropDashes (cs.take keep) <+: cs :=
  (Text.dropTrailing_isPrefix _ _).trans (List.take_prefix keep cs)

theorem length_dropDashes_take_le (cs : List Char) (keep : Nat) :
    (dropDashes (cs.take keep)).length ≤ keep :=
  (Text.dropTrailing_isPrefix _ _).length_le.trans (List.length_take_le keep cs)

/-- A name is cut to the limit or is within it anyway. -/
theorem length_truncate_le : (truncate name limit).length ≤ limit := by
  unfold truncate
  split
  · assumption
  · rw [String.length_ofList]
    exact length_dropDashes_take_le name.toList limit

/-- What is cut makes room for the suffix and for the dash before it. -/
theorem length_withSuffix_le (room : suffix.length < limit) :
    (withSuffix name suffix limit).length ≤ limit := by
  have shorter := length_dropDashes_take_le name.toList (limit - (suffix.length + 1))
  simp only [withSuffix, String.length_ofList, List.length_append, List.length_cons,
    String.length_toList]
  omega

/-- A digest of 32 bytes has two digits for each. -/
theorem length_hexDigest (bytes : List UInt8) : (Digest.Blake3.hexDigest bytes).length = 64 := by
  simp [Digest.Blake3.hexDigest, Digest.Blake3.bytesOf, List.length_flatMap, Text.length_hexByte]

/-- A hash is cut to eight digits, of which a digest has more than enough. -/
theorem length_shortHash (text : String) : (shortHash text).length = 8 := by
  rw [shortHash, String.length_ofList, List.length_take, length_hexDigest]
  rfl

/-- The name of a claim is hashed if it would be too long. -/
theorem length_claimName_le (component volume : String) :
    (claimName component volume).length ≤ maxLength := by
  unfold claimName
  dsimp only
  split
  · exact length_withSuffix_le ((length_shortHash _).trans_lt (by decide))
  · rename_i fits
    exact Nat.le_of_not_lt fits

theorem length_normalize_le (name : String) : (normalize name).length ≤ maxLength :=
  length_truncate_le

/-! ### Names that stay as they are -/

/-- A name that is cut is the beginning of what it was. -/
theorem toList_truncate_isPrefix : (truncate name limit).toList <+: name.toList := by
  unfold truncate
  split
  · exact List.prefix_rfl
  · rw [String.toList_ofList]
    exact dropDashes_take_isPrefix name.toList limit

/-- A name made for cluster objects is in lower case and short enough, so it is used as it is. -/
theorem normalize_normalize (name : String) : normalize (normalize name) = normalize name := by
  have isLowered : Text.lowercase (normalize name) = normalize name :=
    Text.lowercase_of_subset toList_truncate_isPrefix.subset
  rw [normalize, isLowered]
  exact if_pos (length_normalize_le name)

/-! ### Labels -/

/-- A name that can be a label of a domain name: letters in lower case, digits, and dashes
between them. -/
structure IsLabel (name : String) : Prop where
  short : 0 < name.length ∧ name.length ≤ maxLength
  plain : (name.toList.all fun c => c.isLower || c.isDigit || c = '-') = true
  first : name.toList.head? ≠ some '-'
  last : name.toList.getLast? ≠ some '-'

/-! ### Telling suffixes apart -/

/-- A suffix without a dash is what follows the last dash. -/
theorem takeWhile_reverse_withSuffix (dashless : '-' ∉ suffix.toList) :
    (withSuffix name suffix limit).toList.reverse.takeWhile (· ≠ '-') = suffix.toList.reverse := by
  have passes : ∀ c ∈ suffix.toList.reverse, decide (c ≠ '-') = true := by
    intro c mem
    rw [List.mem_reverse] at mem
    exact decide_eq_true fun same => dashless (same ▸ mem)
  simp only [withSuffix, String.toList_ofList, List.reverse_append, List.reverse_cons,
    List.append_assoc]
  rw [List.takeWhile_append_of_pos passes]
  simp

/-- So names with different suffixes without dashes differ, however much of them is cut. -/
theorem withSuffix_inj {full other : String} (dashless : '-' ∉ suffix.toList)
    (otherDashless : '-' ∉ other.toList)
    (same : withSuffix name suffix limit = withSuffix full other limit) : suffix = other := by
  have reversed : suffix.toList.reverse = other.toList.reverse := by
    rw [← takeWhile_reverse_withSuffix dashless, same, takeWhile_reverse_withSuffix otherDashless]
  exact String.toList_inj.mp (List.reverse_inj.mp reversed)

end DevfilePush.Naming
