/-!
Sets of code points, written as closed ranges.

The classes of the Unicode character database that the library needs (decimal
digits, cased letters, characters that are not printed) are tables of such
ranges, one module a class.
-/

namespace DevfilePush.Text

/-- Whether the code point of `c` lies in one of the closed ranges. -/
def inRanges (ranges : List (Nat × Nat)) (c : Char) : Bool :=
  ranges.any fun range => range.1 ≤ c.toNat && c.toNat ≤ range.2

theorem inRanges_iff {ranges : List (Nat × Nat)} {c : Char} :
    inRanges ranges c = true ↔ ∃ range ∈ ranges, range.1 ≤ c.toNat ∧ c.toNat ≤ range.2 := by
  simp [inRanges]

end DevfilePush.Text
