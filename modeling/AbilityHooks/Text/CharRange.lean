/-!
# Ranges of characters

A character class of a standard is a list of ranges of code points. Membership is all that
the classes of this library need.
-/

namespace AbilityHooks.Text

/-- A run of code points, both ends included. -/
abbrev CharRange := Nat × Nat

/-- Whether one of the ranges holds the character. -/
def inRanges (ranges : List CharRange) (c : Char) : Bool :=
  ranges.any fun range => range.1 ≤ c.toNat && c.toNat ≤ range.2

/-- A character is in a list of ranges exactly when one of them spans its code point. -/
theorem inRanges_iff {ranges : List CharRange} {c : Char} :
    inRanges ranges c = true ↔ ∃ range ∈ ranges, range.1 ≤ c.toNat ∧ c.toNat ≤ range.2 := by
  simp [inRanges]

end AbilityHooks.Text
