/-!
# Ranges of code points

A class of characters is a list of ranges of code points, both ends included.
-/

namespace TaggedMarkup

def covers (ranges : List (Nat × Nat)) (c : Char) : Bool :=
  ranges.any fun range => range.1 ≤ c.toNat && c.toNat ≤ range.2

theorem covers_iff (ranges : List (Nat × Nat)) (c : Char) :
    covers ranges c = true ↔ ∃ range ∈ ranges, range.1 ≤ c.toNat ∧ c.toNat ≤ range.2 := by
  simp [covers]

end TaggedMarkup
