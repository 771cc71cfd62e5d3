/-! # Character classes

A class of characters is a list of ranges of code points in ascending order. Membership walks the
ranges from the left and stops at the first one that starts beyond the character, so characters
with small code points are classified after a few comparisons. -/

namespace EntityModel.Text

/-- A set of characters, as ascending disjoint ranges of code points with both ends included. -/
structure CharClass where
  /-- The ranges, each as its first and its last code point. -/
  ranges : List (Nat × Nat)

namespace CharClass

/-- Whether one of the ascending ranges holds the code point. -/
def covers : List (Nat × Nat) → Nat → Bool
  | [], _ => false
  | (first, last) :: rest, n => if n < first then false else n ≤ last || covers rest n

/-- Whether the class holds the character. -/
def contains (cls : CharClass) (c : Char) : Bool := covers cls.ranges c.toNat

/-- No ranges cover nothing. -/
@[simp] theorem covers_nil (n : Nat) : covers [] n = false := rfl

/-- A covered code point lies in one of the ranges. -/
theorem exists_range_of_covers {ranges : List (Nat × Nat)} {n : Nat} (h : covers ranges n = true) :
    ∃ r ∈ ranges, r.1 ≤ n ∧ n ≤ r.2 := by
  induction ranges with
  | nil => simp at h
  | cons r rest ih =>
    obtain ⟨first, last⟩ := r
    by_cases hlt : n < first
    · simp [covers, hlt] at h
    · by_cases hle : n ≤ last
      · exact ⟨(first, last), by simp, Nat.le_of_not_lt hlt, hle⟩
      · obtain ⟨r, hr, hn⟩ := ih (by simpa [covers, hlt, hle] using h)
        exact ⟨r, by simp [hr], hn⟩

end CharClass

end EntityModel.Text
