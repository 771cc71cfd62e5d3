/-! # Control characters -/

namespace EntityModel.Text

/-- Whether the character is in the Unicode category of control characters. -/
def isControl (c : Char) : Bool := c.toNat < 0x20 || (0x7f ≤ c.toNat && c.toNat ≤ 0x9f)

/-- Control characters have small codes. -/
theorem toNat_le_of_isControl {c : Char} (h : isControl c = true) : c.toNat ≤ 0x9f := by
  simp only [isControl, Bool.or_eq_true, Bool.and_eq_true, decide_eq_true_eq] at h
  omega

end EntityModel.Text
