/-! # Comparison without regard to case

Two texts are equal up to case if they are equal once their ASCII letters are in lower case. -/

namespace EntityModel.Text

/-- Whether two texts differ at most in the case of ASCII letters. -/
def equalIgnoringCase (a b : String) : Bool :=
  a.toList.map Char.toLower == b.toList.map Char.toLower

/-- A text is equal to itself. -/
@[simp] theorem equalIgnoringCase_self (a : String) : equalIgnoringCase a a = true := by
  simp [equalIgnoringCase]

end EntityModel.Text
