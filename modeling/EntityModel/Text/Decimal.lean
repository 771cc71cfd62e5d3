/-! # Decimal digits -/

namespace EntityModel.Text

/-- The number that decimal digits write. -/
def decimalValue (digits : List Char) : Nat :=
  digits.foldl (fun n c => n * 10 + (c.toNat - '0'.toNat)) 0

/-- No digits are worth zero. -/
@[simp] theorem decimalValue_nil : decimalValue [] = 0 := rfl

end EntityModel.Text
