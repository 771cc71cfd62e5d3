import EntityModel.Number.Shortest
import EntityModel.Text.Decimal

/-! # Numbers in JSON

A number without a fraction or an exponent that fits into 64 bits is an integer; every other number
is a double. Digits are collected into a significand as long as it fits into 64 bits, and the double
is that significand, rounded, and then scaled by the remaining power of ten, rounded again. A number
beyond the greatest double has no value. -/

namespace EntityModel.Json

open EntityModel.Number

/-- The value of a JSON number. -/
inductive Number where
  /-- An integer from `-2 ^ 63` up to `2 ^ 64 - 1`. -/
  | integer (n : Int)
  /-- Any other number. -/
  | double (d : Binary64)
  deriving DecidableEq, Repr

/-- The shortest text that is read back as the number. -/
def Number.text : Number → String
  | .integer n => toString n
  | .double d => d.text

/-- The parts of a number as it is written. -/
structure NumberText where
  /-- Whether a minus stands in front. -/
  negative : Bool
  /-- The digits before the point. -/
  whole : List Char
  /-- The digits after the point, if there is a point. -/
  fraction : Option (List Char)
  /-- The exponent, if there is one. -/
  exponent : Option Int

namespace NumberText

/-- The number of 64-bit significands, `2 ^ 64`. -/
def significandBound : Nat := 18446744073709551616

/-- The least integer, `-2 ^ 63`. -/
def leastInteger : Int := -9223372036854775808

/-- Appends digits to a significand while it fits into 64 bits. Gives the significand and how many
digits are left over. -/
def collect (significand : Nat) : List Char → Nat × Nat
  | [] => (significand, 0)
  | c :: rest =>
    let next := significand * 10 + (c.toNat - '0'.toNat)
    if next < significandBound then collect next rest else (significand, rest.length + 1)

/-- `10 ^ k` as a double, for a `k` up to 308. -/
def powerOfTen (k : Nat) : Magnitude := (Magnitude.nearest? (Nat.pow 10 k) 1).getD Magnitude.zero

/-- The magnitude divided by `10 ^ k`, in steps of at most `10 ^ 308`. -/
def scaleDown (m : Magnitude) (k : Nat) : Magnitude :=
  if k ≤ 308 then (m.div? (powerOfTen k)).getD m
  else if m.significand = 0 then m
  else scaleDown ((m.div? (powerOfTen 308)).getD m) (k - 308)
termination_by k

/-- The magnitude `significand * 10 ^ exponent`, unless it is beyond the greatest double. -/
def magnitude? (significand : Nat) (exponent : Int) : Option Magnitude := do
  let m ← Magnitude.nearest? significand 1
  if exponent < 0 then some (scaleDown m (-exponent).toNat)
  else if exponent ≤ 308 then m.mul? (powerOfTen exponent.toNat)
  else if m.significand = 0 then some m
  else none

/-- The value of a number, unless it is beyond the greatest double. -/
def value? (t : NumberText) : Option Number :=
  let (significand, excess) := collect 0 t.whole
  let signed : Int := if t.negative then -significand else significand
  if t.fraction.isNone ∧ t.exponent.isNone ∧ excess = 0 ∧ leastInteger ≤ signed ∧
      ¬(t.negative ∧ significand = 0) then
    some (.integer signed)
  else
    let fraction := t.fraction.getD []
    let (significand, ignored) := collect significand fraction
    let exponent : Int := excess - (fraction.length - ignored) + t.exponent.getD 0
    (magnitude? significand exponent).map fun m => .double ⟨t.negative, m⟩

end NumberText

end EntityModel.Json
