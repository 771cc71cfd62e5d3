/-! # Double-precision numbers

The finite binary floating-point numbers of 64 bits, held as exact values
`significand * 2 ^ exponent`, and rounding of an exact quotient to the nearest of them. A tie goes
to the even significand. All arithmetic is exact on natural numbers until the one rounding at the
end of each operation. -/

namespace EntityModel.Number

/-- A finite double without its sign, of the value `significand * 2 ^ exponent`. -/
structure Magnitude where
  /-- At most 53 bits. -/
  significand : Nat
  /-- Between -1074 and 971. -/
  exponent : Int
  deriving DecidableEq, Repr

namespace Magnitude

/-- The magnitude zero. -/
def zero : Magnitude := ⟨0, -1074⟩

/-- The numerator of the value as a quotient of natural numbers. -/
def num (m : Magnitude) : Nat := m.significand * Nat.pow 2 m.exponent.toNat

/-- The denominator of the value as a quotient of natural numbers. -/
def den (m : Magnitude) : Nat := Nat.pow 2 (-m.exponent).toNat

/-- No denominator is zero. -/
theorem den_pos (m : Magnitude) : 0 < m.den := Nat.two_pow_pos _

/-- The greatest `k` with `2 ^ k ≤ num / den`, both positive. -/
def floorLog2 (num den : Nat) : Int :=
  let k : Int := (num.log2 : Int) - (den.log2 : Int)
  if den * Nat.pow 2 k.toNat ≤ num * Nat.pow 2 (-k).toNat then k else k - 1

/-- The quotient rounded to the nearest natural number, a tie to the even one. -/
def roundDiv (num den : Nat) : Nat :=
  let q := num / den
  let r := num % den
  if den < 2 * r ∨ (den = 2 * r ∧ q % 2 = 1) then q + 1 else q

/-- The least significand of full length, `2 ^ 52`. -/
def fullSignificand : Nat := 4503599627370496

/-- The double nearest to the quotient, or nothing if that is beyond the greatest double. -/
def nearest? (num den : Nat) : Option Magnitude :=
  if num = 0 then some zero
  else
    let e := max (-1074) (floorLog2 num den - 52)
    let q := roundDiv (num * Nat.pow 2 (-e).toNat) (den * Nat.pow 2 e.toNat)
    let rounded : Magnitude := if q = 2 * fullSignificand then ⟨fullSignificand, e + 1⟩ else ⟨q, e⟩
    if 971 < rounded.exponent then none else some rounded

/-- The rounded product. -/
def mul? (a b : Magnitude) : Option Magnitude := nearest? (a.num * b.num) (a.den * b.den)

/-- The rounded quotient of two magnitudes, the second not zero. -/
def div? (a b : Magnitude) : Option Magnitude := nearest? (a.num * b.den) (a.den * b.num)

/-- The number that is nearest to zero is zero. -/
@[simp] theorem nearest?_zero (den : Nat) : nearest? 0 den = some zero := rfl

end Magnitude

/-- A finite double. -/
structure Binary64 where
  /-- Whether the sign is a minus; zero has a sign too. -/
  negative : Bool
  /-- The value without its sign. -/
  magnitude : Magnitude
  deriving DecidableEq, Repr

end EntityModel.Number
