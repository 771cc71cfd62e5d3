import EntityModel.Number.Binary64

/-! # Shortest decimals of doubles

The text of a double is the decimal with the fewest digits that lies in its rounding interval, and
of those the one nearest to the double. The search goes through the decimal grids from coarse to
fine and looks at the two neighbours of the value on each; seventeen digits always suffice. -/

namespace EntityModel.Number

/-- The decimal `digits * 10 ^ exponent`. -/
structure Decimal where
  /-- The digits, as one number. -/
  digits : Nat
  /-- The power of ten of the last digit. -/
  exponent : Int
  deriving DecidableEq, Repr

/-- The numbers that round to one double, as numerators over one denominator. -/
structure RoundingInterval where
  /-- The lower end. -/
  low : Nat
  /-- The double itself. -/
  value : Nat
  /-- The upper end. -/
  high : Nat
  /-- The common denominator. -/
  den : Nat
  /-- Whether the ends round to the double too. -/
  closed : Bool

/-- The numbers that round to a positive double. Below a power of two the next double is only half
as far away as above it. -/
def Magnitude.interval (m : Magnitude) : RoundingInterval :=
  let narrow := m.significand = fullSignificand ∧ -1074 < m.exponent
  -- The ends lie halfway to the neighbours, so that quarters of the last place make them whole.
  let quarter := Nat.pow 2 m.exponent.toNat
  { low := (4 * m.significand - if narrow then 1 else 2) * quarter
    value := 4 * m.significand * quarter
    high := (4 * m.significand + 2) * quarter
    den := 4 * m.den
    closed := m.significand % 2 = 0 }

namespace RoundingInterval

/-- Whether the decimal rounds to the double. -/
def contains (iv : RoundingInterval) (d : Decimal) : Bool :=
  let n := d.digits * Nat.pow 10 d.exponent.toNat * iv.den
  let scale := Nat.pow 10 (-d.exponent).toNat
  (iv.low * scale < n && n < iv.high * scale) ||
    (iv.closed && (iv.low * scale = n || n = iv.high * scale))

/-- The decimal on the grid of the exponent that rounds to the double, if there is one: of two the
nearer, and of two equally near the even one. -/
def onGrid? (iv : RoundingInterval) (exponent : Int) : Option Decimal :=
  let n := iv.value * Nat.pow 10 (-exponent).toNat
  let unit := iv.den * Nat.pow 10 exponent.toNat
  -- If a point of the grid is in the interval, so is one of the value's two neighbours.
  let below : Decimal := ⟨n / unit, exponent⟩
  let above : Decimal := ⟨n / unit + 1, exponent⟩
  let nearer :=
    if 2 * (n % unit) < unit ∨ (2 * (n % unit) = unit ∧ below.digits % 2 = 0) then below else above
  match iv.contains below, iv.contains above with
  | true, true => some nearer
  | true, false => some below
  | false, true => some above
  | false, false => none

/-- The power of ten of the first digit of the double. -/
def firstPlace (iv : RoundingInterval) : Int :=
  if iv.den ≤ iv.value then ((Nat.toDigits 10 (iv.value / iv.den)).length : Int) - 1
  else -((Nat.toDigits 10 ((iv.den - 1) / iv.value)).length : Int)

/-- The shortest decimal that rounds to the double. -/
def shortest (iv : RoundingInterval) : Decimal :=
  -- The coarsest grid has one digit, the finest seventeen.
  let first := iv.firstPlace
  ((List.range 17).findSome? fun n => iv.onGrid? (first - (n : Nat))).getD
    ⟨iv.value * Nat.pow 10 (16 - first).toNat / (iv.den * Nat.pow 10 (first - 16).toNat),
      first - 16⟩

end RoundingInterval

/-- The digits of a decimal without the zeros at their end. -/
def Decimal.significantDigits (d : Decimal) : List Char :=
  ((Nat.toDigits 10 d.digits).reverse.dropWhile (· = '0')).reverse

/-- The power of ten of the first digit of a decimal. -/
def Decimal.firstPlace (d : Decimal) : Int :=
  ((Nat.toDigits 10 d.digits).length : Int) - 1 + d.exponent

/-- The text of significant digits from the place of the first one on. Places from -5 to 15 are
written with a point and at least one digit after it, all others with a signed exponent. -/
def placeDigits (digits : List Char) (first : Int) : List Char :=
  if 0 ≤ first ∧ first ≤ 15 then
    let whole := first.toNat + 1
    let fraction := digits.drop whole
    digits.take whole ++ List.replicate (whole - digits.length) '0' ++
      '.' :: (if fraction.isEmpty then ['0'] else fraction)
  else if -5 ≤ first ∧ first < 0 then
    ['0', '.'] ++ List.replicate ((-first).toNat - 1) '0' ++ digits
  else
    let mantissa :=
      match digits with
      | [] => []
      | [d] => [d]
      | d :: rest => d :: '.' :: rest
    mantissa ++ ['e', if first < 0 then '-' else '+'] ++ Nat.toDigits 10 first.natAbs

/-- The text of a double. -/
def Binary64.text (d : Binary64) : String :=
  let magnitude :=
    if d.magnitude.significand = 0 then ['0', '.', '0']
    else
      let decimal := d.magnitude.interval.shortest
      placeDigits decimal.significantDigits decimal.firstPlace
  String.ofList (if d.negative then '-' :: magnitude else magnitude)

end EntityModel.Number
