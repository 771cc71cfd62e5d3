import EntityModel.Number.Shortest
import Mathlib.Data.List.TakeWhile

/-! # Digits of doubles

The shortest decimal of a positive double is not zero (`digits_shortest_ne_zero`), so its text has a
significant digit (`significantDigits_ne_nil`). -/

namespace EntityModel.Number

/-- A number is less than the power of ten with as many zeros as it has digits. -/
theorem lt_pow_length_toDigits (n : Nat) : n < Nat.pow 10 (Nat.toDigits 10 n).length :=
  (Nat.length_toDigits_le_iff (by decide) Nat.length_toDigits_pos).1 (Nat.le_refl _)

/-- A number has no more digits than it needs. -/
theorem pow_length_toDigits_le {n : Nat} (h : 0 < n) :
    Nat.pow 10 ((Nat.toDigits 10 n).length - 1) ≤ n := by
  rcases Nat.eq_zero_or_pos ((Nat.toDigits 10 n).length - 1) with hzero | hmore
  · rw [hzero]
    exact h
  · refine Nat.not_lt.1 fun hlt => ?_
    have hlength := (Nat.length_toDigits_le_iff (b := 10) (by decide) hmore).2 hlt
    omega

/-- A number that is written with zeros only is zero. -/
theorem exists_ne_zero_of_toDigits {n : Nat} (h : n ≠ 0) : ∃ c ∈ Nat.toDigits 10 n, c ≠ '0' := by
  have hvalue : ∀ cs : List Char, (∀ c ∈ cs, c = '0') → Nat.ofDigitChars 10 cs 0 = 0 := by
    intro cs hcs
    induction cs with
    | nil => rfl
    | cons c cs ih =>
      obtain rfl := hcs c List.mem_cons_self
      exact ih fun c hc => hcs c (List.mem_cons_of_mem _ hc)
  refine Classical.byContradiction fun hnone => h ?_
  rw [← Nat.ofDigitChars_ten_toDigits (n := n)]
  exact hvalue _ fun c hc => Classical.byContradiction fun hne => hnone ⟨c, hc, hne⟩

namespace RoundingInterval

/-- All numbers that round to the double are positive. -/
structure IsPositive (iv : RoundingInterval) : Prop where
  /-- The lower end is positive. -/
  low : 0 < iv.low
  /-- The double is positive. -/
  value : 0 < iv.value
  /-- The upper end is positive. -/
  high : 0 < iv.high
  /-- There is a denominator. -/
  den : 0 < iv.den

namespace IsPositive

variable {iv : RoundingInterval} (h : iv.IsPositive)

include h

/-- Zero does not round to a positive double. -/
theorem digits_ne_zero_of_contains {d : Decimal} (hd : iv.contains d = true) : d.digits ≠ 0 := by
  intro hzero
  have hscale : 0 < Nat.pow 10 (-d.exponent).toNat := Nat.pow_pos (by decide)
  have hlow := Nat.mul_pos h.low hscale
  have hhigh := Nat.mul_pos h.high hscale
  simp only [contains, hzero, Nat.zero_mul, Bool.or_eq_true, Bool.and_eq_true,
    decide_eq_true_eq] at hd
  omega

/-- A decimal of the grid in a positive interval is not zero. -/
theorem digits_ne_zero_of_onGrid? {exponent : Int} {d : Decimal}
    (hd : iv.onGrid? exponent = some d) : d.digits ≠ 0 := by
  refine h.digits_ne_zero_of_contains ?_
  unfold onGrid? at hd
  simp only at hd
  split at hd
  · rename_i hbelow habove
    obtain rfl := Option.some.inj hd
    split
    · exact hbelow
    · exact habove
  · rename_i hbelow _
    obtain rfl := Option.some.inj hd
    exact hbelow
  · rename_i habove
    obtain rfl := Option.some.inj hd
    exact habove
  · cases hd

/-- The double reaches to its first place. -/
theorem firstPlace_le :
    iv.den * Nat.pow 10 iv.firstPlace.toNat ≤ iv.value * Nat.pow 10 (-iv.firstPlace).toNat := by
  have hone : Nat.pow 10 0 = 1 := rfl
  unfold firstPlace
  split
  · rename_i hle
    have hpower := pow_length_toDigits_le (Nat.div_pos hle h.den)
    have hlength := Nat.length_toDigits_pos (b := 10) (n := iv.value / iv.den)
    generalize (Nat.toDigits 10 (iv.value / iv.den)).length = length at hpower hlength
    have hplace : ((length : Int) - 1).toNat = length - 1 := by omega
    have hminus : (-((length : Int) - 1)).toNat = 0 := by omega
    rw [hplace, hminus, hone, Nat.mul_one, Nat.mul_comm]
    exact (Nat.le_div_iff_mul_le h.den).1 hpower
  · have hpower := lt_pow_length_toDigits ((iv.den - 1) / iv.value)
    generalize (Nat.toDigits 10 ((iv.den - 1) / iv.value)).length = length at hpower
    have hplace : (-(length : Int)).toNat = 0 := by omega
    have hminus : (- -(length : Int)).toNat = length := by omega
    have hbound := (Nat.div_lt_iff_lt_mul h.value).1 hpower
    have hden := h.den
    rw [hplace, hminus, hone, Nat.mul_one, Nat.mul_comm]
    omega

/-- The shortest decimal in a positive interval is not zero. -/
theorem digits_shortest_ne_zero : iv.shortest.digits ≠ 0 := by
  unfold shortest
  simp only
  cases hfound : (List.range 17).findSome? fun n => iv.onGrid? (iv.firstPlace - (n : Nat)) with
  | some d =>
    obtain ⟨n, -, hn⟩ := List.exists_of_findSome?_eq_some hfound
    exact h.digits_ne_zero_of_onGrid? hn
  | none =>
    -- The decimal of seventeen digits that is cut off below the double.
    have hplaces : iv.den * Nat.pow 10 (iv.firstPlace - 16).toNat ≤
        iv.value * Nat.pow 10 (16 - iv.firstPlace).toNat :=
      calc iv.den * Nat.pow 10 (iv.firstPlace - 16).toNat
        _ ≤ iv.den * Nat.pow 10 iv.firstPlace.toNat :=
          Nat.mul_le_mul_left _ (Nat.pow_le_pow_right (by decide) (by omega))
        _ ≤ iv.value * Nat.pow 10 (-iv.firstPlace).toNat := h.firstPlace_le
        _ ≤ iv.value * Nat.pow 10 (16 - iv.firstPlace).toNat :=
          Nat.mul_le_mul_left _ (Nat.pow_le_pow_right (by decide) (by omega))
    exact (Nat.div_pos hplaces (Nat.mul_pos h.den (Nat.pow_pos (by decide)))).ne'

end IsPositive

end RoundingInterval

/-- The interval around a number that is not zero is positive. -/
theorem Magnitude.isPositive_interval {m : Magnitude} (h : m.significand ≠ 0) :
    m.interval.IsPositive := by
  have hquarter : 0 < Nat.pow 2 m.exponent.toNat := Nat.pow_pos (by decide)
  refine ⟨Nat.mul_pos ?_ hquarter, Nat.mul_pos (by omega) hquarter, Nat.mul_pos (by omega) hquarter,
    Nat.mul_pos (by decide) m.den_pos⟩
  split <;> omega

namespace Decimal

/-- Significant digits are digits. -/
theorem isDigit_of_mem_significantDigits {d : Decimal} {c : Char}
    (h : c ∈ d.significantDigits) : c.isDigit = true := by
  have hmem : c ∈ (Nat.toDigits 10 d.digits).reverse :=
    (List.dropWhile_sublist _).subset (List.mem_reverse.1 h)
  exact Nat.isDigit_of_mem_toDigits (by decide) le_rfl (List.mem_reverse.1 hmem)

/-- A decimal that is not zero has a significant digit. -/
theorem significantDigits_ne_nil {d : Decimal} (h : d.digits ≠ 0) : d.significantDigits ≠ [] := by
  obtain ⟨c, hc, hne⟩ := exists_ne_zero_of_toDigits h
  rw [significantDigits, ne_eq, List.reverse_eq_nil_iff, List.dropWhile_eq_nil_iff]
  intro hzeros
  have hzero := hzeros c (List.mem_reverse.2 hc)
  exact hne (of_decide_eq_true hzero)

end Decimal

end EntityModel.Number
