/-! # Hexadecimal digits

Numbers as hexadecimal digits, of fixed width or as few as needed, and digits read back. -/

namespace EntityModel.Text

/-- The `width` lowest hexadecimal digits of `n`, in lower case, the most significant first. -/
def fixedHex : Nat → Nat → List Char
  | 0, _ => []
  | width + 1, n => fixedHex width (n / 16) ++ [Nat.digitChar (n % 16)]

/-- Digits of a fixed width have this width. -/
@[simp] theorem length_fixedHex (width n : Nat) : (fixedHex width n).length = width := by
  induction width generalizing n with
  | zero => rfl
  | succ width ih => simp [fixedHex, ih]

/-- All that is written are hexadecimal digits. -/
theorem exists_digitChar_of_mem_fixedHex {width n : Nat} {c : Char} (h : c ∈ fixedHex width n) :
    ∃ d < 16, c = Nat.digitChar d := by
  induction width generalizing n with
  | zero => cases h
  | succ width ih =>
    rcases List.mem_append.1 h with h | h
    · exact ih h
    · exact ⟨n % 16, Nat.mod_lt _ (by decide), List.mem_singleton.1 h⟩

/-- As few hexadecimal digits of `n` as it takes, in lower case. -/
def shortHex (n : Nat) : List Char := Nat.toDigits 16 n

/-- The value of a hexadecimal digit of either case. -/
def hexValue? (c : Char) : Option Nat :=
  if '0' ≤ c ∧ c ≤ '9' then some (c.toNat - '0'.toNat)
  else if 'a' ≤ c ∧ c ≤ 'f' then some (c.toNat - 'a'.toNat + 10)
  else if 'A' ≤ c ∧ c ≤ 'F' then some (c.toNat - 'A'.toNat + 10)
  else none

/-- The number that hexadecimal digits write, if they all are digits. -/
def readHex? (cs : List Char) : Option Nat :=
  cs.foldlM (fun n c => (hexValue? c).map (n * 16 + ·)) 0

/-- No digits are read as zero. -/
@[simp] theorem readHex?_nil : readHex? [] = some 0 := rfl

/-- The upper-case ASCII letters in place of the lower-case ones. -/
def upperHex (cs : List Char) : List Char := cs.map Char.toUpper

/-- Digits of fixed width are read back, in whatever form each of them is written. -/
theorem readHex?_map_fixedHex {form : Char → Char}
    (hform : ∀ d < 16, hexValue? (form (Nat.digitChar d)) = some d) {width n : Nat}
    (h : n < Nat.pow 16 width) : readHex? ((fixedHex width n).map form) = some n := by
  induction width generalizing n with
  | zero =>
    obtain rfl := Nat.lt_one_iff.1 h
    rfl
  | succ width ih =>
    have hrest : n / 16 < Nat.pow 16 width := (Nat.div_lt_iff_lt_mul (by decide)).2 h
    have hlast := hform (n % 16) (Nat.mod_lt _ (by decide))
    have hsum : n / 16 * 16 + n % 16 = n := by omega
    have hread := ih hrest
    unfold readHex? at hread ⊢
    rw [fixedHex, List.map_append, List.foldlM_append, hread]
    simp [hlast, hsum]

/-- A number that fits its width is read back from its digits. -/
theorem readHex?_fixedHex {width n : Nat} (h : n < Nat.pow 16 width) :
    readHex? (fixedHex width n) = some n := by
  have hread : readHex? ((fixedHex width n).map id) = some n :=
    readHex?_map_fixedHex (by decide) h
  rwa [List.map_id] at hread

/-- A number that fits its width is read back from digits in upper case, too. -/
theorem readHex?_upperHex_fixedHex {width n : Nat} (h : n < Nat.pow 16 width) :
    readHex? (upperHex (fixedHex width n)) = some n :=
  readHex?_map_fixedHex (by decide) h

end EntityModel.Text
