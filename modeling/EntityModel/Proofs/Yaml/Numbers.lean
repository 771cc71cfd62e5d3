import EntityModel.Proofs.Number.Shortest
import EntityModel.Yaml.Encode

/-! # Numbers as scalars

The text of a number is a number as scalars of YAML are: a sign or none, digits with a point or
none, and an exponent or none (`isNumberScalar_text`). Such a text has no characters but digits and
a few marks. -/

namespace EntityModel.Yaml

open Json EntityModel.Number

/-- The text is a number, with a minus in front or none. -/
def isNumberScalar : List Char → Bool
  | '-' :: rest => isUnsignedNumber rest
  | text => isUnsignedNumber text

/-! ## Characters of numbers -/

/-- The characters of numbers other than digits. -/
def numberMarks : List Char := ['.', 'e', 'E', '+', '-']

/-- Whether the character can stand in a number. -/
def isNumberChar (c : Char) : Bool := c.isDigit || numberMarks.contains c

/-- Digits are characters of numbers. -/
theorem isNumberChar_of_isDigit {c : Char} (h : c.isDigit = true) : isNumberChar c = true := by
  rw [isNumberChar, h, Bool.true_or]

/-- An exponent has only characters of numbers. -/
theorem isNumberChar_of_isExponent {text : List Char} (h : isExponent text = true) :
    ∀ c ∈ text, isNumberChar c = true := by
  have hdigits : ∀ digits : List Char, digits.all Char.isDigit = true →
      ∀ c ∈ digits, isNumberChar c = true :=
    fun digits hall c hc => isNumberChar_of_isDigit (List.all_eq_true.1 hall c hc)
  cases text with
  | nil => simp
  | cons letter rest =>
    simp only [isExponent, Bool.and_eq_true, Bool.or_eq_true, decide_eq_true_eq] at h
    obtain ⟨hletter, -, hrest⟩ := h
    refine List.forall_mem_cons.2 ⟨by rcases hletter with rfl | rfl <;> decide, ?_⟩
    split at hrest
    · exact List.forall_mem_cons.2 ⟨by decide, hdigits _ hrest⟩
    · exact List.forall_mem_cons.2 ⟨by decide, hdigits _ hrest⟩
    · exact hdigits _ hrest

/-- A number without a sign has only characters of numbers. -/
theorem isNumberChar_of_isUnsignedNumber {text : List Char} (h : isUnsignedNumber text = true) :
    ∀ c ∈ text, isNumberChar c = true := by
  have hspan : ∀ part : List Char, (∀ c ∈ part.dropWhile Char.isDigit, isNumberChar c = true) →
      ∀ c ∈ part, isNumberChar c = true := by
    intro part hpart c hc
    rw [← List.takeWhile_append_dropWhile (p := Char.isDigit) (l := part)] at hc
    rcases List.mem_append.1 hc with hc | hc
    · exact isNumberChar_of_isDigit (List.mem_takeWhile_imp hc)
    · exact hpart c hc
  refine hspan text ?_
  rw [isUnsignedNumber] at h
  split at h
  · rename_i rest hdrop
    rw [hdrop]
    exact List.forall_mem_cons.2 ⟨by decide,
      hspan rest (isNumberChar_of_isExponent (Bool.and_eq_true _ _ ▸ h).2)⟩
  · exact isNumberChar_of_isExponent (Bool.and_eq_true _ _ ▸ h).2

/-- A number has only characters of numbers. -/
theorem isNumberChar_of_isNumberScalar {text : List Char} (h : isNumberScalar text = true) :
    ∀ c ∈ text, isNumberChar c = true := by
  unfold isNumberScalar at h
  split at h
  · exact List.forall_mem_cons.2 ⟨by decide, isNumberChar_of_isUnsignedNumber h⟩
  · exact isNumberChar_of_isUnsignedNumber h

/-! ## Numbers that are written -/

/-- A list is divided where its elements change. -/
theorem span_append {α : Type} {p : α → Bool} {first rest : List α}
    (hfirst : ∀ a ∈ first, p a = true) (hrest : ∀ a ∈ rest.head?, p a = false) :
    (first ++ rest).takeWhile p = first ∧ (first ++ rest).dropWhile p = rest := by
  have htake : rest.takeWhile p = [] := by
    cases rest with
    | nil => rfl
    | cons a rest => exact List.takeWhile_cons_of_neg (by simp [hrest a rfl])
  have hdrop : rest.dropWhile p = rest := by
    cases rest with
    | nil => rfl
    | cons a rest => exact List.dropWhile_cons_of_neg (by simp [hrest a rfl])
  rw [List.takeWhile_append_of_pos hfirst, List.dropWhile_append_of_pos hfirst, htake, hdrop,
    List.append_nil]
  exact ⟨rfl, rfl⟩

/-- Digits, and an exponent or nothing behind them. -/
theorem isUnsignedNumber_append {whole tail : List Char}
    (hwhole : ∀ c ∈ whole, c.isDigit = true) (hne : whole ≠ [])
    (htail : isExponent tail = true) (hhead : ∀ c ∈ tail.head?, c.isDigit = false ∧ c ≠ '.') :
    isUnsignedNumber (whole ++ tail) = true := by
  obtain ⟨htake, hdrop⟩ := span_append hwhole fun c hc => (hhead c hc).1
  rw [isUnsignedNumber, htake, hdrop]
  split
  · rename_i rest
    exact absurd rfl (hhead '.' rfl).2
  · simp [hne, htail]

/-- Digits around a point, and an exponent or nothing behind them. -/
theorem isUnsignedNumber_point {whole fraction tail : List Char}
    (hwhole : ∀ c ∈ whole, c.isDigit = true) (hne : whole ≠ [])
    (hfraction : ∀ c ∈ fraction, c.isDigit = true) (htail : isExponent tail = true)
    (hhead : ∀ c ∈ tail.head?, c.isDigit = false) :
    isUnsignedNumber (whole ++ '.' :: (fraction ++ tail)) = true := by
  have hpoint : ∀ c ∈ ('.' :: (fraction ++ tail)).head?, c.isDigit = false := by
    rintro c ⟨⟩
    decide
  obtain ⟨htake, hdrop⟩ := span_append hwhole hpoint
  obtain ⟨-, hbehind⟩ := span_append hfraction hhead
  rw [isUnsignedNumber, htake, hdrop]
  simp [hne, hbehind, htail]

/-- A sign and digits make an exponent. -/
theorem isExponent_toDigits {sign : Char} (h : sign = '+' ∨ sign = '-') (n : Nat) :
    isExponent ('e' :: sign :: Nat.toDigits 10 n) = true := by
  have hall : (Nat.toDigits 10 n).all Char.isDigit = true :=
    List.all_eq_true.2 fun c hc => Nat.isDigit_of_mem_toDigits (by decide) (Nat.le_refl _) hc
  have hne : Nat.toDigits 10 n ≠ [] := List.length_pos_iff.1 Nat.length_toDigits_pos
  rcases h with rfl | rfl <;> simp [isExponent, hall, hne]

/-- The digits of a number are a number without a sign. -/
theorem isUnsignedNumber_toDigits (n : Nat) : isUnsignedNumber (Nat.toDigits 10 n) = true := by
  have h := isUnsignedNumber_append
    (fun c hc => Nat.isDigit_of_mem_toDigits (b := 10) (n := n) (by decide) (Nat.le_refl _) hc)
    (List.length_pos_iff.1 Nat.length_toDigits_pos) (rfl : isExponent [] = true) (by simp)
  rwa [List.append_nil] at h

/-- Digits at any place are written as a number. -/
theorem isUnsignedNumber_placeDigits {digits : List Char}
    (hdigits : ∀ c ∈ digits, c.isDigit = true) (hne : digits ≠ []) (first : Int) :
    isUnsignedNumber (placeDigits digits first) = true := by
  have hzeros : ∀ n, ∀ c ∈ List.replicate n '0', c.isDigit = true := by
    intro n c hc
    obtain rfl := List.eq_of_mem_replicate hc
    decide
  unfold placeDigits
  split
  · -- A point among the digits or behind them.
    have hwhole : ∀ c ∈ digits.take (first.toNat + 1) ++
        List.replicate (first.toNat + 1 - digits.length) '0', c.isDigit = true := fun c hc =>
      (List.mem_append.1 hc).elim (fun hc => hdigits c (List.mem_of_mem_take hc)) (hzeros _ c)
    have hfraction : ∀ c ∈ if (digits.drop (first.toNat + 1)).isEmpty then ['0']
        else digits.drop (first.toNat + 1), c.isDigit = true := by
      split
      · simp
      · exact fun c hc => hdigits c (List.mem_of_mem_drop hc)
    have h := isUnsignedNumber_point hwhole (by simp [hne]) hfraction
      (rfl : isExponent [] = true) (by simp)
    rwa [List.append_nil] at h
  · split
    · -- Zeros between the point and the digits.
      have hfraction : ∀ c ∈ List.replicate ((-first).toNat - 1) '0' ++ digits,
          c.isDigit = true := fun c hc => (List.mem_append.1 hc).elim (hzeros _ c) (hdigits c)
      have h := isUnsignedNumber_point (hzeros 1) (by decide) hfraction
        (rfl : isExponent [] = true) (by simp)
      rwa [List.append_nil] at h
    · -- An exponent behind the digits.
      have hsign : (if first < 0 then '-' else '+') = '+' ∨
          (if first < 0 then '-' else '+') = '-' := by split <;> simp
      have hexponent := isExponent_toDigits hsign first.natAbs
      match digits, hne with
      | [d], _ =>
        have h := isUnsignedNumber_append hdigits (List.cons_ne_nil d []) hexponent (by simp)
        simpa using h
      | d :: d' :: rest, _ =>
        obtain ⟨hfirst, hrest⟩ := List.forall_mem_cons.1 hdigits
        have h := isUnsignedNumber_point (List.forall_mem_singleton.2 hfirst)
          (List.cons_ne_nil d []) hrest hexponent (by simp)
        simpa using h

/-- A number may have a sign in front. -/
theorem isNumberScalar_of_isUnsignedNumber {text : List Char} (h : isUnsignedNumber text = true)
    (negative : Bool) : isNumberScalar (if negative then '-' :: text else text) = true := by
  cases negative with
  | true => exact h
  | false =>
    have hsign : text.head? ≠ some '-' := by
      intro hhead
      obtain ⟨rest, rfl⟩ := List.head?_eq_some_iff.1 hhead
      cases h
    unfold isNumberScalar
    split
    · rename_i hhead
      exact absurd (congrArg List.head? hhead) hsign
    · exact h

/-- The text of a number is a number. -/
theorem isNumberScalar_text (n : Number) : isNumberScalar n.text.toList = true := by
  cases n with
  | integer n =>
    cases n with
    | ofNat n =>
      have h := isNumberScalar_of_isUnsignedNumber (isUnsignedNumber_toDigits n) false
      change isNumberScalar n.repr.toList = true
      rwa [Nat.repr_eq_ofList_toDigits, String.toList_ofList]
    | negSucc n =>
      have h := isNumberScalar_of_isUnsignedNumber (isUnsignedNumber_toDigits (n + 1)) true
      change isNumberScalar ("-" ++ (n + 1).repr).toList = true
      simpa [Nat.repr_eq_ofList_toDigits] using h
  | double d =>
    change isNumberScalar d.text.toList = true
    rw [Binary64.text, String.toList_ofList]
    refine isNumberScalar_of_isUnsignedNumber ?_ d.negative
    split
    · rfl
    · rename_i hzero
      have hdigits := (Magnitude.isPositive_interval hzero).digits_shortest_ne_zero
      exact isUnsignedNumber_placeDigits (fun _ => Decimal.isDigit_of_mem_significantDigits)
        (Decimal.significantDigits_ne_nil hdigits) _

end EntityModel.Yaml
