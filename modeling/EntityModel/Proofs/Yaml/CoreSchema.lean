import EntityModel.Proofs.Yaml.RoundTrip

/-! # Names in the core schema

The core schema of YAML 1.2 takes a plain scalar for null, a truth value, an integer or a
floating-point number if it is spelled like one, and for a string otherwise; a scalar in double
quotes is always a string. A name is read back as itself unless it is a word in capitals or an
integer in octal or hexadecimal digits: these stand without quotes, but are not strings
(`readsAs_nameText_iff`). -/

namespace EntityModel.Yaml

/-! ## Spellings -/

/-- What a plain scalar may stand for other than a string. -/
inductive Meaning where
  /-- Null. -/
  | null
  /-- A truth value. -/
  | bool
  /-- An integer. -/
  | int
  /-- A floating-point number. -/
  | float
  deriving DecidableEq, Repr

/-- One or more decimal digits. -/
def IsDigits (text : List Char) : Prop := text ≠ [] ∧ ∀ c ∈ text, c.isDigit = true

/-- A sign or nothing. -/
def IsSign (text : List Char) : Prop := text = [] ∨ text = ['+'] ∨ text = ['-']

/-- Whether the character is an octal digit. -/
def isOctalDigit (c : Char) : Bool := '0' ≤ c && c ≤ '7'

/-- Whether the character is a hexadecimal digit. -/
def isHexDigit (c : Char) : Bool := c.isDigit || ('a' ≤ c && c ≤ 'f') || ('A' ≤ c && c ≤ 'F')

/-- An integer in octal digits, as in `0o17`. -/
def IsOctal (text : List Char) : Prop :=
  ∃ digits, text = '0' :: 'o' :: digits ∧ digits ≠ [] ∧ ∀ c ∈ digits, isOctalDigit c = true

/-- An integer in hexadecimal digits, as in `0x1F`. -/
def IsHexadecimal (text : List Char) : Prop :=
  ∃ digits, text = '0' :: 'x' :: digits ∧ digits ≠ [] ∧ ∀ c ∈ digits, isHexDigit c = true

/-- Decimal digits with a point in front of them, behind some of them, or none. -/
inductive IsMantissa : List Char → Prop where
  | fraction {digits} : IsDigits digits → IsMantissa ('.' :: digits)
  | whole {digits} : IsDigits digits → IsMantissa digits
  | point {whole fraction} : IsDigits whole → (∀ c ∈ fraction, c.isDigit = true) →
    IsMantissa (whole ++ '.' :: fraction)

/-- An exponent or nothing. -/
inductive IsScale : List Char → Prop where
  | none : IsScale []
  | exponent {letter sign digits} : letter = 'e' ∨ letter = 'E' → IsSign sign → IsDigits digits →
    IsScale (letter :: (sign ++ digits))

/-- How values other than strings are spelled in the core schema. -/
inductive Spells : Meaning → List Char → Prop where
  | null {word : String} : word ∈ ["", "~", "null", "Null", "NULL"] → Spells .null word.toList
  | bool {word : String} : word ∈ ["true", "True", "TRUE", "false", "False", "FALSE"] →
    Spells .bool word.toList
  | decimal {sign digits} : IsSign sign → IsDigits digits → Spells .int (sign ++ digits)
  | octal {text} : IsOctal text → Spells .int text
  | hexadecimal {text} : IsHexadecimal text → Spells .int text
  | float {sign mantissa scale} : IsSign sign → IsMantissa mantissa → IsScale scale →
    Spells .float (sign ++ (mantissa ++ scale))
  | infinity {sign} {word : String} : IsSign sign → word ∈ [".inf", ".Inf", ".INF"] →
    Spells .float (sign ++ word.toList)
  | notANumber {word : String} : word ∈ [".nan", ".NaN", ".NAN"] → Spells .float word.toList

/-- The scalar in front of a colon is read as the name: between double quotes, or as a plain scalar
that is not spelled like anything else than a string. -/
def ReadsAs (text : List Char) (name : String) : Prop :=
  match text with
  | '"' :: rest => readQuoted rest = some (name.toList, [])
  | text => text = name.toList ∧ ∀ m, ¬Spells m text

/-- The plain names that are taken for something else. -/
def Misreads : Meaning → String → Prop
  | .null, name => name = "NULL"
  | .bool, name => name = "TRUE" ∨ name = "FALSE"
  | .int, name => IsOctal name.toList ∨ IsHexadecimal name.toList
  | .float, _ => False

/-! ## Numbers that are recognised -/

/-- What starts like a plain name has no sign. -/
theorem IsSign.eq_nil {sign rest : List Char} (h : IsSign sign) {first : Char} {others : List Char}
    (htext : first :: others = sign ++ rest) (hfirst : isPlainStart first = true) : sign = [] := by
  rcases h with rfl | rfl | rfl
  · rfl
  · cases htext
    cases hfirst
  · cases htext
    cases hfirst

/-- An unsigned number does not start with a sign. -/
theorem isNumber_of_isUnsignedNumber {text : List Char} (h : isUnsignedNumber text = true) :
    isNumber text = true := by
  unfold isNumber
  split
  · cases h
  · cases h
  · rw [Bool.or_eq_true]
    exact .inl h

/-- A scale is an exponent, and starts with neither a digit nor a full stop. -/
theorem isExponent_of_isScale {scale : List Char} (h : IsScale scale) :
    isExponent scale = true ∧ ∀ c ∈ scale.head?, c.isDigit = false ∧ c ≠ '.' := by
  cases h with
  | none => exact ⟨rfl, by simp⟩
  | @exponent letter sign digits hletter hsign hdigits =>
    have hhead : ∀ c ∈ (letter :: (sign ++ digits)).head?, c.isDigit = false ∧ c ≠ '.' := by
      rintro c ⟨⟩
      rcases hletter with rfl | rfl <;> decide
    have hall : digits.all Char.isDigit = true := List.all_eq_true.2 hdigits.2
    have hne : digits.isEmpty = false := by simpa using hdigits.1
    have hletter : (decide (letter = 'e') || decide (letter = 'E')) = true := by
      rcases hletter with rfl | rfl <;> rfl
    refine ⟨?_, hhead⟩
    change ((decide (letter = 'e') || decide (letter = 'E')) && _) = true
    rw [hletter, Bool.true_and]
    rcases hsign with rfl | rfl | rfl
    · rw [List.nil_append]
      split
      · -- Digits do not start with a sign.
        exact absurd (hdigits.2 '+' List.mem_cons_self) (by decide)
      · exact absurd (hdigits.2 '-' List.mem_cons_self) (by decide)
      · simp [hall, hne]
    · simp [hall, hne]
    · simp [hall, hne]

/-- Digits are a number. -/
theorem isUnsignedNumber_of_isDigits {digits : List Char} (h : IsDigits digits) :
    isUnsignedNumber digits = true := by
  have hnumber := isUnsignedNumber_append h.2 h.1 (rfl : isExponent [] = true) (by simp)
  rwa [List.append_nil] at hnumber

/-- What is spelled like a number and does not start with a point is a number. -/
theorem isUnsignedNumber_of_isMantissa {mantissa scale : List Char}
    (hmantissa : IsMantissa mantissa) (hscale : IsScale scale)
    (hpoint : (mantissa ++ scale).head? ≠ some '.') :
    isUnsignedNumber (mantissa ++ scale) = true := by
  obtain ⟨hexponent, hhead⟩ := isExponent_of_isScale hscale
  cases hmantissa with
  | fraction => exact absurd rfl hpoint
  | whole hdigits => exact isUnsignedNumber_append hdigits.2 hdigits.1 hexponent hhead
  | point hwhole hfraction =>
    rw [List.append_assoc, List.cons_append]
    exact isUnsignedNumber_point hwhole.2 hwhole.1 hfraction hexponent fun c hc => (hhead c hc).1

/-! ## Plain names -/

/-- A plain name is no number. -/
theorem not_isNumber_of_isPlainName {name : String} (h : isPlainName name = true) :
    ¬isNumber name.toList = true := by
  rw [isPlainName] at h
  split at h
  · cases h
  · rename_i first rest hname
    rw [Bool.and_eq_true, Bool.not_eq_true'] at h
    rw [hname, h.2]
    exact Bool.false_ne_true

/-- A plain name is spelled like something else only where it is misread. -/
theorem misreads_of_spells {name : String} (h : isPlainName name = true) {m : Meaning}
    (hspells : Spells m name.toList) : Misreads m name := by
  have hnumber := not_isNumber_of_isPlainName h
  obtain ⟨first, rest, htext, hfirst, -⟩ := exists_of_isPlainName h
  have hpoint : name.toList.head? ≠ some '.' := by
    rw [htext]
    rintro ⟨⟩
    cases hfirst
  -- A plain name starts with neither a sign nor a point, which leaves few of the spellings.
  generalize hchars : name.toList = text at hspells
  cases hspells with
  | null hword =>
    have hplain : ∀ w ∈ ["", "~", "null", "Null", "NULL"],
        isPlainName w = true → w = "NULL" := by decide
    obtain rfl := String.toList_inj.1 hchars
    exact hplain name hword h
  | bool hword =>
    have hplain : ∀ w ∈ ["true", "True", "TRUE", "false", "False", "FALSE"],
        isPlainName w = true → w = "TRUE" ∨ w = "FALSE" := by decide
    obtain rfl := String.toList_inj.1 hchars
    exact hplain name hword h
  | decimal hsign hdigits =>
    obtain rfl := hsign.eq_nil (htext.symm.trans hchars) hfirst
    rw [hchars, List.nil_append] at hnumber
    exact absurd (isNumber_of_isUnsignedNumber (isUnsignedNumber_of_isDigits hdigits)) hnumber
  | octal hoctal => exact .inl (hchars ▸ hoctal)
  | hexadecimal hhex => exact .inr (hchars ▸ hhex)
  | float hsign hmantissa hscale =>
    obtain rfl := hsign.eq_nil (htext.symm.trans hchars) hfirst
    rw [hchars, List.nil_append] at hnumber hpoint
    exact absurd (isNumber_of_isUnsignedNumber
      (isUnsignedNumber_of_isMantissa hmantissa hscale hpoint)) hnumber
  | infinity hsign hword =>
    have hhead : ∀ w ∈ [".inf", ".Inf", ".INF"], w.toList.head? = some '.' := by decide
    obtain rfl := hsign.eq_nil (htext.symm.trans hchars) hfirst
    rw [hchars, List.nil_append] at hpoint
    exact absurd (hhead _ hword) hpoint
  | notANumber hword =>
    have hhead : ∀ w ∈ [".nan", ".NaN", ".NAN"], w.toList.head? = some '.' := by decide
    rw [hchars] at hpoint
    exact absurd (hhead _ hword) hpoint

/-- A name that is misread spells what it is read as. -/
theorem spells_of_misreads {name : String} {m : Meaning} (h : Misreads m name) :
    Spells m name.toList := by
  cases m with
  | null =>
    obtain rfl : name = "NULL" := h
    exact .null (by decide)
  | bool =>
    obtain rfl | rfl : name = "TRUE" ∨ name = "FALSE" := h
    · exact .bool (by decide)
    · exact .bool (by decide)
  | int => exact h.elim .octal .hexadecimal
  | float => exact h.elim

/-- Digits behind a zero and the letter of a base are no decimal number and no word, so that they
are written without quotes. -/
theorem isPlainName_of_base {name : String} {letter : Char} {digits : List Char}
    (h : name.toList = '0' :: letter :: digits) (hletter : letter = 'o' ∨ letter = 'x')
    (hdigits : ∀ c ∈ digits, c.isAlphanum = true) : isPlainName name = true := by
  have hparts : (letter :: digits).all isPlainPart = true := by
    rw [List.all_eq_true, List.forall_mem_cons]
    refine ⟨by rcases hletter with rfl | rfl <;> decide, fun c hc => ?_⟩
    rw [isPlainPart, hdigits c hc]
    rfl
  have hword : reservedWords.contains name = false := by
    have hhead : ∀ w ∈ reservedWords, w.toList.head? ≠ some '0' := by decide
    rw [← Bool.not_eq_true, List.contains_iff_mem]
    intro hmem
    exact hhead name hmem (by rw [h, List.head?_cons])
  have hnumber : isNumber ('0' :: letter :: digits) = false := by
    rcases hletter with rfl | rfl <;> rfl
  rw [isPlainName, h]
  simp only [hparts, hword, hnumber]
  rfl

/-- Hexadecimal digits are letters or digits. -/
theorem isAlphanum_of_isHexDigit {c : Char} (h : isHexDigit c = true) : c.isAlphanum = true := by
  simp only [isHexDigit, Bool.or_eq_true, Bool.and_eq_true, decide_eq_true_eq] at h
  rw [Char.isAlphanum, Bool.or_eq_true_iff]
  rcases h with (hdigit | ⟨hge, hle⟩) | ⟨hge, hle⟩
  · exact .inr hdigit
  · have hlower : c.isLower = true :=
      Bool.and_eq_true_iff.2 ⟨decide_eq_true hge, decide_eq_true (Char.le_trans hle (by decide))⟩
    exact .inl (Bool.or_eq_true_iff.2 (.inr hlower))
  · have hupper : c.isUpper = true :=
      decide_eq_true ⟨hge, Char.le_trans hle (by decide : 'F' ≤ 'Z')⟩
    exact .inl (Bool.or_eq_true_iff.2 (.inl hupper))

/-- Octal digits are digits. -/
theorem isDigit_of_isOctalDigit {c : Char} (h : isOctalDigit c = true) : c.isDigit = true := by
  simp only [isOctalDigit, Char.isDigit, Bool.and_eq_true, decide_eq_true_eq, Char.le_def,
    UInt32.le_iff_toNat_le] at h ⊢
  exact ⟨h.1, Nat.le_trans h.2 (by decide)⟩

/-- Names that are misread stand without quotes. -/
theorem isPlainName_of_misreads {name : String} {m : Meaning} (h : Misreads m name) :
    isPlainName name = true := by
  cases m with
  | null =>
    obtain rfl : name = "NULL" := h
    decide
  | bool => rcases h with rfl | rfl <;> decide
  | int =>
    rcases h with ⟨digits, htext, -, hdigits⟩ | ⟨digits, htext, -, hdigits⟩
    · refine isPlainName_of_base htext (.inl rfl) fun c hc => ?_
      rw [Char.isAlphanum, isDigit_of_isOctalDigit (hdigits c hc), Bool.or_true]
    · exact isPlainName_of_base htext (.inr rfl) fun c hc => isAlphanum_of_isHexDigit (hdigits c hc)
  | float => exact h.elim

/-! ## Written names -/

/-- Without quotes, a name is read back if it is not misread. -/
theorem readsAs_toList_iff {name : String} (h : isPlainName name = true) :
    ReadsAs name.toList name ↔ ∀ m, ¬Misreads m name := by
  obtain ⟨first, rest, htext, hfirst, -⟩ := exists_of_isPlainName h
  unfold ReadsAs
  split
  · rename_i hquote
    rw [htext] at hquote
    cases hquote
    cases hfirst
  · exact ⟨fun hread m hmis => hread.2 m (spells_of_misreads hmis),
      fun hnone => ⟨rfl, fun m hspells => hnone m (misreads_of_spells h hspells)⟩⟩

/-- Between double quotes, every name is read back. -/
theorem readsAs_quote (name : String) : ReadsAs (quote name).toList name := by
  rw [toList_quote]
  exact readQuoted_flatMap_escape name.toList []

/-- **A name is read back as the string it is, unless it is written without quotes and spelled like
null, a truth value or an integer.** Of the plain names these are `NULL`, `TRUE`, `FALSE` and the
integers in octal or hexadecimal digits; no other plain name is spelled like one of these or like a
floating-point number. -/
theorem readsAs_nameText_iff (name : String) :
    (ReadsAs (nameText name).toList name ↔ ∀ m, ¬Misreads m name) ∧
      ∀ m, isPlainName name = true ∧ Spells m name.toList ↔ Misreads m name := by
  constructor
  · unfold nameText
    split
    · rename_i hplain
      exact readsAs_toList_iff hplain
    · rename_i hplain
      refine ⟨fun _ m hmis => hplain (isPlainName_of_misreads hmis), fun _ => readsAs_quote name⟩
  · intro m
    exact ⟨fun h => misreads_of_spells h.1 h.2,
      fun h => ⟨isPlainName_of_misreads h, spells_of_misreads h⟩⟩

end EntityModel.Yaml
