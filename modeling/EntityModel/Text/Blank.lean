import EntityModel.Text.CharClass

/-! # Blank characters

The Unicode property White_Space, and what it is used for: trimming text. -/

namespace EntityModel.Text

/-- The characters with the Unicode property White_Space. -/
def whiteSpace : CharClass := ⟨[
  (0x9, 0xd), (0x20, 0x20), (0x85, 0x85), (0xa0, 0xa0), (0x1680, 0x1680), (0x2000, 0x200a),
  (0x2028, 0x2029), (0x202f, 0x202f), (0x205f, 0x205f), (0x3000, 0x3000)]⟩

/-- Whether the character is white space. -/
def isBlank (c : Char) : Bool := whiteSpace.contains c

/-- The text without the white space at its start. -/
def trimStart (cs : List Char) : List Char := cs.dropWhile isBlank

/-- The text without the white space at its end. -/
def trimEnd (cs : List Char) : List Char := (cs.reverse.dropWhile isBlank).reverse

/-- The text without the white space at either end. -/
def trim (cs : List Char) : List Char := trimEnd (trimStart cs)

/-- Nothing is left of no characters. -/
@[simp] theorem trimStart_nil : trimStart [] = [] := rfl

/-- Nothing is left of no characters. -/
@[simp] theorem trimEnd_nil : trimEnd [] = [] := rfl

/-- Nothing is left of no characters. -/
@[simp] theorem trim_nil : trim [] = [] := rfl

/-- A blank at the start is dropped. -/
theorem trimStart_cons_of_blank {c : Char} (h : isBlank c = true) (cs : List Char) :
    trimStart (c :: cs) = trimStart cs := by
  rw [trimStart, List.dropWhile_cons_of_pos h, trimStart]

/-- A blank at the start is dropped. -/
theorem trim_cons_of_blank {c : Char} (h : isBlank c = true) (cs : List Char) :
    trim (c :: cs) = trim cs := by
  rw [trim, trimStart_cons_of_blank h, trim]

/-- A text with no blank at either end is left as it is. -/
theorem trim_eq_self {cs : List Char} (hfirst : ∀ c ∈ cs.head?, isBlank c = false)
    (hlast : ∀ c ∈ cs.getLast?, isBlank c = false) : trim cs = cs := by
  have hdrop : ∀ ds : List Char, (∀ c ∈ ds.head?, isBlank c = false) →
      ds.dropWhile isBlank = ds := by
    intro ds hds
    cases ds with
    | nil => rfl
    | cons d ds => exact List.dropWhile_cons_of_neg (by simp [hds d rfl])
  rw [trim, trimStart, hdrop cs hfirst, trimEnd, hdrop cs.reverse, List.reverse_reverse]
  rwa [List.head?_reverse]

end EntityModel.Text
