import EntityModel.Proofs.Yaml.Decode

/-! # Lines of documents

A block is the lines of its entries, one after another (`lines_eq_flatMap`). No line of a value
stands above the level of the value, every entry starts with a line of the level, and every line can
be told from the blanks in front of it and from the next line (`Line.IsReadable`). -/

namespace EntityModel.Yaml

open Json

/-! ## Entries of a block -/

/-- The text of the head of an entry. -/
def Head.text : Head → String
  | .item => "-"
  | .member name => nameText name ++ ":"

/-- The entries of a value in the order in which they are written. -/
def blockEntries : Value → List (Head × Value)
  | .array items => items.map fun item => (.item, item)
  | .object members =>
    (members.mergeSort fun a b => a.1 ≤ b.1).map fun member => (.member member.1, member.2)
  | _ => []

/-- The lines of an entry. -/
def writeEntry (level : Nat) (entry : Head × Value) : List Line :=
  entryLines level entry.1.text entry.2 (lines (level + 1) entry.2)

/-- The lines of items are those of their entries in a row. -/
theorem itemLines_eq (level : Nat) (items : List Value) :
    itemLines level items = items.flatMap fun item => writeEntry level (.item, item) := by
  induction items with
  | nil => rw [itemLines, List.flatMap_nil]
  | cons item rest ih =>
    rw [itemLines, ih, List.flatMap_cons]
    rfl

/-- The lines of members are those of their entries under their names. -/
theorem memberLines_eq (level : Nat) (members : List (String × Value)) :
    memberLines level members = members.map fun member =>
      (member.1, writeEntry level (.member member.1, member.2)) := by
  induction members with
  | nil => rw [memberLines, List.map_nil]
  | cons member rest ih =>
    obtain ⟨name, value⟩ := member
    rw [memberLines, ih, List.map_cons]
    rfl

/-- A value that is no block has one line. -/
theorem lines_of_not_isBlock {v : Value} (h : isBlock v = false) (level : Nat) :
    lines level v = [⟨level, inline v⟩] := by
  unfold lines
  split
  · cases h
  · cases h
  · rfl

/-- The lines of a block are those of its entries. -/
theorem lines_eq_flatMap {v : Value} (h : isBlock v = true) (level : Nat) :
    lines level v = (blockEntries v).flatMap (writeEntry level) :=
  match v, h with
  | .array (item :: rest), _ => by
    rw [lines, itemLines_eq, blockEntries, List.flatMap_map]
  | .object (member :: rest), _ => by
    -- Sorting the members by name and writing them can change places.
    have hsort := List.map_mergeSort (l := member :: rest) (r := fun a b => a.1 ≤ b.1)
      (s := fun a b => a.1 ≤ b.1)
      (f := fun m => (m.1, writeEntry level (.member m.1, m.2))) fun _ _ _ _ => rfl
    rw [lines, memberLines_eq, ← hsort, blockEntries, List.flatMap_map, List.flatMap_map]

/-- What holds of values without entries, and of blocks as soon as it holds of their entries, holds
of every value. -/
theorem block_induction {P : Value → Prop} (scalar : ∀ v, isBlock v = false → P v)
    (block : ∀ v, isBlock v = true → (∀ entry ∈ blockEntries v, P entry.2) → P v) (v : Value) :
    P v := by
  induction v using Value.induction with
  | null => exact scalar _ rfl
  | bool b => exact scalar _ rfl
  | number n => exact scalar _ rfl
  | string s => exact scalar _ rfl
  | array items ih =>
    cases h : isBlock (.array items) with
    | false => exact scalar _ h
    | true =>
      refine block _ h fun entry hentry => ?_
      obtain ⟨item, hitem, rfl⟩ := List.mem_map.1 hentry
      exact ih item hitem
  | object members ih =>
    cases h : isBlock (.object members) with
    | false => exact scalar _ h
    | true =>
      refine block _ h fun entry hentry => ?_
      obtain ⟨member, hmember, rfl⟩ := List.mem_map.1 hentry
      exact ih member (List.mem_mergeSort.1 hmember)

/-! ## Levels -/

/-- No line of a value is indented less than the value. -/
theorem le_level_of_mem_lines {v : Value} {level : Nat} {l : Line} (h : l ∈ lines level v) :
    level ≤ l.level := by
  induction v using block_induction generalizing level with
  | scalar v hv =>
    rw [lines_of_not_isBlock hv, List.mem_singleton] at h
    rw [h]
  | block v hv ih =>
    rw [lines_eq_flatMap hv] at h
    obtain ⟨entry, hentry, hl⟩ := List.mem_flatMap.1 h
    unfold writeEntry entryLines at hl
    split at hl
    · rcases List.mem_cons.1 hl with rfl | hl
      · exact Nat.le_refl _
      · exact Nat.le_of_succ_le (ih entry hentry hl)
    · rw [List.mem_singleton.1 hl]

/-- Entries start at their level. -/
theorem level_head_flatMap {level : Nat} {entries : List (Head × Value)} {l : Line}
    (h : l ∈ (entries.flatMap (writeEntry level)).head?) : l.level = level := by
  cases entries with
  | nil => cases h
  | cons entry rest =>
    rw [List.flatMap_cons, writeEntry, entryLines] at h
    split at h <;>
    · cases h
      rfl

/-! ## Texts of lines -/

/-- Whether the character can end a line. -/
def isLineEnd (c : Char) : Bool := c = '\n' || c = '\r'

/-- In a text without line ends no character is one. -/
theorem isLineEnd_of_mem {text : List Char} (h : text.any isLineEnd = false) {c : Char}
    (hc : c ∈ text) : isLineEnd c = false := by
  rw [List.any_eq_false] at h
  simpa using h c hc

/-- The text stands on one line, without blanks in front. -/
structure IsReadable (text : List Char) : Prop where
  /-- No character ends the line. -/
  ends : ∀ c ∈ text, isLineEnd c = false
  /-- No blank stands in front. -/
  blank : text.head? ≠ some ' '

/-- It can be decided whether a line can be read back. -/
instance (text : List Char) : Decidable (IsReadable text) :=
  decidable_of_iff (text.any isLineEnd = false ∧ text.head? ≠ some ' ')
    ⟨fun h => ⟨fun _ => isLineEnd_of_mem h.1, h.2⟩, fun h => ⟨by simpa using h.ends, h.blank⟩⟩

/-- More text without line ends leaves a line readable. -/
theorem IsReadable.append {first rest : List Char} (hfirst : IsReadable first) (hne : first ≠ [])
    (hrest : ∀ c ∈ rest, isLineEnd c = false) : IsReadable (first ++ rest) where
  ends c hc := (List.mem_append.1 hc).elim (hfirst.ends c) (hrest c)
  blank := by
    rw [List.head?_append, List.head?_eq_some_head hne, Option.some_or,
      ← List.head?_eq_some_head hne]
    exact hfirst.blank

/-- No line end is left by escaping. -/
theorem isLineEnd_of_mem_escape {c d : Char} (h : d ∈ escape c) : isLineEnd d = false := by
  unfold escape at h
  repeat' split at h
  -- The characters with a letter of their own.
  iterate 5 exact isLineEnd_of_mem (by decide) h
  · have hupper : ∀ n < 16, isLineEnd (Nat.digitChar n).toUpper = false := by decide
    rcases List.mem_cons.1 h with rfl | h
    · decide
    · rcases List.mem_cons.1 h with rfl | h
      · decide
      · obtain ⟨digit, hdigit, rfl⟩ := List.mem_map.1 h
        obtain ⟨n, hn, rfl⟩ := Text.exists_digitChar_of_mem_fixedHex hdigit
        exact hupper n hn
  · rename_i hlineFeed hcarriageReturn _ _
    rw [List.mem_singleton.1 h, isLineEnd, decide_eq_false hlineFeed,
      decide_eq_false hcarriageReturn, Bool.or_false]

/-- A quoted text is readable. -/
theorem isReadable_quote (text : String) : IsReadable (quote text).toList := by
  rw [quote, String.toList_ofList, quoteChars]
  refine ⟨fun c hc => ?_, by simp⟩
  rcases List.mem_append.1 hc with hc | hc
  · rcases List.mem_cons.1 hc with rfl | hc
    · decide
    · obtain ⟨d, -, hd⟩ := List.mem_flatMap.1 hc
      exact isLineEnd_of_mem_escape hd
  · rw [List.mem_singleton.1 hc]
    decide

/-- The text of a number is readable. -/
theorem isReadable_number (n : Number) : IsReadable n.text.toList := by
  have hchars := isNumberChar_of_isNumberScalar (isNumberScalar_text n)
  refine ⟨fun c hc => ?_, fun hhead => ?_⟩
  · rw [isLineEnd, Bool.or_eq_false_iff, decide_eq_false_iff_not, decide_eq_false_iff_not]
    constructor <;>
    · rintro rfl
      exact absurd (hchars _ hc) (by decide)
  · exact absurd (hchars _ (List.mem_of_head? hhead)) (by decide)

/-- A value on one line is readable. -/
theorem isReadable_inline (v : Value) : IsReadable (inline v).toList := by
  cases v with
  | null => exact (by decide : IsReadable "null".toList)
  | bool b => cases b <;> decide
  | number n => exact isReadable_number n
  | string s => exact isReadable_quote s
  | array items => exact (by decide : IsReadable "[]".toList)
  | object members => exact (by decide : IsReadable "\x7b\x7d".toList)

/-- The characters of a plain name. -/
theorem exists_of_isPlainName {name : String} (h : isPlainName name = true) :
    ∃ first rest, name.toList = first :: rest ∧ isPlainStart first = true ∧
      ∀ c ∈ name.toList, isPlainPart c = true := by
  rw [isPlainName] at h
  split at h
  · cases h
  · rename_i first rest hname
    simp only [Bool.and_eq_true] at h
    obtain ⟨⟨⟨hfirst, hrest⟩, -⟩, -⟩ := h
    have hpart : isPlainPart first = true := by
      simp only [isPlainStart, isPlainPart, Bool.or_eq_true] at hfirst ⊢
      rcases hfirst with (hfirst | hfirst) | hfirst <;> simp [hfirst]
    rw [hname]
    exact ⟨first, rest, rfl, hfirst, List.forall_mem_cons.2 ⟨hpart, List.all_eq_true.1 hrest⟩⟩

/-- The name of a member is readable, and is not empty. -/
theorem isReadable_nameText (name : String) :
    IsReadable (nameText name).toList ∧ (nameText name).toList ≠ [] := by
  unfold nameText
  split
  · rename_i hplain
    obtain ⟨first, rest, hname, hfirst, hall⟩ := exists_of_isPlainName hplain
    refine ⟨⟨fun c hc => ?_, ?_⟩, by simp [hname]⟩
    · rw [isLineEnd, Bool.or_eq_false_iff, decide_eq_false_iff_not, decide_eq_false_iff_not]
      constructor <;>
      · rintro rfl
        exact absurd (hall _ hc) (by decide)
    · rw [hname]
      rintro ⟨⟩
      exact absurd hfirst (by decide)
  · exact ⟨isReadable_quote name, by simp [quote, quoteChars]⟩

/-- What introduces an entry is readable, and is not empty. -/
theorem isReadable_head (h : Head) : IsReadable h.text.toList ∧ h.text.toList ≠ [] := by
  cases h with
  | item => exact ⟨by decide, by decide⟩
  | member name =>
    obtain ⟨hread, hne⟩ := isReadable_nameText name
    rw [Head.text, String.toList_append]
    exact ⟨hread.append hne (fun _ => isLineEnd_of_mem (by decide)), by simp⟩

/-- Every line of a value can be told from the blanks of its level and from the next line. -/
theorem isReadable_of_mem_lines {v : Value} {level : Nat} {l : Line} (h : l ∈ lines level v) :
    IsReadable l.text.toList := by
  induction v using block_induction generalizing level with
  | scalar v hv =>
    rw [lines_of_not_isBlock hv, List.mem_singleton] at h
    rw [h]
    exact isReadable_inline v
  | block v hv ih =>
    rw [lines_eq_flatMap hv] at h
    obtain ⟨⟨head, value⟩, hentry, hl⟩ := List.mem_flatMap.1 h
    obtain ⟨hread, hne⟩ := isReadable_head head
    unfold writeEntry entryLines at hl
    split at hl
    · rcases List.mem_cons.1 hl with rfl | hl
      · exact hread
      · exact ih _ hentry hl
    · rw [List.mem_singleton.1 hl, String.toList_append, String.toList_append, List.append_assoc]
      exact hread.append hne (List.forall_mem_cons.2 ⟨by decide, (isReadable_inline value).ends⟩)

end EntityModel.Yaml
