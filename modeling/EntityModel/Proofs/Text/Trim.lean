import EntityModel.Text.Blank
import Mathlib.Data.List.DropRight
import Mathlib.Data.List.TakeWhile

/-! # Trimmed texts

Trimming keeps a part of the text, of which neither end is blank, so that there is nothing to trim
in it (`trim_trim`). -/

namespace EntityModel.Text

/-- Trimming the end leaves a start of the text. -/
theorem trimEnd_isPrefix (cs : List Char) : trimEnd cs <+: cs := by
  rw [← List.reverse_suffix, trimEnd, List.reverse_reverse]
  exact List.dropWhile_suffix _

/-- A text that is trimmed has no blank at its end. -/
theorem isBlank_of_mem_getLast?_trimEnd {cs : List Char} {c : Char}
    (h : c ∈ (trimEnd cs).getLast?) : isBlank c = false := by
  rw [trimEnd, List.getLast?_reverse] at h
  have hne : cs.reverse.dropWhile isBlank ≠ [] := fun hnil => by rw [hnil] at h; cases h
  rw [List.head?_eq_some_head hne, Option.mem_some_iff] at h
  rw [← h]
  exact List.head_dropWhile_not _ hne

/-- A text is left as it is if its last character is not blank. -/
theorem trimEnd_eq_self {cs : List Char} {c : Char} (hlast : c ∈ cs.getLast?)
    (hc : isBlank c = false) : trimEnd cs = cs := by
  rw [← List.head?_reverse] at hlast
  obtain ⟨rest, hrest⟩ := List.head?_eq_some_iff.1 hlast
  rw [trimEnd, hrest, List.dropWhile_cons_of_neg (by simp [hc]), ← hrest, List.reverse_reverse]

/-- If anything is left, trimming the end leaves the first character. -/
theorem eq_of_mem_head?_trimEnd {rest : List Char} {c d : Char}
    (h : d ∈ (trimEnd (c :: rest)).head?) : d = c := by
  obtain ⟨cut, hcut⟩ := trimEnd_isPrefix (c :: rest)
  cases htrim : trimEnd (c :: rest) with
  | nil => rw [htrim] at h; cases h
  | cons first more =>
    rw [htrim] at h hcut
    rw [List.head?_cons, Option.mem_some_iff] at h
    exact h ▸ (List.cons.inj hcut).1

/-- A character that is not blank is not trimmed away. -/
theorem exists_trim_cons {c : Char} (h : isBlank c = false) (rest : List Char) :
    ∃ more, trim (c :: rest) = c :: more := by
  rw [trim, trimStart, List.dropWhile_cons_of_neg (by simp [h])]
  cases htrim : trimEnd (c :: rest) with
  | nil =>
    rw [trimEnd, List.reverse_eq_nil_iff, List.dropWhile_eq_nil_iff] at htrim
    rw [htrim c (by simp)] at h
    cases h
  | cons first more =>
    obtain rfl := eq_of_mem_head?_trimEnd (htrim ▸ rfl : first ∈ (trimEnd (c :: rest)).head?)
    exact ⟨more, rfl⟩

/-- Trimming adds no characters. -/
theorem mem_of_mem_trim {cs : List Char} {c : Char} (h : c ∈ trim cs) : c ∈ cs :=
  (List.dropWhile_suffix _).subset ((trimEnd_isPrefix _).subset h)

/-- What is trimmed at the end is blank. -/
theorem exists_eq_trimEnd_append (cs : List Char) :
    ∃ blanks, (∀ c ∈ blanks, isBlank c = true) ∧ cs = trimEnd cs ++ blanks :=
  ⟨cs.rtakeWhile isBlank, fun _ hc => List.mem_rtakeWhile_imp hc,
    (List.rdropWhile_append_rtakeWhile).symm⟩

/-- What is trimmed at either end is blank. -/
theorem exists_eq_append_trim_append (cs : List Char) :
    ∃ before after, (∀ c ∈ before, isBlank c = true) ∧ (∀ c ∈ after, isBlank c = true) ∧
      cs = before ++ (trim cs ++ after) := by
  obtain ⟨after, hafter, heq⟩ := exists_eq_trimEnd_append (trimStart cs)
  refine ⟨cs.takeWhile isBlank, after, fun c hc => List.mem_takeWhile_imp hc, hafter, ?_⟩
  rw [trim, ← heq, trimStart, List.takeWhile_append_dropWhile]

/-- A character that is not blank is not trimmed away. -/
theorem mem_trim_of_mem {cs : List Char} {c : Char} (h : c ∈ cs) (hc : isBlank c = false) :
    c ∈ trim cs := by
  obtain ⟨before, after, hbefore, hafter, heq⟩ := exists_eq_append_trim_append cs
  rw [heq, List.mem_append, List.mem_append] at h
  rcases h with h | h | h
  · exact absurd (hbefore c h) (by simp [hc])
  · exact h
  · exact absurd (hafter c h) (by simp [hc])

/-- Nothing is trimmed up to a character that is not blank. -/
theorem isPrefix_trimEnd_append {cs : List Char} {c : Char} (hlast : c ∈ cs.getLast?)
    (hc : isBlank c = false) (ds : List Char) : cs <+: trimEnd (cs ++ ds) := by
  obtain ⟨blanks, hblanks, heq⟩ := exists_eq_trimEnd_append (cs ++ ds)
  rcases List.append_eq_append_iff.1 heq with ⟨kept, hkept, -⟩ | ⟨cut, hcut, hrest⟩
  · exact ⟨kept, hkept.symm⟩
  · -- What is cut off would end in the character.
    have hnil : cut = [] := by
      by_contra hne
      rw [hcut, List.getLast?_append_of_ne_nil _ hne] at hlast
      have hmem : c ∈ blanks := hrest ▸ List.mem_append_left _ (List.mem_of_getLast? hlast)
      rw [hblanks c hmem] at hc
      cases hc
    rw [hnil, List.append_nil] at hcut
    exact hcut ▸ List.prefix_rfl

/-- Nothing is left exactly of a blank text. -/
theorem trimEnd_eq_nil_iff {cs : List Char} : trimEnd cs = [] ↔ ∀ c ∈ cs, isBlank c = true :=
  List.rdropWhile_eq_nil_iff

/-! ## Trimming again -/

/-- Trimming the end leaves a start that is not blank. -/
theorem trimStart_trimEnd_trimStart (cs : List Char) :
    trimStart (trimEnd (trimStart cs)) = trimEnd (trimStart cs) := by
  cases hstart : trimStart cs with
  | nil => rfl
  | cons c rest =>
    have hc : isBlank c = false := by
      rw [trimStart] at hstart
      have hne : cs.dropWhile isBlank ≠ [] := by simp [hstart]
      have hhead := List.head_dropWhile_not isBlank hne
      simpa only [hstart, List.head_cons] using hhead
    cases hend : trimEnd (c :: rest) with
    | nil => rfl
    | cons d more =>
      obtain rfl := eq_of_mem_head?_trimEnd (hend ▸ rfl : d ∈ (trimEnd (c :: rest)).head?)
      exact List.dropWhile_cons_of_neg (by simp [hc])

/-- A text that is trimmed has no blank at its start. -/
theorem isBlank_of_mem_head?_trim {cs : List Char} {c : Char} (h : c ∈ (trim cs).head?) :
    isBlank c = false := by
  rw [trim, ← trimStart_trimEnd_trimStart, trimStart] at h
  have hne : (trimEnd (trimStart cs)).dropWhile isBlank ≠ [] := fun hnil => by
    rw [hnil] at h
    cases h
  rw [List.head?_eq_some_head hne, Option.mem_some_iff] at h
  rw [← h]
  exact List.head_dropWhile_not _ hne

/-- There is nothing to trim in a trimmed text. -/
theorem trim_trim (cs : List Char) : trim (trim cs) = trim cs := by
  rw [trim, trim, trimStart_trimEnd_trimStart]
  exact List.rdropWhile_idempotent _ _

end EntityModel.Text
