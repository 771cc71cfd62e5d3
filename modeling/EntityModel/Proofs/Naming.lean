import EntityModel.Naming
import Mathlib.Data.List.Chain

/-! # Properties of names

Names of tables are built from names of entities, and longer names from names of tables: a join
table puts two underscores between a table and a field, and an index stands between `idx_` and a
number. Such names can be taken apart again, because a table name

* holds no two underscores in a row and does not start with one (`spaced_tableName`), and
* ends in `s` (`getLast?_tableName`).

So the first two underscores of a join table's name stand right behind the name of its table, and
no name of one kind is a name of another kind. -/

namespace EntityModel.Naming

/-! ## Underscores -/

/-- No two underscores stand together. -/
def Spaced (cs : List Char) : Prop := cs.IsChain fun a b => ¬(a = '_' ∧ b = '_')

/-- It can be decided whether underscores stand apart. -/
instance (cs : List Char) : Decidable (Spaced cs) :=
  inferInstanceAs (Decidable (cs.IsChain fun a b => ¬(a = '_' ∧ b = '_')))

/-- Underscores stand apart in two texts in a row if they do in each one, and where the two meet. -/
theorem spaced_append {xs ys : List Char} : Spaced (xs ++ ys) ↔
    Spaced xs ∧ Spaced ys ∧ ∀ x ∈ xs.getLast?, ∀ y ∈ ys.head?, ¬(x = '_' ∧ y = '_') :=
  List.isChain_append

/-- Underscores that stand apart do so behind the first character. -/
theorem Spaced.tail {c : Char} {cs : List Char} (h : Spaced (c :: cs)) : Spaced cs :=
  List.IsChain.tail h

/-- Two underscores in a row do not stand apart. -/
theorem not_spaced_of_pair (xs ys : List Char) : ¬Spaced (xs ++ '_' :: '_' :: ys) := by
  intro h
  have hpair : Spaced ('_' :: '_' :: ys) := (spaced_append.1 h).2.1
  exact (List.isChain_cons_cons.1 hpair).1 ⟨rfl, rfl⟩

/-- A text is spaced if it has no underscore at all. -/
theorem spaced_of_notMem {cs : List Char} (h : '_' ∉ cs) : Spaced cs := by
  induction cs with
  | nil => exact .nil
  | cons c cs ih =>
    refine List.isChain_cons.2 ⟨fun d _ hcd => ?_, ih fun hmem => h (List.mem_cons_of_mem _ hmem)⟩
    exact h (hcd.1 ▸ List.mem_cons_self)

/-- What stands behind a spaced text that does not end in an underscore can be told from it by the
two underscores between them. -/
theorem append_pair_inj {xs ys f g : List Char} (hx : Spaced xs) (hxlast : xs.getLast? ≠ some '_')
    (hy : Spaced ys) (hylast : ys.getLast? ≠ some '_')
    (h : xs ++ '_' :: '_' :: f = ys ++ '_' :: '_' :: g) : xs = ys ∧ f = g := by
  -- A longer text would take underscores of the pair behind the shorter one.
  have key : ∀ {xs f g : List Char} (zs : List Char), Spaced (xs ++ zs) →
      (xs ++ zs).getLast? ≠ some '_' → '_' :: '_' :: f = zs ++ '_' :: '_' :: g → zs = [] := by
    intro xs f g zs hspaced hlast heq
    match zs with
    | [] => rfl
    | [z] =>
      obtain ⟨rfl, -⟩ := List.cons.inj heq
      exact absurd List.getLast?_concat hlast
    | z :: z' :: zs =>
      simp only [List.cons_append, List.cons.injEq] at heq
      obtain ⟨rfl, rfl, -⟩ := heq
      exact absurd hspaced (not_spaced_of_pair xs zs)
  rcases List.append_eq_append_iff.1 h with ⟨zs, rfl, heq⟩ | ⟨zs, rfl, heq⟩
  · obtain rfl := key zs hy hylast heq
    simpa using heq
  · obtain rfl := key zs hx hxlast heq
    simpa [eq_comm] using heq

/-- The last underscore of a text divides it in one way only. -/
theorem append_last_inj {xs ys f g : List Char} (hf : '_' ∉ f) (hg : '_' ∉ g)
    (h : xs ++ '_' :: f = ys ++ '_' :: g) : xs = ys ∧ f = g := by
  have key : ∀ {f g : List Char} (zs : List Char), '_' ∉ f → '_' :: f = zs ++ '_' :: g →
      zs = [] := by
    intro f g zs hf heq
    cases zs with
    | nil => rfl
    | cons z zs =>
      obtain ⟨-, rfl⟩ := List.cons.inj heq
      exact absurd (List.mem_append_right zs List.mem_cons_self) hf
  rcases List.append_eq_append_iff.1 h with ⟨zs, rfl, heq⟩ | ⟨zs, rfl, heq⟩
  · obtain rfl := key zs hf heq
    simpa using heq
  · obtain rfl := key zs hg heq
    simpa [eq_comm] using heq

/-! ## Snake case -/

/-- A capital has a small letter, and every other character is its own lower case. -/
theorem toLower_cases (c : Char) : c.isUpper = true ∧ c.toLower.isLower = true ∨
    c.isUpper = false ∧ c.toLower = c := by
  unfold Char.toLower
  split
  · rename_i hupper
    have hlow : 65 ≤ c.val.toNat := UInt32.le_iff_toNat_le.1 hupper.1
    have hhigh : c.val.toNat ≤ 90 := UInt32.le_iff_toNat_le.1 hupper.2
    -- The code of the letter is moved among those of the small letters.
    have hval : (c.val + 32).toNat = c.val.toNat + 32 := by
      rw [UInt32.toNat_add]
      exact Nat.mod_eq_of_lt (Nat.lt_of_le_of_lt (Nat.add_le_add_right hhigh 32) (by decide))
    refine .inl ⟨decide_eq_true hupper, Bool.and_eq_true_iff.2
      ⟨decide_eq_true (UInt32.le_iff_toNat_le.2 ?_), decide_eq_true (UInt32.le_iff_toNat_le.2 ?_)⟩⟩
    · exact hval ▸ Nat.add_le_add_right hlow 32
    · exact hval ▸ Nat.add_le_add_right hhigh 32
  · rename_i hupper
    exact .inr ⟨decide_eq_false hupper, rfl⟩

/-- A small letter is no capital. -/
theorem isUpper_eq_false_of_isLower {c : Char} (h : c.isLower = true) : c.isUpper = false := by
  refine decide_eq_false fun hupper => ?_
  have hhigh := UInt32.le_iff_toNat_le.1 hupper.2
  have hlow := UInt32.le_iff_toNat_le.1 (of_decide_eq_true (Bool.and_eq_true_iff.1 h).1)
  exact absurd (hlow.trans hhigh) (by decide)
/-- Only small letters are the lower case of another character. -/
theorem eq_of_toLower_eq {c d : Char} (hd : d.isLower = false) (h : c.toLower = d) : c = d := by
  rcases toLower_cases c with ⟨-, hlower⟩ | ⟨-, hsame⟩
  · cases hd.symm.trans (h ▸ hlower)
  · exact hsame.symm.trans h

/-- The lower case of a character is no capital. -/
theorem isUpper_toLower (c : Char) : c.toLower.isUpper = false := by
  rcases toLower_cases c with ⟨-, hlower⟩ | ⟨hupper, hsame⟩
  · exact isUpper_eq_false_of_isLower hlower
  · rwa [hsame]

/-- What is no capital is its own lower case. -/
theorem toLower_eq_self {c : Char} (h : c.isUpper = false) : c.toLower = c := by
  rcases toLower_cases c with ⟨hupper, -⟩ | ⟨-, hsame⟩
  · cases h.symm.trans hupper
  · exact hsame

/-- The lower case of another character is no underscore. -/
theorem toLower_ne_underscore {c : Char} (h : c ≠ '_') : c.toLower ≠ '_' :=
  mt (eq_of_toLower_eq (by decide)) h

/-- A word never starts behind a separator. -/
theorem not_startsWord_separator {b c : Char} {after : Option Char}
    (hb : b = '-' ∨ b = ' ' ∨ b = '_') : startsWord (some b) c after = false := by
  have hclass : b.isLower = false ∧ b.isDigit = false ∧ b.isUpper = false := by
    rcases hb with rfl | rfl | rfl <;> decide
  simp [startsWord, hclass]

/-- The rest of a name in snake case is spaced together with the character in front of it. At the
start of the name, where nothing is written yet, it is spaced as if an underscore stood there. -/
theorem spaced_snakeFrom {before last : Option Char} {cs : List Char}
    (hstart : last = none → ∀ b ∈ before, b = '-' ∨ b = ' ' ∨ b = '_') :
    Spaced (last.getD '_' :: snakeFrom before last cs) := by
  fun_induction snakeFrom before last cs with
  | case1 before last => exact .singleton _
  | case2 before last c rest hsep hlast ih =>
    -- The separator is skipped.
    exact ih fun _ b hb => Option.mem_some.1 hb ▸ by tauto
  | case3 before last c rest hsep hlast ih =>
    obtain ⟨l, rfl⟩ := Option.ne_none_iff_exists'.1 fun h => hlast (.inl h)
    have hl : l ≠ '_' := fun h => hlast (.inr (h ▸ rfl))
    exact .cons_cons (fun h => hl h.1) (ih (by simp))
  | case4 before last c rest hsep hword ih =>
    have hc : c.toLower ≠ '_' := toLower_ne_underscore fun h => hsep (.inr (.inr h))
    have hlast : last ≠ none := by
      intro hnone
      cases before with
      | none => simp [startsWord] at hword
      | some b => simp [not_startsWord_separator (hstart hnone b rfl)] at hword
    obtain ⟨l, rfl⟩ := Option.ne_none_iff_exists'.1 hlast
    have hl : l ≠ '_' := fun h => hword.2 (h ▸ rfl)
    exact .cons_cons (fun h => hl h.1) (.cons_cons (fun h => hc h.2) (ih (by simp)))
  | case5 before last c rest hsep hword ih =>
    have hc : c.toLower ≠ '_' := toLower_ne_underscore fun h => hsep (.inr (.inr h))
    exact .cons_cons (fun h => hc h.2) (ih (by simp))

/-- The snake case of a name does not start with an underscore, and it holds no two of them in a
row. -/
theorem spaced_snake (name : String) : Spaced ('_' :: (snake name).toList) := by
  rw [snake, String.toList_ofList]
  exact @spaced_snakeFrom none none _ (by simp)

/-! ## Plurals -/

/-- A plural ends in `s`. -/
theorem getLast?_pluralOf (word : List Char) : (pluralOf word).getLast? = some 's' := by
  unfold pluralOf
  split
  · rename_i rest heq
    rw [List.getLast?_eq_head?_reverse, heq, List.head?_cons]
  · split
    · simp
    · exact List.getLast?_concat
  · exact List.getLast?_concat

/-- The plural of a word has no more underscores than the word. -/
theorem spaced_pluralOf {word : List Char} (h : Spaced ('_' :: word)) :
    Spaced ('_' :: pluralOf word) := by
  have happend : ∀ {xs ys : List Char}, Spaced ('_' :: xs) → '_' ∉ ys → Spaced ('_' :: xs ++ ys) :=
    fun hxs hys => spaced_append.2 ⟨hxs, spaced_of_notMem hys,
      fun _ _ _ hy heq => hys (heq.2 ▸ List.mem_of_mem_head? hy)⟩
  unfold pluralOf
  split
  · exact h
  · rename_i before heq
    have hword : word = before.reverse ++ ['y'] := by
      rw [← List.reverse_reverse word, heq, List.reverse_cons]
    split
    · rw [hword, ← List.cons_append] at h
      exact happend (spaced_append.1 h).1 (by decide)
    · exact happend h (by decide)
  · exact happend h (by decide)

/-! ## Names of tables -/

/-- The characters of the name of a table are the plural of those in snake case. -/
theorem toList_tableName (entity : String) :
    (tableName entity).toList = pluralOf (snake entity).toList := by
  rw [tableName, plural, String.toList_ofList]

/-- The name of a table does not start with an underscore, and it holds no two of them in a row. -/
theorem spaced_tableName (entity : String) : Spaced ('_' :: (tableName entity).toList) := by
  rw [toList_tableName]
  exact spaced_pluralOf (spaced_snake entity)

/-- The name of a table ends in `s`. -/
theorem getLast?_tableName (entity : String) : (tableName entity).toList.getLast? = some 's' := by
  rw [toList_tableName]
  exact getLast?_pluralOf _

/-- Two entities with one column name in join tables have one table name. -/
theorem tableName_eq_of_idColumn_eq {a b : String} (h : idColumn a = idColumn b) :
    tableName a = tableName b := by
  have hsnake : snake a = snake b := (String.append_left_inj "_id").1 h
  rw [tableName, hsnake, tableName]

/-- The name of a table does not end with an underscore. -/
theorem getLast?_tableName_ne (entity : String) :
    (tableName entity).toList.getLast? ≠ some '_' := by
  rw [getLast?_tableName]
  decide

/-! ## Names of join tables -/

/-- The characters of the name of a join table. -/
theorem toList_joined (a field : String) :
    (tableName a ++ "__" ++ field).toList = (tableName a).toList ++ '_' :: '_' :: field.toList := by
  simp [String.toList_append]

/-- The name of a join table tells its table and its field, whatever the field is called. -/
theorem joined_inj {a b f g : String} (h : tableName a ++ "__" ++ f = tableName b ++ "__" ++ g) :
    tableName a = tableName b ∧ f = g := by
  have hlists := congrArg String.toList h
  rw [toList_joined, toList_joined] at hlists
  obtain ⟨htable, hfield⟩ := append_pair_inj (spaced_tableName a).tail (getLast?_tableName_ne a)
    (spaced_tableName b).tail (getLast?_tableName_ne b) hlists
  exact ⟨String.toList_inj.1 htable, String.toList_inj.1 hfield⟩

/-- A spaced name is not the name of a join table. -/
theorem ne_joined_of_spaced {name : String} (h : Spaced name.toList) (a field : String) :
    name ≠ tableName a ++ "__" ++ field := by
  rintro rfl
  rw [toList_joined] at h
  exact not_spaced_of_pair _ _ h

/-! ## Names of indexes -/

/-- The characters of the name of an index, up to the underscore in front of its number. -/
theorem toList_numbered (a : String) (n : Nat) :
    ("idx_" ++ tableName a ++ "_nk_" ++ toString n).toList =
      "idx_".toList ++ (tableName a).toList ++ "_nk".toList ++ '_' :: Nat.toDigits 10 n := by
  simp [String.toList_append, Nat.toList_repr]

/-- Digits are no underscores. -/
theorem underscore_notMem_toDigits (n : Nat) : '_' ∉ Nat.toDigits 10 n := by
  intro h
  have hdigit := Nat.isDigit_of_mem_toDigits (by decide) (by decide) h
  exact absurd hdigit (by decide)

/-- The name of an index tells its table and its number. -/
theorem numbered_inj {a b : String} {m n : Nat}
    (h : "idx_" ++ tableName a ++ "_nk_" ++ toString m =
      "idx_" ++ tableName b ++ "_nk_" ++ toString n) : tableName a = tableName b ∧ m = n := by
  have hlists := congrArg String.toList h
  rw [toList_numbered, toList_numbered] at hlists
  obtain ⟨htable, hdigits⟩ := append_last_inj (underscore_notMem_toDigits m)
    (underscore_notMem_toDigits n) hlists
  rw [List.append_assoc, List.append_assoc, List.append_cancel_left_eq,
    List.append_cancel_right_eq] at htable
  refine ⟨String.toList_inj.1 htable, ?_⟩
  rw [← Nat.ofDigitChars_ten_toDigits (n := m), hdigits, Nat.ofDigitChars_ten_toDigits]

/-- The name of an index holds no two underscores in a row. -/
theorem spaced_numbered (a : String) (n : Nat) :
    Spaced ("idx_" ++ tableName a ++ "_nk_" ++ toString n).toList := by
  rw [toList_numbered]
  have hdigits : Spaced (Nat.toDigits 10 n) := spaced_of_notMem (underscore_notMem_toDigits n)
  have hnumber : Spaced ("_nk".toList ++ '_' :: Nat.toDigits 10 n) := by
    refine spaced_append.2 ⟨by decide, List.isChain_cons.2 ⟨fun d hd heq => ?_, hdigits⟩,
      fun x hx y _ heq => ?_⟩
    · exact underscore_notMem_toDigits n (heq.2 ▸ List.mem_of_mem_head? hd)
    · exact absurd (heq.1 ▸ hx) (by decide)
  have htable : Spaced ("idx_".toList ++ (tableName a).toList) :=
    spaced_append.2 ⟨by decide, (spaced_tableName a).tail, fun x hx y hy heq =>
      (List.isChain_cons.1 (spaced_tableName a)).1 y hy ⟨rfl, heq.2⟩⟩
  rw [List.append_assoc]
  refine spaced_append.2 ⟨htable, hnumber, fun x hx y hy heq => ?_⟩
  rw [List.getLast?_append, getLast?_tableName] at hx
  exact absurd heq.1 (by rw [← Option.some.inj hx]; decide)

/-- An index has no name of a table: its name ends in a digit. -/
theorem numbered_ne_tableName (a b : String) (n : Nat) :
    "idx_" ++ tableName a ++ "_nk_" ++ toString n ≠ tableName b := by
  intro h
  have hlast := getLast?_tableName b
  rw [← h, toList_numbered, List.getLast?_append] at hlast
  have hmem : 's' ∈ '_' :: Nat.toDigits 10 n := by
    refine List.mem_of_getLast? ?_
    simpa using hlast
  rcases List.mem_cons.1 hmem with hmem | hmem
  · exact absurd hmem (by decide)
  · exact absurd (Nat.isDigit_of_mem_toDigits (by decide) (by decide) hmem) (by decide)

end EntityModel.Naming
