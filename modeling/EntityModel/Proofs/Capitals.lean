import EntityModel.Proofs.Naming

/-! # Names with capitals

Names of tables and of the columns of join tables are in snake case, which has no capitals, whatever
an entity is called (`not_hasCapital_tableName`, `not_hasCapital_idColumn`). The name of a join
table ends in the name of a field as it stands, so it has the capitals of the field
(`hasCapital_joined_iff`). -/

namespace EntityModel.Naming

/-- The name has an ASCII letter in upper case. -/
def HasCapital (name : String) : Prop := name.toList.any Char.isUpper = true

/-- The characters of a name can be looked through for a capital. -/
instance (name : String) : Decidable (HasCapital name) := inferInstanceAs (Decidable (_ = true))

/-- A name has a capital if one of its characters is one. -/
theorem hasCapital_iff {name : String} :
    HasCapital name ↔ ∃ c ∈ name.toList, c.isUpper = true := List.any_eq_true

/-- Two names in a row have a capital if one of them has. -/
theorem hasCapital_append {a b : String} : HasCapital (a ++ b) ↔ HasCapital a ∨ HasCapital b := by
  rw [HasCapital, String.toList_append, List.any_append, Bool.or_eq_true, HasCapital, HasCapital]

/-! ## Lower case -/

/-- A name is written in lower case character by character. -/
theorem toList_toLower (name : String) : name.toLower.toList = name.toList.map Char.toLower :=
  String.toList_map

/-- A name in lower case has no capital. -/
theorem not_hasCapital_toLower (name : String) : ¬HasCapital name.toLower := by
  rw [hasCapital_iff]
  rintro ⟨c, hc, hupper⟩
  rw [toList_toLower] at hc
  obtain ⟨d, -, rfl⟩ := List.mem_map.1 hc
  rw [isUpper_toLower] at hupper
  exact absurd hupper Bool.false_ne_true

/-- Exactly the names without capitals are in lower case. -/
theorem toLower_eq_self_iff {name : String} : name.toLower = name ↔ ¬HasCapital name := by
  constructor
  · intro h
    exact h ▸ not_hasCapital_toLower name
  · intro h
    have hchars : ∀ c ∈ name.toList, c.toLower = c := fun c hc =>
      toLower_eq_self (Bool.eq_false_iff.2 fun hupper => h (hasCapital_iff.2 ⟨c, hc, hupper⟩))
    rw [← String.toList_inj, toList_toLower, List.map_congr_left hchars]
    exact List.map_id' _

/-! ## Snake case -/

/-- What snake case writes from anywhere on is no capital. -/
theorem isUpper_of_mem_snakeFrom {before last : Option Char} {cs : List Char} :
    ∀ c ∈ snakeFrom before last cs, c.isUpper = false := by
  have hunderscore : '_'.isUpper = false := by decide
  fun_induction snakeFrom before last cs with
  | case1 => exact fun c hc => absurd hc List.not_mem_nil
  -- A separator that is left out, and one that becomes an underscore.
  | case2 _ _ _ _ _ _ ih => exact ih
  | case3 _ _ _ _ _ _ ih => exact List.forall_mem_cons.2 ⟨hunderscore, ih⟩
  -- The start of a word, with an underscore in front, and any other character.
  | case4 _ _ c _ _ _ ih =>
    exact List.forall_mem_cons.2 ⟨hunderscore,
      List.forall_mem_cons.2 ⟨isUpper_toLower c, ih⟩⟩
  | case5 _ _ c _ _ _ ih => exact List.forall_mem_cons.2 ⟨isUpper_toLower c, ih⟩

/-- A name in snake case has no capital. -/
theorem not_hasCapital_snake (name : String) : ¬HasCapital (snake name) := by
  rw [hasCapital_iff]
  rintro ⟨c, hc, hupper⟩
  rw [snake, String.toList_ofList] at hc
  rw [isUpper_of_mem_snakeFrom c hc] at hupper
  exact absurd hupper Bool.false_ne_true

/-- The column of a join table that points at an entity has no capital. -/
theorem not_hasCapital_idColumn (entity : String) : ¬HasCapital (idColumn entity) := by
  rw [idColumn, hasCapital_append]
  exact not_or.2 ⟨not_hasCapital_snake entity, by decide⟩

/-! ## Names of tables -/

/-- A plural has only letters of its ending that its word does not have. -/
theorem mem_pluralOf {word : List Char} {c : Char} (h : c ∈ pluralOf word) :
    c ∈ word ∨ c = 'i' ∨ c = 'e' ∨ c = 's' := by
  unfold pluralOf at h
  split at h
  · exact .inl h
  · rename_i before heq
    have hword : word = before.reverse ++ ['y'] := by
      rw [← List.reverse_reverse word, heq, List.reverse_cons]
    split at h
    · rcases List.mem_append.1 h with hbefore | hending
      · exact .inl (hword ▸ List.mem_append_left _ hbefore)
      · exact .inr (by simpa using hending)
    · exact (List.mem_append.1 h).imp_right fun hending =>
        .inr (.inr (List.mem_singleton.1 hending))
  · exact (List.mem_append.1 h).imp_right fun hending => .inr (.inr (List.mem_singleton.1 hending))

/-- The name of a table has no capital. -/
theorem not_hasCapital_tableName (entity : String) : ¬HasCapital (tableName entity) := by
  rw [hasCapital_iff]
  rintro ⟨c, hc, hupper⟩
  rw [toList_tableName] at hc
  rcases mem_pluralOf hc with hword | rfl | rfl | rfl
  · exact not_hasCapital_snake entity (hasCapital_iff.2 ⟨c, hword, hupper⟩)
  · exact absurd hupper (by decide)
  · exact absurd hupper (by decide)
  · exact absurd hupper (by decide)

/-- The name of a join table has the capitals of its field. -/
theorem hasCapital_joined_iff {a field : String} :
    HasCapital (tableName a ++ "__" ++ field) ↔ HasCapital field := by
  rw [hasCapital_append, hasCapital_append]
  have hunderscores : ¬HasCapital "__" := by decide
  simp [not_hasCapital_tableName a, hunderscores]

end EntityModel.Naming
