import EntityModel.Proofs.Sql.Lexemes
import EntityModel.Proofs.Sql.Script

/-! # Names that need no quotes

Scripts write all names as they are. A name of ASCII letters, digits and underscores is read back as
it stands: it has no blanks and no character that starts another lexeme. The statements of a plan
with such names have no others (`HasNames.of_mem_statements`). -/

namespace EntityModel

open Relational Text

namespace Sql

open Lexeme

/-- Whether the character is an ASCII letter, a digit or an underscore. -/
def isNameChar (c : Char) : Bool := c.isAlphanum || c = '_'

/-- The text is a name that needs no quotes. -/
def IsName (name : String) : Prop := name ≠ "" ∧ name.toList.all isNameChar = true

/-- It can be decided whether a name needs no quotes. -/
instance (name : String) : Decidable (IsName name) := inferInstanceAs (Decidable (_ ∧ _))

/-- The characters of names are plain. -/
theorem isPlain_of_isNameChar {c : Char} (h : isNameChar c = true) : isPlain c = true := by
  have hne : ∀ d : Char, isNameChar d = false → c ≠ d := by
    rintro d hd rfl
    exact absurd (hd ▸ h) Bool.false_ne_true
  simp [isPlain, hne, isNameChar]

/-- The characters of names are no blanks. -/
theorem isBlank_of_isNameChar {c : Char} (h : isNameChar c = true) : isBlank c = false := by
  rcases Bool.or_eq_true _ _ ▸ h with h | h
  · refine Bool.eq_false_iff.2 fun hblank => ?_
    obtain ⟨r, hr, hlow, hhigh⟩ := CharClass.exists_range_of_covers hblank
    change (decide ('A'.val ≤ c.val ∧ c.val ≤ 'Z'.val) ||
      ('a'.val ≤ c.val && c.val ≤ 'z'.val) || ('0'.val ≤ c.val && c.val ≤ '9'.val)) = true at h
    simp only [Bool.or_eq_true, Bool.and_eq_true, decide_eq_true_eq, UInt32.le_iff_toNat_le] at h
    change ((65 ≤ c.toNat ∧ c.toNat ≤ 90) ∨ (97 ≤ c.toNat ∧ c.toNat ≤ 122)) ∨
      (48 ≤ c.toNat ∧ c.toNat ≤ 57) at h
    simp only [whiteSpace, List.mem_cons, List.not_mem_nil, or_false] at hr
    rcases hr with rfl | rfl | rfl | rfl | rfl | rfl | rfl | rfl | rfl | rfl <;> omega
  · obtain rfl := of_decide_eq_true h
    decide

namespace IsName

variable {name : String} (h : IsName name)

include h

/-- All characters of a name are plain. -/
theorem all_isPlain : name.toList.all isPlain = true :=
  List.all_eq_true.2 fun c hc => isPlain_of_isNameChar (List.all_eq_true.1 h.2 c hc)

/-- A character that is not plain does not occur. -/
theorem notMem {c : Char} (hc : isPlain c = false) : c ∉ name.toList := fun hmem =>
  absurd (List.all_eq_true.1 h.all_isPlain c hmem) (by simp [hc])

/-- A name does not end with a blank. -/
theorem isBlank_getLast : ∀ c ∈ name.toList.getLast?, isBlank c = false :=
  fun c hc => isBlank_of_isNameChar (List.all_eq_true.1 h.2 c (List.mem_of_getLast? hc))

/-- A name has a character. -/
theorem toList_ne_nil : name.toList ≠ [] := fun hnil => h.1 (String.toList_eq_nil_iff.1 hnil)

/-- A name has no quotes that would be written twice. -/
theorem literal_eq : literal name = "'" ++ name ++ "'" := by
  have hchars : name.toList.flatMap (fun c => if c = '\'' then ['\'', '\''] else [c]) =
      name.toList := by
    have hsingle : ∀ c ∈ name.toList, (if c = '\'' then ['\'', '\''] else [c]) = [c] := by
      rintro c hc
      refine if_neg ?_
      rintro rfl
      exact h.notMem (by decide) hc
    rw [List.flatMap_congr hsingle, List.flatMap_singleton']
  rw [← String.toList_inj, literal, String.toList_ofList, literalChars, hchars]
  simp

end IsName

/-! ## Names in plans and statements -/

/-- All names in the statement are names that need no quotes. -/
def Statement.HasNames : Statement → Prop
  | .createTable name columns foreignKeys =>
    IsName name ∧ (∀ c ∈ columns, IsName c.name) ∧
      ∀ key ∈ foreignKeys, IsName key.column ∧ IsName key.references
  | .addForeignKey table key => IsName table ∧ IsName key.column ∧ IsName key.references
  | .createJoinTable join =>
    IsName join.name ∧ ∀ c ∈ [join.owner, join.target], IsName c.name ∧ IsName c.references
  | .createIndex index =>
    IsName index.name ∧ IsName index.table ∧ ∀ column ∈ index.columns, IsName column
  | .createFunction _ => True
  | .dropTrigger _ join | .createTrigger _ join =>
    IsName join.joinTable ∧ IsName join.column ∧ IsName join.parentTable

/-- All names in the plan are names that need no quotes. -/
structure HasNames (p : Plan) : Prop where
  /-- The names of tables, columns and foreign keys. -/
  tables : ∀ t ∈ p.tables, IsName t.name ∧ (∀ c ∈ t.columns, IsName c.name) ∧
    ∀ key ∈ t.foreignKeys, IsName key.column ∧ IsName key.references
  /-- The names of join tables and their columns. -/
  joinTables : ∀ j ∈ p.joinTables,
    IsName j.name ∧ ∀ c ∈ [j.owner, j.target], IsName c.name ∧ IsName c.references
  /-- The names of indexes. -/
  indexes : ∀ i ∈ p.indexes,
    IsName i.name ∧ IsName i.table ∧ ∀ column ∈ i.columns, IsName column
  /-- The names in required joins. -/
  requiredJoins : ∀ r ∈ p.requiredJoins,
    IsName r.joinTable ∧ IsName r.column ∧ IsName r.parentTable

/-- The statements of a plan with plain names have plain names. -/
theorem HasNames.of_mem_statements {p : Plan} (h : HasNames p) (d : Dialect) :
    ∀ st ∈ statements d p, st.HasNames := by
  have hrequired : ∀ st ∈ triggerStatements p.requiredJoins, st.HasNames := by
    intro st hst
    unfold triggerStatements at hst
    split at hst
    · exact absurd hst List.not_mem_nil
    · rcases List.mem_append.1 hst with hst | hst
      · simp only [List.mem_cons, List.not_mem_nil, or_false] at hst
        rcases hst with rfl | rfl <;> trivial
      · obtain ⟨r, hr, hst⟩ := List.mem_flatMap.1 hst
        simp only [requiredJoinStatements, List.mem_cons, List.not_mem_nil, or_false] at hst
        rcases hst with rfl | rfl | rfl | rfl <;> exact h.requiredJoins r hr
  intro st hst
  simp only [statements, List.mem_append] at hst
  -- The statements of tables, forward keys, join tables, indexes and triggers.
  rcases hst with (((hst | hst) | hst) | hst) | hst
  · obtain ⟨t, ht, rfl⟩ := List.mem_map.1 hst
    obtain ⟨hname, hcolumns, hkeys⟩ := h.tables t ht
    exact ⟨hname, hcolumns, fun key hkey => hkeys key (List.mem_filter.1 hkey).1⟩
  · split at hst
    · obtain ⟨t, ht, hst⟩ := List.mem_flatMap.1 hst
      obtain ⟨key, hkey, rfl⟩ := List.mem_map.1 hst
      obtain ⟨hname, -, hkeys⟩ := h.tables t ht
      exact ⟨hname, hkeys key (List.mem_filter.1 hkey).1⟩
    · exact absurd hst List.not_mem_nil
  · obtain ⟨j, hj, rfl⟩ := List.mem_map.1 hst
    exact h.joinTables j hj
  · obtain ⟨i, hi, rfl⟩ := List.mem_map.1 hst
    exact h.indexes i hi
  · split at hst
    · exact hrequired st hst
    · exact absurd hst List.not_mem_nil

end Sql

end EntityModel
