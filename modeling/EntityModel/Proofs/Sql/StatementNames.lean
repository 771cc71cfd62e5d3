import EntityModel.Proofs.Sql.Dialects
import EntityModel.Proofs.Sql.Script

/-! # Names in the texts of statements

What a statement creates and needs, and which foreign keys it makes, is told of the statement and
not of its text. The text says the same: each table and each function stands in it behind the words
that create it (`startsWith_text_of_mem_creates`) or use it (`exists_use_of_mem_needs`), and each
foreign key as a clause (`holds_text_of_mem_references`). -/

namespace EntityModel

open Relational

namespace Sql

variable {st : Statement} {table column references : String} {key : ForeignKey}

/-! ## Parts of texts -/

/-- The part stands at the start of the text. -/
def StartsWith (text part : String) : Prop := ∃ after, text = part ++ after

/-- The part stands somewhere in the text. -/
def Holds (text part : String) : Prop := ∃ before after, text = before ++ part ++ after

section

variable {a b c part : String}

/-- What stands at the start of a text stands in it. -/
theorem StartsWith.holds (h : StartsWith a part) : Holds a part := by
  obtain ⟨after, rfl⟩ := h
  exact ⟨"", after, by rw [String.empty_append]⟩

/-- A text holds itself. -/
theorem Holds.refl (a : String) : Holds a a := ⟨"", "", by simp⟩

/-- What a text holds stands in it behind any other text, too. -/
theorem Holds.behind (h : Holds b part) (a : String) : Holds (a ++ b) part := by
  obtain ⟨before, after, rfl⟩ := h
  exact ⟨a ++ before, after, by simp only [String.append_assoc]⟩

/-- What a text holds stands in it in front of any other text, too. -/
theorem Holds.before (h : Holds a part) (b : String) : Holds (a ++ b) part := by
  obtain ⟨before, after, rfl⟩ := h
  exact ⟨before, after ++ b, by simp only [String.append_assoc]⟩

/-- What a part of a text holds, the text holds. -/
theorem Holds.trans (h : Holds a b) (hpart : Holds b part) : Holds a part := by
  obtain ⟨before, after, rfl⟩ := h
  exact (hpart.behind before).before after

/-- A definition stands on its line of the body. -/
theorem holds_bodyText {item : String} {body : List String} (h : item ∈ body) :
    Holds (bodyText body) item := by
  induction body with
  | nil => exact absurd h List.not_mem_nil
  | cons first rest ih =>
    cases rest with
    | nil =>
      rw [List.mem_singleton.1 h]
      exact ((Holds.refl first).behind "    ").before "\n"
    | cons next rest =>
      rcases List.mem_cons.1 h with rfl | h
      · exact (((Holds.refl item).behind "    ").before ",\n").before _
      · exact (ih h).behind _

/-- A definition stands in the statement that creates its table. -/
theorem holds_createTableText {item : String} {body : List String} (h : item ∈ body)
    (name : String) : Holds (createTableText name body) item :=
  ((holds_bodyText h).behind _).before ")"

end

/-! ## What is created -/

/-- The words that create the object. -/
def Object.creation : Object → String
  | .table name => "CREATE TABLE IF NOT EXISTS " ++ name ++ " (\n"
  | .function f => "CREATE OR REPLACE FUNCTION " ++ f.name ++ "() "

/-- The statement that creates a table starts with the words that create it. -/
theorem startsWith_createTableText (name : String) (body : List String) :
    StartsWith (createTableText name body) (Object.table name).creation := by
  refine ⟨bodyText body ++ ")", ?_⟩
  unfold createTableText Object.creation
  simp only [String.append_assoc]

/-- The text of a statement starts with the words that create what the statement creates. -/
theorem startsWith_text_of_mem_creates (d : Dialect) {o : Object} (h : o ∈ st.creates) :
    StartsWith (st.text d) o.creation := by
  cases st with
  | createTable name columns foreignKeys =>
    obtain rfl := List.mem_singleton.1 h
    exact startsWith_createTableText name _
  | createJoinTable join =>
    obtain rfl := List.mem_singleton.1 h
    exact startsWith_createTableText join.name _
  | createFunction f =>
    obtain rfl := List.mem_singleton.1 h
    have hwords : "() RETURNS trigger\nLANGUAGE plpgsql AS $$\n" =
        "() " ++ "RETURNS trigger\nLANGUAGE plpgsql AS $$\n" := by simp
    refine ⟨"RETURNS trigger\nLANGUAGE plpgsql AS $$\n" ++ (f.body ++ "$$"), ?_⟩
    unfold Statement.text Object.creation
    simp only [hwords, String.append_assoc]
  | addForeignKey | createIndex | dropTrigger | createTrigger => exact absurd h List.not_mem_nil

/-! ## Foreign keys -/

/-- The keys in the statement of a table are clauses of it. -/
theorem holds_text_of_mem_inlineKeys (d : Dialect) (h : (table, key) ∈ st.inlineKeys) :
    StartsWith (st.text d) (Object.table table).creation ∧
      Holds (st.text d) (referenceText key.column key.references) := by
  cases st with
  | createTable name columns foreignKeys =>
    obtain ⟨key, hkey, ⟨⟩⟩ := List.mem_map.1 h
    refine ⟨startsWith_createTableText _ _, holds_createTableText (List.mem_append_right _ ?_) _⟩
    exact List.mem_map.2 ⟨key, hkey, rfl⟩
  | _ => exact absurd h List.not_mem_nil

/-- The words that add a constraint to a table. -/
def alteration (table : String) : String := "ALTER TABLE " ++ table ++ " ADD CONSTRAINT fk_"

/-- A key that is added to a table is a clause behind the name of the table. -/
theorem holds_text_of_mem_addedKeys (d : Dialect) (h : (table, key) ∈ st.addedKeys) :
    Holds (st.text d) (alteration table ++ table ++ "_" ++ key.column ++ " " ++
      referenceText key.column key.references) := by
  cases st with
  | addForeignKey name key' =>
    obtain ⟨⟩ := List.mem_singleton.1 h
    have hwords : "DO $$\nBEGIN\n    ALTER TABLE " = "DO $$\nBEGIN\n    " ++ "ALTER TABLE " := by
      simp
    refine ⟨"DO $$\nBEGIN\n    ", ";\nEXCEPTION\n    WHEN duplicate_object THEN NULL;\nEND\n$$", ?_⟩
    unfold Statement.text alteration
    simp only [hwords, String.append_assoc]
  | _ => exact absurd h List.not_mem_nil

/-- A statement that adds a key to a table alters the table, and the key is a clause of it. -/
theorem holds_alteration_of_mem_addedKeys (d : Dialect) (h : (table, key) ∈ st.addedKeys) :
    Holds (st.text d) (alteration table) ∧
      Holds (st.text d) (referenceText key.column key.references) := by
  have hadded := holds_text_of_mem_addedKeys d h
  refine ⟨hadded.trans ?_, hadded.trans ((Holds.refl _).behind _)⟩
  exact (((((Holds.refl _).before _).before _).before _).before _).before _

/-- A foreign key that a statement makes is a clause of its text, which creates or alters the table
of the key. -/
theorem holds_text_of_mem_references (d : Dialect)
    (h : (table, column, references) ∈ st.references) :
    (StartsWith (st.text d) (Object.table table).creation ∨ Holds (st.text d) (alteration table)) ∧
      Holds (st.text d) (referenceText column references) := by
  cases st with
  | createTable name columns foreignKeys =>
    obtain ⟨key, hkey, ⟨⟩⟩ := List.mem_map.1 h
    have hinline : (table, key) ∈ (Statement.createTable table columns foreignKeys).inlineKeys :=
      List.mem_map.2 ⟨key, hkey, rfl⟩
    exact (holds_text_of_mem_inlineKeys d hinline).imp_left .inl
  | createJoinTable join =>
    obtain ⟨c, hc, ⟨⟩⟩ := List.mem_map.1 h
    refine ⟨.inl (startsWith_createTableText _ _), ?_⟩
    have hclause : referenceText c.name c.references ++ " ON DELETE CASCADE" ∈
        joinTableBody d join := by
      rcases List.mem_pair.1 hc with rfl | rfl <;> simp [joinTableBody]
    exact (holds_createTableText hclause join.name).trans ((Holds.refl _).before _)
  | addForeignKey name key =>
    obtain ⟨⟩ := List.mem_singleton.1 h
    have hadded : (table, key) ∈ (Statement.addForeignKey table key).addedKeys :=
      List.mem_singleton_self _
    exact (holds_alteration_of_mem_addedKeys d hadded).imp_left .inr
  | _ => exact absurd h List.not_mem_nil

/-! ## What is needed -/

/-- The words that use the object, with what ends its name. -/
def Object.uses : Object → List String
  | .table name => [") REFERENCES " ++ name ++ "(", "ALTER TABLE " ++ name ++ " ",
      " ON " ++ name ++ " (", " ON " ++ name ++ "\n", " ON " ++ name ++ ";"]
  | .function f => [" EXECUTE FUNCTION " ++ f.name ++ "("]

/-- A clause uses the table that it refers to. -/
theorem holds_referenceText (column references : String) :
    Holds (referenceText column references) (") REFERENCES " ++ references ++ "(") := by
  have hwords : "(id)" = "(" ++ "id)" := by simp
  refine ⟨"FOREIGN KEY (" ++ column, "id)", ?_⟩
  unfold referenceText
  simp only [hwords, String.append_assoc]

/-- A table that a key of the statement refers to is used in the text. -/
theorem exists_use_of_mem_references (d : Dialect)
    (h : (table, column, references) ∈ st.references) :
    ∃ use ∈ (Object.table references).uses, Holds (st.text d ++ ";") use :=
  ⟨_, List.mem_cons_self,
    ((holds_text_of_mem_references d h).2.trans (holds_referenceText _ _)).before ";"⟩

/-- A table is used where the words add a constraint to it. -/
theorem holds_alteration (table : String) :
    Holds (alteration table) ("ALTER TABLE " ++ table ++ " ") := by
  have hwords : " ADD CONSTRAINT fk_" = " " ++ "ADD CONSTRAINT fk_" := by simp
  refine ⟨"", "ADD CONSTRAINT fk_", ?_⟩
  unfold alteration
  simp only [hwords, String.append_assoc, String.empty_append]

/-- What a statement needs is used in its text, up to the semicolon that ends it. -/
theorem exists_use_of_mem_needs (d : Dialect) {o : Object} (h : o ∈ st.needs) :
    ∃ use ∈ o.uses, Holds (st.text d ++ ";") use := by
  cases st with
  | createTable name columns foreignKeys =>
    obtain ⟨key, hkey, rfl⟩ := List.mem_map.1 h
    have hmem : (name, key.column, key.references) ∈
        (Statement.createTable name columns foreignKeys).references :=
      List.mem_map.2 ⟨key, hkey, rfl⟩
    exact exists_use_of_mem_references d hmem
  | addForeignKey table key =>
    rcases List.mem_pair.1 h with rfl | rfl
    · have hmem : (table, key) ∈ (Statement.addForeignKey table key).addedKeys :=
        List.mem_singleton_self _
      have haltered := (holds_alteration_of_mem_addedKeys d hmem).1
      exact ⟨"ALTER TABLE " ++ table ++ " ", by simp [Object.uses],
        (haltered.trans (holds_alteration table)).before ";"⟩
    · have hmem : (table, key.column, key.references) ∈
          (Statement.addForeignKey table key).references := List.mem_singleton_self _
      exact exists_use_of_mem_references d hmem
  | createJoinTable join =>
    have hmem : ∀ c ∈ [join.owner, join.target], (join.name, c.name, c.references) ∈
        (Statement.createJoinTable join).references := fun c hc => List.mem_map.2 ⟨c, hc, rfl⟩
    rcases List.mem_pair.1 h with rfl | rfl
    · exact exists_use_of_mem_references d (hmem _ List.mem_cons_self)
    · exact exists_use_of_mem_references d (hmem _ (List.mem_cons_of_mem _ List.mem_cons_self))
  | createIndex index =>
    obtain rfl := List.mem_singleton.1 h
    refine ⟨" ON " ++ index.table ++ " (", by simp [Object.uses],
      "CREATE UNIQUE INDEX IF NOT EXISTS " ++ index.name, commaList index.columns ++ ");", ?_⟩
    have hend : ");" = ")" ++ ";" := by simp
    unfold Statement.text
    simp only [hend, String.append_assoc]
  | createFunction f => exact absurd h List.not_mem_nil
  | dropTrigger f join =>
    obtain rfl := List.mem_singleton.1 h
    refine ⟨" ON " ++ triggerTable f join ++ ";", by simp [Object.uses],
      "DROP TRIGGER IF EXISTS " ++ triggerName f join, "", ?_⟩
    unfold Statement.text
    simp only [String.append_assoc, String.append_empty]
  | createTrigger f join =>
    -- The text is taken apart in front of the table and behind the function.
    have hwords : "\n    DEFERRABLE INITIALLY DEFERRED\n    FOR EACH ROW EXECUTE FUNCTION " =
        "\n" ++
          ("    DEFERRABLE INITIALLY DEFERRED\n    FOR EACH ROW" ++ " EXECUTE FUNCTION ") := by
      simp
    have harguments : "('" = "(" ++ "'" := by simp
    rcases List.mem_pair.1 h with rfl | rfl
    · refine ⟨" ON " ++ triggerTable f join ++ "\n", by simp [Object.uses],
        "CREATE CONSTRAINT TRIGGER " ++ triggerName f join ++ "\n    AFTER " ++ triggerEvents f,
        "    DEFERRABLE INITIALLY DEFERRED\n    FOR EACH ROW" ++ " EXECUTE FUNCTION " ++ f.name ++
          "('" ++ triggerArgument f join ++ "', '" ++ join.column ++ "')" ++ ";", ?_⟩
      unfold Statement.text
      simp only [hwords, String.append_assoc]
    · refine ⟨" EXECUTE FUNCTION " ++ f.name ++ "(", List.mem_singleton_self _,
        "CREATE CONSTRAINT TRIGGER " ++ triggerName f join ++ "\n    AFTER " ++ triggerEvents f ++
          " ON " ++ triggerTable f join ++
          ("\n" ++ "    DEFERRABLE INITIALLY DEFERRED\n    FOR EACH ROW"),
        "'" ++ triggerArgument f join ++ "', '" ++ join.column ++ "')" ++ ";", ?_⟩
      unfold Statement.text
      simp only [hwords, harguments, String.append_assoc]

end Sql

end EntityModel
