import EntityModel.Proofs.Relational.Storage
import EntityModel.Proofs.Types.Following

/-! # Columns of tables

The table of an entity starts with its key, and the other columns follow in the order of their names
(`Table.IsKeyed`). A key needs the type of an identifier, and the fields that are stored elsewhere
leave no column. The two conditions look at a property in different ways: the type is read off the
name of a well-known definition, whereas a field is an array if the definition is one. So a
relationship can take the key away, but only where a well-known definition is an array
(`isKeyed_iff`). -/

namespace EntityModel

open Relational

namespace Relational

/-- The first column of the table is its key, an identifier that every row has. It is the only key,
and the other columns follow by ascending names. -/
def Table.IsKeyed (t : Table) : Prop :=
  ∃ key rest, t.columns = key :: rest ∧ key.name = "id" ∧ key.primaryKey = true ∧
    key.notNull = true ∧ (key.type = .uuid ∨ key.type = .text) ∧
    (∀ c ∈ rest, c.primaryKey = false) ∧ rest.Pairwise fun a b => a.name < b.name

/-! ## Types of columns -/

/-- Identifiers are universally unique ones or text. -/
theorem ColumnType.isIdentifier_iff {type : ColumnType} :
    type.isIdentifier = true ↔ type = .uuid ∨ type = .text := by
  cases type <;> simp [isIdentifier]

/-- Of the links with an array, those that leave the choice open are stored outside of the table. -/
theorem StorageDecision.keepsColumn_eq_false_iff {facts : RelationshipFacts} {d : StorageDecision}
    (h : d.Applies facts) :
    d.keepsColumn = false ↔ facts.isArray = true ∧ facts.storage = .automatic := by
  cases d <;> simp_all [keepsColumn, Applies, RelationshipFacts.isPairable]

end Relational

/-- Two of the well-known definitions are identifiers. -/
theorem WellKnown.isIdentifier_iff {name : String} {known : WellKnown}
    (h : WellKnown.ofDefinition? name = some known) :
    known.isIdentifier = true ↔ name = "id" ∨ name = "entity_id" := by
  unfold ofDefinition? at h
  split at h
  · cases h
    simp_all [isIdentifier]
  · split at h
    · cases h
      simp_all [isIdentifier]
    · split at h
      · cases h
        simp_all [isIdentifier]
      · cases h

namespace Vocabulary

variable {v : Vocabulary}

/-- An array has the column of an identifier only behind a definition that is well-known as one. -/
theorem exists_wellKnown_of_isArray {q : Property} {shape : ColumnShape}
    (hshape : v.columnShape q = .ok shape) (hid : shape.type.isIdentifier = true)
    (harray : v.isArray q = .ok true) :
    ∃ name, v.resolve q = .ok (.definition name) ∧ (name = "id" ∨ name = "entity_id") := by
  obtain ⟨type, htype, hcolumn⟩ := Outcome.bind_eq_ok_iff.1 hshape
  obtain ⟨type', htype', harray⟩ := Outcome.bind_eq_ok_iff.1 harray
  obtain rfl := Except.ok.inj (htype.symm.trans htype')
  obtain ⟨behind, hbehind, hisArray⟩ := Outcome.bind_eq_ok_iff.1 harray
  have hisArray : behind.isArray = true := Except.ok.inj hisArray
  -- Whatever the column of an array is made from directly, it holds a document.
  have hdocument : (v.directColumn behind).type = .json := by
    cases behind with
    | array items => rfl
    | primitive | enumeration | definition | object | any => cases hisArray
  have hshapeOf : shape ≠ v.directColumn behind := by
    rintro rfl
    rw [hdocument] at hid
    cases hid
  cases type with
  | definition name =>
    refine ⟨name, htype, ?_⟩
    rw [columnOfType] at hcolumn
    split at hcolumn
    · rename_i known hknown
      obtain rfl := Except.ok.inj hcolumn
      cases hidentifier : known.isIdentifier with
      | true => exact (WellKnown.isIdentifier_iff hknown).1 hidentifier
      | false => simp [hidentifier, ColumnType.isIdentifier] at hid
    · rw [hbehind] at hcolumn
      exact absurd (Except.ok.inj hcolumn).symm hshapeOf
  | primitive | enumeration | array | object | any =>
    rw [underlying_of_ne_definition (by simp)] at hbehind
    obtain rfl := Except.ok.inj hbehind
    exact absurd (Except.ok.inj hcolumn).symm hshapeOf

end Vocabulary

namespace Schema

/-! ## The columns of a table -/

section

variable {v : Vocabulary} {links : List StoredLink} {name : String} {entity : Entity} {t : Table}

/-- The type of the identifiers is the one of the property `id`, if identifiers may have it. -/
theorem idType_eq_ok_iff {type : ColumnType} : idType v name entity = .ok type ↔
    ∃ q shape, entity.properties.find? "id" = some q ∧ v.columnShape q = .ok shape ∧
      shape.type.isIdentifier = true ∧ shape.type = type := by
  unfold idType
  cases hq : entity.properties.find? "id" with
  | none => simp
  | some q =>
    cases hshape : v.columnShape q with
    | error e => simp [hshape]
    | ok shape => cases hid : shape.type.isIdentifier <;> simp [hshape, hid]

/-- The type of an identifier is one that its property has. -/
theorem idType_eq_ok {type : ColumnType} (h : idType v name entity = .ok type) :
    ∃ q shape, entity.properties.find? "id" = some q ∧ v.columnShape q = .ok shape ∧
      shape.type.isIdentifier = true := by
  obtain ⟨q, shape, hq, hshape, hid, -⟩ := idType_eq_ok_iff.1 h
  exact ⟨q, shape, hq, hshape, hid⟩

/-- The column of a property is a key if it is called `id`, and a key always has a value. -/
theorem column_eq_ok_iff {owner : String} {q : Property} {c : Column} :
    column v owner entity name q = .ok c ↔ ∃ shape, v.columnShape q = .ok shape ∧
      c = ⟨name, shape.type, decide (name = "id") || entity.isRequired name, decide (name = "id"),
        shape.allowed⟩ := by
  unfold column
  cases v.columnShape q with
  | error e => simp
  | ok shape => simp [eq_comm]

variable {fields : List (String × Property)} {columns : List Column}

/-- Of the columns of properties, exactly the one called `id` is a key. -/
theorem primaryKey_iff (h : fields.mapM (fun e => column v name entity e.1 e.2) = .ok columns)
    {c : Column} (hc : c ∈ columns) : c.primaryKey = true ↔ c.name = "id" := by
  obtain ⟨e, -, he⟩ := Outcome.exists_source h hc
  obtain ⟨shape, -, rfl⟩ := column_eq_ok_iff.1 he
  exact decide_eq_true_iff

/-- The columns of properties stand in the order of the properties. -/
theorem pairwise_columns (h : fields.mapM (fun e => column v name entity e.1 e.2) = .ok columns)
    (hfields : Entries.Ascending fields) : columns.Pairwise fun a b => a.name < b.name := by
  refine Outcome.pairwise_result h hfields fun e e' c c' hlt hc hc' => ?_
  rw [name_of_column_eq_ok hc, name_of_column_eq_ok hc']
  exact hlt

/-- The columns of a table are those of the properties that are kept, with the key in front. -/
theorem exists_columns (h : table v links name entity = .ok t) :
    ∃ columns, (entity.properties.entries.filter fun e => keepsField (linksOf links name) e.1).mapM
        (fun e => column v name entity e.1 e.2) = .ok columns ∧
      (columns.Pairwise fun a b => a.name < b.name) ∧
      t.columns = columns.filter (·.primaryKey) ++ columns.filter (!·.primaryKey) := by
  obtain ⟨columns, hcolumns, hrest⟩ := Outcome.bind_eq_ok_iff.1 h
  exact ⟨columns, hcolumns, pairwise_columns hcolumns (entity.properties.ascending.filter _),
    congrArg Table.columns (Except.ok.inj hrest).symm⟩

/-- The columns of a table are those of the properties that are kept. -/
theorem mem_columns_iff (h : table v links name entity = .ok t) {c : Column} :
    c ∈ t.columns ↔ ∃ q, entity.properties.find? c.name = some q ∧
      keepsField (linksOf links name) c.name = true ∧ column v name entity c.name q = .ok c := by
  obtain ⟨columns, hcolumns, -, ht⟩ := exists_columns h
  have hperm : (columns.filter (·.primaryKey) ++ columns.filter (!·.primaryKey)).Perm columns :=
    List.filter_append_perm _ _
  rw [ht, hperm.mem_iff]
  constructor
  · intro hc
    obtain ⟨⟨field, q⟩, he, hcolumn⟩ := Outcome.exists_source hcolumns hc
    obtain ⟨he, hkeeps⟩ := List.mem_filter.1 he
    obtain rfl : c.name = field := name_of_column_eq_ok hcolumn
    exact ⟨q, NameMap.find?_eq_some_iff.2 he, hkeeps, hcolumn⟩
  · rintro ⟨q, hq, hkeeps, hcolumn⟩
    obtain ⟨d, hd, hok⟩ := Outcome.exists_result hcolumns
      (List.mem_filter.2 ⟨NameMap.find?_eq_some_iff.1 hq, hkeeps⟩)
    obtain rfl := Except.ok.inj (hcolumn.symm.trans hok)
    exact hd

/-- A table that keeps its identifier has it as a key. -/
theorem isKeyed_of_keepsField (h : table v links name entity = .ok t) {type : ColumnType}
    (htype : idType v name entity = .ok type)
    (hkeeps : keepsField (linksOf links name) "id" = true) : t.IsKeyed := by
  obtain ⟨q, shape, hq, hshape, hid⟩ := idType_eq_ok htype
  obtain ⟨columns, hcolumns, hascending, ht⟩ := exists_columns h
  obtain ⟨key, hkey, heq⟩ := Outcome.exists_result hcolumns
    (List.mem_filter.2 ⟨NameMap.find?_eq_some_iff.1 hq, hkeeps⟩)
  obtain ⟨shape', hshape', rfl⟩ := column_eq_ok_iff.1 heq
  obtain rfl := Except.ok.inj (hshape.symm.trans hshape')
  have hnames : (columns.map (·.name)).Nodup := by
    refine List.pairwise_map.2 (hascending.imp fun {a b} hlt heq => ?_)
    rw [heq] at hlt
    exact String.lt_irrefl _ hlt
  -- Names are distinct, so the identifier is the only column that is a key.
  have hsingle := filter_eq_singleton_of_nodup hnames.of_map (q := (·.primaryKey)) hkey
    fun c hc => by
      rw [primaryKey_iff hcolumns hc]
      exact ⟨fun hname => List.inj_on_of_nodup_map hnames hc hkey hname, fun heq => heq ▸ rfl⟩
  refine ⟨_, columns.filter (!·.primaryKey), ht.trans (congrArg (· ++ _) hsingle), rfl, rfl, rfl,
    ColumnType.isIdentifier_iff.1 hid, fun c hc => ?_, hascending.filter _⟩
  simpa using (List.mem_filter.1 hc).2

/-- A table that does not keep its identifier has no key. -/
theorem columns_of_not_keepsField (h : table v links name entity = .ok t)
    (hdrops : keepsField (linksOf links name) "id" = false) :
    (∀ c ∈ t.columns, c.primaryKey = false ∧ c.name ≠ "id") ∧
      t.columns.Pairwise fun a b => a.name < b.name := by
  obtain ⟨columns, hcolumns, hascending, ht⟩ := exists_columns h
  have hkey : ∀ c ∈ columns, c.primaryKey = false ∧ c.name ≠ "id" := by
    intro c hc
    have hname : c.name ≠ "id" := by
      obtain ⟨e, he, hcolumn⟩ := Outcome.exists_source hcolumns hc
      intro heq
      rw [List.mem_filter, ← name_of_column_eq_ok hcolumn, heq, hdrops] at he
      exact absurd he.2 Bool.false_ne_true
    exact ⟨Bool.eq_false_iff.2 fun hprimary => hname ((primaryKey_iff hcolumns hc).1 hprimary),
      hname⟩
  have hnone : columns.filter (·.primaryKey) = [] :=
    List.filter_eq_nil_iff.2 fun c hc => by simp [(hkey c hc).1]
  have hall : columns.filter (!·.primaryKey) = columns :=
    List.filter_eq_self.2 fun c hc => by simp [(hkey c hc).1]
  -- Keys come first in a table; there are none, and the other columns are in order.
  rw [hnone, hall, List.nil_append] at ht
  rw [ht]
  exact ⟨hkey, hascending⟩

end

/-! ## Fields that are stored elsewhere -/

/-- The field is an array and holds a relationship that leaves open how it is stored. -/
def DropsField (s : Schema) (owner field : String) : Prop :=
  s.HasShape owner field true ∧ ∃ r, s.Declares owner field r ∧ r.storage = .automatic

/-- A table does not keep a field if a relationship takes it away. -/
theorem keepsField_eq_false_iff_dropsField {s : Schema} {links : List StoredLink}
    (h : s.storedLinks = .ok links) {owner field : String} :
    keepsField (linksOf links owner) field = false ↔ s.DropsField owner field := by
  rw [keepsField_eq_false_iff]
  constructor
  · rintro ⟨l, hl, rfl, hdrops⟩
    obtain ⟨hmem, rfl⟩ := mem_linksOf.1 hl
    obtain ⟨hr, hshape, -⟩ := of_mem_storedLinks h hmem
    obtain ⟨harray, hstorage⟩ :=
      (StorageDecision.keepsColumn_eq_false_iff (applies_of_mem h hmem)).1 hdrops
    have harray : l.isArray = true := harray
    exact ⟨harray ▸ hshape, _, hr, hstorage⟩
  · rintro ⟨hshape, r, hr, hstorage⟩
    obtain ⟨l, hl, hlink⟩ := exists_storedLink_of_shape h hr hshape
    refine ⟨l, mem_linksOf.2 ⟨hl, congrArg Link.owner hlink⟩, congrArg Link.field hlink, ?_⟩
    rw [StorageDecision.keepsColumn_eq_false_iff (applies_of_mem h hl)]
    exact ⟨congrArg Link.isArray hlink, (congrArg (·.relationship.storage) hlink).trans hstorage⟩

/-- A table keeps a field if no relationship takes it away. -/
theorem keepsField_iff_not_dropsField {s : Schema} {links : List StoredLink}
    (h : s.storedLinks = .ok links) {owner field : String} :
    keepsField (linksOf links owner) field = true ↔ ¬s.DropsField owner field := by
  rw [← keepsField_eq_false_iff_dropsField h, Bool.not_eq_false]

/-- The columns of a table in the plan are those of the properties of its entity that no
relationship takes away. -/
theorem Passes.mem_columns_iff {s : Schema} {p : Plan} (ps : Passes s p) {t : Table}
    (ht : t ∈ p.tables) {c : Column} : c ∈ t.columns ↔
      ∃ entity q shape, s.entities.find? t.entity = some entity ∧
        entity.properties.find? c.name = some q ∧ ¬s.DropsField t.entity c.name ∧
        s.vocabulary.columnShape q = .ok shape ∧
        c = ⟨c.name, shape.type, decide (c.name = "id") || entity.isRequired c.name,
          decide (c.name = "id"), shape.allowed⟩ := by
  obtain ⟨entity, hentity, htable⟩ := ps.exists_entity_of_mem ht
  -- The marks of the foreign keys do not matter for the columns.
  rw [show t.columns = t.unmarked.columns from rfl, Schema.mem_columns_iff htable]
  simp only [column_eq_ok_iff, keepsField_iff_not_dropsField ps.links_eq]
  constructor
  · rintro ⟨q, hq, hkept, shape, hshape, hc⟩
    exact ⟨entity, q, shape, hentity, hq, hkept, hshape, hc⟩
  · rintro ⟨entity', q, shape, hentity', hq, hkept, hshape, hc⟩
    obtain rfl := Option.some.inj (hentity.symm.trans hentity')
    exact ⟨q, hq, hkept, shape, hshape, hc⟩

/-! ## Types of fields -/

/-- The property of the entity has a column of the type. -/
def HasType (s : Schema) (owner field : String) (type : ColumnType) : Prop :=
  ∃ entity q shape, s.entities.find? owner = some entity ∧ entity.properties.find? field = some q ∧
    s.vocabulary.columnShape q = .ok shape ∧ shape.type = type

/-- A property has one type of column at most. -/
theorem HasType.unique {s : Schema} {owner field : String} {a b : ColumnType}
    (h : s.HasType owner field a) (h' : s.HasType owner field b) : a = b := by
  obtain ⟨entity, q, shape, hentity, hq, hshape, rfl⟩ := h
  obtain ⟨entity', q', shape', hentity', hq', hshape', rfl⟩ := h'
  obtain rfl := Option.some.inj (hentity.symm.trans hentity')
  obtain rfl := Option.some.inj (hq.symm.trans hq')
  rw [Except.ok.inj (hshape.symm.trans hshape')]

/-! ## Identifiers that are relationships -/

/-- The identifier of the entity is an array and holds a relationship that leaves open how it is
stored. -/
def DropsId (s : Schema) (owner : String) : Prop := s.DropsField owner "id"

/-- The identifier of the entity refers to a definition that is well-known as an identifier. -/
def RefersToIdentifier (s : Schema) (owner : String) : Prop :=
  ∃ entity q name, s.entities.find? owner = some entity ∧ entity.properties.find? "id" = some q ∧
    s.vocabulary.resolve q = .ok (.definition name) ∧ (name = "id" ∨ name = "entity_id")

/-- Where the identifiers have types, every entity has an identifier. -/
theorem exists_idType {v : Vocabulary} {owners : List (String × String)}
    {entries : List (String × Entity)} {types : List (String × ColumnType)}
    (h : idTypesFrom v owners entries = .ok types) {e : String × Entity} (he : e ∈ entries) :
    ∃ type, idType v e.1 e.2 = .ok type := by
  induction entries generalizing owners types with
  | nil => exact absurd he List.not_mem_nil
  | cons first rest ih =>
    obtain ⟨-, type, others, htype, hrest, -⟩ := idTypesFrom_cons_eq_ok_iff.1 h
    rcases List.mem_cons.1 he with rfl | he
    · exact ⟨type, htype⟩
    · exact ih hrest he

namespace Passes

variable {s : Schema} {p : Plan} (ps : Passes s p) {t : Table}

include ps

/-- A relationship takes away only an identifier behind a definition that is well-known as one. -/
theorem refersToIdentifier {owner : String} (h : s.DropsId owner) : s.RefersToIdentifier owner := by
  obtain ⟨⟨entity, q, hentity, hq, harray⟩, -⟩ := h
  obtain ⟨type, htype⟩ := exists_idType ps.idTypes_eq (NameMap.find?_eq_some_iff.1 hentity)
  obtain ⟨q', shape, hq', hshape, hid⟩ := idType_eq_ok htype
  obtain rfl := Option.some.inj (hq.symm.trans hq')
  obtain ⟨name, hresolve, hname⟩ := Vocabulary.exists_wellKnown_of_isArray hshape hid harray
  exact ⟨entity, q, name, hentity, hq, hresolve, hname⟩

end Passes

/-- **A table starts with its key, and the other columns follow by name**, unless the identifier is
an array that holds a relationship for another place. That can only be where it refers to a
well-known definition, whose name counts for the type of the column, but not for the question
whether the field is an array. The table has no key then. -/
theorem isKeyed_iff {s : Schema} {p : Plan} (h : s.plan = .ok p) {t : Table} (ht : t ∈ p.tables) :
    (t.IsKeyed ↔ ¬s.DropsId t.entity) ∧
      (s.DropsId t.entity → s.RefersToIdentifier t.entity ∧
        (∀ c ∈ t.columns, c.primaryKey = false ∧ c.name ≠ "id") ∧
          t.columns.Pairwise fun a b => a.name < b.name) := by
  obtain ⟨ps⟩ := plan_eq_ok_iff.1 h
  obtain ⟨entity, hentity, htable⟩ := ps.exists_entity_of_mem ht
  obtain ⟨type, htype⟩ := exists_idType ps.idTypes_eq (NameMap.find?_eq_some_iff.1 hentity)
  -- The marks of the foreign keys do not matter for the columns.
  have hdropped : s.DropsId t.entity → (∀ c ∈ t.columns, c.primaryKey = false ∧ c.name ≠ "id") ∧
      t.columns.Pairwise fun a b => a.name < b.name := fun hdrops =>
    columns_of_not_keepsField (t := t.unmarked) htable
      ((keepsField_eq_false_iff_dropsField ps.links_eq).2 hdrops)
  refine ⟨⟨?_, fun hkept => ?_⟩, fun hdrops => ⟨ps.refersToIdentifier hdrops, hdropped hdrops⟩⟩
  · rintro ⟨key, rest, hcolumns, hname, -⟩ hdrops
    exact ((hdropped hdrops).1 key (hcolumns ▸ List.mem_cons_self)).2 hname
  · exact isKeyed_of_keepsField (t := t.unmarked) htable htype
      ((keepsField_iff_not_dropsField ps.links_eq).2 hkept)

/-- Persons whose identifiers are lists of names, and lead to other persons. -/
def namesake : Schema where
  version := ""
  metadata := ⟨""⟩
  idSemantics := none
  enums := ∅
  definitions := .ofList [("id", .arrayOf (.primitive "string"))]
  entities := .ofList [("Person", {
    description := ""
    required := []
    properties := .ofList [("id", .refer "#/definitions/id")]
    relationships := .ofList [("id", ⟨"Person", .zeroOrMany, .automatic⟩)]
    naturalKeys := []
    states := none
    invariants := [] })]

/-- The table of `namesake`, which has no column. -/
def namesakeTable : Table := ⟨"persons", "Person", [], []⟩

/-- The plan of `namesake`. -/
def namesakePlan : Plan where
  tables := [namesakeTable]
  joinTables := [⟨"persons__id", ⟨"person_id", .uuid, "persons"⟩, ⟨"id_id", .uuid, "persons"⟩⟩]
  indexes := []
  requiredJoins := []

/-- Planning `namesake` makes its plan. -/
theorem plan_namesake : namesake.plan = .ok namesakePlan := by decide +kernel

/-- The table of persons has no key: their relationship has taken it away. -/
theorem isKeyed_iff_namesake : namesake.plan = .ok namesakePlan ∧
    namesakeTable ∈ namesakePlan.tables ∧ namesake.DropsId "Person" ∧ ¬namesakeTable.IsKeyed := by
  have hmem : namesakeTable ∈ namesakePlan.tables := List.mem_singleton_self _
  have hdrops : namesake.DropsId "Person" :=
    ⟨⟨_, _, rfl, rfl, by decide +kernel⟩, _, ⟨_, rfl, rfl⟩, rfl⟩
  exact ⟨plan_namesake, hmem, hdrops,
    fun hkeyed => (isKeyed_iff plan_namesake hmem).1.1 hkeyed hdrops⟩

end Schema

end EntityModel
