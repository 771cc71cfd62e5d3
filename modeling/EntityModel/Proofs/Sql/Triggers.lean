import EntityModel.Proofs.Sql.Script

/-! # Triggers of a script

A required join has two triggers, and the script removes each of them before it creates it, so that
the script can be run again. The triggers of a table have different names. But only the first 63
bytes of a name are read, and names start with the name of the table: a statement that removes one
trigger can remove another one, which was created before. A trigger stays exactly if no later one
clashes with it (`trigger_kept_iff`), as is the case where all names are short enough. Up to their
length, names are compared as they are written. -/

namespace EntityModel

open Relational

namespace Sql

/-! ## Names that are cut -/

/-- The bytes of a name. -/
def bytes (name : String) : List UInt8 := name.toByteArray.data.toList

/-- Two texts in a row have their bytes in a row. -/
theorem bytes_append (a b : String) : bytes (a ++ b) = bytes a ++ bytes b := by
  rw [bytes, String.toByteArray_append, ByteArray.toList_data_append, bytes, bytes]

/-- A text has as many bytes as its encoding. -/
theorem length_bytes (name : String) : (bytes name).length = name.utf8ByteSize := by
  rw [bytes, Array.length_toList, ByteArray.size_data, String.size_toByteArray]

/-- Texts are told apart by their bytes. -/
theorem bytes_inj {a b : String} : bytes a = bytes b ↔ a = b := by
  rw [bytes, bytes, Array.toList_inj, ← ByteArray.ext_iff, String.toByteArray_inj]

/-- What is read of a name: its first 63 bytes. -/
def cutName (name : String) : List UInt8 := (bytes name).take 63

/-- Names with the same start are told by the bytes that are left behind it. -/
theorem cutName_append_eq_iff {a b c : String} : cutName (a ++ b) = cutName (a ++ c) ↔
    (bytes b).take (63 - a.utf8ByteSize) = (bytes c).take (63 - a.utf8ByteSize) := by
  rw [cutName, cutName, bytes_append, bytes_append, List.take_append, List.take_append,
    List.append_cancel_left_eq, length_bytes]

/-- Short names are read as a whole. -/
theorem cutName_inj {a b : String} (ha : a.utf8ByteSize ≤ 63) (hb : b.utf8ByteSize ≤ 63)
    (h : cutName a = cutName b) : a = b := by
  rw [← length_bytes] at ha hb
  rw [cutName, cutName, List.take_of_length_le ha, List.take_of_length_le hb] at h
  exact bytes_inj.1 h

/-! ## Triggers one after another -/

/-- A trigger of a required join. -/
structure Trigger where
  /-- The function that it calls. -/
  function : TriggerFunction
  /-- The required join that it enforces. -/
  join : RequiredJoin
  deriving DecidableEq, Repr

namespace Trigger

/-- The table that the trigger is on. -/
def table (t : Trigger) : String := triggerTable t.function t.join

/-- The name of the trigger. -/
def name (t : Trigger) : String := triggerName t.function t.join

/-- What follows the table in the name of the trigger. -/
def suffix (t : Trigger) : String :=
  match t.function with
  | .parent => t.join.joinTable ++ "_" ++ t.join.column ++ "_required"
  | .link => t.join.column ++ "_guard"

/-- The name of a trigger starts with the one of its table. -/
theorem name_eq (t : Trigger) : t.name = t.table ++ "_" ++ t.suffix := by
  obtain ⟨f, q⟩ := t
  cases f <;>
    simp [name, table, suffix, triggerName, triggerTable, RequiredJoin.parentTrigger,
      RequiredJoin.guardTrigger, String.append_assoc]

/-- The triggers are on one table, and the same is read of their names. -/
def Clashes (t u : Trigger) : Prop := t.table = u.table ∧ cutName t.name = cutName u.name

/-- It can be decided whether two triggers clash. -/
instance (t u : Trigger) : Decidable (t.Clashes u) := inferInstanceAs (Decidable (_ ∧ _))

/-- Triggers of one table clash if the bytes behind the table that are read are the same. -/
theorem clashes_iff {t u : Trigger} : t.Clashes u ↔ t.table = u.table ∧
    (bytes t.suffix).take (62 - t.table.utf8ByteSize) =
      (bytes u.suffix).take (62 - t.table.utf8ByteSize) := by
  refine and_congr_right fun htable => ?_
  have hsize : 63 - (u.table ++ "_").utf8ByteSize = 62 - u.table.utf8ByteSize := by
    rw [String.utf8ByteSize_append, Nat.add_comm, ← Nat.sub_sub]
    rfl
  rw [t.name_eq, u.name_eq, htable, cutName_append_eq_iff, hsize]

/-- Removes the trigger by its name and creates it. -/
def replaceIn (t : Trigger) (present : List Trigger) : List Trigger :=
  present.filter (fun u => ¬u.Clashes t) ++ [t]

/-- A trigger that is put in place of others leaves those that it does not clash with. -/
theorem mem_replaceIn {t u : Trigger} {present : List Trigger} :
    u ∈ t.replaceIn present ↔ u ∈ present ∧ ¬u.Clashes t ∨ u = t := by
  simp [replaceIn]

/-- A trigger stays where others are replaced, unless it clashes with one of them. -/
theorem mem_foldl_replaceIn {t : Trigger} {after present : List Trigger} (h : t ∉ after) :
    t ∈ after.foldl (fun acc u => u.replaceIn acc) present ↔
      t ∈ present ∧ ∀ u ∈ after, ¬t.Clashes u := by
  -- Each step may remove `t`; it does not come back, because it is not among the others.
  induction after generalizing present with
  | nil => simp
  | cons u after ih =>
    rw [List.mem_cons, not_or] at h
    obtain ⟨hne, hafter⟩ := h
    rw [List.foldl_cons, ih hafter, mem_replaceIn, or_iff_left hne, List.forall_mem_cons, and_assoc]

end Trigger

namespace Statement

/-- The trigger that the statement creates. -/
def trigger? : Statement → Option Trigger
  | .createTrigger f join => some ⟨f, join⟩
  | .createTable .. | .addForeignKey .. | .createJoinTable _ | .createIndex _ | .createFunction _
  | .dropTrigger .. => none

/-- The triggers after the statement is run where some are present. -/
def apply (present : List Trigger) : Statement → List Trigger
  | .dropTrigger f join => present.filter fun t => ¬t.Clashes ⟨f, join⟩
  | .createTrigger f join => present ++ [⟨f, join⟩]
  | .createTable .. | .addForeignKey .. | .createJoinTable _ | .createIndex _
  | .createFunction _ => present

/-- The statement is not about triggers. -/
def LeavesTriggers (st : Statement) : Prop :=
  st.trigger? = none ∧ ∀ present, st.apply present = present

end Statement

/-- The triggers that statements create, in their order. -/
def createdTriggers (sts : List Statement) : List Trigger := sts.filterMap Statement.trigger?

/-- The triggers after statements are run where some are present. -/
def triggersAfter (present : List Trigger) (sts : List Statement) : List Trigger :=
  sts.foldl Statement.apply present

/-- Statements that leave triggers alone create none. -/
theorem createdTriggers_of_leaves {sts : List Statement} (h : ∀ st ∈ sts, st.LeavesTriggers) :
    createdTriggers sts = [] :=
  List.filterMap_eq_nil_iff.2 fun st hst => (h st hst).1

/-- Statements that leave triggers alone keep those that are there. -/
theorem triggersAfter_of_leaves {sts : List Statement} (h : ∀ st ∈ sts, st.LeavesTriggers)
    (present : List Trigger) : triggersAfter present sts = present := by
  induction sts with
  | nil => rfl
  | cons st sts ih =>
    obtain ⟨hst, hsts⟩ := List.forall_mem_cons.1 h
    rw [triggersAfter, List.foldl_cons, hst.2]
    exact ih hsts

/-- The script ends with the statements of the required joins, and no other one is about
triggers. -/
theorem exists_append_requiredJoins (p : Plan) : ∃ others : List Statement,
    (∀ st ∈ others, st.LeavesTriggers) ∧
      statements .postgres p = others ++ p.requiredJoins.flatMap requiredJoinStatements := by
  have hfunctions : ∃ functions : List Statement, (∀ st ∈ functions, st.LeavesTriggers) ∧
      triggerStatements p.requiredJoins =
        functions ++ p.requiredJoins.flatMap requiredJoinStatements := by
    unfold triggerStatements
    split
    · -- Without required joins, the functions are left out, too.
      rename_i hempty
      rw [List.isEmpty_iff.1 hempty]
      exact ⟨[], by simp, rfl⟩
    · exact ⟨_, by simp [Statement.LeavesTriggers, Statement.trigger?, Statement.apply], rfl⟩
  obtain ⟨functions, hleaves, hfunctions⟩ := hfunctions
  have hmap : ∀ {α : Type} {f : α → Statement} (xs : List α), (∀ x, (f x).LeavesTriggers) →
      ∀ st ∈ xs.map f, st.LeavesTriggers := by
    intro α f xs hf st hst
    obtain ⟨x, -, rfl⟩ := List.mem_map.1 hst
    exact hf x
  refine ⟨p.tables.map (tableStatement .postgres) ++ (p.tables.flatMap forwardStatements ++
    (p.joinTables.map .createJoinTable ++ (p.indexes.map .createIndex ++ functions))), ?_, ?_⟩
  · intro st hst
    simp only [List.mem_append] at hst
    rcases hst with htable | hforward | hjoin | hindex | hfunction
    · exact hmap p.tables (fun _ => ⟨rfl, fun _ => rfl⟩) st htable
    · obtain ⟨t, -, hforward⟩ := List.mem_flatMap.1 hforward
      exact hmap _ (fun _ => ⟨rfl, fun _ => rfl⟩) st hforward
    · exact hmap p.joinTables (fun _ => ⟨rfl, fun _ => rfl⟩) st hjoin
    · exact hmap p.indexes (fun _ => ⟨rfl, fun _ => rfl⟩) st hindex
    · exact hleaves st hfunction
  · simp only [statements_postgres, hfunctions, List.append_assoc]

/-- The triggers of a required join. -/
def triggersOf (q : RequiredJoin) : List Trigger := [⟨.parent, q⟩, ⟨.link, q⟩]

/-- The script of a plan creates the triggers of its required joins. -/
theorem createdTriggers_statements (p : Plan) :
    createdTriggers (statements .postgres p) = p.requiredJoins.flatMap triggersOf := by
  obtain ⟨others, hleaves, hstatements⟩ := exists_append_requiredJoins p
  rw [hstatements, createdTriggers, List.filterMap_append, ← createdTriggers,
    createdTriggers_of_leaves hleaves, List.nil_append, List.filterMap_flatMap]
  rfl

/-- A trigger is created exactly if its join is required. -/
theorem mem_createdTriggers {p : Plan} {t : Trigger} :
    t ∈ createdTriggers (statements .postgres p) ↔ t.join ∈ p.requiredJoins := by
  obtain ⟨f, q⟩ := t
  cases f <;> simp [createdTriggers_statements, triggersOf]

/-- The script replaces the triggers of the required joins one after another. -/
theorem triggersAfter_statements (p : Plan) (present : List Trigger) :
    triggersAfter present (statements .postgres p) =
      (createdTriggers (statements .postgres p)).foldl (fun acc t => t.replaceIn acc) present := by
  obtain ⟨others, hleaves, hstatements⟩ := exists_append_requiredJoins p
  have hothers : others.foldl Statement.apply present = present :=
    triggersAfter_of_leaves hleaves present
  rw [createdTriggers_statements, hstatements, triggersAfter, List.foldl_append, hothers,
    List.foldl_flatMap, List.foldl_flatMap]
  rfl

end Sql

/-! ## The triggers of a plan -/

namespace Schema.Passes

open Sql

variable {s : Schema} {p : Plan} (ps : Passes s p) {q : RequiredJoin} {t u : Trigger}

include ps

/-- No table of an entity is a join table. -/
theorem parentTable_ne_joinTable {r : RequiredJoin} (hq : q ∈ p.requiredJoins)
    (hr : r ∈ p.requiredJoins) : q.parentTable ≠ r.joinTable := by
  obtain ⟨owner, -, hparent, -⟩ := ps.exists_owner_of_requiredJoin hq
  obtain ⟨j, hj, hname⟩ := ps.exists_joinTable_of_requiredJoin hr
  rw [hparent, ← hname]
  exact ps.name_ne_of_joinTable hj (Naming.spaced_tableName owner).tail

/-- The triggers of a table call the same function. -/
theorem function_eq_of_table_eq (ht : t.join ∈ p.requiredJoins) (hu : u.join ∈ p.requiredJoins)
    (h : t.table = u.table) : t.function = u.function := by
  obtain ⟨f, q⟩ := t
  obtain ⟨g, r⟩ := u
  cases f with
  | parent =>
    cases g with
    | parent => rfl
    | link => exact absurd h (ps.parentTable_ne_joinTable ht hu)
  | link =>
    cases g with
    | parent => exact absurd h.symm (ps.parentTable_ne_joinTable hu ht)
    | link => rfl

/-- The triggers of a table have different names. -/
theorem eq_of_name_eq (ht : t.join ∈ p.requiredJoins) (hu : u.join ∈ p.requiredJoins)
    (htable : t.table = u.table) (hname : t.name = u.name) : t = u := by
  have hfunction := ps.function_eq_of_table_eq ht hu htable
  rw [t.name_eq, u.name_eq, htable] at hname
  have hsuffix : t.suffix = u.suffix := (String.append_right_inj _).1 hname
  obtain ⟨f, join, column, parent⟩ := t
  obtain ⟨g, join', column', parent'⟩ := u
  obtain rfl : f = g := hfunction
  obtain ⟨a, ha, hparent, hcolumn⟩ := ps.exists_owner_of_requiredJoin ht
  obtain ⟨b, hb, hparent', hcolumn'⟩ := ps.exists_owner_of_requiredJoin hu
  dsimp only at hparent hcolumn hparent' hcolumn'
  subst hparent hcolumn hparent' hcolumn'
  cases f with
  | parent =>
    -- The tables are those of the entities, so that the columns are the same, too.
    obtain rfl : a = b := tableName_inj ps.idTypes_eq ha hb htable
    have hjoin : join ++ "_" ++ Naming.idColumn a = join' ++ "_" ++ Naming.idColumn a :=
      (String.append_left_inj _).1 hsuffix
    rw [String.append_left_inj, String.append_left_inj] at hjoin
    rw [hjoin]
  | link =>
    -- The names tell the columns, and these tell the tables of the entities.
    have hcolumn : Naming.idColumn a = Naming.idColumn b := (String.append_left_inj _).1 hsuffix
    obtain rfl : join = join' := htable
    rw [hcolumn, Naming.tableName_eq_of_idColumn_eq hcolumn]

/-- No trigger is created twice. -/
theorem nodup_createdTriggers : (createdTriggers (statements .postgres p)).Nodup := by
  rw [createdTriggers_statements, List.nodup_flatMap]
  refine ⟨fun q _ => by simp [triggersOf], ps.nodup_requiredJoins.imp fun {q r} hne => ?_⟩
  have hjoin : ∀ {q t}, t ∈ triggersOf q → t.join = q := by
    intro q t ht
    rcases List.mem_pair.1 ht with rfl | rfl
    · rfl
    · rfl
  intro t ht ht'
  exact hne ((hjoin ht).symm.trans (hjoin ht'))

/-- A trigger of the script stays exactly if no later one clashes with it. -/
theorem mem_triggersAfter_iff {before after present : List Trigger}
    (hsplit : createdTriggers (statements .postgres p) = before ++ t :: after) :
    t ∈ triggersAfter present (statements .postgres p) ↔ ∀ u ∈ after, ¬t.Clashes u := by
  have hnodup := ps.nodup_createdTriggers
  rw [hsplit, List.nodup_append, List.nodup_cons] at hnodup
  obtain ⟨-, ⟨hafter, -⟩, -⟩ := hnodup
  rw [triggersAfter_statements, hsplit, List.foldl_append, List.foldl_cons,
    Trigger.mem_foldl_replaceIn hafter, Trigger.mem_replaceIn]
  exact and_iff_right (.inr rfl)

/-- No two triggers of a table have the same name. -/
theorem pairwise_names : (createdTriggers (statements .postgres p)).Pairwise fun t u =>
    t.table = u.table → t.name ≠ u.name :=
  ps.nodup_createdTriggers.imp_of_mem fun ht hu hne htable hname =>
    hne (ps.eq_of_name_eq (mem_createdTriggers.1 ht) (mem_createdTriggers.1 hu) htable hname)

/-- All triggers stay where the names are read as a whole. -/
theorem createdTriggers_subset {present : List Trigger}
    (hshort : ∀ t ∈ createdTriggers (statements .postgres p), t.name.utf8ByteSize ≤ 63) :
    createdTriggers (statements .postgres p) ⊆ triggersAfter present (statements .postgres p) := by
  intro t ht
  obtain ⟨before, after, hsplit⟩ := List.append_of_mem ht
  have hnames := ps.pairwise_names
  rw [hsplit, List.pairwise_append, List.pairwise_cons] at hnames
  obtain ⟨-, ⟨hafter, -⟩, -⟩ := hnames
  refine (ps.mem_triggersAfter_iff hsplit).2 fun u hu hclash => ?_
  have hmem : u ∈ createdTriggers (statements .postgres p) :=
    hsplit ▸ List.mem_append_right _ (List.mem_cons_of_mem _ hu)
  exact hafter u hu hclash.1 (cutName_inj (hshort t ht) (hshort u hmem) hclash.2)

end Schema.Passes

namespace Sql

/-- **A trigger of the script stays exactly if no later one clashes with it.** The names of the
triggers on a table are different, and no trigger is lost if they are short enough; but what is read
of them may be the same, if it ends before the names differ. -/
theorem trigger_kept_iff {s : Schema} {p : Plan} (h : s.plan = .ok p) (present : List Trigger) :
    ((createdTriggers (statements .postgres p)).Pairwise fun t u =>
      t.table = u.table → t.name ≠ u.name) ∧
    (∀ before t after, createdTriggers (statements .postgres p) = before ++ t :: after →
      (t ∈ triggersAfter present (statements .postgres p) ↔ ∀ u ∈ after, ¬t.Clashes u)) ∧
    (∀ t ∈ createdTriggers (statements .postgres p),
      ∀ u ∈ createdTriggers (statements .postgres p), t.Clashes u ↔
        t.function = u.function ∧ t.table = u.table ∧
          (bytes t.suffix).take (62 - t.table.utf8ByteSize) =
            (bytes u.suffix).take (62 - t.table.utf8ByteSize)) ∧
    ((∀ t ∈ createdTriggers (statements .postgres p), t.name.utf8ByteSize ≤ 63) →
      createdTriggers (statements .postgres p) ⊆
        triggersAfter present (statements .postgres p)) := by
  obtain ⟨ps⟩ := Schema.plan_eq_ok_iff.1 h
  refine ⟨ps.pairwise_names, fun _ _ _ => ps.mem_triggersAfter_iff, fun t ht u hu => ?_,
    ps.createdTriggers_subset⟩
  rw [Trigger.clashes_iff]
  refine ⟨fun hclash => ⟨?_, hclash⟩, And.right⟩
  exact ps.function_eq_of_table_eq (mem_createdTriggers.1 ht) (mem_createdTriggers.1 hu) hclash.1

/-- Units with cages and racks, which both lead to other units. -/
def laboratory : Schema where
  version := ""
  metadata := ⟨""⟩
  idSemantics := none
  enums := ∅
  definitions := ∅
  entities := .ofList [("LaboratoryAnimalHousingUnit", {
    description := ""
    required := ["cage_ids", "rack_ids"]
    properties := .ofList
      [("id", .primitive "string"), ("cage_ids", .arrayOf (.primitive "string")),
        ("rack_ids", .arrayOf (.primitive "string"))]
    relationships := .ofList
      [("cage_ids", ⟨"LaboratoryAnimalHousingUnit", .oneOrMany, .automatic⟩),
        ("rack_ids", ⟨"LaboratoryAnimalHousingUnit", .oneOrMany, .automatic⟩)]
    naturalKeys := []
    states := none
    invariants := [] })]

/-- The required join of a field of `laboratory`. -/
def laboratoryJoin (field : String) : RequiredJoin :=
  ⟨"laboratory_animal_housing_units__" ++ field, "laboratory_animal_housing_unit_id",
    "laboratory_animal_housing_units"⟩

/-- The plan of `laboratory`. -/
def laboratoryPlan : Plan where
  tables :=
    [⟨"laboratory_animal_housing_units", "LaboratoryAnimalHousingUnit",
      [⟨"id", .text, true, true, none⟩], []⟩]
  joinTables :=
    [⟨"laboratory_animal_housing_units__cage_ids",
        ⟨"laboratory_animal_housing_unit_id", .text, "laboratory_animal_housing_units"⟩,
        ⟨"cage_ids_id", .text, "laboratory_animal_housing_units"⟩⟩,
      ⟨"laboratory_animal_housing_units__rack_ids",
        ⟨"laboratory_animal_housing_unit_id", .text, "laboratory_animal_housing_units"⟩,
        ⟨"rack_ids_id", .text, "laboratory_animal_housing_units"⟩⟩]
  indexes := []
  requiredJoins := [laboratoryJoin "cage_ids", laboratoryJoin "rack_ids"]

/-- Planning `laboratory` makes its plan. -/
theorem plan_laboratory : laboratory.plan = .ok laboratoryPlan := by decide +kernel

/-- The trigger that checks the racks takes the place of the one that checks the cages: the names
of both fill 63 bytes with the table alone. -/
theorem trigger_kept_iff_laboratory : laboratory.plan = .ok laboratoryPlan ∧
    ⟨.parent, laboratoryJoin "cage_ids"⟩ ∈ createdTriggers (statements .postgres laboratoryPlan) ∧
    ⟨.parent, laboratoryJoin "cage_ids"⟩ ∉
      triggersAfter [] (statements .postgres laboratoryPlan) := by
  have hsplit : createdTriggers (statements .postgres laboratoryPlan) =
      [] ++ ⟨.parent, laboratoryJoin "cage_ids"⟩ :: [⟨.link, laboratoryJoin "cage_ids"⟩,
        ⟨.parent, laboratoryJoin "rack_ids"⟩, ⟨.link, laboratoryJoin "rack_ids"⟩] :=
    createdTriggers_statements laboratoryPlan
  have hclash : Trigger.Clashes ⟨.parent, laboratoryJoin "cage_ids"⟩
      ⟨.parent, laboratoryJoin "rack_ids"⟩ := by decide +kernel
  obtain ⟨-, hkept, -⟩ := trigger_kept_iff plan_laboratory []
  refine ⟨plan_laboratory, hsplit ▸ List.mem_cons_self, fun hmem => ?_⟩
  exact (hkept _ _ _ hsplit).1 hmem _ (by simp) hclash

end Sql

end EntityModel
