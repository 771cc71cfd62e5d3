import EntityModel.Proofs.Relational.Passes
import EntityModel.Proofs.Relational.Turns

/-! # Forward keys and circles

A foreign key is marked as forward where its table is created before its turn, so this table is on a
circle of foreign keys. The key itself is on a circle, too, unless it leads away to other circles
(`liesOnCycle_iff_of_forward`). -/

namespace EntityModel

open Relation Relational

namespace Relational.Plan

/-- Foreign keys of the plan lead from the one table on to the other one, or it is the same one. -/
def Reaches (p : Plan) (a b : String) : Prop := ReflTransGen (Table.Leads p.tables) a b

/-- Foreign keys of the plan lead from the table through at least one other one back to it. -/
def OnCycle (p : Plan) (name : String) : Prop := Table.OnCycle p.tables name

/-- The foreign key of the table is on a circle: where it leads to, keys lead back to its table. -/
def LiesOnCycle (p : Plan) (t : Table) (key : ForeignKey) : Prop := p.Reaches key.references t.name

/-- The foreign key of the table leads on to circles, but none of these leads back to its table. -/
structure LeadsAway (p : Plan) (t : Table) (key : ForeignKey) : Prop where
  /-- The key leads to a circle. -/
  exists_circle : ∃ c, p.Reaches key.references c ∧ p.OnCycle c
  /-- No circle it leads to leads back. -/
  no_return : ∀ c, p.Reaches key.references c → p.OnCycle c → ¬p.Reaches c t.name

/-- A circle that leads to another one is led back to by it. -/
def CirclesApart (p : Plan) : Prop :=
  ∀ a c, p.OnCycle a → p.OnCycle c → p.Reaches a c → p.Reaches c a

/-- A key off the circles leads away as soon as it leads to a circle at all. -/
theorem leadsAway_of_not_liesOnCycle {p : Plan} {t : Table} {key : ForeignKey}
    (hcircle : ∃ c, p.Reaches key.references c ∧ p.OnCycle c) (h : ¬p.LiesOnCycle t key) :
    p.LeadsAway t key :=
  ⟨hcircle, fun _ hreach _ hback => h (hreach.trans hback)⟩

/-- A key on a circle does not lead away from it. -/
theorem not_leadsAway_of_liesOnCycle {p : Plan} {t : Table} {key : ForeignKey}
    (ht : p.OnCycle t.name) (h : p.LiesOnCycle t key) : ¬p.LeadsAway t key :=
  fun haway => haway.no_return t.name h ht .refl

/-- Where no circle leads to another one, no key of a table on a circle leads away. -/
theorem CirclesApart.not_leadsAway {p : Plan} (h : p.CirclesApart) {t : Table} {key : ForeignKey}
    (ht : p.OnCycle t.name) (hstep : Table.Leads p.tables t.name key.references) :
    ¬p.LeadsAway t key := by
  rintro ⟨⟨c, hreach, hc⟩, hnone⟩
  exact hnone c hreach hc (h t.name c ht hc (.head hstep hreach))

end Relational.Plan

namespace Schema

namespace Passes

variable {s : Schema} {p : Plan} (ps : Passes s p)

include ps

/-- A foreign key of a plan to another table is a step among its tables. -/
theorem leads_of_forward {t : Table} (ht : t ∈ p.tables) {key : ForeignKey}
    (hkey : key ∈ t.foreignKeys) (hforward : key.forward = true) :
    Table.Leads p.tables t.name key.references := by
  obtain ⟨before, after, horder⟩ := List.append_of_mem ht
  obtain ⟨hne, hafter⟩ := (Table.forward_iff_later ps.nodup_names_tables
    (ps.tables_eq_creationOrder.symm.trans horder) hkey).1 hforward
  refine ⟨t, ht, rfl, Table.mem_neighbours_iff.2 ⟨hne, key, hkey, rfl⟩, ?_⟩
  rw [horder, List.map_append, List.map_cons]
  exact List.mem_append_right _ (List.mem_cons_of_mem _ hafter)

/-- The table of a forward key is on a circle, and the key leads to a circle. -/
theorem circles_of_forward {t : Table} (ht : t ∈ p.tables) {key : ForeignKey}
    (hkey : key ∈ t.foreignKeys) (hforward : key.forward = true) :
    p.OnCycle t.name ∧ ∃ c, p.Reaches key.references c ∧ p.OnCycle c := by
  obtain ⟨before, after, horder⟩ := List.append_of_mem ht
  have hcreation := ps.tables_eq_creationOrder.symm.trans horder
  have hnodup := ps.nodup_names_tables
  have hafter := ((Table.forward_iff_later hnodup hcreation hkey).1 hforward).2
  obtain ⟨hstuck, hon⟩ := Table.stuck_of_forward hnodup hcreation hkey hforward
  have hle : Table.Leads (t :: after) ≤ Table.Leads p.tables := fun _ _ hleads =>
    hleads.mono fun u hu => horder ▸ List.mem_append_right before hu
  -- Among the tables that were left every one led on, so the key leads to a circle of these.
  have hleft := List.mem_cons_of_mem t.name hafter
  obtain ⟨c, hreach, hc⟩ := Table.exists_onCycle_of_stuck hstuck hleft
  exact ⟨TransGen.mono hle _ _ hon, c, ReflTransGen.mono hle _ _ hreach, TransGen.mono hle _ _ hc⟩

end Passes

/-- **A forward key is on a circle unless it leads away from the one of its table.** Its table is on
a circle in any case, and the key leads to a circle; but that may be another one, from which no key
leads back. Where no circle leads to another one, every forward key is on a circle. -/
theorem liesOnCycle_iff_of_forward {s : Schema} {p : Plan} (h : s.plan = .ok p) {t : Table}
    (ht : t ∈ p.tables) {key : ForeignKey} (hkey : key ∈ t.foreignKeys)
    (hforward : key.forward = true) :
    p.OnCycle t.name ∧ (p.LiesOnCycle t key ↔ ¬p.LeadsAway t key) ∧
      (p.CirclesApart → p.LiesOnCycle t key) := by
  obtain ⟨ps⟩ := plan_eq_ok_iff.1 h
  obtain ⟨hon, hcircle⟩ := ps.circles_of_forward ht hkey hforward
  have hiff : p.LiesOnCycle t key ↔ ¬p.LeadsAway t key := by
    refine ⟨Plan.not_leadsAway_of_liesOnCycle hon, fun haway => ?_⟩
    by_contra hnot
    exact haway (Plan.leadsAway_of_not_liesOnCycle hcircle hnot)
  refine ⟨hon, hiff, fun hapart => hiff.2 ?_⟩
  exact hapart.not_leadsAway hon (ps.leads_of_forward ht hkey hforward)

/-- A reference to one other entity. -/
def refersTo (field target : String) : String × Relationship :=
  (field, ⟨target, .zeroOrOne, .automatic⟩)

/-- An entity that refers to others, each under a field of its own. -/
def entityOf (relationships : List (String × Relationship)) : Entity where
  description := ""
  required := []
  properties := .ofList (("id", .primitive "string") ::
    relationships.map fun r => (r.1, .primitive "string"))
  relationships := .ofList relationships
  naturalKeys := []
  states := none
  invariants := []

/-- Apes and bats refer to each other, as do does and elks. Apes refer to cows, and cows to does. -/
def savanna : Schema where
  version := ""
  metadata := ⟨""⟩
  idSemantics := none
  enums := ∅
  definitions := ∅
  entities := .ofList [
    ("Ape", entityOf [refersTo "bat_id" "Bat", refersTo "cow_id" "Cow"]),
    ("Bat", entityOf [refersTo "ape_id" "Ape"]),
    ("Cow", entityOf [refersTo "doe_id" "Doe"]),
    ("Doe", entityOf [refersTo "elk_id" "Elk"]),
    ("Elk", entityOf [refersTo "doe_id" "Doe"])]

/-- The column of an identifier, and the columns of references. -/
def textColumns (fields : List String) : List Column :=
  ⟨"id", .text, true, true, none⟩ :: fields.map fun field => ⟨field, .text, false, false, none⟩

/-- The table of the apes, created before the bats and the cows. -/
def apes : Table := ⟨"apes", "Ape", textColumns ["bat_id", "cow_id"],
  [⟨"bat_id", "bats", true⟩, ⟨"cow_id", "cows", true⟩]⟩

/-- The plan of `savanna`. -/
def savannaPlan : Plan where
  tables := [
    apes,
    ⟨"bats", "Bat", textColumns ["ape_id"], [⟨"ape_id", "apes", false⟩]⟩,
    ⟨"does", "Doe", textColumns ["elk_id"], [⟨"elk_id", "elks", true⟩]⟩,
    ⟨"cows", "Cow", textColumns ["doe_id"], [⟨"doe_id", "does", false⟩]⟩,
    ⟨"elks", "Elk", textColumns ["doe_id"], [⟨"doe_id", "does", false⟩]⟩]
  joinTables := []
  indexes := []
  requiredJoins := []

/-- Planning `savanna` makes its plan. -/
theorem plan_savanna : savanna.plan = .ok savannaPlan := by decide +kernel

/-- From the cows, keys lead to does and elks only. -/
theorem not_liesOnCycle_savanna : ¬savannaPlan.LiesOnCycle apes ⟨"cow_id", "cows", true⟩ := by
  intro h
  have hclosed : ∀ t ∈ savannaPlan.tables, t.name ∈ ["cows", "does", "elks"] →
      ∀ b ∈ t.neighbours, b ∈ ["cows", "does", "elks"] := by decide
  suffices ∀ {b}, savannaPlan.Reaches "cows" b → b ∈ ["cows", "does", "elks"] from
    absurd (this h) (by decide)
  intro b hreach
  induction hreach with
  | refl => decide
  | tail _ hstep ih =>
    obtain ⟨t, ht, rfl, hb, -⟩ := hstep
    exact hclosed t ht ih _ hb

/-- In `savanna`, the forward key from the apes to the cows leads away from the circle of apes and
bats. -/
theorem liesOnCycle_iff_savanna : savanna.plan = .ok savannaPlan ∧ apes ∈ savannaPlan.tables ∧
    ⟨"cow_id", "cows", true⟩ ∈ apes.foreignKeys ∧ savannaPlan.OnCycle "apes" ∧
    savannaPlan.LeadsAway apes ⟨"cow_id", "cows", true⟩ := by
  have hmem : apes ∈ savannaPlan.tables := List.mem_cons_self
  have hkey : ⟨"cow_id", "cows", true⟩ ∈ apes.foreignKeys := by decide
  obtain ⟨hon, hiff, -⟩ := liesOnCycle_iff_of_forward plan_savanna hmem hkey rfl
  exact ⟨plan_savanna, hmem, hkey, hon, not_not.1 fun h => not_liesOnCycle_savanna (hiff.2 h)⟩

end Schema

end EntityModel
