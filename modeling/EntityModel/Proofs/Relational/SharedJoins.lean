import EntityModel.Proofs.Relational.RequiredJoins

/-! # Shared join tables

Two entities may each declare an array of the other. Where these are the only ones that could share
a join table they do, and both declarations lead to the same one: it has the smaller of the two
names that they give it, and belongs to the entity that gave this name (`JoinTable.IsNamedBy`). So
the join tables of a plan do not depend on the order of the declarations
(`joinTables_eq_of_perm`). -/

namespace EntityModel

open Relational

/-- The join table has the name that the first link gives it, which is smaller than the one of the
second. Its owning column leads to the entity of the first link, and its other column to the entity
of the second. -/
structure Relational.JoinTable.IsNamedBy (j : JoinTable) (first second : StoredLink) : Prop where
  smaller : Schema.joinName first.owner first.field < Schema.joinName second.owner second.field
  name : j.name = Schema.joinName first.owner first.field
  owner : j.owner.references = Naming.tableName first.owner
  target : j.target.references = Naming.tableName second.owner

namespace Schema

namespace Passes

variable {s : Schema} {p : Plan} (ps : Passes s p) {l other : StoredLink}

include ps

/-! ## The halves of a pair -/

/-- The join table of a pair is named by one half or by the other. -/
theorem isNamedBy_joinTable (hl : l ∈ ps.links) (hother : other ∈ ps.links)
    (hhalf : l.IsHalfOf other) :
    (joinTable ps.idTypes ps.links l).IsNamedBy l other ∨
      (joinTable ps.idTypes ps.links l).IsNamedBy other l := by
  rw [ps.joinTable_of_half hother hhalf]
  split
  · rename_i hlt
    exact .inr ⟨hlt, rfl, rfl, congrArg Naming.tableName hhalf.target_eq⟩
  · rename_i hnlt
    have hlt := ps.joinName_lt_of_half hl hother hhalf hnlt
    exact .inl ⟨hlt, rfl, rfl, congrArg Naming.tableName hhalf.owner_eq.symm⟩

/-- A pair has two names, one of each half. -/
theorem givesName_iff_of_half (hother : other ∈ ps.links) (hhalf : l.IsHalfOf other)
    {name : String} : l.GivesName ps.links name ↔
      name = joinName l.owner l.field ∨ name = joinName other.owner other.field := by
  refine or_congr_right ⟨?_, fun hname => ⟨other, hother, hhalf, hname⟩⟩
  rintro ⟨m, hm, hhalf', hname⟩
  rwa [half_unique ps.links_eq hother hm hhalf hhalf']

/-- Of the join tables of a plan, exactly one has a name of the pair. -/
theorem filter_name_eq_singleton (hl : l ∈ ps.links) (hother : other ∈ ps.links)
    (hhalf : l.IsHalfOf other) :
    (p.joinTables.filter fun j => j.name = joinName l.owner l.field ∨
      j.name = joinName other.owner other.field) = [joinTable ps.idTypes ps.links l] := by
  have hjoined : l ∈ joinedLinks ps.links := mem_joinedLinks.2 ⟨hl, by rw [hhalf.1]; rfl⟩
  rw [← ps.filter_standsFor_eq_singleton hjoined]
  refine List.filter_congr fun j _ => ?_
  rw [Bool.eq_iff_iff, decide_eq_true_iff, ps.standsFor_eq_true_iff hl,
    ps.givesName_iff_of_half hother hhalf]

/-! ## The order of the declarations -/

variable {order : List StoredLink}

/-- A link has its join table in whatever order the others stand. -/
theorem joinTable_eq_of_perm (hperm : order.Perm ps.links) (hl : l ∈ ps.links) :
    joinTable ps.idTypes order l = joinTable ps.idTypes ps.links l := by
  unfold joinTable
  cases hd : l.decision with
  | sharedJoinTable =>
    obtain ⟨other, hother, hhalf⟩ := exists_half ps.links_eq hl hd
    simp only [reverseJoinName?_eq ps.links_eq hperm hother hhalf,
      reverseJoinName?_eq ps.links_eq (.refl _) hother hhalf]
  | foreignKey | json | derived | joinTable | selfJoinTable => rfl

/-- The join tables of a plan do not depend on the order of the declarations. -/
theorem joinTables_eq_of_perm (hperm : order.Perm ps.links) :
    joinTables ps.idTypes order = p.joinTables := by
  have hjoined : (joinedLinks order).Perm (joinedLinks ps.links) := hperm.filter _
  have hnamed : (joinedLinks order).map (fun l =>
      ((joinTable ps.idTypes order l).name, joinTable ps.idTypes order l)) =
      (joinedLinks order).map fun l =>
        ((joinTable ps.idTypes ps.links l).name, joinTable ps.idTypes ps.links l) := by
    refine List.map_congr_left fun l hl => ?_
    rw [ps.joinTable_eq_of_perm hperm (mem_joinedLinks.1 (hjoined.mem_iff.1 hl)).1]
  have hreverse := (List.reverse_perm _).trans ((hjoined.map fun l =>
    ((joinTable ps.idTypes ps.links l).name, joinTable ps.idTypes ps.links l)).trans
      (List.reverse_perm _).symm)
  rw [ps.joinTables_eq, joinTables, joinTables, hnamed]
  exact congrArg (List.map (·.2)) (Entries.ofList_eq_of_perm ps.functional_named hreverse)

end Passes

/-- **Declarations in both directions agree on one join table.** A link that shares its join table
has exactly one other half, whose only other half it is. Both have the same join table, which is
named by one of them and is the only one in the plan under their names. The join tables of the plan
are the same whichever link comes first. -/
theorem joinTable_of_pair {s : Schema} {p : Plan} (h : s.plan = .ok p) :
    ∃ idTypes links, s.idTypes = .ok idTypes ∧ s.storedLinks = .ok links ∧
      (∀ l ∈ links, l.decision = .sharedJoinTable →
        ∃ other ∈ links, l.IsHalfOf other ∧ (∀ m ∈ links, l.IsHalfOf m → m = other) ∧
          (∀ m ∈ links, other.IsHalfOf m → m = l) ∧
          ∃ j, joinTable idTypes links l = j ∧ joinTable idTypes links other = j ∧
            (j.IsNamedBy l other ∨ j.IsNamedBy other l) ∧
            (p.joinTables.filter fun k => k.name = joinName l.owner l.field ∨
              k.name = joinName other.owner other.field) = [j]) ∧
      ∀ order, order.Perm links → joinTables idTypes order = p.joinTables := by
  obtain ⟨ps⟩ := plan_eq_ok_iff.1 h
  refine ⟨ps.idTypes, ps.links, ps.idTypes_eq, ps.links_eq, fun l hl hd => ?_,
    fun order hperm => ps.joinTables_eq_of_perm hperm⟩
  obtain ⟨other, hother, hhalf⟩ := exists_half ps.links_eq hl hd
  refine ⟨other, hother, hhalf, fun m hm hhalf' => ?_, fun m hm hhalf' => ?_,
    joinTable ps.idTypes ps.links l, rfl, (ps.joinTable_half hl hother hhalf).symm,
    ps.isNamedBy_joinTable hl hother hhalf, ps.filter_name_eq_singleton hl hother hhalf⟩
  · exact half_unique ps.links_eq hm hother hhalf' hhalf
  · exact half_unique ps.links_eq hm hl hhalf' hhalf.symm

/-- The members of a club and the clubs of an owner have one join table, which the plan has as well
if the owners come first. -/
theorem joinTable_of_pair_kennel : kennel.plan = .ok kennelPlan ∧
    ∃ idTypes, kennel.idTypes = .ok idTypes ∧
      joinTables idTypes kennelLinks.reverse = kennelPlan.joinTables ∧
      ∃ other ∈ kennelLinks, kennelLinks[0].IsHalfOf other ∧
        joinTable idTypes kennelLinks kennelLinks[0] = joinTable idTypes kennelLinks other := by
  refine ⟨plan_kennel, ?_⟩
  obtain ⟨idTypes, links, hidTypes, hlinks, hpair, horder⟩ := joinTable_of_pair plan_kennel
  obtain rfl : kennelLinks = links := Except.ok.inj (storedLinks_kennel.symm.trans hlinks)
  obtain ⟨other, hother, hhalf, -, -, j, hj, hj', -⟩ :=
    hpair kennelLinks[0] (List.getElem_mem _) (by decide +kernel)
  exact ⟨idTypes, hidTypes, horder _ (List.reverse_perm _), other, hother, hhalf,
    hj.trans hj'.symm⟩

end Schema

end EntityModel
