import EntityModel.Relational.Planner
import EntityModel.Proofs.NameMap
import EntityModel.Proofs.Outcome
import Mathlib.Data.List.Nodup

/-! # Links of relationships

Every relationship of a schema is one link, and every link has one decision about its storage, which
says what the facts about it are (`StorageDecision.Applies`). Links that share a join table come in
pairs: each has one other half (`exists_half`, `half_unique`). -/

namespace EntityModel

open Relational

/-! ## Decisions -/

namespace Relational

/-- What is true of the relationships that are stored in one way. -/
def StorageDecision.Applies (facts : RelationshipFacts) : StorageDecision → Prop
  | .foreignKey => facts.isArray = false
  | .json => facts.isArray = true ∧ facts.storage = .json
  | .derived => facts.isArray = true ∧ facts.storage = .automatic ∧ facts.hasInverseKey = true
  | .selfJoinTable => facts.isArray = true ∧ facts.storage = .automatic ∧
      facts.hasInverseKey = false ∧ facts.isSelfJoin = true
  | .sharedJoinTable => facts.isPairable = true ∧ facts.isShared = true
  | .joinTable => facts.isPairable = true ∧ facts.isShared = false

/-- The decision about a relationship is the one that applies to it. -/
theorem RelationshipFacts.decide?_eq_some_iff {facts : RelationshipFacts} {d : StorageDecision} :
    facts.decide? = some d ↔ d.Applies facts := by
  obtain ⟨isArray, storage, hasInverseKey, isSelfJoin, isShared⟩ := facts
  cases isArray
  · cases d <;> simp [decide?, StorageDecision.Applies, isPairable]
  · cases storage <;> cases hasInverseKey <;> cases isSelfJoin <;> cases isShared <;> cases d <;>
      simp [decide?, StorageDecision.Applies, isPairable]

end Relational

/-! ## Links -/

namespace Schema

/-- The entity declares the relationship under the name of the field. -/
def Declares (s : Schema) (owner field : String) (r : Relationship) : Prop :=
  ∃ entity, s.entities.find? owner = some entity ∧ entity.relationships.find? field = some r

/-- The field is a property of the entity, and it is an array or not. -/
def HasShape (s : Schema) (owner field : String) (isArray : Bool) : Prop :=
  ∃ entity p, s.entities.find? owner = some entity ∧ entity.properties.find? field = some p ∧
    s.vocabulary.isArray p = .ok isArray

variable {s : Schema}

/-- A field is either an array or none. -/
theorem HasShape.unique {owner field : String} {a b : Bool} (h : s.HasShape owner field a)
    (h' : s.HasShape owner field b) : a = b := by
  obtain ⟨entity, p, hentity, hp, ha⟩ := h
  obtain ⟨entity', p', hentity', hp', hb⟩ := h'
  obtain rfl := Option.some.inj (hentity.symm.trans hentity')
  obtain rfl := Option.some.inj (hp.symm.trans hp')
  exact Except.ok.inj (ha.symm.trans hb)

/-- A relationship has a link if its field is a property, its target exists, and the property can be
resolved. -/
theorem link_eq_ok_iff {owner field : String} {entity : Entity} {r : Relationship} {l : Link} :
    s.link owner entity field r = .ok l ↔
      ∃ p isArray, entity.properties.find? field = some p ∧ s.entities.contains r.target = true ∧
        s.vocabulary.isArray p = .ok isArray ∧ l = ⟨owner, field, r, isArray⟩ := by
  unfold link
  cases hp : entity.properties.find? field with
  | none => simp
  | some p =>
    cases htarget : s.entities.contains r.target with
    | false => simp
    | true =>
      cases hshape : s.vocabulary.isArray p with
      | error e => simp [hshape]
      | ok isArray => cases isArray <;> simp [hshape, eq_comm]

end Schema

/-- The field that holds the link, with its entity. -/
def Link.key (l : Link) : String × String := (l.owner, l.field)

namespace Schema

variable {s : Schema} {links : List Link}

/-- The links are those of the entities in a row. -/
theorem exists_ofEntities (h : s.links = .ok links) :
    ∃ ofEntities, s.entities.entries.mapM (fun e => e.2.relationships.entries.mapM fun r =>
      s.link e.1 e.2 r.1 r.2) = .ok ofEntities ∧ links = ofEntities.flatten := by
  obtain ⟨ofEntities, hall, hflat⟩ := Outcome.bind_eq_ok_iff.1 h
  exact ⟨ofEntities, hall, (Except.ok.inj hflat).symm⟩

/-- A link stands for a relationship that is declared, whose target exists. -/
theorem of_mem_links (h : s.links = .ok links) {l : Link} (hl : l ∈ links) :
    s.Declares l.owner l.field l.relationship ∧ s.HasShape l.owner l.field l.isArray ∧
      s.entities.contains l.target = true := by
  obtain ⟨ofEntities, hall, rfl⟩ := exists_ofEntities h
  obtain ⟨ofEntity, hmem, hl⟩ := List.mem_flatten.1 hl
  obtain ⟨⟨owner, entity⟩, he, hentity⟩ := Outcome.exists_source hall hmem
  obtain ⟨⟨field, r⟩, hr, hlink⟩ := Outcome.exists_source hentity hl
  obtain ⟨p, isArray, hp, htarget, hshape, rfl⟩ := link_eq_ok_iff.1 hlink
  have hfind := NameMap.find?_eq_some_iff.2 he
  exact ⟨⟨entity, hfind, NameMap.find?_eq_some_iff.2 hr⟩, ⟨entity, p, hfind, hp, hshape⟩, htarget⟩

/-- Every relationship that is declared has a link. -/
theorem exists_link (h : s.links = .ok links) {owner field : String} {r : Relationship}
    (hr : s.Declares owner field r) :
    ∃ l ∈ links, l.owner = owner ∧ l.field = field ∧ l.relationship = r := by
  obtain ⟨ofEntities, hall, rfl⟩ := exists_ofEntities h
  obtain ⟨entity, hentity, hr⟩ := hr
  obtain ⟨ofEntity, hmem, hlinks⟩ :=
    Outcome.exists_result hall (NameMap.find?_eq_some_iff.1 hentity)
  obtain ⟨l, hl, hlink⟩ := Outcome.exists_result hlinks (NameMap.find?_eq_some_iff.1 hr)
  obtain ⟨p, isArray, -, -, -, rfl⟩ := link_eq_ok_iff.1 hlink
  exact ⟨_, List.mem_flatten.2 ⟨ofEntity, hmem, hl⟩, rfl, rfl, rfl⟩

/-- The links stand in the order of the entities and their fields. -/
theorem map_key_links (h : s.links = .ok links) :
    links.map Link.key = s.entities.entries.flatMap fun e =>
      e.2.relationships.names.map fun field => (e.1, field) := by
  obtain ⟨ofEntities, hall, rfl⟩ := exists_ofEntities h
  rw [List.map_flatten, List.flatMap_def]
  congr 1
  refine Outcome.map_result_eq hall fun e _ ofEntity hlinks => ?_
  rw [NameMap.names, Entries.names, List.map_map]
  refine Outcome.map_result_eq hlinks fun r _ l hlink => ?_
  obtain ⟨p, isArray, -, -, -, rfl⟩ := link_eq_ok_iff.1 hlink
  rfl

/-- No field has two links. -/
theorem nodup_keys (h : s.links = .ok links) : (links.map Link.key).Nodup := by
  rw [map_key_links h, List.nodup_flatMap]
  constructor
  · intro e _
    exact e.2.relationships.nodup_names.map fun _ _ heq => (Prod.mk.inj heq).2
  · refine (List.pairwise_map.1 s.entities.nodup_names).imp fun {e e'} hne key hkey hkey' => ?_
    obtain ⟨_, -, rfl⟩ := List.mem_map.1 hkey
    obtain ⟨_, -, heq⟩ := List.mem_map.1 hkey'
    exact hne (Prod.mk.inj heq).1.symm

end Schema

/-! ## Pairs of links -/

namespace Link

variable {links : List Link} {l l' other : Link} {a b : String}

/-- A link is the reverse of another one if each leads to the owner of the other. -/
theorem isReverse_iff :
    l.isReverse other = true ↔ other.owner = l.target ∧ other.target = l.owner := by
  simp [isReverse]

/-- A link that could share its join table leads to another entity. -/
theorem target_ne_owner_of_isPairable (h : l.isPairable links = true) : l.target ≠ l.owner := by
  simp only [isPairable, RelationshipFacts.isPairable, ownFacts, isSelfJoin, Bool.and_eq_true,
    Bool.not_eq_true', decide_eq_false_iff_not] at h
  exact h.2

/-- Where one link between two entities could share its join table, it is the only one. -/
theorem eq_of_pairableCount (hcount : pairableCount links a b = 1) (hl : l ∈ links)
    (hab : l.owner = a ∧ l.target = b) (hpair : l.isPairable links = true) (hl' : l' ∈ links)
    (hab' : l'.owner = a ∧ l'.target = b) (hpair' : l'.isPairable links = true) : l = l' := by
  rw [pairableCount, List.countP_eq_length_filter] at hcount
  obtain ⟨m, hm⟩ := List.length_eq_one_iff.1 hcount
  have key : ∀ {k : Link}, k ∈ links → k.owner = a ∧ k.target = b → k.isPairable links = true →
      k = m := by
    intro k hk hab hpair
    refine List.mem_singleton.1 (hm ▸ List.mem_filter.2 ⟨hk, ?_⟩)
    simp [hab, hpair]
  exact (key hl hab hpair).trans (key hl' hab' hpair').symm

end Link

namespace StoredLink

/-- The two links are the halves of a pair: they lead in opposite directions, and they share a join
table. -/
def IsHalfOf (l other : StoredLink) : Prop :=
  l.decision = .sharedJoinTable ∧ other.decision = .sharedJoinTable ∧
    l.isReverse other.toLink = true

/-- It can be decided whether two links are halves of a pair. -/
instance (l other : StoredLink) : Decidable (l.IsHalfOf other) :=
  inferInstanceAs (Decidable (_ ∧ _ ∧ _))

variable {l other : StoredLink}

/-- The other half belongs to the target. -/
theorem IsHalfOf.owner_eq (h : l.IsHalfOf other) : other.owner = l.target :=
  (Link.isReverse_iff.1 h.2.2).1

/-- The other half leads to the owner. -/
theorem IsHalfOf.target_eq (h : l.IsHalfOf other) : other.target = l.owner :=
  (Link.isReverse_iff.1 h.2.2).2

/-- Two halves of a pair are halves of each other. -/
theorem IsHalfOf.symm (h : l.IsHalfOf other) : other.IsHalfOf l :=
  ⟨h.2.1, h.1, Link.isReverse_iff.2 ⟨h.target_eq.symm, h.owner_eq.symm⟩⟩

end StoredLink

/-! ## Stored links -/

namespace Schema

variable {s : Schema} {links : List StoredLink}

/-- A link is stored as itself, with the decision that its facts lead to. -/
theorem storeLink_eq_ok_iff {ls : List Link} {l : Link} {stored : StoredLink} :
    storeLink ls l = .ok stored ↔
      stored.toLink = l ∧ (l.facts ls).decide? = some stored.decision := by
  obtain ⟨m, d⟩ := stored
  unfold storeLink
  cases hd : (l.facts ls).decide? with
  | none => simp
  | some d' => simp [eq_comm]

/-- Storing links keeps them, and decides about every one of them. -/
theorem exists_links (h : s.storedLinks = .ok links) :
    s.links = .ok (links.map (·.toLink)) ∧
      ∀ l ∈ links, l.decision.Applies (l.facts (links.map (·.toLink))) := by
  obtain ⟨ls, hls, hstore⟩ := Outcome.bind_eq_ok_iff.1 h
  have hkeep : links.map (·.toLink) = ls := by
    rw [Outcome.map_result_eq hstore fun l _ stored hstored => (storeLink_eq_ok_iff.1 hstored).1]
    exact List.map_id' ls
  rw [hkeep]
  refine ⟨hls, fun l hl => ?_⟩
  obtain ⟨m, -, hm⟩ := Outcome.exists_source hstore hl
  obtain ⟨rfl, hdecision⟩ := storeLink_eq_ok_iff.1 hm
  exact RelationshipFacts.decide?_eq_some_iff.1 hdecision

/-- The decision about a link says what its facts are. -/
theorem applies_of_mem (h : s.storedLinks = .ok links) {l : StoredLink} (hl : l ∈ links) :
    l.decision.Applies (l.facts (links.map (·.toLink))) := (exists_links h).2 l hl

/-- A stored link is one of the links. -/
theorem mem_links_of_mem {l : StoredLink} (hl : l ∈ links) :
    l.toLink ∈ links.map (·.toLink) := List.mem_map.2 ⟨l, hl, rfl⟩

/-- A stored link stands for a relationship that is declared, whose target exists. -/
theorem of_mem_storedLinks (h : s.storedLinks = .ok links) {l : StoredLink} (hl : l ∈ links) :
    s.Declares l.owner l.field l.relationship ∧ s.HasShape l.owner l.field l.isArray ∧
      s.entities.contains l.target = true :=
  of_mem_links (exists_links h).1 (mem_links_of_mem hl)

/-- Every relationship that is declared is stored. -/
theorem exists_storedLink (h : s.storedLinks = .ok links) {owner field : String}
    {r : Relationship} (hr : s.Declares owner field r) :
    ∃ l ∈ links, l.owner = owner ∧ l.field = field ∧ l.relationship = r := by
  obtain ⟨m, hm, howner, hfield, hrel⟩ := exists_link (exists_links h).1 hr
  obtain ⟨l, hl, rfl⟩ := List.mem_map.1 hm
  exact ⟨l, hl, howner, hfield, hrel⟩

/-- The link of a relationship whose property can be resolved. -/
theorem exists_storedLink_of_shape (h : s.storedLinks = .ok links) {owner field : String}
    {r : Relationship} {isArray : Bool} (hr : s.Declares owner field r)
    (hshape : s.HasShape owner field isArray) :
    ∃ l ∈ links, l.toLink = ⟨owner, field, r, isArray⟩ := by
  obtain ⟨l, hl, rfl, rfl, rfl⟩ := exists_storedLink h hr
  rw [← (of_mem_storedLinks h hl).2.1.unique hshape]
  exact ⟨l, hl, rfl⟩

/-- No two stored links have the same owner and field. -/
theorem nodup_stored_keys (h : s.storedLinks = .ok links) :
    (links.map fun l => l.toLink.key).Nodup := by
  have hkeys := nodup_keys (exists_links h).1
  rwa [List.map_map] at hkeys

/-- A field has one stored link. -/
theorem eq_of_field_eq (h : s.storedLinks = .ok links) {l l' : StoredLink} (hl : l ∈ links)
    (hl' : l' ∈ links) (howner : l.owner = l'.owner) (hfield : l.field = l'.field) : l = l' :=
  List.inj_on_of_nodup_map (nodup_stored_keys h) hl hl' (Prod.ext howner hfield)

/-- The link of a shared join table could be shared, as the only one of its direction. -/
theorem shared_facts (h : s.storedLinks = .ok links) {l : StoredLink} (hl : l ∈ links)
    (hd : l.decision = .sharedJoinTable) :
    l.isPairable (links.map (·.toLink)) = true ∧
      Link.pairableCount (links.map (·.toLink)) l.owner l.target = 1 ∧
      Link.pairableCount (links.map (·.toLink)) l.target l.owner = 1 := by
  have happlies := applies_of_mem h hl
  rw [hd] at happlies
  obtain ⟨-, hshared⟩ := happlies
  simpa [Link.facts, Link.isShared, and_assoc] using hshared

/-- Only one decision applies to a link. -/
theorem decision_eq_of_applies (h : s.storedLinks = .ok links) {l : StoredLink} (hl : l ∈ links)
    {d : StorageDecision} (hd : d.Applies (l.facts (links.map (·.toLink)))) : l.decision = d := by
  have happlies := applies_of_mem h hl
  rw [← RelationshipFacts.decide?_eq_some_iff] at happlies hd
  exact Option.some.inj (happlies.symm.trans hd)

/-- A link that shares its join table has another half. -/
theorem exists_half (h : s.storedLinks = .ok links) {l : StoredLink} (hl : l ∈ links)
    (hd : l.decision = .sharedJoinTable) : ∃ other ∈ links, l.IsHalfOf other := by
  obtain ⟨-, hcount, hreverse⟩ := shared_facts h hl hd
  have hpos : 0 < Link.pairableCount (links.map (·.toLink)) l.target l.owner := by omega
  obtain ⟨m, hm, hkey⟩ := List.countP_pos_iff.1 hpos
  obtain ⟨other, hother, rfl⟩ := List.mem_map.1 hm
  simp only [Bool.and_eq_true, decide_eq_true_eq] at hkey
  obtain ⟨⟨howner, htarget⟩, hpair⟩ := hkey
  refine ⟨other, hother, hd, ?_, Link.isReverse_iff.2 ⟨howner, htarget⟩⟩
  -- The counts of the two directions are the same for both halves, only the other way round.
  have hshared : other.isShared (links.map (·.toLink)) = true := by
    simp [Link.isShared, hpair, howner, htarget, hcount, hreverse]
  exact decision_eq_of_applies h hother ⟨hpair, hshared⟩

/-- A link that shares its join table has only one other half. -/
theorem half_unique (h : s.storedLinks = .ok links) {l m m' : StoredLink} (hm : m ∈ links)
    (hm' : m' ∈ links) (hhalf : l.IsHalfOf m) (hhalf' : l.IsHalfOf m') : m = m' := by
  obtain ⟨hpair, hcount, -⟩ := shared_facts h hm hhalf.2.1
  obtain ⟨hpair', -⟩ := shared_facts h hm' hhalf'.2.1
  have howner : m'.owner = m.owner := hhalf'.owner_eq.trans hhalf.owner_eq.symm
  have htarget : m'.target = m.target := hhalf'.target_eq.trans hhalf.target_eq.symm
  have heq : m.toLink = m'.toLink := Link.eq_of_pairableCount hcount (mem_links_of_mem hm)
    ⟨rfl, rfl⟩ hpair (mem_links_of_mem hm') ⟨howner, htarget⟩ hpair'
  exact eq_of_field_eq h hm hm' (congrArg Link.owner heq) (congrArg Link.field heq)

/-- The halves of a pair belong to different entities. -/
theorem owner_ne_of_half (h : s.storedLinks = .ok links) {l other : StoredLink} (hl : l ∈ links)
    (hhalf : l.IsHalfOf other) : l.target ≠ l.owner :=
  Link.target_ne_owner_of_isPairable (shared_facts h hl hhalf.1).1

end Schema

end EntityModel
