import EntityModel.Schema.Basic

/-! # Storage of relationships

Where a relationship is stored follows from a few facts about it. A relationship to one target is a
foreign key. One to many is stored as it asks; if it leaves the choice open, it is not stored at all
when the target has a foreign key back, and in a join table otherwise. Two such relationships in
opposite directions share a join table if there is no doubt about which belong together. -/

namespace EntityModel.Relational

/-- What the storage of a relationship depends on. -/
structure RelationshipFacts where
  /-- The property is an array. -/
  isArray : Bool
  /-- How the relationship asks to be stored. -/
  storage : StorageRequest
  /-- The target has a foreign key to the owner. -/
  hasInverseKey : Bool
  /-- The relationship leads to its own entity. -/
  isSelfJoin : Bool
  /-- The target declares the same relationship in the other direction. -/
  isShared : Bool
  deriving DecidableEq, Repr

/-- Where a relationship is stored. -/
inductive StorageDecision where
  /-- In a column with a foreign key to the target. -/
  | foreignKey
  /-- In a column that holds the array as a document. -/
  | json
  /-- Nowhere: the target's foreign key says the same. -/
  | derived
  /-- In a join table of its own. -/
  | joinTable
  /-- In a join table between rows of one table. -/
  | selfJoinTable
  /-- In a join table that serves both directions. -/
  | sharedJoinTable
  deriving DecidableEq, Repr

/-- Whether the relationship is stored in a join table. -/
def StorageDecision.usesJoinTable : StorageDecision → Bool
  | .joinTable | .selfJoinTable | .sharedJoinTable => true
  | .foreignKey | .json | .derived => false

/-- Whether the property stays a column of the owner's table. -/
def StorageDecision.keepsColumn : StorageDecision → Bool
  | .foreignKey | .json => true
  | .derived | .joinTable | .selfJoinTable | .sharedJoinTable => false

namespace RelationshipFacts

/-- Where the relationship is stored, or nothing if an array asks for a foreign key. -/
def decide? (facts : RelationshipFacts) : Option StorageDecision :=
  if !facts.isArray then some .foreignKey
  else
    match facts.storage with
    | .foreignKey => none
    | .json => some .json
    | .automatic =>
      if facts.hasInverseKey then some .derived
      else if facts.isSelfJoin then some .selfJoinTable
      else if facts.isShared then some .sharedJoinTable
      else some .joinTable

/-- Whether the relationship could share its join table with the opposite one. -/
def isPairable (facts : RelationshipFacts) : Bool :=
  facts.isArray && facts.storage = .automatic && !facts.hasInverseKey && !facts.isSelfJoin

/-- Only an array that asks for a foreign key cannot be stored. -/
theorem decide?_eq_none_iff (facts : RelationshipFacts) :
    facts.decide? = none ↔ facts.isArray = true ∧ facts.storage = .foreignKey := by
  unfold decide?
  cases facts.isArray <;> cases facts.storage <;> simp
  cases facts.hasInverseKey <;> cases facts.isSelfJoin <;> cases facts.isShared <;> simp

end RelationshipFacts

end EntityModel.Relational
