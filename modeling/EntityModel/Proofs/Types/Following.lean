import EntityModel.Proofs.Types.References
import Mathlib.Logic.Relation

/-! # Following references

A reference to a definition is followed to what is behind it, from definition to definition, unless
they lead back to one of them. What stands on the way (`Vocabulary.Follows`) has to be known
(`allKnown_follows`), and if anything is missing, then it stands on the way
(`blames_of_follow_eq_error`). -/

namespace EntityModel.Vocabulary

open Reference

variable {v : Vocabulary} {p q r : Property} {target : String} {type behind : SemanticType}
  {met : List String}

/-- The property is a reference to the other one, which is a definition. -/
def RefersTo (v : Vocabulary) (p q : Property) : Prop :=
  ∃ name, p.reference = some (definitionsPath ++ name) ∧ v.definitions.find? name = some q

/-- The other property is the same one, or a definition that it refers to, or one that this one
refers to, and so on. -/
def LeadsTo (v : Vocabulary) : Property → Property → Prop := Relation.ReflTransGen v.RefersTo

/-- The target is one that stands on the way to what is behind the property. -/
def Follows (v : Vocabulary) (p : Property) (target : String) : Prop :=
  ∃ q, v.LeadsTo p q ∧ q.PointsTo target

/-- What a property points to itself stands on the way. -/
theorem follows_of_pointsTo (h : p.PointsTo target) : v.Follows p target := ⟨p, .refl, h⟩

/-- What stands on the way from a definition does so from a reference to it. -/
theorem RefersTo.follows (h : v.RefersTo p q) (hq : v.Follows q target) : v.Follows p target := by
  obtain ⟨r, hr, hpoints⟩ := hq
  exact ⟨r, .head h hr, hpoints⟩

/-- A reference that means a definition refers to this one only. -/
theorem refersTo_iff {name : String} (hp : v.resolve p = .ok (.definition name)) :
    v.RefersTo p q ↔ v.definitions.find? name = some q := by
  have hreference := (resolve_eq_definition_iff.1 hp).1
  constructor
  · rintro ⟨name', hreference', hq⟩
    have hpaths := Option.some.inj (hreference.symm.trans hreference')
    rwa [(String.append_right_inj _).1 hpaths]
  · exact fun hq => ⟨name, hreference, hq⟩

/-- A property that refers to a definition means one. -/
theorem RefersTo.resolve (h : v.RefersTo p q) : ∃ name, v.resolve p = .ok (.definition name) := by
  obtain ⟨name, hreference, hq⟩ := h
  exact ⟨name, resolve_eq_definition_iff.2 ⟨hreference, Option.isSome_iff_exists.2 ⟨q, hq⟩⟩⟩

/-- What is behind a property is what the last of the properties means that it leads to. All others
on the way are references to definitions. -/
theorem exists_leadsTo_of_follow (hp : v.resolve p = .ok type)
    (h : v.follow met type = .ok behind) :
    ∃ q, v.LeadsTo p q ∧ v.resolve q = .ok behind ∧ (∀ name, behind ≠ .definition name) ∧
      ∀ r, v.LeadsTo p r → r = q ∨ ∃ name, v.resolve r = .ok (.definition name) := by
  fun_induction follow v met type generalizing p with
  | case1 => cases h
  | case2 => cases h
  | case3 => cases h
  -- The property refers to a definition, and the way goes on with what that one means.
  | case4 met name hmet p' hfind type' hp' ih =>
    obtain ⟨q, hq, hbehind, hne, hway⟩ := ih hp' h
    refine ⟨q, .head ((refersTo_iff hp).2 hfind) hq, hbehind, hne, fun r hr => ?_⟩
    rcases Relation.ReflTransGen.cases_head hr with rfl | ⟨p'', hp'', hr⟩
    · exact .inr ⟨name, hp⟩
    · obtain rfl := Option.some.inj (hfind.symm.trans ((refersTo_iff hp).1 hp''))
      exact hway r hr
  -- The way ends, for the type is no reference.
  | case5 met type hne =>
    obtain rfl := Except.ok.inj h
    refine ⟨p, .refl, hp, fun name heq => hne name heq, fun r hr => ?_⟩
    rcases Relation.ReflTransGen.cases_head hr with rfl | ⟨p', hp', -⟩
    · exact .inl rfl
    · obtain ⟨name, hname⟩ := hp'.resolve
      exact absurd (Except.ok.inj (hp.symm.trans hname)) (hne name)

/-- Where something is behind a property, all on the way to it is known. -/
theorem allKnown_follows (hp : v.resolve p = .ok type) (h : v.follow met type = .ok behind) :
    v.AllKnown (v.Follows p) := by
  obtain ⟨q, -, hq, -, hway⟩ := exists_leadsTo_of_follow hp h
  rintro target ⟨r, hr, hpoints⟩
  have hresolve : ∃ type, v.resolve r = .ok type := by
    rcases hway r hr with rfl | ⟨name, hname⟩
    · exact ⟨_, hq⟩
    · exact ⟨_, hname⟩
  exact exists_resolve_iff.1 hresolve target hpoints

/-- If nothing is behind a property because a target is missing, then it stands on the way. -/
theorem blames_of_follow_eq_error {e : ResolveError} (hp : v.resolve p = .ok type)
    (h : v.follow met type = .error e) : v.Blames (v.Follows p) e.missing? := by
  fun_induction follow v met type generalizing p with
  -- A circle names no target.
  | case1 met name =>
    obtain rfl := Except.error.inj h
    exact blames_of_eq_none rfl
  -- References that have a meaning lead to definitions that exist.
  | case2 met name hmet hfind =>
    have hname := (resolve_eq_definition_iff.1 hp).2
    rw [NameMap.contains, hfind] at hname
    cases hname
  -- The definition itself has no meaning.
  | case3 met name hmet p' hfind e' hp' =>
    obtain rfl := Except.error.inj h
    exact (someMissing_of_resolve_eq_error hp').blames.mono fun target hpoints =>
      ((refersTo_iff hp).2 hfind).follows (follows_of_pointsTo hpoints)
  | case4 met name hmet p' hfind type' hp' ih =>
    exact (ih hp' h).mono fun target => ((refersTo_iff hp).2 hfind).follows
  | case5 => cases h

/-- A type that is no reference stands for itself. -/
theorem underlying_of_ne_definition (h : ∀ name, type ≠ .definition name) :
    v.underlying type = .ok type := by
  rw [underlying, follow]
  exact h

/-! ## Behind definitions -/

/-- Only behind a definition that exists there is something. -/
theorem exists_find?_of_underlying {name : String}
    (h : v.underlying (.definition name) = .ok behind) :
    ∃ q, v.definitions.find? name = some q := by
  rw [underlying, follow] at h
  cases hfind : v.definitions.find? name with
  | none =>
    split at h
    · cases h
    · split at h <;> rename_i hfind'
      · cases h
      · cases hfind.symm.trans hfind'
  | some q => exact ⟨q, rfl⟩

section

variable {name : String} (hq : v.definitions.find? name = some q)

include hq

/-- A reference to the definition, which means it. -/
theorem resolve_refer :
    v.resolve (.refer (definitionsPath ++ name)) = .ok (.definition name) :=
  resolve_eq_definition_iff.2 ⟨rfl, Option.isSome_iff_exists.2 ⟨q, hq⟩⟩

/-- A reference to the definition refers to nothing else. -/
theorem refersTo_refer_iff : v.RefersTo (.refer (definitionsPath ++ name)) r ↔ r = q := by
  rw [refersTo_iff (resolve_refer hq), hq, Option.some.injEq, eq_comm]

/-- What is behind a definition is what the last of the properties means that it leads to. All
others on the way are references to definitions. -/
theorem exists_leadsTo_of_underlying (h : v.underlying (.definition name) = .ok behind) :
    ∃ r, v.LeadsTo q r ∧ v.resolve r = .ok behind ∧
      ∀ r', v.LeadsTo q r' → r' = r ∨ ∃ name, v.resolve r' = .ok (.definition name) := by
  obtain ⟨r, hr, hbehind, hne, hway⟩ := exists_leadsTo_of_follow (resolve_refer hq) h
  refine ⟨r, ?_, hbehind, fun r' hr' => hway r' (.head ((refersTo_refer_iff hq).2 rfl) hr')⟩
  rcases Relation.ReflTransGen.cases_head hr with rfl | ⟨q', hq', hr⟩
  · exact absurd (Except.ok.inj (hbehind.symm.trans (resolve_refer hq))) (hne name)
  · rwa [(refersTo_refer_iff hq).1 hq'] at hr

/-- If nothing is behind a definition because a target is missing, then it stands on the way. -/
theorem blames_of_underlying_eq_error {e : ResolveError}
    (h : v.underlying (.definition name) = .error e) : v.Blames (v.Follows q) e.missing? := by
  intro target hmissing
  obtain ⟨⟨r, hr, hpoints⟩, hknows⟩ :=
    blames_of_follow_eq_error (resolve_refer hq) h target hmissing
  refine ⟨⟨r, ?_, hpoints⟩, hknows⟩
  rcases Relation.ReflTransGen.cases_head hr with rfl | ⟨q', hq', hr⟩
  · -- The definition itself is known, so it is not the one that is missing.
    rw [(Property.pointsTo_iff_of_reference rfl).1 hpoints] at hknows
    exact absurd (.inl ⟨name, rfl, Option.isSome_iff_exists.2 ⟨q, hq⟩⟩) hknows
  · rwa [(refersTo_refer_iff hq).1 hq'] at hr

end

end EntityModel.Vocabulary
