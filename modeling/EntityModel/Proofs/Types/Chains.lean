import EntityModel.Proofs.Types.Following
import Mathlib.Data.List.Chain

/-! # Chains of definitions

A definition may be a reference to another one, which may be a reference again. Following them from
a name on goes through a chain of names (`Vocabulary.RefersOn`) that comes back to one of them
(`Vocabulary.ComesBack`) or has a last one (`Vocabulary.EndsIn`). In the one case the name that is
met again is the error, and in the other one all depends on the last definition
(`underlying_outcome`). -/

namespace EntityModel.Vocabulary

open Reference Relation

variable {v : Vocabulary} {name next last again : String} {type behind : SemanticType}
  {met : List String}

/-- The definition of the first name is a reference to the definition of the second one. -/
def RefersOn (v : Vocabulary) (name next : String) : Prop :=
  ∃ p q, v.definitions.find? name = some p ∧ p.reference = some (definitionsPath ++ next) ∧
    v.definitions.find? next = some q

/-- The definition that a name stands for, resolved. -/
def meaning (v : Vocabulary) (name : String) : Except ResolveError SemanticType :=
  match v.definitions.find? name with
  | some p => v.resolve p
  | none => .error (.unknownDefinition (definitionsPath ++ name))

/-- Following the definitions from the name on goes to different names, and then to one that it has
been to. -/
def ComesBack (v : Vocabulary) (name again : String) : Prop :=
  ∃ way, (way ++ [again]).head? = some name ∧ (way ++ [again]).IsChain v.RefersOn ∧ way.Nodup ∧
    again ∈ way

/-- Following the definitions from the first name on leads to the second one and no further. -/
def EndsIn (v : Vocabulary) (name last : String) : Prop :=
  ReflTransGen v.RefersOn name last ∧ ∀ next, ¬v.RefersOn last next

/-! ## One step -/

/-- A definition refers to another one exactly if it means it. -/
theorem refersOn_iff_meaning : v.RefersOn name next ↔ v.meaning name = .ok (.definition next) := by
  unfold RefersOn meaning
  cases v.definitions.find? name with
  | none => simp
  | some p =>
    simp only [Option.some.injEq, exists_eq_left', resolve_eq_definition_iff, exists_and_left,
      NameMap.contains, Option.isSome_iff_exists]

/-- What a definition means is found without going in a circle. -/
theorem meaning_ne_refCycle (name again : String) : v.meaning name ≠ .error (.refCycle again) := by
  unfold meaning
  intro h
  split at h
  · obtain ⟨target, hmissing, -⟩ := someMissing_of_resolve_eq_error h
    cases hmissing
  · cases h

/-- A definition refers to one other definition at most. -/
theorem RefersOn.unique {other : String} (h : v.RefersOn name next) (h' : v.RefersOn name other) :
    next = other := by
  rw [refersOn_iff_meaning] at h h'
  exact SemanticType.definition.inj (Except.ok.inj (h.symm.trans h'))

/-- A definition that was met ends in a circle. -/
theorem follow_of_mem (h : name ∈ met) :
    v.follow met (.definition name) = .error (.refCycle name) := by
  rw [follow]
  split
  · rfl
  · rename_i hmet
    rw [List.contains_eq_mem, decide_eq_false_iff_not] at hmet
    exact absurd h hmet

/-- A definition that was not met is what it means, or what is behind the one that it refers to. -/
theorem follow_of_notMem (h : name ∉ met) :
    v.follow met (.definition name) = v.meaning name >>= v.follow (name :: met) := by
  rw [follow, meaning]
  split
  · rename_i hmet
    rw [List.contains_eq_mem, decide_eq_true_iff] at hmet
    exact absurd hmet h
  · split
    · rename_i hfind
      rw [hfind]
      rfl
    · rename_i p hfind
      simp only [hfind]
      cases v.resolve p <;> rfl

/-- Where a definition refers to another one, this one is followed. -/
theorem follow_of_refersOn (hname : name ∉ met) (h : v.RefersOn name next) :
    v.follow met (.definition name) = v.follow (name :: met) (.definition next) := by
  rw [follow_of_notMem hname, refersOn_iff_meaning.1 h]
  rfl

/-- Where a definition refers to no other one, following stops at it. -/
theorem follow_of_last (hname : name ∉ met) (h : ∀ next, ¬v.RefersOn name next) :
    v.follow met (.definition name) = v.meaning name := by
  rw [follow_of_notMem hname]
  cases hmeaning : v.meaning name with
  | error e => rfl
  | ok type =>
    have hne : ∀ next, type ≠ .definition next := by
      rintro next rfl
      exact h next (refersOn_iff_meaning.2 hmeaning)
    change v.follow (name :: met) type = .ok type
    rw [follow]
    exact hne

/-! ## Names that are met again -/

/-- Following the definitions from the name on goes to different names that were not met, and then
to one that it has been to, or that was met. -/
def Returns (v : Vocabulary) (met : List String) (name again : String) : Prop :=
  ∃ way, (way ++ [again]).head? = some name ∧ (way ++ [again]).IsChain v.RefersOn ∧ way.Nodup ∧
    (∀ other ∈ way, other ∉ met) ∧ again ∈ way ++ met

/-- Where nothing was met before, the names return to one of their own. -/
theorem returns_nil_iff : v.Returns [] name again ↔ v.ComesBack name again := by
  simp [Returns, ComesBack]

/-- A name that was met returns at once. -/
theorem returns_of_mem (h : name ∈ met) : v.Returns met name name :=
  ⟨[], rfl, .singleton name, List.nodup_nil, List.forall_mem_nil _, h⟩

/-- What returns from the next name on returns from the one in front of it. -/
theorem Returns.step (hname : name ∉ met) (hnext : v.RefersOn name next)
    (h : v.Returns (name :: met) next again) : v.Returns met name again := by
  obtain ⟨way, hhead, hchain, hnodup, hunmet, hagain⟩ := h
  refine ⟨name :: way, rfl, ?_, List.nodup_cons.2 ⟨?_, hnodup⟩, ?_, ?_⟩
  · refine List.isChain_cons.2 ⟨fun other hother => ?_, hchain⟩
    obtain rfl := Option.some.inj (hhead.symm.trans hother)
    exact hnext
  · exact fun hmem => hunmet name hmem List.mem_cons_self
  · exact List.forall_mem_cons.2
      ⟨hname, fun other hother => fun hmem => hunmet other hother (List.mem_cons_of_mem _ hmem)⟩
  · exact List.perm_middle.mem_iff.1 hagain

/-- The name that is met again is the error. -/
theorem follow_of_returns (h : v.Returns met name again) :
    v.follow met (.definition name) = .error (.refCycle again) := by
  obtain ⟨way, hhead, hchain, hnodup, hunmet, hagain⟩ := h
  -- Each name on the way is one that was met when the next one is followed.
  induction way generalizing met name with
  | nil =>
    obtain rfl := Option.some.inj hhead
    exact follow_of_mem hagain
  | cons first way ih =>
    obtain rfl := Option.some.inj hhead
    obtain ⟨hfirst, hway⟩ := List.nodup_cons.1 hnodup
    obtain ⟨hmet, hunmet⟩ := List.forall_mem_cons.1 hunmet
    obtain ⟨next, hnext⟩ : ∃ next, (way ++ [again]).head? = some next := by
      cases way <;> exact ⟨_, rfl⟩
    obtain ⟨hstep, hchain⟩ := List.isChain_cons.1 hchain
    rw [follow_of_refersOn hmet (hstep next hnext)]
    refine ih hnext hchain hway (fun other hother hmem => ?_) (List.perm_middle.mem_iff.2 hagain)
    rcases List.mem_cons.1 hmem with rfl | hmem
    · exact hfirst hother
    · exact hunmet other hother hmem

/-! ## Names that are not met again -/

/-- A chain ends where it ends from its second name on. -/
theorem EndsIn.of_refersOn (hnext : v.RefersOn name next) (h : v.EndsIn next last) :
    v.EndsIn name last :=
  ⟨.head hnext h.1, h.2⟩

/-- Nothing but itself is reached from the last name. -/
theorem EndsIn.eq_of_reaches (h : v.EndsIn name last) {other : String}
    (hother : ReflTransGen v.RefersOn last other) : other = last := by
  rcases ReflTransGen.cases_head hother with heq | ⟨next, hnext, -⟩
  · exact heq.symm
  · exact absurd hnext (h.2 next)

/-- Every name of a chain that ends leads to its end. -/
theorem EndsIn.of_reaches (h : v.EndsIn name last) {other : String}
    (hother : ReflTransGen v.RefersOn name other) : v.EndsIn other last := by
  refine ⟨?_, h.2⟩
  rcases ReflTransGen.total_of_right_unique (fun _ _ _ h h' => h.unique h') hother h.1 with
    hway | hway
  · exact hway
  · rw [h.eq_of_reaches hway]

/-- A chain has one last name. -/
theorem EndsIn.unique {other : String} (h : v.EndsIn name last) (h' : v.EndsIn name other) :
    last = other :=
  (h.eq_of_reaches (h'.of_reaches h.1).1).symm

/-- A chain that ends does not go through its first name again. -/
theorem EndsIn.not_transGen (h : v.EndsIn name last) : ¬TransGen v.RefersOn name name := by
  obtain ⟨hlast, hend⟩ := h
  induction hlast using ReflTransGen.head_induction_on with
  | refl =>
    intro hcircle
    obtain ⟨next, hnext, -⟩ := TransGen.head'_iff.1 hcircle
    exact hend next hnext
  | head hnext _ ih =>
    intro hcircle
    obtain ⟨other, hother, hback⟩ := TransGen.head'_iff.1 hcircle
    rw [hother.unique hnext] at hback
    exact ih (TransGen.tail'_iff.2 ⟨_, hback, hnext⟩)

/-- All names of a chain but the last one refer to another one. -/
theorem EndsIn.exists_refersOn (h : v.EndsIn name last) {other : String}
    (hother : ReflTransGen v.RefersOn name other) (hne : other ≠ last) :
    ∃ next, v.RefersOn other next := by
  rcases ReflTransGen.cases_head (h.of_reaches hother).1 with heq | ⟨next, hnext, -⟩
  · exact absurd heq hne
  · exact ⟨next, hnext⟩

/-- A chain that ends before it comes to a name that was met is followed to its last name. -/
theorem follow_of_endsIn (h : v.EndsIn name last)
    (hmet : ∀ other ∈ met, ¬ReflTransGen v.RefersOn name other) :
    v.follow met (.definition name) = v.meaning last := by
  obtain ⟨hlast, hend⟩ := h
  induction hlast using ReflTransGen.head_induction_on generalizing met with
  | refl => exact follow_of_last (fun hmem => hmet _ hmem .refl) hend
  | @head name next hnext hlast ih =>
    have hcircle : ¬TransGen v.RefersOn name name := EndsIn.not_transGen ⟨.head hnext hlast, hend⟩
    rw [follow_of_refersOn (fun hmem => hmet _ hmem .refl) hnext]
    refine ih fun other hother hway => ?_
    rcases List.mem_cons.1 hother with rfl | hother
    · exact hcircle (TransGen.head'_iff.2 ⟨next, hnext, hway⟩)
    · exact hmet other hother (.head hnext hway)

/-! ## Whole chains -/

/-- A chain comes to a name that was met, or to its end. -/
theorem returns_or_endsIn (v : Vocabulary) (met : List String) (name : String) :
    (∃ again, v.Returns met name again) ∨
      ∃ last, v.EndsIn name last ∧ v.follow met (.definition name) = v.meaning last := by
  by_cases hname : name ∈ met
  · exact .inl ⟨name, returns_of_mem hname⟩
  · by_cases hnext : ∃ next, v.RefersOn name next
    · obtain ⟨next, hnext⟩ := hnext
      have hfewer : (v.unmet (name :: met)).length < (v.unmet met).length := by
        obtain ⟨p, -, hp, -⟩ := hnext
        exact length_unmet_lt hp (by rwa [List.contains_eq_mem, decide_eq_false_iff_not])
      rcases returns_or_endsIn v (name :: met) next with ⟨again, h⟩ | ⟨last, hlast, hfollow⟩
      · exact .inl ⟨again, h.step hname hnext⟩
      · exact .inr ⟨last, hlast.of_refersOn hnext,
          (follow_of_refersOn hname hnext).trans hfollow⟩
    · have hend := not_exists.1 hnext
      exact .inr ⟨name, ⟨.refl, hend⟩, follow_of_last hname hend⟩
termination_by (v.unmet met).length

/-- The error of a circle names the definition that the chain comes back to. -/
theorem underlying_eq_refCycle_iff :
    v.underlying (.definition name) = .error (.refCycle again) ↔ v.ComesBack name again := by
  rw [← returns_nil_iff]
  refine ⟨fun h => ?_, follow_of_returns⟩
  rcases returns_or_endsIn v [] name with ⟨other, hother⟩ | ⟨last, -, hfollow⟩
  · cases h.symm.trans (follow_of_returns hother)
    exact hother
  · exact absurd (hfollow.symm.trans h) (meaning_ne_refCycle last again)

/-- What is behind a definition is found as what the last one of its chain means. -/
theorem EndsIn.underlying (h : v.EndsIn name last) :
    v.underlying (.definition name) = v.meaning last :=
  follow_of_endsIn h (List.forall_mem_nil _)

/-- A chain that ends does not come back. -/
theorem EndsIn.not_comesBack (h : v.EndsIn name last) (again : String) :
    ¬v.ComesBack name again := fun hback =>
  meaning_ne_refCycle last again (h.underlying.symm.trans (underlying_eq_refCycle_iff.2 hback))

/-- A chain that does not come back ends. -/
theorem exists_endsIn (h : ∀ again, ¬v.ComesBack name again) : ∃ last, v.EndsIn name last := by
  rcases returns_or_endsIn v [] name with ⟨again, hagain⟩ | ⟨last, hlast, -⟩
  · exact absurd (returns_nil_iff.1 hagain) (h again)
  · exact ⟨last, hlast⟩

/-- What is behind a definition is what the last one of its chain means. -/
theorem underlying_eq_ok_iff : v.underlying (.definition name) = .ok behind ↔
    ∃ last, v.EndsIn name last ∧ v.meaning last = .ok behind := by
  constructor
  · intro h
    rcases returns_or_endsIn v [] name with ⟨again, hagain⟩ | ⟨last, hlast, hfollow⟩
    · cases h.symm.trans (follow_of_returns hagain)
    · exact ⟨last, hlast, hfollow.symm.trans h⟩
  · rintro ⟨last, hlast, hmeaning⟩
    rw [hlast.underlying, hmeaning]

/-- There is no reference to a definition behind a type. -/
theorem ne_definition_of_underlying (h : v.underlying type = .ok behind) (name : String) :
    behind ≠ .definition name := by
  rintro rfl
  by_cases hdefinition : ∃ first, type = .definition first
  · obtain ⟨first, rfl⟩ := hdefinition
    obtain ⟨last, hlast, hmeaning⟩ := underlying_eq_ok_iff.1 h
    exact hlast.2 name (refersOn_iff_meaning.2 hmeaning)
  · have hne : ∀ first, type ≠ .definition first := fun first heq => hdefinition ⟨first, heq⟩
    rw [underlying_of_ne_definition hne] at h
    exact hne name (Except.ok.inj h)

/-- **What is behind a type.** It is no reference to a definition, and nothing else is behind it.
Behind a type that is no such reference stands the type itself. Following the definitions from a
name on fails with a name exactly if they come back to this one first. Otherwise they have a last
one, all others are references to the next, and the outcome is the one of resolving the last. -/
theorem underlying_outcome (v : Vocabulary) :
    (∀ type behind, v.underlying type = .ok behind →
      (∀ name, behind ≠ .definition name) ∧ v.underlying behind = .ok behind) ∧
    (∀ type, (∀ name, type ≠ .definition name) → v.underlying type = .ok type) ∧
    (∀ name again, v.underlying (.definition name) = .error (.refCycle again) ↔
      v.ComesBack name again) ∧
    ∀ name, (∀ again, ¬v.ComesBack name again) → ∃ last, v.EndsIn name last ∧
      (∀ other, ReflTransGen v.RefersOn name other → other ≠ last →
        ∃ next, v.meaning other = .ok (.definition next)) ∧
      v.underlying (.definition name) = v.meaning last := by
  refine ⟨fun type behind h => ?_, fun type => underlying_of_ne_definition,
    fun name again => underlying_eq_refCycle_iff, fun name hnot => ?_⟩
  · have hne := ne_definition_of_underlying h
    exact ⟨hne, underlying_of_ne_definition hne⟩
  · obtain ⟨last, hlast⟩ := exists_endsIn hnot
    refine ⟨last, hlast, fun other hother hne => ?_, hlast.underlying⟩
    obtain ⟨next, hnext⟩ := hlast.exists_refersOn hother hne
    exact ⟨next, refersOn_iff_meaning.1 hnext⟩

/-- Definitions that lead from `gate` into a circle of `east` and `west`, and from `path` to a
text. -/
def circle : Vocabulary where
  enums := ∅
  definitions := .ofList [("gate", .refer "#/definitions/east"),
    ("east", .refer "#/definitions/west"), ("west", .refer "#/definitions/east"),
    ("path", .refer "#/definitions/goal"), ("goal", .primitive "string")]

/-- The chain from the gate comes back to the east. -/
theorem comesBack_gate : circle.ComesBack "gate" "east" := by
  refine ⟨["gate", "east", "west"], rfl, ?_, by decide, by decide⟩
  exact .cons_cons ⟨_, _, rfl, rfl, rfl⟩
    (.cons_cons ⟨_, _, rfl, rfl, rfl⟩ (.cons_cons ⟨_, _, rfl, rfl, rfl⟩ (.singleton _)))

/-- The chain from the path ends in the goal. -/
theorem endsIn_path : circle.EndsIn "path" "goal" := by
  refine ⟨.single ⟨_, _, rfl, rfl, rfl⟩, ?_⟩
  rintro next ⟨p, q, hp, hreference, -⟩
  cases hp
  cases hreference

/-- The circle is met at `east` for the second time, and `path` leads to the text. -/
theorem underlying_outcome_circle :
    circle.ComesBack "gate" "east" ∧
    circle.underlying (.definition "gate") = .error (.refCycle "east") ∧
    (∀ again, ¬circle.ComesBack "path" again) ∧
    circle.underlying (.definition "path") = .ok (.primitive ⟨.string, none⟩) := by
  obtain ⟨-, -, hback, hend⟩ := underlying_outcome circle
  obtain ⟨last, hlast, -, hunderlying⟩ := hend "path" endsIn_path.not_comesBack
  obtain rfl : last = "goal" := hlast.unique endsIn_path
  exact ⟨comesBack_gate, (hback "gate" "east").2 comesBack_gate, endsIn_path.not_comesBack,
    hunderlying⟩

end EntityModel.Vocabulary
