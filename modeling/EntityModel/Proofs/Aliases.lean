import EntityModel.Proofs.Go.Types
import EntityModel.Proofs.Types.Chains
import EntityModel.Relational.Planner

/-! # Aliases

A definition that is nothing but a reference to another one is an alias of it. The same type is
behind both, but a name may tell a type on its own: the well-known definitions have a column and a
Go type whatever they are, and a definition with a struct has the struct. Properties that refer to
an alias and to what it is an alias of have the same type exactly if both names tell the same, or if
neither tells anything but what is behind it (`alias_agrees_iff`). -/

namespace EntityModel

open Reference

/-! ## Names that tell a type -/

section

variable {α : Type} {told told' : Option α} {behind behind' : α → Prop} {a b : α}

/-- What a name stands for: what it tells or, if it tells nothing, what is behind it. -/
def StandsFor (told : Option α) (behind : α → Prop) (a : α) : Prop :=
  told = some a ∨ told = none ∧ behind a

/-- If the name tells anything, it is what is behind it. -/
def TellsBehind (told : Option α) (behind : α → Prop) : Prop := ∀ a, told = some a → behind a

/-- A name that tells nothing tells nothing else than what is behind it. -/
theorem tellsBehind_none : TellsBehind none behind := nofun

/-- Two names with the same behind them stand for the same exactly if they tell the same, or nothing
else than what is behind them. -/
theorem StandsFor.eq_iff (ha : StandsFor told behind a) (hb : StandsFor told' behind' b)
    (hsame : ∀ x, behind x ↔ behind' x) (hunique : ∀ x y, behind x → behind y → x = y) :
    a = b ↔ told = told' ∨ TellsBehind told behind ∧ TellsBehind told' behind' := by
  -- Each of the two names tells its meaning, or tells none and stands for what is behind it.
  rcases ha with rfl | ⟨rfl, ha⟩ <;> rcases hb with rfl | ⟨rfl, hb⟩
  · constructor
    · exact fun heq => .inl (congrArg some heq)
    · rintro (heq | ⟨htells, htells'⟩)
      · exact Option.some.inj heq
      · exact hunique a b (htells a rfl) ((hsame b).2 (htells' b rfl))
  · have hb := (hsame b).2 hb
    constructor
    · rintro rfl
      exact .inr ⟨fun x hx => Option.some.inj hx ▸ hb, tellsBehind_none⟩
    · rintro (heq | ⟨htells, -⟩)
      · cases heq
      · exact hunique a b (htells a rfl) hb
  · constructor
    · rintro rfl
      exact .inr ⟨tellsBehind_none, fun x hx => Option.some.inj hx ▸ (hsame a).1 ha⟩
    · rintro (heq | ⟨-, htells⟩)
      · cases heq
      · exact hunique a b ha ((hsame b).2 (htells b rfl))
  · exact iff_of_true (hunique a b ha ((hsame b).2 hb)) (.inl rfl)

end

namespace Vocabulary

variable {v : Vocabulary} {name target : String} {p : Property} {behind : SemanticType}

/-- The definition of the first name is nothing but a reference to the one of the second. -/
def IsAlias (v : Vocabulary) (name target : String) : Prop :=
  v.definitions.find? name = some (.refer (definitionsPath ++ target)) ∧
    v.definitions.contains target = true

/-- An alias refers to what it is an alias of. -/
theorem IsAlias.refersOn (h : v.IsAlias name target) : v.RefersOn name target := by
  obtain ⟨q, hq⟩ := Option.isSome_iff_exists.1 h.2
  exact ⟨_, q, h.1, rfl, hq⟩

/-- Behind a reference is what is behind its target. -/
theorem RefersOn.underlying_eq_ok_iff (h : v.RefersOn name target) :
    v.underlying (.definition name) = .ok behind ↔
      v.underlying (.definition target) = .ok behind := by
  rw [Vocabulary.underlying_eq_ok_iff, Vocabulary.underlying_eq_ok_iff]
  exact exists_congr fun last => and_congr_left fun _ =>
    ⟨fun hlast => hlast.of_reaches (.single h), fun hlast => hlast.of_refersOn h⟩

/-- Behind a reference to a definition that is no reference stands what this one means. -/
theorem RefersOn.underlying_eq_ok (h : v.RefersOn name target)
    (hmeaning : v.meaning target = .ok behind) (hne : ∀ next, behind ≠ .definition next) :
    v.underlying (.definition name) = .ok behind := by
  have hend : v.EndsIn target target := by
    refine ⟨.refl, fun next hnext => hne next ?_⟩
    exact Except.ok.inj (hmeaning.symm.trans (refersOn_iff_meaning.1 hnext))
  rw [(hend.of_refersOn h).underlying, hmeaning]

/-- A property that refers to a definition means it, if it means anything. -/
theorem eq_definition_of_resolve {type : SemanticType}
    (hp : p.reference = some (definitionsPath ++ name)) (h : v.resolve p = .ok type) :
    type = .definition name := by
  rw [resolve_reference hp, resolveReference_eq_ok_iff] at h
  simp only [← ofTarget_eq_definition_iff, ← ofTarget_eq_enumeration_iff, ofTarget_definition] at h
  rcases h with ⟨other, hother, -, rfl⟩ | ⟨other, hother, -⟩
  · rw [Reference.definition.inj hother]
  · cases hother

/-! ## Columns -/

end Vocabulary

/-- The column of a well-known definition. -/
def WellKnown.column (known : WellKnown) : ColumnShape :=
  ⟨if known.isIdentifier then .uuid else .timestamp, none⟩

namespace Vocabulary

variable {v : Vocabulary} {name target : String} {p q : Property} {shape shape' : ColumnShape}

/-- The column that the name of a definition tells. -/
def toldColumn? (name : String) : Option ColumnShape :=
  (WellKnown.ofDefinition? name).map WellKnown.column

/-- The column is the one of the type behind the definition. -/
def ColumnBehind (v : Vocabulary) (name : String) (shape : ColumnShape) : Prop :=
  ∃ type, v.underlying (.definition name) = .ok type ∧ v.directColumn type = shape

/-- The column of a definition is the one that its name stands for. -/
theorem columnOfType_definition_eq_ok_iff : v.columnOfType (.definition name) = .ok shape ↔
    StandsFor (toldColumn? name) (v.ColumnBehind name) shape := by
  unfold toldColumn? StandsFor ColumnBehind
  cases hknown : WellKnown.ofDefinition? name with
  | some known => simp [columnOfType, hknown, WellKnown.column]
  | none => simp [columnOfType, hknown, Outcome.map_eq_ok_iff]

/-- A property that refers to a definition has the column that the definition stands for. -/
theorem standsFor_columnShape (hp : p.reference = some (definitionsPath ++ name))
    (h : v.columnShape p = .ok shape) :
    StandsFor (toldColumn? name) (v.ColumnBehind name) shape := by
  obtain ⟨type, htype, hshape⟩ := Outcome.bind_eq_ok_iff.1 h
  rw [eq_definition_of_resolve hp htype] at hshape
  exact columnOfType_definition_eq_ok_iff.1 hshape

/-- A definition that refers to another one has the same column behind it. -/
theorem RefersOn.columnBehind_iff (h : v.RefersOn name target) (shape : ColumnShape) :
    v.ColumnBehind name shape ↔ v.ColumnBehind target shape :=
  exists_congr fun _ => and_congr_left fun _ => h.underlying_eq_ok_iff

/-- No more than one column is behind a definition. -/
theorem ColumnBehind.unique (h : v.ColumnBehind name shape) (h' : v.ColumnBehind name shape') :
    shape = shape' := by
  obtain ⟨type, htype, rfl⟩ := h
  obtain ⟨type', htype', rfl⟩ := h'
  rw [Except.ok.inj (htype.symm.trans htype')]

end Vocabulary

/-! ## Go types -/

namespace Go

variable {v : Vocabulary} {name target : String} {p : Property} {required : Bool}
  {type : SemanticType} {g g' : GoType}

/-- The Go type of a well-known definition. -/
def wellKnownType (known : WellKnown) : GoType := if known.isIdentifier then .string else .time

/-- The Go type that the name of a definition tells. -/
def toldType? (v : Vocabulary) (name : String) : Option GoType :=
  match WellKnown.ofDefinition? name with
  | some known => some (wellKnownType known)
  | none => if hasStruct v name then some (.named (Naming.camel name)) else none

/-- The Go type is the one of the type behind the definition. -/
def TypeBehind (v : Vocabulary) (name : String) (g : GoType) : Prop :=
  ∃ type, v.underlying (.definition name) = .ok type ∧ typeOf v type = .ok g

/-- A reference to a definition has the Go type that the definition stands for. -/
theorem standsFor_typeOf (h : typeOf v (.definition name) = .ok g) :
    StandsFor (toldType? v name) (TypeBehind v name) g := by
  unfold StandsFor toldType?
  rcases typeOf_definition_eq_ok h with ⟨known, hknown, rfl⟩ |
    ⟨hnone, ⟨hstruct, rfl⟩ | ⟨hstruct, behind, hbehind, hg⟩⟩
  · rw [hknown]
    exact .inl rfl
  · rw [hnone, hstruct]
    exact .inl rfl
  · rw [hnone, hstruct]
    exact .inr ⟨rfl, behind, hbehind, hg⟩

/-- A definition that refers to another one has the same Go type behind it. -/
theorem typeBehind_iff_of_refersOn (h : v.RefersOn name target) (g : GoType) :
    TypeBehind v name g ↔ TypeBehind v target g :=
  exists_congr fun _ => and_congr_left fun _ => h.underlying_eq_ok_iff

/-- No more than one Go type is behind a definition. -/
theorem TypeBehind.unique (h : TypeBehind v name g) (h' : TypeBehind v name g') : g = g' := by
  obtain ⟨type, htype, hg⟩ := h
  obtain ⟨type', htype', hg'⟩ := h'
  obtain rfl := Except.ok.inj (htype.symm.trans htype')
  exact Except.ok.inj (hg.symm.trans hg')

/-- Only the field of a struct is a pointer, and no type that is held in it. -/
theorem typeFor_ne_pointer {outcome : Except ResolveError GoType} (h : TypeFor v type outcome)
    (value : GoType) : outcome ≠ .ok (.pointer value) := by
  induction h with
  | primitive q =>
    unfold primitiveType
    split
    · nofun
    · split <;> nofun
  | wellKnown => split <;> nofun
  | behind _ _ _ _ ih => exact ih
  | array =>
    intro heq
    obtain ⟨_, -, hg⟩ := Outcome.map_eq_ok_iff.1 heq
    cases hg
  | _ => nofun

/-- A Go type is no pointer. -/
theorem typeOf_ne_pointer (h : typeOf v type = .ok g) (value : GoType) : g ≠ .pointer value := by
  rintro rfl
  exact typeFor_ne_pointer (typeOf_eq_ok_iff.1 h) value rfl

/-- Types that are no pointers are told apart by the types of their fields. -/
theorem forField_inj (hg : ∀ value, g ≠ .pointer value) (hg' : ∀ value, g' ≠ .pointer value) :
    g.forField required = g'.forField required ↔ g = g' := by
  refine ⟨fun heq => ?_, fun heq => heq ▸ rfl⟩
  unfold GoType.forField at heq
  split at heq <;> split at heq
  · exact heq
  · exact absurd heq (hg g')
  · exact absurd heq.symm (hg' g)
  · exact GoType.pointer.inj heq

end Go

/-! ## Aliases and what they are aliases of -/

/-- **Properties that refer to an alias and to what it is an alias of have the same type, unless a
name tells another one than what is behind it.** So they have one column exactly if the two names
tell the same column (or none), or no other than the one behind them; and likewise one Go type. -/
theorem alias_agrees_iff {v : Vocabulary} {name target : String} {p q : Property}
    (halias : v.IsAlias name target) (hp : p.reference = some (definitionsPath ++ name))
    (hq : q.reference = some (definitionsPath ++ target)) :
    (∀ shape shape', v.columnShape p = .ok shape → v.columnShape q = .ok shape' →
      (shape = shape' ↔ Vocabulary.toldColumn? name = Vocabulary.toldColumn? target ∨
        TellsBehind (Vocabulary.toldColumn? name) (v.ColumnBehind name) ∧
          TellsBehind (Vocabulary.toldColumn? target) (v.ColumnBehind target))) ∧
    ∀ required g g', Go.fieldType v p required = .ok g → Go.fieldType v q required = .ok g' →
      (g = g' ↔ Go.toldType? v name = Go.toldType? v target ∨
        TellsBehind (Go.toldType? v name) (Go.TypeBehind v name) ∧
          TellsBehind (Go.toldType? v target) (Go.TypeBehind v target)) := by
  have hrefers := halias.refersOn
  constructor
  · intro shape shape' hshape hshape'
    exact (Vocabulary.standsFor_columnShape hp hshape).eq_iff
      (Vocabulary.standsFor_columnShape hq hshape') hrefers.columnBehind_iff
      fun _ _ h h' => h.unique h'
  · intro required g g' hg hg'
    obtain ⟨type, base, htype, hbase, rfl⟩ := Go.fieldType_eq_ok_iff.1 hg
    obtain ⟨type', base', htype', hbase', rfl⟩ := Go.fieldType_eq_ok_iff.1 hg'
    obtain rfl := Vocabulary.eq_definition_of_resolve hp htype
    obtain rfl := Vocabulary.eq_definition_of_resolve hq htype'
    -- No type of a definition is a pointer, so the fields have one type if the definitions have.
    rw [Go.forField_inj (Go.typeOf_ne_pointer hbase) (Go.typeOf_ne_pointer hbase')]
    exact (Go.standsFor_typeOf hbase).eq_iff (Go.standsFor_typeOf hbase')
      (Go.typeBehind_iff_of_refersOn hrefers) fun _ _ h h' => h.unique h'

/-! ## Names that tell more than is behind them -/

/-- Definitions with their aliases: of an identifier, of a text that is called a point in time, and
of an object with a struct. -/
def aliases : Vocabulary where
  enums := ∅
  definitions := .ofList [("id", (Property.primitive "string").withFormat "uuid"),
    ("key", .refer "#/definitions/id"), ("timestamp", .primitive "string"),
    ("moment", .refer "#/definitions/timestamp"),
    ("address", { Property.primitive "object" with
      properties := [("street", .primitive "string")], required := ["street"] }),
    ("home", .refer "#/definitions/address")]

/-- The moment of `aliases` is an alias of what is called a point in time. -/
theorem isAlias_moment : aliases.IsAlias "moment" "timestamp" := ⟨rfl, rfl⟩

/-- The home of `aliases` is an alias of the address. -/
theorem isAlias_home : aliases.IsAlias "home" "address" := ⟨rfl, rfl⟩

/-- The Go type of the moment is the one of the text behind it. -/
theorem typeOf_moment : Go.typeOf aliases (.definition "moment") = .ok .string := by
  have hbehind : aliases.underlying (.definition "moment") = .ok (.primitive ⟨.string, none⟩) :=
    isAlias_moment.refersOn.underlying_eq_ok rfl nofun
  exact Go.typeOf_eq_ok_iff.2 (.behind (by decide) (by decide) hbehind (.primitive _))

/-- The Go type of the home is the one of the object behind it, without the struct. -/
theorem typeOf_home : Go.typeOf aliases (.definition "home") = .ok .anyMap := by
  have hbehind : aliases.underlying (.definition "home") =
      .ok (.object ⟨[("street", .primitive "string")], ["street"], none⟩) :=
    isAlias_home.refersOn.underlying_eq_ok rfl nofun
  exact Go.typeOf_eq_ok_iff.2 (.behind (by decide) (by decide) hbehind (.object _))

/-- A text that is called a point in time has the column and the Go type of one, and an alias of it
has those of a text. An object with a struct has the struct, and an alias of it has not. -/
theorem aliases_differ :
    aliases.IsAlias "moment" "timestamp" ∧
    aliases.columnShape (.refer "#/definitions/moment") = .ok ⟨.text, none⟩ ∧
    aliases.columnShape (.refer "#/definitions/timestamp") = .ok ⟨.timestamp, none⟩ ∧
    Go.fieldType aliases (.refer "#/definitions/moment") true = .ok .string ∧
    Go.fieldType aliases (.refer "#/definitions/timestamp") true = .ok .time ∧
    aliases.IsAlias "home" "address" ∧
    Go.fieldType aliases (.refer "#/definitions/home") true = .ok .anyMap ∧
    Go.fieldType aliases (.refer "#/definitions/address") true = .ok (.named "Address") := by
  have hcamel : Naming.camel "address" = "Address" := by decide
  refine ⟨isAlias_moment, by decide +kernel, by decide, ?_, ?_, isAlias_home, ?_, ?_⟩
  · exact Go.fieldType_eq_ok_iff.2 ⟨_, _, rfl, typeOf_moment, rfl⟩
  · exact Go.fieldType_eq_ok_iff.2 ⟨_, _, rfl, Go.typeOf_eq_ok_iff.2 (.wellKnown rfl), rfl⟩
  · exact Go.fieldType_eq_ok_iff.2 ⟨_, _, rfl, typeOf_home, rfl⟩
  · rw [← hcamel]
    exact Go.fieldType_eq_ok_iff.2
      ⟨_, _, rfl, Go.typeOf_eq_ok_iff.2 (.struct (by decide) (by decide)), rfl⟩

/-- The key of `aliases` is an identifier as what it is an alias of, whose name tells what is behind
it. -/
theorem alias_agrees_iff_key :
    aliases.IsAlias "key" "id" ∧
    aliases.columnShape (.refer "#/definitions/key") = .ok ⟨.uuid, none⟩ ∧
    aliases.columnShape (.refer "#/definitions/id") = .ok ⟨.uuid, none⟩ ∧
    (Vocabulary.toldColumn? "key" = Vocabulary.toldColumn? "id" ∨
      TellsBehind (Vocabulary.toldColumn? "key") (aliases.ColumnBehind "key") ∧
        TellsBehind (Vocabulary.toldColumn? "id") (aliases.ColumnBehind "id")) := by
  have halias : aliases.IsAlias "key" "id" := ⟨rfl, rfl⟩
  have hkey : aliases.columnShape (.refer "#/definitions/key") = .ok ⟨.uuid, none⟩ := by
    decide +kernel
  have hid : aliases.columnShape (.refer "#/definitions/id") = .ok ⟨.uuid, none⟩ := by
    decide
  exact ⟨halias, hkey, hid, ((alias_agrees_iff halias rfl rfl).1 _ _ hkey hid).1 rfl⟩

end EntityModel
