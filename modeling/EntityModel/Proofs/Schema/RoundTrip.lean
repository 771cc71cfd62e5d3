import EntityModel.Proofs.Json.Restore
import EntityModel.Proofs.Json.Yields
import EntityModel.Schema.Json

/-! # Schemas are read back

A schema that was read from a text is the one that is read from its own value
(`ofValue_toValue_of_parse`). Writing leaves out what is absent or empty, which is what reading
fills in; what keeps a schema from being read back are members out of order and a null that is
there, and neither can be read (`Schema.regular_of_parse`). -/

namespace EntityModel

open Json Decoder

/-! ## What is read -/

/-- A property that can be read back: the members of it and of the values in it stand in order, and
null is nothing it holds. -/
inductive Property.Regular : Property → Prop where
  | intro {p : Property} (ascending : Entries.Ascending p.properties)
    (additional : ∀ v ∈ p.additionalProperties, v ≠ .null ∧ v.Ordered)
    (items : ∀ q ∈ p.items, Regular q) (members : ∀ e ∈ p.properties, Regular e.2) : Regular p

/-- An entity all of whose properties can be read back. -/
def Entity.Regular (e : Entity) : Prop := ∀ named ∈ e.properties.entries, named.2.Regular

/-- A schema all of whose properties can be read back. -/
structure Schema.Regular (s : Schema) : Prop where
  /-- The shared definitions. -/
  definitions : ∀ named ∈ s.definitions.entries, named.2.Regular
  /-- The entities. -/
  entities : ∀ named ∈ s.entities.entries, named.2.Regular

/-- The property that says nothing is regular. -/
theorem Property.regular_blank : blank.Regular :=
  .intro .nil (by simp [blank]) (by simp [blank]) (by simp [blank])

/-- Only its items, its members and what it may hold besides these matter for whether a property can
be read back. -/
theorem Property.Regular.of_eq {p q : Property} (h : p.Regular) (hitems : q.items = p.items)
    (hproperties : q.properties = p.properties)
    (hadditional : q.additionalProperties = p.additionalProperties) : q.Regular := by
  obtain ⟨hascending, hvalues, hregular, hmembers⟩ := h
  rw [← hproperties] at hascending hmembers
  rw [← hadditional] at hvalues
  rw [← hitems] at hregular
  exact ⟨hascending, hvalues, hregular, hmembers⟩

/-- A property is regular if the ones inside of it are. -/
theorem Property.yields_record {inner : Decoder Property} (h : inner.Yields Regular) :
    (record inner).decode.Yields Regular := by
  refine Record.yields regular_blank ?_
  simp only [record, List.forall_mem_cons, List.not_mem_nil, false_imp_iff, implies_true, and_true]
  -- One case for each field, in the order of the record.
  refine ⟨?_, ?_, ?_, ?_, ?_, ?_, ?_, ?_⟩
  · exact Field.keeps_of_set fun _ _ hp => hp.of_eq rfl rfl rfl
  · exact Field.keeps_of_set fun _ _ hp => hp.of_eq rfl rfl rfl
  · exact Field.keeps_of_set fun _ _ hp => hp.of_eq rfl rfl rfl
  · exact Field.keeps_of_set fun _ _ hp => hp.of_eq rfl rfl rfl
  · exact Field.keeps_withDefault h.optional
      fun _ _ hitems ⟨hascending, hadditional, _, hmembers⟩ =>
        ⟨hascending, hadditional, hitems, hmembers⟩
  · exact Field.keeps_withDefault h.entries
      fun _ _ hmembers ⟨_, hadditional, hitems, _⟩ =>
        ⟨hmembers.1, hadditional, hitems, hmembers.2⟩
  · exact Field.keeps_of_set fun _ _ hp => hp.of_eq rfl rfl rfl
  · exact Field.keeps_withDefault yields_optional_any
      fun _ _ hadditional ⟨hascending, _, hitems, hmembers⟩ =>
        ⟨hascending, hadditional, hitems, hmembers⟩

/-- Properties that are read are regular, however deep they may be. -/
theorem Property.yields_decoderWithin (levels : Nat) : (decoderWithin levels).Yields Regular := by
  induction levels with
  | zero =>
    intro origin room node p hdecode
    exact absurd hdecode fail_ne_ok
  | succ levels ih =>
    intro origin room node p hdecode
    exact yields_record ih hdecode

/-- Every property that is read can be read back, however deep it is. -/
theorem Property.yields_decoder : decoder.Yields Regular :=
  fun _ room _ _ hdecode => yields_decoderWithin (room + 1) hdecode

/-- Entities that are read are regular. -/
theorem Entity.yields_record : record.decode.Yields Regular := by
  refine Record.yields nofun ?_
  simp only [record, List.forall_mem_cons, List.not_mem_nil, false_imp_iff, implies_true, and_true]
  refine ⟨?_, ?_, ?_, ?_, ?_, ?_, ?_⟩
  · exact Field.keeps_of_set fun _ _ h => h
  · exact Field.keeps_of_set fun _ _ h => h
  · exact Field.keeps_withDefault Property.yields_decoder.nameMap fun _ _ h _ => h
  · exact Field.keeps_of_set fun _ _ h => h
  · exact Field.keeps_of_set fun _ _ h => h
  · exact Field.keeps_of_set fun _ _ h => h
  · exact Field.keeps_of_set fun _ _ h => h

/-- Schemas that are read are regular. -/
theorem Schema.yields_record : record.decode.Yields Regular := by
  refine Record.yields ⟨nofun, nofun⟩ ?_
  simp only [record, List.forall_mem_cons, List.not_mem_nil, false_imp_iff, implies_true, and_true]
  refine ⟨?_, ?_, ?_, ?_, ?_, ?_⟩
  · exact Field.keeps_of_set fun _ _ h => ⟨h.definitions, h.entities⟩
  · exact Field.keeps_of_set fun _ _ h => ⟨h.definitions, h.entities⟩
  · exact Field.keeps_of_set fun _ _ h => ⟨h.definitions, h.entities⟩
  · exact Field.keeps_of_set fun _ _ h => ⟨h.definitions, h.entities⟩
  · exact Field.keeps_withDefault Property.yields_decoder.nameMap
      fun _ _ hdefinitions h => ⟨hdefinitions, h.entities⟩
  · exact Field.keeps_withDefault Entity.yields_record.nameMap
      fun _ _ hentities h => ⟨h.definitions, hentities⟩

/-- Every schema that is read can be read back. -/
theorem Schema.regular_of_parse {text : String} {s : Schema} (h : parse text = .ok s) : s.Regular :=
  of_decodeText yields_record h

/-! ## Records without optional members -/

/-- An enumeration is restored from its value. -/
theorem Enumeration.restores_toValue (e : Enumeration) :
    Restores record.decode e.toValue e := by
  refine Record.restores _ (List.Sublist.refl _) (by simp)
    (by simp [record]) (by simp [record]) ?_
  exact .field rfl (restores_string _) <| .field rfl (restores_string _) <|
    .field rfl (restores_strings _) <| .field rfl (restores_strings _) .nil

/-- A relationship is restored from its value. -/
theorem Relationship.restores_toValue (r : Relationship) :
    Restores record.decode r.toValue r := by
  refine Record.restores _ (List.Sublist.refl _) (by simp)
    (by simp [record])
    (by simp [record]) ?_
  exact .field rfl (restores_variant r.cardinality.find?_name) <|
    .field rfl (restores_variant r.storage.find?_name) <| .field rfl (restores_string _) .nil

/-- A natural key is restored from its value. -/
theorem NaturalKey.restores_toValue (k : NaturalKey) : Restores record.decode k.toValue k := by
  refine Record.restores _ (List.Sublist.refl _) (by simp)
    (by simp [record])
    (by simp [record]) ?_
  exact .field rfl (restores_string _) <| .field rfl (restores_strings _) <|
    .field rfl (restores_string _) .nil

/-- A state machine is restored from its value. -/
theorem StateMachine.restores_toValue (s : StateMachine) :
    Restores record.decode s.toValue s := by
  refine Record.restores _ (List.Sublist.refl _) (by simp)
    (by simp [record])
    (by simp [record]) ?_
  exact .field rfl (restores_string _) <| .field rfl (restores_string _) <|
    .field rfl (restores_strings _) .nil

/-- The meaning of identifiers is restored from its value. -/
theorem IdSemantics.restores_toValue (s : IdSemantics) : Restores record.decode s.toValue s := by
  refine Record.restores _ (List.Sublist.refl _) (by simp)
    (by simp [record])
    (by simp [record]) ?_
  exact .field rfl (restores_string _) <| .field rfl (restores_bool _) <|
    .field rfl (restores_string _) <| .field rfl (restores_string _) .nil

/-- The metadata is restored from its value. -/
theorem Metadata.restores_status (m : Metadata) :
    Restores record.decode (.object [("status", .string m.status)]) m := by
  refine Record.restores _ (List.Sublist.refl _) (by simp)
    (by simp [record])
    (by simp [record]) ?_
  exact .field rfl (restores_string _) .nil

/-! ## Members that may be left out -/

/-- The member of an object, if there is anything in its list. -/
def filledMember {α : Type} (name : String) (encode : List α → Value) :
    List α → List (String × Value)
  | [] => []
  | items => [(name, encode items)]

/-- A member that may be missing adds its name at most. -/
theorem names_presentMember_append {names : List String} {name : String} {value : Option Value}
    {ms : List (String × Value)} (h : (Entries.names ms).Sublist names) :
    (Entries.names (presentMember name value ++ ms)).Sublist (name :: names) := by
  cases value with
  | none => exact h.cons name
  | some v => exact h.cons_cons name

/-- A member that is left out if it is empty adds its name at most. -/
theorem names_filledMember_append {α : Type} {names : List String} {name : String}
    {encode : List α → Value} {items : List α} {ms : List (String × Value)}
    (h : (Entries.names ms).Sublist names) :
    (Entries.names (filledMember name encode items ++ ms)).Sublist (name :: names) := by
  cases items with
  | nil => exact h.cons name
  | cons item rest => exact h.cons_cons name

section

variable {σ α : Type} {r : Record σ} {s t : σ} {ms : List (String × Value)} {name : String}
  {required : Bool} {d : Decoder α}

/-- A member that is left out leaves nothing where nothing is. -/
theorem Json.Record.Fills.present {set : Option α → σ → σ} {encode : α → Value} {o : Option α}
    (hfind : r.fields.find? (·.name = name) =
      some ⟨name, required, fun origin room node s => (set · s) <$> optional d origin room node⟩)
    (hnone : set none s = s) (h : ∀ a ∈ o, Restores d (encode a) a ∧ encode a ≠ .null)
    (hrest : r.Fills (set o s) ms t) : r.Fills s (presentMember name (o.map encode) ++ ms) t := by
  cases o with
  | none =>
    rw [hnone] at hrest
    exact hrest
  | some a =>
    obtain ⟨ha, hnull⟩ := h a rfl
    exact .field hfind (ha.optional hnull) hrest

/-- A list that is left out leaves an empty one empty. -/
theorem Json.Record.Fills.filled {d : Decoder (List α)} {set : List α → σ → σ}
    {encode : List α → Value} {items : List α}
    (hfind : r.fields.find? (·.name = name) =
      some ⟨name, required, fun origin room node s => (set · s) <$> d origin room node⟩)
    (hnil : set [] s = s) (h : Restores d (encode items) items)
    (hrest : r.Fills (set items s) ms t) : r.Fills s (filledMember name encode items ++ ms) t := by
  cases items with
  | nil =>
    rw [hnil] at hrest
    exact hrest
  | cons item rest => exact .field hfind h hrest

end

/-! ## Properties -/

/-- The items are written as the property that they are. -/
theorem itemsToValue_eq (items : Option Property) : itemsToValue items = items.map (·.toValue) := by
  cases items with
  | none => rw [itemsToValue, Option.map_none]
  | some p => rw [itemsToValue, Option.map_some]

/-- The members are written one by one. -/
theorem propertiesToValue_eq (properties : List (String × Property)) :
    propertiesToValue properties = properties.map fun e => (e.1, e.2.toValue) := by
  induction properties with
  | nil => rw [propertiesToValue, List.map_nil]
  | cons e rest ih => rw [propertiesToValue, ih, List.map_cons]

/-- The members of the object a property is written as. -/
def Property.writtenMembers (p : Property) : List (String × Value) :=
  presentMember "$ref" (p.reference.map .string) ++
  (presentMember "additionalProperties" (p.additionalProperties.map id) ++
  (presentMember "description" (p.description.map .string) ++
  (presentMember "format" (p.format.map .string) ++
  (presentMember "items" (p.items.map (·.toValue)) ++
  (filledMember "properties" (fun es => .object (es.map fun e => (e.1, e.2.toValue)))
    p.properties ++
  (filledMember "required" .strings p.required ++
  (presentMember "type" (p.type.map .string) ++ [])))))))

/-- A property is written as an object of its members. -/
theorem Property.toValue_eq (p : Property) : p.toValue = .object p.writtenMembers := by
  obtain ⟨type, format, reference, description, items, properties, required, additional⟩ := p
  unfold toValue
  rw [writtenMembers, itemsToValue_eq, propertiesToValue_eq]
  simp only [List.append_assoc, List.append_nil, Option.map_id, id_eq]
  cases properties <;> cases required <;> rfl

/-- The members of a property are written in the order of their names. -/
theorem Property.names_writtenMembers (p : Property) :
    (Entries.names p.writtenMembers).Sublist ["$ref", "additionalProperties", "description",
      "format", "items", "properties", "required", "type"] :=
  names_presentMember_append <| names_presentMember_append <| names_presentMember_append <|
    names_presentMember_append <| names_presentMember_append <| names_filledMember_append <|
    names_filledMember_append <| names_presentMember_append <| List.Sublist.refl _

/-- No property is written as null. -/
theorem Property.toValue_ne_null (p : Property) : p.toValue ≠ .null := by
  rw [toValue_eq]
  exact fun h => nomatch h

/-- The items of a property are less deep than the property. -/
theorem Property.depth_items_lt {p q : Property} (h : q ∈ p.items) :
    q.toValue.depth < p.toValue.depth := by
  have hmem : ("items", q.toValue) ∈ p.writtenMembers := by
    simp [writtenMembers, Option.mem_def.1 h, presentMember]
  rw [toValue_eq p, Value.depth_object]
  exact Nat.lt_succ_of_le (Value.depth_le_depthMembers hmem)

/-- The members of a property are less deep than the property. -/
theorem Property.depth_properties_lt {p : Property} {e : String × Property}
    (h : e ∈ p.properties) : e.2.toValue.depth < p.toValue.depth := by
  let object := Value.object (p.properties.map fun e => (e.1, e.2.toValue))
  have hmem : ("properties", object) ∈ p.writtenMembers := by
    obtain ⟨first, rest, hcons⟩ := List.exists_cons_of_ne_nil (List.ne_nil_of_mem h)
    simp [writtenMembers, object, hcons, filledMember]
  -- The members stand in an object of their own, one level further in.
  have hinner : e.2.toValue.depth < object.depth := by
    have he := List.mem_map_of_mem (f := fun e : String × Property => (e.1, e.2.toValue)) h
    rw [Value.depth_object]
    exact Nat.lt_succ_of_le (Value.depth_le_depthMembers he)
  rw [toValue_eq p, Value.depth_object]
  exact Nat.lt_succ_of_lt (Nat.lt_of_lt_of_le hinner (Value.depth_le_depthMembers hmem))

/-- If the decoder of the inner properties restores them, a property is restored. -/
theorem Property.restores_record {inner : Decoder Property} {p : Property}
    (hascending : Entries.Ascending p.properties)
    (hadditional : ∀ v ∈ p.additionalProperties, v ≠ .null ∧ v.Ordered)
    (hitems : ∀ q ∈ p.items, Restores inner q.toValue q)
    (hmembers : ∀ e ∈ p.properties, Restores inner e.2.toValue e.2) :
    Restores (record inner).decode p.toValue p := by
  have hstring : ∀ (o : Option String), ∀ s ∈ o,
      Restores string (.string s) s ∧ Value.string s ≠ .null :=
    fun _ s _ => ⟨restores_string s, fun h => nomatch h⟩
  rw [toValue_eq]
  refine Record.restores _ (names_writtenMembers p) (by decide) (by simp [record])
    (by simp [record]) ?_
  -- No field is filled in before its own member, so the one that is left out is still blank.
  obtain ⟨type, format, reference, description, items, properties, required, additional⟩ := p
  exact .present rfl rfl (hstring _) <|
    .present rfl rfl (fun v hv => ⟨restores_any (hadditional v hv).2, (hadditional v hv).1⟩) <|
    .present rfl rfl (hstring _) <|
    .present rfl rfl (hstring _) <|
    .present rfl rfl (fun q hq => ⟨hitems q hq, q.toValue_ne_null⟩) <|
    .filled rfl rfl (Restores.entries hascending hmembers) <|
    .filled rfl rfl (restores_strings _) <|
    .present rfl rfl (hstring _) .nil

/-- A regular property is restored where there is room for it. -/
theorem Property.restores_decoderWithin {p : Property} (h : p.Regular) {levels : Nat}
    (hlevels : p.toValue.depth < levels) : Restores (decoderWithin levels) p.toValue p := by
  induction h generalizing levels with
  | @intro p hascending hadditional _ _ hitems hmembers =>
    match levels, hlevels with
    | levels + 1, hlevels =>
      have hroom := Nat.le_of_lt_succ hlevels
      exact restores_record hascending hadditional
        (fun q hq => hitems q hq (Nat.lt_of_lt_of_le (depth_items_lt hq) hroom))
        (fun e he => hmembers e he (Nat.lt_of_lt_of_le (depth_properties_lt he) hroom))

/-- A regular property is restored from its value. -/
theorem Property.restores_toValue {p : Property} (h : p.Regular) :
    Restores decoder p.toValue p :=
  fun room hroom => restores_decoderWithin h (Nat.lt_succ_of_le hroom) room hroom

/-! ## Entities and schemas -/

/-- A regular entity is restored from its value. -/
theorem Entity.restores_toValue {e : Entity} (h : e.Regular) :
    Restores record.decode e.toValue e := by
  have hvalue : e.toValue = .object (("description", .string e.description) ::
      ("invariants", .strings e.invariants) ::
      ("natural_keys", .array (e.naturalKeys.map (·.toValue))) ::
      ("properties", e.properties.toValue (·.toValue)) ::
      ("relationships", e.relationships.toValue (·.toValue)) ::
      ("required", .strings e.required) ::
      (presentMember "states" (e.states.map (·.toValue)) ++ [])) := by
    rw [List.append_nil]
    rfl
  rw [hvalue]
  refine Record.restores ["description", "invariants", "natural_keys", "properties",
    "relationships", "required", "states"] ?_ (by decide) (by simp [record]) (by simp [record]) ?_
  · simp only [Entries.names_cons, List.cons_sublist_cons]
    exact names_presentMember_append (List.Sublist.refl _)
  · -- The members stand in the order of their names, not in that of the fields.
    exact .field rfl (restores_string _) <| .field rfl (restores_strings _) <|
      .field rfl (Restores.list fun k _ => k.restores_toValue) <|
      .field rfl (Restores.nameMap fun named hnamed =>
        Property.restores_toValue (h named hnamed)) <|
      .field rfl (Restores.nameMap fun named _ => named.2.restores_toValue) <|
      .field rfl (restores_strings _) <|
      .present rfl rfl (fun s _ => ⟨s.restores_toValue, fun h => nomatch h⟩) .nil

/-- A regular schema is restored from its value. -/
theorem Schema.restores_toValue {s : Schema} (h : s.Regular) :
    Restores record.decode s.toValue s := by
  have hvalue : s.toValue = .object (("definitions", s.definitions.toValue (·.toValue)) ::
      ("entities", s.entities.toValue (·.toValue)) ::
      ("enums", s.enums.toValue (·.toValue)) ::
      (presentMember "id_semantics" (s.idSemantics.map (·.toValue)) ++ [
      ("metadata", .object [("status", .string s.metadata.status)]),
      ("version", .string s.version)])) := by
    rw [toValue, List.append_assoc]
    rfl
  rw [hvalue]
  refine Record.restores ["definitions", "entities", "enums", "id_semantics", "metadata",
    "version"] ?_ (by decide) (by simp [record]) (by simp [record]) ?_
  · simp only [Entries.names_cons, List.cons_sublist_cons]
    exact names_presentMember_append (List.Sublist.refl _)
  · exact .field rfl (Restores.nameMap fun named hnamed =>
        Property.restores_toValue (h.definitions named hnamed)) <|
      .field rfl (Restores.nameMap fun named hnamed =>
        Entity.restores_toValue (h.entities named hnamed)) <|
      .field rfl (Restores.nameMap fun named _ => named.2.restores_toValue) <|
      .present rfl rfl (fun i _ => ⟨i.restores_toValue, fun h => nomatch h⟩) <|
      .field rfl s.metadata.restores_status <| .field rfl (restores_string _) .nil

/-- **A schema that was read is the one that is read from its own value**, with all its properties
and the values in them, however deep. -/
theorem Schema.ofValue_toValue_of_parse {text : String} {s : Schema}
    (h : parse text = .ok s) : ofValue s.toValue = .ok s :=
  (restores_toValue (regular_of_parse h)).decodeValue

/-- A herd with a state machine and a property whose members, on every level, stand out of order. -/
def Schema.herdText : String :=
  "\x7b\"entities\":\x7b\"Herd\":\x7b\"states\":\x7b\"enum\":\"Phase\"\x7d," ++
  "\"properties\":\x7b\"size\":\x7b\"items\":\x7b\"properties\":\x7b\"low\":\x7b\x7d," ++
  "\"all\":\x7b\x7d\x7d\x7d,\"additionalProperties\":\x7b\"b\":1.50,\"a\":[null,-0]" ++
  "\x7d\x7d\x7d\x7d\x7d\x7d"

/-- The schema of a herd is restored from its value. -/
theorem Schema.ofValue_toValue_herd :
    ∃ s, parse herdText = .ok s ∧ ofValue s.toValue = .ok s := by
  have hok : (parse herdText).isOk = true := by decide +kernel
  cases hparse : parse herdText with
  | error problem =>
    rw [hparse] at hok
    cases hok
  | ok s => exact ⟨s, rfl, ofValue_toValue_of_parse hparse⟩

end EntityModel
