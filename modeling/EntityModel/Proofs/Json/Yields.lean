import EntityModel.Json.Decode
import EntityModel.Proofs.NameMap
import EntityModel.Proofs.Outcome

/-! # What decoders yield

A decoder yields what has some property if all it decodes has it, from whatever document
(`Decoder.Yields`). Lists and maps hold what the decoder of their parts yields, any value has its
members in order (`Decoder.yields_any`), and a record has what its defaults have and its fields keep
(`Record.yields`). -/

namespace EntityModel.Json

namespace Decoder

variable {α β : Type} {d : Decoder α} {P : α → Prop}

/-- All that is decoded has the property. -/
def Yields (d : Decoder α) (P : α → Prop) : Prop :=
  ∀ ⦃origin room node a⦄, d origin room node = .ok a → P a

/-- To refuse a node is no result. -/
theorem refuse_ne_ok {expected : String} {node : Node} {a : α} :
    refuse expected node ≠ .ok a := by
  unfold refuse
  split <;> exact fun h => nomatch h

/-- A fault is no result. -/
theorem fail_ne_ok {f : Fault} {a : α} : fail f ≠ .ok a := fun h => nomatch h

/-- What is optional is as it has to be if it is there. -/
theorem Yields.optional (h : Yields d P) : Yields (optional d) fun a => ∀ b ∈ a, P b := by
  intro origin room node a hdecode
  unfold Decoder.optional at hdecode
  split at hdecode
  · cases hdecode
    simp
  · obtain ⟨b, hb, rfl⟩ := Outcome.map_eq_ok_iff.1 hdecode
    simpa using h hb

/-! ## Arrays and maps -/

/-- Every item of a list is as it has to be. -/
theorem Yields.list (h : Yields d P) : Yields (list d) fun items => ∀ item ∈ items, P item := by
  intro origin room node items hdecode
  unfold Decoder.list at hdecode
  split at hdecode
  · exact absurd hdecode fail_ne_ok
  · obtain ⟨values, hvalues, hdecode⟩ := Outcome.bind_eq_ok_iff.1 hdecode
    obtain ⟨-, -, hdecode⟩ := Outcome.bind_eq_ok_iff.1 hdecode
    cases hdecode
    intro item hitem
    obtain ⟨node, -, hitem⟩ := Outcome.exists_source hvalues hitem
    exact h hitem
  · exact absurd hdecode refuse_ne_ok

/-- Every value of a member is as it has to be. -/
theorem Yields.members (h : Yields d P) {origin : Origin} {room : Nat}
    {ms : List (Except Fault String × Node)} {values : List (String × α)}
    (hdecode : members d origin room ms = .ok values) : ∀ e ∈ values, P e.2 := by
  induction ms generalizing values with
  | nil =>
    cases hdecode
    simp
  | cons m rest ih =>
    obtain ⟨_ | name, node⟩ := m
    · exact absurd hdecode fail_ne_ok
    · obtain ⟨value, hvalue, hdecode⟩ := Outcome.bind_eq_ok_iff.1 hdecode
      obtain ⟨others, hothers, hdecode⟩ := Outcome.bind_eq_ok_iff.1 hdecode
      cases hdecode
      exact List.forall_mem_cons.2 ⟨h hvalue, ih hothers⟩

/-- Entries ascend, and every value is as it has to be. -/
theorem Yields.entries (h : Yields d P) :
    Yields (entries d) fun es => Entries.Ascending es ∧ ∀ e ∈ es, P e.2 := by
  intro origin room node es hdecode
  unfold Decoder.entries at hdecode
  split at hdecode
  · exact absurd hdecode fail_ne_ok
  · exact absurd hdecode fail_ne_ok
  · obtain ⟨values, hvalues, hdecode⟩ := Outcome.bind_eq_ok_iff.1 hdecode
    obtain ⟨-, -, hdecode⟩ := Outcome.bind_eq_ok_iff.1 hdecode
    cases hdecode
    exact ⟨Entries.ascending_ofList _, fun e he => h.members hvalues e (Entries.mem_ofList he)⟩
  · exact absurd hdecode refuse_ne_ok

/-- Every value of a map is as it has to be. -/
theorem Yields.nameMap (h : Yields d P) : Yields (nameMap d) fun m => ∀ e ∈ m.entries, P e.2 := by
  intro origin room node m hdecode
  unfold Decoder.nameMap at hdecode
  split at hdecode
  · exact absurd hdecode fail_ne_ok
  · exact absurd hdecode fail_ne_ok
  · obtain ⟨values, hvalues, hdecode⟩ := Outcome.bind_eq_ok_iff.1 hdecode
    obtain ⟨-, -, hdecode⟩ := Outcome.bind_eq_ok_iff.1 hdecode
    cases hdecode
    exact fun e he => h.members hvalues e (Entries.mem_ofList he)
  · exact absurd hdecode refuse_ne_ok

/-! ## Any value -/

/-- Values of any kind have their members in order. -/
theorem yields_anyWithin (levels : Nat) : Yields (anyWithin levels) Value.Ordered := by
  induction levels with
  | zero =>
    intro origin room node v hdecode
    exact absurd hdecode fail_ne_ok
  | succ levels ih =>
    intro origin room node v hdecode
    unfold anyWithin at hdecode
    split at hdecode
    case h_1 | h_5 | h_7 | h_10 => cases hdecode
    case h_2 | h_3 | h_4 | h_6 =>
      cases hdecode
      trivial
    case h_8 =>
      obtain ⟨items, hitems, rfl⟩ := Outcome.map_eq_ok_iff.1 hdecode
      exact Value.orderedItems_iff.2 (ih.list hitems)
    case h_9 =>
      obtain ⟨members, hmembers, rfl⟩ := Outcome.map_eq_ok_iff.1 hdecode
      obtain ⟨hascending, hvalues⟩ := ih.entries hmembers
      exact ⟨hascending, Value.orderedMembers_iff.2 hvalues⟩

/-- Any value lists its members in order. -/
theorem yields_any : Yields any Value.Ordered :=
  fun _ room _ _ hdecode => yields_anyWithin (room + 1) hdecode

/-- Only null is decoded to null. -/
theorem any_eq_ok_null {origin : Origin} {room : Nat} {node : Node}
    (h : any origin room node = .ok .null) : node = .null := by
  unfold any anyWithin at h
  split at h
  case h_2 => rfl
  case h_8 =>
    obtain ⟨items, -, hnull⟩ := Outcome.map_eq_ok_iff.1 h
    cases hnull
  case h_9 =>
    obtain ⟨members, -, hnull⟩ := Outcome.map_eq_ok_iff.1 h
    cases hnull
  all_goals cases h

/-- Where null stands for nothing, any other value is there with its members in order. -/
theorem yields_optional_any :
    Yields (Decoder.optional any) fun a => ∀ v ∈ a, v ≠ .null ∧ v.Ordered := by
  intro origin room node a hdecode v hv
  refine ⟨?_, yields_any.optional hdecode v hv⟩
  rintro rfl
  unfold Decoder.optional at hdecode
  split at hdecode
  · cases hdecode
    cases hv
  · rename_i hnull
    obtain ⟨b, hb, rfl⟩ := Outcome.map_eq_ok_iff.1 hdecode
    cases hv
    exact hnull (any_eq_ok_null hb)

end Decoder

/-! ## Records -/

variable {σ α : Type} {I : σ → Prop}

/-- Filling in the field keeps the property of the record. -/
def Field.Keeps (field : Field σ) (I : σ → Prop) : Prop :=
  ∀ ⦃origin room node s t⦄, field.fill origin room node s = .ok t → I s → I t

/-- A field keeps what setting it keeps. -/
theorem Field.keeps_withDefault {name : String} {d : Decoder α} {set : α → σ → σ} {P : α → Prop}
    (h : d.Yields P) (hset : ∀ a s, P a → I s → I (set a s)) :
    (Field.withDefault name d set).Keeps I := by
  intro origin room node s t hfill hs
  obtain ⟨a, ha, rfl⟩ := Outcome.map_eq_ok_iff.1 hfill
  exact hset a s (h ha) hs

/-- A field that does not matter for the property. -/
theorem Field.keeps_of_set {name : String} {d : Decoder α} {set : α → σ → σ}
    (hset : ∀ a s, I s → I (set a s)) : (Field.withDefault name d set).Keeps I :=
  Field.keeps_withDefault (P := fun _ => True) (fun _ _ _ _ _ => trivial) fun a s _ => hset a s

namespace Record

variable {r : Record σ}

/-- Filling in members keeps what every field keeps. -/
theorem fillMembers_keeps (hfields : ∀ field ∈ r.fields, field.Keeps I) {origin : Origin}
    {room : Nat} {ms : List (Except Fault String × Node)} {seen others : List String} {s t : σ}
    (h : r.fillMembers origin room seen s ms = .ok (t, others)) (hs : I s) : I t := by
  induction ms generalizing seen s with
  | nil =>
    cases h
    exact hs
  | cons m rest ih =>
    obtain ⟨_ | name, node⟩ := m
    · exact absurd h Decoder.fail_ne_ok
    · unfold fillMembers at h
      split at h
      · rename_i field hfind
        split at h
        · cases h
        · obtain ⟨u, hu, hrest⟩ := Outcome.bind_eq_ok_iff.1 h
          -- The member fills in a field.
          exact ih hrest (hfields field (List.mem_of_find?_eq_some hfind) hu hs)
      · split at h
        · cases h
        · obtain ⟨-, -, hrest⟩ := Outcome.bind_eq_ok_iff.1 h
          -- The member is unknown, and skipped.
          exact ih hrest hs

/-- Filling in items keeps what every field keeps. -/
theorem fillItems_keeps {fields : List (Field σ)} (hfields : ∀ field ∈ fields, field.Keeps I)
    {origin : Origin} {room count : Nat} {ending : Option Fault} {nodes : List Node} {s t : σ}
    (h : r.fillItems origin room ending count s fields nodes = .ok t) (hs : I s) : I t := by
  induction fields generalizing nodes count s with
  | nil =>
    cases nodes with
    | nil =>
      -- All fields are filled in.
      obtain ⟨-, -, h⟩ := Outcome.bind_eq_ok_iff.1 h
      cases h
      exact hs
    | cons node rest => cases h
  | cons field rest ih =>
    obtain ⟨hfield, hrest⟩ := List.forall_mem_cons.1 hfields
    cases nodes with
    | nil =>
      obtain ⟨-, -, h⟩ := Outcome.bind_eq_ok_iff.1 h
      split at h
      · cases h
      · -- An item is missing, and the field keeps its default.
        exact ih hrest h hs
    | cons node nodes =>
      obtain ⟨u, hu, h⟩ := Outcome.bind_eq_ok_iff.1 h
      exact ih hrest h (hfield hu hs)

/-- What the defaults of a record have and all its fields keep, the record has. -/
theorem yields (hblank : I r.blank) (hfields : ∀ field ∈ r.fields, field.Keeps I) :
    r.decode.Yields I := by
  intro origin room node s h
  unfold decode at h
  split at h
  · exact absurd h Decoder.fail_ne_ok
  · exact absurd h Decoder.fail_ne_ok
  · exact absurd h Decoder.fail_ne_ok
  · exact fillItems_keeps hfields h hblank
  · obtain ⟨⟨t, seen⟩, ht, h⟩ := Outcome.bind_eq_ok_iff.1 h
    obtain ⟨-, -, h⟩ := Outcome.bind_eq_ok_iff.1 h
    split at h
    · cases h
    · cases h
      exact fillMembers_keeps hfields ht hblank
  · exact absurd h Decoder.refuse_ne_ok

end Record

/-- What a text is decoded to has what its decoder yields. -/
theorem of_decodeText {d : Decoder α} {P : α → Prop} (h : d.Yields P) {text : String} {a : α}
    (hdecode : decodeText d text = .ok a) : P a := by
  obtain ⟨b, hb, hdecode⟩ := Outcome.bind_eq_ok_iff.1 hdecode
  split at hdecode
  · cases hdecode
  · cases hdecode
    exact h hb

end EntityModel.Json
