import EntityModel.Json.Decode
import EntityModel.Proofs.NameMap
import EntityModel.Proofs.Outcome

/-! # Values that are decoded again

A decoder restores something from a value if it decodes the value to it, in any room that is enough
for the value (`Decoder.Restores`). Lists and maps are restored if what stands in them is, and a
record is restored if its members fill it in (`Record.restores`). -/

namespace EntityModel

/-! ## Values as documents -/

namespace Entries

variable {α : Type*}

/-- No entries have no names. -/
@[simp] theorem names_nil : names ([] : List (String × α)) = [] := rfl

/-- The names of entries start with the one of the first entry. -/
@[simp] theorem names_cons (e : String × α) (entries : List (String × α)) :
    names (e :: entries) = e.1 :: names entries := rfl

/-- Entries in ascending order stay as they are when they are sorted. -/
theorem ofList_eq_self {entries : List (String × α)} (h : Ascending entries) :
    ofList entries = entries := by
  refine (ofList_perm (nodup_names h)).eq_of_pairwise (fun a b _ _ hlt hgt => ?_)
    (ascending_ofList entries) h
  exact absurd hgt (String.lt_asymm hlt)

end Entries

namespace Json

/-- The nodes of items are made one by one. -/
theorem Node.ofItems_eq (items : List Value) : Node.ofItems items = items.map Node.ofValue := by
  induction items with
  | nil => rw [Node.ofItems, List.map_nil]
  | cons item rest ih => rw [Node.ofItems, ih, List.map_cons]

/-- The nodes of members are made one by one. -/
theorem Node.ofMembers_eq (members : List (String × Value)) :
    Node.ofMembers members = members.map fun m => (.ok m.1, Node.ofValue m.2) := by
  induction members with
  | nil => rw [Node.ofMembers, List.map_nil]
  | cons member rest ih => rw [Node.ofMembers, ih, List.map_cons]

/-- No item is deeper than the items together. -/
theorem Value.depth_le_depthItems {items : List Value} {item : Value} (h : item ∈ items) :
    item.depth ≤ depthItems items := by
  induction items with
  | nil => cases h
  | cons first rest ih =>
    rw [depthItems]
    rcases List.mem_cons.1 h with rfl | h
    · exact Nat.le_max_left _ _
    · exact Nat.le_trans (ih h) (Nat.le_max_right _ _)

/-- No member is deeper than the members together. -/
theorem Value.depth_le_depthMembers {members : List (String × Value)} {member : String × Value}
    (h : member ∈ members) : member.2.depth ≤ depthMembers members := by
  induction members with
  | nil => cases h
  | cons first rest ih =>
    rw [depthMembers]
    rcases List.mem_cons.1 h with rfl | h
    · exact Nat.le_max_left _ _
    · exact Nat.le_trans (ih h) (Nat.le_max_right _ _)

/-- An array is one level deeper than its items. -/
theorem Value.depth_array (items : List Value) :
    (Value.array items).depth = depthItems items + 1 := by
  rw [depth]

/-- An object is one level deeper than its members. -/
theorem Value.depth_object (members : List (String × Value)) :
    (Value.object members).depth = depthMembers members + 1 := by
  rw [depth]

namespace Decoder

variable {α : Type} {d : Decoder α} {v : Value} {a : α} {encode : α → Value}

/-- The value is decoded to this in any room that is enough for it. -/
def Restores (d : Decoder α) (v : Value) (a : α) : Prop :=
  ∀ room, v.depth ≤ room → d .value room (Node.ofValue v) = .ok a

/-- A value that is restored is decoded. -/
theorem Restores.decodeValue (h : Restores d v a) : decodeValue d v = .ok a := h _ (Nat.le_refl _)

/-! ## Scalars -/

/-- A text is restored. -/
theorem restores_string (s : String) : Restores string (.string s) s := by
  intro room _
  rw [Node.ofValue]
  rfl

/-- A truth value is restored. -/
theorem restores_bool (b : Bool) : Restores bool (.bool b) b := by
  intro room _
  rw [Node.ofValue]
  rfl

/-- A variant is restored from its name. -/
theorem restores_variant {variants : List (String × α)} {name : String}
    (h : Entries.find? name variants = some a) : Restores (variant variants) (.string name) a := by
  intro room _
  rw [Node.ofValue, variant, variantOf, h]

/-- A value that is not null is there. -/
theorem Restores.optional (h : Restores d v a) (hv : v ≠ .null) :
    Restores (optional d) v (some a) := by
  intro room hroom
  have hnode : Node.ofValue v ≠ .null := by
    cases v with
    | null => exact absurd rfl hv
    | bool | number | string | array | object => simp [Node.ofValue]
  rw [Decoder.optional, h room hroom]
  · rfl
  · exact hnode

/-! ## Arrays and maps -/

/-- A list is restored if its items are. -/
theorem Restores.list {items : List α} (h : ∀ a ∈ items, Restores d (encode a) a) :
    Restores (list d) (.array (items.map encode)) items := by
  intro room hroom
  rw [Value.depth_array] at hroom
  match room, hroom with
  | room + 1, hroom =>
    have hitems : ((items.map encode).map Node.ofValue).mapM (d .value room) = .ok items := by
      rw [Outcome.mapM_eq_ok_iff, List.map_map, List.forall₂_map_left_iff, List.forall₂_same]
      intro a ha
      have hdepth := Value.depth_le_depthItems (List.mem_map_of_mem (f := encode) ha)
      exact h a ha room (Nat.le_trans hdepth (Nat.le_of_succ_le_succ hroom))
    rw [Node.ofValue, Node.ofItems_eq, Decoder.list, hitems]
    rfl

/-- A list of texts is restored. -/
theorem restores_strings (texts : List String) :
    Restores (Decoder.list string) (.strings texts) texts :=
  Restores.list fun text _ => restores_string text

/-- The members of an object are decoded one by one. -/
theorem members_ofMembers {room : Nat} {es : List (String × α)}
    (h : ∀ e ∈ es, d .value room (Node.ofValue (encode e.2)) = .ok e.2) :
    members d .value room (Node.ofMembers (es.map fun e => (e.1, encode e.2))) = .ok es := by
  rw [Node.ofMembers_eq]
  induction es with
  | nil => rfl
  | cons e rest ih =>
    obtain ⟨he, hrest⟩ := List.forall_mem_cons.1 h
    have hmembers := ih hrest
    rw [List.map_cons, List.map_cons, members, he, hmembers]
    rfl

/-- Members that are restored are decoded where there is room for the deepest one. -/
theorem ok_of_mem_members {room : Nat} {es : List (String × α)}
    (h : ∀ e ∈ es, Restores d (encode e.2) e.2)
    (hroom : Value.depthMembers (es.map fun e => (e.1, encode e.2)) ≤ room) :
    ∀ e ∈ es, d .value room (Node.ofValue (encode e.2)) = .ok e.2 := by
  intro e he
  have hdepth := Value.depth_le_depthMembers
    (List.mem_map_of_mem (f := fun e => (e.1, encode e.2)) he)
  exact h e he room (Nat.le_trans hdepth hroom)

/-- Entries are restored if their values are and their names ascend. -/
theorem Restores.entries {es : List (String × α)} (hascending : Entries.Ascending es)
    (h : ∀ e ∈ es, Restores d (encode e.2) e.2) :
    Restores (entries d) (.object (es.map fun e => (e.1, encode e.2))) es := by
  intro room hroom
  rw [Value.depth_object] at hroom
  match room, hroom with
  | room + 1, hroom =>
    have hmembers := members_ofMembers (ok_of_mem_members h (Nat.le_of_succ_le_succ hroom))
    rw [Node.ofValue, Decoder.entries, hmembers]
    exact congrArg Except.ok (Entries.ofList_eq_self hascending)

/-- A map is restored if its values are. -/
theorem Restores.nameMap {m : NameMap α} (h : ∀ e ∈ m.entries, Restores d (encode e.2) e.2) :
    Restores (nameMap d) (.object (m.entries.map fun e => (e.1, encode e.2))) m := by
  intro room hroom
  rw [Value.depth_object] at hroom
  match room, hroom with
  | room + 1, hroom =>
    have hmembers := members_ofMembers (ok_of_mem_members h (Nat.le_of_succ_le_succ hroom))
    have hsorted : NameMap.ofList m.entries = m := by
      obtain ⟨entries, hascending⟩ := m
      simp only [NameMap.ofList, Entries.ofList_eq_self hascending]
    rw [Node.ofValue, Decoder.nameMap, hmembers]
    exact congrArg Except.ok hsorted

/-! ## Any value -/

/-- A value is restored as itself if its members are in order and it is not too deep. -/
theorem restores_anyWithin (hordered : v.Ordered) {levels : Nat} (h : v.depth < levels) :
    Restores (anyWithin levels) v v := by
  induction v using Value.induction generalizing levels with
  | null | bool | number | string =>
    intro room _
    match levels, h with
    | levels + 1, _ => rw [Node.ofValue, anyWithin]
  | array items ih =>
    intro room hroom
    match levels, h with
    | levels + 1, h =>
      rw [Value.depth_array] at h
      rw [Value.Ordered, Value.orderedItems_iff] at hordered
      -- The items have one level less than the array, so the levels are enough for them.
      have hitems : Restores (Decoder.list (anyWithin levels)) (.array (items.map id)) items :=
        Restores.list fun item hitem => ih item hitem (hordered item hitem)
          (Nat.lt_of_le_of_lt (Value.depth_le_depthItems hitem) (Nat.lt_of_succ_lt_succ h))
      rw [List.map_id] at hitems
      have hlist := hitems room hroom
      rw [Node.ofValue] at hlist ⊢
      rw [anyWithin, hlist]
      rfl
  | object members ih =>
    intro room hroom
    match levels, h with
    | levels + 1, h =>
      rw [Value.depth_object] at h
      rw [Value.Ordered, Value.orderedMembers_iff] at hordered
      obtain ⟨hascending, hmembers⟩ := hordered
      have hvalues : Restores (Decoder.entries (anyWithin levels))
          (.object (members.map fun m => (m.1, id m.2))) members :=
        Restores.entries hascending fun m hm => ih m hm (hmembers m hm)
          (Nat.lt_of_le_of_lt (Value.depth_le_depthMembers hm) (Nat.lt_of_succ_lt_succ h))
      have hsame : members.map (fun m => (m.1, id m.2)) = members := List.map_id members
      rw [hsame] at hvalues
      have hentries := hvalues room hroom
      rw [Node.ofValue] at hentries ⊢
      rw [anyWithin, hentries]
      rfl

/-- A value with its members in order is restored from itself. -/
theorem restores_any (h : v.Ordered) : Restores any v v :=
  fun room hroom => restores_anyWithin h (Nat.lt_succ_of_le hroom) room hroom

end Decoder

/-! ## Records -/

section

variable {σ α : Type} (name : String) (d : Decoder α) (set : α → σ → σ)

/-- A field with a default has its name. -/
@[simp] theorem Field.name_withDefault : (Field.withDefault name d set).name = name := rfl

/-- A field with a default may be left out. -/
@[simp] theorem Field.required_withDefault : (Field.withDefault name d set).required = false := rfl

/-- A field without a default has its name. -/
@[simp] theorem Field.name_withoutDefault : (Field.withoutDefault name d set).name = name := rfl

/-- A field without a default may not be left out. -/
@[simp] theorem Field.required_withoutDefault :
    (Field.withoutDefault name d set).required = true := rfl

end

namespace Record

variable {σ α : Type} {r : Record σ} {s t : σ} {ms : List (String × Value)}

/-- Fills a member into a record that has a field of its name. -/
def fillMember (r : Record σ) (room : Nat) (s : σ) (m : String × Value) : Except Problem σ :=
  match r.fields.find? (·.name = m.1) with
  | some field => field.fill .value room (Node.ofValue m.2) s
  | none => .ok s

/-- Distinct members of a record are filled in one after another. -/
theorem fillMembers_ofMembers {room : Nat} {seen : List String}
    (hknown : ∀ m ∈ ms, m.1 ∈ r.fields.map (·.name)) (hnodup : (Entries.names ms).Nodup)
    (hnew : ∀ m ∈ ms, m.1 ∉ seen) (h : ms.foldlM (r.fillMember room) s = .ok t) :
    r.fillMembers .value room seen s (Node.ofMembers ms) =
      .ok (t, (Entries.names ms).reverse ++ seen) := by
  rw [Node.ofMembers_eq]
  induction ms generalizing s seen with
  | nil =>
    cases h
    rfl
  | cons m rest ih =>
    obtain ⟨name, v⟩ := m
    obtain ⟨hfirst, hrest⟩ := List.forall_mem_cons.1 hknown
    obtain ⟨hname, hnew⟩ := List.forall_mem_cons.1 hnew
    obtain ⟨hnotMem, hnodup⟩ := List.nodup_cons.1 hnodup
    obtain ⟨u, hu, hrestFill⟩ := Outcome.bind_eq_ok_iff.1 h
    obtain ⟨field, hfield, hfieldName⟩ := List.mem_map.1 hfirst
    -- None of the members behind this one has a name that was seen up to it.
    have hseen : ∀ m ∈ rest, m.1 ∉ name :: seen := by
      intro m hm hmem
      rcases List.mem_cons.1 hmem with heq | hmem
      · exact hnotMem (List.mem_map.2 ⟨m, hm, heq⟩)
      · exact hnew m hm hmem
    cases hfind : r.fields.find? (·.name = name) with
    | none => exact absurd hfieldName (by simpa using List.find?_eq_none.1 hfind field hfield)
    | some found =>
      rw [fillMember, hfind] at hu
      have hfilled := ih hrest hnodup hseen hrestFill
      rw [List.map_cons, fillMembers, hfind]
      simp only [hname, if_false, hu]
      rw [Entries.names, List.map_cons, List.reverse_cons, List.append_assoc]
      exact hfilled

/-- The members fill in the record, in any room that is enough for them. -/
def Fills (r : Record σ) (s : σ) (ms : List (String × Value)) (t : σ) : Prop :=
  ∀ room, Value.depthMembers ms ≤ room → ms.foldlM (r.fillMember room) s = .ok t

/-- Nothing to fill in changes nothing. -/
theorem Fills.nil : Fills r s [] s := fun _ _ => rfl

/-- A field is filled in with what is restored from its member. -/
theorem Fills.field {name : String} {required : Bool} {d : Decoder α} {set : α → σ → σ} {v : Value}
    {a : α} (hfind : r.fields.find? (·.name = name) =
      some ⟨name, required, fun origin room node s => (set · s) <$> d origin room node⟩)
    (h : Decoder.Restores d v a) (hrest : Fills r (set a s) ms t) :
    Fills r s ((name, v) :: ms) t := by
  intro room hroom
  rw [Value.depthMembers] at hroom
  have hfill : r.fillMember room s (name, v) = .ok (set a s) := by
    rw [fillMember, hfind]
    simp only [h room (Nat.le_trans (Nat.le_max_left _ _) hroom)]
    rfl
  rw [List.foldlM_cons, hfill]
  exact hrest room (Nat.le_trans (Nat.le_max_right _ _) hroom)

/-- A record is restored from an object whose members are among its fields, are distinct, contain
all that have no default, and fill it in. -/
theorem restores (names : List String) (hnames : (Entries.names ms).Sublist names)
    (hnodup : names.Nodup) (hknown : ∀ name ∈ names, name ∈ r.fields.map (·.name))
    (hrequired : ∀ field ∈ r.fields, field.required = true → field.name ∈ Entries.names ms)
    (hfills : Fills r r.blank ms t) : Decoder.Restores r.decode (.object ms) t := by
  intro room hroom
  rw [Value.depth_object] at hroom
  match room, hroom with
  | room + 1, hroom =>
    have hfill := fillMembers_ofMembers (r := r) (t := t)
      (fun m hm => hknown m.1 (hnames.subset (List.mem_map.2 ⟨m, hm, rfl⟩)))
      (hnodup.sublist hnames) (fun _ _ => List.not_mem_nil)
      (hfills room (Nat.le_of_succ_le_succ hroom))
    -- No field is missed that has no default.
    have hnone : (r.fields.find? fun field => field.required &&
        !((Entries.names ms).reverse ++ []).contains field.name) = none := by
      refine List.find?_eq_none.2 fun field hfield hmissing => ?_
      rw [Bool.and_eq_true, Bool.not_eq_true', ← Bool.not_eq_true, List.contains_iff_mem,
        List.append_nil, List.mem_reverse] at hmissing
      exact hmissing.2 (hrequired field hfield hmissing.1)
    rw [Node.ofValue, decode, hfill]
    change (match r.fields.find? _ with | some field => _ | none => _) = _
    rw [hnone]
    rfl

end Record

end Json

end EntityModel
