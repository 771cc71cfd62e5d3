import EntityModel.Json.Number
import EntityModel.NameMap

/-! # JSON values

The values of the data format. Objects made by this library list their members in ascending order of
names and name none twice (`Value.Ordered`). -/

namespace EntityModel.Json

/-- A JSON value. -/
inductive Value where
  /-- The null value. -/
  | null
  /-- A truth value. -/
  | bool (b : Bool)
  /-- A number. -/
  | number (n : Number)
  /-- A string. -/
  | string (s : String)
  /-- An array. -/
  | array (items : List Value)
  /-- An object. -/
  | object (members : List (String × Value))

namespace Value

/-- The null value is a value. -/
instance : Inhabited Value := ⟨.null⟩

/-- What holds of every scalar, and of arrays and objects as soon as it holds of what stands in
them, holds of every value. -/
@[elab_as_elim] theorem induction {P : Value → Prop} (null : P .null) (bool : ∀ b, P (.bool b))
    (number : ∀ n, P (.number n)) (string : ∀ s, P (.string s))
    (array : ∀ items, (∀ item ∈ items, P item) → P (.array items))
    (object : ∀ members, (∀ member ∈ members, P member.2) → P (.object members)) (v : Value) :
    P v :=
  @rec P (fun items => ∀ item ∈ items, P item) (fun members => ∀ member ∈ members, P member.2)
    (fun member => P member.2) null bool number string array object (by simp)
    (fun _ _ hitem hrest => List.forall_mem_cons.2 ⟨hitem, hrest⟩) (by simp)
    (fun _ _ hvalue hrest => List.forall_mem_cons.2 ⟨hvalue, hrest⟩) (fun _ _ hvalue => hvalue) v

/-- The array of strings. -/
def strings (texts : List String) : Value := .array (texts.map .string)

/-- The integer as a value. -/
def integer (n : Int) : Value := .number (.integer n)

/-- The truth value, if the value is one. -/
def flag? : Value → Option Bool
  | .bool b => some b
  | _ => none

mutual

/-- Every object in the value lists its members in ascending order of names. -/
def Ordered : Value → Prop
  | .array items => OrderedItems items
  | .object members => Entries.Ascending members ∧ OrderedMembers members
  | _ => True

/-- Every value in the list is ordered. -/
def OrderedItems : List Value → Prop
  | [] => True
  | item :: rest => item.Ordered ∧ OrderedItems rest

/-- Every member's value is ordered. -/
def OrderedMembers : List (String × Value) → Prop
  | [] => True
  | (_, value) :: rest => value.Ordered ∧ OrderedMembers rest

end

/-- Items are in order if each one is in order. -/
theorem orderedItems_iff {items : List Value} :
    OrderedItems items ↔ ∀ item ∈ items, item.Ordered := by
  induction items with
  | nil => simp [OrderedItems]
  | cons item rest ih => rw [OrderedItems, ih, List.forall_mem_cons]

/-- Members are in order if the value of each one is in order. -/
theorem orderedMembers_iff {members : List (String × Value)} :
    OrderedMembers members ↔ ∀ member ∈ members, member.2.Ordered := by
  induction members with
  | nil => simp [OrderedMembers]
  | cons member rest ih =>
    obtain ⟨name, value⟩ := member
    rw [OrderedMembers, ih, List.forall_mem_cons]

mutual

/-- How deep arrays and objects are nested in the value. -/
def depth : Value → Nat
  | .array items => depthItems items + 1
  | .object members => depthMembers members + 1
  | _ => 0

/-- The greatest depth in the list. -/
def depthItems : List Value → Nat
  | [] => 0
  | item :: rest => max item.depth (depthItems rest)

/-- The greatest depth of a member's value. -/
def depthMembers : List (String × Value) → Nat
  | [] => 0
  | (_, value) :: rest => max value.depth (depthMembers rest)

end

end Value

end EntityModel.Json
