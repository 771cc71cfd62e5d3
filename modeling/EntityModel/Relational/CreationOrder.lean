import EntityModel.Relational.Plan

/-! # The order of creation

Tables are created after the tables that they refer to. Where that is impossible because the
references go round in a circle, the first table on such a circle is created before its turn, and
its foreign keys to tables that are still missing are marked as forward references. -/

namespace EntityModel.Relational

namespace Table

/-- The other tables that the table refers to. -/
def neighbours (t : Table) : List String :=
  (t.foreignKeys.map (·.references)).filter (· ≠ t.name)

/-- The table of a name. -/
def find? (tables : List Table) (name : String) : Option Table := tables.find? (·.name = name)

/-- Whether there is a table of the name. -/
def exists? (tables : List Table) (name : String) : Bool := tables.any (·.name = name)

/-- The tables without the one of the name. -/
def without (tables : List Table) (name : String) : List Table := tables.filter (·.name ≠ name)

/-- Without one of the tables there are fewer. -/
theorem length_without_lt {tables : List Table} {t : Table} (h : t ∈ tables) :
    (without tables t.name).length < tables.length :=
  List.length_filter_lt_length_iff_exists.2 ⟨t, h, by simp⟩

/-- How many names the tables can still give to a search: their own ones and their neighbours. -/
def weight (tables : List Table) : Nat :=
  (tables.flatMap fun t => t.name :: t.neighbours).length

/-- A table gives its own name and its neighbours. -/
theorem weight_cons (t : Table) (rest : List Table) :
    weight (t :: rest) = t.neighbours.length + 1 + weight rest := by
  rw [weight, List.flatMap_cons, List.length_append, List.length_cons, weight]

/-- The first table is left out if it has the name. -/
theorem without_cons (t : Table) (rest : List Table) (name : String) :
    without (t :: rest) name = if t.name = name then without rest name
      else t :: without rest name := by
  by_cases h : t.name = name <;> simp [without, h]

/-- Fewer tables give no more names. -/
theorem weight_without_le (tables : List Table) (name : String) :
    weight (without tables name) ≤ weight tables := by
  induction tables with
  | nil => exact Nat.le_refl _
  | cons t rest ih =>
    rw [without_cons, weight_cons]
    split
    · omega
    · rw [weight_cons]
      omega

/-- A table that is taken out takes its name and those of its neighbours with it. -/
theorem weight_without_lt {tables : List Table} {t : Table} (h : t ∈ tables) :
    weight (without tables t.name) + t.neighbours.length < weight tables := by
  induction tables with
  | nil => cases h
  | cons u rest ih =>
    rw [without_cons, weight_cons]
    split
    · rcases List.mem_cons.1 h with rfl | hrest
      · have hle := weight_without_le rest t.name
        omega
      · have hlt := ih hrest
        omega
    · rename_i hname
      have hlt := ih ((List.mem_cons.1 h).resolve_left fun heq => hname (heq ▸ rfl))
      rw [weight_cons]
      omega

/-- A table that is found takes its name and those of its neighbours with it. -/
theorem weight_without_lt_of_find? {tables : List Table} {name : String} {t : Table}
    (h : find? tables name = some t) :
    weight (without tables name) + t.neighbours.length < weight tables := by
  have hname : t.name = name := by simpa using List.find?_some h
  exact hname ▸ weight_without_lt (List.mem_of_find?_eq_some h)

/-- The names of the tables that can be reached from the given ones along foreign keys. -/
def reachable (tables : List Table) : List String → List String
  | [] => []
  | name :: names =>
    match _h : find? tables name with
    | none => reachable tables names
    | some t => name :: reachable (without tables name) (t.neighbours ++ names)
termination_by names => weight tables + names.length
decreasing_by
  · simp
  · have := weight_without_lt_of_find? _h
    simp only [List.length_append, List.length_cons]
    omega

/-- Whether the foreign keys of the tables lead from the table back to it by way of another one. -/
def inCycle (tables : List Table) (t : Table) : Bool :=
  (reachable tables t.neighbours).contains t.name

/-- Whether none of the tables that the table refers to is among the given ones. -/
def isReady (tables : List Table) (t : Table) : Bool :=
  t.neighbours.all (!exists? tables ·)

/-- The table to create first: the first one that is ready, or else the first one in a circle. -/
def pick? (tables : List Table) : Option Table :=
  -- Where no table is ready, every one leads on to another, so that there is a circle.
  (tables.find? (isReady tables)).or ((tables.find? (inCycle tables)).or tables.head?)

/-- The table that is picked is one of the tables. -/
theorem mem_of_pick? {tables : List Table} {t : Table} (h : pick? tables = some t) :
    t ∈ tables := by
  unfold pick? at h
  cases hready : tables.find? (isReady tables) with
  | some s => simp [hready] at h; exact h ▸ List.mem_of_find?_eq_some hready
  | none =>
    cases hcycle : tables.find? (inCycle tables) with
    | some s => simp [hready, hcycle] at h; exact h ▸ List.mem_of_find?_eq_some hcycle
    | none => simp [hready, hcycle] at h; exact List.mem_of_mem_head? (by simp [h])

/-- The table with the foreign keys to the given tables marked as forward. -/
def markForward (t : Table) (later : List Table) : Table :=
  { t with
    foreignKeys := t.foreignKeys.map fun key =>
      { key with forward := key.references ≠ t.name && exists? later key.references } }

/-- The tables, given by ascending names, in the order of their creation. -/
def creationOrderOf (tables : List Table) : List Table :=
  match _h : pick? tables with
  | none => []
  | some t => t.markForward (without tables t.name) :: creationOrderOf (without tables t.name)
termination_by tables.length
decreasing_by exact length_without_lt (mem_of_pick? _h)

/-- The tables in the order of their creation. -/
def creationOrder (tables : List Table) : List Table :=
  creationOrderOf ((NameMap.ofList (tables.map fun t => (t.name, t))).entries.map (·.2))

end Table

end EntityModel.Relational
