import EntityModel.Proofs.Capitals

/-! # Snake case as a normal form

A name is in snake case if it has no capitals, blanks or hyphens, and if no underscore stands at its
start or behind another one (`IsSnake`). These are the names that snake case leaves as they are
(`snake_eq_self_iff`), so it changes nothing when it is applied again. A name of a table is such a
name, and as it ends in `s` the plural leaves it as it is too (`tableName_tableName`). -/

namespace EntityModel.Naming

/-- The name is in snake case. -/
structure IsSnake (name : String) : Prop where
  not_hasCapital : ¬HasCapital name
  blank_notMem : ' ' ∉ name.toList
  hyphen_notMem : '-' ∉ name.toList
  head?_ne : name.toList.head? ≠ some '_'
  spaced : Spaced name.toList

/-- A text is spaced behind an underscore if it does not start with one. -/
theorem spaced_underscore_cons_iff {cs : List Char} :
    Spaced ('_' :: cs) ↔ cs.head? ≠ some '_' ∧ Spaced cs := by
  rw [Spaced, List.isChain_cons]
  refine and_congr_left fun _ => ⟨fun h hhead => h '_' hhead ⟨rfl, rfl⟩, fun h c hc heq => ?_⟩
  exact h (heq.2 ▸ hc)

/-! ## Names in snake case -/

/-- Snake case writes nothing in place of blanks and hyphens but underscores. -/
theorem ne_separator_of_mem_snakeFrom {before last : Option Char} {cs : List Char} :
    ∀ c ∈ snakeFrom before last cs, c ≠ '-' ∧ c ≠ ' ' := by
  have hlower : ∀ c : Char, ¬(c = '-' ∨ c = ' ' ∨ c = '_') → c.toLower ≠ '-' ∧ c.toLower ≠ ' ' := by
    intro c hc
    exact ⟨mt (eq_of_toLower_eq (by decide)) fun h => hc (.inl h),
      mt (eq_of_toLower_eq (by decide)) fun h => hc (.inr (.inl h))⟩
  have hunderscore : '_' ≠ '-' ∧ '_' ≠ ' ' := by decide
  fun_induction snakeFrom before last cs with
  | case1 => exact fun c hc => absurd hc List.not_mem_nil
  -- A separator that is left out, and one that becomes an underscore.
  | case2 _ _ _ _ _ _ ih => exact ih
  | case3 _ _ _ _ _ _ ih => exact List.forall_mem_cons.2 ⟨hunderscore, ih⟩
  -- The start of a word, with an underscore in front, and any other character.
  | case4 _ _ c _ hc _ ih =>
    exact List.forall_mem_cons.2 ⟨hunderscore, List.forall_mem_cons.2 ⟨hlower c hc, ih⟩⟩
  | case5 _ _ c _ hc _ ih => exact List.forall_mem_cons.2 ⟨hlower c hc, ih⟩

/-- Snake case makes names in snake case. -/
theorem isSnake_snake (name : String) : IsSnake (snake name) where
  not_hasCapital := not_hasCapital_snake name
  blank_notMem h := by
    rw [snake, String.toList_ofList] at h
    exact (ne_separator_of_mem_snakeFrom ' ' h).2 rfl
  hyphen_notMem h := by
    rw [snake, String.toList_ofList] at h
    exact (ne_separator_of_mem_snakeFrom '-' h).1 rfl
  head?_ne := (spaced_underscore_cons_iff.1 (spaced_snake name)).1
  spaced := (spaced_underscore_cons_iff.1 (spaced_snake name)).2

/-- Snake case leaves a text as it is that has no capitals and no separators but underscores, if it
is spaced behind what is written in front of it. -/
theorem snakeFrom_eq_self {before last : Option Char} {cs : List Char}
    (hupper : ∀ c ∈ cs, c.isUpper = false) (hseparator : ∀ c ∈ cs, c ≠ '-' ∧ c ≠ ' ')
    (hspaced : Spaced (last.getD '_' :: cs)) : snakeFrom before last cs = cs := by
  have hunderscore : ∀ {c : Char}, (c = '-' ∨ c = ' ' ∨ c = '_') → c ≠ '-' ∧ c ≠ ' ' → c = '_' :=
    fun h hne => (h.resolve_left hne.1).resolve_left hne.2
  fun_induction snakeFrom before last cs with
  | case1 => rfl
  | case2 before last c rest hc hlast ih =>
    -- The separator would be an underscore behind another one, or at the start.
    have hgetD : last.getD '_' = '_' := by
      rcases hlast with rfl | rfl
      · rfl
      · rfl
    exact absurd ⟨hgetD, hunderscore hc (hseparator c List.mem_cons_self)⟩
      (List.isChain_cons_cons.1 hspaced).1
  | case3 before last c rest hc hlast ih =>
    obtain rfl := hunderscore hc (hseparator c List.mem_cons_self)
    rw [ih (fun d hd => hupper d (List.mem_cons_of_mem _ hd))
      (fun d hd => hseparator d (List.mem_cons_of_mem _ hd)) hspaced.tail]
  | case4 before last c rest hc hword ih =>
    have hstarts := hword.1
    unfold startsWord at hstarts
    rw [hupper c List.mem_cons_self, Bool.false_and] at hstarts
    cases hstarts
  | case5 before last c rest hc hword ih =>
    have hlower : c.toLower = c := toLower_eq_self (hupper c List.mem_cons_self)
    rw [hlower] at ih ⊢
    rw [ih (fun d hd => hupper d (List.mem_cons_of_mem _ hd))
      (fun d hd => hseparator d (List.mem_cons_of_mem _ hd)) hspaced.tail]

/-- Exactly the names in snake case are left as they are. -/
theorem snake_eq_self_iff {name : String} : snake name = name ↔ IsSnake name := by
  constructor
  · intro h
    exact h ▸ isSnake_snake name
  · intro h
    have hupper : ∀ c ∈ name.toList, c.isUpper = false := fun c hc =>
      Bool.eq_false_iff.2 fun hupper => h.not_hasCapital (hasCapital_iff.2 ⟨c, hc, hupper⟩)
    have hseparator : ∀ c ∈ name.toList, c ≠ '-' ∧ c ≠ ' ' := by
      intro c hc
      exact ⟨fun heq => h.hyphen_notMem (heq ▸ hc), fun heq => h.blank_notMem (heq ▸ hc)⟩
    have hspaced : Spaced ('_' :: name.toList) :=
      spaced_underscore_cons_iff.2 ⟨h.head?_ne, h.spaced⟩
    have hself : snakeFrom none none name.toList = name.toList :=
      snakeFrom_eq_self hupper hseparator hspaced
    rw [snake, hself, String.ofList_toList]

/-! ## Names of tables -/

/-- A word that ends in `s` is its own plural. -/
theorem pluralOf_eq_self {word : List Char} (h : word.getLast? = some 's') :
    pluralOf word = word := by
  rw [← List.head?_reverse] at h
  obtain ⟨rest, hrest⟩ := List.head?_eq_some_iff.1 h
  simp only [pluralOf, hrest]

/-- The plural of the name of a table is the name itself, as it ends in `s`. -/
theorem plural_tableName (entity : String) : plural (tableName entity) = tableName entity := by
  rw [plural, pluralOf_eq_self (getLast?_tableName entity), String.ofList_toList]

/-- The name of a table is in snake case. -/
theorem isSnake_tableName (entity : String) : IsSnake (tableName entity) := by
  have hsnake := isSnake_snake entity
  have hmem : ∀ c, c ∉ (snake entity).toList → c ∉ ['i', 'e', 's'] →
      c ∉ (tableName entity).toList := by
    intro c hword hending hc
    rw [toList_tableName] at hc
    rcases mem_pluralOf hc with hc | rfl | rfl | rfl
    · exact hword hc
    all_goals exact hending (by decide)
  exact {
    not_hasCapital := not_hasCapital_tableName entity
    blank_notMem := hmem ' ' hsnake.blank_notMem (by decide)
    hyphen_notMem := hmem '-' hsnake.hyphen_notMem (by decide)
    head?_ne := (spaced_underscore_cons_iff.1 (spaced_tableName entity)).1
    spaced := (spaced_underscore_cons_iff.1 (spaced_tableName entity)).2 }

/-- The table of a table's name has this name. -/
theorem tableName_tableName (entity : String) :
    tableName (tableName entity) = tableName entity := by
  rw [tableName, snake_eq_self_iff.2 (isSnake_tableName entity), plural_tableName]

/-- **Snake case makes of every name one in snake case, which it leaves as it is.** The name of a
table ends in `s`, has no two underscores in a row, and is the name of its own table. -/
theorem snake_normal (name : String) :
    IsSnake (snake name) ∧ snake (snake name) = snake name ∧
      (tableName name).toList.getLast? = some 's' ∧ Spaced (tableName name).toList ∧
      tableName (tableName name) = tableName name :=
  ⟨isSnake_snake name, snake_eq_self_iff.2 (isSnake_snake name), getLast?_tableName name,
    (isSnake_tableName name).spaced, tableName_tableName name⟩

end EntityModel.Naming
