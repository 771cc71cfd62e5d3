import EntityModel.Proofs.Sql.StatementText

/-! # Clauses that check for allowed values

The values that a column allows stand in its definition as a list of literals. Reading the literals
by the rule of SQL, by which a doubled quote is one quote, gives the values back in their order,
whatever characters they have, and the scanner that splits scripts takes each literal for one lexeme
(`columnText_allowed`). -/

namespace EntityModel.Sql

open Relational Lexeme

/-! ## Reading literals -/

/-- The text of a literal whose opening quote was read already, and what stands behind it. A doubled
quote is one quote of the text. -/
def readQuoted? : List Char → Option (List Char × List Char)
  | [] => none
  | c :: rest =>
    if c = '\'' then
      match rest with
      | [] => some ([], [])
      | d :: rest =>
        if d = '\'' then (readQuoted? rest).map fun (text, after) => (c :: text, after)
        else some ([], d :: rest)
    else (readQuoted? rest).map fun (text, after) => (c :: text, after)

/-- What is read is the text that was written with its quotes doubled. No quote follows the closing
one. -/
theorem readQuoted?_eq_some_iff {input text after : List Char} :
    readQuoted? input = some (text, after) ↔
      input = doubled '\'' text ++ '\'' :: after ∧ after.head? ≠ some '\'' := by
  constructor
  · intro h
    fun_induction readQuoted? input generalizing text after with
    | case1 => cases h
    | case2 =>
      -- The closing quote at the end of the input.
      obtain ⟨rfl, rfl⟩ := Prod.mk.inj (Option.some.inj h)
      exact ⟨rfl, by simp⟩
    -- Two quotes, which stand for one.
    | case3 rest ih =>
      obtain ⟨⟨text, after⟩, hread, heq⟩ := Option.map_eq_some_iff.1 h
      obtain ⟨rfl, rfl⟩ := Prod.mk.inj heq
      obtain ⟨rfl, hafter⟩ := ih hread
      exact ⟨by simp [doubled], hafter⟩
    -- The closing quote, and what stands behind it.
    | case4 d rest hd =>
      obtain ⟨rfl, rfl⟩ := Prod.mk.inj (Option.some.inj h)
      exact ⟨rfl, by simpa using hd⟩
    | case5 c rest hc ih =>
      obtain ⟨⟨text, after⟩, hread, heq⟩ := Option.map_eq_some_iff.1 h
      obtain ⟨rfl, rfl⟩ := Prod.mk.inj heq
      obtain ⟨rfl, hafter⟩ := ih hread
      exact ⟨by simp [doubled, hc], hafter⟩
  · rintro ⟨rfl, hafter⟩
    induction text with
    | nil =>
      -- The quote is the closing one, for no other follows it.
      cases after with
      | nil => rfl
      | cons d after =>
        have hd : d ≠ '\'' := fun heq => hafter (congrArg some heq)
        simp [doubled, readQuoted?, hd]
    | cons c text ih =>
      by_cases hc : c = '\''
      · subst hc
        simpa [doubled, readQuoted?] using ih
      · rw [doubled, List.flatMap_cons, if_neg hc, List.cons_append, List.nil_append, ← doubled,
          List.cons_append, readQuoted?.eq_def]
        simp only [if_neg hc, ih, Option.map_some]

/-- Behind a literal that was read there is less text than in front of it. -/
theorem length_of_readQuoted? {input text after : List Char}
    (h : readQuoted? input = some (text, after)) : after.length < input.length := by
  obtain ⟨rfl, -⟩ := readQuoted?_eq_some_iff.1 h
  simp only [List.length_append, List.length_cons]
  omega

/-- The texts of literals with commas between them, and what stands behind the last one. There may
be spaces after a comma. -/
def readList? (input : List Char) : Option (List String × List Char) :=
  match input with
  | [] => none
  | c :: rest =>
    if c = '\'' then
      match _h : readQuoted? rest with
      | none => none
      | some (text, after) =>
        if after.head? = some ',' then
          (readList? (after.tail.dropWhile (· = ' '))).map fun (values, after) =>
            (String.ofList text :: values, after)
        else some ([String.ofList text], after)
    else none
termination_by input.length
decreasing_by
  have hafter := length_of_readQuoted? _h
  have hdrop := (List.dropWhile_suffix (l := after.tail) (· = ' ')).length_le
  simp only [List.length_tail, List.length_cons] at hdrop ⊢
  omega

/-- A literal is read back, and the list goes on if a comma stands behind it. -/
theorem readList?_literal (value : String) {rest : List Char} (h : rest.head? ≠ some '\'') :
    readList? ((literal value).toList ++ rest) =
      if rest.head? = some ',' then
        (readList? (rest.tail.dropWhile (· = ' '))).map fun (values, after) =>
          (value :: values, after)
      else some ([value], rest) := by
  have htext : (literal value).toList ++ rest =
      '\'' :: (doubled '\'' value.toList ++ '\'' :: rest) := by
    simp [literal, literalChars, doubled]
  have hread : readQuoted? (doubled '\'' value.toList ++ '\'' :: rest) =
      some (value.toList, rest) := readQuoted?_eq_some_iff.2 ⟨rfl, h⟩
  rw [htext, readList?, if_pos rfl]
  split
  next hnone => rw [hread] at hnone; cases hnone
  next text after hsome =>
    rw [hread] at hsome
    obtain ⟨rfl, rfl⟩ := Prod.mk.inj (Option.some.inj hsome)
    rw [String.ofList_toList]

/-- Between the first literal of a list and the rest stands a comma. -/
theorem commaList_literal_cons_cons (value next : String) (values : List String) :
    (commaList ((value :: next :: values).map literal)).toList =
      (literal value).toList ++
        ',' :: ' ' :: (commaList ((next :: values).map literal)).toList := by
  simp [commaList]

/-- A list of literals starts with a quote. -/
theorem head?_commaList_literal (value : String) (values : List String) :
    (commaList ((value :: values).map literal)).toList.head? = some '\'' := by
  cases values <;> simp [commaList, literal, literalChars]

/-- A list is read back up to what stands behind it. -/
theorem readList?_commaList {values : List String} (hne : values ≠ []) {rest : List Char}
    (hquote : rest.head? ≠ some '\'') (hcomma : rest.head? ≠ some ',') :
    readList? ((commaList (values.map literal)).toList ++ rest) = some (values, rest) := by
  induction values with
  | nil => exact absurd rfl hne
  | cons value values ih =>
    cases values with
    | nil => rw [List.map_singleton, commaList, readList?_literal value hquote, if_neg hcomma]
    | cons next values =>
      -- The next literal starts with a quote, so that the only space to skip is the separator's.
      obtain ⟨more, hmore⟩ := List.head?_eq_some_iff.1 (head?_commaList_literal next values)
      have hnext := ih (by simp)
      rw [commaList_literal_cons_cons, List.append_assoc, List.cons_append, List.cons_append,
        readList?_literal value (by simp), List.head?_cons, if_pos rfl, List.tail_cons]
      rw [hmore, List.cons_append] at hnext ⊢
      rw [List.dropWhile_cons_of_pos (by simp), List.dropWhile_cons_of_neg (by simp), hnext]
      rfl

/-! ## Lexemes of lists -/

/-- A quote may follow a whole text if a plain character stands between them. -/
theorem Whole.list_plain_append {text : List Char} (h : Whole text) {c : Char}
    (hc : isPlain c = true) (rest : List Char) :
    list (text ++ ([c] ++ rest)) = list (text ++ [c]) ++ list rest := by
  have hquote : ∀ rest, ([c] ++ rest).head? ≠ some '\'' := by
    rintro rest ⟨⟩
    exact absurd hc (by decide)
  have hplain : list ([c] ++ rest) = list [c] ++ list rest := by
    rw [List.singleton_append, list_plain hc, list_plain hc, list_nil, List.singleton_append]
  have hlast : list (text ++ [c]) = list text ++ list [c] := h.list_append (hquote [])
  rw [h.list_append (hquote rest), hlast, hplain, List.append_assoc]

/-- The lexemes of a list of literals. -/
def literalLexemes : List String → List Lexeme
  | [] => []
  | [last] => [.code (literalChars last.toList)]
  | value :: rest =>
    .code (literalChars value.toList) :: .code [','] :: .blank ' ' :: literalLexemes rest

/-- A list of literals is lexed as its literals with commas and blanks between them. -/
theorem list_commaList_literal (values : List String) {rest : List Char}
    (hquote : rest.head? ≠ some '\'') :
    list ((commaList (values.map literal)).toList ++ rest) =
      literalLexemes values ++ list rest := by
  induction values with
  | nil => rfl
  | cons value values ih =>
    cases values with
    | nil =>
      rw [List.map_singleton, commaList, literal, String.toList_ofList, list_literal _ hquote]
      rfl
    | cons next values =>
      rw [commaList_literal_cons_cons, literal, String.toList_ofList, List.append_assoc,
        List.cons_append, List.cons_append, list_literal _ (by simp), list_plain (by decide),
        list_plain (by decide), ih]
      rfl

/-! ## The clause in the definition of a column -/

/-- The definition of a column up to its list of allowed values. -/
def checkFront (d : Dialect) (c : Column) : String :=
  columnText d { c with allowed := none } ++ (if c.notNull then " CHECK (" else " CHECK ((") ++
    c.name ++ " IN ("

/-- The alternative of a column that may have no value. -/
def nullAlternative (name : String) : String := " OR " ++ name ++ " IS NULL"

/-- What stands behind the list of allowed values. -/
def checkEnd (c : Column) : String :=
  ")" ++ if c.notNull then ")" else nullAlternative c.name ++ "))"

/-- The list of allowed values and what stands behind it. -/
def checkList (c : Column) (values : List String) : String :=
  commaList (values.map literal) ++ checkEnd c

/-- The text of a column with a list of values is what stands in front of the list, and the list
with what follows it. -/
theorem columnText_eq_append (d : Dialect) {c : Column} {values : List String}
    (h : c.allowed = some values) : columnText d c = checkFront d c ++ checkList c values := by
  unfold columnText checkFront checkList checkEnd checkClause nullAlternative
  rw [h, ← String.toList_inj]
  cases c.notNull <;> simp [columnText]

/-- Behind the list of values stands a bracket. -/
theorem head?_checkEnd (c : Column) : (checkEnd c).toList.head? = some ')' := by
  simp [checkEnd]

/-- The alternative stands behind the list exactly if the column may have no value. -/
theorem nullAlternative_isPrefix_iff (c : Column) :
    (")" ++ nullAlternative c.name).toList <+: (checkEnd c).toList ↔ c.notNull = false := by
  unfold checkEnd nullAlternative
  cases c.notNull <;> simp [List.cons_prefix_cons]

/-- Reading the list of a column gives its values back, and what follows them. -/
theorem readList?_checkList (c : Column) {values : List String} (hne : values ≠ []) :
    readList? (checkList c values).toList = some (values, (checkEnd c).toList) := by
  have hend := head?_checkEnd c
  rw [checkList, String.toList_append]
  exact readList?_commaList hne (by simp [hend]) (by simp [hend])

/-- The list of a column is lexed as its literals, whatever follows it. -/
theorem list_checkList (c : Column) (values : List String) :
    list (checkList c values).toList = literalLexemes values ++ list (checkEnd c).toList := by
  rw [checkList, String.toList_append]
  exact list_commaList_literal values (by simp [head?_checkEnd])

/-- Up to the list, the definition of a column whose name needs no quotes is lexed on its own. The
parenthesis keeps it apart from the first literal. -/
theorem list_checkFront_append (d : Dialect) {c : Column} (h : IsName c.name) (rest : List Char) :
    list ((checkFront d c).toList ++ rest) = list (checkFront d c).toList ++ list rest := by
  have hopening : IsPart (columnText d { c with allowed := none } ++
      (if c.notNull then " CHECK (" else " CHECK ((") ++ c.name ++ " IN ") := by
    have hunchecked : IsPart (columnText d { c with allowed := none }) := isPart_columnText d h
    refine ((hunchecked.append ?_).append (.of_isName h)).append (.of_plain (by decide))
    split <;> exact .of_plain (by decide)
  have hfront : checkFront d c = columnText d { c with allowed := none } ++
      (if c.notNull then " CHECK (" else " CHECK ((") ++ c.name ++ " IN " ++ "(" := by
    simp [checkFront, String.append_assoc]
  have hparenthesis : "(".toList = ['('] := by simp
  rw [hfront, String.toList_append, hparenthesis, List.append_assoc]
  exact hopening.whole.list_plain_append (by decide) rest

/-- **The list in the definition of a column is read back as the values that the column allows**, in
their order and whatever characters they have, so that different lists are written differently.
Behind the list stands the alternative of having no value exactly if the column may have none. The
scanner takes each literal for one lexeme. -/
theorem columnText_allowed (d : Dialect) {c : Column} {values : List String}
    (hallowed : c.allowed = some values) (hne : values ≠ []) :
    columnText d c = checkFront d c ++ checkList c values ∧
      readList? (checkList c values).toList = some (values, (checkEnd c).toList) ∧
      ((")" ++ nullAlternative c.name).toList <+: (checkEnd c).toList ↔ c.notNull = false) ∧
      (∀ other ≠ [], columnText d { c with allowed := some other } = columnText d c →
        other = values) ∧
      list (checkList c values).toList = literalLexemes values ++ list (checkEnd c).toList ∧
      (IsName c.name → list (columnText d c).toList =
        list (checkFront d c).toList ++ literalLexemes values ++ list (checkEnd c).toList) := by
  have htext := columnText_eq_append d hallowed
  have hread := readList?_checkList c hne
  refine ⟨htext, hread, nullAlternative_isPrefix_iff c, fun other hother heq => ?_,
    list_checkList c values, fun hname => ?_⟩
  -- What stands in front of the list does not depend on it, so equal texts have equal lists.
  · have hotherText : columnText d { c with allowed := some other } =
        checkFront d c ++ checkList c other := columnText_eq_append d rfl
    rw [hotherText, htext] at heq
    have hlist := congrArg String.toList heq
    rw [String.toList_append, String.toList_append, List.append_cancel_left_eq] at hlist
    have hreadOther := readList?_checkList c hother
    rw [hlist, hread] at hreadOther
    exact (Prod.mk.inj (Option.some.inj hreadOther)).1.symm
  · rw [htext, String.toList_append, list_checkFront_append d hname, list_checkList,
      List.append_assoc]

/-- A column that allows a quote, the text between two literals, and the end of the clause. -/
def mood : Column :=
  { name := "mood", type := .text, notNull := false, primaryKey := false,
    allowed := some ["it's fine", "', '", "a) OR mood IS NULL));"] }

/-- Values with quotes, commas, brackets and semicolons in them are read back from their column. -/
theorem columnText_allowed_mood :
    columnText .postgres mood = "mood TEXT CHECK ((mood IN (" ++
      "'it''s fine', ''', ''', 'a) OR mood IS NULL));') OR mood IS NULL))" ∧
    readList? "'it''s fine', ''', ''', 'a) OR mood IS NULL));') OR mood IS NULL))".toList =
      some (["it's fine", "', '", "a) OR mood IS NULL));"], ") OR mood IS NULL))".toList) ∧
    .semicolon ∉ list (columnText .postgres mood).toList := by
  have hname : IsName mood.name := by decide
  obtain ⟨-, hread, -, -, -, hlist⟩ := columnText_allowed .postgres (c := mood) rfl (by simp)
  refine ⟨by decide, hread, ?_⟩
  rw [hlist hname]
  decide +kernel

end EntityModel.Sql
