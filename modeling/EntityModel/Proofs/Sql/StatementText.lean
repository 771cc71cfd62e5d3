import EntityModel.Proofs.Sql.Names
import Mathlib.Data.List.Chain

/-! # Texts of statements

A statement whose names need no quotes is lexed on its own, whatever values its columns allow: these
stand in literals, and the bodies of functions stand between dollar signs (`isPart_text`). A
statement starts with a letter and does not end with a blank. -/

namespace EntityModel

open Relational Text

namespace Sql

open Lexeme

/-! ## Parts of statements -/

/-- The text is whole, and no literal in front of it would go on with it. -/
structure IsPart (s : String) : Prop where
  /-- The text is whole. -/
  whole : Whole s.toList
  /-- It does not start with a quote. -/
  head_ne : s.toList.head? ≠ some '\''

namespace IsPart

/-- Two parts in a row are a part. -/
theorem append {a b : String} (ha : IsPart a) (hb : IsPart b) : IsPart (a ++ b) where
  whole := by
    rw [String.toList_append]
    exact ha.whole.append hb.whole hb.head_ne
  head_ne := by
    rw [String.toList_append]
    exact head?_append_ne ha.head_ne hb.head_ne

/-- Plain characters, and a whole text behind them. -/
theorem plain_append {a b : String} (ha : a.toList.all isPlain = true) (hne : a.toList ≠ [])
    (hb : Whole b.toList) : IsPart (a ++ b) := by
  obtain ⟨c, rest, hcons⟩ := List.exists_cons_of_ne_nil hne
  refine ⟨?_, ?_⟩
  · rw [String.toList_append]
    exact .plain_append ha hb
  · rw [String.toList_append, hcons]
    rintro ⟨⟩
    rw [hcons] at ha
    exact absurd ha (by simp [isPlain])

/-- Plain characters are a part. -/
theorem of_plain {a : String} (ha : a.toList.all isPlain = true) : IsPart a := by
  refine ⟨.of_plain ha, fun hhead => ?_⟩
  have hquote := List.all_eq_true.1 ha _ (List.mem_of_head? hhead)
  exact absurd hquote (by decide)

/-- A name is a part. -/
theorem of_isName {a : String} (ha : IsName a) : IsPart a := of_plain ha.all_isPlain

/-- A body between dollar signs, behind a plain text. -/
theorem dollars {a body : String} (ha : IsPart a)
    (hbody : ¬['$', '$'] <:+: body.toList ++ ['$']) : IsPart (a ++ ("$$" ++ body ++ "$$")) := by
  refine ha.append ⟨?_, ?_⟩
  · have heq : ("$$" ++ body ++ "$$").toList = '$' :: '$' :: (body.toList ++ '$' :: '$' :: []) := by
      simp
    exact heq ▸ .body hbody .nil
  · simp

end IsPart

/-- Literals with commas between them. -/
theorem whole_commaList_literal (values : List String) :
    Whole (commaList (values.map literal)).toList := by
  have hliteral : ∀ (value : String) {rest : List Char}, rest.head? ≠ some '\'' → Whole rest →
      Whole ((literal value).toList ++ rest) := by
    intro value rest hrest h
    rw [literal, String.toList_ofList]
    exact .literal _ hrest h
  induction values with
  | nil => exact .nil
  | cons value values ih =>
    cases values with
    | nil => exact List.append_nil (literal value).toList ▸ hliteral value (by simp) .nil
    | cons next values =>
      have heq : (commaList ((value :: next :: values).map literal)).toList =
          (literal value).toList ++
            ([',', ' '] ++ (commaList ((next :: values).map literal)).toList) := by
        simp [commaList]
      rw [heq]
      exact hliteral value (by simp) (.plain_append (by decide) ih)

/-- Names with commas between them are a part. -/
theorem isPart_commaList {names : List String} (h : ∀ name ∈ names, IsName name) :
    IsPart (commaList names) := by
  induction names with
  | nil => exact .of_plain (by decide)
  | cons name names ih =>
    have hname := IsPart.of_isName (h name List.mem_cons_self)
    cases names with
    | nil => exact hname
    | cons next names =>
      have hrest := ih fun name hname => h name (List.mem_cons_of_mem _ hname)
      exact (hname.append (.of_plain (by decide))).append hrest

/-- A clause with allowed values is a part, whatever the values are. -/
theorem isPart_checkClause {name : String} (h : IsName name) (notNull : Bool)
    (values : List String) : IsPart (checkClause name notNull values) := by
  have hname := IsPart.of_isName h
  have hlisted : IsPart (name ++ " IN (" ++ commaList (values.map literal) ++ ")") := by
    refine (IsPart.plain_append ?_ ?_ (whole_commaList_literal values)).append
      (.of_plain (by decide))
    · rw [String.toList_append, List.all_append, h.all_isPlain]
      decide
    · simp
  unfold checkClause
  split
  · exact ((IsPart.of_plain (by decide)).append hlisted).append (.of_plain (by decide))
  · exact ((((IsPart.of_plain (by decide)).append hlisted).append
      (.of_plain (by decide))).append hname).append (.of_plain (by decide))

/-- The name of a type is a part. -/
theorem isPart_typeName (d : Dialect) (t : ColumnType) : IsPart (typeName d t) :=
  .of_plain (by cases d <;> cases t <;> decide)

/-- The definition of a column is a part. -/
theorem isPart_columnText (d : Dialect) {c : Column} (h : IsName c.name) :
    IsPart (columnText d c) := by
  refine ((((IsPart.of_isName h).append (.of_plain (by decide))).append
    (isPart_typeName d c.type)).append ?_ |>.append ?_).append ?_
  · split <;> exact .of_plain (by decide)
  · split <;> exact .of_plain (by decide)
  · split
    · exact isPart_checkClause h _ _
    · exact .of_plain (by decide)

/-- The clause of a foreign key is a part. -/
theorem isPart_referenceText {column references : String} (hc : IsName column)
    (hr : IsName references) : IsPart (referenceText column references) :=
  ((((IsPart.of_plain (by decide)).append (.of_isName hc)).append (.of_plain (by decide))).append
    (.of_isName hr)).append (.of_plain (by decide))

/-- The definitions in a join table are parts. -/
theorem isPart_joinTableBody (d : Dialect) {j : JoinTable}
    (h : ∀ c ∈ [j.owner, j.target], IsName c.name ∧ IsName c.references) :
    ∀ item ∈ joinTableBody d j, IsPart item := by
  have howner := h j.owner (by simp)
  have htarget := h j.target (by simp)
  have hcolumn : ∀ {c : JoinColumn}, IsName c.name → IsPart (joinColumnText d c) := fun hc =>
    (((IsPart.of_isName hc).append (.of_plain (by decide))).append (isPart_typeName d _)).append
      (.of_plain (by decide))
  have hkey : IsPart ("PRIMARY KEY (" ++ j.owner.name ++ ", " ++ j.target.name ++ ")") :=
    ((((IsPart.of_plain (by decide)).append (.of_isName howner.1)).append
      (.of_plain (by decide))).append (.of_isName htarget.1)).append (.of_plain (by decide))
  have hcascade : ∀ {c : JoinColumn}, IsName c.name ∧ IsName c.references →
      IsPart (referenceText c.name c.references ++ " ON DELETE CASCADE") := fun hc =>
    (isPart_referenceText hc.1 hc.2).append (.of_plain (by decide))
  simp only [joinTableBody, List.forall_mem_cons, List.not_mem_nil, false_implies, implies_true,
    and_true]
  exact ⟨hcolumn howner.1, hcolumn htarget.1, hkey, hcascade howner, hcascade htarget⟩

/-- The statement that creates a table is a part if its definitions are. -/
theorem isPart_createTableText {name : String} {body : List String} (hname : IsName name)
    (hbody : ∀ item ∈ body, IsPart item) : IsPart (createTableText name body) := by
  have hlines : IsPart (bodyText body) := by
    induction body with
    | nil => exact .of_plain (by decide)
    | cons item body ih =>
      have hitem : IsPart ("    " ++ item) :=
        (IsPart.of_plain (by decide)).append (hbody item List.mem_cons_self)
      cases body with
      | nil => exact hitem.append (.of_plain (by decide))
      | cons next body =>
        exact (hitem.append (.of_plain (by decide))).append
          (ih fun item hitem => hbody item (List.mem_cons_of_mem _ hitem))
  exact ((((IsPart.of_plain (by decide)).append (.of_isName hname)).append
    (.of_plain (by decide))).append hlines).append (.of_plain (by decide))

/-- The text without dollar signs is the body between two tags. -/
theorem not_infix_of_notMem {body : List Char} (h : '$' ∉ body) :
    ¬['$', '$'] <:+: body ++ ['$'] := by
  intro hinfix
  have hcount := hinfix.count_le '$'
  rw [List.count_append, List.count_eq_zero_of_not_mem h] at hcount
  exact absurd hcount (by decide)

/-- The statement that adds a foreign key is a part: its block stands between dollar signs. -/
theorem isPart_addForeignKey (d : Dialect) {table : String} {key : ForeignKey}
    (h : (Statement.addForeignKey table key).HasNames) :
    IsPart ((Statement.addForeignKey table key).text d) := by
  have hdollar : ∀ {name : String}, IsName name → '$' ∉ name.toList := fun hname =>
    hname.notMem (by decide)
  have htext : (Statement.addForeignKey table key).text d =
      "DO " ++ ("$$" ++ ("\nBEGIN\n    ALTER TABLE " ++ table ++ " ADD CONSTRAINT fk_" ++ table ++
        "_" ++ key.column ++ " " ++ referenceText key.column key.references ++
        ";\nEXCEPTION\n    WHEN duplicate_object THEN NULL;\nEND\n") ++ "$$") := by
    have htag :
        "DO $$\nBEGIN\n    ALTER TABLE " = "DO " ++ ("$$" ++ "\nBEGIN\n    ALTER TABLE ") := by
      simp
    have hend : ";\nEXCEPTION\n    WHEN duplicate_object THEN NULL;\nEND\n$$" =
        ";\nEXCEPTION\n    WHEN duplicate_object THEN NULL;\nEND\n" ++ "$$" := by
      simp
    unfold Statement.text
    simp only [String.append_assoc, htag, hend]
  rw [htext]
  refine (IsPart.of_plain (by decide)).dollars (not_infix_of_notMem ?_)
  unfold referenceText
  simp [hdollar h.1, hdollar h.2.1, hdollar h.2.2]

set_option maxRecDepth 8000 in
/-- The parameters in a function have a dollar sign each, but no two stand together. -/
theorem TriggerFunction.exists_chars (f : TriggerFunction) : ∃ cs, f.body = String.ofList cs ∧
    (cs ++ ['$']).IsChain fun a b => ¬(a = '$' ∧ b = '$') := by
  cases f
  · refine ⟨_, rfl, ?_⟩
    decide
  · refine ⟨_, rfl, ?_⟩
    decide

/-- No two dollar signs stand in the body of a function, nor at its end. -/
theorem TriggerFunction.not_infix (f : TriggerFunction) :
    ¬['$', '$'] <:+: ("\n" ++ f.body).toList ++ ['$'] := by
  obtain ⟨cs, hbody, hchain⟩ := f.exists_chars
  rw [hbody, String.toList_append, String.toList_ofList]
  intro hinfix
  have hline : (['\n'] ++ (cs ++ ['$'])).IsChain fun a b => ¬(a = '$' ∧ b = '$') :=
    List.isChain_append.2 ⟨.singleton _, hchain, by simp⟩
  have hpair := hline.infix (by simpa using hinfix)
  exact absurd hpair (by simp)

/-- The statement that creates a function is a part: its body stands between dollar signs. -/
theorem isPart_createFunction (d : Dialect) (f : TriggerFunction) :
    IsPart ((Statement.createFunction f).text d) := by
  have htext : (Statement.createFunction f).text d =
      "CREATE OR REPLACE FUNCTION " ++ f.name ++ "() RETURNS trigger\nLANGUAGE plpgsql AS " ++
        ("$$" ++ ("\n" ++ f.body) ++ "$$") := by
    unfold Statement.text
    rw [← String.toList_inj]
    simp
  have hname : IsPart f.name := .of_plain (by cases f <;> decide)
  rw [htext]
  exact (((IsPart.of_plain (by decide)).append hname).append (.of_plain (by decide))).dollars
    f.not_infix

/-- The name of a trigger is a part. -/
theorem isPart_triggerName (f : TriggerFunction) {join : RequiredJoin}
    (h : (Statement.createTrigger f join).HasNames) : IsPart (triggerName f join) := by
  obtain ⟨hjoin, hcolumn, hparent⟩ := h
  cases f with
  | parent =>
    exact (((((IsPart.of_isName hparent).append (.of_plain (by decide))).append
      (.of_isName hjoin)).append (.of_plain (by decide))).append (.of_isName hcolumn)).append
      (.of_plain (by decide))
  | link =>
    exact (((IsPart.of_isName hjoin).append (.of_plain (by decide))).append
      (.of_isName hcolumn)).append (.of_plain (by decide))

/-- The table of a trigger has a plain name. -/
theorem isName_triggerTable (f : TriggerFunction) {join : RequiredJoin}
    (h : (Statement.createTrigger f join).HasNames) : IsName (triggerTable f join) := by
  cases f with
  | parent => exact h.2.2
  | link => exact h.1

/-- The statement that removes a trigger is a part. -/
theorem isPart_dropTrigger (d : Dialect) (f : TriggerFunction) {join : RequiredJoin}
    (h : (Statement.dropTrigger f join).HasNames) :
    IsPart ((Statement.dropTrigger f join).text d) :=
  (((IsPart.of_plain (by decide)).append (isPart_triggerName f h)).append
    (.of_plain (by decide))).append (.of_isName (isName_triggerTable f h))

/-- The statement that creates a trigger is a part. -/
theorem isPart_createTrigger (d : Dialect) (f : TriggerFunction) {join : RequiredJoin}
    (h : (Statement.createTrigger f join).HasNames) :
    IsPart ((Statement.createTrigger f join).text d) := by
  have hargument : IsName (triggerArgument f join) := by
    cases f with
    | parent => exact h.1
    | link => exact h.2.2
  -- The arguments are names in quotes, so they are literals.
  have htext : (Statement.createTrigger f join).text d =
      "CREATE CONSTRAINT TRIGGER " ++ triggerName f join ++ "\n    AFTER " ++ triggerEvents f ++
        " ON " ++ triggerTable f join ++
        "\n    DEFERRABLE INITIALLY DEFERRED\n    FOR EACH ROW EXECUTE FUNCTION " ++ f.name ++
        ("(" ++ commaList ([triggerArgument f join, join.column].map literal)) ++ ")" := by
    unfold Statement.text
    rw [← String.toList_inj]
    simp [commaList, hargument.literal_eq, h.2.1.literal_eq]
  have hevents : IsPart (triggerEvents f) := .of_plain (by cases f <;> decide)
  have hname : IsPart f.name := .of_plain (by cases f <;> decide)
  have harguments : IsPart ("(" ++ commaList ([triggerArgument f join, join.column].map literal)) :=
    .plain_append (by decide) (by decide) (whole_commaList_literal _)
  rw [htext]
  exact (((((((((IsPart.of_plain (by decide)).append (isPart_triggerName f h)).append
    (.of_plain (by decide))).append hevents).append (.of_plain (by decide))).append
    (.of_isName (isName_triggerTable f h))).append (.of_plain (by decide))).append hname).append
    harguments).append (.of_plain (by decide))

/-- The text of a statement is whole, whatever values its columns allow. -/
theorem isPart_text (d : Dialect) {st : Statement} (h : st.HasNames) : IsPart (st.text d) := by
  cases st with
  | createTable name columns foreignKeys =>
    obtain ⟨hname, hcolumns, hkeys⟩ := h
    refine isPart_createTableText hname fun item hitem => ?_
    rcases List.mem_append.1 hitem with hitem | hitem
    · obtain ⟨c, hc, rfl⟩ := List.mem_map.1 hitem
      exact isPart_columnText d (hcolumns c hc)
    · obtain ⟨key, hkey, rfl⟩ := List.mem_map.1 hitem
      exact isPart_referenceText (hkeys key hkey).1 (hkeys key hkey).2
  | addForeignKey table key => exact isPart_addForeignKey d h
  | createJoinTable join =>
    exact isPart_createTableText h.1 (isPart_joinTableBody d h.2)
  | createIndex index =>
    obtain ⟨hname, htable, hcolumns⟩ := h
    exact (((((IsPart.of_plain (by decide)).append (.of_isName hname)).append
      (.of_plain (by decide))).append (.of_isName htable)).append (.of_plain (by decide))).append
      (isPart_commaList hcolumns) |>.append (.of_plain (by decide))
  | createFunction f => exact isPart_createFunction d f
  | dropTrigger f join => exact isPart_dropTrigger d f h
  | createTrigger f join => exact isPart_createTrigger d f h

/-- Text at the end leaves the first character. -/
theorem head?_toList_append {a : String} {c : Char} (h : a.toList.head? = some c) (b : String) :
    (a ++ b).toList.head? = some c := by
  rw [String.toList_append, List.head?_append, h]
  rfl

/-- A statement starts with the first letter of its keyword. -/
theorem head?_text (d : Dialect) (st : Statement) :
    (st.text d).toList.head? = some 'C' ∨ (st.text d).toList.head? = some 'D' := by
  unfold Statement.text
  cases st with
  | createTable | createJoinTable =>
    left
    unfold createTableText
    simp only [String.append_assoc]
    exact head?_toList_append (by simp) _
  | createIndex | createFunction | createTrigger =>
    left
    simp only [String.append_assoc]
    exact head?_toList_append (by simp) _
  | addForeignKey | dropTrigger =>
    right
    simp only [String.append_assoc]
    exact head?_toList_append (by simp) _

/-- A statement does not end with a blank. -/
theorem isBlank_getLast_text (d : Dialect) {st : Statement} (h : st.HasNames) :
    ∀ c ∈ (st.text d).toList.getLast?, isBlank c = false := by
  have hend : ∀ (s : String) {t : String} {q : Char}, t.toList.getLast? = some q →
      isBlank q = false → ∀ c ∈ (s ++ t).toList.getLast?, isBlank c = false := by
    intro s t q ht hq c hc
    rw [String.toList_append, List.getLast?_append, ht] at hc
    obtain rfl := Option.some.inj hc
    exact hq
  cases st with
  | createTable name columns foreignKeys => exact hend _ (q := ')') (by simp) (by decide)
  | addForeignKey table key =>
    unfold Statement.text
    exact hend _ (q := '$') (by simp) (by decide)
  | createJoinTable join => exact hend _ (q := ')') (by simp) (by decide)
  | createIndex index => exact hend _ (q := ')') (by simp) (by decide)
  | createFunction f => exact hend _ (q := '$') (by simp) (by decide)
  | dropTrigger f join =>
    have htable := isName_triggerTable f h
    obtain ⟨q, hq⟩ :=
      Option.ne_none_iff_exists'.1 (mt List.getLast?_eq_none_iff.1 htable.toList_ne_nil)
    exact hend _ hq (htable.isBlank_getLast q hq)
  | createTrigger f join => exact hend _ (q := ')') (by simp) (by decide)

/-- A statement has code. -/
theorem hasCode_text (d : Dialect) (st : Statement) :
    hasCode (list (st.text d).toList) = true := by
  have hletter : ∀ {c : Char} {cs : List Char}, cs.head? = some c → isPlain c = true →
      isSpace c = false → hasCode (list cs) = true := by
    intro c cs hhead hplain hspace
    obtain ⟨rest, rfl⟩ := List.head?_eq_some_iff.1 hhead
    rw [list_plain hplain, if_neg (by simp [hspace])]
    rfl
  rcases head?_text d st with h | h
  · exact hletter h (by decide) (by decide)
  · exact hletter h (by decide) (by decide)

/-- A statement has no blanks at its ends. -/
theorem trim_text (d : Dialect) {st : Statement} (h : st.HasNames) :
    trim (st.text d).toList = (st.text d).toList := by
  refine trim_eq_self (fun c hc => ?_) (isBlank_getLast_text d h)
  rcases head?_text d st with hhead | hhead
  · rw [hhead] at hc
    obtain rfl := Option.some.inj hc
    decide
  · rw [hhead] at hc
    obtain rfl := Option.some.inj hc
    decide

end Sql

end EntityModel
