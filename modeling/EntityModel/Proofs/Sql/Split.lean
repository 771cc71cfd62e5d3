import EntityModel.Proofs.Sql.Chunks
import EntityModel.Proofs.Sql.StatementText

/-! # Scripts are split into their statements

The script of a plan whose names are names without quotes is split into the statements that it was
made of (`splitStatements_render`), whatever values its columns allow: quotes, semicolons, marks of
comments and dollar signs in them stand in literals. The comments of the banner stay in front of the
first statement. -/

namespace EntityModel

open Relational Text

namespace Sql

open Lexeme

/-! ## Scripts -/

/-- Between statements there is an empty line or none. -/
theorem toList_separator (st : Statement) :
    (separator st).toList = [] ∨ (separator st).toList = ['\n'] := by
  cases st <;> simp [separator]

/-- What stands between statements is whole. -/
theorem isPart_separator (st : Statement) : IsPart (separator st) := by
  refine .of_plain ?_
  rcases toList_separator st with h | h <;> rw [h] <;> decide

/-- Line feeds in front of a statement are trimmed. -/
theorem trim_separator_text (d : Dialect) {st : Statement} (h : st.HasNames) :
    trim ('\n' :: ((separator st).toList ++ (st.text d).toList)) = (st.text d).toList := by
  have hfeed : isBlank '\n' = true := by decide
  rw [trim_cons_of_blank hfeed]
  rcases toList_separator st with hnil | hfeeds
  · rw [hnil, List.nil_append, trim_text d h]
  · rw [hfeeds, List.singleton_append, trim_cons_of_blank hfeed, trim_text d h]

/-- The texts of statements, where some text stands in front of the first one. -/
def textsBehind (d : Dialect) (lead : List Char) : List Statement → List (List Char)
  | [] => []
  | first :: rest =>
    trim (lead ++ ((separator first).toList ++ (first.text d).toList)) ::
      rest.map fun st => (st.text d).toList

/-- The statements behind a text without code are those that the script was made of. -/
theorem statementsOf_scripts (d : Dialect) {sts : List Statement} (hsts : ∀ st ∈ sts, st.HasNames)
    {lead : List Char} (hlead : Whole lead) (hcode : hasCode (list lead) = false) :
    statementsOf (list (lead ++ sts.flatMap fun st => (scriptText d st).toList)) =
      textsBehind d lead sts := by
  induction sts generalizing lead with
  | nil =>
    rw [List.flatMap_nil, List.append_nil, statementsOf, pieces_of_notMem hlead.semicolon_notMem]
    simp [lastStatement, hcode, textsBehind]
  | cons st sts ih =>
    have hst := hsts st List.mem_cons_self
    have hrest : ∀ st ∈ sts, st.HasNames := fun st hst => hsts st (List.mem_cons_of_mem _ hst)
    have hpart := isPart_text d hst
    -- What stands in front of the first semicolon is one piece, and the line feed behind it starts
    -- the next one.
    have hfront : Whole (lead ++ (separator st).toList) :=
      hlead.append (isPart_separator st).whole (isPart_separator st).head_ne
    have hpiece := hfront.append hpart.whole hpart.head_ne
    have hsplit : lead ++ (st :: sts).flatMap (fun st => (scriptText d st).toList) =
        lead ++ (separator st).toList ++ (st.text d).toList ++ ';' ::
          (['\n'] ++ sts.flatMap fun st => (scriptText d st).toList) := by
      simp [scriptText]
    have hfeed : hasCode (list ['\n']) = false := by
      rw [list_plain (by decide)]
      simp [hasCode, isSpace, isCode]
    have hline := ih hrest (.of_plain (by decide)) hfeed
    rw [hsplit, hpiece.list_append (by simp), list_semicolon,
      statementsOf_append_semicolon hpiece.semicolon_notMem, hfront.list_append hpart.head_ne,
      hasCode_append, hasCode_text, Bool.or_true, if_pos rfl, hline, pieceText, List.flatMap_append,
      flatMap_text_list, flatMap_text_list, List.append_assoc, List.singleton_append]
    cases sts with
    | nil => rfl
    | cons next sts =>
      have hnext := trim_separator_text d (hrest next List.mem_cons_self)
      simp only [textsBehind, List.cons_append, List.nil_append, hnext, List.map_cons]

/-! ## Banners -/

/-- Comments are whole, and hold no code. -/
theorem whole_comments {texts : List String} (h : ∀ text ∈ texts, '\n' ∉ text.toList) :
    Whole (texts.flatMap fun text => ("-- " ++ text ++ "\n").toList) ∧
      hasCode (list (texts.flatMap fun text => ("-- " ++ text ++ "\n").toList)) = false := by
  induction texts with
  | nil => exact ⟨.nil, by simp [hasCode]⟩
  | cons text texts ih =>
    obtain ⟨hwhole, hcode⟩ := ih fun text htext => h text (List.mem_cons_of_mem _ htext)
    have hline : '\n' ∉ ' ' :: text.toList := by
      simpa using h text List.mem_cons_self
    have hsplit : (text :: texts).flatMap (fun text => ("-- " ++ text ++ "\n").toList) =
        '-' :: '-' :: ((' ' :: text.toList) ++
          '\n' :: texts.flatMap fun text => ("-- " ++ text ++ "\n").toList) := by
      simp
    rw [hsplit]
    refine ⟨.comment hline hwhole, ?_⟩
    rw [list_comment hline]
    exact hcode

/-- The comments of a banner. -/
def bannerComments (d : Dialect) (b : Banner) : List String := b.lines ++ ["Dialect: " ++ d.name]

/-- The banner is made of comments, each on its own line. -/
theorem toList_bannerText (d : Dialect) (b : Banner) : (bannerText d b).toList =
    (bannerComments d b).flatMap fun text => ("-- " ++ text ++ "\n").toList := by
  rw [bannerText, String.toList_join, List.flatMap_map, bannerComments]

/-- The comments of a banner have no line breaks if its names have none. -/
theorem notMem_bannerComments {b : Banner} (hgenerator : '\n' ∉ b.generator.toList)
    (hsource : ∀ source ∈ b.source, '\n' ∉ source.toList) (d : Dialect) :
    ∀ text ∈ bannerComments d b, '\n' ∉ text.toList := by
  intro text htext
  rcases List.mem_append.1 htext with htext | htext
  · rcases List.mem_cons.1 htext with rfl | htext
    · simp [hgenerator]
    · cases hb : b.source with
      | none => simp [hb] at htext
      | some source =>
        have hfree := hsource source hb
        rw [hb] at htext
        obtain rfl := List.mem_singleton.1 htext
        simp [hfree]
  · obtain rfl := List.mem_singleton.1 htext
    cases d <;> simp [Dialect.name]

/-- The first piece of a script starts with a dash and ends as its statement does, so that nothing
is trimmed. -/
theorem trim_bannerText_text (d : Dialect) (b : Banner) {st : Statement} (h : st.HasNames) :
    trim ((bannerText d b).toList ++ '\n' :: (st.text d).toList) =
      (bannerText d b).toList ++ '\n' :: (st.text d).toList := by
  obtain ⟨cs, hdash⟩ : ∃ cs, (bannerText d b).toList = '-' :: cs := by
    rw [toList_bannerText]
    simp [bannerComments, Banner.lines]
  refine trim_eq_self (fun c hc => ?_) (fun c hc => isBlank_getLast_text d h c ?_)
  · rw [hdash] at hc
    obtain rfl := Option.some.inj hc
    decide
  · obtain ⟨q, hq⟩ : ∃ q, (st.text d).toList.getLast? = some q := by
      refine Option.ne_none_iff_exists'.1 (mt List.getLast?_eq_none_iff.1 fun hnil => ?_)
      have hhead := head?_text d st
      simp [hnil] at hhead
    rw [List.getLast?_append, List.getLast?_cons, hq] at hc
    exact hq.trans hc

/-! ## The statements of a plan -/

/-- A blank line stands in front of the first statement of a plan. -/
theorem separator_head_statements (d : Dialect) (p : Plan) :
    ∀ st ∈ (statements d p).head?, separator st = "\n" := by
  have happend : ∀ {xs ys : List Statement}, (∀ st ∈ xs.head?, separator st = "\n") →
      (∀ st ∈ ys.head?, separator st = "\n") → ∀ st ∈ (xs ++ ys).head?, separator st = "\n" := by
    intro xs ys hxs hys
    cases xs with
    | nil => exact hys
    | cons x xs => exact hxs
  have hall : ∀ {xs : List Statement}, (∀ st ∈ xs, separator st = "\n") →
      ∀ st ∈ xs.head?, separator st = "\n" := fun hxs st hst => hxs st (List.mem_of_head? hst)
  -- Only triggers have another separator, and they do not come first.
  refine happend (happend (happend (happend (hall ?_) ?_) (hall ?_)) (hall ?_)) ?_
  · exact List.forall_mem_map.2 fun t ht => rfl
  · split
    · refine hall fun st hst => ?_
      obtain ⟨t, -, hst⟩ := List.mem_flatMap.1 hst
      obtain ⟨key, -, rfl⟩ := List.mem_map.1 hst
      rfl
    · simp
  · exact List.forall_mem_map.2 fun j hj => rfl
  · exact List.forall_mem_map.2 fun i hi => rfl
  · split
    · unfold triggerStatements
      split <;> simp [separator]
    · simp

/-- The texts with a banner in front of the first one. -/
def underBanner (banner : String) : List String → List String
  | [] => []
  | first :: rest => (banner ++ "\n" ++ first) :: rest

/-- The script of a plan is split into its statements. -/
theorem splitStatements_script {p : Plan} (hp : HasNames p) {b : Banner}
    (hgenerator : '\n' ∉ b.generator.toList)
    (hsource : ∀ source ∈ b.source, '\n' ∉ source.toList) (d : Dialect) :
    splitStatements (render d b p) =
      underBanner (bannerText d b) ((statements d p).map (Statement.text d)) := by
  obtain ⟨hwhole, hcode⟩ := whole_comments (notMem_bannerComments hgenerator hsource d)
  rw [← toList_bannerText] at hwhole hcode
  have hnames := hp.of_mem_statements d
  have hsplit := statementsOf_scripts d hnames hwhole hcode
  have hscript : (render d b p).toList = (bannerText d b).toList ++
      (statements d p).flatMap fun st => (scriptText d st).toList := by
    rw [render, String.toList_append, String.toList_join, List.flatMap_map]
  rw [splitStatements, hscript, hsplit]
  -- The comments of the banner are trimmed with the first statement.
  have hhead := separator_head_statements d p
  cases hsts : statements d p with
  | nil => rfl
  | cons first rest =>
    rw [hsts] at hnames hhead
    have htrim := trim_bannerText_text d b (hnames first List.mem_cons_self)
    have hstatement : (separator first).toList = ['\n'] := by
      rw [hhead first rfl]
      simp
    rw [textsBehind, hstatement, List.singleton_append, htrim]
    simp [underBanner, Function.comp_def, ← String.toList_inj]

/-- The texts of the statements of a plan: one for every table, and for Postgres one for every
forward reference; one for every join table and every index; and for Postgres, if joins are
required, two functions and then four statements for each of the joins. -/
def planTexts (d : Dialect) (p : Plan) : List String :=
  (p.tables.map fun t => (tableStatement d t).text d) ++
    (if d = .postgres then
      p.tables.flatMap fun t => (t.foreignKeys.filter (·.forward)).map
        fun key => (Statement.addForeignKey t.name key).text d
    else []) ++
    (p.joinTables.map fun j => (Statement.createJoinTable j).text d) ++
    (p.indexes.map fun i => (Statement.createIndex i).text d) ++
    if d = .postgres ∧ p.requiredJoins ≠ [] then
      [(Statement.createFunction .parent).text d, (Statement.createFunction .link).text d] ++
        p.requiredJoins.flatMap fun r =>
          [(Statement.dropTrigger .parent r).text d, (Statement.createTrigger .parent r).text d,
            (Statement.dropTrigger .link r).text d, (Statement.createTrigger .link r).text d]
    else []

/-- The texts of the statements are those that the parts of a plan make. -/
theorem map_text_statements (d : Dialect) (p : Plan) :
    (statements d p).map (Statement.text d) = planTexts d p := by
  have hforward : (p.tables.flatMap forwardStatements).map (Statement.text d) =
      p.tables.flatMap fun t => (t.foreignKeys.filter (·.forward)).map
        fun key => (Statement.addForeignKey t.name key).text d := by
    rw [List.map_flatMap]
    exact List.flatMap_congr fun t ht => by rw [forwardStatements, List.map_map]; rfl
  have htriggers : (triggerStatements p.requiredJoins).map (Statement.text d) =
      if p.requiredJoins ≠ [] then
        [(Statement.createFunction .parent).text d, (Statement.createFunction .link).text d] ++
          p.requiredJoins.flatMap fun r =>
            [(Statement.dropTrigger .parent r).text d, (Statement.createTrigger .parent r).text d,
              (Statement.dropTrigger .link r).text d, (Statement.createTrigger .link r).text d]
      else [] := by
    cases hjoins : p.requiredJoins with
    | nil => rfl
    | cons r rs =>
      rw [triggerStatements, if_neg (by simp), if_pos (by simp), List.map_append, List.map_flatMap]
      rfl
  cases d with
  | postgres =>
    simp [statements, planTexts, Dialect.needsReferencedTables, Dialect.hasConstraintTriggers,
      hforward, htriggers, Function.comp_def]
  | sqlite =>
    simp [statements, planTexts, Dialect.needsReferencedTables, Dialect.hasConstraintTriggers,
      Function.comp_def]

/-- **Splitting a script gives the statements of its plan**, in their order and without their
semicolons. The comments of the banner stand in front of the first statement, if there is one. -/
theorem splitStatements_render {p : Plan} (hp : HasNames p) {b : Banner}
    (hgenerator : '\n' ∉ b.generator.toList)
    (hsource : ∀ source ∈ b.source, '\n' ∉ source.toList) (d : Dialect) :
    splitStatements (render d b p) = underBanner (bannerText d b) (planTexts d p) := by
  rw [splitStatements_script hp hgenerator hsource, map_text_statements]

/-- A plan with values of all kinds in its only table. -/
def noticesPlan : Plan where
  tables := [⟨"notices", "Notice", [⟨"id", .uuid, true, true, none⟩,
    ⟨"mark", .text, false, false, some ["it's; so", "-- /* $$", "a\nb\""]⟩], []⟩]
  joinTables := []
  indexes := [⟨"idx_notices_nk_1", "notices", ["mark"]⟩]
  requiredJoins := []

/-- Quotes, semicolons, marks of comments, dollar signs and line feeds in values end no
statement. -/
theorem splitStatements_render_notices : HasNames noticesPlan ∧
    splitStatements (render .postgres .standard noticesPlan) =
      [String.join ["-- Code generated by entitygen. DO NOT EDIT.\n",
          "-- Source of truth: docs/schema/entity-model.json\n", "-- Dialect: postgres\n\n",
          "CREATE TABLE IF NOT EXISTS notices (\n", "    id UUID NOT NULL PRIMARY KEY,\n",
          "    mark TEXT CHECK ((mark IN ('it''s; so', '-- /* $$', 'a\nb\"') OR mark IS NULL))\n)"],
        "CREATE UNIQUE INDEX IF NOT EXISTS idx_notices_nk_1 ON notices (mark)"] := by
  have hnames : HasNames noticesPlan := ⟨by decide, by decide, by decide, by decide⟩
  refine ⟨hnames, ?_⟩
  have hgenerator : '\n' ∉ Banner.standard.generator.toList := by
    simp [Banner.standard, Banner.defaultGenerator]
  have hsource : ∀ source ∈ Banner.standard.source, '\n' ∉ source.toList := by
    simp [Banner.standard, Banner.defaultSource]
  rw [splitStatements_render hnames hgenerator hsource]
  decide +kernel

end Sql

end EntityModel
