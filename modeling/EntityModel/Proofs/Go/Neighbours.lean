import EntityModel.Proofs.Go.Spacing

/-! # Lines with text that follow each other

Of laid out source the lines with text are those of the source, in their order, so two that follow
each other are found again by how many stand in front of them (`Neighbours.eq_of_rank_eq`). What
comes between them is counted (`Neighbours.exists_of_layout_eq_ok`): one blank line for any number
of them, with two exceptions. In the lines of a file neither of them occurs, as its lines with cells
stand directly behind lines with text (`Passes.isChain_lines`). -/

namespace EntityModel.Go

open Text (trimEnd)

/-! ## Neighbours -/

/-- Two lines with text, without text on any line between them. -/
structure Neighbours (ls : List Line) where
  /-- The lines in front of both. -/
  before : List Line
  /-- The upper line. -/
  first : Line
  /-- The lines between them. -/
  gap : List Line
  /-- The lower line. -/
  second : Line
  /-- The lines behind both. -/
  after : List Line
  eq : ls = before ++ first :: (gap ++ second :: after)
  first_hasText : first.HasText
  gap_blank : ∀ line ∈ gap, ¬line.HasText
  second_hasText : second.HasText

namespace Neighbours

variable {ls : List Line}

/-- How many lines with text stand in front of them. -/
def rank (p : Neighbours ls) : Nat := p.before.countP (·.HasText)

/-- How many blank lines layout writes between them. -/
def blanks (p : Neighbours ls) : Nat :=
  keptBlanks (decide (Lingers (p.before ++ [p.first]))) p.gap

/-- If two lists are cut at elements with a property, behind equally many others with it, then they
are cut at the same place. -/
theorem append_cons_inj_of_countP {α : Type} {P : α → Bool} {xs ys as bs : List α} {a b : α}
    (ha : P a = true) (hb : P b = true) (hcount : xs.countP P = ys.countP P)
    (h : xs ++ a :: as = ys ++ b :: bs) : xs = ys ∧ a = b ∧ as = bs := by
  induction xs generalizing ys with
  | nil =>
    cases ys with
    | nil => exact ⟨rfl, List.cons.inj h⟩
    | cons y ys =>
      obtain ⟨rfl, -⟩ := List.cons.inj h
      rw [List.countP_nil, List.countP_cons_of_pos ha] at hcount
      omega
  | cons x xs ih =>
    cases ys with
    | nil =>
      obtain ⟨rfl, -⟩ := List.cons.inj h
      rw [List.countP_nil, List.countP_cons_of_pos hb] at hcount
      omega
    | cons y ys =>
      obtain ⟨rfl, htail⟩ := List.cons.inj h
      rw [List.countP_cons, List.countP_cons] at hcount
      obtain ⟨rfl, hrest⟩ := ih (Nat.add_right_cancel hcount) htail
      exact ⟨rfl, hrest⟩

/-- Their rank tells two lines from all others. -/
theorem eq_of_rank_eq {p q : Neighbours ls} (h : p.rank = q.rank) : p = q := by
  have hgaps : p.gap.countP (·.HasText) = q.gap.countP (·.HasText) := by
    rw [List.countP_eq_zero.2 (by simpa using p.gap_blank),
      List.countP_eq_zero.2 (by simpa using q.gap_blank)]
  obtain ⟨hbefore, hfirst, hrest⟩ := append_cons_inj_of_countP (by simpa using p.first_hasText)
    (by simpa using q.first_hasText) h (p.eq.symm.trans q.eq)
  obtain ⟨hgap, hsecond, hafter⟩ := append_cons_inj_of_countP (by simpa using p.second_hasText)
    (by simpa using q.second_hasText) hgaps hrest
  cases p
  cases q
  subst hbefore hfirst hgap hsecond hafter
  rfl

end Neighbours

/-- The lines of a source. -/
def readLines (source : String) : List Line := (Text.lines source.toList).map Line.ofText

/-- What is read of source that is laid out are lines without cells. -/
theorem readLines_of_layout_eq_ok {source out : String} (h : layout source = .ok out) :
    readLines out = (layoutLines (Text.lines source.toList)).map .plain := by
  obtain ⟨_, -, hout⟩ := Outcome.bind_eq_ok_iff.1 h
  obtain rfl := Except.ok.inj hout
  have hfeed : ∀ line ∈ Text.lines source.toList, '\n' ∉ line := fun _ => Text.notMem_of_mem_lines
  rw [readLines, String.toList_ofList, lines_unlines_layoutLines hfeed]
  refine List.map_congr_left fun l hl => ?_
  exact Line.ofText_of_notMem (laysOut_of_mem_layoutLines hl).cell_notMem

/-- What becomes of a line in laid out source. -/
def Line.Becomes (line image : Line) : Prop := ∃ width, image = .plain (line.image width)

/-- Two lines with text that follow each other become two such lines, and blank lines between them
as they are counted. -/
theorem Neighbours.exists_of_layout_eq_ok {source out : String} (h : layout source = .ok out)
    (p : Neighbours (readLines source)) : ∃ q : Neighbours (readLines out), q.rank = p.rank ∧
      p.first.Becomes q.first ∧ p.second.Becomes q.second ∧
        q.gap = List.replicate p.blanks (.plain []) := by
  have hlines := (map_line_slots (Text.lines source.toList)).trans p.eq
  -- The slots of the source fall into the same parts as its lines.
  obtain ⟨before, rest, hslots, hbefore, hrest⟩ := List.map_eq_append_iff.1 hlines
  obtain ⟨first, rest, rfl, hfirst, hrest⟩ := List.map_eq_cons_iff.1 hrest
  obtain ⟨gap, rest, rfl, hgap, hrest⟩ := List.map_eq_append_iff.1 hrest
  obtain ⟨second, after, rfl, hsecond, -⟩ := List.map_eq_cons_iff.1 hrest
  -- Something is written for the two lines, and nothing for those between them.
  have hblank : ∀ s ∈ before ++ first :: (gap ++ second :: after),
      s.image = [] ↔ ¬s.line.HasText := by
    intro s hs
    rw [← hslots] at hs
    exact image_eq_nil_iff_of_mem_slots hs
  have hbefores : ∀ s ∈ before, s.image = [] ↔ ¬s.line.HasText :=
    fun s hs => hblank s (by simp [hs])
  have hfirsts : first.image ≠ [] := by
    rw [Ne, hblank first (by simp), hfirst]
    exact not_not.2 p.first_hasText
  have hseconds : second.image ≠ [] := by
    rw [Ne, hblank second (by simp), hsecond]
    exact not_not.2 p.second_hasText
  have hgaps : ∀ s ∈ gap, s.image = [] := by
    intro s hs
    rw [hblank s (by simp [hs])]
    exact p.gap_blank _ (hgap ▸ List.mem_map_of_mem hs)
  obtain ⟨back, hback⟩ := exists_layoutLines_eq hslots hfirsts hgaps hseconds
  -- How many empty lines are written depends on what lingers in front of the gap.
  have hcount : keptBlanks (decide (Lingers ((before ++ [first]).map (·.line))))
      (gap.map (·.line)) = p.blanks := by
    rw [blanks, List.map_append, hbefore, List.map_singleton, hfirst, hgap]
  have hempty : ¬(Line.plain []).HasText := by decide
  refine ⟨{ before := (Spacing.start.sift before).map .plain
            first := .plain first.image
            gap := List.replicate p.blanks (.plain [])
            second := .plain second.image
            after := back.map .plain
            eq := ?_
            first_hasText := ?_
            gap_blank := ?_
            second_hasText := ?_ }, ?_, ⟨first.width, ?_⟩, ⟨second.width, ?_⟩, rfl⟩
  · rw [readLines_of_layout_eq_ok h, hback, hcount]
    simp
  · show trimEnd first.image ≠ []
    rwa [trimEnd_image]
  · intro line hline
    rw [List.eq_of_mem_replicate hline]
    exact hempty
  · show trimEnd second.image ≠ []
    rwa [trimEnd_image]
  · show ((Spacing.start.sift before).map Line.plain).countP (·.HasText) = p.rank
    rw [Spacing.countP_sift _ hbefores, hbefore, rank]
  · rw [← hfirst]
    rfl
  · rw [← hsecond]
    rfl

/-! ## Lines of files -/

/-- A line with cells stands directly behind a line with text. -/
def Attached (first second : Line) : Prop := second.isRow = true → first.HasText

/-- No blank line stays open at a line with text, if lines with cells stand behind lines with
text. -/
theorem not_lingers_of_isChain {ls : List Line} {line : Line}
    (h : (ls ++ [line]).IsChain Attached) (htext : line.HasText) : ¬Lingers (ls ++ [line]) := by
  induction ls using List.reverseRecOn generalizing line with
  | nil =>
    cases line with
    | plain text => simp [Lingers, List.rtakeWhile, Line.isRow, htext]
    | row r => simp [Lingers, List.rtakeWhile, Line.isRow]
  | append_singleton ls last ih =>
    cases hrow : line.isRow with
    | false =>
      rw [Lingers, List.rtakeWhile_concat_neg _ _ _ (by simp [hrow, htext])]
      simp
    | true =>
      -- The line before has text, so none is open there, and a line with cells opens none.
      obtain ⟨hls, -, hlast⟩ := List.isChain_append.1 h
      have hlast : last.HasText := hlast last (by simp) line rfl hrow
      rw [Lingers, List.rtakeWhile_concat_pos _ _ _ (by simp [hrow])]
      rintro ⟨open_, hmem, hplain⟩
      rcases List.mem_append.1 hmem with hmem | hmem
      · exact ih hls hlast ⟨open_, hmem, hplain⟩
      · rw [List.mem_singleton.1 hmem, hrow] at hplain
        cases hplain

/-- Blank lines are kept as one, if lines with cells have text and stand behind lines with text. -/
theorem Neighbours.blanks_of_isChain {ls : List Line} (hchain : ls.IsChain Attached)
    (hrows : ∀ line ∈ ls, line.isRow = true → line.HasText) (p : Neighbours ls) :
    p.blanks = min p.gap.length 1 := by
  have hprefix : p.before ++ [p.first] <+: ls := ⟨p.gap ++ p.second :: p.after, by simp [p.eq]⟩
  have hfront := hchain.prefix hprefix
  have hclosed := not_lingers_of_isChain hfront p.first_hasText
  have hplain : p.gap.countP (·.isRow) = 0 := by
    rw [List.countP_eq_zero]
    intro line hline hrow
    refine p.gap_blank line hline (hrows line ?_ hrow)
    rw [p.eq]
    simp [hline]
  rw [blanks, keptBlanks_eq_min_iff]
  exact .inr (.inl ⟨hplain, decide_eq_false hclosed⟩)

/-- A line with cells does not stand behind an empty line. -/
def Apposed (first second : String) : Prop := cell ∈ second.toList → first ≠ ""

/-- Lines that are not empty may be put in front. -/
theorem isChain_apposed_append {ls others : List String} (h : ∀ l ∈ ls, l ≠ "")
    (hothers : others.IsChain Apposed) : (ls ++ others).IsChain Apposed := by
  induction ls with
  | nil => exact hothers
  | cons l ls ih =>
    obtain ⟨hl, hls⟩ := List.forall_mem_cons.1 h
    exact (ih hls).cons fun _ _ _ => hl

/-- An empty line may be put in front, if no line with cells follows it. -/
theorem isChain_apposed_empty {others : List String} (hothers : others.IsChain Apposed)
    (hhead : ∀ l ∈ others.head?, cell ∉ l.toList) : ("" :: others).IsChain Apposed :=
  hothers.cons fun l hl hcell => absurd hcell (hhead l hl)

namespace Declaration

variable {v : Vocabulary} {d : Declaration}

/-- A declaration starts with a comment, which has no cells. -/
theorem WellNamed.cell_notMem_head (h : d.WellNamed v) : ∀ l ∈ d.lines.head?, cell ∉ l.toList := by
  have hpart : isIdentifierPart cell = false := by decide
  have hname : ∀ {name : String}, isIdentifier name = true → cell ∉ name.toList := by
    intro name hname hcell
    have htrue := isIdentifierPart_of_mem hname hcell
    rw [hpart] at htrue
    cases htrue
  cases h with
  | @enumeration source constants hcamel _ =>
    have hsource : cell ∉ source.toList :=
      notMem_of_isIdentifier_camel hcamel hpart (by decide) (by decide) (by decide) (by decide)
    have htype := hname hcamel
    rintro l ⟨⟩
    simp only [String.toList_append, List.mem_append, htype, hsource]
    decide
  | @struct name origin fields hid _ =>
    have hstruct := hname hid
    have horigin : cell ∉ origin.word.toList := by cases origin <;> decide
    rintro l ⟨⟩
    simp only [String.toList_append, List.mem_append, hstruct, horigin]
    decide

/-- The lines of a declaration may stand in front of lines without cells. -/
theorem isChain_lines_append (d : Declaration) {others : List String}
    (hothers : others.IsChain Apposed) (hhead : ∀ l ∈ others.head?, cell ∉ l.toList) :
    (d.lines ++ others).IsChain Apposed := by
  have hempty := isChain_apposed_empty hothers hhead
  cases d with
  | enumeration name source constants =>
    have htop : ∀ l ∈ ["// " ++ name ++ " enumerates values for " ++ source ++ ".",
        "type " ++ name ++ " string"], l ≠ "" := by simp
    have hrows : ∀ l ∈ constants.map (·.row name), l ≠ "" :=
      List.forall_mem_map.2 fun c _ => by simp [Constant.row]
    by_cases hnone : constants.isEmpty = true
    · have hlines := isChain_apposed_append htop hempty
      rw [lines, if_pos hnone]
      simpa using hlines
    · -- The empty line in front of the constants is followed by the start of their block.
      have hblock : ∀ l ∈ ["const ("] ++ constants.map (·.row name) ++ [")"], l ≠ "" :=
        List.forall_mem_append.2 ⟨List.forall_mem_append.2 ⟨by simp, hrows⟩, by simp⟩
      have hrest := isChain_apposed_append hblock hempty
      have hlines := isChain_apposed_append htop
        (isChain_apposed_empty hrest (by rintro l ⟨⟩; decide))
      rw [lines, if_neg hnone]
      simpa using hlines
  | struct name origin fields =>
    have hrows : ∀ l ∈ fields.map (·.row), l ≠ "" :=
      List.forall_mem_map.2 fun f _ => by simp [Field.row]
    have hlines : ∀ l ∈ ["// " ++ name ++ " is generated from the entity model " ++ origin.word ++
        ".", "type " ++ name ++ " struct \x7b"] ++ fields.map (·.row) ++ ["\x7d"], l ≠ "" :=
      List.forall_mem_append.2 ⟨List.forall_mem_append.2 ⟨by simp, hrows⟩, by simp⟩
    have hall := isChain_apposed_append hlines hempty
    rw [lines]
    simpa using hall

end Declaration

namespace Passes

variable {package generator : String} {s : Schema} {f : File} (ps : Passes package generator s f)

include ps

/-- In a file no line with cells stands behind an empty line. -/
theorem isChain_lines : f.lines.IsChain Apposed := by
  -- A declaration goes in front of others whose first line has no cells, and has such a line
  -- itself.
  have hdeclarations : ∀ ds : List Declaration, (∀ d ∈ ds, d.WellNamed s.vocabulary) →
      (ds.flatMap (·.lines)).IsChain Apposed ∧
        ∀ l ∈ (ds.flatMap (·.lines)).head?, cell ∉ l.toList := by
    intro ds hds
    induction ds with
    | nil => exact ⟨.nil, fun l hl => by cases hl⟩
    | cons d ds ih =>
      obtain ⟨hd, hds⟩ := List.forall_mem_cons.1 hds
      obtain ⟨hchain, hhead⟩ := ih hds
      rw [List.flatMap_cons]
      refine ⟨d.isChain_lines_append hchain hhead, fun l hl => hd.cell_notMem_head l ?_⟩
      have hne : d.lines ≠ [] := by cases d <;> simp [Declaration.lines]
      rwa [List.head?_append_of_ne_nil _ hne] at hl
  obtain ⟨hchain, hhead⟩ := hdeclarations f.declarations ps.wellNamed
  have htop : ∀ l ∈ ["// Code generated by " ++ f.generator ++ ". DO NOT EDIT.",
      "package " ++ f.package], l ≠ "" := by simp
  unfold File.lines
  cases f.usesTime with
  | true =>
    have himport : ∀ l ∈ [importLine], l ≠ "" := by decide
    have hrest := isChain_apposed_append himport (isChain_apposed_empty hchain hhead)
    have hlines := isChain_apposed_append htop
      (isChain_apposed_empty hrest (by rintro l ⟨⟩; decide))
    simpa using hlines
  | false =>
    have hlines := isChain_apposed_append htop (isChain_apposed_empty hchain hhead)
    simpa using hlines

/-- Blank lines of a file are kept as one. -/
theorem blanks_eq_min (hgenerator : '\n' ∉ generator.toList) (p : Neighbours (readLines f.text)) :
    p.blanks = min p.gap.length 1 := by
  have hlines : Text.lines f.text.toList = f.lines.map (·.toList) :=
    f.lines_text (ps.file_eq ▸ hgenerator) ps.unbroken_lines
  refine p.blanks_of_isChain ?_ ?_
  · rw [readLines, hlines, List.map_map, List.isChain_map]
    refine ps.isChain_lines.imp_of_mem_imp fun a b ha _ happosed hrow => ?_
    have hne : a ≠ "" := happosed (Line.isRow_ofText_iff.1 hrow)
    exact Line.hasText_ofText_iff.2 (f.inked_of_mem_lines a ha hne)
  · intro line hline hrow
    obtain ⟨text, htext, rfl⟩ := List.mem_map.1 hline
    have hcell := Line.isRow_ofText_iff.1 hrow
    rw [Line.ofText, if_pos hcell]
    exact ps.fillsRows hgenerator text htext hcell

end Passes

/-- **How lines are set apart.** Laid out source has the lines with text of the source in their
order. Between two that follow each other it has one blank line if the source has any there, unless
some of these have cells, or a blank line is open at the upper line. In a file it is never so. -/
theorem layout_spacing (source out : String) (h : layout source = .ok out) :
    (∀ p : Neighbours (readLines source),
      (∃ q : Neighbours (readLines out), q.rank = p.rank) ∧
        ∀ q : Neighbours (readLines out), q.rank = p.rank →
          p.first.Becomes q.first ∧ p.second.Becomes q.second ∧
            q.gap = List.replicate p.blanks (.plain []) ∧
            (q.gap.length = min p.gap.length 1 ↔ p.gap = [] ∨
              p.gap.countP (·.isRow) = 0 ∧ ¬Lingers (p.before ++ [p.first]) ∨
              p.gap.countP (·.isRow) = 1 ∧
                (p.gap.length = 1 ∨ Lingers (p.before ++ [p.first])))) ∧
      ∀ package generator s f, '\n' ∉ generator.toList → file package generator s = .ok f →
        source = f.text → ∀ p : Neighbours (readLines source),
          p.blanks = min p.gap.length 1 := by
  constructor
  · intro p
    obtain ⟨q, hrank, hfirst, hsecond, hgap⟩ := p.exists_of_layout_eq_ok h
    refine ⟨⟨q, hrank⟩, fun r hr => ?_⟩
    obtain rfl := Neighbours.eq_of_rank_eq (hr.trans hrank.symm)
    refine ⟨hfirst, hsecond, hgap, ?_⟩
    rw [hgap, List.length_replicate, Neighbours.blanks, keptBlanks_eq_min_iff,
      decide_eq_false_iff_not, decide_eq_true_iff]
  · rintro package generator s f hgenerator hf rfl p
    obtain ⟨ps⟩ := file_eq_ok_iff.1 hf
    exact ps.blanks_eq_min hgenerator p

/-- A struct with an empty line between its fields, each on a line with cells. -/
def spacedStruct : String :=
  "type A struct \x7b\n\tB\x0bint\n\n\tC\x0bint\n\n\tD\x0bint\n\x7d\n"

/-- The struct as it is laid out. -/
def closedStruct : String := "type A struct \x7b\n\tB int\n\n\tC int\n\tD int\n\x7d\n"

/-- The last two fields of the struct. -/
def spacedFields : Neighbours (readLines spacedStruct) where
  before := [.plain "type A struct \x7b".toList, .row ⟨['\t'], [['B'], "int".toList]⟩, .plain []]
  first := .row ⟨['\t'], [['C'], "int".toList]⟩
  gap := [.plain []]
  second := .row ⟨['\t'], [['D'], "int".toList]⟩
  after := [.plain ['\x7d']]
  eq := by decide
  first_hasText := by decide
  gap_blank := by decide
  second_hasText := by decide

/-- The empty line between them is left out, because the one in front of them is still open. In a
file of structs this does not happen. -/
theorem layout_spacing_struct : (layout spacedStruct = .ok closedStruct ∧
    spacedFields.gap.length = 1 ∧ Lingers (spacedFields.before ++ [spacedFields.first]) ∧
    ∃ q : Neighbours (readLines closedStruct), q.rank = spacedFields.rank ∧ q.gap = []) ∧
      '\n' ∉ "entitygen".toList ∧ file "models" "entitygen" visits = .ok visitsFile ∧
        ∀ p : Neighbours (readLines visitsFile.text), p.blanks = min p.gap.length 1 := by
  have hlines : Text.lines spacedStruct.toList = ["type A struct \x7b", "\tB\x0bint", "",
      "\tC\x0bint", "", "\tD\x0bint", "\x7d"].map (·.toList) := by decide
  have hcheck : checkDelimiters (Text.lines spacedStruct.toList) = .ok () := by
    simp only [hlines, checkDelimiters, numberedMarks, marks_eq_scan, List.map_cons]
    rfl
  have hlayout : layout spacedStruct = .ok closedStruct := by
    rw [layout, hcheck]
    decide
  have hopen : Lingers (spacedFields.before ++ [spacedFields.first]) := by decide
  obtain ⟨⟨q, hq⟩, hall⟩ := (layout_spacing spacedStruct closedStruct hlayout).1 spacedFields
  obtain ⟨-, -, hgap, -⟩ := hall q hq
  have hblanks : spacedFields.blanks = 0 := by decide
  rw [hblanks] at hgap
  obtain ⟨out, hout⟩ := exists_generate_visits
  obtain ⟨f, hf, htext⟩ := generate_eq_ok_iff.1 hout
  obtain rfl : visitsFile = f := Except.ok.inj (file_visits.symm.trans hf)
  exact ⟨⟨hlayout, rfl, hopen, q, hq, hgap⟩, by decide, hf, fun p =>
    (layout_spacing visitsFile.text out htext).2 _ _ _ _ (by decide) hf rfl p⟩

end EntityModel.Go
