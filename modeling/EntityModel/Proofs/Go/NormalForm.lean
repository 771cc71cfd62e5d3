import EntityModel.Proofs.Go.Scanning
import EntityModel.Proofs.Go.TypeNames
import Mathlib.Data.List.Chain

/-! # The normal form of source

Layout keeps what a scan finds in a text, so laid out source is accepted again
(`checkDelimiters_layoutLines`). Its lines are tidy, and tidy lines are left as they are
(`layoutLines_of_tidy`). So source is laid out once. -/

namespace EntityModel

/-! ## Lines without line feeds -/

namespace Text

/-- A line has a line feed at most at its end. -/
theorem exists_eq_of_mem_terminatedLines {text line : List Char}
    (h : line ∈ terminatedLines text) :
    ∃ front, '\n' ∉ front ∧ (line = front ∨ line = front ++ ['\n']) := by
  induction text generalizing line with
  | nil => cases h
  | cons c rest ih =>
    unfold terminatedLines at h
    split at h
    · rename_i hc
      rcases List.mem_cons.1 h with rfl | h
      · exact ⟨[], List.not_mem_nil, .inr (by rw [hc]; rfl)⟩
      · exact ih h
    · rename_i hc
      split at h
      · obtain rfl := List.mem_singleton.1 h
        exact ⟨[c], by simpa using Ne.symm hc, .inl rfl⟩
      · rename_i first more hrest
        rw [hrest] at ih
        rcases List.mem_cons.1 h with rfl | h
        · obtain ⟨front, hfront, hline⟩ := ih List.mem_cons_self
          refine ⟨c :: front, by simp [Ne.symm hc, hfront], ?_⟩
          exact hline.imp (congrArg (c :: ·)) (congrArg (c :: ·))
        · exact ih (List.mem_cons_of_mem _ h)

/-- No line has a line feed. -/
theorem notMem_of_mem_lines {text line : List Char} (h : line ∈ lines text) : '\n' ∉ line := by
  obtain ⟨terminated, hmem, rfl⟩ := List.mem_map.1 h
  obtain ⟨front, hfront, hline⟩ := exists_eq_of_mem_terminatedLines hmem
  intro hfeed
  refine hfront ?_
  unfold dropTerminator at hfeed
  rcases hline with rfl | rfl
  · split at hfeed
    · rename_i rest hreverse
      exact List.mem_reverse.1 (hreverse ▸ List.mem_cons_self)
    · rename_i rest _ hreverse
      exact List.mem_reverse.1 (hreverse ▸ List.mem_cons_self)
    · exact hfeed
  · rw [List.reverse_append, List.reverse_singleton, List.singleton_append] at hfeed
    split at hfeed
    · rename_i rest hreverse
      have hrest := (List.cons.inj hreverse).2
      exact List.mem_reverse.1 (hrest ▸ List.mem_cons_of_mem _ (List.mem_reverse.1 hfeed))
    · rename_i rest _ hreverse
      have hrest := (List.cons.inj hreverse).2
      exact List.mem_reverse.1 (hrest ▸ List.mem_reverse.1 hfeed)
    · rename_i hnot
      exact absurd rfl (hnot _)

end Text

namespace Go

open Text (isBlank trim trimEnd)

/-! ## Marks of laid out lines -/

/-- The lines of a run before it is laid out. -/
def Run.lines : Run → List (List Char)
  | .plain line => [line]
  | .table rows => rows.map (·.text)

/-- The marks of a text are those of its runs. -/
theorem flatMap_marks_runs (ls : List (List Char)) :
    ((runs ls).flatMap (·.lines)).flatMap marks = ls.flatMap marks := by
  fun_induction runs ls with
  | case1 => rfl
  | case2 first rest _ rows more hruns ih =>
    -- The line joins the rows behind it.
    rw [hruns, List.flatMap_cons] at ih
    rw [List.flatMap_cons, Run.lines, List.map_cons, List.cons_append, List.flatMap_cons,
      marks_text_ofLine, List.flatMap_cons, ← ih, Run.lines]
  | case3 first rest _ _ ih =>
    rw [List.flatMap_cons, Run.lines, List.map_singleton, List.singleton_append, List.flatMap_cons,
      marks_text_ofLine, List.flatMap_cons, ih]
  | case4 first rest _ ih =>
    rw [List.flatMap_cons, Run.lines, List.singleton_append, List.flatMap_cons, List.flatMap_cons,
      ih]

/-- Rows that are aligned keep their marks. -/
theorem flatMap_marks_align (rows : List Row) :
    (align rows).flatMap marks = (rows.map (·.text)).flatMap marks := by
  rw [align, List.flatMap_map, List.flatMap_map, List.flatMap_congr]
  exact fun row hrow => marks_line fun column => paddedWidth_le_columnWidth hrow column

/-- There is no mark on a blank line. -/
theorem marks_eq_nil_of_trimEnd {line : List Char} (h : trimEnd line = []) : marks line = [] := by
  rw [← marks_trimEnd, h, marks_nil]

/-- Blank lines mark nothing, so it does not matter which of them are left out. -/
theorem flatMap_marks_arrange (atStart afterBlank : Bool) (rs : List Run) :
    (arrange atStart afterBlank rs).flatMap marks = (rs.flatMap (·.lines)).flatMap marks := by
  fun_induction arrange atStart afterBlank rs with
  | case1 => rfl
  | case2 _ _ rows rest ih =>
    rw [List.flatMap_append, ih, flatMap_marks_align, List.flatMap_cons, List.flatMap_append,
      Run.lines]
  -- A line with text, a blank one that is left out, and one that is kept.
  | case3 _ _ line rest _ _ ih =>
    rw [List.flatMap_cons, ih, marks_trimEnd]
    rfl
  | case4 _ _ line rest _ hblank _ ih =>
    have hmarks : marks line = [] := marks_eq_nil_of_trimEnd (by simpa using hblank)
    rw [ih, List.flatMap_cons, Run.lines, List.singleton_append, List.flatMap_cons, hmarks,
      List.nil_append]
  | case5 _ _ line rest _ hblank _ ih =>
    have hmarks : marks line = [] := marks_eq_nil_of_trimEnd (by simpa using hblank)
    rw [List.flatMap_cons, ih, List.flatMap_cons, Run.lines, List.singleton_append,
      List.flatMap_cons, hmarks, marks_nil]

/-- Only blank lines are dropped at the end. -/
theorem exists_eq_dropTrailingBlank_append (ls : List (List Char)) :
    ∃ blank, (∀ l ∈ blank, l = []) ∧ ls = dropTrailingBlank ls ++ blank :=
  ⟨ls.rtakeWhile List.isEmpty, fun _ hl => List.isEmpty_iff.1 (List.mem_rtakeWhile_imp hl),
    (List.rdropWhile_append_rtakeWhile).symm⟩

/-- Blank lines at the end may be left out: there is no mark on them. -/
theorem flatMap_marks_dropTrailingBlank (ls : List (List Char)) :
    (dropTrailingBlank ls).flatMap marks = ls.flatMap marks := by
  obtain ⟨blank, hblank, heq⟩ := exists_eq_dropTrailingBlank_append ls
  have hnil : blank.flatMap marks = [] :=
    List.flatMap_eq_nil_iff.2 fun l hl => by rw [hblank l hl, marks_nil]
  conv_rhs => rw [heq, List.flatMap_append, hnil, List.append_nil]

/-- Layout keeps the marks of a text. -/
theorem flatMap_marks_layoutLines (ls : List (List Char)) :
    (layoutLines ls).flatMap marks = ls.flatMap marks := by
  have hmarks : (dropTrailingBlank (arrange true false (runs ls))).flatMap marks =
      ls.flatMap marks := by
    rw [flatMap_marks_dropTrailingBlank, flatMap_marks_arrange, flatMap_marks_runs]
  unfold layoutLines
  split
  · rename_i hnil
    rw [← hmarks, hnil]
    simp
  · exact hmarks

/-- Brackets are in pairs whatever lines they stand on. -/
theorem balanced_of_map_fst_eq {ms ns : List (Mark × Nat)} (h : ms.map Prod.fst = ns.map Prod.fst)
    {stack other : List (Char × Nat)} (hstack : stack.map Prod.fst = other.map Prod.fst)
    (hok : balanced stack ms = .ok ()) : balanced other ns = .ok () := by
  -- The open brackets are the same at every mark, whatever their lines are.
  fun_induction balanced stack ms generalizing other ns with
  | case1 =>
    obtain rfl := List.map_eq_nil_iff.1 h.symm
    obtain rfl := List.map_eq_nil_iff.1 hstack.symm
    rfl
  | case4 stack c line rest hopening ih =>
    obtain ⟨⟨_, line'⟩, more, rfl, rfl, hmore⟩ := List.map_eq_cons_iff.1 h.symm
    rw [balanced, hopening]
    exact ih hmore.symm (by simp [hstack]) hok
  | case5 c line rest top line' stack hopening ih =>
    obtain ⟨⟨_, line⟩, more, rfl, rfl, hmore⟩ := List.map_eq_cons_iff.1 h.symm
    obtain ⟨⟨_, line'⟩, others, rfl, rfl, hothers⟩ := List.map_eq_cons_iff.1 hstack.symm
    rw [balanced, hopening]
    exact (if_pos rfl).trans (ih hmore.symm hothers.symm hok)
  | _ => cases hok

/-- What is laid out passes the check again. -/
theorem checkDelimiters_layoutLines {ls : List (List Char)} (h : checkDelimiters ls = .ok ()) :
    checkDelimiters (layoutLines ls) = .ok () := by
  refine balanced_of_map_fst_eq ?_ rfl h
  rw [map_fst_numberedMarks, map_fst_numberedMarks, flatMap_marks_layoutLines]

/-! ## Tidy lines -/

/-- There is text on one of two lines that follow each other. -/
def Apart (first second : List Char) : Prop := first ≠ [] ∨ second ≠ []

/-- The lines of laid out source. -/
structure Tidy (ls : List (List Char)) : Prop where
  /-- Every line is one line only. -/
  feed : ∀ l ∈ ls, '\n' ∉ l
  /-- No line has cells. -/
  cell : ∀ l ∈ ls, Go.cell ∉ l
  /-- No line ends with white space. -/
  trimmed : ∀ l ∈ ls, ∀ c ∈ l.getLast?, isBlank c = false
  /-- There is a first line, and text on it. -/
  first : ∃ l ∈ ls.head?, l ≠ []
  /-- There are no two blank lines one behind the other. -/
  apart : ls.IsChain Apart
  /-- There is a last line, and text on it. -/
  last : ∃ l ∈ ls.getLast?, l ≠ []

/-- Without cells every line is a run of its own. -/
theorem runs_of_notMem {ls : List (List Char)} (h : ∀ l ∈ ls, cell ∉ l) :
    runs ls = ls.map .plain := by
  induction ls with
  | nil => rfl
  | cons l ls ih =>
    obtain ⟨hl, hls⟩ := List.forall_mem_cons.1 h
    rw [runs, if_neg (by simpa using hl), ih hls, List.map_cons]

/-- Lines without cells are left as they are, if there is nothing to trim and no blank line too
many. -/
theorem arrange_plain {ls : List (List Char)} (htrim : ∀ l ∈ ls, trimEnd l = l)
    (hapart : ls.IsChain Apart) {atStart afterBlank : Bool}
    (hfirst : (afterBlank || atStart) = true → ∀ l ∈ ls.head?, l ≠ []) :
    arrange atStart afterBlank (ls.map .plain) = ls := by
  induction ls generalizing atStart afterBlank with
  | nil => rfl
  | cons l ls ih =>
    obtain ⟨hl, hls⟩ := List.forall_mem_cons.1 htrim
    obtain ⟨hnext, hrest⟩ := List.isChain_cons.1 hapart
    rw [List.map_cons, arrange, hl]
    by_cases hempty : l = []
    · -- A blank line stays, and the next one is not blank.
      subst hempty
      have hstays : (afterBlank || atStart) ≠ true := fun h => hfirst h [] rfl rfl
      rw [if_neg (by simp), if_neg hstays, ih hls hrest]
      exact fun _ next hmem => (hnext next hmem).resolve_left (· rfl)
    · rw [if_pos (by simpa using hempty), ih hls hrest]
      exact fun h => absurd h (by decide)

/-- A line that ends in no blank is left as it is. -/
theorem trimEnd_of_trimmed {l : List Char} (h : ∀ c ∈ l.getLast?, isBlank c = false) :
    trimEnd l = l := by
  cases hlast : l.getLast? with
  | none =>
    obtain rfl := List.getLast?_eq_none_iff.1 hlast
    rfl
  | some c => exact Text.trimEnd_eq_self hlast (h c hlast)

/-- Nothing is left out behind a last line with text. -/
theorem dropTrailingBlank_eq_self {ls : List (List Char)} {l : List Char} (hlast : l ∈ ls.getLast?)
    (hne : l ≠ []) : dropTrailingBlank ls = ls := by
  refine List.rdropWhile_eq_self_iff.2 fun hls => ?_
  rw [List.getLast?_eq_some_getLast hls, Option.mem_some_iff] at hlast
  rw [hlast]
  simpa using hne

/-- Tidy lines are left as they are. -/
theorem layoutLines_of_tidy {ls : List (List Char)} (h : Tidy ls) : layoutLines ls = ls := by
  obtain ⟨first, hfirst, hne⟩ := h.first
  obtain ⟨last, hlast, hne'⟩ := h.last
  have harrange : arrange true false (runs ls) = ls := by
    rw [runs_of_notMem h.cell]
    refine arrange_plain (fun l hl => trimEnd_of_trimmed (h.trimmed l hl)) h.apart fun _ l hl => ?_
    obtain rfl := Option.mem_unique hl hfirst
    exact hne
  unfold layoutLines
  rw [harrange, dropTrailingBlank_eq_self hlast hne']
  cases ls with
  | nil => cases hfirst
  | cons => rfl

/-! ## Lines that become tidy -/

/-- Padded cells have the characters of the cells. -/
theorem mem_padCells_of_mem {width : Nat → Nat} {column : Nat} {cells : List (List Char)}
    {text : List Char} (htext : text ∈ cells) {c : Char} (hc : c ∈ text) :
    c ∈ padCells width column cells := by
  fun_induction padCells width column cells with
  | case1 => cases htext
  | case2 column last => exact List.mem_singleton.1 htext ▸ hc
  | case3 column first rest _ ih =>
    rcases List.mem_cons.1 htext with rfl | htext
    · exact List.mem_append_left _ (List.mem_append_left _ hc)
    · exact List.mem_append_right _ (ih htext)

/-- The row has a cell with text. -/
def Row.HasText (row : Row) : Prop := ∃ text ∈ row.cells, ∃ c ∈ text, isBlank c = false

/-- The cells of a line are trimmed, so those that are not empty have text. -/
theorem Row.hasText_ofLine_iff_ne_nil {line : List Char} :
    (Row.ofLine line).HasText ↔ ∃ text ∈ (Row.ofLine line).cells, text ≠ [] := by
  constructor
  · rintro ⟨text, htext, c, hc, -⟩
    exact ⟨text, htext, List.ne_nil_of_mem hc⟩
  · rintro ⟨text, htext, hne⟩
    obtain ⟨field, -, rfl⟩ := List.mem_map.1 htext
    have hlast := List.getLast?_eq_some_getLast hne
    exact ⟨_, htext, _, List.getLast_mem hne, Text.isBlank_of_mem_getLast?_trimEnd hlast⟩

/-- A line has a cell with text exactly if it is not blank. -/
theorem Row.hasText_ofLine_iff {line : List Char} :
    (Row.ofLine line).HasText ↔ ∃ c ∈ line, isBlank c = false := by
  constructor
  · rintro ⟨text, htext, c, hc, hblank⟩
    exact ⟨c, mem_of_mem_cells htext hc, hblank⟩
  · rintro ⟨c, hc, hblank⟩
    have htab : c ≠ '\t' := by
      rintro rfl
      exact absurd hblank (by decide)
    have hcell : c ≠ cell := by
      rintro rfl
      rw [isBlank_cell] at hblank
      cases hblank
    have hbody : c ∈ line.dropWhile (· = '\t') := by
      rw [← line.takeWhile_append_dropWhile (p := (· = '\t')), List.mem_append] at hc
      exact hc.resolve_left fun hmem => htab (by simpa using List.mem_takeWhile_imp hmem)
    obtain ⟨field, hfield, hmem⟩ :=
      Text.exists_mem_fields (p := (· = cell)) hbody (decide_eq_false hcell)
    exact ⟨_, List.mem_map_of_mem hfield, c, Text.mem_trim_of_mem hmem hblank, hblank⟩

/-- The line of a row with text is not empty. -/
theorem Row.HasText.line_ne_nil {row : Row} (h : row.HasText) (width : Nat → Nat) :
    row.line width ≠ [] := by
  obtain ⟨text, htext, c, hc, hblank⟩ := h
  intro hnil
  have hall := Text.trimEnd_eq_nil_iff.1 hnil c
    (List.mem_append_right _ (mem_padCells_of_mem htext hc))
  rw [hblank] at hall
  cases hall

/-- Lines with text are apart from all that follow. -/
theorem isChain_append_of_ne_nil {ls others : List (List Char)} (h : ∀ l ∈ ls, l ≠ [])
    (hothers : others.IsChain Apart) : (ls ++ others).IsChain Apart := by
  induction ls with
  | nil => exact hothers
  | cons l ls ih =>
    obtain ⟨hl, hls⟩ := List.forall_mem_cons.1 h
    exact (ih hls).cons fun _ _ => .inl hl

/-- No blank line is arranged behind another one or at the start. -/
theorem apart_arrange {rs : List Run} (hrows : ∀ row ∈ rs.flatMap (·.rows), row.HasText)
    (atStart afterBlank : Bool) : (arrange atStart afterBlank rs).IsChain Apart ∧
      ((afterBlank || atStart) = true →
        ∀ l ∈ (arrange atStart afterBlank rs).head?, l ≠ []) := by
  -- A blank line that is kept is apart from the next line by what the second part says of the rest.
  fun_induction arrange atStart afterBlank rs with
  | case1 => exact ⟨.nil, fun _ _ h => by cases h⟩
  | case2 atStart afterBlank rows rest ih =>
    rw [List.flatMap_cons, List.forall_mem_append] at hrows
    obtain ⟨hchain, hhead⟩ := ih hrows.2
    have halign : ∀ l ∈ align rows, l ≠ [] :=
      List.forall_mem_map.2 fun row hrow => (hrows.1 row hrow).line_ne_nil _
    refine ⟨isChain_append_of_ne_nil halign hchain, fun hblank l hl => ?_⟩
    cases rows with
    | nil => exact hhead (by simpa using hblank) l hl
    | cons row rows => exact halign l (List.mem_cons.2 (.inl (Option.some.inj hl).symm))
  | case3 _ _ line rest trimmed htext ih =>
    have hne : trimmed ≠ [] := by simpa using htext
    refine ⟨(ih hrows).1.cons fun _ _ => .inl hne, fun _ l hl => ?_⟩
    obtain rfl := Option.some.inj hl
    exact hne
  | case4 _ _ line rest _ _ _ ih => exact ⟨(ih hrows).1, fun _ => (ih hrows).2 rfl⟩
  | case5 _ _ line rest _ _ hkept ih =>
    obtain ⟨hchain, hhead⟩ := ih hrows
    exact ⟨hchain.cons fun l hl => .inr (hhead rfl l hl), fun h => absurd h hkept⟩

/-- Every row is arranged. -/
theorem exists_line_mem_arrange {rs : List Run} {row : Row} (h : row ∈ rs.flatMap (·.rows))
    (atStart afterBlank : Bool) : ∃ width, row.line width ∈ arrange atStart afterBlank rs := by
  fun_induction arrange atStart afterBlank rs with
  | case1 => cases h
  | case2 _ _ rows rest ih =>
    rw [List.flatMap_cons] at h
    rcases List.mem_append.1 h with h | h
    · exact ⟨_, List.mem_append_left _ (List.mem_map_of_mem h)⟩
    · obtain ⟨width, hline⟩ := ih h
      exact ⟨width, List.mem_append_right _ hline⟩
  -- A line with text, a blank one that is left out, and one that is kept.
  | case3 _ _ line rest _ _ ih =>
    obtain ⟨width, hline⟩ := ih h
    exact ⟨width, List.mem_cons_of_mem _ hline⟩
  | case4 _ _ line rest _ _ _ ih => exact ih h
  | case5 _ _ line rest _ _ _ ih =>
    obtain ⟨width, hline⟩ := ih h
    exact ⟨width, List.mem_cons_of_mem _ hline⟩

/-- What becomes of a line has no cell separator. -/
theorem LaysOut.cell_notMem {ls : List (List Char)} {l : List Char} (h : LaysOut ls l) :
    cell ∉ l := by
  cases h with
  | blank => exact List.not_mem_nil
  | plain hline hcell => exact fun hmem => hcell ((Text.trimEnd_isPrefix _).subset hmem)
  | row width hline hcell =>
    intro hmem
    rcases List.mem_append.1 ((Text.trimEnd_isPrefix _).subset hmem) with hmem | hmem
    · exact absurd (List.mem_takeWhile_imp hmem) (by decide)
    · rcases mem_padCells hmem with heq | ⟨text, htext, hmem⟩
      · exact absurd heq (by decide)
      · obtain ⟨field, hfield, rfl⟩ := List.mem_map.1 htext
        exact Text.notMem_of_mem_fields hfield (decide_eq_true rfl) (Text.mem_of_mem_trim hmem)

section

variable {ls : List (List Char)}
  (hcells : ∀ line ∈ ls, cell ∈ line → (Row.ofLine line).HasText)

include hcells

/-- Every row has text if every line with cells has. -/
theorem hasText_of_mem_rows : ∀ row ∈ (runs ls).flatMap (·.rows), row.HasText := by
  rw [flatMap_rows_runs]
  refine List.forall_mem_map.2 fun line hline => ?_
  rw [List.mem_filter, decide_eq_true_iff] at hline
  exact hcells line hline.1 hline.2

/-- Something is left of a text exactly if one of its lines is not blank. -/
theorem dropTrailingBlank_arrange_eq_nil_iff :
    dropTrailingBlank (arrange true false (runs ls)) = [] ↔ ∀ line ∈ ls, trimEnd line = [] := by
  constructor
  · intro hnil line hline
    by_contra hne
    -- If nothing is left, every arranged line is empty; but one with text is arranged as such.
    have hkept : ∀ l ∈ arrange true false (runs ls), l = [] := by
      intro l hl
      by_contra hl'
      have hmem := mem_dropTrailingBlank hl hl'
      rw [hnil] at hmem
      cases hmem
    by_cases hcell : cell ∈ line
    · have hrow : Row.ofLine line ∈ (runs ls).flatMap (·.rows) := by
        rw [flatMap_rows_runs]
        exact List.mem_map_of_mem (List.mem_filter.2 ⟨hline, decide_eq_true hcell⟩)
      obtain ⟨width, hmem⟩ := exists_line_mem_arrange hrow true false
      exact (hcells line hline hcell).line_ne_nil width (hkept _ hmem)
    · have hplain : line ∈ (runs ls).flatMap (·.plainLines) := by
        rw [flatMap_plainLines_runs]
        exact List.mem_filter.2 ⟨hline, decide_eq_true hcell⟩
      exact hne (hkept _ (trimEnd_mem_arrange hplain hne))
  · intro hblank
    refine List.rdropWhile_eq_nil_iff.2 fun l hl => List.isEmpty_iff.2 ?_
    rcases mem_arrange hl with rfl | ⟨line, hline, rfl⟩ | ⟨row, hrow, -⟩
    · rfl
    · rw [flatMap_plainLines_runs] at hline
      exact hblank line (List.mem_filter.1 hline).1
    · -- A row has text, so its line is not blank.
      obtain ⟨text, htext, c, hc, htextC⟩ := hasText_of_mem_rows hcells row hrow
      rw [flatMap_rows_runs] at hrow
      obtain ⟨line, hline, rfl⟩ := List.mem_map.1 hrow
      have hc := Text.trimEnd_eq_nil_iff.1 (hblank line (List.mem_filter.1 hline).1) c
        (mem_of_mem_cells htext hc)
      rw [htextC] at hc
      cases hc

/-- A text of blank lines becomes one empty line. -/
theorem layoutLines_of_blank (hblank : ∀ line ∈ ls, trimEnd line = []) : layoutLines ls = [[]] := by
  rw [layoutLines, (dropTrailingBlank_arrange_eq_nil_iff hcells).2 hblank]

/-- The lines of any other text become tidy. -/
theorem tidy_layoutLines (hfeed : ∀ line ∈ ls, '\n' ∉ line)
    (htext : ∃ line ∈ ls, trimEnd line ≠ []) : Tidy (layoutLines ls) := by
  have hlaysOut : ∀ l ∈ layoutLines ls, LaysOut ls l := fun l => laysOut_of_mem_layoutLines
  have hne : dropTrailingBlank (arrange true false (runs ls)) ≠ [] := by
    obtain ⟨line, hline, hne⟩ := htext
    exact fun hnil => hne ((dropTrailingBlank_arrange_eq_nil_iff hcells).1 hnil line hline)
  have hlines : layoutLines ls = dropTrailingBlank (arrange true false (runs ls)) := by
    unfold layoutLines
    split
    · rename_i hnil
      exact absurd hnil hne
    · rfl
  -- Only the end is left out, so what holds of neighbours among the arranged lines holds here, too.
  have hprefix : layoutLines ls <+: arrange true false (runs ls) := by
    rw [hlines]
    exact List.rdropWhile_prefix _ _
  obtain ⟨hapart, hfirst⟩ := apart_arrange (hasText_of_mem_rows hcells) true false
  constructor
  case feed => exact fun l hl => (hlaysOut l hl).notMem (by decide) hfeed
  case cell => exact fun l hl => (hlaysOut l hl).cell_notMem
  case trimmed => exact fun l hl => (hlaysOut l hl).isBlank_of_mem_getLast?
  case first =>
    rw [← hlines] at hne
    obtain ⟨rest, hrest⟩ := hprefix
    refine ⟨_, List.head?_eq_some_head hne, hfirst rfl _ ?_⟩
    rw [← hrest, List.head?_append_of_ne_nil _ hne]
    exact List.head?_eq_some_head hne
  case apart => exact hapart.prefix hprefix
  case last =>
    rw [hlines]
    refine ⟨_, List.getLast?_eq_some_getLast hne, fun hnil => ?_⟩
    exact List.rdropWhile_last_not _ _ hne (List.isEmpty_iff.2 hnil)

/-- Laid out lines are left as they are. -/
theorem layoutLines_layoutLines (hfeed : ∀ line ∈ ls, '\n' ∉ line) :
    layoutLines (layoutLines ls) = layoutLines ls := by
  by_cases hblank : ∀ line ∈ ls, trimEnd line = []
  · rw [layoutLines_of_blank hcells hblank]
    rfl
  · simp only [not_forall] at hblank
    obtain ⟨line, hline, hne⟩ := hblank
    exact layoutLines_of_tidy (tidy_layoutLines hcells hfeed ⟨line, hline, hne⟩)

end

/-! ## Source -/

/-- On every line with cells one of them is not blank. -/
def FillsRows (source : String) : Prop :=
  ∀ line ∈ Text.lines source.toList, cell ∈ line → ∃ text ∈ (Row.ofLine line).cells, text ≠ []

section

variable {source out : String} (hrows : FillsRows source)

include hrows

/-- Every line with cells makes a row with text. -/
theorem FillsRows.hasText : ∀ line ∈ Text.lines source.toList, cell ∈ line →
    (Row.ofLine line).HasText :=
  fun line hline hcell => Row.hasText_ofLine_iff_ne_nil.2 (hrows line hline hcell)

variable (h : layout source = .ok out)

include h

/-- Source without text is laid out as one empty line. -/
theorem eq_feed_of_layout_eq_ok (hblank : ∀ line ∈ Text.lines source.toList, trimEnd line = []) :
    out = "\n" := by
  obtain ⟨_, -, hout⟩ := Outcome.bind_eq_ok_iff.1 h
  obtain rfl := Except.ok.inj hout
  rw [layoutLines_of_blank hrows.hasText hblank]
  rfl

/-- Source with text is laid out as tidy lines. -/
theorem exists_tidy_of_layout_eq_ok (htext : ∃ line ∈ Text.lines source.toList, trimEnd line ≠ []) :
    ∃ ls, Tidy ls ∧ out.toList = Text.unlines ls := by
  obtain ⟨_, -, hout⟩ := Outcome.bind_eq_ok_iff.1 h
  obtain rfl := Except.ok.inj hout
  exact ⟨_, tidy_layoutLines hrows.hasText (fun _ => Text.notMem_of_mem_lines) htext,
    String.toList_ofList⟩

/-- What is laid out is left as it is when it is laid out again. -/
theorem layout_of_layout_eq_ok : layout out = .ok out := by
  have hfeed : ∀ line ∈ Text.lines source.toList, '\n' ∉ line := fun _ => Text.notMem_of_mem_lines
  obtain ⟨⟨⟩, hcheck, hout⟩ := Outcome.bind_eq_ok_iff.1 h
  obtain rfl := Except.ok.inj hout
  rw [layout, String.toList_ofList, lines_unlines_layoutLines hfeed,
    layoutLines_layoutLines hrows.hasText hfeed, checkDelimiters_layoutLines hcheck]
  rfl

end

/-! ## Files -/

/-- There is a character in the text that is not blank. -/
def Inked (text : String) : Prop := ∃ c ∈ text.toList, isBlank c = false

/-- A text has a character that is not blank if one of its parts has. -/
theorem inked_append {a b : String} : Inked (a ++ b) ↔ Inked a ∨ Inked b := by
  simp only [Inked, String.toList_append, List.mem_append, or_and_right, exists_or]

/-- The line of a constant is not blank. -/
theorem Constant.inked_row (typeName : String) (c : Constant) : Inked (c.row typeName) := by
  have hsign : Inked "= " := ⟨'=', by decide, rfl⟩
  simp only [row, inked_append, hsign, or_true, true_or]

/-- The line of a field is not blank. -/
theorem Field.inked_row (f : Field) : Inked f.row := by
  have htag : Inked "\x60json:\"" := ⟨'\x60', by decide, rfl⟩
  simp only [row, tag, inked_append, htag, or_true, true_or]

/-- The lines of a declaration are not blank unless they are empty. -/
theorem Declaration.inked_of_mem_lines (d : Declaration) : ∀ l ∈ d.lines, l ≠ "" → Inked l := by
  have hcomment : Inked "// " := ⟨'/', by decide, rfl⟩
  have htype : Inked "type " := ⟨'t', by decide, rfl⟩
  cases d with
  | enumeration name source constants =>
    refine List.forall_mem_append.2 ⟨by simp [inked_append, hcomment, htype], ?_⟩
    have hopening : Inked "const (" := ⟨'(', by decide, rfl⟩
    have hclosing : Inked ")" := ⟨')', by decide, rfl⟩
    have hrows : ∀ l ∈ constants.map (·.row name), l ≠ "" → Inked l :=
      List.forall_mem_map.2 fun c _ _ => c.inked_row name
    split
    · exact fun l hl => absurd hl List.not_mem_nil
    · refine List.forall_mem_append.2 ⟨List.forall_mem_append.2 ⟨?_, hrows⟩, ?_⟩
      · simp [hopening]
      · simp [hclosing]
  | struct name origin fields =>
    have hclosing : Inked "\x7d" := ⟨'\x7d', by decide, rfl⟩
    refine List.forall_mem_append.2 ⟨List.forall_mem_append.2 ⟨?_, ?_⟩, by simp [hclosing]⟩
    · simp [inked_append, hcomment, htype]
    · exact List.forall_mem_map.2 fun field _ _ => field.inked_row

/-- The lines of a file are not blank unless they are empty. -/
theorem File.inked_of_mem_lines (f : File) : ∀ l ∈ f.lines, l ≠ "" → Inked l := by
  have hcomment : Inked "// Code generated by " := ⟨'/', by decide, rfl⟩
  have hpackage : Inked "package " := ⟨'p', by decide, rfl⟩
  have himport : Inked importLine := ⟨'i', by decide, rfl⟩
  refine List.forall_mem_append.2 ⟨List.forall_mem_append.2 ⟨?_, ?_⟩, ?_⟩
  · simp [inked_append, hcomment, hpackage]
  · split
    · simp [himport]
    · exact fun l hl => absurd hl List.not_mem_nil
  · exact List.forall_mem_flatMap.2 fun d _ => d.inked_of_mem_lines

/-- The text of a file has no line of blank cells. -/
theorem Passes.fillsRows {package generator : String} {s : Schema} {f : File}
    (hgenerator : '\n' ∉ generator.toList) (ps : Passes package generator s f) :
    FillsRows f.text := by
  intro line hline hcell
  rw [f.lines_text (ps.file_eq ▸ hgenerator) ps.unbroken_lines] at hline
  obtain ⟨l, hl, rfl⟩ := List.mem_map.1 hline
  have hne : l ≠ "" := by
    rintro rfl
    cases hcell
  exact Row.hasText_ofLine_iff_ne_nil.1 (Row.hasText_ofLine_iff.2 (f.inked_of_mem_lines l hl hne))

/-- Generated source is in normal form. -/
theorem layout_of_generate_eq_ok {package generator source : String} {s : Schema}
    (hgenerator : '\n' ∉ generator.toList) (h : generate package generator s = .ok source) :
    layout source = .ok source := by
  obtain ⟨f, hf, hsource⟩ := generate_eq_ok_iff.1 h
  obtain ⟨ps⟩ := file_eq_ok_iff.1 hf
  exact layout_of_layout_eq_ok (ps.fillsRows hgenerator) hsource

/-- **Layout reaches a normal form.** Source in which every line with cells has text in one of them
becomes tidy lines, or one empty line if it has blank lines only. Layout accepts these, and leaves
them as they are. Files are such source. -/
theorem layout_normal :
    (∀ source out, layout source = .ok out → FillsRows source →
      ((∀ line ∈ Text.lines source.toList, trimEnd line = []) → out = "\n") ∧
        ((∃ line ∈ Text.lines source.toList, trimEnd line ≠ []) →
          ∃ ls, Tidy ls ∧ out.toList = Text.unlines ls) ∧
        layout out = .ok out) ∧
      ∀ package generator s f, '\n' ∉ generator.toList → file package generator s = .ok f →
        FillsRows f.text := by
  constructor
  · intro source out h hrows
    exact ⟨eq_feed_of_layout_eq_ok hrows h, exists_tidy_of_layout_eq_ok hrows h,
      layout_of_layout_eq_ok hrows h⟩
  · intro package generator s f hgenerator hf
    obtain ⟨ps⟩ := file_eq_ok_iff.1 hf
    exact ps.fillsRows hgenerator

/-- A struct with a cell separator in a tag, where a backslash stands before it. -/
def looseStruct : String :=
  "type A struct \x7b  \n\n\n\tB \x0b int  \n\tLong\x0bstring\x0b\"x\\\x0b\"\n\x7d\n\n"

/-- The struct as it is laid out. -/
def neatStruct : String :=
  "type A struct \x7b\n\n\tB    int\n\tLong string \"x\\ \"\n\x7d\n"

/-- The backslash then takes a blank with it, and the struct is not changed any more. -/
theorem layout_normal_struct : layout looseStruct = .ok neatStruct ∧ FillsRows looseStruct ∧
    (∃ ls, Tidy ls ∧ neatStruct.toList = Text.unlines ls) ∧ layout neatStruct = .ok neatStruct := by
  have hlines : Text.lines looseStruct.toList = ["type A struct \x7b  ", "", "", "\tB \x0b int  ",
      "\tLong\x0bstring\x0b\"x\\\x0b\"", "\x7d", ""].map (·.toList) := by decide
  have hcheck : checkDelimiters (Text.lines looseStruct.toList) = .ok () := by
    simp only [hlines, checkDelimiters, numberedMarks, marks_eq_scan, List.map_cons]
    rfl
  have hlayout : layout looseStruct = .ok neatStruct := by
    rw [layout, hcheck]
    decide
  have hrows : FillsRows looseStruct := by
    rw [FillsRows, hlines]
    decide
  have htext : ∃ line ∈ Text.lines looseStruct.toList, trimEnd line ≠ [] := by
    rw [hlines]
    decide
  obtain ⟨-, htidy, hagain⟩ := layout_normal.1 looseStruct neatStruct hlayout hrows
  exact ⟨hlayout, hrows, htidy htext, hagain⟩

end Go

end EntityModel
