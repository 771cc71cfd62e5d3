import EntityModel.Go.Layout
import EntityModel.Proofs.Text.Trim

/-! # Lines of laid out source

Layout takes away blanks at the ends of lines and blank lines, and pads cells. So a line of the
result is a line of the source without cells, or a row of cells, or blank
(`laysOut_of_mem_layoutLines`), and every line without cells that is not blank is still there
(`trimEnd_mem_layoutLines`). -/

namespace EntityModel

/-! ## Characters of lines -/

namespace Text

/-- The characters of a field are characters of the text. -/
theorem mem_of_mem_fields {p : Char → Bool} {cs field : List Char} {c : Char}
    (hfield : field ∈ fields p cs) (hc : c ∈ field) : c ∈ cs := by
  induction cs generalizing field with
  | nil =>
    obtain rfl := List.mem_singleton.1 hfield
    exact hc
  | cons d rest ih =>
    unfold fields at hfield
    split at hfield
    · rcases List.mem_cons.1 hfield with rfl | hfield
      · cases hc
      · exact List.mem_cons_of_mem _ (ih hfield hc)
    · split at hfield
      · rename_i hf
        exact absurd hf (fields_ne_nil p rest)
      · rename_i first more hf
        rw [hf] at ih
        rcases List.mem_cons.1 hfield with rfl | hfield
        · exact (List.mem_cons.1 hc).elim (· ▸ List.mem_cons_self) fun hc =>
            List.mem_cons_of_mem _ (ih List.mem_cons_self hc)
        · exact List.mem_cons_of_mem _ (ih (List.mem_cons_of_mem _ hfield) hc)

/-- No separator stands in a field. -/
theorem notMem_of_mem_fields {p : Char → Bool} {cs field : List Char} (h : field ∈ fields p cs)
    {c : Char} (hc : p c = true) : c ∉ field := by
  induction cs generalizing field with
  | nil =>
    obtain rfl := List.mem_singleton.1 h
    exact List.not_mem_nil
  | cons d rest ih =>
    unfold fields at h
    split at h
    · rcases List.mem_cons.1 h with rfl | h
      · exact List.not_mem_nil
      · exact ih h
    · rename_i hd
      split at h
      · rename_i hnil
        exact absurd hnil (fields_ne_nil p rest)
      · rename_i first more hrest
        rw [hrest] at ih
        rcases List.mem_cons.1 h with rfl | h
        · refine List.not_mem_cons_of_ne_of_not_mem ?_ (ih List.mem_cons_self)
          rintro rfl
          exact hd hc
        · exact ih (List.mem_cons_of_mem _ h)

end Text

namespace Go

open Text (trimEnd)

/-! ## Rows -/

/-- Padded cells consist of blanks and the characters of the cells. -/
theorem mem_padCells {width : Nat → Nat} {column : Nat} {cells : List (List Char)} {c : Char}
    (h : c ∈ padCells width column cells) : c = ' ' ∨ ∃ text ∈ cells, c ∈ text := by
  fun_induction padCells width column cells with
  | case1 => cases h
  | case2 column last => exact .inr ⟨last, List.mem_singleton_self _, h⟩
  | case3 column text rest _ ih =>
    rcases List.mem_append.1 h with h | h
    · rcases List.mem_append.1 h with h | h
      · exact .inr ⟨text, List.mem_cons_self, h⟩
      · exact .inl (List.eq_of_mem_replicate h)
    · refine (ih h).imp id ?_
      rintro ⟨other, hother, hc⟩
      exact ⟨other, List.mem_cons_of_mem _ hother, hc⟩

/-- The characters of a cell are characters of the line. -/
theorem mem_of_mem_cells {line text : List Char} (htext : text ∈ (Row.ofLine line).cells) {c : Char}
    (hc : c ∈ text) : c ∈ line := by
  obtain ⟨field, hfield, rfl⟩ := List.mem_map.1 htext
  exact (List.dropWhile_suffix _).subset (Text.mem_of_mem_fields hfield (Text.mem_of_mem_trim hc))

/-- Alignment puts nothing but blanks into a line. -/
theorem mem_line_ofLine {width : Nat → Nat} {line : List Char} {c : Char}
    (h : c ∈ (Row.ofLine line).line width) : c = ' ' ∨ c ∈ line := by
  rcases List.mem_append.1 ((Text.trimEnd_isPrefix _).subset h) with h | h
  · exact .inr ((List.takeWhile_prefix _).subset h)
  · refine (mem_padCells h).imp id ?_
    rintro ⟨text, htext, hc⟩
    exact mem_of_mem_cells htext hc

/-- A row starts like its line, if this one starts with a tab or a character that is not blank. -/
theorem exists_eq_cons_row (width : Nat → Nat) {c : Char}
    (hc : c = '\t' ∨ Text.isBlank c = false) (rest : List Char) :
    ∃ more, (Row.ofLine (c :: rest)).indent ++
      padCells width 0 (Row.ofLine (c :: rest)).cells = c :: more := by
  by_cases htab : c = '\t'
  · subst htab
    exact ⟨_, rfl⟩
  · have hblank := hc.resolve_left htab
    have hcell : (c = cell) = False := eq_false fun heq => by
      rw [heq] at hblank
      exact absurd hblank (by decide)
    -- The first cell starts with the character, and it is not trimmed away.
    obtain ⟨field, more, hfields⟩ : ∃ field more,
        Text.fields (· = cell) (c :: rest) = (c :: field) :: more := by
      cases hrest : Text.fields (· = cell) rest with
      | nil => exact absurd hrest (Text.fields_ne_nil _ _)
      | cons field more => exact ⟨field, more, by simp [Text.fields, hcell, hrest]⟩
    obtain ⟨text, htext⟩ := Text.exists_trim_cons hblank field
    have hindent : (Row.ofLine (c :: rest)).indent = [] := by simp [Row.ofLine, htab]
    have hcells : (Row.ofLine (c :: rest)).cells = (c :: text) :: more.map Text.trim := by
      simp [Row.ofLine, htab, hfields, htext]
    rw [hindent, hcells]
    cases more <;> exact ⟨_, rfl⟩

/-- The row of a line that starts with a tab or with text is written with the same first
character. -/
theorem eq_of_mem_head?_line {width : Nat → Nat} {rest : List Char} {c d : Char}
    (hc : c = '\t' ∨ Text.isBlank c = false)
    (h : d ∈ ((Row.ofLine (c :: rest)).line width).head?) : d = c := by
  obtain ⟨more, hmore⟩ := exists_eq_cons_row width hc rest
  rw [Row.line, hmore] at h
  exact Text.eq_of_mem_head?_trimEnd h

/-- A column is as wide as each of its cells. -/
theorem paddedWidth_le_columnWidth {rows : List Row} {row : Row} (h : row ∈ rows) (column : Nat) :
    row.paddedWidth column ≤ columnWidth rows column := by
  have hmem := List.mem_map_of_mem (f := (·.paddedWidth column)) h
  rw [columnWidth, List.foldl_max]
  exact Nat.le_trans (List.le_max?_getD_of_mem hmem) (Nat.le_max_right _ _)

/-! ## Runs -/

/-- The lines without cells of a run. -/
def Run.plainLines : Run → List (List Char)
  | .plain line => [line]
  | .table _ => []

/-- The rows of a run. -/
def Run.rows : Run → List Row
  | .plain _ => []
  | .table rows => rows

/-- The lines without cells are those of the text. -/
theorem flatMap_plainLines_runs (ls : List (List Char)) :
    (runs ls).flatMap (·.plainLines) = ls.filter (cell ∉ ·) := by
  fun_induction runs ls with
  | case1 => rfl
  | case2 first rest hcell rows more hruns ih =>
    -- The line joins the rows behind it.
    rw [hruns] at ih
    rw [List.filter_cons_of_neg (by simpa using hcell), ← ih]
    rfl
  | case3 first rest hcell _ ih =>
    rw [List.filter_cons_of_neg (by simpa using hcell), ← ih]
    rfl
  | case4 first rest hcell ih =>
    rw [List.filter_cons_of_pos (by simpa using hcell), ← ih]
    rfl

/-- The rows are those of the lines with cells. -/
theorem flatMap_rows_runs (ls : List (List Char)) :
    (runs ls).flatMap (·.rows) = (ls.filter (cell ∈ ·)).map Row.ofLine := by
  fun_induction runs ls with
  | case1 => rfl
  | case2 first rest hcell rows more hruns ih =>
    -- The line joins the rows behind it.
    rw [hruns] at ih
    rw [List.filter_cons_of_pos (by simpa using hcell), List.map_cons, ← ih]
    rfl
  | case3 first rest hcell _ ih =>
    rw [List.filter_cons_of_pos (by simpa using hcell), List.map_cons, ← ih]
    rfl
  | case4 first rest hcell ih =>
    rw [List.filter_cons_of_neg (by simpa using hcell), ← ih]
    rfl

/-! ## Lines -/

/-- A line of arranged runs is one of theirs, or blank. -/
theorem mem_arrange {atStart afterBlank : Bool} {rs : List Run} {l : List Char}
    (h : l ∈ arrange atStart afterBlank rs) : l = [] ∨
      (∃ line ∈ rs.flatMap (·.plainLines), l = trimEnd line) ∨
        ∃ row ∈ rs.flatMap (·.rows), ∃ width, l = row.line width := by
  fun_induction arrange atStart afterBlank rs with
  | case1 => cases h
  | case2 atStart afterBlank rows rest ih =>
    -- Rows, which are aligned.
    rcases List.mem_append.1 h with h | h
    · obtain ⟨row, hrow, rfl⟩ := List.mem_map.1 h
      exact .inr (.inr ⟨row, List.mem_append_left _ hrow, _, rfl⟩)
    · refine (ih h).imp id (Or.imp id ?_)
      rintro ⟨row, hrow, hline⟩
      exact ⟨row, List.mem_append_right _ hrow, hline⟩
  -- A line with text, a blank one that is left out, and one that is kept.
  | case3 _ _ line rest _ _ ih =>
    rcases List.mem_cons.1 h with rfl | h
    · exact .inr (.inl ⟨line, List.mem_cons_self, rfl⟩)
    · refine (ih h).imp id (Or.imp ?_ id)
      rintro ⟨other, hother, hline⟩
      exact ⟨other, List.mem_cons_of_mem _ hother, hline⟩
  | case4 _ _ line rest _ _ _ ih =>
    refine (ih h).imp id (Or.imp ?_ id)
    rintro ⟨other, hother, hline⟩
    exact ⟨other, List.mem_cons_of_mem _ hother, hline⟩
  | case5 _ _ line rest _ _ _ ih =>
    rcases List.mem_cons.1 h with rfl | h
    · exact .inl rfl
    · refine (ih h).imp id (Or.imp ?_ id)
      rintro ⟨other, hother, hline⟩
      exact ⟨other, List.mem_cons_of_mem _ hother, hline⟩

/-- A line without cells that has text is written without the blanks at its end. -/
theorem trimEnd_mem_arrange {atStart afterBlank : Bool} {rs : List Run} {line : List Char}
    (h : line ∈ rs.flatMap (·.plainLines)) (hne : trimEnd line ≠ []) :
    trimEnd line ∈ arrange atStart afterBlank rs := by
  -- Only a line that is blank when it is trimmed may be left out.
  fun_induction arrange atStart afterBlank rs with
  | case1 => cases h
  | case2 _ _ rows rest ih => exact List.mem_append_right _ (ih h)
  | case3 _ _ first rest _ _ ih =>
    rcases List.mem_cons.1 h with rfl | h
    · exact List.mem_cons_self
    · exact List.mem_cons_of_mem _ (ih h)
  | case4 _ _ first rest _ hblank _ ih =>
    rcases List.mem_cons.1 h with rfl | h
    · exact absurd (by simpa using hblank) hne
    · exact ih h
  | case5 _ _ first rest _ hblank _ ih =>
    rcases List.mem_cons.1 h with rfl | h
    · exact absurd (by simpa using hblank) hne
    · exact List.mem_cons_of_mem _ (ih h)

/-- Leaving out lines at the end adds none. -/
theorem mem_of_mem_dropTrailingBlank {ls : List (List Char)} {l : List Char}
    (h : l ∈ dropTrailingBlank ls) : l ∈ ls :=
  List.mem_reverse.1 ((List.dropWhile_suffix _).subset (List.mem_reverse.1 h))

/-- A line with text is not left out at the end. -/
theorem mem_dropTrailingBlank {ls : List (List Char)} {l : List Char} (h : l ∈ ls) (hne : l ≠ []) :
    l ∈ dropTrailingBlank ls := by
  have hsplit := ls.reverse.takeWhile_append_dropWhile (p := List.isEmpty)
  rw [← List.mem_reverse, ← hsplit, List.mem_append] at h
  rcases h with h | h
  · exact absurd (List.isEmpty_iff.1 (List.mem_takeWhile_imp h)) hne
  · exact List.mem_reverse.2 h

/-- What becomes of the lines of a text. -/
inductive LaysOut (ls : List (List Char)) : List Char → Prop
  /-- Nothing is left of a blank line. -/
  | blank : LaysOut ls []
  /-- A line without cells is trimmed. -/
  | plain {line : List Char} (hline : line ∈ ls) (hcell : cell ∉ line) : LaysOut ls (trimEnd line)
  /-- A line with cells is aligned. -/
  | row {line : List Char} (width : Nat → Nat) (hline : line ∈ ls) (hcell : cell ∈ line) :
    LaysOut ls ((Row.ofLine line).line width)

/-- Every line of a text that is laid out comes from one of its lines. -/
theorem laysOut_of_mem_layoutLines {ls : List (List Char)} {l : List Char}
    (h : l ∈ layoutLines ls) : LaysOut ls l := by
  have hlines : l = [] ∨ l ∈ dropTrailingBlank (arrange true false (runs ls)) := by
    unfold layoutLines at h
    split at h
    · exact .inl (List.mem_singleton.1 h)
    · exact .inr h
  rcases hlines with rfl | h
  · exact .blank
  · rcases mem_arrange (mem_of_mem_dropTrailingBlank h) with rfl | ⟨line, hline, rfl⟩ |
      ⟨row, hrow, width, rfl⟩
    · exact .blank
    · rw [flatMap_plainLines_runs, List.mem_filter, decide_eq_true_iff] at hline
      exact .plain hline.1 hline.2
    · rw [flatMap_rows_runs] at hrow
      obtain ⟨line, hline, rfl⟩ := List.mem_map.1 hrow
      rw [List.mem_filter, decide_eq_true_iff] at hline
      exact .row width hline.1 hline.2

/-- A line of laid out text starts like a line of the text, if all of these start with tabs or
characters that are not blank. -/
theorem head?_of_mem_layoutLines {ls : List (List Char)} {l : List Char} {c : Char}
    (hls : ∀ line ∈ ls, ∀ d ∈ line.head?, d = '\t' ∨ Text.isBlank d = false)
    (h : l ∈ layoutLines ls) (hc : c ∈ l.head?) : ∃ line ∈ ls, c ∈ line.head? := by
  cases laysOut_of_mem_layoutLines h with
  | blank => cases hc
  | @plain line hline _ =>
    cases line with
    | nil => cases hc
    | cons first rest => exact ⟨_, hline, congrArg some (Text.eq_of_mem_head?_trimEnd hc).symm⟩
  | @row line width hline hcell =>
    cases line with
    | nil => cases hcell
    | cons first rest =>
      exact ⟨_, hline, congrArg some (eq_of_mem_head?_line (hls _ hline _ rfl) hc).symm⟩

/-- A line without cells is kept, unless it is blank. -/
theorem trimEnd_mem_layoutLines {ls : List (List Char)} {line : List Char} (hline : line ∈ ls)
    (hcell : cell ∉ line) (hne : trimEnd line ≠ []) : trimEnd line ∈ layoutLines ls := by
  have hplain : line ∈ (runs ls).flatMap (·.plainLines) := by
    rw [flatMap_plainLines_runs, List.mem_filter, decide_eq_true_iff]
    exact ⟨hline, hcell⟩
  have hkept : trimEnd line ∈ arrange true false (runs ls) := trimEnd_mem_arrange hplain hne
  have hmem := mem_dropTrailingBlank hkept hne
  unfold layoutLines
  split
  · rename_i hnil
    rw [hnil] at hmem
    cases hmem
  · exact hmem

/-- A first line with text stays the first. -/
theorem exists_dropTrailingBlank_cons {l : List Char} (hne : l ≠ []) (ls : List (List Char)) :
    ∃ more, dropTrailingBlank (l :: ls) = l :: more := by
  rw [dropTrailingBlank, List.reverse_cons, List.dropWhile_append]
  split
  · exact ⟨[], by simp [hne]⟩
  · exact ⟨_, by rw [List.reverse_append, List.reverse_singleton, List.singleton_append]⟩

/-- The first line stays the first one, unless it has cells or is blank. -/
theorem exists_layoutLines_cons {line : List Char} (hcell : cell ∉ line) (hne : trimEnd line ≠ [])
    (ls : List (List Char)) : ∃ more, layoutLines (line :: ls) = trimEnd line :: more := by
  have hruns : runs (line :: ls) = .plain line :: runs ls := by simp [runs, hcell]
  have harrange : arrange true false (runs (line :: ls)) =
      trimEnd line :: arrange false false (runs ls) := by simp [hruns, arrange, hne]
  obtain ⟨more, hmore⟩ := exists_dropTrailingBlank_cons hne (arrange false false (runs ls))
  exact ⟨more, by rw [layoutLines, harrange, hmore]⟩

/-- No character but blanks is new in a laid out line. -/
theorem LaysOut.notMem {ls : List (List Char)} {l : List Char} (h : LaysOut ls l) {c : Char}
    (hc : c ≠ ' ') (hls : ∀ line ∈ ls, c ∉ line) : c ∉ l := by
  cases h with
  | blank => exact List.not_mem_nil
  | plain hline hcell => exact fun hmem => hls _ hline ((Text.trimEnd_isPrefix _).subset hmem)
  | row width hline hcell =>
    exact fun hmem => (mem_line_ofLine hmem).elim hc fun hmem => hls _ hline hmem

/-- A laid out line has no blank at its end. -/
theorem LaysOut.isBlank_of_mem_getLast? {ls : List (List Char)} {l : List Char} (h : LaysOut ls l) :
    ∀ c ∈ l.getLast?, Text.isBlank c = false := by
  cases h with
  | blank => exact nofun
  | plain => exact fun _ => Text.isBlank_of_mem_getLast?_trimEnd
  | row => exact fun _ => Text.isBlank_of_mem_getLast?_trimEnd

/-- Laid out lines of a text without line feeds in its lines are read back as they are. -/
theorem lines_unlines_layoutLines {ls : List (List Char)} (h : ∀ line ∈ ls, '\n' ∉ line) :
    Text.lines (Text.unlines (layoutLines ls)) = layoutLines ls := by
  refine Text.lines_unlines fun l hl => ?_
  have hlaysOut := laysOut_of_mem_layoutLines hl
  refine ⟨hlaysOut.notMem (by decide) h, fun hlast => ?_⟩
  exact absurd (hlaysOut.isBlank_of_mem_getLast? _ hlast) (by decide)

end Go

end EntityModel
