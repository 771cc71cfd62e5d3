import EntityModel.Proofs.Go.Layout
import Mathlib.Algebra.BigOperators.Group.Finset.Basic
import Mathlib.Order.Bounds.Defs

/-! # Columns

The rows of a table are ragged, and only a cell that another one follows widens its column. Each row
is set out with its cells at the same places, where a column starts behind all columns in front of
it (`Row.setsOut_ofLine`). Of a row that is set out only the blanks at its end are left out, so that
nothing is left of a row of empty cells (`align_columns`). -/

namespace EntityModel.Go

open Text (isBlank trim trimEnd)

/-! ## Rows that are set out -/

/-- The lengths of the cells of a column that another cell follows. -/
def paddedLengths (rows : List Row) (column : Nat) : Set Nat :=
  {n | ∃ row ∈ rows, ∃ text, row.cells[column]? = some text ∧ column + 1 < row.cells.length ∧
    text.length = n}

/-- The place at which a column starts: the columns in front of it, with a blank behind each. -/
def columnStart (width : Nat → Nat) (column : Nat) : Nat :=
  ∑ j ∈ Finset.range column, (width j + 1)

/-- The line holds the cells in their order, and blanks between them. Each cell has its place, the
number of characters in front of it. -/
inductive Spread : List (List Char) → List Nat → List Char → Prop
  /-- The last cell. -/
  | last (text : List Char) : Spread [text] [0] text
  /-- A cell and the blanks behind it, in front of other cells. -/
  | next (text : List Char) {gap : Nat} {cells : List (List Char)} {places : List Nat}
      {line : List Char} (hgap : 0 < gap) (h : Spread cells places line) :
      Spread (text :: cells) (0 :: places.map (text.length + gap + ·))
        (text ++ List.replicate gap ' ' ++ line)

/-- The text holds the tabs and the cells of the row, each cell where its column starts. -/
structure Row.SetsOut (row : Row) (width : Nat → Nat) (text : List Char) : Prop where
  takeWhile_eq : text.takeWhile (· = '\t') = row.indent
  spread : Spread row.cells ((List.range row.cells.length).map (columnStart width))
    (text.dropWhile (· = '\t'))

/-- The line is the row set out, without the blanks at its end. -/
structure Row.WrittenAs (row : Row) (width : Nat → Nat) (line : List Char) : Prop where
  /-- What is missing is blank. -/
  exists_setsOut : ∃ blanks, (∀ c ∈ blanks, isBlank c = true) ∧ row.SetsOut width (line ++ blanks)
  /-- The line ends in no blank. -/
  isBlank_last : ∀ c ∈ line.getLast?, isBlank c = false
  /-- Every cell that is not empty is there. -/
  length_le : ∀ column text, row.cells[column]? = some text → text ≠ [] →
    row.indent.length + columnStart width column + text.length ≤ line.length
  /-- Nothing is there if all cells are empty. -/
  eq_nil : (∀ text ∈ row.cells, text = []) → line = []

/-! ## Widths -/

/-- A cell that another one follows fits its column. -/
theorem length_le_columnWidth {rows : List Row} {row : Row} (hrow : row ∈ rows) {column : Nat}
    {text : List Char} (htext : row.cells[column]? = some text)
    (hcolumn : column + 1 < row.cells.length) : text.length ≤ columnWidth rows column := by
  have hwidth := paddedWidth_le_columnWidth hrow column
  rwa [Row.paddedWidth, if_pos hcolumn, List.getD_eq_getElem?_getD, htext] at hwidth

/-- The width of a column is the padded width of one of its rows. -/
theorem exists_paddedWidth_eq {rows : List Row} (hne : rows ≠ []) (column : Nat) :
    ∃ row ∈ rows, row.paddedWidth column = columnWidth rows column := by
  have hmap : rows.map (·.paddedWidth column) ≠ [] := mt List.map_eq_nil_iff.1 hne
  obtain ⟨widest, hmax⟩ := Option.isSome_iff_exists.1 (List.isSome_max?_of_ne_nil hmap)
  obtain ⟨row, hrow, hwidest⟩ := List.mem_map.1 (List.max?_mem hmax)
  refine ⟨row, hrow, ?_⟩
  rw [hwidest, columnWidth, List.foldl_max, hmax, Option.getD_some]
  exact (Nat.max_eq_right (Nat.zero_le _)).symm

/-- A column is as wide as the widest of its cells that another cell follows. -/
theorem isGreatest_columnWidth {rows : List Row} {column : Nat}
    (h : ∃ row ∈ rows, column + 1 < row.cells.length) :
    IsGreatest (paddedLengths rows column) (columnWidth rows column) := by
  obtain ⟨row, hrow, hcolumn⟩ := h
  constructor
  · obtain ⟨widest, hwidest, hwidth⟩ := exists_paddedWidth_eq (List.ne_nil_of_mem hrow) column
    by_cases hwide : column + 1 < widest.cells.length
    · have htext := List.getElem?_eq_getElem (Nat.lt_of_succ_lt hwide)
      refine ⟨widest, hwidest, _, htext, hwide, ?_⟩
      rw [← hwidth, Row.paddedWidth, if_pos hwide, List.getD_eq_getElem?_getD, htext]
      rfl
    · -- Then the column has width zero, and so has the cell of the row that is given.
      rw [Row.paddedWidth, if_neg hwide] at hwidth
      have htext := List.getElem?_eq_getElem (Nat.lt_of_succ_lt hcolumn)
      have hle := length_le_columnWidth hrow htext hcolumn
      exact ⟨row, hrow, _, htext, hcolumn, by omega⟩
  · rintro n ⟨other, hother, text, htext, hcolumn, rfl⟩
    exact length_le_columnWidth hother htext hcolumn

/-! ## Places -/

/-- A later column starts behind the first one and the columns between them. -/
theorem columnStart_succ (width : Nat → Nat) (column : Nat) : columnStart width (column + 1) =
    width 0 + 1 + columnStart (fun j => width (j + 1)) column := by
  rw [columnStart, Finset.sum_range_succ', Nat.add_comm]
  rfl

/-- The columns behind the first one start behind it. -/
theorem map_columnStart_range_succ (width : Nat → Nat) (n : Nat) :
    (List.range (n + 1)).map (columnStart width) =
      0 :: ((List.range n).map (columnStart fun j => width (j + 1))).map (width 0 + 1 + ·) := by
  rw [List.range_succ_eq_map, List.map_cons, List.map_map, List.map_map]
  congr 1
  exact List.map_congr_left fun column _ => columnStart_succ width column

/-- Padded cells stand where their columns start, if they fit. -/
theorem spread_padCells {width : Nat → Nat} {column : Nat} {cells : List (List Char)}
    (hne : cells ≠ []) (hfit : ∀ k text, cells[k]? = some text → k + 1 < cells.length →
      text.length ≤ width (column + k)) :
    Spread cells ((List.range cells.length).map (columnStart fun k => width (column + k)))
      (padCells width column cells) := by
  fun_induction padCells width column cells with
  | case1 => exact absurd rfl hne
  | case2 column last => exact .last last
  | case3 column text rest hrest ih =>
    have htext : text.length ≤ width column :=
      hfit 0 text rfl (Nat.succ_lt_succ (List.length_pos_of_ne_nil hrest))
    have hshift : ∀ k, column + (k + 1) = column + 1 + k := fun k => by omega
    have hspread := ih hrest fun k other hother hk =>
      hshift k ▸ hfit (k + 1) other hother (Nat.succ_lt_succ hk)
    -- The blanks fill the column up, and there is one more.
    have hgap : 0 < width column + 1 - text.length := by omega
    have hfilled : text.length + (width column + 1 - text.length) = width column + 1 := by omega
    have hwidth : (fun k => width (column + (k + 1))) = fun k => width (column + 1 + k) := by
      funext k
      rw [hshift]
    have hnext := Spread.next text hgap hspread
    rw [hfilled] at hnext
    rw [List.length_cons, map_columnStart_range_succ, hwidth]
    exact hnext

/-- The cells of a row are found at their places. -/
theorem Spread.exists_eq_append {cells : List (List Char)} {places : List Nat} {line : List Char}
    (h : Spread cells places line) {k : Nat} {text : List Char} (htext : cells[k]? = some text) :
    ∃ before after, line = before ++ (text ++ after) ∧ places[k]? = some before.length := by
  induction h generalizing k with
  | last last =>
    cases k with
    | zero =>
      obtain rfl := Option.some.inj htext
      exact ⟨[], [], by simp, rfl⟩
    | succ k => cases htext
  | @next first gap cells places line hgap _ ih =>
    cases k with
    | zero =>
      obtain rfl := Option.some.inj htext
      exact ⟨[], List.replicate gap ' ' ++ line, by simp, rfl⟩
    | succ k =>
      obtain ⟨before, after, rfl, hplace⟩ := ih htext
      refine ⟨first ++ List.replicate gap ' ' ++ before, after, by simp, ?_⟩
      rw [List.getElem?_cons_succ, List.getElem?_map, hplace, Option.map_some, List.length_append,
        List.length_append, List.length_replicate]

/-! ## Lines of rows -/

/-- Padded cells start with no tab if no cell starts with a blank. -/
theorem takeWhile_padCells {width : Nat → Nat} {column : Nat} {cells : List (List Char)}
    (hcells : ∀ text ∈ cells, ∀ c ∈ text.head?, isBlank c = false) :
    (padCells width column cells).takeWhile (· = '\t') = [] := by
  have hne : ∀ text ∈ cells, ∀ c more, text = c :: more → c ≠ '\t' := by
    rintro _ htext c more rfl rfl
    exact absurd (hcells _ htext _ rfl) (by decide)
  -- What comes first is the first cell, or a blank behind it if it is empty.
  fun_cases padCells width column cells with
  | case1 => rfl
  | case2 text =>
    cases text with
    | nil => rfl
    | cons c more => simpa using hne _ List.mem_cons_self c more rfl
  | case3 text rest =>
    cases text with
    | nil => rfl
    | cons c more => simpa using hne _ List.mem_cons_self c more rfl

namespace Row

variable {line : List Char}

/-- The indent of a row consists of tabs. -/
theorem eq_of_mem_indent {c : Char} (h : c ∈ (ofLine line).indent) : c = '\t' := by
  simpa using List.mem_takeWhile_imp h

/-- A row has a cell, which may be empty. -/
theorem cells_ofLine_ne_nil (line : List Char) : (ofLine line).cells ≠ [] := by
  rw [ofLine, ne_eq, List.map_eq_nil_iff]
  exact Text.fields_ne_nil _ _

/-- A cell is a trimmed piece of the line. -/
theorem exists_trim_of_mem_cells {text : List Char} (h : text ∈ (ofLine line).cells) :
    ∃ field, text = trim field := by
  obtain ⟨field, -, rfl⟩ := List.mem_map.1 h
  exact ⟨field, rfl⟩

section

variable {width : Nat → Nat} (hfit : ∀ column text, (ofLine line).cells[column]? = some text →
  column + 1 < (ofLine line).cells.length → text.length ≤ width column)

include hfit

/-- The cells of a row in a table stand at the starts of their columns. -/
theorem spread_ofLine : Spread (ofLine line).cells
    ((List.range (ofLine line).cells.length).map (columnStart width))
    (padCells width 0 (ofLine line).cells) := by
  have hspread : Spread (ofLine line).cells
      ((List.range (ofLine line).cells.length).map (columnStart fun k => width (0 + k)))
      (padCells width 0 (ofLine line).cells) :=
    spread_padCells (cells_ofLine_ne_nil line) (by simpa using hfit)
  simpa only [Nat.zero_add] using hspread

/-- Padding sets a row out. -/
theorem setsOut_ofLine :
    (ofLine line).SetsOut width ((ofLine line).indent ++ padCells width 0 (ofLine line).cells) := by
  have hindent : ∀ c ∈ (ofLine line).indent, decide (c = '\t') = true :=
    fun c hc => decide_eq_true (eq_of_mem_indent hc)
  have htabs : (padCells width 0 (ofLine line).cells).takeWhile (· = '\t') = [] := by
    refine takeWhile_padCells fun text htext c hc => ?_
    obtain ⟨field, rfl⟩ := exists_trim_of_mem_cells htext
    exact Text.isBlank_of_mem_head?_trim hc
  constructor
  · rw [List.takeWhile_append_of_pos hindent, htabs, List.append_nil]
  · have hdrop := List.takeWhile_append_dropWhile (p := (· = '\t'))
      (l := padCells width 0 (ofLine line).cells)
    rw [htabs, List.nil_append] at hdrop
    rw [List.dropWhile_append_of_pos hindent, hdrop]
    exact spread_ofLine hfit

/-- A cell that is not empty is not trimmed away. -/
theorem length_le_length_line {column : Nat} {text : List Char}
    (htext : (ofLine line).cells[column]? = some text) (hne : text ≠ []) :
    (ofLine line).indent.length + columnStart width column + text.length ≤
      ((ofLine line).line width).length := by
  obtain ⟨before, after, hpad, hplace⟩ := (spread_ofLine hfit).exists_eq_append htext
  have hcolumn : column < (ofLine line).cells.length := (List.getElem?_eq_some_iff.1 htext).1
  rw [List.getElem?_map, List.getElem?_range hcolumn, Option.map_some, Option.some.injEq] at hplace
  -- The cell is trimmed, so that it ends in a character that stays.
  obtain ⟨field, htrim⟩ := exists_trim_of_mem_cells (List.mem_of_getElem? htext)
  have hlast : isBlank (text.getLast hne) = false := by
    have htrimmed : text.getLast hne ∈ (trimEnd (Text.trimStart field)).getLast? := by
      rw [← trim, ← htrim]
      exact List.getLast?_eq_some_getLast hne
    exact Text.isBlank_of_mem_getLast?_trimEnd htrimmed
  have hmem : text.getLast hne ∈ ((ofLine line).indent ++ before ++ text).getLast? := by
    rw [List.getLast?_append_of_ne_nil _ hne]
    exact List.getLast?_eq_some_getLast hne
  have hprefix := Text.isPrefix_trimEnd_append hmem hlast after
  have hline : (ofLine line).line width =
      trimEnd ((ofLine line).indent ++ before ++ text ++ after) := by
    rw [Row.line, hpad, List.append_assoc, List.append_assoc]
  rw [hline, hplace, ← List.length_append, ← List.length_append]
  exact hprefix.length_le

/-- The line of a row is the row set out, without the blanks at its end. -/
theorem writtenAs_line : (ofLine line).WrittenAs width ((ofLine line).line width) := by
  constructor
  · obtain ⟨blanks, hblanks, heq⟩ := Text.exists_eq_trimEnd_append
      ((ofLine line).indent ++ padCells width 0 (ofLine line).cells)
    exact ⟨blanks, hblanks, heq ▸ setsOut_ofLine hfit⟩
  · exact fun c hc => Text.isBlank_of_mem_getLast?_trimEnd hc
  · exact fun column text htext hne => length_le_length_line hfit htext hne
  · intro hempty
    refine Text.trimEnd_eq_nil_iff.2 fun c hc => ?_
    rcases List.mem_append.1 hc with hc | hc
    · rw [eq_of_mem_indent hc]
      decide
    · rcases mem_padCells hc with rfl | ⟨text, htext, hc⟩
      · decide
      · rw [hempty text htext] at hc
        cases hc

end

end Row

/-! ## Tables -/

/-- **A table has one line for each of its rows, which is the row set out in columns without the
blanks at its end.** Each column is as wide as the widest of its cells that another cell follows, so
that there is room for at least one blank behind each of these. -/
theorem align_columns (ls : List (List Char)) :
    (∀ column, (∃ row ∈ ls.map Row.ofLine, column + 1 < row.cells.length) →
      IsGreatest (paddedLengths (ls.map Row.ofLine) column)
        (columnWidth (ls.map Row.ofLine) column)) ∧
    (∀ row ∈ ls.map Row.ofLine, ∀ column text, row.cells[column]? = some text →
      column + 1 < row.cells.length → text.length < columnWidth (ls.map Row.ofLine) column + 1) ∧
    List.Forall₂ (fun line out =>
      (Row.ofLine line).WrittenAs (columnWidth (ls.map Row.ofLine)) out) ls
        (align (ls.map Row.ofLine)) := by
  refine ⟨fun column => isGreatest_columnWidth, fun row hrow column text htext hcolumn =>
    Nat.lt_succ_of_le (length_le_columnWidth hrow htext hcolumn), ?_⟩
  rw [align, List.map_map, List.forall₂_map_right_iff, List.forall₂_same]
  intro line hline
  exact Row.writtenAs_line fun column text htext hcolumn =>
    length_le_columnWidth (List.mem_map_of_mem hline) htext hcolumn

/-- Two lines with three cells and with two. -/
def raggedLines : List (List Char) :=
  ["\tID\x0bint\x0b// key".toList, "\tName\x0b= 12345".toList]

/-- The last cell of the second line does not widen its column. -/
theorem align_columns_raggedLines :
    align (raggedLines.map Row.ofLine) =
      ["\tID   int // key".toList, "\tName = 12345".toList] ∧
    IsGreatest (paddedLengths (raggedLines.map Row.ofLine) 1) 3 := by
  have hcells : 1 + 1 < (Row.ofLine "\tID\x0bint\x0b// key".toList).cells.length := by decide
  have hgreatest := (align_columns raggedLines).1 1 ⟨_, List.mem_cons_self, hcells⟩
  have hwidth : columnWidth (raggedLines.map Row.ofLine) 1 = 3 := by decide
  rw [hwidth] at hgreatest
  exact ⟨by decide, hgreatest⟩

/-- A row of empty cells is not set out: its line has not even the tab. -/
theorem not_setsOut_emptyCells :
    ¬List.Forall₂ (fun line out =>
        (Row.ofLine line).SetsOut (columnWidth [Row.ofLine ['\t', cell]]) out)
      [['\t', cell]] (align [Row.ofLine ['\t', cell]]) := by
  have hline : align [Row.ofLine ['\t', cell]] = [[]] := by decide
  rw [hline, List.forall₂_cons]
  rintro ⟨hset, -⟩
  have htabs : ([] : List Char) = ['\t'] := hset.takeWhile_eq
  cases htabs

end EntityModel.Go
