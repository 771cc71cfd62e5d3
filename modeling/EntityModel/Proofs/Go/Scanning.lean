import EntityModel.Proofs.Go.Layout
import EntityModel.Proofs.Go.Delimiters

/-! # Blanks in scanned source

A scan of a line passes from one mode to the next with every character. A row of blanks, however
long, takes each mode to the same one and marks nothing, and it does not matter at the end of the
line. So the marks of a line stay the same when it is trimmed (`marks_trimEnd`), and when its cells
are trimmed and padded (`marks_line_ofLine`). -/

namespace EntityModel.Go

open Text (isBlank trim trimEnd)

/-- The separator of cells is blank itself. -/
theorem isBlank_cell : isBlank cell = true := rfl

/-! ## Modes -/

/-- What a scan stands in. -/
inductive Mode where
  /-- Code. -/
  | code
  /-- Code, behind a slash. -/
  | slash
  /-- A string. -/
  | string
  /-- A string, behind a backslash. -/
  | escape
  /-- A raw string. -/
  | raw
  /-- A comment. -/
  | comment
  deriving DecidableEq, Repr

namespace Mode

/-- The mode behind a character of code. -/
def ofCode (c : Char) : Mode :=
  if c = '/' then .slash else if c = '"' then .string else if c = '\x60' then .raw else .code

/-- The mode behind a character. -/
def next : Mode → Char → Mode
  | .code, c => ofCode c
  | .slash, c => if c = '/' then .comment else ofCode c
  | .string, c => if c = '"' then .code else if c = '\\' then .escape else .string
  | .escape, _ => .string
  | .raw, c => if c = '\x60' then .code else .raw
  | .comment, _ => .comment

/-- What a character marks. -/
def found : Mode → Char → List Mark
  | .code, c | .slash, c => if brackets.contains c then [.bracket c] else []
  | _, _ => []

/-- What the end of a line marks. -/
def atEnd : Mode → List Mark
  | .string | .escape => [.unterminated .interpreted]
  | .raw => [.unterminated .raw]
  | .code | .slash | .comment => []

/-- The marks from a mode on. -/
def scan (mode : Mode) : List Char → List Mark
  | [] => mode.atEnd
  | c :: rest => mode.found c ++ scan (mode.next c) rest

/-- A comment goes on to the end of the line. -/
@[simp] theorem scan_comment (text : List Char) : scan .comment text = [] := by
  induction text with
  | nil => rfl
  | cons c rest ih => exact ih

/-- A slash behind which no other one stands is like any other character. -/
theorem scan_slash {text : List Char} (h : text.head? ≠ some '/') :
    scan .slash text = scan .code text := by
  cases text with
  | nil => rfl
  | cons c rest =>
    have hc : c ≠ '/' := fun heq => h (congrArg some heq)
    rw [scan, scan, found, found, next, next, if_neg hc]

/-- In a string the scan looks for its closing quote, and behind it code goes on. -/
theorem scan_string (text : List Char) : scan .string text =
    (afterString text).elim [.unterminated .interpreted] (scan .code) := by
  fun_induction afterString text with
  | case1 => rfl
  | case2 rest => simp [scan, found, next]
  | case3 => rfl
  -- A backslash takes the next character with it.
  | case4 c rest ih => simpa [scan, found, next] using ih
  | case5 c rest hquote hlone hescape ih =>
    -- A backslash would have been one of the cases above, at the end or in front of a character.
    have hbackslash : c ≠ '\\' := by
      rintro rfl
      cases rest with
      | nil => exact hlone rfl rfl
      | cons d more => exact hescape d more rfl rfl
    have hquote : c ≠ '"' := hquote
    simpa [scan, found, next, hquote, hbackslash] using ih

/-- In a raw string the scan looks for its closing quote, and behind it code goes on. -/
theorem scan_raw (text : List Char) : scan .raw text =
    (afterRawString text).elim [.unterminated .raw] (scan .code) := by
  induction text with
  | nil => rfl
  | cons c rest ih =>
    by_cases hc : c = '\x60'
    · simp [scan, found, next, afterRawString, hc]
    · simpa [scan, found, next, afterRawString, hc] using ih

/-- A character that starts neither a literal nor a comment leaves the scan in code. -/
theorem scan_ofCode {c : Char} {rest : List Char} (hslash : ¬(c = '/' ∧ rest.head? = some '/'))
    (hquote : c ≠ '"') (hraw : c ≠ '\x60') : scan (ofCode c) rest = scan .code rest := by
  unfold ofCode
  split
  · rename_i hc
    exact scan_slash fun hhead => hslash ⟨hc, hhead⟩
  · rfl

end Mode

open Mode in
/-- The marks of a line are those that a scan finds from its start on. -/
theorem marks_eq_scan (text : List Char) : marks text = scan .code text := by
  -- A literal is scanned to its end at once on the one side, and by characters on the other.
  fun_induction marks text with
  | case1 => rfl
  | case2 c rest hslash =>
    obtain ⟨more, rfl⟩ := List.head?_eq_some_iff.1 hslash.2
    rw [hslash.1]
    exact (scan_comment more).symm
  | case3 text rest hrest _ ih =>
    have hstring : scan .code ('"' :: text) = scan .string text := rfl
    rw [hstring, scan_string, hrest, ih, Option.elim_some]
  | case4 text hrest =>
    have hstring : scan .code ('"' :: text) = scan .string text := rfl
    rw [hstring, scan_string, hrest, Option.elim_none]
  | case5 text rest hrest _ _ ih =>
    have hraw : scan .code ('\x60' :: text) = scan .raw text := rfl
    rw [hraw, scan_raw, hrest, ih, Option.elim_some]
  | case6 text hrest =>
    have hraw : scan .code ('\x60' :: text) = scan .raw text := rfl
    rw [hraw, scan_raw, hrest, Option.elim_none]
  | case7 c rest hslash hquote hraw hbracket ih =>
    rw [scan, found, if_pos hbracket, next, scan_ofCode hslash hquote hraw, ih,
      List.singleton_append]
  | case8 c rest hslash hquote hraw hbracket ih =>
    rw [scan, found, if_neg hbracket, next, scan_ofCode hslash hquote hraw, ih, List.nil_append]

/-! ## Rows of blanks -/

namespace Mode

/-- The mode behind a blank, and behind any number of them. -/
def settled : Mode → Mode
  | .slash => .code
  | .escape => .string
  | mode => mode

/-- More blanks change nothing. -/
@[simp] theorem settled_settled (mode : Mode) : mode.settled.settled = mode.settled := by
  cases mode <;> rfl

/-- Blanks at the end of a line do not change what its end marks. -/
@[simp] theorem atEnd_settled (mode : Mode) : mode.settled.atEnd = mode.atEnd := by
  cases mode <;> rfl

/-- The characters that a scan looks at. -/
def loud : List Char := ['/', '"', '\\', '\x60'] ++ brackets

/-- A scan looks at no blank. -/
theorem notMem_loud_of_blank {c : Char} (h : isBlank c = true) : c ∉ loud := by
  have hloud : loud.all (!isBlank ·) = true := rfl
  intro hmem
  have hc := List.all_eq_true.1 hloud c hmem
  rw [h] at hc
  cases hc

/-- Behind a blank the mode has settled. -/
theorem next_of_blank (mode : Mode) {c : Char} (h : isBlank c = true) :
    mode.next c = mode.settled := by
  have hloud := notMem_loud_of_blank h
  simp only [loud, List.cons_append, List.mem_cons, not_or] at hloud
  obtain ⟨hslash, hquote, hbackslash, hraw, -⟩ := hloud
  cases mode <;> simp [next, ofCode, settled, hslash, hquote, hbackslash, hraw]

/-- A blank marks nothing. -/
theorem found_of_blank (mode : Mode) {c : Char} (h : isBlank c = true) : mode.found c = [] := by
  have hbracket : c ∉ brackets := fun hmem =>
    notMem_loud_of_blank h (List.mem_append_right _ hmem)
  cases mode <;> simp [found, hbracket]

/-- Texts that mark the same in all modes do so behind any text. -/
theorem scan_append_congr {text other : List Char} (h : ∀ mode, scan mode text = scan mode other)
    (before : List Char) (mode : Mode) :
    scan mode (before ++ text) = scan mode (before ++ other) := by
  induction before generalizing mode with
  | nil => exact h mode
  | cons c before ih => rw [List.cons_append, List.cons_append, scan, scan, ih]

section

variable {blanks : List Char} (hblanks : ∀ c ∈ blanks, isBlank c = true)

include hblanks

/-- Behind a blank, further ones do not matter. -/
theorem scan_settled_append (mode : Mode) (text : List Char) :
    scan mode.settled (blanks ++ text) = scan mode.settled text := by
  induction blanks with
  | nil => rfl
  | cons c blanks ih =>
    obtain ⟨hc, hblanks⟩ := List.forall_mem_cons.1 hblanks
    rw [List.cons_append, scan, found_of_blank _ hc, next_of_blank _ hc, settled_settled,
      List.nil_append, ih hblanks]

/-- Behind blanks, however many, a scan goes on in the settled mode. -/
theorem scan_blanks_append (hne : blanks ≠ []) (mode : Mode) (text : List Char) :
    scan mode (blanks ++ text) = scan mode.settled text := by
  obtain ⟨c, rest, rfl⟩ := List.exists_cons_of_ne_nil hne
  obtain ⟨hc, hrest⟩ := List.forall_mem_cons.1 hblanks
  rw [List.cons_append, scan, found_of_blank _ hc, next_of_blank _ hc, List.nil_append,
    scan_settled_append hrest]

/-- At the end of a line, blanks do not matter. -/
theorem scan_append_blanks (mode : Mode) (text : List Char) :
    scan mode (text ++ blanks) = scan mode text := by
  have hend : ∀ mode, scan mode blanks = scan mode [] := by
    intro mode
    cases blanks with
    | nil => rfl
    | cons c rest =>
      have hblank := scan_blanks_append hblanks (List.cons_ne_nil c rest) mode []
      rw [List.append_nil] at hblank
      rw [hblank, scan, scan, atEnd_settled]
  rw [scan_append_congr hend, List.append_nil]

end

/-- A scan finds the same without the blanks at the end. -/
theorem scan_trimEnd (mode : Mode) (text : List Char) :
    scan mode (trimEnd text) = scan mode text := by
  obtain ⟨blanks, hblanks, heq⟩ := Text.exists_eq_trimEnd_append text
  conv_rhs => rw [heq]
  rw [scan_append_blanks hblanks]

/-! ## Cells -/

/-- Between texts, it does not matter how many blanks there are, nor which. -/
theorem scan_separated {blanks others text other : List Char}
    (hblanks : ∀ c ∈ blanks, isBlank c = true) (hne : blanks ≠ [])
    (hothers : ∀ c ∈ others, isBlank c = true) (hne' : others ≠ [])
    (h : ∀ mode : Mode, scan mode.settled text = scan mode.settled other) (mode : Mode) :
    scan mode (blanks ++ text) = scan mode (others ++ other) := by
  rw [scan_blanks_append hblanks hne, scan_blanks_append hothers hne', h]

/-- Cells can be trimmed behind blanks. -/
theorem scan_intercalate_trim (cells : List (List Char)) (mode : Mode) :
    scan mode.settled ([cell].intercalate (cells.map trim)) =
      scan mode.settled ([cell].intercalate cells) := by
  induction cells generalizing mode with
  | nil => rfl
  | cons text rest ih =>
    obtain ⟨before, after, hbefore, hafter, htext⟩ := Text.exists_eq_append_trim_append text
    cases rest with
    | nil =>
      rw [List.map_singleton, List.intercalate_singleton, List.intercalate_singleton]
      conv_rhs => rw [htext]
      rw [scan_settled_append hbefore, scan_append_blanks hafter]
    | cons next rest =>
      rw [List.map_cons, List.map_cons, List.intercalate_cons_cons, ← List.map_cons,
        List.intercalate_cons_cons]
      conv_rhs => rw [htext]
      simp only [List.append_assoc]
      -- The blanks that are trimmed behind the cell are next to its separator, which is one too.
      rw [scan_settled_append hbefore, ← List.append_assoc after]
      refine scan_append_congr (scan_separated ?_ ?_ ?_ ?_ ih) _ _
      · simp [isBlank_cell]
      · simp
      · simpa [or_imp, forall_and, isBlank_cell] using hafter
      · simp

/-- The blanks of padding stand in place of separators. -/
theorem scan_padCells {width : Nat → Nat} {column : Nat} {cells : List (List Char)}
    (h : ∀ i, Row.paddedWidth ⟨[], cells⟩ i ≤ width (column + i)) (mode : Mode) :
    scan mode (padCells width column cells) = scan mode ([cell].intercalate cells) := by
  fun_induction padCells width column cells generalizing mode with
  | case1 => rfl
  | case2 column last => rw [List.intercalate_singleton]
  | case3 column text rest hrest ih =>
    obtain ⟨next, rest, rfl⟩ := List.exists_cons_of_ne_nil hrest
    -- The cell fits its column, so that there is at least one blank of padding.
    have htext : text.length ≤ width column := by simpa [Row.paddedWidth] using h 0
    have hrest : ∀ mode, scan mode (padCells width (column + 1) (next :: rest)) =
        scan mode ([cell].intercalate (next :: rest)) := by
      refine ih fun i => ?_
      have hi := h (i + 1)
      simpa [Row.paddedWidth, Nat.add_right_comm column 1 i, Nat.add_assoc] using hi
    rw [List.intercalate_cons_cons, List.append_assoc, List.append_assoc]
    refine scan_append_congr (scan_separated ?_ ?_ ?_ ?_ fun mode => hrest mode.settled) _ _
    · intro c hc
      obtain rfl := List.eq_of_mem_replicate hc
      rfl
    · rw [ne_eq, List.replicate_eq_nil_iff]
      omega
    · simp [isBlank_cell]
    · simp

end Mode

/-- The fields of a text with their separators are the text. -/
theorem intercalate_fields (text : List Char) :
    [cell].intercalate (Text.fields (· = cell) text) = text := by
  induction text with
  | nil => rfl
  | cons c rest ih =>
    cases hfields : Text.fields (· = cell) rest with
    | nil => exact absurd hfields (Text.fields_ne_nil _ _)
    | cons field more =>
      rw [hfields] at ih
      unfold Text.fields
      by_cases hc : c = cell
      · simp [hc, hfields, List.intercalate_cons_cons, ih]
      · cases more with
        | nil => simpa [hc, hfields] using ih
        | cons next more =>
          simpa [hc, hfields, List.intercalate_cons_cons] using ih

/-- The row as a line with its separators. -/
def Row.text (row : Row) : List Char := row.indent ++ [cell].intercalate row.cells

open Mode in
/-- A row marks the same wherever its columns end. -/
theorem marks_line {row : Row} {width : Nat → Nat}
    (h : ∀ column, row.paddedWidth column ≤ width column) :
    marks (row.line width) = marks row.text := by
  rw [marks_eq_scan, marks_eq_scan, Row.line, Row.text, scan_trimEnd]
  exact scan_append_congr (scan_padCells fun i => by simpa [Row.paddedWidth] using h i) _ _

open Mode in
/-- The row of a line marks what the line does. -/
theorem marks_text_ofLine (line : List Char) : marks (Row.ofLine line).text = marks line := by
  have hindent : ∀ c ∈ line.takeWhile (· = '\t'), isBlank c = true := by
    intro c hc
    obtain rfl : c = '\t' := by simpa using List.mem_takeWhile_imp hc
    rfl
  have hline := line.takeWhile_append_dropWhile (p := (· = '\t'))
  -- A line starts in code, where the blanks in front of the first cell do not matter either.
  have hsettled : Mode.code = Mode.code.settled := rfl
  conv_rhs => rw [← hline]
  rw [marks_eq_scan, marks_eq_scan, Row.text, Row.ofLine, hsettled, scan_settled_append hindent,
    scan_settled_append hindent, scan_intercalate_trim, intercalate_fields]

/-- A line has the same marks without the blanks at its end. -/
theorem marks_trimEnd (line : List Char) : marks (trimEnd line) = marks line := by
  rw [marks_eq_scan, marks_eq_scan, Mode.scan_trimEnd]

end EntityModel.Go
