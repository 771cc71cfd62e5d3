import EntityModel.Proofs.Go.NormalForm

/-! # Blank lines between lines with text

Layout takes one line after the other, and remembers of what it has seen whether it has written
anything and whether a blank line is still open (`Spacing`). A blank line without cells opens, and
a line without cells but with text closes. Lines with cells do neither. So the blank lines between
two lines with text can be counted (`exists_layoutLines_eq`): they are the blank lines with cells,
and one more if there is another blank line and none is open in front of it. -/

namespace EntityModel.Go

open Text (trimEnd)

/-! ## Lines as they are read -/

/-- A line of a text, as layout reads it. -/
inductive Line where
  /-- A line without cells. -/
  | plain (text : List Char)
  /-- A line with cells. -/
  | row (cells : Row)
  deriving DecidableEq

namespace Line

/-- A line that is read. -/
def ofText (text : List Char) : Line :=
  if cell ∈ text then .row (Row.ofLine text) else .plain text

/-- Whether the line has cells. -/
def isRow : Line → Bool
  | .plain _ => false
  | .row _ => true

/-- There is text on the line, in one of its cells if it has cells. -/
def HasText : Line → Prop
  | .plain text => trimEnd text ≠ []
  | .row r => ∃ text ∈ r.cells, text ≠ []

/-- Whether a line has text can be decided. -/
instance : DecidablePred HasText
  | .plain text => inferInstanceAs (Decidable (trimEnd text ≠ []))
  | .row r => inferInstanceAs (Decidable (∃ text ∈ r.cells, text ≠ []))

/-- What is written for the line in a run with columns of these widths. -/
def image (width : Nat → Nat) : Line → List Char
  | .plain text => trimEnd text
  | .row r => r.line width

/-- A line without a separator has no cells. -/
theorem ofText_of_notMem {text : List Char} (h : cell ∉ text) : ofText text = .plain text :=
  if_neg h

/-- A line has cells exactly if it has a separator. -/
theorem isRow_ofText_iff {text : List Char} : (ofText text).isRow = true ↔ cell ∈ text := by
  by_cases hcell : cell ∈ text <;> simp [ofText, isRow, hcell]

/-- A line has text exactly if it is not blank. -/
theorem hasText_ofText_iff {text : List Char} :
    (ofText text).HasText ↔ ∃ c ∈ text, Text.isBlank c = false := by
  by_cases hcell : cell ∈ text
  · rw [ofText, if_pos hcell]
    exact Row.hasText_ofLine_iff_ne_nil.symm.trans Row.hasText_ofLine_iff
  · rw [ofText_of_notMem hcell]
    show trimEnd text ≠ [] ↔ _
    simp [Text.trimEnd_eq_nil_iff]

/-- Exactly the lines with text are written with text, whatever the widths are. -/
theorem image_ofText_eq_nil_iff (width : Nat → Nat) (text : List Char) :
    (ofText text).image width = [] ↔ ¬(ofText text).HasText := by
  by_cases hcell : cell ∈ text
  · rw [hasText_ofText_iff, ofText, if_pos hcell]
    show (Row.ofLine text).line width = [] ↔ _
    constructor
    · intro hnil htext
      exact (Row.hasText_ofLine_iff.2 htext).line_ne_nil width hnil
    · intro hblank
      by_contra hne
      -- The line does not end with a blank, and alignment adds blanks only.
      have hinked := Text.isBlank_of_mem_getLast?_trimEnd (List.getLast?_eq_some_getLast hne)
      rcases mem_line_ofLine (List.getLast_mem hne) with hspace | hmem
      · rw [hspace] at hinked
        exact absurd hinked (by decide)
      · exact hblank ⟨_, hmem, hinked⟩
  · rw [ofText_of_notMem hcell]
    show trimEnd text = [] ↔ ¬trimEnd text ≠ []
    exact not_not.symm

end Line

/-! ## Runs, line by line -/

/-- The lines of a run. -/
def Run.members : Run → List Line
  | .plain line => [.plain line]
  | .table rows => rows.map .row

/-- The lines of the runs are the lines of the text. -/
theorem flatMap_members_runs (ls : List (List Char)) :
    (runs ls).flatMap (·.members) = ls.map Line.ofText := by
  fun_induction runs ls with
  | case1 => rfl
  -- The line joins the rows behind it, or is the last of them.
  | case2 first rest hcell rows more hruns ih =>
    have hfirst : Line.ofText first = .row (Row.ofLine first) := if_pos (by simpa using hcell)
    rw [hruns] at ih
    rw [List.map_cons, ← ih, hfirst]
    rfl
  | case3 first rest hcell _ ih =>
    have hfirst : Line.ofText first = .row (Row.ofLine first) := if_pos (by simpa using hcell)
    rw [List.map_cons, ← ih, hfirst]
    rfl
  | case4 first rest hcell ih =>
    rw [List.map_cons, ← ih, Line.ofText_of_notMem (by simpa using hcell)]
    rfl

/-- The widths of the columns of a run. -/
def Run.width : Run → Nat → Nat
  | .plain _ => fun _ => 0
  | .table rows => columnWidth rows

/-- A line with the widths of the columns of its run. -/
structure Slot where
  /-- The line. -/
  line : Line
  /-- The widths. -/
  width : Nat → Nat

/-- What is written for the line. -/
def Slot.image (s : Slot) : List Char := s.line.image s.width

/-- There is no blank at the end of what is written. -/
theorem trimEnd_image (s : Slot) : trimEnd s.image = s.image := by
  cases hline : s.line with
  | plain text =>
    rw [Slot.image, hline]
    exact List.rdropWhile_idempotent _ _
  | row r =>
    rw [Slot.image, hline]
    exact List.rdropWhile_idempotent _ _

/-- The lines of a run with its widths. -/
def Run.slots (r : Run) : List Slot := r.members.map fun line => ⟨line, r.width⟩

/-- The lines of a text with the widths of their runs. -/
def slots (ls : List (List Char)) : List Slot := (runs ls).flatMap (·.slots)

/-- Without the widths these are the lines of the text. -/
theorem map_line_slots (ls : List (List Char)) :
    (slots ls).map (·.line) = ls.map Line.ofText := by
  rw [← flatMap_members_runs, slots, List.map_flatMap]
  congr 1
  funext r
  rw [Run.slots, List.map_map]
  exact List.map_id _

/-- Nothing is written for a line exactly if it has no text. -/
theorem image_eq_nil_iff_of_mem_slots {ls : List (List Char)} {s : Slot} (h : s ∈ slots ls) :
    s.image = [] ↔ ¬s.line.HasText := by
  have hline : s.line ∈ ls.map Line.ofText := by
    rw [← map_line_slots]
    exact List.mem_map_of_mem h
  obtain ⟨text, -, htext⟩ := List.mem_map.1 hline
  rw [Slot.image, ← htext]
  exact Line.image_ofText_eq_nil_iff s.width text

/-- How many of blank lines are written, behind an open one or not: those with cells, and one for
all of the others. -/
def keptBlanks (afterBlank : Bool) (gap : List Line) : Nat :=
  gap.countP (·.isRow) + if afterBlank || gap.all (·.isRow) then 0 else 1

section

variable {line : Line} {gap : List Line}

/-- A blank line with cells is always written. -/
theorem keptBlanks_cons_row (h : line.isRow = true) (afterBlank : Bool) :
    keptBlanks afterBlank (line :: gap) = keptBlanks afterBlank gap + 1 := by
  simp [keptBlanks, h, Nat.add_right_comm]

/-- A blank line without cells is left out behind an open one. -/
theorem keptBlanks_cons_plain (h : line.isRow = false) :
    keptBlanks true (line :: gap) = keptBlanks true gap := by
  simp [keptBlanks, h]

/-- A blank line without cells is written if none is open, and is open from then on. -/
theorem keptBlanks_cons_first (h : line.isRow = false) :
    keptBlanks false (line :: gap) = keptBlanks true gap + 1 := by
  simp [keptBlanks, h]

/-- For any number of blank lines one is written, unless some of them have cells or a blank line is
open in front of them. -/
theorem keptBlanks_eq_min_iff (afterBlank : Bool) :
    keptBlanks afterBlank gap = min gap.length 1 ↔ gap = [] ∨
      gap.countP (·.isRow) = 0 ∧ afterBlank = false ∨
      gap.countP (·.isRow) = 1 ∧ (gap.length = 1 ∨ afterBlank = true) := by
  by_cases hgap : gap = []
  · simp [keptBlanks, hgap]
  · have hlength : 0 < gap.length := List.length_pos_iff.2 hgap
    -- The count tells whether there is a blank line without cells.
    have hall : gap.all (·.isRow) = true ↔ gap.countP (·.isRow) = gap.length := by
      rw [List.countP_eq_length, List.all_eq_true]
    have hle : gap.countP (·.isRow) ≤ gap.length := List.countP_le_length
    rw [Nat.min_eq_right hlength]
    cases afterBlank with
    | true => simp [keptBlanks, hgap]
    | false =>
      by_cases hrows : gap.all (·.isRow) = true
      · have hcount := hall.1 hrows
        rw [keptBlanks, Bool.false_or, if_pos hrows]
        simp only [hgap, Bool.false_eq_true, false_or, or_false, and_true]
        omega
      · have hcount := mt hall.2 hrows
        rw [keptBlanks, Bool.false_or, if_neg hrows]
        simp only [hgap, Bool.false_eq_true, false_or, or_false, and_true]
        omega

end

/-! ## One line after the other -/

/-- What layout remembers of the lines that it has seen. -/
structure Spacing where
  /-- Whether nothing has been written yet. -/
  atStart : Bool
  /-- Whether a blank line is open: there was one, and no line without cells but with text since. -/
  afterBlank : Bool

namespace Spacing

/-- Nothing has been seen. -/
def start : Spacing := ⟨true, false⟩

/-- What is remembered after another line. -/
def next (p : Spacing) (s : Slot) : Spacing :=
  if s.line.isRow then ⟨false, p.afterBlank⟩
  else if s.image = [] then ⟨p.atStart, true⟩
  else ⟨false, false⟩

/-- Whether the line is left out. -/
def omits (p : Spacing) (s : Slot) : Bool :=
  !s.line.isRow && s.image.isEmpty && (p.afterBlank || p.atStart)

/-- What is remembered after more lines. -/
def after (p : Spacing) (ss : List Slot) : Spacing := ss.foldl next p

/-- The lines that are written. -/
def sift (p : Spacing) : List Slot → List (List Char)
  | [] => []
  | s :: rest => if p.omits s then (p.next s).sift rest else s.image :: (p.next s).sift rest

/-- No lines are written for none. -/
@[simp] theorem sift_nil (p : Spacing) : p.sift [] = [] := rfl

/-- Lines are written one after the other, with what is remembered of those in front. -/
theorem sift_append (p : Spacing) (xs ys : List Slot) :
    p.sift (xs ++ ys) = p.sift xs ++ (p.after xs).sift ys := by
  induction xs generalizing p with
  | nil => rfl
  | cons s xs ih =>
    rw [List.cons_append, sift, sift, ih]
    by_cases homits : p.omits s = true
    · rw [if_pos homits, if_pos homits]
      rfl
    · rw [if_neg homits, if_neg homits]
      rfl

/-- Lines with text are never left out. -/
theorem sift_cons_of_ne_nil (p : Spacing) {s : Slot} (h : s.image ≠ []) (rest : List Slot) :
    p.sift (s :: rest) = s.image :: (p.next s).sift rest := by
  have homits : p.omits s ≠ true := by simp [omits, h]
  rw [sift, if_neg homits]

/-- Rows are written one below the other. -/
theorem sift_rows (p : Spacing) (width : Nat → Nat) (rows : List Row) (rest : List Slot) :
    p.sift (rows.map (fun r => ⟨.row r, width⟩) ++ rest) = rows.map (·.line width) ++
      (⟨p.atStart && rows.isEmpty, p.afterBlank⟩ : Spacing).sift rest := by
  induction rows generalizing p with
  | nil => simp
  | cons r rows ih =>
    rw [List.map_cons, List.cons_append, sift, if_neg (by simp [omits, Line.isRow]), ih]
    simp [next, Line.isRow, Slot.image, Line.image]

/-- Runs are arranged line by line. -/
theorem arrange_eq_sift (atStart afterBlank : Bool) (rs : List Run) :
    arrange atStart afterBlank rs =
      (⟨atStart, afterBlank⟩ : Spacing).sift (rs.flatMap (·.slots)) := by
  fun_induction arrange atStart afterBlank rs with
  | case1 => rfl
  | case2 atStart afterBlank rows rest ih =>
    have hslots : (Run.table rows).slots = rows.map fun r => ⟨.row r, columnWidth rows⟩ := by
      simp [Run.slots, Run.members, Run.width]
    rw [List.flatMap_cons, hslots, sift_rows, ih, align]
  | case3 atStart afterBlank line rest trimmed htext ih =>
    -- A line with text is written and closes.
    have hne : trimEnd line ≠ [] := by simpa [trimmed] using htext
    rw [List.flatMap_cons, ih]
    simp [Run.slots, Run.members, sift, omits, next, Line.isRow, Slot.image, Line.image, hne,
      trimmed]
  | case4 atStart afterBlank line rest trimmed hblank hopen ih =>
    -- A blank line is left out behind an open one, and at the start.
    have hnil : trimEnd line = [] := by simpa [trimmed] using hblank
    rw [List.flatMap_cons, ih]
    simp [Run.slots, Run.members, sift, omits, next, Line.isRow, Slot.image, Line.image, hnil,
      hopen]
  | case5 atStart afterBlank line rest trimmed hblank hclosed ih =>
    -- Any other blank line is written, and it is open from then on.
    have hnil : trimEnd line = [] := by simpa [trimmed] using hblank
    obtain ⟨rfl, rfl⟩ : afterBlank = false ∧ atStart = false := by simpa using hclosed
    rw [List.flatMap_cons, ih]
    simp [Run.slots, Run.members, sift, omits, next, Line.isRow, Slot.image, Line.image, hnil]

/-- As many lines with text are written as there are. -/
theorem countP_sift (p : Spacing) {ss : List Slot}
    (h : ∀ s ∈ ss, s.image = [] ↔ ¬s.line.HasText) :
    ((p.sift ss).map Line.plain).countP (·.HasText) = (ss.map (·.line)).countP (·.HasText) := by
  induction ss generalizing p with
  | nil => rfl
  | cons s rest ih =>
    obtain ⟨hs, hrest⟩ := List.forall_mem_cons.1 h
    by_cases hnil : s.image = []
    · -- A blank line makes no difference, whether it is written or not.
      have hblank : ¬(Line.plain s.image).HasText := by simp [hnil, Line.HasText]
      rw [List.map_cons, List.countP_cons_of_neg (by simpa using hs.1 hnil), ← ih (p.next s) hrest,
        sift]
      by_cases homits : p.omits s = true
      · rw [if_pos homits]
      · rw [if_neg homits, List.map_cons, List.countP_cons_of_neg (by simpa using hblank)]
    · have htext : (Line.plain s.image).HasText := by
        show trimEnd s.image ≠ []
        rwa [trimEnd_image]
      have hline : s.line.HasText := by
        by_contra hnot
        exact hnil (hs.2 hnot)
      rw [sift_cons_of_ne_nil p hnil, List.map_cons, List.map_cons,
        List.countP_cons_of_pos (by simpa using htext),
        List.countP_cons_of_pos (by simpa using hline), ih (p.next s) hrest]

/-- Of blank lines those are written that the count tells. -/
theorem sift_blank {p : Spacing} (hp : p.atStart = false) {ss : List Slot}
    (hss : ∀ s ∈ ss, s.image = []) :
    p.sift ss = List.replicate (keptBlanks p.afterBlank (ss.map (·.line))) [] := by
  induction ss generalizing p with
  | nil => simp [keptBlanks]
  | cons s rest ih =>
    obtain ⟨hs, hrest⟩ := List.forall_mem_cons.1 hss
    rw [List.map_cons]
    cases hrow : s.line.isRow with
    | true =>
      -- Cells are written, and change nothing else.
      have hnext : p.next s = ⟨false, p.afterBlank⟩ := if_pos hrow
      rw [sift, if_neg (by simp [omits, hrow]), hnext, ih rfl hrest, hs, keptBlanks_cons_row hrow,
        List.replicate_succ]
    | false =>
      have hnext : p.next s = ⟨p.atStart, true⟩ := by simp [next, hrow, hs]
      have hafter : (p.next s).sift rest =
          List.replicate (keptBlanks true (rest.map (·.line))) [] := by
        rw [hnext]
        exact ih hp hrest
      cases hopen : p.afterBlank with
      | true =>
        rw [sift, if_pos (by simp [omits, hrow, hs, hopen]), hafter,
          keptBlanks_cons_plain hrow]
      | false =>
        rw [sift, if_neg (by simp [omits, hopen, hp]), hafter, hs, keptBlanks_cons_first hrow,
          List.replicate_succ]

end Spacing

/-- A blank line is open at the end of the lines: there is one without cells, and behind it no line
without cells has text. -/
def Lingers (ls : List Line) : Prop :=
  ∃ line ∈ ls.rtakeWhile fun l => l.isRow ∨ ¬l.HasText, line.isRow = false

/-- Whether a blank line is open can be decided. -/
instance (ls : List Line) : Decidable (Lingers ls) :=
  inferInstanceAs (Decidable (∃ _ ∈ _, _))

/-- Layout remembers whether a blank line is open. -/
theorem Spacing.afterBlank_after_iff {ss : List Slot}
    (h : ∀ s ∈ ss, s.image = [] ↔ ¬s.line.HasText) :
    (start.after ss).afterBlank = true ↔ Lingers (ss.map (·.line)) := by
  induction ss using List.reverseRecOn with
  | nil => simp [after, start, Lingers]
  | append_singleton ss s ih =>
    obtain ⟨hss, hs⟩ := List.forall_mem_append.1 h
    have hblank := hs s (List.mem_singleton_self s)
    have hafter : start.after (ss ++ [s]) = (start.after ss).next s := by
      rw [after, List.foldl_append]
      rfl
    rw [hafter, List.map_append, List.map_singleton, Lingers]
    by_cases hrow : s.line.isRow = true
    · -- A line with cells changes nothing, whether or not it has text.
      have hnext : ((start.after ss).next s).afterBlank = (start.after ss).afterBlank := by
        simp [next, hrow]
      rw [hnext, ih hss, List.rtakeWhile_concat_pos _ _ _ (by simp [hrow])]
      simp [Lingers, hrow]
    · have hplain : s.line.isRow = false := by simpa using hrow
      by_cases hnil : s.image = []
      · have hnext : ((start.after ss).next s).afterBlank = true := by simp [next, hplain, hnil]
        rw [hnext, List.rtakeWhile_concat_pos _ _ _ (by simp [hblank.1 hnil])]
        simp [hplain]
      · have hnext : ((start.after ss).next s).afterBlank = false := by simp [next, hplain, hnil]
        have htext : s.line.HasText := by
          by_contra hnot
          exact hnil (hblank.2 hnot)
        rw [hnext, List.rtakeWhile_concat_neg _ _ _ (by simp [hplain, htext])]
        simp

/-! ## What is written between two lines with text -/

/-- What stands in front of a line with text is not left out. -/
theorem exists_dropTrailingBlank_append {l : List Char} (hne : l ≠ []) (xs ls : List (List Char)) :
    ∃ more, dropTrailingBlank (xs ++ l :: ls) = xs ++ l :: more := by
  obtain ⟨more, hmore⟩ := exists_dropTrailingBlank_cons hne ls
  have hkept : ((l :: ls).reverse.dropWhile List.isEmpty).isEmpty ≠ true := by
    intro hempty
    have hnil : dropTrailingBlank (l :: ls) = [] := by
      rw [dropTrailingBlank, List.isEmpty_iff.1 hempty, List.reverse_nil]
    rw [hmore] at hnil
    cases hnil
  refine ⟨more, ?_⟩
  rw [dropTrailingBlank, List.reverse_append, List.dropWhile_append, if_neg hkept,
    List.reverse_append, List.reverse_reverse, ← hmore, dropTrailingBlank]

section

variable {ls : List (List Char)} {before gap after : List Slot} {first second : Slot}

/-- The blank lines between two lines with text are counted. -/
theorem exists_layoutLines_eq (heq : slots ls = before ++ first :: (gap ++ second :: after))
    (hfirst : first.image ≠ []) (hgap : ∀ s ∈ gap, s.image = []) (hsecond : second.image ≠ []) :
    ∃ back, layoutLines ls = Spacing.start.sift before ++ first.image ::
      (List.replicate (keptBlanks (decide (Lingers ((before ++ [first]).map (·.line))))
        (gap.map (·.line))) [] ++ second.image :: back) := by
  have hslots : ∀ s ∈ before ++ [first], s.image = [] ↔ ¬s.line.HasText := by
    intro s hs
    have hmem : s ∈ slots ls := by
      rw [heq]
      grind
    exact image_eq_nil_iff_of_mem_slots hmem
  -- The state behind the first of the two lines, with which something has been written.
  have hafter : (Spacing.start.after before).next first =
      Spacing.start.after (before ++ [first]) := by
    rw [Spacing.after, Spacing.after, List.foldl_append]
    rfl
  have hstart : ((Spacing.start.after before).next first).atStart = false := by
    rw [Spacing.next]
    split_ifs <;> rfl
  have hopen : ((Spacing.start.after before).next first).afterBlank =
      decide (Lingers ((before ++ [first]).map (·.line))) := by
    rw [hafter, Bool.eq_iff_iff, Spacing.afterBlank_after_iff hslots, decide_eq_true_iff]
  have harrange : arrange true false (runs ls) = Spacing.start.sift (slots ls) :=
    Spacing.arrange_eq_sift true false (runs ls)
  rw [heq, Spacing.sift_append, Spacing.sift_cons_of_ne_nil _ hfirst, Spacing.sift_append,
    Spacing.sift_blank hstart hgap, Spacing.sift_cons_of_ne_nil _ hsecond, hopen,
    ← List.cons_append, ← List.append_assoc] at harrange
  obtain ⟨back, hback⟩ := exists_dropTrailingBlank_append hsecond _ _
  rw [← harrange] at hback
  refine ⟨back, ?_⟩
  rw [layoutLines, hback]
  simp

end

end EntityModel.Go
