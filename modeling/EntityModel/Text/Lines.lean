/-! # Lines of text

A line ends at a line feed, which may follow a carriage return; the text after the last line feed
is a line too unless it is empty. -/

namespace EntityModel.Text

/-- The lines of a text with the terminators still on them. -/
def terminatedLines : List Char → List (List Char)
  | [] => []
  | c :: rest =>
    if c = '\n' then [c] :: terminatedLines rest
    else
      match terminatedLines rest with
      | [] => [[c]]
      | line :: lines => (c :: line) :: lines

/-- A line without its terminator: a line feed, or a carriage return and a line feed. -/
def dropTerminator (line : List Char) : List Char :=
  match line.reverse with
  | '\n' :: '\r' :: rest => rest.reverse
  | '\n' :: rest => rest.reverse
  | _ => line

/-- The lines of a text. -/
def lines (text : List Char) : List (List Char) := (terminatedLines text).map dropTerminator

/-- The empty text has no lines. -/
@[simp] theorem lines_nil : lines [] = [] := rfl

/-- Lines as a text, each ended by a line feed. -/
def unlines (ls : List (List Char)) : List Char := ls.flatMap (· ++ ['\n'])

/-- No lines make the empty text. -/
@[simp] theorem unlines_nil : unlines [] = [] := rfl

/-- The first line comes first, with its line feed. -/
@[simp] theorem unlines_cons (l : List Char) (ls : List (List Char)) :
    unlines (l :: ls) = l ++ '\n' :: unlines ls := by
  simp [unlines]

/-! ## Lines that are read back -/

/-- A line without a line feed in it is cut off behind the line feed that ends it. -/
theorem terminatedLines_line {line : List Char} (h : '\n' ∉ line) (rest : List Char) :
    terminatedLines (line ++ '\n' :: rest) = (line ++ ['\n']) :: terminatedLines rest := by
  induction line with
  | nil => simp [terminatedLines]
  | cons c line ih =>
    rw [List.mem_cons, not_or] at h
    rw [List.cons_append, terminatedLines, if_neg (Ne.symm h.1), ih h.2]
    rfl

/-- A line loses its line feed, and no more if it does not end with a carriage return. -/
theorem dropTerminator_line {line : List Char} (h : line.getLast? ≠ some '\r') :
    dropTerminator (line ++ ['\n']) = line := by
  unfold dropTerminator
  rw [List.reverse_append, List.reverse_singleton, List.singleton_append]
  split
  · rename_i rest heq
    have hlast := congrArg List.head? (List.cons.inj heq).2
    rw [List.head?_reverse] at hlast
    exact absurd hlast h
  · rename_i rest _ heq
    rw [← (List.cons.inj heq).2, List.reverse_reverse]
  · rename_i _ hnot
    exact absurd rfl (hnot _)

/-- A line feed ends the line in front of it. -/
theorem lines_line {line : List Char} (hfeed : '\n' ∉ line) (hreturn : line.getLast? ≠ some '\r')
    (rest : List Char) : lines (line ++ '\n' :: rest) = line :: lines rest := by
  rw [lines, terminatedLines_line hfeed, List.map_cons, dropTerminator_line hreturn, lines]

/-- Lines without terminators are read back. -/
theorem lines_unlines {ls : List (List Char)}
    (h : ∀ l ∈ ls, '\n' ∉ l ∧ l.getLast? ≠ some '\r') : lines (unlines ls) = ls := by
  induction ls with
  | nil => rfl
  | cons line ls ih =>
    have hline := h line List.mem_cons_self
    rw [unlines_cons, lines_line hline.1 hline.2, ih fun l hl => h l (List.mem_cons_of_mem _ hl)]

end EntityModel.Text
