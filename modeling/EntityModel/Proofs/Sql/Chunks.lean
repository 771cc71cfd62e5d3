import EntityModel.Proofs.Sql.Grammar

/-! # Cutting scripts

A script is cut at the semicolons among its lexemes and nowhere else: its chunks are what
`List.splitOn` leaves between them, and the statements are the texts of the chunks with code. So two
scripts may be split one by one if the first of them ends with a semicolon that ends a statement
(`splitStatements_cuts`). -/

namespace EntityModel.Sql

open Lexeme

/-! ## Pieces -/

/-- The pieces are what stands between the semicolons. -/
theorem pieces_eq_splitOn (ls : List Lexeme) :
    (pieces ls).1 ++ [(pieces ls).2] = ls.splitOn .semicolon := by
  rw [List.splitOn_eq_splitOnP]
  induction ls with
  | nil => rfl
  | cons lexeme ls ih =>
    rw [List.splitOnP_cons_eq_if_modifyHead, ← ih]
    cases lexeme with
    | semicolon => rfl
    | blank c | comment t | code t =>
      -- The lexeme joins the first piece, which is the last one if there is no other.
      rcases hpieces : pieces ls with ⟨_ | ⟨chunk, more⟩, last⟩ <;> simp [pieces, hpieces]

/-- A semicolon parts the pieces in front of it from those behind it. -/
theorem pieces_append_semicolon (front back : List Lexeme) :
    pieces (front ++ .semicolon :: back) =
      (front.splitOn .semicolon ++ (pieces back).1, (pieces back).2) := by
  have hsplit := pieces_eq_splitOn (front ++ .semicolon :: back)
  rw [List.splitOn_eq_splitOnP, List.splitOnP_append_cons front back (by simp),
    ← List.splitOn_eq_splitOnP, ← List.splitOn_eq_splitOnP, ← pieces_eq_splitOn back,
    ← List.append_assoc] at hsplit
  obtain ⟨hfirst, hlast⟩ := List.append_inj' hsplit rfl
  exact Prod.ext hfirst (List.singleton_inj.1 hlast)

/-- Without a semicolon there is one chunk. -/
theorem splitOn_of_notMem {ls : List Lexeme} (h : .semicolon ∉ ls) :
    ls.splitOn .semicolon = [ls] := by
  rw [List.splitOn_eq_splitOnP]
  refine List.splitOnP_eq_singleton fun lexeme hmem => beq_eq_false_iff_ne.2 ?_
  rintro rfl
  exact h hmem

/-- Without a semicolon there is no whole piece. -/
theorem pieces_of_notMem {ls : List Lexeme} (h : .semicolon ∉ ls) : pieces ls = ([], ls) := by
  have hsplit := pieces_eq_splitOn ls
  rw [splitOn_of_notMem h, ← List.nil_append [ls]] at hsplit
  obtain ⟨hfirst, hlast⟩ := List.append_inj' hsplit rfl
  exact Prod.ext hfirst (List.singleton_inj.1 hlast)

/-- The text in front of a semicolon is a statement if there is code in it. -/
theorem statementsOf_append_semicolon {front : List Lexeme} (h : .semicolon ∉ front)
    (back : List Lexeme) : statementsOf (front ++ .semicolon :: back) =
      (if hasCode front then [pieceText front] else []) ++ statementsOf back := by
  rw [statementsOf, pieces_append_semicolon, splitOn_of_notMem h, List.singleton_append,
    statementsOf, List.filter_cons]
  by_cases hcode : hasCode front = true
  · simp [hcode]
  · simp [hcode]

/-- Two sequences in a row have code if one of them has. -/
theorem hasCode_append {a b : List Lexeme} : hasCode (a ++ b) = (hasCode a || hasCode b) :=
  List.any_append

/-! ## Statements -/

/-- Behind a semicolon, the statements are found anew. -/
theorem statementsOf_append {as : List Lexeme} (h : as.getLast? = some .semicolon)
    (bs : List Lexeme) : statementsOf (as ++ bs) = statementsOf as ++ statementsOf bs := by
  obtain ⟨front, rfl⟩ := List.getLast?_eq_some_iff.1 h
  rw [List.append_assoc, List.singleton_append, statementsOf, pieces_append_semicolon,
    statementsOf, pieces_append_semicolon, statementsOf]
  simp [lastStatement, hasCode]

/-- The chunks that are statements: those with code, but not the last one if it is blank. -/
def statementChunks (chunks : List (List Lexeme)) : List (List Lexeme) :=
  chunks.dropLast.filter hasCode ++
    chunks.getLast?.toList.filter fun chunk => hasCode chunk && !(pieceText chunk).isEmpty

/-- The statements are the texts of the chunks that are kept. -/
theorem statementsOf_eq_map (ls : List Lexeme) :
    statementsOf ls = (statementChunks (ls.splitOn .semicolon)).map pieceText := by
  rw [statementsOf, ← pieces_eq_splitOn, statementChunks, List.dropLast_concat,
    List.getLast?_concat, List.map_append, Option.toList_some, List.filter_singleton, lastStatement]
  cases hasCode (pieces ls).2 && !(pieceText (pieces ls).2).isEmpty <;> rfl

/-- The text of lexemes is joined from the texts of their chunks. -/
theorem intercalate_flatMap_text (ls : List Lexeme) :
    [';'].intercalate ((ls.splitOn .semicolon).map (·.flatMap Lexeme.text)) =
      ls.flatMap Lexeme.text := by
  have hjoin : ∀ chunks : List (List Lexeme),
      [';'].intercalate (chunks.map (·.flatMap Lexeme.text)) =
        ([Lexeme.semicolon].intercalate chunks).flatMap Lexeme.text := by
    intro chunks
    induction chunks with
    | nil => rfl
    | cons chunk chunks ih =>
      cases chunks with
      | nil => simp
      | cons next chunks => simpa [List.intercalate_cons_cons, Lexeme.text] using ih
  rw [hjoin, List.intercalate_splitOn]

/-- A script has no more lexemes than characters. -/
theorem length_list_le (text : List Char) : (list text).length ≤ text.length := by
  fun_induction list text with
  | case1 => exact Nat.le_refl 0
  | case2 c rest ih => exact Nat.lt_of_le_of_lt ih (length_next c rest)

/-- **A script is cut exactly at its top-level semicolons.** It has lexemes of one kind only, and no
more of them than characters, whether or not its quoted texts, comments and bodies have an end. A
script that ends with one of its semicolons is split by itself, whatever follows. The chunks between
the semicolons join to the script, and their trimmed texts are the statements in order, without
those of chunks that hold no code and of a last chunk that is blank. -/
theorem splitStatements_cuts :
    (∀ script : List Char, ∃! ls, Lexes script ls ∧ ls.length ≤ script.length) ∧
    (∀ (a b : String) (ls : List Lexeme), Lexes a.toList ls → ls.getLast? = some .semicolon →
      splitStatements (a ++ b) = splitStatements a ++ splitStatements b) ∧
    ∀ (script : String) (ls : List Lexeme), Lexes script.toList ls →
      script.toList =
        [';'].intercalate ((ls.splitOn .semicolon).map (·.flatMap Lexeme.text)) ∧
      splitStatements script =
        (statementChunks (ls.splitOn .semicolon)).map fun chunk =>
          String.ofList (Text.trim (chunk.flatMap Lexeme.text)) := by
  refine ⟨fun script => ?_, fun a b ls ha hlast => ?_, fun script ls hscript => ?_⟩
  · exact ⟨list script, ⟨lexes_list script, length_list_le script⟩, fun ls h => h.1.list_eq.symm⟩
  · have hboth := ha.append hlast (lexes_list b.toList)
    rw [splitStatements, String.toList_append, hboth.list_eq, statementsOf_append hlast,
      List.map_append, splitStatements, ha.list_eq, splitStatements]
  · refine ⟨?_, ?_⟩
    · rw [intercalate_flatMap_text, hscript.flatMap_text]
    · rw [splitStatements, hscript.list_eq, statementsOf_eq_map, List.map_map]
      rfl

/-- A semicolon in a literal and one in a comment end no statement, the one behind them does. -/
theorem splitStatements_cuts_note :
    Lexes "SELECT ';' -- one; two\n;".toList (list "SELECT ';' -- one; two\n;".toList) ∧
    (list "SELECT ';' -- one; two\n;".toList).getLast? = some .semicolon ∧
    splitStatements ("SELECT ';' -- one; two\n;" ++ "$a$;") =
      splitStatements "SELECT ';' -- one; two\n;" ++ splitStatements "$a$;" := by
  have hlexes := lexes_list "SELECT ';' -- one; two\n;".toList
  have hlast : (list "SELECT ';' -- one; two\n;".toList).getLast? = some .semicolon := by
    decide +kernel
  exact ⟨hlexes, hlast, splitStatements_cuts.2.1 _ _ _ hlexes hlast⟩

end EntityModel.Sql
