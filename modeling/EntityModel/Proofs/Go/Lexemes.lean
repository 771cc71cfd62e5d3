import EntityModel.Proofs.Go.Delimiters
import Mathlib.Data.List.Forall2

/-! # Lexemes of source code

A line is a row of lexemes: characters of code, strings and raw strings that are closed, and at its
end perhaps a comment or a literal that is not closed. The grammar reads every line (`exists_lexes`)
in one way only (`Lexes.unique`), and a scan finds the marks of the lexemes (`Lexes.marks_eq`). -/

namespace EntityModel.Go

/-! ## The grammar of lines -/

/-- What may stand between the quotes of a string. A backslash takes the next character with it. -/
inductive StringBody : List Char → Prop
  /-- Nothing. -/
  | nil : StringBody []
  /-- A character that stands for itself. -/
  | char {c : Char} {rest : List Char} (hquote : c ≠ '"') (hbackslash : c ≠ '\\')
      (h : StringBody rest) : StringBody (c :: rest)
  /-- A backslash and the character that it escapes. -/
  | escape (c : Char) {rest : List Char} (h : StringBody rest) : StringBody ('\\' :: c :: rest)

/-- A lexeme of a line. -/
inductive Lexeme where
  /-- A character of code. -/
  | code (c : Char)
  /-- A string with what stands between its quotes. -/
  | interpreted (body : List Char)
  /-- A raw string with what stands between its quotes. -/
  | raw (body : List Char)
  /-- A comment with what stands behind its slashes. -/
  | comment (text : List Char)
  /-- A literal that is not closed, with the rest of the line. -/
  | unclosed (literal : Literal) (text : List Char)
  deriving DecidableEq, Repr

/-- The lexemes of a line. -/
inductive Lexes : List Char → List Lexeme → Prop
  /-- The end of the line. -/
  | nil : Lexes [] []
  /-- A character that starts neither a literal nor a comment. -/
  | code {c : Char} {rest : List Char} {lexemes : List Lexeme} (hquote : c ≠ '"')
      (hraw : c ≠ '\x60') (hslash : ¬(c = '/' ∧ rest.head? = some '/')) (h : Lexes rest lexemes) :
      Lexes (c :: rest) (.code c :: lexemes)
  /-- A string up to its closing quote. -/
  | interpreted {body text rest : List Char} {lexemes : List Lexeme} (hbody : StringBody body)
      (htext : text = body ++ '"' :: rest) (h : Lexes rest lexemes) :
      Lexes ('"' :: text) (.interpreted body :: lexemes)
  /-- A raw string up to its closing quote. -/
  | raw {body text rest : List Char} {lexemes : List Lexeme} (hbody : '\x60' ∉ body)
      (htext : text = body ++ '\x60' :: rest) (h : Lexes rest lexemes) :
      Lexes ('\x60' :: text) (.raw body :: lexemes)
  /-- A comment up to the end of the line. -/
  | comment (text : List Char) : Lexes ('/' :: '/' :: text) [.comment text]
  /-- A string without a closing quote. -/
  | unclosedString {text : List Char}
      (htext : ∀ body rest, StringBody body → text ≠ body ++ '"' :: rest) :
      Lexes ('"' :: text) [.unclosed .interpreted text]
  /-- A raw string without a closing quote. -/
  | unclosedRaw {text : List Char} (htext : '\x60' ∉ text) :
      Lexes ('\x60' :: text) [.unclosed .raw text]

/-- The marks of a lexeme: a bracket of code, or a literal that is not closed. -/
def Lexeme.marks : Lexeme → List Mark
  | .code c => if brackets.contains c then [.bracket c] else []
  | .unclosed literal _ => [.unterminated literal]
  | .interpreted _ | .raw _ | .comment _ => []

/-- The lexeme is no literal without an end. -/
def Lexeme.IsClosed : Lexeme → Prop
  | .unclosed _ _ => False
  | .code _ | .interpreted _ | .raw _ | .comment _ => True

/-- The lexeme ends before the line does, or could do so. -/
def Lexeme.HasEnd : Lexeme → Prop
  | .code _ | .interpreted _ | .raw _ => True
  | .comment _ | .unclosed _ _ => False

/-! ## Ends of literals -/

/-- What follows a string is what follows its closing quote. -/
theorem StringBody.afterString_append {body : List Char} (h : StringBody body) (rest : List Char) :
    afterString (body ++ '"' :: rest) = some rest := by
  induction h with
  | nil => rfl
  | char hquote hbackslash _ ih => rw [List.cons_append, afterString_cons hquote hbackslash, ih]
  | escape c _ ih => exact ih

/-- A string ends exactly where its body does. -/
theorem afterString_eq_some_iff {text rest : List Char} :
    afterString text = some rest ↔ ∃ body, StringBody body ∧ text = body ++ '"' :: rest := by
  constructor
  · intro h
    fun_induction afterString text with
    | case1 => cases h
    | case2 => exact ⟨[], .nil, by rw [Option.some.inj h, List.nil_append]⟩
    | case3 => cases h
    | case4 c text ih =>
      obtain ⟨body, hbody, rfl⟩ := ih h
      exact ⟨_, .escape c hbody, rfl⟩
    | case5 c text hquote hlone hescape ih =>
      obtain ⟨body, hbody, rfl⟩ := ih h
      have hbackslash : c ≠ '\\' := by
        intro hc
        -- A character follows the backslash, if only the closing quote.
        cases body with
        | nil => exact hescape '"' rest hc rfl
        | cons d body => exact hescape d (body ++ '"' :: rest) hc rfl
      exact ⟨_, .char hquote hbackslash hbody, rfl⟩
  · rintro ⟨body, hbody, rfl⟩
    exact hbody.afterString_append rest

/-- A raw string ends at the first quote of its kind. -/
theorem afterRawString_eq_some_iff {text rest : List Char} :
    afterRawString text = some rest ↔ ∃ body, '\x60' ∉ body ∧ text = body ++ '\x60' :: rest := by
  constructor
  · intro h
    fun_induction afterRawString text with
    | case1 => cases h
    | case2 text => exact ⟨[], List.not_mem_nil, by rw [Option.some.inj h, List.nil_append]⟩
    | case3 c text hc ih =>
      obtain ⟨body, hbody, rfl⟩ := ih h
      exact ⟨c :: body, List.not_mem_cons_of_ne_of_not_mem (Ne.symm hc) hbody, rfl⟩
  · rintro ⟨body, hbody, rfl⟩
    exact afterRawString_append hbody rest

/-- A raw string has no end exactly if there is no quote of its kind. -/
theorem afterRawString_eq_none_iff {text : List Char} :
    afterRawString text = none ↔ '\x60' ∉ text := by
  rw [Option.eq_none_iff_forall_ne_some]
  constructor
  · intro h hmem
    obtain ⟨body, rest, rfl, hbody⟩ := List.eq_append_cons_of_mem hmem
    exact h rest (afterRawString_append hbody rest)
  · intro h rest hrest
    obtain ⟨body, -, rfl⟩ := afterRawString_eq_some_iff.1 hrest
    exact h (List.mem_append_right _ List.mem_cons_self)

/-! ## Lexing -/

/-- Every line has lexemes. -/
theorem exists_lexes (line : List Char) : ∃ lexemes, Lexes line lexemes := by
  -- A scan cuts the line into its lexemes.
  fun_induction marks line with
  | case1 => exact ⟨[], .nil⟩
  | case2 c rest hslash =>
    obtain ⟨rfl, hhead⟩ := hslash
    obtain ⟨text, rfl⟩ := List.head?_eq_some_iff.1 hhead
    exact ⟨_, .comment text⟩
  | case3 text rest hrest _ ih =>
    obtain ⟨body, hbody, htext⟩ := afterString_eq_some_iff.1 hrest
    obtain ⟨lexemes, h⟩ := ih
    exact ⟨_, .interpreted hbody htext h⟩
  | case4 text hnone =>
    refine ⟨_, .unclosedString fun body rest hbody htext => ?_⟩
    rw [afterString_eq_some_iff.2 ⟨body, hbody, htext⟩] at hnone
    cases hnone
  | case5 text rest hrest _ _ ih =>
    obtain ⟨body, hbody, htext⟩ := afterRawString_eq_some_iff.1 hrest
    obtain ⟨lexemes, h⟩ := ih
    exact ⟨_, .raw hbody htext h⟩
  | case6 text hnone => exact ⟨_, .unclosedRaw (afterRawString_eq_none_iff.1 hnone)⟩
  | case7 c rest hslash hquote hraw _ ih =>
    obtain ⟨lexemes, h⟩ := ih
    exact ⟨_, .code hquote hraw hslash h⟩
  | case8 c rest hslash hquote hraw _ ih =>
    obtain ⟨lexemes, h⟩ := ih
    exact ⟨_, .code hquote hraw hslash h⟩

/-- A literal has one end, if there is a function that finds it. -/
theorem body_unique {after : List Char → Option (List Char)} {quote : Char}
    {a b rest more : List Char} (ha : after (a ++ quote :: rest) = some rest)
    (hb : after (b ++ quote :: more) = some more) (h : a ++ quote :: rest = b ++ quote :: more) :
    a = b ∧ rest = more := by
  rw [h, hb] at ha
  obtain rfl := Option.some.inj ha
  exact ⟨List.append_cancel_right h, rfl⟩

/-- A line has its lexemes in one way only. -/
theorem Lexes.unique {line : List Char} {lexemes others : List Lexeme} (h : Lexes line lexemes)
    (h' : Lexes line others) : lexemes = others := by
  -- What a line starts with tells the kind of its first lexeme, and what follows it is the same.
  induction h generalizing others with
  | nil => cases h'; rfl
  | code hquote hraw hslash _ ih =>
    cases h' with
    | code _ _ _ h' => rw [ih h']
    | comment => exact absurd ⟨rfl, rfl⟩ hslash
    | interpreted | unclosedString => exact absurd rfl hquote
    | raw | unclosedRaw => exact absurd rfl hraw
  | interpreted hbody htext _ ih =>
    cases h' with
    | code hquote => exact absurd rfl hquote
    | interpreted hbody' htext' h' =>
      obtain ⟨rfl, rfl⟩ := body_unique (hbody.afterString_append _)
        (hbody'.afterString_append _) (htext.symm.trans htext')
      rw [ih h']
    | unclosedString htext' => exact absurd htext (htext' _ _ hbody)
  | raw hbody htext _ ih =>
    cases h' with
    | code _ hraw => exact absurd rfl hraw
    | raw hbody' htext' h' =>
      obtain ⟨rfl, rfl⟩ := body_unique (afterRawString_append hbody _)
        (afterRawString_append hbody' _) (htext.symm.trans htext')
      rw [ih h']
    | unclosedRaw htext' => exact absurd (htext ▸ List.mem_append_right _ List.mem_cons_self) htext'
  | comment =>
    cases h' with
    | code _ _ hslash => exact absurd ⟨rfl, rfl⟩ hslash
    | comment => rfl
  | unclosedString htext =>
    cases h' with
    | code hquote => exact absurd rfl hquote
    | interpreted hbody' htext' => exact absurd htext' (htext _ _ hbody')
    | unclosedString => rfl
  | unclosedRaw htext =>
    cases h' with
    | code _ hraw => exact absurd rfl hraw
    | raw _ htext' => exact absurd (htext' ▸ List.mem_append_right _ List.mem_cons_self) htext
    | unclosedRaw => rfl

/-- The lines of a text have lexemes, in one way. -/
theorem exists_forall₂_lexes_iff (lines : List (List Char)) :
    ∃ lexed, ∀ other, List.Forall₂ Lexes lines other ↔ other = lexed := by
  choose lexemesOf hlexemesOf using exists_lexes
  have hlexed : List.Forall₂ Lexes lines (lines.map lexemesOf) :=
    List.forall₂_map_right_iff.2 (List.forall₂_same.2 fun line _ => hlexemesOf line)
  have hunique : Relator.RightUnique Lexes := fun _ _ _ => Lexes.unique
  refine ⟨lines.map lexemesOf, fun other => ⟨fun hother => hunique.forall₂ hother hlexed, ?_⟩⟩
  rintro rfl
  exact hlexed

/-- Lexemes that have an end are the same in front of any text that does not start with a slash. -/
theorem Lexes.append {before rest : List Char} {lexemes more : List Lexeme}
    (h : Lexes before lexemes) (hend : ∀ lexeme ∈ lexemes, lexeme.HasEnd) (hrest : Lexes rest more)
    (hhead : rest.head? ≠ some '/') : Lexes (before ++ rest) (lexemes ++ more) := by
  induction h with
  | nil => exact hrest
  | @code c text lexemes hquote hraw hslash _ ih =>
    have hslash' : ¬(c = '/' ∧ (text ++ rest).head? = some '/') := by
      cases text with
      | nil => exact fun hc => hhead hc.2
      | cons d text => exact hslash
    exact .code hquote hraw hslash' (ih (List.forall_mem_cons.1 hend).2)
  | interpreted hbody htext _ ih =>
    subst htext
    rw [List.cons_append, List.append_assoc, List.cons_append]
    exact .interpreted hbody rfl (ih (List.forall_mem_cons.1 hend).2)
  | raw hbody htext _ ih =>
    subst htext
    rw [List.cons_append, List.append_assoc, List.cons_append]
    exact .raw hbody rfl (ih (List.forall_mem_cons.1 hend).2)
  | comment | unclosedString | unclosedRaw => exact (hend _ List.mem_cons_self).elim

/-! ## Marks -/

/-- A string without an end is marked, and nothing behind it. -/
theorem marks_unclosedString {text : List Char} (h : afterString text = none) :
    marks ('"' :: text) = [.unterminated .interpreted] := by
  rw [marks, if_neg (by simp), if_pos rfl]
  split
  · rename_i heq
    cases h.symm.trans heq
  · rfl

/-- A raw string without an end is marked, and nothing behind it. -/
theorem marks_unclosedRaw {text : List Char} (h : afterRawString text = none) :
    marks ('\x60' :: text) = [.unterminated .raw] := by
  rw [marks, if_neg (by simp), if_neg (by decide), if_pos rfl]
  split
  · rename_i heq
    cases h.symm.trans heq
  · rfl

/-- A scan finds the marks of the lexemes. -/
theorem Lexes.marks_eq {line : List Char} {lexemes : List Lexeme} (h : Lexes line lexemes) :
    marks line = lexemes.flatMap Lexeme.marks := by
  induction h with
  | nil => exact marks_nil
  | @code c rest lexemes hquote hraw hslash _ ih =>
    rw [marks, if_neg hslash, if_neg hquote, if_neg hraw, List.flatMap_cons, Lexeme.marks, ← ih]
    split
    · rfl
    · rfl
  | interpreted hbody htext _ ih =>
    rw [marks_string (afterString_eq_some_iff.2 ⟨_, hbody, htext⟩), ih]
    rfl
  | raw hbody htext _ ih =>
    rw [marks_rawString (afterRawString_eq_some_iff.2 ⟨_, hbody, htext⟩), ih]
    rfl
  | comment text => exact marks_comment text
  | unclosedString htext =>
    refine marks_unclosedString (Option.eq_none_iff_forall_ne_some.2 fun rest hrest => ?_)
    obtain ⟨body, hbody, heq⟩ := afterString_eq_some_iff.1 hrest
    exact htext body rest hbody heq
  | unclosedRaw htext => exact marks_unclosedRaw (afterRawString_eq_none_iff.2 htext)

end EntityModel.Go
