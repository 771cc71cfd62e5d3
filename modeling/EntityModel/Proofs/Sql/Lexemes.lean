import EntityModel.Sql.Split
import EntityModel.Sql.Statement
import Mathlib.Data.List.Infix

/-! # Texts that are lexed on their own

A text is whole if all lexemes that start in it end in it, and none of them is a semicolon that ends
a statement: single characters, string literals, bodies between empty dollar tags, and comments with
the end of their line. The lexemes of a whole text do not depend on what stands behind it
(`Whole.list_append`). Only a quote must not follow, since a literal would go on with it. -/

namespace EntityModel.Sql

namespace Lexeme

/-! ## Ends of lexemes -/

/-- A pattern is found where it stands first. It stands nowhere before if not even its beginning at
that place makes one. -/
theorem cutAfter_append_of_not_infix {pattern text : List Char}
    (h : ¬pattern <:+: text ++ pattern.dropLast) (rest : List Char) :
    cutAfter pattern (text ++ (pattern ++ rest)) = (text ++ pattern, rest) := by
  have hne : pattern ≠ [] := by
    rintro rfl
    exact h List.nil_infix
  induction text with
  | nil =>
    obtain ⟨c, pattern', rfl⟩ := List.exists_cons_of_ne_nil hne
    have hprefix : (c :: pattern').isPrefixOf (c :: (pattern' ++ rest)) = true :=
      List.isPrefixOf_iff_prefix.2 (List.prefix_append (c :: pattern') rest)
    rw [List.nil_append, List.cons_append, cutAfter, if_pos hprefix, ← List.cons_append,
      List.take_left', List.drop_left', List.nil_append] <;> rfl
  | cons c text ih =>
    -- A pattern that stood here would end in front of the last character of the other one.
    have hnot : ¬pattern <+: c :: (text ++ (pattern ++ rest)) := by
      intro hprefix
      have hsplit : c :: (text ++ (pattern ++ rest)) =
          (c :: text ++ pattern.dropLast) ++ ([pattern.getLast hne] ++ rest) := by
        have hpattern : pattern ++ rest = pattern.dropLast ++ ([pattern.getLast hne] ++ rest) := by
          rw [← List.append_assoc, List.dropLast_append_getLast]
        rw [List.append_assoc, ← hpattern]
        rfl
      rw [hsplit] at hprefix
      refine h (List.prefix_of_prefix_length_le hprefix (List.prefix_append _ _) ?_).isInfix
      simp only [List.length_append, List.length_cons, List.length_dropLast]
      omega
    rw [List.cons_append, cutAfter, if_neg (mt List.isPrefixOf_iff_prefix.1 hnot),
      ih fun hinfix => h (List.infix_cons hinfix)]
    rfl

/-- A character that is no quote is passed over on the way to it. -/
theorem cutAfterQuote_cons_of_ne {quote c : Char} (h : c ≠ quote) (rest : List Char) :
    cutAfterQuote quote (c :: rest) =
      (c :: (cutAfterQuote quote rest).1, (cutAfterQuote quote rest).2) := by
  rw [cutAfterQuote.eq_def]
  simp only [if_neg h]

/-- A text as it is written between quotes: a quote in it is doubled. -/
def doubled (quote : Char) (text : List Char) : List Char :=
  text.flatMap fun c => if c = quote then [quote, quote] else [c]

/-- A quoted text ends at the quote that was put behind it. -/
theorem cutAfterQuote_doubled (q : Char) (text : List Char) {rest : List Char}
    (h : rest.head? ≠ some q) :
    cutAfterQuote q (doubled q text ++ q :: rest) = (doubled q text ++ [q], rest) := by
  unfold doubled
  induction text with
  | nil =>
    cases rest with
    | nil => simp [cutAfterQuote]
    | cons d rest =>
      have hd : d ≠ q := fun heq => h (congrArg some heq)
      simp [cutAfterQuote, hd]
  | cons c text ih =>
    by_cases hc : c = q
    · subst hc
      simp [cutAfterQuote, ih]
    · rw [List.flatMap_cons, if_neg hc, List.cons_append, List.nil_append, List.cons_append,
        cutAfterQuote_cons_of_ne hc, ih]
      rfl

/-! ## First lexemes -/

/-- Whether the character is blank or code on its own, whatever stands behind it. -/
def isPlain (c : Char) : Bool :=
  c ≠ '-' && c ≠ '/' && c ≠ '\'' && c ≠ '"' && c ≠ '$' && c ≠ ';'

/-- Whether the character is ASCII white space. -/
def isSpace (c : Char) : Bool := c = ' ' || c = '\t' || c = '\n' || c = '\x0c' || c = '\r'

/-- A plain character is a lexeme of its own, whatever follows it. -/
theorem list_plain {c : Char} (h : isPlain c = true) (rest : List Char) :
    list (c :: rest) = (if isSpace c then .blank c else .code [c]) :: list rest := by
  simp only [isPlain, ne_eq, decide_not, Bool.and_eq_true, Bool.not_eq_eq_eq_not, Bool.not_true,
    decide_eq_false_iff_not] at h
  obtain ⟨⟨⟨⟨⟨hdash, hslash⟩, hquote⟩, hdouble⟩, hdollar⟩, hsemicolon⟩ := h
  rw [list_cons, next, if_neg fun h => hdash h.1, if_neg fun h => hslash h.1,
    if_neg (not_or.2 ⟨hquote, hdouble⟩), if_neg hdollar, if_neg hsemicolon]
  by_cases hspace : isSpace c = true
  · have hcases : c = ' ' ∨ c = '\t' ∨ c = '\n' ∨ c = '\x0c' ∨ c = '\r' := by
      simpa [isSpace, or_assoc] using hspace
    rw [if_pos hcases, if_pos hspace]
  · have hcases : ¬(c = ' ' ∨ c = '\t' ∨ c = '\n' ∨ c = '\x0c' ∨ c = '\r') := by
      simpa [isSpace, or_assoc] using hspace
    rw [if_neg hcases, if_neg hspace]

/-- A semicolon is a lexeme of its own, whatever follows it. -/
theorem list_semicolon (rest : List Char) : list (';' :: rest) = .semicolon :: list rest := by
  rw [list_cons]
  rfl

/-- A literal is one lexeme, unless a quote follows it. -/
theorem list_literal (text : List Char) {rest : List Char} (h : rest.head? ≠ some '\'') :
    list (literalChars text ++ rest) = .code (literalChars text) :: list rest := by
  have hcut := cutAfterQuote_doubled '\'' text h
  rw [doubled] at hcut
  rw [literalChars, List.append_assoc, List.cons_append, list_cons, next,
    if_neg fun h => absurd h.1 (by decide), if_neg fun h => absurd h.1 (by decide),
    if_pos (.inl rfl), List.cons_append, List.nil_append, hcut]
  rfl

/-- A body between dollar signs is one lexeme, whatever follows it. -/
theorem list_body {body : List Char} (h : ¬['$', '$'] <:+: body ++ ['$']) (rest : List Char) :
    list ('$' :: '$' :: (body ++ '$' :: '$' :: rest)) =
      .code ('$' :: '$' :: (body ++ ['$', '$'])) :: list rest := by
  have htag : dollarTag? ('$' :: (body ++ '$' :: '$' :: rest)) = some [] := by
    simp [dollarTag?, isTag]
  have hinfix : ¬['$', '$'] <:+: body ++ ['$', '$'].dropLast := h
  have hcut := cutAfter_append_of_not_infix hinfix rest
  rw [list_cons, next, if_neg fun h => absurd h.1 (by decide),
    if_neg fun h => absurd h.1 (by decide), if_neg (by decide), if_pos rfl, htag]
  simp only [List.length_nil, Nat.zero_add, List.drop_succ_cons, List.drop_zero, List.cons_append,
    List.nil_append, List.take_succ_cons, List.take_zero] at hcut ⊢
  rw [hcut]

/-- A comment is one lexeme with the end of its line, whatever follows it. -/
theorem list_comment {line : List Char} (h : '\n' ∉ line) (rest : List Char) :
    list ('-' :: '-' :: (line ++ '\n' :: rest)) =
      .comment ('-' :: '-' :: (line ++ ['\n'])) :: list rest := by
  have hinfix : ¬['\n'] <:+: ('-' :: line) ++ ['\n'].dropLast := by
    rw [List.singleton_infix_iff]
    simpa using h
  have hcut := cutAfter_append_of_not_infix hinfix rest
  rw [list_cons, next, if_pos ⟨rfl, rfl⟩]
  simp only [List.cons_append, List.nil_append] at hcut
  rw [hcut]

end Lexeme

/-! ## Whole texts -/

open Lexeme

/-- Texts whose lexemes end with them, and that end no statement. -/
inductive Whole : List Char → Prop
  /-- The text without characters. -/
  | nil : Whole []
  /-- A character that is a lexeme of its own. -/
  | plain {c : Char} {rest : List Char} (hc : isPlain c = true) (h : Whole rest) : Whole (c :: rest)
  /-- A literal. -/
  | literal (text : List Char) {rest : List Char} (hrest : rest.head? ≠ some '\'')
      (h : Whole rest) : Whole (literalChars text ++ rest)
  /-- A body between dollar signs. -/
  | body {body rest : List Char} (hbody : ¬['$', '$'] <:+: body ++ ['$']) (h : Whole rest) :
      Whole ('$' :: '$' :: (body ++ '$' :: '$' :: rest))
  /-- A comment with the end of its line. -/
  | comment {line rest : List Char} (hline : '\n' ∉ line) (h : Whole rest) :
      Whole ('-' :: '-' :: (line ++ '\n' :: rest))

/-- What stands behind two texts does not start with a quote if the second text does not. -/
theorem head?_append_ne {a b : List Char} {q : Char} (ha : a.head? ≠ some q)
    (hb : b.head? ≠ some q) : (a ++ b).head? ≠ some q := by
  cases a with
  | nil => exact hb
  | cons c a => exact ha

namespace Whole

/-- Two whole texts in a row are whole, unless the second one starts with a quote. -/
theorem append {a b : List Char} (ha : Whole a) (hb : Whole b) (hquote : b.head? ≠ some '\'') :
    Whole (a ++ b) := by
  induction ha with
  | nil => exact hb
  | plain hc _ ih => exact .plain hc ih
  | literal text hrest _ ih =>
    rw [List.append_assoc]
    exact .literal text (head?_append_ne hrest hquote) ih
  | @body body rest hbody _ ih =>
    have heq : '$' :: '$' :: (body ++ '$' :: '$' :: rest) ++ b =
        '$' :: '$' :: (body ++ '$' :: '$' :: (rest ++ b)) := by simp
    exact heq ▸ .body hbody ih
  | @comment line rest hline _ ih =>
    have heq : '-' :: '-' :: (line ++ '\n' :: rest) ++ b =
        '-' :: '-' :: (line ++ '\n' :: (rest ++ b)) := by simp
    exact heq ▸ .comment hline ih

/-- Plain characters in front of a whole text. -/
theorem plain_append {a b : List Char} (ha : a.all isPlain = true) (hb : Whole b) :
    Whole (a ++ b) := by
  induction a with
  | nil => exact hb
  | cons c a ih =>
    rw [List.all_cons, Bool.and_eq_true] at ha
    exact .plain ha.1 (ih ha.2)

/-- Plain characters are whole. -/
theorem of_plain {a : List Char} (ha : a.all isPlain = true) : Whole a :=
  List.append_nil a ▸ plain_append ha .nil

/-- The lexemes of a whole text do not depend on what stands behind it. -/
theorem list_append {text rest : List Char} (h : Whole text) (hrest : rest.head? ≠ some '\'') :
    list (text ++ rest) = list text ++ list rest := by
  induction h with
  | nil => simp
  | plain hc _ ih => rw [List.cons_append, list_plain hc, list_plain hc, ih, List.cons_append]
  | literal text hfollow _ ih =>
    rw [List.append_assoc, list_literal text (head?_append_ne hfollow hrest),
      list_literal text hfollow, ih, List.cons_append]
  | @body body follow hbody _ ih =>
    have heq : '$' :: '$' :: (body ++ '$' :: '$' :: follow) ++ rest =
        '$' :: '$' :: (body ++ '$' :: '$' :: (follow ++ rest)) := by simp
    rw [heq, list_body hbody, list_body hbody, ih, List.cons_append]
  | @comment line follow hline _ ih =>
    have heq : '-' :: '-' :: (line ++ '\n' :: follow) ++ rest =
        '-' :: '-' :: (line ++ '\n' :: (follow ++ rest)) := by simp
    rw [heq, list_comment hline, list_comment hline, ih, List.cons_append]

/-- A whole text ends no statement. -/
theorem semicolon_notMem {text : List Char} (h : Whole text) : .semicolon ∉ list text := by
  induction h with
  | nil => simp
  | plain hc _ ih =>
    rw [list_plain hc, List.mem_cons, not_or]
    refine ⟨?_, ih⟩
    split <;> simp
  | literal text hfollow _ ih => simpa [list_literal text hfollow] using ih
  | body hbody _ ih => simpa [list_body hbody] using ih
  | comment hline _ ih => simpa [list_comment hline] using ih

end Whole

end EntityModel.Sql
