/-! # Lexemes of SQL

A script is a sequence of lexemes, and nothing is lost: their texts join to the script. Quoted text,
comments and bodies between dollar tags are single lexemes; without their end they reach to the end
of the script. -/

namespace EntityModel.Sql

/-- A lexeme of a script. -/
inductive Lexeme where
  /-- ASCII white space. -/
  | blank (c : Char)
  /-- A comment to the end of the line, or between `/*` and `*/`. -/
  | comment (text : List Char)
  /-- A semicolon that ends a statement. -/
  | semicolon
  /-- Everything else. -/
  | code (text : List Char)
  deriving DecidableEq, Repr

namespace Lexeme

/-- The text of a lexeme. -/
def text : Lexeme → List Char
  | .blank c => [c]
  | .comment t => t
  | .semicolon => [';']
  | .code t => t

/-- Whether the lexeme is part of a statement. -/
def isCode : Lexeme → Bool
  | .code _ => true
  | _ => false

/-! ## Ends of lexemes -/

/-- The text up to and with the first occurrence of a pattern, and the rest. -/
def cutAfter (pattern : List Char) : List Char → List Char × List Char
  | [] => ([], [])
  | c :: rest =>
    if pattern.isPrefixOf (c :: rest) then
      ((c :: rest).take pattern.length, (c :: rest).drop pattern.length)
    else (c :: (cutAfter pattern rest).1, (cutAfter pattern rest).2)

/-- The text up to and with the closing quote, and the rest. A doubled quote does not close. -/
def cutAfterQuote (quote : Char) : List Char → List Char × List Char
  | [] => ([], [])
  | c :: rest =>
    if c = quote then
      match rest with
      | [] => ([c], [])
      | d :: rest =>
        if d = quote then
          (c :: d :: (cutAfterQuote quote rest).1, (cutAfterQuote quote rest).2)
        else ([c], d :: rest)
    else (c :: (cutAfterQuote quote rest).1, (cutAfterQuote quote rest).2)

/-- Cutting a text behind a pattern loses nothing. -/
theorem cutAfter_append (pattern text : List Char) :
    (cutAfter pattern text).1 ++ (cutAfter pattern text).2 = text := by
  induction text with
  | nil => rfl
  | cons c rest ih =>
    unfold cutAfter
    split
    · exact List.take_append_drop ..
    · simp [ih]

/-- Cutting a text behind a quote loses nothing. -/
theorem cutAfterQuote_append (quote : Char) (text : List Char) :
    (cutAfterQuote quote text).1 ++ (cutAfterQuote quote text).2 = text := by
  fun_induction cutAfterQuote quote text <;> simp_all

/-- Whether the character may stand in a dollar tag. -/
def isTagChar (c : Char) : Bool := c.isAlphanum || c = '_'

/-- Whether the text is a dollar tag. A tag may be empty and does not start with a digit. -/
def isTag (tag : List Char) : Bool :=
  tag.all isTagChar && !tag.head?.any Char.isDigit

/-- The tag between a dollar sign that was read already and the next one. -/
def dollarTag? (text : List Char) : Option (List Char) :=
  let tag := text.takeWhile (· ≠ '$')
  if tag.length < text.length ∧ isTag tag then some tag else none

/-! ## Scripts -/

/-- The lexeme that starts with the character, and the rest. -/
def next (c : Char) (rest : List Char) : Lexeme × List Char :=
  if c = '-' ∧ rest.head? = some '-' then
    let (body, rest) := cutAfter ['\n'] rest
    (.comment (c :: body), rest)
  else if c = '/' ∧ rest.head? = some '*' then
    -- The asterisk of the opening mark is not the one of the closing mark.
    let (body, after) := cutAfter ['*', '/'] rest.tail
    (.comment (c :: rest.take 1 ++ body), after)
  else if c = '\'' ∨ c = '"' then
    let (body, rest) := cutAfterQuote c rest
    (.code (c :: body), rest)
  else if c = '$' then
    match dollarTag? rest with
    | some tag =>
      let (body, after) := cutAfter ('$' :: tag ++ ['$']) (rest.drop (tag.length + 1))
      (.code (c :: rest.take (tag.length + 1) ++ body), after)
    | none => (.code [c], rest)
  else if c = ';' then (.semicolon, rest)
  else if c = ' ' ∨ c = '\t' ∨ c = '\n' ∨ c = '\x0c' ∨ c = '\r' then (.blank c, rest)
  else (.code [c], rest)

/-- Nothing is lost. -/
theorem next_append (c : Char) (rest : List Char) :
    (next c rest).1.text ++ (next c rest).2 = c :: rest := by
  unfold next
  split
  · simp [text, cutAfter_append]
  split
  · simp only [text, List.cons_append, List.append_assoc, cutAfter_append]
    cases rest <;> simp
  split
  · simp [text, cutAfterQuote_append]
  split
  · split
    · simp only [text, List.cons_append, List.append_assoc, cutAfter_append,
        List.take_append_drop]
    · simp [text]
  split
  · simp_all [text]
  split <;> simp [text]

/-- A lexeme has at least one character. -/
theorem text_next_ne_nil (c : Char) (rest : List Char) : (next c rest).1.text ≠ [] := by
  unfold next
  repeat' split
  all_goals simp [text]

/-- A lexeme leaves less text than there was. -/
theorem length_next (c : Char) (rest : List Char) :
    (next c rest).2.length < (c :: rest).length := by
  rw [← next_append c rest, List.length_append]
  have := List.length_pos_iff.2 (text_next_ne_nil c rest)
  omega

/-- The lexemes of a script. -/
def list : List Char → List Lexeme
  | [] => []
  | c :: rest => (next c rest).1 :: list (next c rest).2
termination_by text => text.length
decreasing_by exact length_next c rest

/-- No text has no lexemes. -/
@[simp] theorem list_nil : list [] = [] := by rw [list]

/-- The lexemes of a text are the first one and those of what it leaves. -/
theorem list_cons (c : Char) (rest : List Char) :
    list (c :: rest) = (next c rest).1 :: list (next c rest).2 := by rw [list]

/-- The texts of the lexemes join to the script. -/
theorem flatMap_text_list (text : List Char) : (list text).flatMap Lexeme.text = text := by
  fun_induction list text with
  | case1 => rfl
  | case2 c rest ih => rw [List.flatMap_cons, ih, next_append]

end Lexeme

end EntityModel.Sql
