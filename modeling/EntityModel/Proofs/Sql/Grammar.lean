import EntityModel.Proofs.Sql.Lexemes

/-! # The grammar of lexemes

What the lexemes of a script are, said without the scanner: quoted texts, comments and bodies
between dollar tags with their closing marks or, at the end of the script, without them, and single
characters where nothing of that kind starts. Every script has lexemes in this sense, and they are
the ones that the scanner finds (`lexes_iff`). A script behind a semicolon that ends a statement has
its own lexemes, whatever stands in front (`Lexes.append`). -/

namespace EntityModel.Sql

open Lexeme

/-! ## Marks -/

/-- The characters that open and close a quoted text. -/
def IsQuote (c : Char) : Prop := c = '\'' ∨ c = '"'

/-- The mark at either end of a body: a tag between dollar signs. -/
def dollarMark (tag : List Char) : List Char := '$' :: tag ++ ['$']

/-- The lexemes that last from an opening mark to the next closing one. -/
inductive Delimited : List Char → List Char → (List Char → Lexeme) → Prop
  /-- A comment to the end of its line. -/
  | line : Delimited ['-', '-'] ['\n'] .comment
  /-- A comment between marks. -/
  | block : Delimited ['/', '*'] ['*', '/'] .comment
  /-- A body between dollar tags. -/
  | body {tag : List Char} (htag : isTag tag = true) :
      Delimited (dollarMark tag) (dollarMark tag) .code

/-- The character is code by itself: neither a quote, a semicolon nor a blank, and no opening mark
starts with it. -/
structure StandsAlone (c : Char) (rest : List Char) : Prop where
  /-- It does not open a quoted text. -/
  quote : ¬IsQuote c
  /-- It does not end a statement. -/
  semicolon : c ≠ ';'
  /-- It is not blank. -/
  space : isSpace c = false
  /-- It opens neither a comment nor a body. -/
  opening : ∀ {opening closing make}, Delimited opening closing make → ¬opening <+: c :: rest

/-- The lexemes of a script. -/
inductive Lexes : List Char → List Lexeme → Prop
  /-- The script without characters. -/
  | nil : Lexes [] []
  /-- A semicolon that ends a statement. -/
  | semicolon {rest : List Char} {ls : List Lexeme} (h : Lexes rest ls) :
      Lexes (';' :: rest) (.semicolon :: ls)
  /-- White space. -/
  | blank {c : Char} {rest : List Char} {ls : List Lexeme} (hc : isSpace c = true)
      (h : Lexes rest ls) : Lexes (c :: rest) (.blank c :: ls)
  /-- Any other character by itself. -/
  | single {c : Char} {rest : List Char} {ls : List Lexeme} (hc : StandsAlone c rest)
      (h : Lexes rest ls) : Lexes (c :: rest) (.code [c] :: ls)
  /-- A quoted text. No quote follows the closing one. -/
  | quoted {q : Char} {rest : List Char} {ls : List Lexeme} (hq : IsQuote q) (text : List Char)
      (hrest : rest.head? ≠ some q) (h : Lexes rest ls) :
      Lexes (q :: (doubled q text ++ q :: rest)) (.code (q :: (doubled q text ++ [q])) :: ls)
  /-- A quoted text without its end. -/
  | openQuoted {q : Char} (hq : IsQuote q) (text : List Char) :
      Lexes (q :: doubled q text) [.code (q :: doubled q text)]
  /-- A comment or a body. It ends with the first closing mark. -/
  | delimited {opening closing inner rest : List Char} {make : List Char → Lexeme}
      {ls : List Lexeme} (hd : Delimited opening closing make)
      (hinner : ¬closing <:+: inner ++ closing.dropLast) (h : Lexes rest ls) :
      Lexes (opening ++ (inner ++ (closing ++ rest))) (make (opening ++ (inner ++ closing)) :: ls)
  /-- A comment or a body without its end. -/
  | openDelimited {opening closing inner : List Char} {make : List Char → Lexeme}
      (hd : Delimited opening closing make) (hinner : ¬closing <:+: inner) :
      Lexes (opening ++ inner) [make (opening ++ inner)]

/-! ## Ends of lexemes -/

namespace Delimited

variable {opening closing : List Char} {make : List Char → Lexeme}

/-- What ends a delimited text is not empty. -/
theorem closing_ne_nil (h : Delimited opening closing make) : closing ≠ [] := by
  cases h <;> simp [dollarMark]

/-- No mark has a semicolon. -/
theorem semicolon_notMem (h : Delimited opening closing make) : ';' ∉ opening := by
  cases h with
  | line => decide
  | block => decide
  | @body tag htag =>
    have hall := (Bool.and_eq_true_iff.1 htag).1
    intro hmem
    simp only [dollarMark, List.cons_append, List.mem_cons, List.mem_append, List.not_mem_nil,
      or_false] at hmem
    rcases hmem with hdollar | htag | hdollar
    · exact absurd hdollar (by decide)
    · exact absurd (List.all_eq_true.1 hall ';' htag) (by decide)
    · exact absurd hdollar (by decide)

/-- A delimited text is no semicolon. -/
theorem make_ne_semicolon (h : Delimited opening closing make) (text : List Char) :
    make text ≠ .semicolon := by
  cases h <;> simp

end Delimited

/-- A pattern stands somewhere in a text or not at all; the text is cut behind its first place. -/
theorem cutAfter_cases {pattern : List Char} (hne : pattern ≠ []) (text : List Char) :
    (∃ inner rest, text = inner ++ (pattern ++ rest) ∧
      ¬pattern <:+: inner ++ pattern.dropLast ∧ cutAfter pattern text = (inner ++ pattern, rest)) ∨
    ¬pattern <:+: text ∧ cutAfter pattern text = (text, []) := by
  induction text with
  | nil => exact .inr ⟨by simpa using hne, rfl⟩
  | cons c text ih =>
    by_cases hprefix : pattern <+: c :: text
    · obtain ⟨rest, hrest⟩ := hprefix
      have hinner : ¬pattern <:+: [] ++ pattern.dropLast := fun hinfix => by
        have hlength := hinfix.length_le
        have hpos := List.length_pos_iff.2 hne
        rw [List.nil_append, List.length_dropLast] at hlength
        omega
      refine .inl ⟨[], rest, hrest.symm, hinner, ?_⟩
      have hcut := cutAfter_append_of_not_infix hinner rest
      rwa [List.nil_append, hrest] at hcut
    · rw [cutAfter, if_neg (mt List.isPrefixOf_iff_prefix.1 hprefix)]
      rcases ih with ⟨inner, rest, rfl, hinner, hcut⟩ | ⟨htext, hcut⟩
      · refine .inl ⟨c :: inner, rest, rfl, fun hinfix => ?_, by rw [hcut]; rfl⟩
        rcases List.infix_cons_iff.1 hinfix with hstart | hinfix
        · -- The text goes on with the last character of the pattern.
          refine hprefix (hstart.trans ⟨pattern.getLast hne :: rest, ?_⟩)
          nth_rewrite 3 [← List.dropLast_append_getLast hne]
          simp
        · exact hinner hinfix
      · refine .inr ⟨fun hinfix => ?_, by rw [hcut]⟩
        rcases List.infix_cons_iff.1 hinfix with hstart | hinfix
        · exact hprefix hstart
        · exact htext hinfix

/-- Without the pattern nothing is cut off. -/
theorem cutAfter_of_not_infix {pattern text : List Char} (hne : pattern ≠ [])
    (h : ¬pattern <:+: text) : cutAfter pattern text = (text, []) := by
  rcases cutAfter_cases hne text with ⟨inner, rest, rfl, -, -⟩ | ⟨-, hcut⟩
  · exact absurd ⟨inner, rest, by simp⟩ h
  · exact hcut

/-- A quoted text without its end goes on to the end of the script. -/
theorem cutAfterQuote_open (q : Char) (text : List Char) :
    cutAfterQuote q (doubled q text) = (doubled q text, []) := by
  induction text with
  | nil => rfl
  | cons c text ih =>
    rw [doubled] at ih ⊢
    by_cases hc : c = q
    · subst hc
      simp [cutAfterQuote, ih]
    · rw [List.flatMap_cons, if_neg hc, List.cons_append, List.nil_append,
        cutAfterQuote_cons_of_ne hc, ih]

/-- Every text is cut behind a closing quote, or all of it is quoted. -/
theorem cutAfterQuote_cases (q : Char) (text : List Char) :
    (∃ inner rest, text = doubled q inner ++ q :: rest ∧ rest.head? ≠ some q ∧
      cutAfterQuote q text = (doubled q inner ++ [q], rest)) ∨
    ∃ inner, text = doubled q inner ∧ cutAfterQuote q text = (text, []) := by
  fun_induction cutAfterQuote q text with
  | case1 => exact .inr ⟨[], rfl, rfl⟩
  -- A closing quote at the end.
  | case2 => exact .inl ⟨[], [], rfl, by simp, rfl⟩
  | case3 rest ih =>
    -- Two quotes stand for one.
    rcases ih with ⟨inner, rest, rfl, hrest, hcut⟩ | ⟨inner, rfl, hcut⟩
    · rw [hcut]
      exact .inl ⟨q :: inner, rest, by simp [doubled], hrest, by simp [doubled]⟩
    · exact .inr ⟨q :: inner, by simp [doubled], by rw [hcut]⟩
  -- A closing quote in front of other text.
  | case4 d rest hd => exact .inl ⟨[], d :: rest, rfl, by simpa using hd, rfl⟩
  | case5 c rest hc ih =>
    rcases ih with ⟨inner, rest, rfl, hrest, hcut⟩ | ⟨inner, rfl, hcut⟩
    · rw [hcut]
      exact .inl ⟨c :: inner, rest, by simp [doubled, hc], hrest, by simp [doubled, hc]⟩
    · exact .inr ⟨c :: inner, by simp [doubled, hc], by rw [hcut]⟩

/-- A dollar sign is followed by a tag if it starts the mark of one. -/
theorem dollarTag?_eq_some_iff {text tag : List Char} :
    dollarTag? text = some tag ↔ isTag tag = true ∧ dollarMark tag <+: '$' :: text := by
  have hdollar : ∀ c : Char, isTagChar c = true → c ≠ '$' := by
    rintro c hc rfl
    exact absurd hc (by decide)
  dsimp only [dollarTag?]
  constructor
  · intro h
    split at h
    · rename_i hfound
      obtain rfl := Option.some.inj h
      refine ⟨hfound.2, (List.prefix_cons_inj _).2 ?_⟩
      -- There is a dollar sign behind the tag, for the text is longer.
      have hdrop : text.dropWhile (· ≠ '$') ≠ [] := fun hnil => by
        have hall := congrArg List.length
          (List.takeWhile_append_dropWhile (p := (· ≠ '$')) (l := text))
        rw [hnil, List.append_nil] at hall
        omega
      obtain ⟨after, hafter⟩ : ∃ after, text.dropWhile (· ≠ '$') = '$' :: after := by
        obtain ⟨d, after, hafter⟩ := List.exists_cons_of_ne_nil hdrop
        have hd := List.head_dropWhile_not (· ≠ '$') hdrop
        simp only [hafter, List.head_cons, decide_eq_false_iff_not, not_not] at hd
        exact ⟨after, hd ▸ hafter⟩
      refine ⟨after, ?_⟩
      conv_rhs => rw [← List.takeWhile_append_dropWhile (p := (· ≠ '$')) (l := text), hafter]
      simp
    · cases h
  · rintro ⟨htag, hprefix⟩
    obtain ⟨after, rfl⟩ : tag ++ ['$'] <+: text := (List.prefix_cons_inj _).1 hprefix
    have hall := List.all_eq_true.1 (Bool.and_eq_true_iff.1 htag).1
    -- No character of a tag is a dollar sign, so the tag ends at the first one.
    have htake : (tag ++ ['$'] ++ after).takeWhile (· ≠ '$') = tag := by
      rw [List.append_assoc, List.takeWhile_append_of_pos fun c hc => by
        simpa using hdollar c (hall c hc)]
      simp
    rw [htake, if_pos ⟨by simp, htag⟩]

/-! ## First lexemes -/

/-- The scanner reads from an opening mark to the next closing one. -/
theorem next_delimited {opening closing : List Char} {make : List Char → Lexeme}
    (h : Delimited opening closing make) {c : Char} {rest text : List Char}
    (heq : c :: rest = opening ++ text) :
    next c rest = (make (opening ++ (cutAfter closing text).1), (cutAfter closing text).2) := by
  cases h with
  | line =>
    obtain ⟨rfl, rfl⟩ := List.cons.inj heq
    -- The scanner looks for the line feed from the second hyphen on.
    have hcut : cutAfter ['\n'] ('-' :: text) =
        ('-' :: (cutAfter ['\n'] text).1, (cutAfter ['\n'] text).2) := by
      rw [cutAfter.eq_def]
      rfl
    change next '-' ('-' :: text) = _
    rw [next, if_pos ⟨rfl, rfl⟩, hcut]
    rfl
  | block =>
    obtain ⟨rfl, rfl⟩ := List.cons.inj heq
    rw [next, if_neg fun h => absurd h.1 (by decide), if_pos ⟨rfl, rfl⟩]
    rfl
  | @body tag htag =>
    have htext : dollarMark tag ++ text = '$' :: (tag ++ '$' :: text) := by simp [dollarMark]
    rw [htext] at heq
    obtain ⟨rfl, rfl⟩ := List.cons.inj heq
    have hfound : dollarTag? (tag ++ '$' :: text) = some tag :=
      dollarTag?_eq_some_iff.2 ⟨htag, text, htext⟩
    have hdrop : (tag ++ '$' :: text).drop (tag.length + 1) = text := by
      simp [List.drop_append]
    have htake : (tag ++ '$' :: text).take (tag.length + 1) = tag ++ ['$'] := by
      simp [List.take_append]
    rw [next, if_neg fun h => absurd h.1 (by decide), if_neg fun h => absurd h.1 (by decide),
      if_neg (by decide), if_pos rfl, hfound]
    simp only [hdrop, htake]
    simp [dollarMark]

/-- A quote starts a literal or a quoted name. -/
theorem next_quote {q : Char} (hq : IsQuote q) (rest : List Char) :
    next q rest = (.code (q :: (cutAfterQuote q rest).1), (cutAfterQuote q rest).2) := by
  have hdash : ¬(q = '-' ∧ rest.head? = some '-') := by
    rintro ⟨rfl, -⟩
    exact absurd hq (by simp [IsQuote])
  have hslash : ¬(q = '/' ∧ rest.head? = some '*') := by
    rintro ⟨rfl, -⟩
    exact absurd hq (by simp [IsQuote])
  have hquote : q = '\'' ∨ q = '"' := hq
  rw [next, if_neg hdash, if_neg hslash, if_pos hquote]

/-- White space is a lexeme of its own. -/
theorem next_space {c : Char} (hc : isSpace c = true) (rest : List Char) :
    next c rest = (.blank c, rest) := by
  have hcases : c = ' ' ∨ c = '\t' ∨ c = '\n' ∨ c = '\x0c' ∨ c = '\r' := by
    simpa [isSpace, or_assoc] using hc
  rcases hcases with rfl | rfl | rfl | rfl | rfl <;> rfl

/-- A character that starts nothing is a lexeme of its own. -/
theorem next_standsAlone {c : Char} {rest : List Char} (h : StandsAlone c rest) :
    next c rest = (.code [c], rest) := by
  have hstarts : ∀ d : Char, rest.head? = some d → [c, d] <+: c :: rest := by
    intro d hd
    obtain ⟨after, rfl⟩ := List.head?_eq_some_iff.1 hd
    exact ⟨after, rfl⟩
  have hdash : ¬(c = '-' ∧ rest.head? = some '-') := by
    rintro ⟨rfl, hd⟩
    exact h.opening .line (hstarts '-' hd)
  have hslash : ¬(c = '/' ∧ rest.head? = some '*') := by
    rintro ⟨rfl, hd⟩
    exact h.opening .block (hstarts '*' hd)
  have hspace : ¬(c = ' ' ∨ c = '\t' ∨ c = '\n' ∨ c = '\x0c' ∨ c = '\r') := by
    simpa [isSpace, and_assoc] using h.space
  have hquote : ¬(c = '\'' ∨ c = '"') := h.quote
  rw [next, if_neg hdash, if_neg hslash, if_neg hquote]
  by_cases hdollar : c = '$'
  · subst hdollar
    rw [if_pos rfl]
    cases htag : dollarTag? rest with
    | none => rfl
    | some tag =>
      obtain ⟨htag, hprefix⟩ := dollarTag?_eq_some_iff.1 htag
      exact absurd hprefix (h.opening (.body htag))
  · rw [if_neg hdollar, if_neg h.semicolon, if_neg hspace]

/-! ## Scripts -/

/-- The scanner finds the lexemes that the grammar gives to a script. -/
theorem Lexes.list_eq {text : List Char} {ls : List Lexeme} (h : Lexes text ls) :
    list text = ls := by
  induction h with
  | nil => exact list_nil
  | semicolon _ ih => rw [list_semicolon, ih]
  | blank hc _ ih => rw [list_cons, next_space hc, ih]
  | single hc _ ih => rw [list_cons, next_standsAlone hc, ih]
  | quoted hq text hrest _ ih =>
    rw [list_cons, next_quote hq, cutAfterQuote_doubled _ text hrest, ih]
  | openQuoted hq text => rw [list_cons, next_quote hq, cutAfterQuote_open, list_nil]
  | @delimited opening closing inner rest make ls hd hinner _ ih =>
    have hcut := cutAfter_append_of_not_infix hinner rest
    cases hscript : opening ++ (inner ++ (closing ++ rest)) with
    | nil => cases hd <;> simp [dollarMark] at hscript
    | cons c script => rw [list_cons, next_delimited hd hscript.symm, hcut, ih]
  | @openDelimited opening closing inner make hd hinner =>
    have hcut := cutAfter_of_not_infix hd.closing_ne_nil hinner
    cases hscript : opening ++ inner with
    | nil => cases hd <;> simp [dollarMark] at hscript
    | cons c script => rw [list_cons, next_delimited hd hscript.symm, hcut, hscript, list_nil]

/-- The lexemes that the scanner finds are those of the grammar. -/
theorem lexes_list (text : List Char) : Lexes text (list text) := by
  fun_induction list text with
  | case1 => exact .nil
  | case2 c rest ih =>
    -- What the text starts with tells the lexeme: an opening mark, a quote, a semicolon, a blank,
    -- or a character that stands alone.
    by_cases hopening : ∃ opening closing make text, Delimited opening closing make ∧
        c :: rest = opening ++ text
    · obtain ⟨opening, closing, make, text, hd, htext⟩ := hopening
      have hnext := next_delimited hd htext
      rw [hnext] at ih ⊢
      rcases cutAfter_cases hd.closing_ne_nil text with
        ⟨inner, rest', rfl, hinner, hcut⟩ | ⟨hinner, hcut⟩
      · rw [hcut] at ih ⊢
        exact htext ▸ .delimited hd hinner ih
      · rw [hcut, list_nil, htext]
        exact .openDelimited hd hinner
    · by_cases hq : IsQuote c
      · rw [next_quote hq] at ih ⊢
        rcases cutAfterQuote_cases c rest with ⟨inner, rest', rfl, hrest, hcut⟩ | ⟨inner, rfl, hcut⟩
        · rw [hcut] at ih ⊢
          exact .quoted hq inner hrest ih
        · rw [hcut, list_nil]
          exact .openQuoted hq inner
      · by_cases hsemicolon : c = ';'
        · subst hsemicolon
          exact .semicolon ih
        · cases hspace : isSpace c with
          | true =>
            rw [next_space hspace] at ih ⊢
            exact .blank hspace ih
          | false =>
            have halone : StandsAlone c rest := by
              refine ⟨hq, hsemicolon, hspace, fun hd hopens => ?_⟩
              obtain ⟨after, hafter⟩ := hopens
              exact hopening ⟨_, _, _, after, hd, hafter.symm⟩
            rw [next_standsAlone halone] at ih ⊢
            exact .single halone ih

/-- **Every script has lexemes, and the scanner finds them.** -/
theorem lexes_iff {text : List Char} {ls : List Lexeme} : Lexes text ls ↔ list text = ls :=
  ⟨Lexes.list_eq, fun h => h ▸ lexes_list text⟩

/-! ## Scripts behind each other -/

/-- Where a semicolon follows, the next text does not decide what starts with a character. -/
theorem StandsAlone.append {c : Char} {rest : List Char}
    (h : StandsAlone c rest) (hrest : ';' ∈ rest) (b : List Char) : StandsAlone c (rest ++ b) := by
  refine ⟨h.quote, h.semicolon, h.space, fun hd hprefix => ?_⟩
  rcases List.prefix_or_prefix_of_prefix hprefix (List.prefix_append (c :: rest) b) with
    hstart | hover
  · exact h.opening hd hstart
  · exact hd.semicolon_notMem (hover.subset (List.mem_cons_of_mem c hrest))

namespace Lexes

variable {a b : List Char} {as bs : List Lexeme}

/-- The texts of the lexemes join to the text that they are read from. -/
theorem flatMap_text (h : Lexes a as) : as.flatMap Lexeme.text = a :=
  h.list_eq ▸ flatMap_text_list a

/-- Behind a lexeme that is no semicolon, the last lexeme of the rest is the last one. -/
theorem getLast?_of_cons {l : Lexeme} (h : (l :: as).getLast? = some .semicolon)
    (hl : l ≠ .semicolon) : as.getLast? = some .semicolon := by
  cases as with
  | nil => exact absurd (Option.some.inj h) hl
  | cons l' as => rwa [List.getLast?_cons_cons] at h

/-- Where a semicolon is the last lexeme, the text has one. -/
theorem semicolon_mem (h : Lexes a as) (hlast : as.getLast? = some .semicolon) : ';' ∈ a := by
  rw [← h.flatMap_text]
  exact List.mem_flatMap.2 ⟨.semicolon, List.mem_of_getLast? hlast, by simp [Lexeme.text]⟩

/-- **Behind a semicolon that ends a statement, scanning starts anew.** -/
theorem append (ha : Lexes a as) (hlast : as.getLast? = some .semicolon) (hb : Lexes b bs) :
    Lexes (a ++ b) (as ++ bs) := by
  induction ha with
  | nil => cases hlast
  | @semicolon rest ls h ih =>
    -- The last semicolon, or one with others behind it.
    by_cases hls : ls = []
    · subst hls
      have hrest : rest = [] := h.flatMap_text.symm
      subst hrest
      exact .semicolon hb
    · obtain ⟨l, ls, rfl⟩ := List.exists_cons_of_ne_nil hls
      exact .semicolon (ih hlast)
  | blank hc _ ih => exact .blank hc (ih (getLast?_of_cons hlast (by simp)))
  | single hc h ih =>
    have hrest := getLast?_of_cons hlast (by simp)
    exact .single (hc.append (h.semicolon_mem hrest) b) (ih hrest)
  | @quoted q rest ls hq text hhead h ih =>
    have hrest := getLast?_of_cons hlast (by simp)
    have hhead' : (rest ++ b).head? ≠ some q := by
      rw [List.head?_append_of_ne_nil _ (List.ne_nil_of_mem (h.semicolon_mem hrest))]
      exact hhead
    have hquoted := Lexes.quoted hq text hhead' (ih hrest)
    simpa using hquoted
  -- What is not closed would be the last lexeme.
  | openQuoted hq text => simp at hlast
  | @delimited opening closing inner rest make ls hd hinner h ih =>
    have hlast' := getLast?_of_cons hlast (hd.make_ne_semicolon _)
    have hdelimited := Lexes.delimited hd hinner (ih hlast')
    simpa using hdelimited
  | openDelimited hd hinner => exact absurd (Option.some.inj hlast) (hd.make_ne_semicolon _)

end Lexes

end EntityModel.Sql
