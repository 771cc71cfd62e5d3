import EntityModel.Proofs.Sql.Chunks
import EntityModel.Proofs.Text.Trim

/-! # Splitting a statement again

Trimming a piece of a script takes white space away at its ends and leaves its other lexemes as they
are, so that a statement has no semicolon that would cut it again. But white space outside of ASCII,
and the vertical tab, are code to the scanner and blanks to trimming. Where such characters at the
ends of a piece were its only code, the statement is left without any, and splitting it again gives
nothing; every other statement is split into itself (`splitStatements_again_iff`). -/

namespace EntityModel.Sql

open Lexeme Text

/-! ## White space -/

/-- Whether the lexeme is nothing but white space. It may be code, since the scanner takes only some
of the white space for blanks. -/
def Lexeme.isGap (l : Lexeme) : Bool := l.text.all isBlank

/-- A lexeme with a character that is no blank is no gap. -/
theorem isGap_eq_false {l : Lexeme} {c : Char} (hmem : c ∈ l.text) (hc : isBlank c = false) :
    l.isGap = false :=
  List.all_eq_false.2 ⟨c, hmem, by simp [hc]⟩

/-- Quotes are no blanks. -/
theorem isBlank_quote {q : Char} (hq : IsQuote q) : isBlank q = false := by
  rcases hq with rfl | rfl <;> decide

namespace Delimited

variable {opening closing : List Char} {make : List Char → Lexeme}

/-- The text of a delimited lexeme is the one that it is made of. -/
theorem text_make (h : Delimited opening closing make) (text : List Char) :
    (make text).text = text := by
  cases h <;> rfl

/-- Whether a delimited lexeme is code does not depend on its text. -/
theorem isCode_make (h : Delimited opening closing make) (text other : List Char) :
    (make text).isCode = (make other).isCode := by
  cases h <;> rfl

/-- An opening mark starts and ends with characters that are not blank. -/
theorem exists_opening (h : Delimited opening closing make) :
    ∃ c mark d, opening = c :: (mark ++ [d]) ∧ isBlank c = false ∧ isBlank d = false := by
  cases h with
  | line => exact ⟨'-', [], '-', rfl, by decide, by decide⟩
  | block => exact ⟨'/', [], '*', rfl, by decide, by decide⟩
  | @body tag htag => exact ⟨'$', tag, '$', rfl, by decide, by decide⟩

/-- A closing mark ends with a character that is not blank, or it is the end of a line. -/
theorem exists_closing (h : Delimited opening closing make) :
    closing = ['\n'] ∨ ∃ mark d, closing = mark ++ [d] ∧ isBlank d = false := by
  cases h with
  | line => exact .inl rfl
  | block => exact .inr ⟨['*'], '/', rfl, by decide⟩
  | @body tag htag => exact .inr ⟨'$' :: tag, '$', rfl, by decide⟩

/-- A delimited lexeme is no gap. -/
theorem isGap_make (h : Delimited opening closing make) (text : List Char) :
    (make (opening ++ text)).isGap = false := by
  obtain ⟨c, mark, d, rfl, hc, -⟩ := h.exists_opening
  exact isGap_eq_false (c := c) (by simp [h.text_make]) hc

end Delimited

/-! ## Parts of scripts -/

/-- No text has no lexemes. -/
theorem Lexes.nil_eq {ls : List Lexeme} (h : Lexes [] ls) : ls = [] := by
  rw [← h.list_eq, list_nil]

/-- No lexeme is empty. -/
theorem Lexes.text_ne_nil {text : List Char} {ls : List Lexeme} (h : Lexes text ls) :
    ∀ l ∈ ls, l.text ≠ [] := by
  rw [← h.list_eq]
  clear h
  fun_induction list text with
  | case1 => simp
  | case2 c rest ih => exact List.forall_mem_cons.2 ⟨text_next_ne_nil c rest, ih⟩

/-- What begins where a character stands alone, it stands alone in front of less. -/
theorem StandsAlone.of_append {c : Char} {rest more : List Char}
    (h : StandsAlone c (rest ++ more)) :
    StandsAlone c rest :=
  ⟨h.quote, h.semicolon, h.space, fun hd hopens =>
    h.opening hd (hopens.trans (List.prefix_append (c :: rest) more))⟩

/-- The first lexemes of a script are those of their own text. -/
theorem Lexes.of_append_left {text : List Char} {as bs : List Lexeme} (h : Lexes text (as ++ bs)) :
    Lexes (as.flatMap Lexeme.text) as := by
  induction as generalizing text with
  | nil => exact .nil
  | cons l as ih =>
    rw [List.cons_append] at h
    rw [List.flatMap_cons]
    generalize hmore : as ++ bs = more at h
    cases h with
    | semicolon h => exact .semicolon (ih (hmore ▸ h))
    | blank hc h => exact .blank hc (ih (hmore ▸ h))
    -- A character stands alone in front of less text, too.
    | single hc h =>
      rw [← h.flatMap_text, ← hmore, List.flatMap_append] at hc
      exact .single hc.of_append (ih (hmore ▸ h))
    | @quoted q rest _ hq text hrest h =>
      have hhead : (as.flatMap Lexeme.text).head? ≠ some q := by
        rw [← h.flatMap_text, ← hmore, List.flatMap_append] at hrest
        cases htext : as.flatMap Lexeme.text with
        | nil => simp
        | cons d more => simpa [htext] using hrest
      have hquoted := Lexes.quoted hq text hhead (ih (hmore ▸ h))
      simpa [Lexeme.text] using hquoted
    | openQuoted hq text =>
      -- Nothing follows a quote that is not closed.
      obtain ⟨rfl, -⟩ := List.append_eq_nil_iff.1 hmore
      simpa [Lexeme.text] using Lexes.openQuoted hq text
    | delimited hd hinner h =>
      have hdelimited := Lexes.delimited hd hinner (ih (hmore ▸ h))
      simpa [hd.text_make] using hdelimited
    | openDelimited hd hinner =>
      obtain ⟨rfl, -⟩ := List.append_eq_nil_iff.1 hmore
      simpa [hd.text_make] using Lexes.openDelimited hd hinner

/-- The last lexemes of a script are those of their own text. -/
theorem Lexes.of_append_right {text : List Char} {as bs : List Lexeme}
    (h : Lexes text (as ++ bs)) : Lexes (bs.flatMap Lexeme.text) bs := by
  induction as generalizing text with
  | nil => exact h.flatMap_text ▸ h
  | cons l as ih =>
    rw [List.cons_append] at h
    generalize hmore : as ++ bs = more at h
    cases h with
    | semicolon h | blank _ h | single _ h | quoted _ _ _ h | delimited _ _ h =>
      exact ih (hmore ▸ h)
    | openQuoted | openDelimited =>
      obtain ⟨-, rfl⟩ := List.append_eq_nil_iff.1 hmore
      exact .nil

/-- Lexemes that follow each other in a script are those of their own text. -/
theorem Lexes.of_part {text : List Char} {ls part : List Lexeme} (h : Lexes text ls)
    (hpart : part <:+: ls) : Lexes (part.flatMap Lexeme.text) part := by
  obtain ⟨front, back, rfl⟩ := hpart
  exact h.of_append_left.of_append_right

/-- A chunk between semicolons has none itself. -/
theorem infix_of_mem_splitOn {ls chunk : List Lexeme} (h : chunk ∈ ls.splitOn .semicolon) :
    chunk <:+: ls ∧ .semicolon ∉ chunk := by
  induction hlength : ls.length using Nat.strong_induction_on generalizing ls with
  | _ n ih =>
    by_cases hmem : .semicolon ∈ ls
    · obtain ⟨front, back, rfl, hfront⟩ := List.eq_append_cons_of_mem hmem
      rw [List.splitOn_eq_splitOnP, List.splitOnP_append_cons front back (by simp),
        ← List.splitOn_eq_splitOnP, ← List.splitOn_eq_splitOnP, splitOn_of_notMem hfront,
        List.mem_append, List.mem_singleton] at h
      rcases h with rfl | h
      · exact ⟨(List.prefix_append ..).isInfix, hfront⟩
      · obtain ⟨hpart, hchunk⟩ := ih back.length (by simp [← hlength]; omega) h rfl
        have hback : back <:+ front ++ .semicolon :: back :=
          (List.suffix_cons ..).trans (List.suffix_append ..)
        exact ⟨hpart.trans hback.isInfix, hchunk⟩
    · rw [splitOn_of_notMem hmem, List.mem_singleton] at h
      subst h
      exact ⟨List.infix_rfl, hmem⟩

/-! ## Trimming at the start -/

/-- A blank is a lexeme of its own. -/
theorem Lexes.of_blank {c : Char} {rest : List Char} {ls : List Lexeme} (h : Lexes (c :: rest) ls)
    (hc : isBlank c = true) : ∃ l more, ls = l :: more ∧ l.isGap = true ∧ Lexes rest more := by
  generalize htext : c :: rest = text at h
  cases h with
  | nil => cases htext
  | semicolon h =>
    obtain ⟨rfl, rfl⟩ := List.cons.inj htext
    exact absurd hc (by decide)
  | blank hspace h =>
    obtain ⟨rfl, rfl⟩ := List.cons.inj htext
    exact ⟨_, _, rfl, by simp [isGap, Lexeme.text, hc], h⟩
  | single halone h =>
    obtain ⟨rfl, rfl⟩ := List.cons.inj htext
    exact ⟨_, _, rfl, by simp [isGap, Lexeme.text, hc], h⟩
  -- Quotes and opening marks are no blanks.
  | quoted hq text hrest h =>
    obtain ⟨rfl, rfl⟩ := List.cons.inj htext
    rw [isBlank_quote hq] at hc
    cases hc
  | openQuoted hq text =>
    obtain ⟨rfl, rfl⟩ := List.cons.inj htext
    rw [isBlank_quote hq] at hc
    cases hc
  | delimited hd hinner h =>
    obtain ⟨d, mark, e, rfl, hd, -⟩ := hd.exists_opening
    obtain ⟨rfl, -⟩ := List.cons.inj htext
    rw [hd] at hc
    cases hc
  | openDelimited hd hinner =>
    obtain ⟨d, mark, e, rfl, hd, -⟩ := hd.exists_opening
    obtain ⟨rfl, -⟩ := List.cons.inj htext
    rw [hd] at hc
    cases hc

/-- The character that a script starts with is in its first lexeme. -/
theorem Lexes.isGap_of_not_blank {c : Char} {rest : List Char} {ls : List Lexeme}
    (h : Lexes (c :: rest) ls) (hc : isBlank c = false) : ls.dropWhile isGap = ls := by
  have hls := h.list_eq
  rw [list_cons] at hls
  have hfirst : (next c rest).1.isGap = false := by
    obtain ⟨d, more, hmore⟩ := List.exists_cons_of_ne_nil (text_next_ne_nil c rest)
    have happend := next_append c rest
    rw [hmore, List.cons_append] at happend
    obtain ⟨rfl, -⟩ := List.cons.inj happend
    exact isGap_eq_false (hmore ▸ List.mem_cons_self) hc
  rw [← hls, List.dropWhile_cons_of_neg (by simp [hfirst])]

/-- Trimming at the start takes the lexemes away that are white space. -/
theorem Lexes.trimStart {text : List Char} {ls : List Lexeme} (h : Lexes text ls) :
    Lexes (Text.trimStart text) (ls.dropWhile isGap) := by
  induction text generalizing ls with
  | nil =>
    rw [h.nil_eq]
    exact .nil
  | cons c rest ih =>
    cases hc : isBlank c with
    | true =>
      obtain ⟨l, more, rfl, hl, hmore⟩ := h.of_blank hc
      rw [trimStart_cons_of_blank hc, List.dropWhile_cons_of_pos hl]
      exact ih hmore
    | false =>
      rw [h.isGap_of_not_blank hc, Text.trimStart, List.dropWhile_cons_of_neg (by simp [hc])]
      exact h

/-! ## Trimming at the end -/

/-- What is left of lexemes without the blank at the end of their text: the last lexeme is gone, if
it was that blank, or it is shorter, and still there. -/
inductive Shortened : List Lexeme → List Lexeme → Prop
  /-- The last lexeme was the blank. -/
  | drop (front : List Lexeme) {l : Lexeme} (hl : l.isGap = true) : Shortened (front ++ [l]) front
  /-- The last lexeme was more than the blank. -/
  | cut (front : List Lexeme) {l l' : Lexeme} (hl : l.isGap = false) (hl' : l'.isGap = false)
      (hcode : l'.isCode = l.isCode) (hne : l' ≠ .semicolon) :
      Shortened (front ++ [l]) (front ++ [l'])

namespace Shortened

variable {ls ls' : List Lexeme}

/-- Lexemes behind another one may be shortened as they could without it. -/
theorem cons (h : Shortened ls ls') (l : Lexeme) : Shortened (l :: ls) (l :: ls') := by
  cases h with
  | drop _ hl => exact .drop (l :: ls') hl
  | cut front hl hl' hcode hne => exact .cut (l :: front) hl hl' hcode hne

/-- Shortening adds no semicolon. -/
theorem semicolon_notMem (h : Shortened ls ls') (hls : .semicolon ∉ ls) : .semicolon ∉ ls' := by
  cases h with
  | drop _ hl => exact fun hmem => hls (List.mem_append_left _ hmem)
  | cut front hl hl' hcode hne =>
    intro hmem
    rcases List.mem_append.1 hmem with hmem | hmem
    · exact hls (List.mem_append_left _ hmem)
    · exact hne (List.mem_singleton.1 hmem).symm

/-- No code is lost but white space at the end. -/
theorem hasCode_eq (h : Shortened ls ls') :
    hasCode (ls'.rdropWhile isGap) = hasCode (ls.rdropWhile isGap) := by
  cases h with
  | drop _ hl => rw [List.rdropWhile_concat_pos _ _ _ hl]
  | cut front hl hl' hcode hne =>
    rw [List.rdropWhile_concat_neg _ _ _ (by simp [hl']),
      List.rdropWhile_concat_neg _ _ _ (by simp [hl]), hasCode_append, hasCode_append]
    simp [hasCode, hcode]

end Shortened

/-- A blank differs from what is no blank. -/
theorem ne_of_isBlank {c d : Char} (hc : isBlank c = true) (hd : isBlank d = false) : c ≠ d := by
  rintro rfl
  exact Bool.false_ne_true (hd.symm.trans hc)

/-- A quoted text without its end is still one when a blank at the end is gone. -/
theorem exists_shortened_of_openQuoted {q c : Char} {inner text : List Char} (hq : IsQuote q)
    (hc : isBlank c = true) (htext : text ++ [c] = q :: doubled q inner) :
    ∃ ls', Lexes text ls' ∧ Shortened [.code (q :: doubled q inner)] ls' := by
  have hne := ne_of_isBlank hc (isBlank_quote hq)
  have hgap : ∀ inner, Lexeme.isGap (.code (q :: doubled q inner)) = false := fun inner =>
    isGap_eq_false List.mem_cons_self (isBlank_quote hq)
  rcases List.eq_nil_or_concat' inner with rfl | ⟨inner, d, rfl⟩
  · have hend : text ++ [c] = [] ++ [q] := htext
    exact absurd (List.append_singleton_inj.1 hend).2 hne
  · by_cases hd : d = q
    · -- The quote at the end is doubled.
      subst hd
      have hend : text ++ [c] = (d :: doubled d inner ++ [d]) ++ [d] := by simp [htext, doubled]
      exact absurd (List.append_singleton_inj.1 hend).2 hne
    · have hend : text ++ [c] = (q :: doubled q inner) ++ [d] := by simp [htext, doubled, hd]
      obtain ⟨rfl, rfl⟩ := List.append_singleton_inj.1 hend
      exact ⟨_, .openQuoted hq inner, .cut [] (hgap _) (hgap _) rfl (by simp)⟩

/-- A comment or a body is still one when a blank at its end is gone, if it then has no end. -/
theorem Delimited.shortened {opening closing inner : List Char} {make : List Char → Lexeme}
    (hd : Delimited opening closing make) (last : List Char) :
    Shortened [make (opening ++ (inner ++ last))] [make (opening ++ inner)] :=
  .cut [] (hd.isGap_make _) (hd.isGap_make _) (hd.isCode_make _ _) (hd.make_ne_semicolon _)

/-- Without the blank at its end, a script has the same lexemes but for the last one. -/
theorem Lexes.exists_shortened {text : List Char} {c : Char} {ls : List Lexeme}
    (h : Lexes (text ++ [c]) ls) (hc : isBlank c = true) :
    ∃ ls', Lexes text ls' ∧ Shortened ls ls' := by
  generalize hscript : text ++ [c] = script at h
  induction h generalizing text with
  | nil => simp at hscript
  -- Where other lexemes follow, the last of them is cut. So only the last one counts, and a
  -- semicolon does not end in a blank.
  | semicolon h ih =>
    rcases text with _ | ⟨d, text⟩
    · exact absurd (List.cons.inj hscript).1 (ne_of_isBlank hc (by decide))
    · obtain ⟨rfl, hrest⟩ := List.cons.inj hscript
      obtain ⟨ls', hls', hshort⟩ := ih hrest
      exact ⟨_, .semicolon hls', hshort.cons _⟩
  | blank hspace h ih =>
    rcases text with _ | ⟨d, text⟩
    · obtain ⟨rfl, rfl⟩ := List.cons.inj hscript
      -- The blank is the last lexeme, and left out.
      rw [h.nil_eq]
      exact ⟨[], .nil, .drop [] (by simp [isGap, Lexeme.text, hc])⟩
    · obtain ⟨rfl, hrest⟩ := List.cons.inj hscript
      obtain ⟨ls', hls', hshort⟩ := ih hrest
      exact ⟨_, .blank hspace hls', hshort.cons _⟩
  | single halone h ih =>
    rcases text with _ | ⟨d, text⟩
    · obtain ⟨rfl, rfl⟩ := List.cons.inj hscript
      rw [h.nil_eq]
      exact ⟨[], .nil, .drop [] (by simp [isGap, Lexeme.text, hc])⟩
    · obtain ⟨rfl, rfl⟩ := List.cons.inj hscript
      obtain ⟨ls', hls', hshort⟩ := ih rfl
      exact ⟨_, .single halone.of_append hls', hshort.cons _⟩
  | @quoted q rest ls hq inner hhead h ih =>
    rcases List.eq_nil_or_concat' rest with rfl | ⟨more, d, rfl⟩
    · -- A closing quote at the end is no blank.
      have hend : text ++ [c] = (q :: doubled q inner) ++ [q] := hscript
      exact absurd (List.append_singleton_inj.1 hend).2 (ne_of_isBlank hc (isBlank_quote hq))
    · have hend : text ++ [c] = (q :: (doubled q inner ++ q :: more)) ++ [d] := by simp [hscript]
      obtain ⟨rfl, rfl⟩ := List.append_singleton_inj.1 hend
      obtain ⟨ls', hls', hshort⟩ := ih rfl
      have hmore : more.head? ≠ some q := by
        cases more with
        | nil => simp
        | cons e more => simpa using hhead
      exact ⟨_, .quoted hq inner hmore hls', hshort.cons _⟩
  | openQuoted hq inner => exact exists_shortened_of_openQuoted hq hc hscript
  | @delimited opening closing inner rest make ls hd hinner h ih =>
    rcases List.eq_nil_or_concat' rest with rfl | ⟨more, d, rfl⟩
    · rcases hd.exists_closing with rfl | ⟨mark, d, rfl, hlast⟩
      · -- The blank is the end of a comment's line.
        have hend : text ++ [c] = (opening ++ inner) ++ ['\n'] := by simp [hscript]
        obtain ⟨rfl, rfl⟩ := List.append_singleton_inj.1 hend
        have hopen : ¬['\n'] <:+: inner := by simpa using hinner
        rw [h.nil_eq]
        exact ⟨_, .openDelimited hd hopen, hd.shortened ['\n']⟩
      · -- Other closing marks do not end in a blank.
        have hend : text ++ [c] = (opening ++ (inner ++ mark)) ++ [d] := by simp [hscript]
        exact absurd (List.append_singleton_inj.1 hend).2 (ne_of_isBlank hc hlast)
    · have hend : text ++ [c] = (opening ++ (inner ++ (closing ++ more))) ++ [d] := by
        simp [hscript]
      obtain ⟨rfl, rfl⟩ := List.append_singleton_inj.1 hend
      obtain ⟨ls', hls', hshort⟩ := ih rfl
      exact ⟨_, .delimited hd hinner hls', hshort.cons _⟩
  | @openDelimited opening closing inner make hd hinner =>
    rcases List.eq_nil_or_concat' inner with rfl | ⟨inner, d, rfl⟩
    · obtain ⟨e, mark, d, rfl, -, hlast⟩ := hd.exists_opening
      have hend : text ++ [c] = (e :: mark) ++ [d] := by simp [hscript]
      exact absurd (List.append_singleton_inj.1 hend).2 (ne_of_isBlank hc hlast)
    · -- Without its last character the text is still not closed.
      have hend : text ++ [c] = (opening ++ inner) ++ [d] := by simp [hscript]
      obtain ⟨rfl, rfl⟩ := List.append_singleton_inj.1 hend
      have hopen : ¬closing <:+: inner := fun hpart =>
        hinner (hpart.trans (List.prefix_append inner [c]).isInfix)
      exact ⟨_, .openDelimited hd hopen, hd.shortened [c]⟩

/-- The character that a script ends with is in its last lexeme. -/
theorem Lexes.rdropWhile_isGap {text : List Char} {c : Char} {ls : List Lexeme}
    (h : Lexes (text ++ [c]) ls) (hc : isBlank c = false) : ls.rdropWhile isGap = ls := by
  rcases List.eq_nil_or_concat' ls with rfl | ⟨front, l, rfl⟩
  · rfl
  · have htext := h.flatMap_text
    rw [List.flatMap_append, List.flatMap_singleton] at htext
    obtain ⟨start, d, hl⟩ := List.eq_nil_or_concat' l.text |>.resolve_left
      (h.text_ne_nil l (List.mem_append_right _ (List.mem_singleton_self l)))
    rw [hl, ← List.append_assoc] at htext
    obtain rfl := List.singleton_inj.1 (List.append_inj' htext rfl).2
    have hmem : d ∈ l.text := hl ▸ List.mem_append_right _ (List.mem_singleton_self d)
    rw [List.rdropWhile_concat_neg _ _ _ (by simp [isGap_eq_false hmem hc])]

/-- Trimming at the end takes the lexemes away that are white space, and leaves the code in front of
them as code. -/
theorem Lexes.exists_trimEnd {text : List Char} {ls : List Lexeme} (h : Lexes text ls)
    (hls : .semicolon ∉ ls) : ∃ ls', Lexes (Text.trimEnd text) ls' ∧ .semicolon ∉ ls' ∧
      hasCode ls' = hasCode (ls.rdropWhile isGap) := by
  induction text using List.reverseRecOn generalizing ls with
  | nil =>
    rw [h.nil_eq]
    exact ⟨[], .nil, by simp, rfl⟩
  | append_singleton text c ih =>
    have htrim : Text.trimEnd (text ++ [c]) =
        if isBlank c = true then Text.trimEnd text else text ++ [c] := List.rdropWhile_concat _ _ _
    cases hc : isBlank c with
    | true =>
      obtain ⟨shorter, hshorter, hshort⟩ := h.exists_shortened hc
      obtain ⟨ls', hls', hsemicolon, hcode⟩ := ih hshorter (hshort.semicolon_notMem hls)
      rw [htrim, if_pos hc]
      exact ⟨ls', hls', hsemicolon, hcode.trans hshort.hasCode_eq⟩
    | false =>
      rw [htrim, if_neg (by simp [hc])]
      exact ⟨ls, h, hls, by rw [h.rdropWhile_isGap hc]⟩

/-! ## Statements -/

/-- A chunk without the white space at its ends. -/
def core (chunk : List Lexeme) : List Lexeme := (chunk.dropWhile isGap).rdropWhile isGap

/-- Only white space is left out. -/
theorem mem_core {chunk : List Lexeme} {l : Lexeme} (h : l ∈ chunk) (hl : l.isGap = false) :
    l ∈ core chunk := by
  have hdrop : ∀ ls : List Lexeme, l ∈ ls → l ∈ ls.dropWhile isGap := by
    intro ls hmem
    rw [← List.takeWhile_append_dropWhile (p := isGap) (l := ls), List.mem_append] at hmem
    refine hmem.resolve_left fun htake => ?_
    rw [List.mem_takeWhile_imp htake] at hl
    cases hl
  have hfirst := hdrop chunk h
  rw [← List.mem_reverse] at hfirst
  exact List.mem_reverse.2 (hdrop _ hfirst)

/-- A piece without semicolons still has none when it is trimmed, and still has code if there is
code in it besides the white space at its ends. -/
theorem Lexes.exists_trim {text : List Char} {ls : List Lexeme} (h : Lexes text ls)
    (hls : .semicolon ∉ ls) : ∃ ls', Lexes (trim text) ls' ∧ .semicolon ∉ ls' ∧
      hasCode ls' = hasCode (core ls) :=
  h.trimStart.exists_trimEnd fun hmem => hls ((List.dropWhile_suffix isGap).subset hmem)

/-- A trimmed text without semicolons is a statement of its own if there is code in it. -/
theorem splitStatements_of_semicolon_notMem {s : String} {ls : List Lexeme} (h : Lexes s.toList ls)
    (hls : .semicolon ∉ ls) (htrim : trim s.toList = s.toList) :
    splitStatements s = if hasCode ls = true then [s] else [] := by
  rw [splitStatements, h.list_eq, statementsOf, pieces_of_notMem hls, lastStatement, pieceText,
    h.flatMap_text, htrim]
  cases hcode : hasCode ls with
  | false => simp
  | true =>
    -- What holds code is not empty.
    have hne : s.toList ≠ [] := by
      intro hnil
      rw [hnil] at h
      rw [h.nil_eq] at hcode
      cases hcode
    simp [hne]

/-- The empty text has no statements. -/
theorem splitStatements_empty : splitStatements "" = [] := by
  simp [splitStatements, statementsOf, lastStatement, hasCode]

/-- A statement is the text of a chunk with code, trimmed, and it is split into itself or into
nothing. -/
theorem exists_chunk {script s : String} (h : s ∈ splitStatements script) :
    ∃ chunk ∈ (list script.toList).splitOn .semicolon,
      s.toList = trim (chunk.flatMap Lexeme.text) ∧ hasCode chunk = true ∧
      splitStatements s = if hasCode (core chunk) = true then [s] else [] := by
  rw [splitStatements, statementsOf_eq_map] at h
  obtain ⟨text, htext, rfl⟩ := List.mem_map.1 h
  obtain ⟨chunk, hchunk, rfl⟩ := List.mem_map.1 htext
  obtain ⟨hmem, hcode⟩ :
      chunk ∈ (list script.toList).splitOn .semicolon ∧ hasCode chunk = true := by
    rcases List.mem_append.1 hchunk with hchunk | hchunk
    · obtain ⟨hmem, hcode⟩ := List.mem_filter.1 hchunk
      exact ⟨List.dropLast_subset _ hmem, hcode⟩
    · obtain ⟨hmem, hcode⟩ := List.mem_filter.1 hchunk
      exact ⟨List.mem_of_getLast? (Option.mem_toList.1 hmem), (Bool.and_eq_true_iff.1 hcode).1⟩
  obtain ⟨hpart, hsemicolon⟩ := infix_of_mem_splitOn hmem
  obtain ⟨ls, hls, hsemicolon, hcore⟩ :=
    ((lexes_list script.toList).of_part hpart).exists_trim hsemicolon
  have htext : (String.ofList (pieceText chunk)).toList = trim (chunk.flatMap Lexeme.text) :=
    String.toList_ofList
  rw [← htext] at hls
  refine ⟨chunk, hmem, htext, hcode, ?_⟩
  rw [splitStatements_of_semicolon_notMem hls hsemicolon (by rw [htext, trim_trim]), hcore]

/-- **A statement is split into itself exactly if its piece of the script has code besides the white
space at the ends**, and into nothing otherwise. -/
theorem splitStatements_again_iff {script s : String} (h : s ∈ splitStatements script) :
    ∃ chunk ∈ (list script.toList).splitOn .semicolon,
      s.toList = trim (chunk.flatMap Lexeme.text) ∧ hasCode chunk = true ∧
      ((s ≠ "" ∧ splitStatements s = [s]) ↔ hasCode (core chunk) = true) ∧
      (hasCode (core chunk) = false → splitStatements s = []) := by
  obtain ⟨chunk, hchunk, htext, hcode, hagain⟩ := exists_chunk h
  refine ⟨chunk, hchunk, htext, hcode, ?_, fun hnone => by rw [hagain, hnone]; rfl⟩
  constructor
  · rintro ⟨-, hs⟩
    by_contra hnone
    rw [hs, if_neg hnone] at hagain
    cases hagain
  · intro hcore
    rw [if_pos hcore] at hagain
    refine ⟨?_, hagain⟩
    rintro rfl
    rw [splitStatements_empty] at hagain
    cases hagain

/-- Behind the no-break space, which is code but is trimmed, the comment is a statement. Split again
it is none. -/
theorem splitStatements_again_note :
    "-- done" ∈ splitStatements "SELECT 1;\u00a0-- done\n;" ∧ splitStatements "-- done" = [] := by
  have hmem : "-- done" ∈ splitStatements "SELECT 1;\u00a0-- done\n;" := by decide +kernel
  have hchunks : (list "SELECT 1;\u00a0-- done\n;".toList).splitOn .semicolon =
      [list "SELECT 1".toList, [.code ['\u00a0'], .comment "-- done\n".toList], []] := by
    decide +kernel
  obtain ⟨chunk, hchunk, htext, -, -, hnone⟩ := splitStatements_again_iff hmem
  rw [hchunks] at hchunk
  simp only [List.mem_cons, List.not_mem_nil, or_false] at hchunk
  rcases hchunk with rfl | rfl | rfl
  · rw [flatMap_text_list] at htext
    exact absurd htext (by decide)
  · exact ⟨hmem, hnone (by decide)⟩
  · exact absurd htext (by decide)

/-- Where no white space stands as code, every statement is split into itself. -/
theorem splitStatements_eq_singleton {script s : String} (h : s ∈ splitStatements script)
    (hgap : ∀ l ∈ list script.toList, l.isCode = true → l.isGap = false) :
    splitStatements s = [s] := by
  obtain ⟨chunk, hchunk, -, hcode, hagain⟩ := exists_chunk h
  obtain ⟨l, hl, hlcode⟩ := List.any_eq_true.1 hcode
  have hl' := hgap l ((infix_of_mem_splitOn hchunk).1.subset hl) hlcode
  have hcore : hasCode (core chunk) = true :=
    List.any_eq_true.2 ⟨l, mem_core hl hl', hlcode⟩
  rw [hagain, if_pos hcore]

end EntityModel.Sql
