import EntityModel.Proofs.Go.Lexemes

/-! # String literals

A literal is read back to the text that it was written for (`unquote?_quote`), and behind any code
it is one lexeme (`Lexes.quote`), so that what stands between its quotes makes no difference for the
check of brackets and literals (`marks_quote_congr`). -/

namespace EntityModel.Go

/-! ## Reading literals -/

/-- The character that a letter behind a backslash stands for. -/
def unescape? : Char → Option Char
  | '"' => some '"'
  | '\\' => some '\\'
  | 'n' => some '\n'
  | 'r' => some '\r'
  | 't' => some '\t'
  | _ => none

/-- The character with the code that the hexadecimal digits write. -/
def charOfDigits? (digits : List Char) : Option Char :=
  (Text.readHex? digits).bind fun code =>
    if code.isValidChar then some (Char.ofNat code) else none

/-- The value of a literal behind its opening quote. The closing quote stands at the end and nowhere
else, and a literal does not go over the end of a line. -/
def stringValue? : List Char → Option (List Char)
  | [] => none
  | ['"'] => some []
  | '\\' :: 'u' :: a :: b :: c :: d :: rest =>
    (charOfDigits? [a, b, c, d]).bind fun c => (stringValue? rest).map (c :: ·)
  | '\\' :: letter :: rest => (unescape? letter).bind fun c => (stringValue? rest).map (c :: ·)
  | c :: rest =>
    if c = '"' ∨ c = '\\' ∨ c = '\n' then none else (stringValue? rest).map (c :: ·)

/-- The value of a string literal. -/
def unquote? : List Char → Option (List Char)
  | '"' :: rest => stringValue? rest
  | _ => none

/-! ## Control characters -/

/-- The character is written as its code in exactly four hexadecimal digits. -/
def IsCodeEscape (c : Char) (written : List Char) : Prop :=
  ∃ digits, digits.length = 4 ∧ Text.readHex? digits = some c.toNat ∧
    written = '\\' :: 'u' :: digits

/-- Control characters have codes of four digits at most. -/
theorem toNat_lt_of_isControl {c : Char} (h : Text.isControl c = true) :
    c.toNat < Nat.pow 16 4 :=
  Nat.lt_of_le_of_lt (Text.toNat_le_of_isControl h) (by decide)

/-- Four hexadecimal digits are read back as the character that they write. -/
theorem charOfDigits?_fixedHex {c : Char} (h : c.toNat < Nat.pow 16 4) :
    charOfDigits? (Text.fixedHex 4 c.toNat) = some c := by
  rw [charOfDigits?, Text.readHex?_fixedHex h, Option.bind_some,
    if_pos (show c.toNat.isValidChar from c.valid), Char.ofNat_toNat]

/-- A control character without an escape of its own is written as its code. -/
theorem isCodeEscape_escape {c : Char} (h : Text.isControl c = true)
    (hown : c ≠ '\n' ∧ c ≠ '\r' ∧ c ≠ '\t') : IsCodeEscape c (escape c) := by
  refine ⟨Text.fixedHex 4 c.toNat, Text.length_fixedHex 4 _,
    Text.readHex?_fixedHex (toNat_lt_of_isControl h), ?_⟩
  have hquote : c ≠ '"' ∧ c ≠ '\\' := by
    refine ⟨?_, ?_⟩
    all_goals
      rintro rfl
      exact absurd h (by decide)
  rw [escape, if_neg hquote.1, if_neg hquote.2, if_neg hown.1, if_neg hown.2.1, if_neg hown.2.2,
    if_pos h]

/-! ## Reading back -/

/-- A character is read back from its written form. -/
theorem stringValue?_escape (c : Char) (rest : List Char) :
    stringValue? (escape c ++ rest) = (stringValue? rest).map (c :: ·) := by
  unfold escape
  split_ifs with hquote hbackslash hfeed hreturn htab hcontrol
  · rw [hquote]; rfl
  · rw [hbackslash]; rfl
  · rw [hfeed]; rfl
  · rw [hreturn]; rfl
  · rw [htab]; rfl
  · have hread := charOfDigits?_fixedHex (toNat_lt_of_isControl hcontrol)
    have hlength := Text.length_fixedHex 4 c.toNat
    generalize Text.fixedHex 4 c.toNat = digits at hread hlength
    match digits, hlength with
    | [d₁, d₂, d₃, d₄], _ =>
      simp only [List.cons_append, List.nil_append, stringValue?, hread, Option.bind_some]
  · simp [stringValue?, hquote, hbackslash, hfeed]

/-- The value of escaped characters is the text that they write. -/
theorem stringValue?_flatMap_escape (text : List Char) :
    stringValue? (text.flatMap escape ++ ['"']) = some text := by
  induction text with
  | nil => rfl
  | cons c text ih =>
    rw [List.flatMap_cons, List.append_assoc, stringValue?_escape, ih, Option.map_some]

/-- The literal of a text is read back. -/
theorem unquote?_quote (text : String) : unquote? (quote text).toList = some text.toList := by
  rw [quote, String.toList_ofList, quoteChars, List.cons_append]
  exact stringValue?_flatMap_escape text.toList

/-! ## Literals in code -/

/-- Escaped characters may stand between the quotes of a string. -/
theorem stringBody_flatMap_escape (text : List Char) : StringBody (text.flatMap escape) := by
  obtain ⟨body, hbody, heq⟩ := afterString_eq_some_iff.1 (afterString_flatMap_escape text [])
  rw [List.append_cancel_right heq]
  exact hbody

/-- A literal behind lexemes that have an end is one lexeme, whatever it says. -/
theorem Lexes.quote {before rest : List Char} {lexemes more : List Lexeme}
    (h : Lexes before lexemes) (hend : ∀ lexeme ∈ lexemes, lexeme.HasEnd) (text : String)
    (hrest : Lexes rest more) : Lexes (before ++ ((quote text).toList ++ rest))
      (lexemes ++ .interpreted (text.toList.flatMap escape) :: more) := by
  have hliteral : Lexes ((Go.quote text).toList ++ rest)
      (.interpreted (text.toList.flatMap escape) :: more) := by
    rw [Go.quote, String.toList_ofList, quoteChars, List.append_assoc, List.cons_append]
    exact .interpreted (stringBody_flatMap_escape _) rfl hrest
  refine h.append hend hliteral ?_
  rw [Go.quote, String.toList_ofList, quoteChars]
  intro hslash
  exact absurd (Option.some.inj hslash) (by decide)

/-- What stands between the quotes of a literal marks nothing. -/
theorem marks_quote_congr {before : List Char} {lexemes : List Lexeme} (h : Lexes before lexemes)
    (hend : ∀ lexeme ∈ lexemes, lexeme.HasEnd) (text other : String) (rest : List Char) :
    marks (before ++ ((quote text).toList ++ rest)) =
      marks (before ++ ((quote other).toList ++ rest)) := by
  obtain ⟨more, hmore⟩ := exists_lexes rest
  rw [(h.quote hend text hmore).marks_eq, (h.quote hend other hmore).marks_eq, List.flatMap_append,
    List.flatMap_append]
  rfl

/-- A line may be replaced by one with the same marks. -/
theorem numberedMarks_congr {line other : List Char} (h : marks line = marks other) (n : Nat)
    (above below : List (List Char)) :
    numberedMarks n (above ++ line :: below) = numberedMarks n (above ++ other :: below) := by
  induction above generalizing n with
  | nil => rw [List.nil_append, List.nil_append, numberedMarks, numberedMarks, h]
  | cons first above ih => rw [List.cons_append, List.cons_append, numberedMarks, numberedMarks, ih]

/-- **A literal is read back.** In it every control character without an escape of its own is
written as its code. Behind code it is one lexeme, and it does not matter for brackets and other
literals what stands between its quotes. -/
theorem quote_literal (text : String) :
    unquote? (quote text).toList = some text.toList ∧
    (∀ before c after, text.toList = before ++ c :: after → Text.isControl c = true →
      c ≠ '\n' ∧ c ≠ '\r' ∧ c ≠ '\t' → ∃ written, IsCodeEscape c written ∧
        (quote text).toList =
          '"' :: (before.flatMap escape ++ (written ++ after.flatMap escape)) ++ ['"']) ∧
    ∀ before lexemes, Lexes before lexemes → (∀ lexeme ∈ lexemes, lexeme.HasEnd) →
      (∀ rest more, Lexes rest more → Lexes (before ++ ((quote text).toList ++ rest))
        (lexemes ++ .interpreted (text.toList.flatMap escape) :: more)) ∧
      ∀ (other : String) (rest : List Char) (above below : List (List Char)),
        checkDelimiters (above ++ (before ++ ((quote text).toList ++ rest)) :: below) =
          checkDelimiters (above ++ (before ++ ((quote other).toList ++ rest)) :: below) := by
  refine ⟨unquote?_quote text, fun before c after htext hcontrol hown => ?_,
    fun before lexemes h hend => ⟨fun rest more hrest => h.quote hend text hrest,
      fun other rest above below => ?_⟩⟩
  · refine ⟨escape c, isCodeEscape_escape hcontrol hown, ?_⟩
    rw [quote, String.toList_ofList, quoteChars, htext, List.flatMap_append, List.flatMap_cons]
  · rw [checkDelimiters, checkDelimiters,
      numberedMarks_congr (marks_quote_congr h hend text other rest)]

/-- The literal of a bracket, a quote and a control character in a call. -/
theorem quote_literal_call :
    (∃ written, IsCodeEscape '\x01' written ∧
      (quote ")\"\x01").toList = "\")\\\"".toList ++ written ++ ['"']) ∧
    Lexes ("f(".toList ++ ((quote ")\"\x01").toList ++ [')']))
      [.code 'f', .code '(', .interpreted ")\\\"\\u0001".toList, .code ')'] := by
  obtain ⟨-, hcodes, hlexes⟩ := quote_literal ")\"\x01"
  have hcall : Lexes "f(".toList [.code 'f', .code '('] :=
    .code (by decide) (by decide) (by decide) (.code (by decide) (by decide) (by decide) .nil)
  have hend : ∀ lexeme ∈ [Lexeme.code 'f', .code '('], lexeme.HasEnd := by
    simp [Lexeme.HasEnd]
  have hrest : Lexes [')'] [.code ')'] := .code (by decide) (by decide) (by decide) .nil
  obtain ⟨written, hwritten, hquote⟩ :=
    hcodes [')', '"'] '\x01' [] (by decide) (by decide) (by decide)
  have hescape : [')', '"'].flatMap escape = [')', '\\', '"'] := by decide
  rw [hescape, List.flatMap_nil, List.append_nil] at hquote
  exact ⟨⟨written, hwritten, hquote⟩, (hlexes _ _ hcall hend).1 _ _ hrest⟩

/-- A line feed is a control character that is not written as its code. -/
theorem not_isCodeEscape_feed : Text.isControl '\n' = true ∧
    ∀ written, IsCodeEscape '\n' written → (quote "\n").toList ≠ '"' :: written ++ ['"'] := by
  refine ⟨by decide, ?_⟩
  rintro _ ⟨digits, -, -, rfl⟩ heq
  have hquote : (quote "\n").toList = ['"', '\\', 'n', '"'] := by decide
  rw [hquote] at heq
  injection heq with _ heq
  injection heq with _ heq
  injection heq with hn
  exact absurd hn (by decide)

end EntityModel.Go
