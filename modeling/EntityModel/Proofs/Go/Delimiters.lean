import EntityModel.Proofs.Go.Fields

/-! # Brackets and literals of source code

A scan finds the same marks in a text whatever stands behind it, if all literals of the text are
closed and none of its characters starts a comment (`Scans`). Lines whose marks are brackets in
pairs pass the check (`checkDelimiters_eq_ok`). -/

namespace EntityModel.Go

/-! ## Marks of texts -/

/-- Whether the character stands for itself in code: it is no bracket, and starts neither a literal
nor a comment. -/
def isQuiet (c : Char) : Bool := c ≠ '/' && c ≠ '"' && c ≠ '\x60' && !brackets.contains c

/-- The text has no character that a scan looks at. -/
def Quiet (text : String) : Prop := text.toList.all isQuiet = true

/-- Whether a text is quiet can be decided character by character. -/
instance (text : String) : Decidable (Quiet text) := inferInstanceAs (Decidable (_ = true))

/-- A text is quiet if its parts are. -/
@[simp] theorem quiet_append {a b : String} : Quiet (a ++ b) ↔ Quiet a ∧ Quiet b := by
  simp only [Quiet, String.toList_append, List.all_append, Bool.and_eq_true]

/-- Names that can be declared have letters, digits and underscores only. -/
theorem quiet_of_isIdentifier {name : String} (h : isIdentifier name = true) : Quiet name := by
  have hloud : (['/', '"', '\x60'] ++ brackets).all (!isIdentifierPart ·) = true := rfl
  refine List.all_eq_true.2 fun c hc => ?_
  have hnotMem : c ∉ ['/', '"', '\x60'] ++ brackets := by
    intro hmem
    have hpart := List.all_eq_true.1 hloud c hmem
    rw [isIdentifierPart_of_mem h hc] at hpart
    cases hpart
  obtain ⟨hstart, hbracket⟩ := not_or.1 (List.mem_append.not.1 hnotMem)
  simp only [List.mem_cons, List.not_mem_nil, or_false, not_or] at hstart
  obtain ⟨hslash, hquote, hraw⟩ := hstart
  have hcontains : brackets.contains c = false := by
    rwa [List.contains_eq_mem, decide_eq_false_iff_not]
  simp only [isQuiet, hslash, hquote, hraw, hcontains, ne_eq, not_false_eq_true, decide_true,
    Bool.and_self, Bool.not_false]

/-- The scan finds the marks in the text, whatever stands behind it. -/
def Scans (text : List Char) (ms : List Mark) : Prop :=
  ∀ rest, marks (text ++ rest) = ms ++ marks rest

namespace Scans

/-- The marks that a scan finds in a text are those of the text on its own. -/
theorem marks_eq {text : List Char} {ms : List Mark} (h : Scans text ms) : marks text = ms := by
  have hnil := h []
  rwa [List.append_nil, marks, List.append_nil] at hnil

/-- A scan of two texts finds the marks of the one and then those of the other. -/
theorem append {a b : List Char} {ms ns : List Mark} (ha : Scans a ms) (hb : Scans b ns) :
    Scans (a ++ b) (ms ++ ns) := by
  intro rest
  rw [List.append_assoc, ha, hb, List.append_assoc]

/-- A scan finds nothing in a quiet text. -/
theorem of_quiet {text : String} (h : Quiet text) : Scans text.toList [] := by
  intro rest
  have hall := List.all_eq_true.1 h
  generalize text.toList = chars at hall
  induction chars with
  | nil => rfl
  | cons c chars ih =>
    obtain ⟨hc, hchars⟩ := List.forall_mem_cons.1 hall
    simp only [isQuiet, ne_eq, decide_not, Bool.and_eq_true, Bool.not_eq_true',
      decide_eq_false_iff_not] at hc
    obtain ⟨⟨⟨hslash, hquote⟩, hraw⟩, hbracket⟩ := hc
    rw [List.cons_append, marks, if_neg fun h => hslash h.1, if_neg hquote, if_neg hraw,
      if_neg (Bool.eq_false_iff.1 hbracket), ih hchars]

/-- A scan finds a bracket in code. -/
theorem bracket {c : Char} (h : brackets.contains c = true) : Scans [c] [.bracket c] := by
  intro rest
  have hc : c ≠ '/' ∧ c ≠ '"' ∧ c ≠ '\x60' := by
    refine ⟨?_, ?_, ?_⟩ <;> rintro rfl <;> exact absurd h (by decide)
  rw [List.singleton_append, marks, if_neg fun h => hc.1 h.1, if_neg hc.2.1, if_neg hc.2.2,
    if_pos h, List.singleton_append]

end Scans

/-- A string that is closed marks nothing. -/
theorem marks_string {text rest : List Char} (h : afterString text = some rest) :
    marks ('"' :: text) = marks rest := by
  rw [marks, if_neg (by simp), if_pos rfl]
  split
  · rename_i heq
    rw [Option.some.inj (h.symm.trans heq)]
  · rename_i heq
    cases h.symm.trans heq

/-- A raw string that is closed marks nothing. -/
theorem marks_rawString {text rest : List Char} (h : afterRawString text = some rest) :
    marks ('\x60' :: text) = marks rest := by
  rw [marks, if_neg (by simp), if_neg (by decide), if_pos rfl]
  split
  · rename_i heq
    rw [Option.some.inj (h.symm.trans heq)]
  · rename_i heq
    cases h.symm.trans heq

/-- The empty line has no marks. -/
@[simp] theorem marks_nil : marks [] = [] := by rw [marks]

/-- Nothing in a comment is marked. -/
theorem marks_comment (text : List Char) : marks ('/' :: '/' :: text) = [] := by
  rw [marks, if_pos ⟨rfl, rfl⟩]

/-! ## Literals -/

/-- A character that is neither a quote nor a backslash does not end a string. -/
theorem afterString_cons {c : Char} (hquote : c ≠ '"') (hbackslash : c ≠ '\\') (rest : List Char) :
    afterString (c :: rest) = afterString rest := by
  rw [afterString]
  · exact hquote
  · exact fun heq => absurd heq hbackslash
  · exact fun _ _ heq => absurd heq hbackslash

/-- A string goes on behind an escaped character. -/
theorem afterString_escape_append (c : Char) (rest : List Char) :
    afterString (escape c ++ rest) = afterString rest := by
  have hdigits : ∀ n < 16, Nat.digitChar n ≠ '"' ∧ Nat.digitChar n ≠ '\\' := by decide
  -- Only the form with a number is longer than the backslash and what it escapes.
  have hhex : ∀ digits : List Char, (∀ d ∈ digits, d ≠ '"' ∧ d ≠ '\\') →
      afterString (digits ++ rest) = afterString rest := by
    intro digits h
    induction digits with
    | nil => rfl
    | cons d digits ih =>
      obtain ⟨hd, hdigits⟩ := List.forall_mem_cons.1 h
      rw [List.cons_append, afterString_cons hd.1 hd.2, ih hdigits]
  unfold escape
  split_ifs with hquote hbackslash
  · rfl
  · rfl
  · rfl
  · rfl
  · rfl
  · have hunicode : afterString ('\\' :: 'u' :: Text.fixedHex 4 c.toNat ++ rest) =
        afterString (Text.fixedHex 4 c.toNat ++ rest) := rfl
    refine hunicode.trans (hhex _ fun d hd => ?_)
    obtain ⟨n, hn, rfl⟩ := Text.exists_digitChar_of_mem_fixedHex hd
    exact hdigits n hn
  · exact afterString_cons hquote hbackslash rest

/-- A string ends at the quote behind escaped characters. -/
theorem afterString_flatMap_escape (text rest : List Char) :
    afterString (text.flatMap escape ++ '"' :: rest) = some rest := by
  induction text with
  | nil => rfl
  | cons c text ih => rw [List.flatMap_cons, List.append_assoc, afterString_escape_append, ih]

/-- A raw string ends at the first quote. -/
theorem afterRawString_append {text : List Char} (h : '\x60' ∉ text) (rest : List Char) :
    afterRawString (text ++ '\x60' :: rest) = some rest := by
  induction text with
  | nil => rfl
  | cons c text ih =>
    rw [List.mem_cons, not_or] at h
    rw [List.cons_append, afterRawString, if_neg (Ne.symm h.1), ih h.2]

/-- A scan finds nothing in a quoted text. -/
theorem Scans.quote (text : String) : Scans (quote text).toList [] := by
  intro rest
  rw [Go.quote, String.toList_ofList, quoteChars, List.append_assoc, List.cons_append,
    List.singleton_append, marks_string (afterString_flatMap_escape _ rest), List.nil_append]

/-- A scan finds nothing in a raw string. -/
theorem Scans.raw {text : List Char} (h : '\x60' ∉ text) :
    Scans ('\x60' :: (text ++ ['\x60'])) [] := by
  intro rest
  rw [List.cons_append, List.append_assoc, List.singleton_append,
    marks_rawString (afterRawString_append h rest), List.nil_append]

/-! ## Nested brackets -/

/-- Marks that are brackets in pairs. -/
inductive Nested : List Mark → Prop
  /-- No mark. -/
  | nil : Nested []
  /-- Marks between a bracket and the one that closes it. -/
  | pair {opening closing : Char} {ms : List Mark} (hpair : opening? closing = some opening)
      (h : Nested ms) : Nested (.bracket opening :: (ms ++ [.bracket closing]))
  /-- Marks one after the other. -/
  | append {ms ns : List Mark} (hm : Nested ms) (hn : Nested ns) : Nested (ms ++ ns)

/-- Nested brackets one after the other are nested. -/
theorem Nested.flatMap {α : Type} {f : α → List Mark} {xs : List α} (h : ∀ x ∈ xs, Nested (f x)) :
    Nested (xs.flatMap f) := by
  induction xs with
  | nil => exact .nil
  | cons x xs ih =>
    obtain ⟨hx, hxs⟩ := List.forall_mem_cons.1 h
    exact .append hx (ih hxs)

/-- An opening bracket is no closing one. -/
theorem opening?_of_opening?_eq_some {opening closing : Char}
    (h : opening? closing = some opening) : opening? opening = none := by
  unfold opening? at h
  split_ifs at h
  all_goals
    obtain rfl := Option.some.inj h
    decide

/-- Nested brackets leave those as they are that are open around them. -/
theorem balanced_append_of_nested {ms : List Mark} (h : Nested ms) {numbered : List (Mark × Nat)}
    (hms : numbered.map Prod.fst = ms) (stack : List (Char × Nat)) (rest : List (Mark × Nat)) :
    balanced stack (numbered ++ rest) = balanced stack rest := by
  -- The stack is any, as the marks inside a pair are met with its opening bracket on top.
  induction h generalizing numbered stack rest with
  | nil =>
    obtain rfl := List.map_eq_nil_iff.1 hms
    rfl
  | @pair opening closing ms hpair _ ih =>
    obtain ⟨⟨_, line⟩, others, rfl, rfl, hothers⟩ := List.map_eq_cons_iff.1 hms
    obtain ⟨inner, last, rfl, hinner, hlast⟩ := List.map_eq_append_iff.1 hothers
    obtain ⟨⟨_, line'⟩, rfl, rfl⟩ := List.map_eq_singleton_iff.1 hlast
    rw [List.cons_append, List.append_assoc, balanced, opening?_of_opening?_eq_some hpair]
    dsimp only
    rw [ih hinner, List.singleton_append, balanced, hpair]
    exact if_pos rfl
  | append _ _ ihm ihn =>
    obtain ⟨first, second, rfl, hfirst, hsecond⟩ := List.map_eq_append_iff.1 hms
    rw [List.append_assoc, ihm hfirst, ihn hsecond]

/-- The numbers of the lines do not change what is marked. -/
theorem map_fst_numberedMarks (line : Nat) (lines : List (List Char)) :
    (numberedMarks line lines).map Prod.fst = lines.flatMap marks := by
  induction lines generalizing line with
  | nil => rfl
  | cons text rest ih =>
    rw [numberedMarks, List.map_append, ih, List.map_map, List.flatMap_cons]
    exact congrArg (· ++ _) (List.map_id' _)

/-- Lines with nested brackets pass. -/
theorem checkDelimiters_eq_ok {lines : List (List Char)} (h : Nested (lines.flatMap marks)) :
    checkDelimiters lines = .ok () := by
  have hbalanced := balanced_append_of_nested h (map_fst_numberedMarks 1 lines) [] []
  rwa [List.append_nil] at hbalanced

end EntityModel.Go
