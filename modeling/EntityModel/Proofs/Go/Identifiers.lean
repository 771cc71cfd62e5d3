import EntityModel.Proofs.Go.TypeNames
import EntityModel.Proofs.Text.Letters

/-! # Names that can be declared

In Go a name is a letter followed by letters and decimal digits, where the underscore is a letter
too, and no keyword (`IsDeclarable`). The characters that `isIdentifier` goes by are more: a letter
number or a vowel sign passes for a letter, a superscript for a digit. They are strays, which no
token of source code has but a literal or a comment.

So every name that can be declared is accepted, and an accepted one can be declared unless it has a
stray (`isDeclarable_iff`). -/

namespace EntityModel.Go

/-! ## The grammar of names -/

/-- A letter of source code. -/
def isLetter (c : Char) : Bool := c = '_' || Text.letter.contains c

/-- A digit of source code. -/
def isDigit (c : Char) : Bool := Text.decimalDigit.contains c

/-- A character that is in no token but a literal or a comment: all other tokens consist of
letters, digits and characters of ASCII. -/
def isStray (c : Char) : Bool := 128 ≤ c.toNat && !isLetter c && !isDigit c

/-- The words of declarations, of types and of statements. -/
def reservedWords : List String :=
  ["const", "func", "import", "package", "type", "var"] ++
  ["chan", "interface", "map", "struct"] ++
  ["break", "case", "continue", "default", "defer", "else", "fallthrough", "for", "go", "goto",
    "if", "range", "return", "select", "switch"]

/-- A name that source code can declare. -/
structure IsDeclarable (name : String) : Prop where
  isLetter_first : ∃ c ∈ name.toList.head?, isLetter c = true
  isLetter_or_isDigit : ∀ c ∈ name.toList, isLetter c = true ∨ isDigit c = true
  notMem_reservedWords : name ∉ reservedWords

/-- The words that the language reserves are the keywords that are refused. -/
theorem mem_reservedWords_iff {word : String} : word ∈ reservedWords ↔ word ∈ keywords := by
  have hperm : reservedWords.Perm keywords := by decide
  exact hperm.mem_iff

/-! ## Characters -/

variable {c : Char}

/-- A letter may start a name that is accepted. -/
theorem isIdentifierStart_of_isLetter (h : isLetter c = true) : isIdentifierStart c = true := by
  rw [isLetter, Bool.or_eq_true] at h
  rw [isIdentifierStart, Bool.or_eq_true]
  exact h.imp_right Text.isAlphabetic_of_letter

/-- A digit may stand in a name that is accepted. -/
theorem isIdentifierPart_of_isDigit (h : isDigit c = true) : isIdentifierPart c = true := by
  simp [isIdentifierPart, Text.isAlphanumeric, Text.numeral_of_decimalDigit h]

/-- Letters and digits may stand in a name that is accepted. -/
theorem isIdentifierPart_of_isLetter_or_isDigit (h : isLetter c = true ∨ isDigit c = true) :
    isIdentifierPart c = true :=
  h.elim (isIdentifierPart_of_isIdentifierStart ∘ isIdentifierStart_of_isLetter)
    isIdentifierPart_of_isDigit

/-- What passes for a part of a name is a letter or a digit unless it is a stray. -/
theorem isLetter_or_isDigit_of_isIdentifierPart (h : isIdentifierPart c = true)
    (hstray : isStray c = false) : isLetter c = true ∨ isDigit c = true := by
  by_cases hascii : c.toNat < 128
  · obtain ⟨hletter, hdigit⟩ := Text.ascii_alphanumeric hascii
    rw [isLetter, isDigit, hletter, hdigit, Bool.or_eq_true]
    simp only [isIdentifierPart, Text.isAlphanumeric, Bool.or_eq_true, ← or_assoc] at h
    exact h
  · rw [Nat.not_lt] at hascii
    simp only [isStray, hascii, decide_true, Bool.true_and, Bool.and_eq_false_iff,
      Bool.not_eq_false'] at hstray
    exact hstray

/-- What passes for the start of a name is no digit. -/
theorem isDigit_eq_false_of_isIdentifierStart (h : isIdentifierStart c = true) :
    isDigit c = false := by
  rw [isIdentifierStart, Bool.or_eq_true, decide_eq_true_eq] at h
  rw [← Bool.not_eq_true]
  intro hdigit
  rcases h with rfl | halphabetic
  · revert hdigit
    decide +kernel
  · rw [Text.isAlphabetic_eq_false_of_decimalDigit hdigit] at halphabetic
    cases halphabetic

/-! ## Names -/

variable {name : String}

/-- What is looked at in a name: its first character, each of its characters, and the keywords. -/
theorem isIdentifier_iff : isIdentifier name = true ↔
    (∃ c ∈ name.toList.head?, isIdentifierStart c = true) ∧
      (∀ c ∈ name.toList, isIdentifierPart c = true) ∧ name ∉ keywords := by
  cases hname : name.toList with
  | nil => simp [isIdentifier, hname]
  | cons first rest =>
    have hfirst : (∃ c ∈ (first :: rest).head?, isIdentifierStart c = true) ↔
        isIdentifierStart first = true := by simp
    have hparts : isIdentifierStart first = true →
        ((∀ c ∈ first :: rest, isIdentifierPart c = true) ↔ rest.all isIdentifierPart = true) := by
      intro hstart
      rw [List.forall_mem_cons, List.all_eq_true]
      exact and_iff_right (isIdentifierPart_of_isIdentifierStart hstart)
    rw [isIdentifier, hname, hfirst, Bool.and_eq_true, Bool.and_eq_true, and_assoc]
    refine and_congr_right fun hstart => ?_
    rw [hparts hstart]
    simp

/-- A name that can be declared is accepted. -/
theorem IsDeclarable.isIdentifier (h : IsDeclarable name) : isIdentifier name = true := by
  obtain ⟨c, hc, hletter⟩ := h.isLetter_first
  refine isIdentifier_iff.2 ⟨⟨c, hc, isIdentifierStart_of_isLetter hletter⟩, fun d hd => ?_, ?_⟩
  · exact isIdentifierPart_of_isLetter_or_isDigit (h.isLetter_or_isDigit d hd)
  · exact fun hmem => h.notMem_reservedWords (mem_reservedWords_iff.2 hmem)

/-- A name that can be declared has no stray character. -/
theorem IsDeclarable.isStray_eq_false (h : IsDeclarable name) :
    ∀ c ∈ name.toList, isStray c = false := by
  intro c hc
  rcases h.isLetter_or_isDigit c hc with hletter | hdigit
  · simp [isStray, hletter]
  · simp [isStray, hdigit]

/-- A name that is accepted can be declared, if none of its characters is stray. -/
theorem isDeclarable_of_isIdentifier (h : isIdentifier name = true)
    (hstray : ∀ c ∈ name.toList, isStray c = false) : IsDeclarable name := by
  obtain ⟨⟨first, hfirst, hstart⟩, hparts, hkeyword⟩ := isIdentifier_iff.1 h
  have hall : ∀ c ∈ name.toList, isLetter c = true ∨ isDigit c = true :=
    fun c hc => isLetter_or_isDigit_of_isIdentifierPart (hparts c hc) (hstray c hc)
  refine ⟨⟨first, hfirst, ?_⟩, hall, fun hmem => hkeyword (mem_reservedWords_iff.1 hmem)⟩
  refine (hall first (List.mem_of_mem_head? hfirst)).resolve_right ?_
  rw [isDigit_eq_false_of_isIdentifierStart hstart]
  exact Bool.false_ne_true

/-! ## Files -/

/-- The names that a file spells: of its package, its types and constants, and their fields. -/
def File.spelledNames (f : File) : List String :=
  f.package :: f.declarations.flatMap fun d => d.names ++ d.fields.map (·.name)

/-- The names of a declaration and of its fields are accepted. -/
theorem Declaration.WellNamed.isIdentifier_of_mem {v : Vocabulary} {d : Declaration}
    (h : d.WellNamed v) : ∀ name ∈ d.names ++ d.fields.map (·.name), isIdentifier name = true := by
  cases h with
  | enumeration hname hconstants =>
    simpa [Declaration.names, Declaration.fields] using ⟨hname, hconstants⟩
  | struct hname hfields =>
    simpa [Declaration.names, Declaration.fields] using
      ⟨hname, fun field hfield => (hfields field hfield).2.1⟩

/-- Every name that a file spells is accepted. -/
theorem Passes.isIdentifier_of_mem {package generator : String} {s : Schema} {f : File}
    (ps : Passes package generator s f) : ∀ name ∈ f.spelledNames, isIdentifier name = true := by
  intro name hname
  rcases List.mem_cons.1 hname with rfl | hname
  · exact ps.file_eq ▸ ps.isIdentifier_package
  · obtain ⟨d, hd, hname⟩ := List.mem_flatMap.1 hname
    exact (ps.wellNamed d hd).isIdentifier_of_mem name hname

/-- **A name that can be declared is accepted, and if it is accepted it can be declared unless a
stray is in it.** So a name in a file can be declared if there is no stray in it. -/
theorem isDeclarable_iff (name : String) :
    (IsDeclarable name ↔ isIdentifier name = true ∧ ∀ c ∈ name.toList, isStray c = false) ∧
    ∀ (package generator : String) (s : Schema) (f : File), file package generator s = .ok f →
      name ∈ f.spelledNames → (IsDeclarable name ↔ ∀ c ∈ name.toList, isStray c = false) := by
  have hiff : IsDeclarable name ↔
      isIdentifier name = true ∧ ∀ c ∈ name.toList, isStray c = false :=
    ⟨fun h => ⟨h.isIdentifier, h.isStray_eq_false⟩, fun h => isDeclarable_of_isIdentifier h.1 h.2⟩
  refine ⟨hiff, fun package generator s f hfile hname => ?_⟩
  obtain ⟨ps⟩ := file_eq_ok_iff.1 hfile
  rw [hiff]
  exact and_iff_right (ps.isIdentifier_of_mem name hname)

/-- The constant for open visits can be declared. A square metre is accepted and cannot. -/
theorem isDeclarable_visits : file "models" "entitygen" visits = .ok visitsFile ∧
    "StatusOpen" ∈ visitsFile.spelledNames ∧ IsDeclarable "StatusOpen" ∧
    isIdentifier "m²" = true ∧ ¬IsDeclarable "m²" := by
  have hmem : "StatusOpen" ∈ visitsFile.spelledNames := by decide
  have hplain : "StatusOpen".toList.all (fun c => !isStray c) = true := by decide +kernel
  refine ⟨file_visits, hmem, ?_, by decide +kernel, fun h => ?_⟩
  · refine ((isDeclarable_iff "StatusOpen").2 _ _ _ _ file_visits hmem).2 fun c hc => ?_
    simpa using List.all_eq_true.1 hplain c hc
  · have hstray : isStray '²' = true := by decide +kernel
    rw [((isDeclarable_iff "m²").1.1 h).2 '²' (by decide)] at hstray
    cases hstray

end EntityModel.Go
