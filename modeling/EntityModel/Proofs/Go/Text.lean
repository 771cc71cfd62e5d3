import EntityModel.Proofs.Go.Fields
import EntityModel.Proofs.Go.Layout

/-! # Lines of files

The text of a file is the lines of its declarations below those of its head
(`File.toList_text`). Every name in them can be declared, or its camel case can, so none of them
breaks its line (`Passes.unbroken_lines`), and the lines are read back from the text
(`File.lines_text`). -/

namespace EntityModel.Go

/-! ## Texts on one line -/

/-- The text has no character that ends a line. -/
def Unbroken (text : String) : Prop := '\n' ∉ text.toList ∧ '\r' ∉ text.toList

/-- Whether a text breaks its line can be decided. -/
instance (text : String) : Decidable (Unbroken text) := inferInstanceAs (Decidable (_ ∧ _))

/-- A text breaks no line if its parts do not. -/
@[simp] theorem unbroken_append {a b : String} : Unbroken (a ++ b) ↔ Unbroken a ∧ Unbroken b := by
  simp only [Unbroken, String.toList_append, List.mem_append]
  tauto

/-- An identifier breaks no line. -/
theorem unbroken_of_isIdentifier {name : String} (h : isIdentifier name = true) :
    Unbroken name := by
  have hpart : isIdentifierPart '\n' = false ∧ isIdentifierPart '\r' = false := by decide
  constructor <;> intro hc
  · exact Bool.false_ne_true (hpart.1.symm.trans (isIdentifierPart_of_mem h hc))
  · exact Bool.false_ne_true (hpart.2.symm.trans (isIdentifierPart_of_mem h hc))

/-- A name stays on one line if its camel case can be declared. -/
theorem unbroken_of_isIdentifier_camel {name : String}
    (h : isIdentifier (Naming.camel name) = true) : Unbroken name :=
  ⟨notMem_of_isIdentifier_camel h (by decide) (by decide) (by decide) (by decide) (by decide),
    notMem_of_isIdentifier_camel h (by decide) (by decide) (by decide) (by decide) (by decide)⟩

/-- A character that ends a line is escaped in a literal. -/
theorem ne_of_mem_escape {c d : Char} (h : d ∈ escape c) : d ≠ '\n' ∧ d ≠ '\r' := by
  have hdigits : ∀ n < 16, Nat.digitChar n ≠ '\n' ∧ Nat.digitChar n ≠ '\r' := by decide
  unfold escape at h
  split_ifs at h with _ _ hfeed hreturn _ _
  · grind
  · grind
  · grind
  · grind
  · grind
  · rcases List.mem_cons.1 h with rfl | h
    · decide
    · rcases List.mem_cons.1 h with rfl | h
      · decide
      · obtain ⟨n, hn, rfl⟩ := Text.exists_digitChar_of_mem_fixedHex h
        exact hdigits n hn
  · obtain rfl := List.mem_singleton.1 h
    exact ⟨hfeed, hreturn⟩

/-- A quoted text breaks no line: line ends in it are escaped. -/
theorem unbroken_quote (text : String) : Unbroken (quote text) := by
  have hchars : ∀ d ∈ quoteChars text.toList, d ≠ '\n' ∧ d ≠ '\r' := by
    intro d hd
    rcases List.mem_append.1 hd with hd | hd
    · rcases List.mem_cons.1 hd with rfl | hd
      · decide
      · obtain ⟨c, -, hd⟩ := List.mem_flatMap.1 hd
        exact ne_of_mem_escape hd
    · obtain rfl := List.mem_singleton.1 hd
      decide
  rw [Unbroken, quote, String.toList_ofList]
  exact ⟨fun hd => (hchars _ hd).1 rfl, fun hd => (hchars _ hd).2 rfl⟩

/-! ## Lines -/

/-- The line of a constant without its end. -/
def Constant.row (typeName : String) (c : Constant) : String :=
  "\t" ++ c.name ++ cellText ++ typeName ++ cellText ++ "= " ++ quote c.value

/-- The line of a field without its end. -/
def Field.row (f : Field) : String :=
  "\t" ++ f.name ++ cellText ++ f.type.text ++ cellText ++ f.tag

/-- The lines of a declaration. -/
def Declaration.lines : Declaration → List String
  | .enumeration name source constants =>
    ["// " ++ name ++ " enumerates values for " ++ source ++ ".", "type " ++ name ++ " string",
      ""] ++
      if constants.isEmpty then [] else ["const ("] ++ constants.map (·.row name) ++ [")", ""]
  | .struct name origin fields =>
    ["// " ++ name ++ " is generated from the entity model " ++ origin.word ++ ".",
      "type " ++ name ++ " struct \x7b"] ++ fields.map (·.row) ++ ["\x7d", ""]

/-- The line that imports points in time. -/
def importLine : String := "import \"time\""

/-- The lines of a file before it is laid out. -/
def File.lines (f : File) : List String :=
  ["// Code generated by " ++ f.generator ++ ". DO NOT EDIT.", "package " ++ f.package, ""] ++
    (if f.usesTime then [importLine, ""] else []) ++ f.declarations.flatMap (·.lines)

/-- The characters of lines, each ended by a line feed. -/
def charsOf (ls : List String) : List Char := Text.unlines (ls.map (·.toList))

/-- No lines have no characters. -/
@[simp] theorem charsOf_nil : charsOf [] = [] := rfl

/-- The characters of a first line, its end, and those of the other lines. -/
@[simp] theorem charsOf_cons (l : String) (ls : List String) :
    charsOf (l :: ls) = l.toList ++ '\n' :: charsOf ls := Text.unlines_cons _ _

/-- The characters of lines one after the other. -/
@[simp] theorem charsOf_append (a b : List String) :
    charsOf (a ++ b) = charsOf a ++ charsOf b := by
  simp only [charsOf, Text.unlines, List.map_append, List.flatMap_append]

/-- A text of one line for each value has the characters of these lines. -/
theorem charsOf_map {α : Type} (f : α → String) (xs : List α) :
    charsOf (xs.map f) = (String.join (xs.map fun x => f x ++ "\n")).toList := by
  simp only [charsOf, Text.unlines, List.map_map, List.flatMap_map, String.toList_join,
    String.toList_append]
  rfl

/-- A text of several lines for each value has the characters of these lines. -/
theorem charsOf_flatMap {α : Type} {f : α → List String} {g : α → String}
    (h : ∀ x, (g x).toList = charsOf (f x)) (xs : List α) :
    charsOf (xs.flatMap f) = (String.join (xs.map g)).toList := by
  induction xs with
  | nil => rfl
  | cons x xs ih =>
    rw [List.flatMap_cons, charsOf_append, ih, ← h]
    simp only [String.toList_join, List.map_cons, List.flatMap_cons]

/-- The text of a declaration consists of its lines. -/
theorem Declaration.toList_text (d : Declaration) : d.text.toList = charsOf d.lines := by
  cases d with
  | enumeration name source constants =>
    have hconstants : charsOf (constants.map (·.row name)) =
        (String.join (constants.map (·.line name))).toList := charsOf_map _ _
    by_cases hempty : constants.isEmpty = true
    · simp [text, lines, hempty, String.toList_append]
    · simp [text, lines, hempty, hconstants, String.toList_append]
  | struct name origin fields =>
    have hfields : charsOf (fields.map (·.row)) = (String.join (fields.map (·.line))).toList :=
      charsOf_map _ _
    simp [text, lines, hfields, String.toList_append]

/-- The text of a file is its lines, each ended by a line feed. -/
theorem File.toList_text (f : File) : f.text.toList = charsOf f.lines := by
  have hdeclarations := charsOf_flatMap Declaration.toList_text f.declarations
  unfold text lines
  cases f.usesTime with
  | true => simp [hdeclarations, importLine, String.toList_append]
  | false => simp [hdeclarations, String.toList_append]

/-- Lines without line feeds and carriage returns at their ends are read back. -/
theorem lines_charsOf {ls : List String}
    (h : ∀ l ∈ ls, '\n' ∉ l.toList ∧ l.toList.getLast? ≠ some '\r') :
    Text.lines (charsOf ls) = ls.map (·.toList) :=
  Text.lines_unlines (List.forall_mem_map.2 h)

/-- A text that breaks no line does not end in a carriage return. -/
theorem Unbroken.getLast?_ne {l : String} (h : Unbroken l) : l.toList.getLast? ≠ some '\r' :=
  fun hlast => h.2 (List.mem_of_getLast? hlast)

/-- The tool that made a file may have any name on one line. -/
theorem File.lines_text {f : File} (hgenerator : '\n' ∉ f.generator.toList)
    (h : ∀ l ∈ f.lines.tail, Unbroken l) : Text.lines f.text.toList = f.lines.map (·.toList) := by
  rw [toList_text]
  refine lines_charsOf (List.forall_mem_cons.2
    ⟨⟨?_, ?_⟩, fun l hl => ⟨(h l hl).1, (h l hl).getLast?_ne⟩⟩)
  · simp [String.toList_append, hgenerator]
  · rw [String.toList_append, List.getLast?_append_of_ne_nil _ (by decide)]
    decide

/-! ## Starts of lines -/

/-- What the lines of a declaration start with. -/
theorem Declaration.head?_lines (d : Declaration) :
    ∀ l ∈ d.lines, ∀ c ∈ l.toList.head?, c ∈ ['/', 't', 'c', '\t', ')', '\x7d'] := by
  cases d with
  | enumeration name source constants =>
    refine List.forall_mem_append.2 ⟨by simp [String.toList_append], ?_⟩
    by_cases hempty : constants.isEmpty = true
    · simp [hempty]
    · rw [if_neg hempty]
      refine List.forall_mem_append.2 ⟨List.forall_mem_append.2 ⟨by simp, ?_⟩, by simp⟩
      exact List.forall_mem_map.2 fun c _ => by simp [Constant.row, String.toList_append]
  | struct name origin fields =>
    refine List.forall_mem_append.2
      ⟨List.forall_mem_append.2 ⟨by simp [String.toList_append], ?_⟩, by simp⟩
    exact List.forall_mem_map.2 fun f _ => by simp [Field.row, String.toList_append]

/-- What the lines of a file start with. The import alone starts with its letter. -/
theorem File.head?_lines (f : File) : ∀ l ∈ f.lines, ∀ c ∈ l.toList.head?,
    c ∈ ['/', 'p', 't', 'c', '\t', ')', '\x7d'] ∨ c = 'i' ∧ f.usesTime = true ∧ l = importLine := by
  refine List.forall_mem_append.2 ⟨List.forall_mem_append.2 ⟨?_, ?_⟩, ?_⟩
  · simp [String.toList_append]
  · cases f.usesTime with
    | true => simp [importLine]
    | false => simp
  · intro l hl c hc
    obtain ⟨d, -, hd⟩ := List.mem_flatMap.1 hl
    have := d.head?_lines l hd c hc
    grind

/-- A file has the import line exactly if it uses points in time. -/
theorem File.importLine_mem_iff (f : File) : importLine ∈ f.lines ↔ f.usesTime = true := by
  constructor
  · intro h
    rcases f.head?_lines _ h 'i' (by decide) with hhead | ⟨-, huses, -⟩
    · exact absurd hhead (by decide)
    · exact huses
  · intro h
    simp [lines, h]

/-! ## Laid out files -/

/-- Laid out source code is made of laid out lines. -/
theorem File.lines_layout {f : File} {source : String} (hgenerator : '\n' ∉ f.generator.toList)
    (h : ∀ l ∈ f.lines.tail, Unbroken l) (hsource : layout f.text = .ok source) :
    Text.lines source.toList = layoutLines (f.lines.map (·.toList)) := by
  obtain ⟨_, -, hsource⟩ := Outcome.bind_eq_ok_iff.1 hsource
  rw [← Except.ok.inj hsource, String.toList_ofList, lines_text hgenerator h]
  have hfirst : '\n' ∉ ("// Code generated by " ++ f.generator ++ ". DO NOT EDIT.").toList := by
    simp [String.toList_append, hgenerator]
  exact lines_unlines_layoutLines (List.forall_mem_map.2
    (List.forall_mem_cons.2 ⟨hfirst, fun l hl => (h l hl).1⟩))

/-- A first line without cells stays the first line, if its last character is not blank. -/
theorem isPrefix_of_layout_eq_ok {text source : String} {line rest : List Char} {c : Char}
    (hfeed : '\n' ∉ line) (hcell : cell ∉ line) (hlast : c ∈ line.getLast?)
    (hc : Text.isBlank c = false) (htext : text.toList = line ++ '\n' :: rest)
    (h : layout text = .ok source) : line ++ ['\n'] <+: source.toList := by
  obtain ⟨_, -, hsource⟩ := Outcome.bind_eq_ok_iff.1 h
  have htrim : Text.trimEnd line = line := Text.trimEnd_eq_self hlast hc
  have hreturn : line.getLast? ≠ some '\r' := by
    rw [Option.mem_def.1 hlast]
    rintro ⟨⟩
    exact absurd hc (by decide)
  have hne : Text.trimEnd line ≠ [] := by
    rw [htrim]
    rintro rfl
    cases hlast
  obtain ⟨more, hmore⟩ := exists_layoutLines_cons hcell hne (Text.lines rest)
  rw [← Except.ok.inj hsource, String.toList_ofList, htext, Text.lines_line hfeed hreturn, hmore,
    htrim, Text.unlines_cons]
  exact ⟨Text.unlines more, by simp⟩

/-- The import is there when the lines are laid out if it is there before. -/
theorem File.importLine_mem_layoutLines_iff (f : File) :
    importLine.toList ∈ layoutLines (f.lines.map (·.toList)) ↔ f.usesTime = true := by
  have hblank : ∀ c ∈ ['/', 'p', 't', 'c', '\t', ')', '\x7d', 'i'],
      c = '\t' ∨ Text.isBlank c = false := by
    simp only [List.forall_mem_cons, List.not_mem_nil, false_imp_iff, implies_true]
    decide
  have hstarts : ∀ line ∈ f.lines.map (·.toList), ∀ c ∈ line.head?,
      c = '\t' ∨ Text.isBlank c = false := by
    refine List.forall_mem_map.2 fun l hl c hc => hblank c ?_
    rcases f.head?_lines l hl c hc with hhead | ⟨rfl, -, -⟩
    · exact List.mem_append_left ['i'] hhead
    · decide
  constructor
  · intro h
    obtain ⟨line, hline, hi⟩ := head?_of_mem_layoutLines hstarts h (c := 'i') (by decide)
    obtain ⟨l, hl, rfl⟩ := List.mem_map.1 hline
    rcases f.head?_lines l hl 'i' hi with hhead | ⟨-, huses, -⟩
    · exact absurd hhead (by decide)
    · exact huses
  · intro h
    have hline := List.mem_map_of_mem (f := (·.toList)) (f.importLine_mem_iff.2 h)
    exact trimEnd_mem_layoutLines hline (by decide) (by decide)

/-- A file is laid out if its lines are not broken, and the brackets and literals on them are
closed. -/
theorem exists_generate {package generator : String} {s : Schema} {f : File} {ls : List String}
    (hf : file package generator s = .ok f) (hls : f.lines = ls) (h : ∀ l ∈ ls, Unbroken l)
    (hcheck : checkDelimiters (ls.map (·.toList)) = .ok ()) :
    ∃ source, generate package generator s = .ok source := by
  have hlines : Text.lines f.text.toList = ls.map (·.toList) := by
    rw [f.toList_text, hls]
    exact lines_charsOf fun l hl => ⟨(h l hl).1, (h l hl).getLast?_ne⟩
  rw [← hlines] at hcheck
  exact ⟨_, generate_eq_ok_iff.2 ⟨f, hf, Outcome.bind_eq_ok_iff.2 ⟨(), hcheck, rfl⟩⟩⟩

end EntityModel.Go
