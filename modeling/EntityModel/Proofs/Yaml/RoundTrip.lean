import EntityModel.Proofs.Yaml.Lines

/-! # Documents are read back

Reading the document of a value gives the value, with the members of objects in ascending order of
names (`decode_encode`). Reading follows the writing: strings character by character, entries by
their heads, and blocks entry by entry, as the lines of an entry are the ones up to the next line of
its level. -/

namespace EntityModel.Yaml

open Json

/-! ## Values as they are read -/

namespace Node

mutual

/-- The value with the texts of its numbers. -/
def ofValue : Value → Node
  | .null => .null
  | .bool b => .bool b
  | .number n => .number n.text
  | .string s => .string s
  | .array items => .array (ofItems items)
  | .object members => .object (ofMembers members)

/-- The items of an array. -/
def ofItems : List Value → List Node
  | [] => []
  | item :: rest => ofValue item :: ofItems rest

/-- The members of an object. -/
def ofMembers : List (String × Value) → List (String × Node)
  | [] => []
  | (name, value) :: rest => (name, ofValue value) :: ofMembers rest

end

mutual

/-- The value with the members of every object in it in ascending order of names. -/
def sorted : Node → Node
  | .array items => .array (sortedItems items)
  | .object members => .object ((sortedMembers members).mergeSort fun a b => a.1 ≤ b.1)
  | node => node

/-- The items with their members in order. -/
def sortedItems : List Node → List Node
  | [] => []
  | item :: rest => item.sorted :: sortedItems rest

/-- The members' values with their members in order. -/
def sortedMembers : List (String × Node) → List (String × Node)
  | [] => []
  | (name, node) :: rest => (name, node.sorted) :: sortedMembers rest

end

/-- The nodes of items are made one by one. -/
theorem ofItems_eq (items : List Value) : ofItems items = items.map ofValue := by
  induction items with
  | nil => rw [ofItems, List.map_nil]
  | cons item rest ih => rw [ofItems, ih, List.map_cons]

/-- The nodes of members are made one by one. -/
theorem ofMembers_eq (members : List (String × Value)) :
    ofMembers members = members.map fun member => (member.1, ofValue member.2) := by
  induction members with
  | nil => rw [ofMembers, List.map_nil]
  | cons member rest ih => rw [ofMembers, ih, List.map_cons]

/-- The items of a node are sorted one by one. -/
theorem sortedItems_eq (items : List Node) : sortedItems items = items.map sorted := by
  induction items with
  | nil => rw [sortedItems, List.map_nil]
  | cons item rest ih => rw [sortedItems, ih, List.map_cons]

/-- The members of a node are sorted one by one. -/
theorem sortedMembers_eq (members : List (String × Node)) :
    sortedMembers members = members.map fun member => (member.1, member.2.sorted) := by
  induction members with
  | nil => rw [sortedMembers, List.map_nil]
  | cons member rest ih => rw [sortedMembers, ih, List.map_cons]

/-- The sorted node of an array has the sorted nodes of its items. -/
theorem sorted_ofValue_array (items : List Value) :
    (ofValue (.array items)).sorted = .array (items.map fun item => (ofValue item).sorted) := by
  rw [ofValue, sorted, sortedItems_eq, ofItems_eq, List.map_map]
  rfl

/-- The sorted node of an object has the sorted nodes of its members, by ascending names. -/
theorem sorted_ofValue_object (members : List (String × Value)) :
    (ofValue (.object members)).sorted =
      .object ((members.mergeSort fun a b => a.1 ≤ b.1).map fun member =>
        (member.1, (ofValue member.2).sorted)) := by
  have hsort := List.map_mergeSort (l := members) (r := fun a b => a.1 ≤ b.1)
    (s := fun a b => a.1 ≤ b.1) (f := fun m => (m.1, (ofValue m.2).sorted)) fun _ _ _ _ => rfl
  rw [ofValue, sorted, sortedMembers_eq, ofMembers_eq, List.map_map, hsort]
  rfl

/-- A value whose members stand in order stays as it is. -/
theorem sorted_ofValue_of_ordered {v : Value} (h : v.Ordered) : (ofValue v).sorted = ofValue v := by
  induction v using Value.induction with
  | null => rfl
  | bool b => rfl
  | number n => rfl
  | string s => rfl
  | array items ih =>
    rw [Value.Ordered, Value.orderedItems_iff] at h
    rw [sorted_ofValue_array, ofValue, ofItems_eq]
    exact congrArg Node.array (List.map_congr_left fun item hitem => ih item hitem (h item hitem))
  | object members ih =>
    rw [Value.Ordered, Value.orderedMembers_iff] at h
    obtain ⟨hascending, hmembers⟩ := h
    have hsorted : (members.mergeSort fun a b => a.1 ≤ b.1) = members :=
      List.mergeSort_of_pairwise (hascending.imp fun hlt => decide_eq_true (Std.le_of_lt hlt))
    rw [sorted_ofValue_object, hsorted, ofValue, ofMembers_eq]
    refine congrArg Node.object (List.map_congr_left fun member hmember => ?_)
    rw [ih member hmember (hmembers member hmember)]

end Node

/-! ## Strings -/

/-- A character with a small code is read back from its four digits. -/
theorem charOfHex?_fixedHex {c : Char} (h : c.toNat < Nat.pow 16 4) :
    charOfHex? (Text.upperHex (Text.fixedHex 4 c.toNat)) = some c := by
  rw [charOfHex?, Text.readHex?_upperHex_fixedHex h]
  change (if c.toNat.isValidChar then some (Char.ofNat c.toNat) else none) = some c
  rw [if_pos (show c.toNat.isValidChar from c.valid), Char.ofNat_toNat]

/-- A character that is written with its code is read back. -/
theorem readQuoted_code {c : Char} (h : c.toNat < Nat.pow 16 4) (rest : List Char) :
    readQuoted ('\\' :: 'u' :: Text.upperHex (Text.fixedHex 4 c.toNat) ++ rest) =
      (readQuoted rest).bind fun (text, behind) => some (c :: text, behind) := by
  have hread := charOfHex?_fixedHex h
  have hlength : (Text.upperHex (Text.fixedHex 4 c.toNat)).length = 4 := by
    rw [Text.upperHex, List.length_map, Text.length_fixedHex]
  generalize Text.upperHex (Text.fixedHex 4 c.toNat) = digits at hread hlength
  obtain ⟨d₁, d₂, d₃, d₄, rfl⟩ : ∃ d₁ d₂ d₃ d₄, digits = [d₁, d₂, d₃, d₄] := by
    match digits, hlength with
    | [d₁, d₂, d₃, d₄], _ => exact ⟨d₁, d₂, d₃, d₄, rfl⟩
  simp only [List.cons_append, List.nil_append, readQuoted, hread]
  rfl

/-- What is escaped by its code has a small one. -/
theorem toNat_lt_of_isControl {c : Char}
    (h : (Text.isControl c || c = '\u2028' || c = '\u2029') = true) : c.toNat < Nat.pow 16 4 := by
  simp only [Bool.or_eq_true, decide_eq_true_eq] at h
  rcases h with (h | rfl) | rfl
  · exact Nat.lt_of_le_of_lt (Text.toNat_le_of_isControl h) (by decide)
  · decide
  · decide

/-- A character is read back from its written form. -/
theorem readQuoted_escape (c : Char) (rest : List Char) :
    readQuoted (escape c ++ rest) =
      (readQuoted rest).bind fun (text, behind) => some (c :: text, behind) := by
  unfold escape
  repeat' split
  -- The characters with a letter of their own.
  any_goals
    rename_i h
    rw [h]
    rfl
  · rename_i hcode
    exact readQuoted_code (toNat_lt_of_isControl hcode) rest
  · rename_i hbackslash _ _ _ _
    simp [readQuoted, hbackslash]

/-- The text of a string is read back up to the closing quote. -/
theorem readQuoted_flatMap_escape (text rest : List Char) :
    readQuoted (text.flatMap escape ++ '"' :: rest) = some (text, rest) := by
  induction text with
  | nil => rfl
  | cons c text ih =>
    rw [List.flatMap_cons, List.append_assoc, readQuoted_escape, ih]
    rfl

/-- The characters of a quoted text are the escaped ones between two quotes. -/
theorem toList_quote (text : String) :
    (quote text).toList = '"' :: (text.toList.flatMap escape ++ ['"']) := by
  rw [quote, String.toList_ofList, quoteChars, List.cons_append]

/-! ## Scalars -/

/-- A number is read as it stands. -/
theorem scalar?_of_isNumberScalar {text : List Char} (h : isNumberScalar text = true) :
    scalar? text = some (.number (String.ofList text)) := by
  unfold scalar?
  split
  · cases h
  · rw [if_pos h]

/-- A quoted text is read back. -/
theorem scalar?_quote (s : String) : scalar? (quote s).toList = some (.string s) := by
  rw [toList_quote, scalar?, readQuoted_flatMap_escape]
  simp only [String.ofList_toList]

/-- The text of a scalar is read back. -/
theorem scalar?_inline {v : Value} (h : isBlock v = false) :
    scalar? (inline v).toList = some (Node.ofValue v).sorted := by
  cases v with
  | null => rfl
  | bool b => cases b <;> rfl
  | number n =>
    rw [inline, scalar?_of_isNumberScalar (isNumberScalar_text n), String.ofList_toList]
    rfl
  | string s => exact scalar?_quote s
  | array items =>
    cases items with
    | nil => rfl
    | cons item rest => cases h
  | object members =>
    cases members with
    | nil =>
      rw [Node.sorted_ofValue_object, List.mergeSort_nil]
      rfl
    | cons member rest => cases h

/-! ## Heads -/

/-- A plain name is read back up to the colon. -/
theorem readHead?_of_isPlainName {name : String} (h : isPlainName name = true)
    (behind : List Char) :
    readHead? (name.toList ++ ':' :: behind) = some (.member name, behind) := by
  obtain ⟨first, rest, hname, hfirst, hall⟩ := exists_of_isPlainName h
  have hcolon : ∀ c ∈ (':' :: behind).head?, isPlainPart c = false := by
    rintro c ⟨⟩
    decide
  obtain ⟨htake, hdrop⟩ := span_append hall hcolon
  -- A plain name starts neither like an item nor with a quote.
  have hstart : ∀ {c : Char} {text : List Char}, isPlainStart c = false →
      name.toList ++ ':' :: behind ≠ c :: text := by
    intro c text hc heq
    rw [hname] at heq
    obtain ⟨rfl, -⟩ := List.cons.inj heq
    rw [hc] at hfirst
    cases hfirst
  unfold readHead?
  split
  · rename_i hhead
    exact absurd hhead (hstart (by decide))
  · rename_i hhead
    exact absurd hhead (hstart (by decide))
  · simp only [htake, hdrop, String.ofList_toList, h, if_true]

/-- A head is read back. -/
theorem readHead?_text (h : Head) (behind : List Char) :
    readHead? (h.text.toList ++ behind) = some (h, behind) := by
  cases h with
  | item => rfl
  | member name =>
    rw [Head.text, String.toList_append, List.append_assoc, nameText]
    split
    · rename_i hplain
      exact readHead?_of_isPlainName hplain behind
    · rw [toList_quote, List.cons_append, List.append_assoc, List.cons_append, readHead?,
        List.nil_append, readQuoted_flatMap_escape]
      simp

/-- A number that starts like a head has more behind it, which is no blank. -/
theorem readHead?_number {text : List Char} (h : isNumberScalar text = true) {head : Head}
    {behind : List Char} (hread : readHead? text = some (head, behind)) :
    behind ≠ [] ∧ behind.head? ≠ some ' ' := by
  have hchars := isNumberChar_of_isNumberScalar h
  unfold readHead? at hread
  split at hread
  · cases hread
    refine ⟨fun hnil => ?_, fun hblank => ?_⟩
    · rw [hnil] at h
      cases h
    · exact absurd (hchars ' ' (List.mem_cons_of_mem _ (List.mem_of_head? hblank))) (by decide)
  · exact absurd (hchars '"' List.mem_cons_self) (by decide)
  · split at hread
    · rename_i hdrop
      have hmem : ':' ∈ text :=
        (List.dropWhile_sublist isPlainPart).subset (hdrop ▸ List.mem_cons_self)
      exact absurd (hchars ':' hmem) (by decide)
    · cases hread

/-- A quoted text starts no entry. -/
theorem readHead?_quote (s : String) : readHead? (quote s).toList = none := by
  rw [toList_quote, readHead?, readQuoted_flatMap_escape]

/-- A scalar is no entry. -/
theorem readHead?_inline {v : Value} {head : Head} {behind : List Char}
    (hread : readHead? (inline v).toList = some (head, behind)) :
    behind ≠ [] ∧ behind.head? ≠ some ' ' := by
  cases v with
  | null => cases hread
  | bool b => cases b <;> cases hread
  | number n => exact readHead?_number (isNumberScalar_text n) hread
  | string s =>
    rw [inline, readHead?_quote] at hread
    cases hread
  | array items =>
    rw [inline] at hread
    cases hread
  | object members =>
    rw [inline] at hread
    cases hread

/-! ## Blocks -/

/-- An entry as it is read. -/
def readEntry (entry : Head × Value) : Head × Node := (entry.1, (Node.ofValue entry.2).sorted)

/-- Entries that are items make an array. -/
theorem ofEntries?_items {nodes : List Node} (h : nodes ≠ []) :
    ofEntries? (nodes.map fun node => (.item, node)) = some (.array nodes) := by
  have hitems : items? (nodes.map fun node => (.item, node)) = some nodes := by
    clear h
    induction nodes with
    | nil => rfl
    | cons node rest ih =>
      rw [items?] at ih ⊢
      rw [List.map_cons, List.mapM_cons, ih]
      rfl
  cases nodes with
  | nil => exact absurd rfl h
  | cons node rest =>
    rw [List.map_cons] at hitems ⊢
    rw [ofEntries?, hitems]
    · rfl
    · simp

/-- Entries that are members make an object. -/
theorem ofEntries?_members {members : List (String × Node)} (h : members ≠ []) :
    ofEntries? (members.map fun member => (.member member.1, member.2)) =
      some (.object members) := by
  have hmembers :
      members? (members.map fun member => (.member member.1, member.2)) = some members := by
    clear h
    induction members with
    | nil => rfl
    | cons member rest ih =>
      rw [members?] at ih ⊢
      rw [List.map_cons, List.mapM_cons, ih]
      rfl
  cases members with
  | nil => exact absurd rfl h
  | cons member rest =>
    have hitems : ∀ entries, items? ((.member member.1, member.2) :: entries) = none := by
      intro entries
      rw [items?, List.mapM_cons]
      rfl
    rw [List.map_cons] at hmembers ⊢
    rw [ofEntries?, hitems, hmembers]
    · rfl
    · simp

/-- The entries of a block make its value. -/
theorem ofEntries?_blockEntries {v : Value} (h : isBlock v = true) :
    ofEntries? ((blockEntries v).map readEntry) = some (Node.ofValue v).sorted := by
  match v, h with
  | .array (item :: rest), _ =>
    have hne : ((item :: rest).map fun item => (Node.ofValue item).sorted) ≠ [] := by simp
    have hread := ofEntries?_items hne
    rw [List.map_map] at hread
    rw [Node.sorted_ofValue_array, blockEntries, List.map_map]
    exact hread
  | .object (member :: rest), _ =>
    have hne : (((member :: rest).mergeSort fun a b => a.1 ≤ b.1).map fun member =>
        (member.1, (Node.ofValue member.2).sorted)) ≠ [] := by
      rw [ne_eq, List.map_eq_nil_iff, ← List.length_eq_zero_iff, List.length_mergeSort]
      simp
    have hread := ofEntries?_members hne
    rw [List.map_map] at hread
    rw [Node.sorted_ofValue_object, blockEntries, List.map_map]
    exact hread

/-- An entry is read from its line and the lines up to the next one of its level. -/
theorem entries?_entry {level : Nat} {text : String} {head : Head} {behind : List Char}
    {below rest : List Line} (hread : readHead? text.toList = some (head, behind))
    (hbelow : ∀ l ∈ below, level < l.level) (hrest : ∀ l ∈ rest.head?, l.level = level) :
    entries? level (⟨level, text⟩ :: below ++ rest) =
      (entryValue? behind below (entries? (level + 1) below)).bind fun node =>
        (entries? level rest).map ((head, node) :: ·) := by
  -- The lines below the entry end where the next entry starts.
  obtain ⟨htake, hdrop⟩ := span_append (p := fun l : Line => decide (level < l.level))
    (fun l hl => decide_eq_true (hbelow l hl))
    (fun l hl => decide_eq_false (by rw [hrest l hl]; exact Nat.lt_irrefl level))
  rw [List.cons_append, entries?, htake, hdrop]
  simp only [hread, Option.map_eq_bind]
  rfl

/-- An entry is read back, and the entries behind it are read next. -/
theorem entries?_writeEntry {level : Nat} {entry : Head × Value} {rest : List Line}
    (hblock : isBlock entry.2 = true → (entries? (level + 1) (lines (level + 1) entry.2)).bind
      ofEntries? = some (Node.ofValue entry.2).sorted)
    (hrest : ∀ l ∈ rest.head?, l.level = level) :
    entries? level (writeEntry level entry ++ rest) =
      (entries? level rest).map (readEntry entry :: ·) := by
  obtain ⟨head, value⟩ := entry
  rw [writeEntry, entryLines]
  split
  · rename_i hvalue
    have hread := readHead?_text head []
    rw [List.append_nil] at hread
    rw [entries?_entry hread (fun l hl => le_level_of_mem_lines hl) hrest, entryValue?,
      hblock hvalue]
    rfl
  · rename_i hvalue
    have hread : readHead? (head.text ++ " " ++ inline value).toList =
        some (head, ' ' :: (inline value).toList) := by
      rw [String.toList_append, String.toList_append, List.append_assoc]
      exact readHead?_text head _
    rw [entries?_entry hread (by simp) hrest, entryValue?, scalar?_inline (by simpa using hvalue)]
    rfl

/-- Entries are read back from their lines if their blocks are. -/
theorem entries?_flatMap {level : Nat} {entries : List (Head × Value)}
    (hblock : ∀ entry ∈ entries, isBlock entry.2 = true →
      (entries? (level + 1) (lines (level + 1) entry.2)).bind ofEntries? =
        some (Node.ofValue entry.2).sorted) :
    entries? level (entries.flatMap (writeEntry level)) = some (entries.map readEntry) := by
  induction entries with
  | nil => rw [List.flatMap_nil, entries?, List.map_nil]
  | cons entry rest ih =>
    obtain ⟨hentry, hrest⟩ := List.forall_mem_cons.1 hblock
    rw [List.flatMap_cons, entries?_writeEntry hentry fun _ => level_head_flatMap, ih hrest]
    rfl

/-- The lines of a block are read back. -/
theorem entries?_lines {v : Value} (h : isBlock v = true) (level : Nat) :
    (entries? level (lines level v)).bind ofEntries? = some (Node.ofValue v).sorted := by
  -- A block inside stands one level below, so the level is not fixed in the induction.
  induction v using block_induction generalizing level with
  | scalar v hv => rw [hv] at h; cases h
  | block v hv ih =>
    rw [lines_eq_flatMap hv, entries?_flatMap fun entry hentry he => ih entry hentry he (level + 1)]
    exact ofEntries?_blockEntries hv

/-! ## Documents -/

/-- The line as characters, without its end. -/
def Line.chars (l : Line) : List Char := List.replicate (2 * l.level) ' ' ++ l.text.toList

/-- A line is read back. -/
theorem readLine?_chars {l : Line} (h : IsReadable l.text.toList) : readLine? l.chars = some l := by
  have hblanks : ∀ c ∈ List.replicate (2 * l.level) ' ', decide (c = ' ') = true :=
    fun c hc => decide_eq_true (List.eq_of_mem_replicate hc)
  have htext : ∀ c ∈ l.text.toList.head?, decide (c = ' ') = false :=
    fun c hc => decide_eq_false fun hblank => h.blank (hblank ▸ hc)
  obtain ⟨htake, hdrop⟩ := span_append hblanks htext
  rw [readLine?, Line.chars, htake, hdrop, List.length_replicate, Nat.mul_mod_right, if_pos rfl,
    Nat.mul_div_cancel_left _ (by decide), String.ofList_toList]

/-- Lines that can be read are read back. -/
theorem mapM_readLine?_chars {ls : List Line} (h : ∀ l ∈ ls, IsReadable l.text.toList) :
    (ls.map Line.chars).mapM readLine? = some ls := by
  induction ls with
  | nil => rfl
  | cons l ls ih =>
    obtain ⟨hl, hls⟩ := List.forall_mem_cons.1 h
    rw [List.map_cons, List.mapM_cons, readLine?_chars hl, ih hls]
    rfl

/-- A document is made of the lines of its value. -/
theorem toList_encode (v : Value) :
    (encode v).toList = Text.unlines ((lines 0 v).map Line.chars) := by
  rw [encode, String.toList_join, Text.unlines, List.flatMap_map, List.flatMap_map]
  congr 1
  funext l
  rw [Line.render, Line.chars, String.toList_append, String.toList_append, String.toList_ofList]
  rfl

/-- The lines of a document are read back. -/
theorem mapM_readLine?_encode (v : Value) :
    (Text.lines (encode v).toList).mapM readLine? = some (lines 0 v) := by
  have hreadable : ∀ l ∈ lines 0 v, IsReadable l.text.toList := fun _ => isReadable_of_mem_lines
  have hends : ∀ l ∈ lines 0 v, ∀ c ∈ l.chars, isLineEnd c = false := by
    intro l hl c hc
    rcases List.mem_append.1 hc with hc | hc
    · rw [List.eq_of_mem_replicate hc]
      decide
    · exact (hreadable l hl).ends c hc
  -- No line has an end inside, so the text is divided where the lines were joined.
  rw [toList_encode, Text.lines_unlines, mapM_readLine?_chars hreadable]
  refine List.forall_mem_map.2 fun l hl => ⟨fun hmem => ?_, fun hlast => ?_⟩
  · exact absurd (hends l hl _ hmem) (by decide)
  · exact absurd (hends l hl _ (List.mem_of_getLast? hlast)) (by decide)

/-- A line with a scalar has no entry. -/
theorem entries?_inline (v : Value) : entries? 0 [⟨0, inline v⟩] = none := by
  rw [entries?]
  cases hread : readHead? (inline v).toList with
  | none => rfl
  | some entry =>
    obtain ⟨head, behind⟩ := entry
    obtain ⟨hne, hblank⟩ := readHead?_inline hread
    have hnone : ∀ entries, entryValue? behind [] entries = none := by
      intro entries
      unfold entryValue?
      split
      · exact absurd rfl hne
      · exact absurd rfl hblank
      · rfl
    simp [hnone]

/-- The lines of a value are the value. -/
theorem ofLines?_lines (v : Value) : ofLines? (lines 0 v) = some (Node.ofValue v).sorted := by
  unfold ofLines?
  cases hblock : isBlock v with
  | true => rw [entries?_lines hblock, Option.some_or]
  | false =>
    rw [lines_of_not_isBlock hblock, entries?_inline, Option.bind_none, Option.none_or]
    exact scalar?_inline hblock

/-- What is read from the document of a value is its node with sorted members. -/
theorem decode_encode_eq_sorted (v : Value) :
    decode (encode v) = some (Node.ofValue v).sorted := by
  rw [decode, mapM_readLine?_encode]
  exact ofLines?_lines v

/-- **Nothing is lost in a document**: it is read back as the value it is written for, with the
members of objects in ascending order of names. So values in that order are read back as they are,
and values with the same document differ in nothing but the order of members. -/
theorem decode_encode (v w : Value) :
    decode (encode v) = some (Node.ofValue v).sorted ∧
      (v.Ordered → decode (encode v) = some (Node.ofValue v)) ∧
      (encode v = encode w → (Node.ofValue v).sorted = (Node.ofValue w).sorted) := by
  refine ⟨decode_encode_eq_sorted v, fun hordered => ?_, fun hsame => ?_⟩
  · rw [decode_encode_eq_sorted, Node.sorted_ofValue_of_ordered hordered]
  · have hread := decode_encode_eq_sorted v
    rw [hsame, decode_encode_eq_sorted w] at hread
    exact (Option.some.inj hread).symm

end EntityModel.Yaml
