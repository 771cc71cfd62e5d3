import EntityModel.Proofs.Go.Lexemes
import EntityModel.Proofs.Outcome

/-! # The first fault of source code

The brackets of a text are in order if they are nested (`Nested`). If they are not, or if a literal
is not closed, there is a first fault: in reading order a closing bracket that closes none or a
literal without an end, or else, at the end of the text, the innermost bracket that is still open
(`FirstFault`). Source code is laid out exactly if it has no fault, and otherwise the first one is
what is reported (`layout_refuses_first_fault`). -/

namespace EntityModel.Go

/-! ## Faults -/

/-- Behind these marks the closing bracket closes the opening one of its kind: only nested brackets
stand between the two. -/
def Closes (before : List Mark) (c : Char) : Prop :=
  ∃ start opening inner, before = start ++ .bracket opening :: inner ∧ Nested inner ∧
    opening? c = some opening

/-- Behind these marks the mark is a fault. An opening bracket never is. -/
def Mark.IsFault (before : List Mark) : Mark → Prop
  | .bracket c => opening? c ≠ none ∧ ¬Closes before c
  | .unterminated _ => True

/-- The error for a mark of a line. -/
def Mark.error (line : Nat) : Mark → SourceError
  | .bracket c => .unbalanced line c
  | .unterminated literal => .unterminated literal

/-- No mark is a fault. There may be brackets that are still open. -/
def Sound (ms : List Mark) : Prop := ∀ before m, before ++ [m] <+: ms → ¬m.IsFault before

/-- What is wrong first with marks and their lines. -/
inductive FirstFault (ms : List (Mark × Nat)) : SourceError → Prop
  /-- A mark is a fault, and none in front of it is. -/
  | fault {before after : List (Mark × Nat)} {m : Mark} {line : Nat}
      (hms : ms = before ++ (m, line) :: after) (hbefore : Sound (before.map Prod.fst))
      (hfault : m.IsFault (before.map Prod.fst)) : FirstFault ms (m.error line)
  /-- No mark is a fault, but a bracket is still open, and it is the innermost one. -/
  | unclosed {before after : List (Mark × Nat)} {c : Char} {line : Nat}
      (hms : ms = before ++ (.bracket c, line) :: after) (hsound : Sound (ms.map Prod.fst))
      (hopening : opening? c = none) (hafter : Nested (after.map Prod.fst)) :
      FirstFault ms (.unbalanced line c)

/-! ## Sound marks -/

/-- A start of sound marks is sound. -/
theorem Sound.of_isPrefix {ms ns : List Mark} (h : Sound ms) (hns : ns <+: ms) : Sound ns :=
  fun before m hm => h before m (hm.trans hns)

/-- No marks are sound. -/
theorem sound_nil : Sound [] := by
  intro before m hm
  exact absurd (List.prefix_nil.1 hm) (List.append_ne_nil_of_right_ne_nil _ (List.cons_ne_nil _ _))

/-- Marks stay sound as long as each further one is no fault. -/
theorem sound_concat {ms : List Mark} {m : Mark} :
    Sound (ms ++ [m]) ↔ Sound ms ∧ ¬m.IsFault ms := by
  constructor
  · intro h
    exact ⟨h.of_isPrefix (List.prefix_append _ _), h ms m (List.prefix_rfl)⟩
  · rintro ⟨hms, hm⟩ before m' hprefix
    rcases List.prefix_concat_iff.1 hprefix with heq | hprefix
    · obtain ⟨rfl, hsingle⟩ := List.append_inj' heq rfl
      rw [(List.cons.inj hsingle).1]
      exact hm
    · exact hms before m' hprefix

/-- Marks that are not sound have a first one that is a fault. -/
theorem exists_fault_of_not_sound {ms : List (Mark × Nat)} (h : ¬Sound (ms.map Prod.fst)) :
    ∃ before m line after, ms = before ++ (m, line) :: after ∧ Sound (before.map Prod.fst) ∧
      m.IsFault (before.map Prod.fst) := by
  induction ms using List.reverseRecOn with
  | nil => exact absurd sound_nil h
  | append_singleton ms last ih =>
    by_cases hms : Sound (ms.map Prod.fst)
    · rw [List.map_append, List.map_singleton, sound_concat] at h
      exact ⟨ms, last.1, last.2, [], rfl, hms, not_not.1 fun hm => h ⟨hms, hm⟩⟩
    · obtain ⟨before, m, line, after, rfl, hfault⟩ := ih hms
      exact ⟨before, m, line, after ++ [last], by simp, hfault⟩

/-! ## Open brackets -/

/-- The brackets that are open behind marks, the innermost first. -/
inductive Leaves : List (Mark × Nat) → List (Char × Nat) → Prop
  /-- Nested brackets leave none open. -/
  | nested {ms : List (Mark × Nat)} (h : Nested (ms.map Prod.fst)) : Leaves ms []
  /-- A bracket stays open if the brackets behind it are nested. -/
  | bracket {ms inner : List (Mark × Nat)} {stack : List (Char × Nat)} {c : Char} {line : Nat}
      (h : Leaves ms stack) (hopening : opening? c = none)
      (hinner : Nested (inner.map Prod.fst)) :
      Leaves (ms ++ (.bracket c, line) :: inner) ((c, line) :: stack)

namespace Leaves

variable {ms : List (Mark × Nat)} {stack : List (Char × Nat)}

/-- Behind nested brackets the same brackets are open as in front of them. -/
theorem append_nested (h : Leaves ms stack) {inner : List (Mark × Nat)}
    (hinner : Nested (inner.map Prod.fst)) : Leaves (ms ++ inner) stack := by
  cases h with
  | nested hms =>
    refine .nested ?_
    rw [List.map_append]
    exact hms.append hinner
  | bracket h hopening hinner' =>
    rw [List.append_assoc, List.cons_append]
    refine .bracket h hopening ?_
    rw [List.map_append]
    exact hinner'.append hinner

/-- The check goes on with the brackets that are open. -/
theorem balanced_append (h : Leaves ms stack) (rest : List (Mark × Nat)) :
    balanced [] (ms ++ rest) = balanced stack rest := by
  induction h generalizing rest with
  | nested hms => exact balanced_append_of_nested hms rfl [] rest
  | @bracket ms inner stack c line _ hopening hinner ih =>
    rw [List.append_assoc, List.cons_append, ih, balanced, hopening]
    exact balanced_append_of_nested hinner rfl _ rest

/-- A fault is reported. -/
theorem balanced_fault (h : Leaves ms stack) {m : Mark} (hm : m.IsFault (ms.map Prod.fst))
    (line : Nat) (rest : List (Mark × Nat)) :
    balanced [] (ms ++ (m, line) :: rest) = .error (m.error line) := by
  rw [h.balanced_append]
  cases m with
  | unterminated literal => rfl
  | bracket c =>
    obtain ⟨hclosing, hcloses⟩ := hm
    obtain ⟨opening, hopening⟩ := Option.ne_none_iff_exists'.1 hclosing
    rw [balanced, hopening]
    cases h with
    | nested => rfl
    | @bracket ms inner stack top line' _ _ hinner =>
      -- The innermost open bracket is of another kind, for it would be closed.
      have htop : top ≠ opening := by
        rintro rfl
        exact hcloses ⟨ms.map Prod.fst, top, inner.map Prod.fst, by simp, hinner, hopening⟩
      exact if_neg htop

end Leaves

/-- Sound marks leave some brackets open. -/
theorem exists_leaves {ms : List (Mark × Nat)} (h : Sound (ms.map Prod.fst)) :
    ∃ stack, Leaves ms stack := by
  -- A closing bracket takes the induction back to what stands in front of the one that it closes.
  induction hn : ms.length using Nat.strong_induction_on generalizing ms with
  | h n ih =>
    rcases List.eq_nil_or_concat' ms with rfl | ⟨ms, ⟨m, line⟩, rfl⟩
    · exact ⟨[], .nested .nil⟩
    · rw [List.map_append, List.map_singleton, sound_concat] at h
      rw [List.length_append, List.length_singleton] at hn
      obtain ⟨hms, hm⟩ := h
      cases m with
      | unterminated literal => exact absurd trivial hm
      | bracket c =>
        cases hopening : opening? c with
        | none =>
          obtain ⟨stack, hstack⟩ := ih ms.length (by omega) hms rfl
          exact ⟨_, .bracket hstack hopening .nil⟩
        | some opening =>
          have hcloses : Closes (ms.map Prod.fst) c := by
            by_contra hnot
            exact hm ⟨by rw [hopening]; exact Option.some_ne_none _, hnot⟩
          obtain ⟨start, opening', inner, hsplit, hinner, hopening'⟩ := hcloses
          obtain ⟨first, others, rfl, rfl, hothers⟩ := List.map_eq_append_iff.1 hsplit
          obtain ⟨⟨_, line'⟩, inner, rfl, rfl, rfl⟩ := List.map_eq_cons_iff.1 hothers
          have hfirst : Sound (first.map Prod.fst) :=
            hms.of_isPrefix (by rw [List.map_append]; exact List.prefix_append _ _)
          obtain ⟨stack, hstack⟩ := ih first.length (by simp at hn; omega) hfirst rfl
          refine ⟨stack, ?_⟩
          rw [List.append_assoc]
          refine hstack.append_nested ?_
          simpa using Nested.pair hopening' hinner

/-! ## The check -/

/-- Marks that are not nested have a first fault. -/
theorem exists_firstFault {ms : List (Mark × Nat)} (h : ¬Nested (ms.map Prod.fst)) :
    ∃ e, FirstFault ms e := by
  by_cases hsound : Sound (ms.map Prod.fst)
  · obtain ⟨stack, hstack⟩ := exists_leaves hsound
    cases hstack with
    | nested hnested => exact absurd hnested h
    | bracket hbefore hopening hinner => exact ⟨_, .unclosed rfl hsound hopening hinner⟩
  · obtain ⟨before, m, line, after, hms, hbefore, hfault⟩ := exists_fault_of_not_sound hsound
    exact ⟨_, .fault hms hbefore hfault⟩

/-- The first fault is reported. -/
theorem FirstFault.balanced_eq {ms : List (Mark × Nat)} {e : SourceError} (h : FirstFault ms e) :
    balanced [] ms = .error e := by
  cases h with
  | fault hms hbefore hfault =>
    obtain ⟨stack, hstack⟩ := exists_leaves hbefore
    rw [hms]
    exact hstack.balanced_fault hfault _ _
  | @unclosed before after c line hms hsound hopening hafter =>
    have hbefore : Sound (before.map Prod.fst) :=
      hsound.of_isPrefix (by rw [hms, List.map_append]; exact List.prefix_append _ _)
    obtain ⟨stack, hstack⟩ := exists_leaves hbefore
    have hleaves : Leaves ms ((c, line) :: stack) := hms ▸ .bracket hstack hopening hafter
    have hend := hleaves.balanced_append []
    rwa [List.append_nil] at hend

/-- The check passes exactly if the brackets are nested and all literals are closed. -/
theorem balanced_eq_ok_iff {ms : List (Mark × Nat)} :
    balanced [] ms = .ok () ↔ Nested (ms.map Prod.fst) := by
  constructor
  · intro h
    by_contra hnested
    obtain ⟨e, he⟩ := exists_firstFault hnested
    rw [he.balanced_eq] at h
    cases h
  · intro h
    have hend := balanced_append_of_nested h rfl [] []
    rwa [List.append_nil] at hend

/-- The check reports the first fault. -/
theorem balanced_eq_error_iff {ms : List (Mark × Nat)} {e : SourceError} :
    balanced [] ms = .error e ↔ FirstFault ms e := by
  constructor
  · intro h
    have hnested : ¬Nested (ms.map Prod.fst) := by
      intro hnested
      rw [balanced_eq_ok_iff.2 hnested] at h
      cases h
    obtain ⟨e', he'⟩ := exists_firstFault hnested
    rw [he'.balanced_eq] at h
    exact Except.error.inj h ▸ he'
  · exact FirstFault.balanced_eq

/-! ## Source code -/

/-- The marks of lines by their lexemes, each with the number of its line. -/
def placedMarks (first : Nat) (lexed : List (List Lexeme)) : List (Mark × Nat) :=
  (lexed.zipIdx first).flatMap fun (lexemes, line) => (lexemes.flatMap Lexeme.marks).map (·, line)

/-- The marks of a first line come in front of those of the lines behind it. -/
theorem placedMarks_cons (first : Nat) (lexemes : List Lexeme) (lexed : List (List Lexeme)) :
    placedMarks first (lexemes :: lexed) =
      (lexemes.flatMap Lexeme.marks).map (·, first) ++ placedMarks (first + 1) lexed := by
  rw [placedMarks, List.zipIdx_cons, List.flatMap_cons, placedMarks]

/-- Numbered lines have the marks of their lexemes. -/
theorem numberedMarks_eq {lines : List (List Char)} {lexed : List (List Lexeme)}
    (h : List.Forall₂ Lexes lines lexed) (first : Nat) :
    numberedMarks first lines = placedMarks first lexed := by
  induction h generalizing first with
  | nil => rfl
  | cons hline _ ih => rw [numberedMarks, hline.marks_eq, ih, placedMarks_cons]

/-- Without the lines these are the marks of all lexemes. -/
theorem map_fst_placedMarks (first : Nat) (lexed : List (List Lexeme)) :
    (placedMarks first lexed).map Prod.fst = lexed.flatten.flatMap Lexeme.marks := by
  induction lexed generalizing first with
  | nil => rfl
  | cons lexemes lexed ih =>
    rw [placedMarks_cons, List.map_append, ih, List.map_map, List.flatten_cons, List.flatMap_append]
    exact congrArg (· ++ _) (List.map_id' _)

/-- Nested marks are brackets. -/
theorem Nested.exists_bracket {ms : List Mark} (h : Nested ms) : ∀ m ∈ ms, ∃ c, m = .bracket c := by
  induction h with
  | nil => exact fun m hm => absurd hm List.not_mem_nil
  | pair _ _ ih =>
    intro m hm
    rcases List.mem_cons.1 hm with rfl | hm
    · exact ⟨_, rfl⟩
    · rcases List.mem_append.1 hm with hm | hm
      · exact ih m hm
      · exact ⟨_, List.mem_singleton.1 hm⟩
  | append _ _ ihm ihn => exact fun m hm => (List.mem_append.1 hm).elim (ihm m) (ihn m)

/-- If the marks are nested then no literal lacks its end. -/
theorem isClosed_of_nested {lexemes : List Lexeme} (h : Nested (lexemes.flatMap Lexeme.marks)) :
    ∀ lexeme ∈ lexemes, lexeme.IsClosed := by
  intro lexeme hlexeme
  cases lexeme with
  | code | interpreted | raw | comment => trivial
  | unclosed literal text =>
    have hmark : Mark.unterminated literal ∈ lexemes.flatMap Lexeme.marks :=
      List.mem_flatMap.2 ⟨_, hlexeme, List.mem_singleton_self _⟩
    obtain ⟨c, hc⟩ := h.exists_bracket _ hmark
    cases hc

/-- Source is laid out exactly if its delimiters pass the check. -/
theorem exists_layout_eq_ok_iff {source : String} : (∃ out, layout source = .ok out) ↔
    checkDelimiters (Text.lines source.toList) = .ok () := by
  constructor
  · rintro ⟨out, h⟩
    obtain ⟨⟨⟩, hcheck, -⟩ := Outcome.bind_eq_ok_iff.1 h
    exact hcheck
  · exact fun h => ⟨_, Outcome.bind_eq_ok_iff.2 ⟨(), h, rfl⟩⟩

/-- Layout refuses source only for what the check of its delimiters reports. -/
theorem layout_eq_error_iff {source : String} {e : SourceError} : layout source = .error e ↔
    checkDelimiters (Text.lines source.toList) = .error e := by
  constructor
  · intro h
    rcases Outcome.bind_eq_error_iff.1 h with hcheck | ⟨_, _, hpure⟩
    · exact hcheck
    · cases hpure
  · exact fun h => Outcome.bind_eq_error_iff.2 (.inl h)

/-- **Source code is laid out exactly if all literals are closed and the brackets of all lines are
nested, and otherwise the first fault is reported.** Its lines have lexemes in one way. -/
theorem layout_refuses_first_fault (source : String) :
    ∃ lexed, (∀ other, List.Forall₂ Lexes (Text.lines source.toList) other ↔ other = lexed) ∧
      ((∃ out, layout source = .ok out) ↔
        (∀ lexeme ∈ lexed.flatten, lexeme.IsClosed) ∧
          Nested (lexed.flatten.flatMap Lexeme.marks)) ∧
      ∀ e, layout source = .error e ↔ FirstFault (placedMarks 1 lexed) e := by
  obtain ⟨lexed, hlexed⟩ := exists_forall₂_lexes_iff (Text.lines source.toList)
  have hcheck : checkDelimiters (Text.lines source.toList) = balanced [] (placedMarks 1 lexed) := by
    rw [checkDelimiters, numberedMarks_eq ((hlexed lexed).2 rfl)]
  refine ⟨lexed, hlexed, ?_, fun e => ?_⟩
  · rw [exists_layout_eq_ok_iff, hcheck, balanced_eq_ok_iff, map_fst_placedMarks]
    exact (and_iff_right_of_imp isClosed_of_nested).symm
  · rw [layout_eq_error_iff, hcheck, balanced_eq_error_iff]

end EntityModel.Go
