import Mathlib.Data.List.Forall2

/-! # Outcomes of passes

A pass over a model goes through a list, and its first error is the error of the whole pass. So a
pass that succeeds has succeeded at every element, and its result is made of the results there. -/

namespace EntityModel.Outcome

universe u v w

variable {ε : Type u} {α β : Type v}

/-- Two steps succeed if the first one does, and the second one on its result. -/
theorem bind_eq_ok_iff {x : Except ε α} {f : α → Except ε β} {b : β} :
    x >>= f = .ok b ↔ ∃ a, x = .ok a ∧ f a = .ok b := by
  cases x <;> simp [bind, Except.bind]

/-- Two steps fail if the first one does, or the second one on its result. -/
theorem bind_eq_error_iff {x : Except ε α} {f : α → Except ε β} {e : ε} :
    x >>= f = .error e ↔ x = .error e ∨ ∃ a, x = .ok a ∧ f a = .error e := by
  cases x <;> simp [bind, Except.bind]

/-- The image of an outcome is a result if the outcome is one. -/
theorem map_eq_ok_iff {x : Except ε α} {f : α → β} {b : β} :
    f <$> x = .ok b ↔ ∃ a, x = .ok a ∧ f a = b := by
  cases x <;> simp [Functor.map, Except.map]

/-- Another error in place of the error leaves results as they are. -/
theorem mapError_eq_ok_iff {ε' : Type*} {x : Except ε α} {f : ε → ε'} {a : α} :
    x.mapError f = .ok a ↔ x = .ok a := by
  cases x <;> simp [Except.mapError]

/-- A pass succeeds if every step does. -/
theorem mapM_eq_ok_iff {ι : Type w} {f : ι → Except ε β} {xs : List ι} {ys : List β} :
    xs.mapM f = .ok ys ↔ List.Forall₂ (fun x y => f x = .ok y) xs ys := by
  induction xs generalizing ys with
  | nil => cases ys <;> simp [pure, Except.pure]
  | cons x xs ih =>
    rw [List.mapM_cons, bind_eq_ok_iff]
    simp only [bind_eq_ok_iff, ih, List.forall₂_cons_left_iff, pure, Except.pure, Except.ok.injEq]
    constructor
    · rintro ⟨y, hy, ys, hys, rfl⟩
      exact ⟨y, ys, hy, hys, rfl⟩
    · rintro ⟨y, ys, hy, hys, rfl⟩
      exact ⟨y, hy, ys, hys, rfl⟩

/-- A pass has a result exactly if every step has one. -/
theorem exists_mapM_eq_ok_iff {ι : Type w} {f : ι → Except ε β} {xs : List ι} :
    (∃ ys, xs.mapM f = .ok ys) ↔ ∀ x ∈ xs, ∃ y, f x = .ok y := by
  simp only [mapM_eq_ok_iff]
  induction xs with
  | nil => simp
  | cons x xs ih =>
    rw [List.forall_mem_cons, ← ih]
    constructor
    · rintro ⟨ys, hall⟩
      obtain ⟨y, rest, hy, hrest, rfl⟩ := List.forall₂_cons_left_iff.1 hall
      exact ⟨⟨y, hy⟩, rest, hrest⟩
    · rintro ⟨⟨y, hy⟩, rest, hrest⟩
      exact ⟨y :: rest, .cons hy hrest⟩

/-- The pass around an element succeeds if the passes in front of it and behind it do, and the step
there. -/
theorem mapM_append_cons_eq_ok_iff {ι : Type w} {f : ι → Except ε β} {before after : List ι} {x : ι}
    {ys : List β} : (before ++ x :: after).mapM f = .ok ys ↔
      ∃ front y back, before.mapM f = .ok front ∧ f x = .ok y ∧ after.mapM f = .ok back ∧
        ys = front ++ y :: back := by
  simp only [List.mapM_append, List.mapM_cons, bind_eq_ok_iff, pure, Except.pure, Except.ok.injEq]
  constructor
  · rintro ⟨front, hfront, _, ⟨y, hy, back, hback, rfl⟩, rfl⟩
    exact ⟨front, y, back, hfront, hy, hback, rfl⟩
  · rintro ⟨front, y, back, hfront, hy, hback, rfl⟩
    exact ⟨front, hfront, _, ⟨y, hy, back, hback, rfl⟩, rfl⟩

/-- Steps that succeed wherever others do, with the same results, make the same pass. -/
theorem mapM_eq_ok_of_imp {ι : Type w} {f g : ι → Except ε β} {xs : List ι} {ys : List β}
    (h : xs.mapM f = .ok ys) (hstep : ∀ x ∈ xs, ∀ y, f x = .ok y → g x = .ok y) :
    xs.mapM g = .ok ys := by
  rw [mapM_eq_ok_iff] at h ⊢
  induction h with
  | nil => exact .nil
  | cons hy _ ih =>
    obtain ⟨hx, hrest⟩ := List.forall_mem_cons.1 hstep
    exact .cons (hx _ hy) (ih hrest)

/-- A pass over one more element succeeds if the step there does, and the other steps as before. -/
theorem exists_mapM_insert {ι : Type w} {f g : ι → Except ε β} {before after : List ι} {x : ι}
    {ys : List β} {y : β} (h : (before ++ after).mapM f = .ok ys)
    (hstep : ∀ z ∈ before ++ after, ∀ w, f z = .ok w → g z = .ok w) (hx : g x = .ok y) :
    ∃ front back, ys = front ++ back ∧
      (before ++ x :: after).mapM g = .ok (front ++ y :: back) := by
  have hsame := mapM_eq_ok_of_imp h hstep
  simp only [List.mapM_append, bind_eq_ok_iff, pure, Except.pure, Except.ok.injEq] at hsame
  obtain ⟨front, hfront, back, hback, rfl⟩ := hsame
  exact ⟨front, back, rfl,
    mapM_append_cons_eq_ok_iff.2 ⟨front, y, back, hfront, hx, hback, rfl⟩⟩

/-- A pass that collects what its steps find finds nothing if no step does. -/
theorem filterMapM_eq_ok_nil_iff {ι : Type w} {f : ι → Except ε (Option β)} {xs : List ι} :
    xs.filterMapM f = .ok [] ↔ ∀ x ∈ xs, f x = .ok none := by
  induction xs with
  | nil => simp [pure, Except.pure]
  | cons x xs ih =>
    rw [List.filterMapM_cons, bind_eq_ok_iff, List.forall_mem_cons, ← ih]
    constructor
    · rintro ⟨_ | y, hx, hrest⟩
      · exact ⟨hx, hrest⟩
      · obtain ⟨ys, -, hys⟩ := bind_eq_ok_iff.1 hrest
        cases hys
    · rintro ⟨hx, hrest⟩
      exact ⟨none, hx, hrest⟩

/-- Two passes one after the other succeed if one pass does that takes both steps at each
element. -/
theorem bind_mapM_eq_ok_iff {ι : Type w} {f : ι → Except ε α} {g : α → Except ε β} {xs : List ι}
    {zs : List β} : (xs.mapM f >>= fun ys => ys.mapM g) = .ok zs ↔
      xs.mapM (fun x => f x >>= g) = .ok zs := by
  simp only [bind_eq_ok_iff, mapM_eq_ok_iff]
  constructor
  · rintro ⟨ys, hf, hg⟩
    induction hf generalizing zs with
    | nil => cases hg; exact .nil
    | cons hy _ ih =>
      obtain ⟨z, rest, hz, hrest, rfl⟩ := List.forall₂_cons_left_iff.1 hg
      exact .cons ⟨_, hy, hz⟩ (ih hrest)
  · intro h
    induction h with
    | nil => exact ⟨[], .nil, .nil⟩
    | cons hstep _ ih =>
      obtain ⟨y, hy, hz⟩ := hstep
      obtain ⟨ys, hf, hg⟩ := ih
      exact ⟨y :: ys, .cons hy hf, .cons hz hg⟩

variable {ι : Type w} {f : ι → Except ε β} {xs : List ι} {ys : List β}

/-- Every element has its result. -/
theorem exists_result (h : xs.mapM f = .ok ys) {x : ι} (hx : x ∈ xs) : ∃ y ∈ ys, f x = .ok y := by
  have hall := mapM_eq_ok_iff.1 h
  clear h
  induction hall with
  | nil => exact absurd hx List.not_mem_nil
  | @cons x₀ y xs ys hy _ ih =>
    rcases List.mem_cons.1 hx with rfl | hx
    · exact ⟨y, List.mem_cons_self, hy⟩
    · obtain ⟨y', hy', hf⟩ := ih hx
      exact ⟨y', List.mem_cons_of_mem _ hy', hf⟩

/-- Every result is the one of an element. -/
theorem exists_source (h : xs.mapM f = .ok ys) {y : β} (hy : y ∈ ys) : ∃ x ∈ xs, f x = .ok y := by
  have hall := mapM_eq_ok_iff.1 h
  clear h
  induction hall with
  | nil => exact absurd hy List.not_mem_nil
  | @cons x y₀ xs ys hx _ ih =>
    rcases List.mem_cons.1 hy with rfl | hy
    · exact ⟨x, List.mem_cons_self, hx⟩
    · obtain ⟨x', hx', hf⟩ := ih hy
      exact ⟨x', List.mem_cons_of_mem _ hx', hf⟩

/-- The error of a pass is the one of a step. -/
theorem exists_error {e : ε} (h : xs.mapM f = .error e) : ∃ x ∈ xs, f x = .error e := by
  induction xs with
  | nil => cases h
  | cons x xs ih =>
    rw [List.mapM_cons, bind_eq_error_iff] at h
    rcases h with hx | ⟨y, -, hrest⟩
    · exact ⟨x, List.mem_cons_self, hx⟩
    · rcases bind_eq_error_iff.1 hrest with hrest | ⟨_, -, hpure⟩
      · obtain ⟨x', hx', hf⟩ := ih hrest
        exact ⟨x', List.mem_cons_of_mem _ hx', hf⟩
      · cases hpure

/-- What every step keeps, the pass keeps in its order. -/
theorem map_result_eq {κ : Type*} {g : β → κ} {k : ι → κ} (h : xs.mapM f = .ok ys)
    (hkey : ∀ x ∈ xs, ∀ y, f x = .ok y → g y = k x) : ys.map g = xs.map k := by
  have hall := mapM_eq_ok_iff.1 h
  clear h
  induction hall with
  | nil => rfl
  | @cons x y xs ys hy _ ih =>
    rw [List.map_cons, List.map_cons, hkey x List.mem_cons_self y hy,
      ih fun x hx => hkey x (List.mem_cons_of_mem _ hx)]

/-- What holds between any two elements carries over to their results. -/
theorem pairwise_result {R : ι → ι → Prop} {S : β → β → Prop} (h : xs.mapM f = .ok ys)
    (hpairs : xs.Pairwise R)
    (hstep : ∀ x x' y y', R x x' → f x = .ok y → f x' = .ok y' → S y y') : ys.Pairwise S := by
  have hall := mapM_eq_ok_iff.1 h
  clear h
  induction hall with
  | nil => exact .nil
  | @cons x y xs ys hy hrest ih =>
    obtain ⟨hx, hpairs⟩ := List.pairwise_cons.1 hpairs
    refine List.pairwise_cons.2 ⟨fun y' hy' => ?_, ih hpairs⟩
    obtain ⟨x', hx', hf⟩ := exists_source (mapM_eq_ok_iff.2 hrest) hy'
    exact hstep x x' y y' (hx x' hx') hy hf

/-! ## What results and errors satisfy -/

section

variable {x : Except ε α} {P : α → Prop} {P' : β → Prop} {Q : ε → Prop}

/-- A result satisfies the one condition, and an error the other one. -/
def Ends (x : Except ε α) (P : α → Prop) (Q : ε → Prop) : Prop :=
  match x with
  | .ok a => P a
  | .error e => Q e

/-- A result satisfies the condition for results. -/
theorem Ends.of_eq_ok (h : Ends x P Q) {a : α} (hx : x = .ok a) : P a := by
  rwa [hx] at h

/-- An error satisfies the condition for errors. -/
theorem Ends.of_eq_error (h : Ends x P Q) {e : ε} (hx : x = .error e) : Q e := by
  rwa [hx] at h

/-- Where only errors are asked for, results may be any. -/
theorem Ends.of_error (h : ∀ e, x = .error e → Q e) : Ends x (fun _ => True) Q := by
  cases x with
  | ok a => trivial
  | error e => exact h e rfl

/-- Weaker conditions are satisfied, too. -/
theorem Ends.imp {R : α → Prop} {S : ε → Prop} (h : Ends x P Q) (hok : ∀ a, P a → R a)
    (herror : ∀ e, Q e → S e) : Ends x R S := by
  cases x with
  | ok a => exact hok a h
  | error e => exact herror e h

/-- Two steps end well if the first one does, and the second one after each good result of it. -/
theorem Ends.bind {f : α → Except ε β} (h : Ends x P Q) (hf : ∀ a, P a → Ends (f a) P' Q) :
    Ends (x >>= f) P' Q := by
  cases x with
  | ok a => exact hf a h
  | error e => exact h

/-- The image of an outcome ends well if the images of good results are good. -/
theorem Ends.map {f : α → β} (h : Ends x P Q) (hf : ∀ a, P a → P' (f a)) :
    Ends (f <$> x) P' Q := by
  cases x with
  | ok a => exact hf a h
  | error e => exact h

/-- Another error in place of the error ends well if it is good for every good error. -/
theorem Ends.mapError {ε' : Type*} {f : ε → ε'} {Q' : ε' → Prop} (h : Ends x P Q)
    (hf : ∀ e, Q e → Q' (f e)) : Ends (x.mapError f) P Q' := by
  cases x with
  | ok a => exact h
  | error e => exact hf e h

/-- A pass ends well if every step does, and its error is the one of a step. -/
theorem Ends.mapM {P : ι → β → Prop} {Q : ι → ε → Prop} (h : ∀ x ∈ xs, Ends (f x) (P x) (Q x)) :
    Ends (xs.mapM f) (fun ys => (∀ x ∈ xs, ∃ y ∈ ys, P x y) ∧ ∀ y ∈ ys, ∃ x ∈ xs, P x y)
      fun e => ∃ x ∈ xs, Q x e := by
  cases hpass : xs.mapM f with
  | ok ys =>
    constructor
    · intro x hx
      obtain ⟨y, hy, hstep⟩ := exists_result hpass hx
      exact ⟨y, hy, (h x hx).of_eq_ok hstep⟩
    · intro y hy
      obtain ⟨x, hx, hstep⟩ := exists_source hpass hy
      exact ⟨x, hx, (h x hx).of_eq_ok hstep⟩
  | error e =>
    obtain ⟨x, hx, hstep⟩ := exists_error hpass
    exact ⟨x, hx, (h x hx).of_eq_error hstep⟩

/-- A pass fails in no other way than its steps. -/
theorem Ends.mapM_of_forall (h : ∀ x ∈ xs, Ends (f x) (fun _ => True) Q) :
    Ends (xs.mapM f) (fun _ => True) Q :=
  (Ends.mapM h).imp (fun _ _ => trivial) fun _ ⟨_, _, hstep⟩ => hstep

end

end EntityModel.Outcome
