import EntityModel.Proofs.NameMap
import EntityModel.Schema.States

/-! # State machines and their enumerations

A state machine agrees with the enumeration that it names if this one exists and has its states
(`StateMachine.Agrees`). Validation passes exactly if all state machines agree, and otherwise it
reports the first fault of the first entity that has one (`Schema.checkStates_eq_error_iff`).

An enumeration may name states of its own, and these are not looked at. So the states of a model are
sound if it passes and the enumerations that state machines name have the states that they name
themselves (`Schema.validateStates_iff`). -/

namespace EntityModel

/-! ## State machines -/

/-- The enumeration has the terminal states, and the initial one unless it is left out. -/
def Enumeration.HasStates (e : Enumeration) (initial : String) (terminal : List String) : Prop :=
  (initial ≠ "" → initial ∈ e.values) ∧ ∀ state ∈ terminal, state ∈ e.values

/-- An enumeration contains its values. -/
theorem Enumeration.contains_iff {e : Enumeration} {value : String} :
    e.contains value = true ↔ value ∈ e.values := by
  rw [contains, List.contains_iff_mem]

namespace StateMachine

/-- The enumeration that the state machine names exists, and has its states. -/
def Agrees (enums : NameMap Enumeration) (states : StateMachine) : Prop :=
  ∃ e, enums.find? states.enumeration = some e ∧ e.HasStates states.initial states.terminal

/-- The first fault of the state machine of an entity. -/
inductive Fault (enums : NameMap Enumeration) (entity : String) (states : StateMachine) :
    StateError → Prop
  /-- There is no such enumeration. -/
  | unknown (hnone : enums.find? states.enumeration = none) :
    Fault enums entity states (.unknownEnum entity states.enumeration)
  /-- The enumeration does not have the initial state. -/
  | initial {e : Enumeration} (hfound : enums.find? states.enumeration = some e)
      (hne : states.initial ≠ "") (hmem : states.initial ∉ e.values) :
    Fault enums entity states (.initialNotInEnum entity states.enumeration states.initial)
  /-- It has the initial state and the terminal ones up to the one that it does not have. -/
  | terminal {e : Enumeration} {before after : List String} {state : String}
      (hfound : enums.find? states.enumeration = some e)
      (heq : states.terminal = before ++ state :: after)
      (hbefore : e.HasStates states.initial before) (hmem : state ∉ e.values) :
    Fault enums entity states (.terminalNotInEnum entity states.enumeration state)

variable {enums : NameMap Enumeration} {entity : String} {states : StateMachine}

/-- The initial state is refused if it is not left out and not a value. -/
theorem initial_refused_iff {e : Enumeration} :
    (!states.initial.isEmpty && !e.contains states.initial) = true ↔
      states.initial ≠ "" ∧ states.initial ∉ e.values := by
  simp [← Enumeration.contains_iff]

/-- A state machine that agrees with the enumerations passes. -/
theorem Agrees.check_eq_ok (h : states.Agrees enums) : states.check enums entity = .ok () := by
  obtain ⟨e, hfound, hinitial, hterminal⟩ := h
  have haccepted : ¬(states.initial ≠ "" ∧ states.initial ∉ e.values) := by tauto
  have hnone : states.terminal.find? (!e.contains ·) = none := by
    rw [List.find?_eq_none]
    intro state hstate
    simp [Enumeration.contains_iff.2 (hterminal state hstate)]
  simp only [check, hfound, initial_refused_iff, if_neg haccepted, hnone]

/-- A fault of a state machine is the error of its check. -/
theorem Fault.check_eq_error {error : StateError} (h : states.Fault enums entity error) :
    states.check enums entity = .error error := by
  cases h with
  | unknown hnone => simp only [check, hnone]
  | initial hfound hne hmem =>
    simp only [check, hfound, initial_refused_iff, if_pos (And.intro hne hmem)]
  | @terminal e before after state hfound heq hbefore hmem =>
    obtain ⟨hinitial, hvalues⟩ := hbefore
    have haccepted : ¬(states.initial ≠ "" ∧ states.initial ∉ e.values) := by tauto
    have hfirst : states.terminal.find? (!e.contains ·) = some state := by
      rw [List.find?_eq_some_iff_append]
      refine ⟨by simpa [← Enumeration.contains_iff] using hmem, before, after, heq, ?_⟩
      intro value hvalue
      simp [Enumeration.contains_iff.2 (hvalues value hvalue)]
    simp only [check, hfound, initial_refused_iff, if_neg haccepted, hfirst]

/-- A state machine that does not agree has a first fault. -/
theorem agrees_or_exists_fault (enums : NameMap Enumeration) (entity : String)
    (states : StateMachine) : states.Agrees enums ∨ ∃ error, states.Fault enums entity error := by
  cases hfound : enums.find? states.enumeration with
  | none => exact .inr ⟨_, .unknown hfound⟩
  | some e =>
    by_cases hinitial : states.initial ≠ "" ∧ states.initial ∉ e.values
    · exact .inr ⟨_, .initial hfound hinitial.1 hinitial.2⟩
    · have hinitial : states.initial ≠ "" → states.initial ∈ e.values := by tauto
      cases hfirst : states.terminal.find? (!e.contains ·) with
      | none =>
        refine .inl ⟨e, hfound, hinitial, fun state hstate => ?_⟩
        have hvalue := List.find?_eq_none.1 hfirst state hstate
        exact Enumeration.contains_iff.1 (by simpa using hvalue)
      | some state =>
        obtain ⟨hmem, before, after, heq, hbefore⟩ := List.find?_eq_some_iff_append.1 hfirst
        have hvalues : ∀ value ∈ before, value ∈ e.values := by
          intro value hvalue
          exact Enumeration.contains_iff.1 (by simpa using hbefore value hvalue)
        exact .inr ⟨_, .terminal hfound heq ⟨hinitial, hvalues⟩
          fun hvalue => by simp [Enumeration.contains_iff.2 hvalue] at hmem⟩

/-- Exactly the state machines pass that agree with the enumerations. -/
theorem check_eq_ok_iff : states.check enums entity = .ok () ↔ states.Agrees enums := by
  refine ⟨fun h => ?_, Agrees.check_eq_ok⟩
  rcases agrees_or_exists_fault enums entity states with hagrees | ⟨error, hfault⟩
  · exact hagrees
  · rw [hfault.check_eq_error] at h
    cases h

/-- The error of a check is the first fault of the state machine. -/
theorem check_eq_error_iff {error : StateError} :
    states.check enums entity = .error error ↔ states.Fault enums entity error := by
  refine ⟨fun h => ?_, Fault.check_eq_error⟩
  rcases agrees_or_exists_fault enums entity states with hagrees | ⟨other, hfault⟩
  · rw [hagrees.check_eq_ok] at h
    cases h
  · rw [hfault.check_eq_error] at h
    cases h
    exact hfault

end StateMachine

/-! ## Models -/

/-- The state machine of the entity agrees with its enumeration, if there is one. -/
def Entity.StatesAgree (enums : NameMap Enumeration) (entity : Entity) : Prop :=
  ∀ states, entity.states = some states → states.Agrees enums

namespace Schema

/-- Entities pass if the state machine of each agrees. -/
theorem checkStates_eq_ok_iff {enums : NameMap Enumeration} {entities : List (String × Entity)} :
    checkStates enums entities = .ok () ↔ ∀ e ∈ entities, e.2.StatesAgree enums := by
  induction entities with
  | nil => simp [checkStates]
  | cons e rest ih =>
    obtain ⟨name, entity⟩ := e
    rw [List.forall_mem_cons, ← ih]
    cases hstates : entity.states with
    | none => simp [checkStates, hstates, Entity.StatesAgree]
    | some states =>
      have hentity : entity.StatesAgree enums ↔ states.check enums name = .ok () := by
        simp [StateMachine.check_eq_ok_iff, Entity.StatesAgree, hstates]
      rw [hentity]
      cases hcheck : states.check enums name with
      | error error => simp [checkStates, hstates, hcheck]
      | ok => simp [checkStates, hstates, hcheck]

/-- The error is the first fault of the first entity of which the state machine does not agree. -/
theorem checkStates_eq_error_iff {enums : NameMap Enumeration} {entities : List (String × Entity)}
    {error : StateError} : checkStates enums entities = .error error ↔
      ∃ before name entity states after, entities = before ++ (name, entity) :: after ∧
        (∀ e ∈ before, e.2.StatesAgree enums) ∧ entity.states = some states ∧
          states.Fault enums name error := by
  constructor
  · intro h
    induction entities with
    | nil => cases h
    | cons e rest ih =>
      obtain ⟨name, entity⟩ := e
      -- Unless the fault is found here, this entity is the first of those that agree.
      have hlater : entity.StatesAgree enums → checkStates enums rest = .error error →
          ∃ before other found states after,
            (name, entity) :: rest = before ++ (other, found) :: after ∧
              (∀ e ∈ before, e.2.StatesAgree enums) ∧ found.states = some states ∧
                states.Fault enums other error := by
        intro hentity hrest
        obtain ⟨before, other, found, states, after, rfl, hbefore, hstates, hfault⟩ := ih hrest
        exact ⟨(name, entity) :: before, other, found, states, after, rfl,
          List.forall_mem_cons.2 ⟨hentity, hbefore⟩, hstates, hfault⟩
      cases hstates : entity.states with
      | none =>
        rw [checkStates, hstates] at h
        exact hlater (by simp [Entity.StatesAgree, hstates]) h
      | some states =>
        simp only [checkStates, hstates] at h
        cases hcheck : states.check enums name with
        | error other =>
          rw [hcheck] at h
          cases h
          exact ⟨[], name, entity, states, rest, rfl, by simp, hstates,
            StateMachine.check_eq_error_iff.1 hcheck⟩
        | ok =>
          rw [hcheck] at h
          have hagrees := StateMachine.check_eq_ok_iff.1 hcheck
          exact hlater (by simpa [Entity.StatesAgree, hstates] using hagrees) h
  · rintro ⟨before, name, entity, states, after, rfl, hbefore, hstates, hfault⟩
    induction before with
    | nil => simp only [List.nil_append, checkStates, hstates, hfault.check_eq_error]
    | cons e before ih =>
      obtain ⟨he, hbefore⟩ := List.forall_mem_cons.1 hbefore
      cases hstates' : e.2.states with
      | none =>
        rw [List.cons_append, checkStates, hstates']
        exact ih hbefore
      | some states' =>
        rw [List.cons_append, checkStates, hstates']
        simp only [(he states' hstates').check_eq_ok]
        exact ih hbefore

/-- Every state machine names an enumeration that exists and has its states, and those that it
names itself. -/
def StatesSound (s : Schema) : Prop :=
  ∀ name entity states, s.entities.find? name = some entity → entity.states = some states →
    ∃ e, s.enums.find? states.enumeration = some e ∧
      e.HasStates states.initial states.terminal ∧ e.HasStates e.initial e.terminal

/-- A schema passes exactly if the states of every entity agree with the enumerations. -/
theorem validateStates_eq_ok_iff {s : Schema} : s.validateStates = .ok () ↔
    ∀ name entity, s.entities.find? name = some entity → entity.StatesAgree s.enums := by
  rw [validateStates, checkStates_eq_ok_iff]
  constructor
  · intro h name entity hfound
    exact h (name, entity) (NameMap.find?_eq_some_iff.1 hfound)
  · intro h e he
    exact h e.1 e.2 (NameMap.find?_eq_some_iff.2 he)

/-- **The states of a model are valid if every state machine agrees with its enumeration, and if
not, the error is the first fault of the first entity of which it does not.** They are sound if they
are valid and the enumerations of the state machines have the states that they name themselves. -/
theorem validateStates_iff (s : Schema) :
    (s.validateStates = .ok () ↔ ∀ name entity states, s.entities.find? name = some entity →
      entity.states = some states → states.Agrees s.enums) ∧
    (∀ error, s.validateStates = .error error ↔ ∃ before name entity states after,
      s.entities.entries = before ++ (name, entity) :: after ∧
        (∀ e ∈ before, e.2.StatesAgree s.enums) ∧ entity.states = some states ∧
          states.Fault s.enums name error) ∧
    (s.StatesSound ↔ s.validateStates = .ok () ∧ ∀ name entity states e,
      s.entities.find? name = some entity → entity.states = some states →
        s.enums.find? states.enumeration = some e → e.HasStates e.initial e.terminal) := by
  refine ⟨?valid, fun error => checkStates_eq_error_iff, ?sound⟩
  case valid =>
    rw [validateStates_eq_ok_iff]
    exact ⟨fun h name entity states hfound => h name entity hfound states,
      fun h name entity hfound states => h name entity states hfound⟩
  case sound =>
    rw [validateStates_eq_ok_iff]
    constructor
    · intro h
      constructor
      · intro name entity hfound states hstates
        obtain ⟨e, henum, hblock, -⟩ := h name entity states hfound hstates
        exact ⟨e, henum, hblock⟩
      · intro name entity states e hfound hstates henum
        obtain ⟨e', henum', -, hown⟩ := h name entity states hfound hstates
        -- A state machine names one enumeration only.
        obtain rfl : e' = e := Option.some.inj (henum'.symm.trans henum)
        exact hown
    · rintro ⟨hvalid, hown⟩ name entity states hfound hstates
      obtain ⟨e, henum, hblock⟩ := hvalid name entity hfound states hstates
      exact ⟨e, henum, hblock, hown name entity states e hfound hstates henum⟩

/-- Tickets, which start in a phase that is open. The phases say of themselves that they start as
drafts, of which there is none. -/
def tickets : Schema where
  version := "1"
  metadata := ⟨""⟩
  idSemantics := none
  enums := .ofList [("phase", ⟨["open"], "", "draft", []⟩)]
  definitions := ∅
  entities := .ofList [("Ticket", {
    description := ""
    required := []
    properties := .ofList [("id", .primitive "string")]
    relationships := ∅
    naturalKeys := []
    states := some ⟨"phase", "open", []⟩
    invariants := [] })]

/-- What an enumeration says of its own states does not make a model invalid. -/
theorem tickets_valid_and_not_sound :
    tickets.validateStates = .ok () ∧ ¬tickets.StatesSound := by
  refine ⟨by decide, fun h => ?_⟩
  obtain ⟨e, henum, -, hinitial, -⟩ := h "Ticket" _ ⟨"phase", "open", []⟩ rfl rfl
  obtain rfl := Option.some.inj henum
  exact absurd (hinitial (by decide)) (by decide)

end Schema

end EntityModel
