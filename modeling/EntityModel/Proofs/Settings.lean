import EntityModel.Settings.Basic
import Mathlib.Data.List.Induction

/-! # Where settings come from

A setting has the value that the flags give it, or else that of the last layer that sets it, or else
its default, if there is one (`Setting.Chooses`). Only for outputs an empty path is as good as none,
and only after the choice, so that it hides what lies below (`Settings.resolve_stack`).

Layers may be merged in any grouping as long as they keep their order (`Grouping.merged_eq`). -/

namespace EntityModel

/-! ## Stacks -/

namespace Layer

variable {layers : List Layer}

/-- A layer at the end of a stack is on top of the others. -/
theorem stack_concat {l : Layer} : stack (layers ++ [l]) = l.onTopOf (stack layers) := by
  simp [stack]

/-- Layers behind others are on top of them. -/
theorem stack_append {others : List Layer} :
    stack (layers ++ others) = (stack others).onTopOf (stack layers) := by
  induction others using List.reverseRecOn with
  | nil => simp
  | append_singleton others l ih =>
    rw [← List.append_assoc, stack_concat, ih, stack_concat, onTopOf_assoc]

end Layer

/-! ## Settings one by one -/

/-- A setting of a run. -/
inductive Setting where
  /-- The path of the schema. -/
  | schema
  /-- The path of the Go source file. -/
  | go
  /-- The path of the OpenAPI document. -/
  | openapi
  /-- The path of the script for Postgres. -/
  | postgres
  /-- The path of the script for SQLite. -/
  | sqlite
  /-- The name of the Go package. -/
  | package
  /-- The title of the OpenAPI document. -/
  | title
  deriving DecidableEq, Repr

namespace Setting

/-- The path of something that is written. -/
def isOutput : Setting → Bool
  | .schema | .package | .title => false
  | .go | .openapi | .postgres | .sqlite => true

/-- What the flags say. The title has no flag. -/
def ofFlags? (flags : Flags) : Setting → Option String
  | .schema => flags.schema
  | .go => flags.outputs.go
  | .openapi => flags.outputs.openapi
  | .postgres => flags.outputs.postgres
  | .sqlite => flags.outputs.sqlite
  | .package => flags.package
  | .title => none

/-- What a layer says. -/
def ofLayer? (l : Layer) : Setting → Option String
  | .schema => l.schema
  | .go => l.outputs.go
  | .openapi => l.outputs.openapi
  | .postgres => l.outputs.postgres
  | .sqlite => l.outputs.sqlite
  | .package => l.package
  | .title => l.title

/-- What holds if nothing is said. -/
def default? : Setting → Option String
  | .schema => some "docs/schema/entity-model.json"
  | .go => some "pkg/domain/entitymodel/model_gen.go"
  | .openapi | .postgres | .sqlite => none
  | .package => some "entitymodel"
  | .title => some "Entity Model"

/-- What a run goes by, which is nothing for an output that is skipped. -/
def ofSettings? (s : Settings) : Setting → Option String
  | .schema => some s.schema
  | .go => s.outputs.go
  | .openapi => s.outputs.openapi
  | .postgres => s.outputs.postgres
  | .sqlite => s.outputs.sqlite
  | .package => some s.package
  | .title => some s.title

/-- The value that a setting is to have: what the flags say, or else what the last layer says that
says anything, or else the default. -/
inductive Chooses (flags : Flags) (layers : List Layer) (x : Setting) : Option String → Prop
  /-- The flags set it. -/
  | flag {value : String} (hflag : x.ofFlags? flags = some value) :
    Chooses flags layers x (some value)
  /-- The flags leave it open, and so do the layers above the one that sets it. -/
  | layer {before after : List Layer} {l : Layer} {value : String}
      (hflag : x.ofFlags? flags = none) (heq : layers = before ++ l :: after)
      (hlayer : x.ofLayer? l = some value) (hafter : ∀ m ∈ after, x.ofLayer? m = none) :
    Chooses flags layers x (some value)
  /-- Nothing sets it. -/
  | default (hflag : x.ofFlags? flags = none) (hlayers : ∀ l ∈ layers, x.ofLayer? l = none) :
    Chooses flags layers x x.default?

variable {flags : Flags} {layers : List Layer} {x : Setting}

/-! ## Layers -/

/-- The empty layer sets nothing. -/
@[simp] theorem ofLayer?_unset : x.ofLayer? .unset = none := by
  cases x <;> rfl

/-- Of two layers the upper one counts, and the lower one where that is silent. -/
@[simp] theorem ofLayer?_onTopOf {upper lower : Layer} :
    x.ofLayer? (upper.onTopOf lower) = (x.ofLayer? upper).or (x.ofLayer? lower) := by
  cases x <;> rfl

/-- A stack says what its last layer says that says anything. -/
theorem ofLayer?_stack : x.ofLayer? (.stack layers) = layers.reverse.findSome? x.ofLayer? := by
  induction layers using List.reverseRecOn with
  | nil => simp
  | append_singleton layers l ih =>
    rw [Layer.stack_concat, ofLayer?_onTopOf, ih, List.reverse_concat, List.findSome?_cons]
    cases x.ofLayer? l <;> rfl

/-- A stack leaves open what all its layers leave open. -/
theorem ofLayer?_stack_eq_none_iff :
    x.ofLayer? (.stack layers) = none ↔ ∀ l ∈ layers, x.ofLayer? l = none := by
  simp [ofLayer?_stack]

/-- A stack sets what the last of its layers sets that is not silent. -/
theorem ofLayer?_stack_eq_some_iff {value : String} :
    x.ofLayer? (.stack layers) = some value ↔ ∃ before l after, layers = before ++ l :: after ∧
      x.ofLayer? l = some value ∧ ∀ m ∈ after, x.ofLayer? m = none := by
  rw [ofLayer?_stack, List.findSome?_eq_some_iff]
  constructor
  · rintro ⟨after, l, before, heq, hlayer, hafter⟩
    refine ⟨before.reverse, l, after.reverse, ?_, hlayer, fun m hm => hafter m (by simpa using hm)⟩
    rw [← List.reverse_reverse layers, heq]
    simp
  · rintro ⟨before, l, after, rfl, hlayer, hafter⟩
    exact ⟨after.reverse, l, before.reverse, by simp, hlayer,
      fun m hm => hafter m (by simpa using hm)⟩

/-! ## Choices -/

/-- The choice, computed. -/
def chosen? (flags : Flags) (layers : List Layer) (x : Setting) : Option String :=
  ((x.ofFlags? flags).or (x.ofLayer? (.stack layers))).or x.default?

/-- What the conditions choose is what is computed. -/
theorem chooses_iff {v : Option String} :
    x.Chooses flags layers v ↔ v = x.chosen? flags layers := by
  constructor
  · intro h
    cases h with
    | flag hflag => simp [chosen?, hflag]
    | layer hflag heq hlayer hafter =>
      have hstack := ofLayer?_stack_eq_some_iff.2 ⟨_, _, _, heq, hlayer, hafter⟩
      simp [chosen?, hflag, hstack]
    | default hflag hlayers =>
      simp [chosen?, hflag, ofLayer?_stack_eq_none_iff.2 hlayers]
  · rintro rfl
    cases hflag : x.ofFlags? flags with
    | some value => simpa [chosen?, hflag] using Chooses.flag hflag
    | none =>
      cases hstack : x.ofLayer? (.stack layers) with
      | some value =>
        obtain ⟨before, l, after, heq, hlayer, hafter⟩ := ofLayer?_stack_eq_some_iff.1 hstack
        simpa [chosen?, hflag, hstack] using Chooses.layer hflag heq hlayer hafter
      | none =>
        have hlayers := ofLayer?_stack_eq_none_iff.1 hstack
        simpa [chosen?, hflag, hstack] using Chooses.default hflag hlayers

/-- Settings are as chosen, but an output with an empty path is none. -/
theorem ofSettings?_resolve : x.ofSettings? (.resolve flags (.stack layers)) =
    if x.isOutput then (x.chosen? flags layers).filter (· ≠ "") else x.chosen? flags layers := by
  cases x <;> simp [ofSettings?, Settings.resolve, Settings.ofLayer, Outputs.written, chosen?,
    ofFlags?, ofLayer?, default?, isOutput, Layer.onTopOf, Flags.layer, Outputs.onTopOf,
    Settings.defaultGo, Settings.defaultPackage, Settings.defaultTitle, Banner.defaultSource]

/-- An output is skipped if the choice is an empty path or nothing. -/
theorem skipped_iff (hx : x.isOutput) : x.ofSettings? (.resolve flags (.stack layers)) = none ↔
    x.Chooses flags layers none ∨ x.Chooses flags layers (some "") := by
  rw [ofSettings?_resolve, if_pos hx, chooses_iff, chooses_iff]
  cases x.chosen? flags layers with
  | none => simp
  | some path =>
    by_cases hpath : path = ""
    · simp [hpath]
    · simp [hpath, Option.filter_some, eq_comm]

end Setting

/-! ## Groupings -/

/-- Layers that are merged in some grouping. -/
inductive Grouping where
  /-- No layer. -/
  | nothing
  /-- One layer. -/
  | layer (l : Layer)
  /-- The merged layers of a grouping on top of those of another. -/
  | merge (lower upper : Grouping)

namespace Grouping

/-- The layers in their order, the uppermost last. -/
def layers : Grouping → List Layer
  | .nothing => []
  | .layer l => [l]
  | .merge lower upper => lower.layers ++ upper.layers

/-- The layer that they are merged into. -/
def merged : Grouping → Layer
  | .nothing => .unset
  | .layer l => l
  | .merge lower upper => upper.merged.onTopOf lower.merged

/-- Layers that are merged in groups make the stack of them all. -/
theorem merged_eq_stack (g : Grouping) : g.merged = .stack g.layers := by
  induction g with
  | nothing => rfl
  | layer l => exact (Layer.onTopOf_unset l).symm
  | merge lower upper ihlower ihupper => rw [merged, layers, Layer.stack_append, ihlower, ihupper]

end Grouping

/-! ## Whole settings -/

namespace Settings

/-- **Each setting is what the flags say, or else what the last layer says that says anything, or
else its default**, except that an output is skipped if this is an empty path or nothing. So an
empty path hides the paths of the layers below and the default. How the layers are grouped when they
are merged does not matter. -/
theorem resolve_stack (flags : Flags) (layers : List Layer) :
    (∀ x : Setting, ∃ v, x.Chooses flags layers v ∧ (∀ w, x.Chooses flags layers w → w = v) ∧
      x.ofSettings? (resolve flags (.stack layers)) =
        if x.isOutput then v.filter (· ≠ "") else v) ∧
    (∀ x : Setting, x.isOutput → (x.ofSettings? (resolve flags (.stack layers)) = none ↔
      x.Chooses flags layers none ∨ x.Chooses flags layers (some ""))) ∧
    (∀ (x : Setting) (before : List Layer) (l : Layer) (after : List Layer), x.isOutput →
      x.ofFlags? flags = none → layers = before ++ l :: after → x.ofLayer? l = some "" →
        (∀ m ∈ after, x.ofLayer? m = none) →
          x.ofSettings? (resolve flags (.stack layers)) = none) ∧
    (∀ g : Grouping, g.layers = layers →
      resolve flags g.merged = resolve flags (.stack layers)) ∧
    ∀ a b c : Layer, (a.onTopOf b).onTopOf c = a.onTopOf (b.onTopOf c) := by
  refine ⟨fun x => ?choice, fun x hx => Setting.skipped_iff hx, ?hidden, ?grouping,
    Layer.onTopOf_assoc⟩
  case choice =>
    exact ⟨_, Setting.chooses_iff.2 rfl, fun w hw => Setting.chooses_iff.1 hw,
      Setting.ofSettings?_resolve⟩
  case hidden =>
    intro x before l after hx hflag heq hempty hafter
    exact (Setting.skipped_iff hx).2 (.inr (.layer hflag heq hempty hafter))
  case grouping =>
    rintro g rfl
    rw [g.merged_eq_stack]

/-- A user's layer, which names the Go source file and the document. -/
def userLayer : Layer := { Layer.unset with
  outputs := { Outputs.unset with go := some "model.go", openapi := some "model.yaml" } }

/-- A project's layer, which skips the Go source file. -/
def projectLayer : Layer := { Layer.unset with outputs := { Outputs.unset with go := some "" } }

/-- The project skips the user's Go source file but not the document, in every grouping. -/
theorem resolve_stack_user_project : Setting.go.ofSettings?
      (resolve .unset (Grouping.merge (.layer userLayer) (.layer projectLayer)).merged) = none ∧
    Setting.openapi.ofSettings? (resolve .unset (.stack [userLayer, projectLayer])) =
      some "model.yaml" := by
  obtain ⟨hchoice, -, hhidden, hgrouping, -⟩ := resolve_stack .unset [userLayer, projectLayer]
  constructor
  · rw [hgrouping (.merge (.layer userLayer) (.layer projectLayer)) rfl]
    exact hhidden .go [userLayer] projectLayer [] rfl rfl rfl rfl (by simp)
  · obtain ⟨v, -, hunique, hvalue⟩ := hchoice .openapi
    have heq : [userLayer, projectLayer] = [] ++ userLayer :: [projectLayer] := rfl
    obtain rfl := hunique (some "model.yaml") (.layer rfl heq rfl (by decide))
    exact hvalue

end Settings

end EntityModel
