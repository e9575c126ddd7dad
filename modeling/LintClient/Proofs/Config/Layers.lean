import LintClient.Config.Basic
import Mathlib.Logic.Function.Basic

/-!
# Layers of settings

Sources of settings are layered by merging one after the other into the first. Each setting is
decided on its own: a layer says something about it unless its value is null or equal to the usual
one, and the last layer that says something decides (`value_foldl_merge`). All laws of merging
follow from that. Merging goes through the settings one by one and changes a configuration in place;
a layer stays as it is, even where it is merged into itself, and so does everything else
(`Shelf.mergeAll_eq`).
-/

namespace LintClient.Config

/-- The settings of a client by their names. -/
inductive Setting where
  | javaPath
  | jarPath
  | linterArgs
  | command
  | debounce
  | timeout
  | logLevel
deriving DecidableEq, Repr

/-- All settings, in the order in which they are gone through. -/
def Setting.all : List Setting :=
  [.javaPath, .jarPath, .linterArgs, .command, .debounce, .timeout, .logLevel]

/-- The value of a setting. -/
def value (config : Config) : Setting → Json
  | .javaPath => config.javaPath
  | .jarPath => config.jarPath
  | .linterArgs => config.linterArgs
  | .command => config.command
  | .debounce => config.debounce
  | .timeout => config.timeout
  | .logLevel => config.logLevel

/-- Give a setting another value. -/
def set (config : Config) (setting : Setting) (value : Json) : Config :=
  match setting with
  | .javaPath => { config with javaPath := value }
  | .jarPath => { config with jarPath := value }
  | .linterArgs => { config with linterArgs := value }
  | .command => { config with command := value }
  | .debounce => { config with debounce := value }
  | .timeout => { config with timeout := value }
  | .logLevel => { config with logLevel := value }

/-- Whether a layer says something about a setting. -/
def decidesOn (layer : Config) (setting : Setting) : Bool :=
  !(layer.value setting).isNull && !(layer.value setting).equal (usual.value setting)

/-- Settings are the same if each of them has the same value. -/
theorem ext_value {first second : Config}
    (same : ∀ setting, first.value setting = second.value setting) : first = second := by
  obtain ⟨⟩ := first
  obtain ⟨⟩ := second
  rw [mk.injEq]
  exact ⟨same .javaPath, same .jarPath, same .linterArgs, same .command, same .debounce,
    same .timeout, same .logLevel⟩

/-- To set one setting leaves all others as they are. -/
@[simp] theorem value_set (config : Config) (setting other : Setting) (value : Json) :
    (config.set setting value).value other =
      if other = setting then value else config.value other := by
  cases setting <;> cases other <;> rfl

/-! ## What decides -/

/-- Merging lets a layer decide on the settings that it says something about. -/
theorem value_merge (earlier later : Config) (setting : Setting) :
    (earlier.merge later).value setting =
      if later.decidesOn setting then later.value setting else earlier.value setting := by
  have overridden (usual earlier later : Json) : override usual earlier later =
      if !later.isNull && !later.equal usual then later else earlier := by
    unfold override
    cases later.isNull <;> cases later.equal usual <;> rfl
  cases setting <;> exact overridden _ _ _

/-- Two layers decide on a setting if one of them does. -/
theorem decidesOn_merge (earlier later : Config) (setting : Setting) :
    (earlier.merge later).decidesOn setting =
    (later.decidesOn setting || earlier.decidesOn setting) := by
  rw [decidesOn, value_merge]
  cases decided : later.decidesOn setting with
  | true => rw [if_pos rfl, ← decidesOn, decided, Bool.true_or]
  | false => rw [if_neg Bool.false_ne_true, ← decidesOn, Bool.false_or]

/-- The last layer that says something about a setting decides on it, and the base if none does. -/
theorem value_foldl_merge (base : Config) (layers : List Config) (setting : Setting) :
    (layers.foldl merge base).value setting =
      ((layers.reverse.find? (·.decidesOn setting)).getD base).value setting := by
  induction layers generalizing base with
  | nil => rfl
  | cons layer layers inductionHypothesis =>
      rw [List.foldl_cons, inductionHypothesis, List.reverse_cons, List.find?_append]
      cases layers.reverse.find? (·.decidesOn setting) with
      | some decisive => rfl
      | none =>
          rw [Option.getD_none, value_merge]
          cases decided : layer.decidesOn setting <;> simp [decided]

/-! ## Laws of merging -/

/-- It does not matter which layers are merged first. -/
theorem merge_assoc (first second third : Config) :
    (first.merge second).merge third = first.merge (second.merge third) := by
  refine ext_value fun setting => ?_
  simp only [value_merge, decidesOn_merge]
  cases third.decidesOn setting <;> cases second.decidesOn setting <;> rfl

/-- The usual settings say nothing. -/
theorem decidesOn_usual (setting : Setting) : usual.decidesOn setting = false := by
  cases setting <;> decide +kernel

/-- The usual settings override nothing. -/
theorem merge_usual (config : Config) : config.merge usual = config := by
  refine ext_value fun setting => ?_
  rw [value_merge, decidesOn_usual, if_neg Bool.false_ne_true]

/-- Settings that override themselves stay as they are. -/
theorem merge_self (config : Config) : config.merge config = config := by
  refine ext_value fun setting => ?_
  rw [value_merge, ite_self]

/-- A layer that is merged once more changes nothing. -/
theorem merge_merge_self (base layer : Config) :
    (base.merge layer).merge layer = base.merge layer := by
  rw [merge_assoc, merge_self]

/-! ## Merging in place -/

/-- Places with configurations that can be changed. -/
abbrev Shelf := Nat → Config

namespace Shelf

/-- Let the layer at one place decide on a setting of the configuration at another, if it says
something about it. -/
def overrideAt (target layer : Nat) (shelf : Shelf) (setting : Setting) : Shelf :=
  if (shelf layer).decidesOn setting then
    Function.update shelf target ((shelf target).set setting ((shelf layer).value setting))
  else shelf

/-- Merge the configuration at one place into that at another, setting by setting. -/
def mergeAt (target : Nat) (shelf : Shelf) (layer : Nat) : Shelf :=
  Setting.all.foldl (overrideAt target layer) shelf

/-- Merge layers one after the other into the configuration at a place. -/
def mergeAll (target : Nat) (shelf : Shelf) (layers : List Nat) : Shelf :=
  layers.foldl (mergeAt target) shelf

variable (target layer : Nat) (shelf : Shelf)

/-- One setting at one place may change. -/
theorem value_overrideAt (setting : Setting) (place : Nat) (other : Setting) :
    (overrideAt target layer shelf setting place).value other =
      if place = target ∧ other = setting ∧ (shelf layer).decidesOn other = true then
        (shelf layer).value other
      else (shelf place).value other := by
  unfold overrideAt
  by_cases here : place = target <;> by_cases same : other = setting <;>
    cases decided : (shelf layer).decidesOn setting <;> simp_all

/-- The layer stays as it is, even if it is merged into itself. -/
theorem overrideAt_layer (setting : Setting) :
    overrideAt target layer shelf setting layer = shelf layer := by
  refine ext_value fun other => ?_
  rw [value_overrideAt, ite_self]

/-- The settings that have been gone through are decided on. -/
theorem value_foldl_overrideAt (settings : List Setting) (place : Nat) (other : Setting) :
    (settings.foldl (overrideAt target layer) shelf place).value other =
      if place = target ∧ other ∈ settings ∧ (shelf layer).decidesOn other = true then
        (shelf layer).value other
      else (shelf place).value other := by
  induction settings generalizing shelf with
  | nil => simp
  | cons setting settings inductionHypothesis =>
      rw [List.foldl_cons, inductionHypothesis, overrideAt_layer, value_overrideAt]
      grind

/-- Merging in place changes the configuration that is merged into, and nothing else. -/
theorem mergeAt_eq : mergeAt target shelf layer =
    Function.update shelf target ((shelf target).merge (shelf layer)) := by
  funext place
  refine ext_value fun setting => ?_
  have among : setting ∈ Setting.all := by cases setting <;> decide
  rw [mergeAt, value_foldl_overrideAt]
  by_cases here : place = target
  · subst here
    simp [among, value_merge]
  · simp [here]

/-- Merging layers in place gives the base what all other layers give it, and changes nothing
else. -/
theorem mergeAll_eq (layers : List Nat) : mergeAll target shelf layers =
    Function.update shelf target
      (((layers.filter (· ≠ target)).map shelf).foldl merge (shelf target)) := by
  induction layers generalizing shelf with
  | nil => simp [mergeAll]
  | cons layer layers inductionHypothesis =>
      have others (base : Config) :
          (layers.filter (· ≠ target)).map (Function.update shelf target base) =
            (layers.filter (· ≠ target)).map shelf := by
        refine List.map_congr_left fun place there => ?_
        exact Function.update_of_ne (by simpa using (List.mem_filter.mp there).2) _ _
      rw [mergeAll, List.foldl_cons, ← mergeAll, inductionHypothesis, mergeAt_eq, others,
        Function.update_idem, Function.update_self]
      by_cases same : layer = target
      · rw [same, merge_self, List.filter_cons_of_neg (by simp)]
      · rw [List.filter_cons_of_pos (by simp [same]), List.map_cons, List.foldl_cons]

end Shelf

/-- Layering is well defined for any number of layers. The last layer whose value for a setting is
neither null nor the usual one decides on it, and the base where there is none. So layers may be
merged in groups, the usual settings change nothing as a layer, and neither does a layer that comes
twice in a row. Layers that are merged in place into a configuration stay as they are themselves. -/
theorem layers_override :
    (∀ (base : Config) (layers : List Config) (setting : Setting),
      (layers.foldl merge base).value setting =
        ((layers.reverse.find? fun layer => !(layer.value setting).isNull
          && !(layer.value setting).equal (usual.value setting)).getD base).value setting) ∧
    (∀ first second third : Config,
      (first.merge second).merge third = first.merge (second.merge third)) ∧
    (∀ config : Config, config.merge usual = config) ∧
    (∀ base layer : Config, (base.merge layer).merge layer = base.merge layer) ∧
    ∀ (shelf : Shelf) (target : Nat) (layers : List Nat) (place : Nat),
      Shelf.mergeAll target shelf layers place =
        if place = target then
          ((layers.filter (· ≠ target)).map shelf).foldl merge (shelf target)
        else shelf place := by
  refine ⟨value_foldl_merge, merge_assoc, merge_usual, merge_merge_self, ?inPlace⟩
  case inPlace =>
    intro shelf target layers place
    rw [Shelf.mergeAll_eq, Function.update_apply]

end LintClient.Config
