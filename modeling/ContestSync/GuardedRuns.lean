/-
Runs of a machine whose actions may be disabled: a step gives the next state or none, and a
run goes through a list of actions as long as each is enabled. What every step keeps, every
run keeps; it is enough that the steps for the actions of the run keep it.
-/

import Mathlib.Data.List.Basic

namespace GuardedRuns

variable {State Action : Type} {step : State → Action → Option State} {state after : State}
  {action : Action} {actions : List Action}

/-- A step that is guarded by a condition. -/
theorem of_guard {condition : Prop} [Decidable condition] {next : State} {property : State → Prop}
    (stepped : (if condition then some next else none) = some after)
    (holds : condition → property next) : property after := by
  obtain ⟨allowed, same⟩ := Option.ite_none_right_eq_some.mp stepped
  cases same
  exact holds allowed

theorem foldlM_cons_eq_some_iff :
    (action :: actions).foldlM step state = some after ↔
      ∃ next, step state action = some next ∧ actions.foldlM step next = some after := by
  rw [List.foldlM_cons]
  exact Option.bind_eq_some_iff

theorem keeps_allowed (allowed : Action → Prop) (property : State → Prop)
    (kept : ∀ {state next : State} {action : Action}, step state action = some next →
      allowed action → property state → property next)
    (ran : actions.foldlM step state = some after) (all : ∀ action ∈ actions, allowed action)
    (holds : property state) : property after := by
  induction actions generalizing state with
  | nil =>
    cases ran
    exact holds
  | cons action rest ih =>
    obtain ⟨next, stepped, continued⟩ := foldlM_cons_eq_some_iff.mp ran
    exact ih continued (fun later member => all later (List.mem_cons_of_mem _ member))
      (kept stepped (all action List.mem_cons_self) holds)

theorem keeps (property : State → Prop)
    (kept : ∀ {state next : State} {action : Action}, step state action = some next →
      property state → property next)
    (ran : actions.foldlM step state = some after) (holds : property state) :
    property after :=
  keeps_allowed (fun _ => True) property (fun stepped _ before => kept stepped before) ran
    (fun _ _ => trivial) holds

end GuardedRuns
