/-
Reconciling a remote store with a tracking table. A plan says, relative to the
snapshot it was made for, which tracked keys are to go and which untracked keys
are to come. There are four moves: take an object down, forget its key, put an
object up, record its key. A key is forgotten only when its object is down and
recorded only when its object is up.

However the moves are ordered, repeated or abandoned, the snapshot stays
between the one the plan was made for and the settled one, and there is only
one settled snapshot.
-/

import Mathlib.Logic.Relation
import Mathlib.Data.Set.Basic

namespace Reconciliation

open Function

variable {K E V : Type}

@[ext]
structure Snapshot (K E V : Type) where
  tracked : K → Option E
  shown : E → Option V

/-- A plan for the snapshot `start`. Names may collide as far as untracked keys
the plan does not concern are involved. -/
structure Plan (start : Snapshot K E V) where
  stale : Set K
  wanted : K → Option V
  name : K → E
  tracked_of_stale : ∀ key ∈ stale, start.tracked key ≠ none
  untracked_of_wanted : ∀ key value, wanted key = some value → start.tracked key = none
  apart : ∀ first second, (first ∈ stale ∨ wanted first ≠ none) →
    (second ∈ stale ∨ wanted second ≠ none) → name first = name second → first = second
  unclaimed : ∀ key value, wanted key = some value → ∀ other, start.tracked other ≠ some (name key)

namespace Plan

variable {start : Snapshot K E V} (plan : Plan start)

def Concerns (key : K) : Prop :=
  key ∈ plan.stale ∨ plan.wanted key ≠ none

variable {key : K} {value : V}

theorem concerns_of_wanted (wanted : plan.wanted key = some value) :
    plan.Concerns key := by
  refine Or.inr ?_
  rw [wanted]
  exact Option.some_ne_none value

theorem not_concerns (fresh : key ∉ plan.stale) (unwanted : plan.wanted key = none) :
    ¬plan.Concerns key := by
  rintro (stale | wanted)
  · exact fresh stale
  · exact wanted unwanted

theorem not_stale_of_wanted (wanted : plan.wanted key = some value) :
    key ∉ plan.stale := by
  intro stale
  exact plan.tracked_of_stale key stale (plan.untracked_of_wanted key value wanted)

theorem name_ne {stale wanted : K} (isStale : stale ∈ plan.stale)
    (isWanted : plan.wanted wanted = some value) : plan.name wanted ≠ plan.name stale := by
  intro same
  have equal := plan.apart wanted stale (plan.concerns_of_wanted isWanted) (Or.inl isStale) same
  subst equal
  exact plan.not_stale_of_wanted isWanted isStale

/-! ### Between the start and the settled snapshot -/

structure Between (state : Snapshot K E V) : Prop where
  tracked_other : ∀ key, ¬plan.Concerns key → state.tracked key = start.tracked key
  shown_other : ∀ name, (∀ key, plan.Concerns key → plan.name key ≠ name) →
    state.shown name = start.shown name
  stale : ∀ key ∈ plan.stale, state.tracked key = start.tracked key ∨
    state.tracked key = none ∧ state.shown (plan.name key) = none
  wanted : ∀ key value, plan.wanted key = some value → state.tracked key = none ∨
    state.tracked key = some (plan.name key) ∧ state.shown (plan.name key) = some value
  shown_stale : ∀ key ∈ plan.stale, state.shown (plan.name key) = start.shown (plan.name key) ∨
      state.shown (plan.name key) = none
  shown_wanted : ∀ key value, plan.wanted key = some value →
    state.shown (plan.name key) = start.shown (plan.name key) ∨
      state.shown (plan.name key) = some value

theorem between_start : plan.Between start :=
  { tracked_other := fun _ _ => rfl
    shown_other := fun _ _ => rfl
    stale := fun _ _ => Or.inl rfl
    wanted := fun key value wanted => Or.inl (plan.untracked_of_wanted key value wanted)
    shown_stale := fun _ _ => Or.inl rfl
    shown_wanted := fun _ _ _ => Or.inl rfl }

/-! ### The settled snapshot -/

structure Complete (state : Snapshot K E V) : Prop where
  forgotten : ∀ key ∈ plan.stale, state.tracked key = none
  recorded : ∀ key value, plan.wanted key = some value → state.tracked key = some (plan.name key)

structure Settled (state : Snapshot K E V) : Prop where
  complete : plan.Complete state
  tracked_other : ∀ key, ¬plan.Concerns key → state.tracked key = start.tracked key
  shown_other : ∀ name, (∀ key, plan.Concerns key → plan.name key ≠ name) →
    state.shown name = start.shown name
  down : ∀ key ∈ plan.stale, state.shown (plan.name key) = none
  up : ∀ key value, plan.wanted key = some value → state.shown (plan.name key) = some value

variable {plan}

variable {state : Snapshot K E V}

theorem Between.owner (between : plan.Between state) {other : K}
    (wanted : plan.wanted key = some value)
    (claimed : state.tracked other = some (plan.name key)) : other = key := by
  by_cases stale : other ∈ plan.stale
  · rcases between.stale other stale with kept | gone
    · exact absurd (kept.symm.trans claimed) (plan.unclaimed key value wanted other)
    · rw [gone.1] at claimed
      cases claimed
  · cases isWanted : plan.wanted other with
    | none =>
      have kept := between.tracked_other other (plan.not_concerns stale isWanted)
      exact absurd (kept.symm.trans claimed) (plan.unclaimed key value wanted other)
    | some otherValue =>
      rcases between.wanted other otherValue isWanted with absent | present
      · rw [absent] at claimed
        cases claimed
      · rw [present.1] at claimed
        exact plan.apart other key (plan.concerns_of_wanted isWanted)
          (plan.concerns_of_wanted wanted) (Option.some.inj claimed)

theorem Between.origin (between : plan.Between state) {name : E}
    (shown : state.shown name = some value) :
    start.shown name = some value ∨ ∃ key, plan.wanted key = some value ∧ plan.name key = name := by
  by_cases concerned : ∃ key, plan.Concerns key ∧ plan.name key = name
  · obtain ⟨key, isStale | isWanted, rfl⟩ := concerned
    · rcases between.shown_stale key isStale with kept | down
      · exact Or.inl (kept.symm.trans shown)
      · rw [down] at shown
        cases shown
    · obtain ⟨other, wanted⟩ := Option.ne_none_iff_exists'.mp isWanted
      rcases between.shown_wanted key other wanted with kept | up
      · exact Or.inl (kept.symm.trans shown)
      · rw [up] at shown
        exact Or.inr ⟨key, wanted.trans shown, rfl⟩
  · have outside : ∀ key, plan.Concerns key → plan.name key ≠ name :=
      fun key concerns same => concerned ⟨key, concerns, same⟩
    exact Or.inl ((between.shown_other name outside).symm.trans shown)

theorem Between.settled (between : plan.Between state)
    (complete : plan.Complete state) : plan.Settled state := by
  refine ⟨complete, between.tracked_other, between.shown_other, ?_, ?_⟩
  · intro key stale
    rcases between.stale key stale with kept | gone
    · have absent := complete.forgotten key stale
      rw [kept] at absent
      exact absurd absent (plan.tracked_of_stale key stale)
    · exact gone.2
  · intro key value wanted
    rcases between.wanted key value wanted with absent | present
    · rw [complete.recorded key value wanted] at absent
      cases absent
    · exact present.2

theorem Settled.unique {left right : Snapshot K E V} (first : plan.Settled left)
    (second : plan.Settled right) : left = right := by
  apply Snapshot.ext
  · funext key
    by_cases stale : key ∈ plan.stale
    · rw [first.complete.forgotten key stale, second.complete.forgotten key stale]
    · cases wanted : plan.wanted key with
      | some value =>
        rw [first.complete.recorded key value wanted, second.complete.recorded key value wanted]
      | none =>
        have outside := plan.not_concerns stale wanted
        rw [first.tracked_other key outside, second.tracked_other key outside]
  · funext name
    by_cases concerned : ∃ key, plan.Concerns key ∧ plan.name key = name
    · obtain ⟨key, isStale | isWanted, rfl⟩ := concerned
      · rw [first.down key isStale, second.down key isStale]
      · obtain ⟨value, wanted⟩ := Option.ne_none_iff_exists'.mp isWanted
        rw [first.up key value wanted, second.up key value wanted]
    · have outside : ∀ key, plan.Concerns key → plan.name key ≠ name :=
        fun key concerns same => concerned ⟨key, concerns, same⟩
      rw [first.shown_other name outside, second.shown_other name outside]

theorem Settled.transfer {other : Snapshot K E V} {next : Plan other} (same : other = start)
    (stale : next.stale = plan.stale) (wanted : next.wanted = plan.wanted)
    (name : next.name = plan.name) (settled : next.Settled state) :
    plan.Settled state := by
  subst same
  cases plan
  cases next
  cases stale
  cases wanted
  cases name
  exact settled

/-! ### Moves -/

variable (plan)

/-- What no move undoes, for one snapshot and a later one. -/
structure Lasts (before after : Snapshot K E V) : Prop where
  down : ∀ key ∈ plan.stale, before.shown (plan.name key) = none →
    after.shown (plan.name key) = none
  forgotten : ∀ key ∈ plan.stale, before.tracked key = none → after.tracked key = none
  up : ∀ key value, plan.wanted key = some value →
    before.shown (plan.name key) = some value → after.shown (plan.name key) = some value
  recorded : ∀ key value, plan.wanted key = some value →
    before.tracked key = some (plan.name key) → after.tracked key = some (plan.name key)

variable {plan}

theorem Lasts.refl (state : Snapshot K E V) : plan.Lasts state state :=
  { down := fun _ _ holds => holds
    forgotten := fun _ _ holds => holds
    up := fun _ _ _ holds => holds
    recorded := fun _ _ _ holds => holds }

theorem Lasts.trans {first middle last : Snapshot K E V} (left : plan.Lasts first middle)
    (right : plan.Lasts middle last) : plan.Lasts first last :=
  { down := fun key stale holds => right.down key stale (left.down key stale holds)
    forgotten := fun key stale holds => right.forgotten key stale (left.forgotten key stale holds)
    up := fun key value wanted holds =>
      right.up key value wanted (left.up key value wanted holds)
    recorded := fun key value wanted holds =>
      right.recorded key value wanted (left.recorded key value wanted holds) }

variable {before after : Snapshot K E V}

theorem Complete.later (complete : plan.Complete before)
    (lasts : plan.Lasts before after) : plan.Complete after :=
  { forgotten := fun key stale => lasts.forgotten key stale (complete.forgotten key stale)
    recorded := fun key value wanted =>
      lasts.recorded key value wanted (complete.recorded key value wanted) }

variable [DecidableEq K] [DecidableEq E]

variable (plan) in
inductive Move : Snapshot K E V → Snapshot K E V → Prop where
  | takeDown {state : Snapshot K E V} (key : K) (stale : key ∈ plan.stale) :
      Move state { state with shown := update state.shown (plan.name key) none }
  | forget {state : Snapshot K E V} (key : K) (stale : key ∈ plan.stale)
      (down : state.shown (plan.name key) = none) :
      Move state { state with tracked := update state.tracked key none }
  | putUp {state : Snapshot K E V} (key : K) (value : V) (wanted : plan.wanted key = some value) :
      Move state { state with shown := update state.shown (plan.name key) (some value) }
  | record {state : Snapshot K E V} (key : K) (value : V) (wanted : plan.wanted key = some value)
      (up : state.shown (plan.name key) = some value) :
      Move state
        { state with tracked := update state.tracked key (some (plan.name key)) }

theorem Move.lasts (move : plan.Move before after) :
    plan.Lasts before after := by
  cases move with
  | takeDown moved stale =>
    refine ⟨?_, fun _ _ holds => holds, ?_, fun _ _ _ holds => holds⟩
    · intro key _isStale holds
      by_cases same : plan.name key = plan.name moved
      · simp only [same, update_self]
      · simpa only [update_of_ne same] using holds
    · intro key value wanted holds
      simpa only [update_of_ne (plan.name_ne stale wanted)] using holds
  | forget moved stale down =>
    refine ⟨fun _ _ holds => holds, ?_, fun _ _ _ holds => holds, ?_⟩
    · intro key _isStale holds
      by_cases same : key = moved
      · simp only [same, update_self]
      · simpa only [update_of_ne same] using holds
    · intro key value wanted holds
      have different : key ≠ moved := by
        intro same
        subst same
        exact plan.not_stale_of_wanted wanted stale
      simpa only [update_of_ne different] using holds
  | putUp moved value wanted =>
    refine ⟨?_, fun _ _ holds => holds, ?_, fun _ _ _ holds => holds⟩
    · intro key stale holds
      simpa only [update_of_ne (plan.name_ne stale wanted).symm] using holds
    · intro key other isWanted holds
      by_cases same : plan.name key = plan.name moved
      · have equal := plan.apart key moved (plan.concerns_of_wanted isWanted)
          (plan.concerns_of_wanted wanted) same
        subst equal
        rw [wanted] at isWanted
        simp only [update_self, isWanted]
      · simpa only [update_of_ne same] using holds
  | record moved value wanted up =>
    refine ⟨fun _ _ holds => holds, ?_, fun _ _ _ holds => holds, ?_⟩
    · intro key stale holds
      have different : key ≠ moved := by
        intro same
        subst same
        exact plan.not_stale_of_wanted wanted stale
      simpa only [update_of_ne different] using holds
    · intro key other isWanted holds
      by_cases same : key = moved
      · simp only [same, update_self]
      · simpa only [update_of_ne same] using holds

theorem lasts_of_moves (moves : Relation.ReflTransGen plan.Move before after) :
    plan.Lasts before after := by
  induction moves with
  | refl => exact .refl before
  | tail _ move ih => exact ih.trans move.lasts

theorem Between.move (between : plan.Between before)
    (move : plan.Move before after) : plan.Between after := by
  have lasts := move.lasts
  cases move with
  | takeDown moved stale =>
    refine ⟨between.tracked_other, ?_, ?_, ?_, ?_, ?_⟩
    · intro name outside
      have different : name ≠ plan.name moved := (outside moved (Or.inl stale)).symm
      simpa only [update_of_ne different] using between.shown_other name outside
    · intro key isStale
      rcases between.stale key isStale with kept | gone
      · exact Or.inl kept
      · exact Or.inr ⟨gone.1, lasts.down key isStale gone.2⟩
    · intro key value wanted
      rcases between.wanted key value wanted with absent | present
      · exact Or.inl absent
      · exact Or.inr ⟨present.1, lasts.up key value wanted present.2⟩
    · intro key isStale
      by_cases same : plan.name key = plan.name moved
      · simp only [same, update_self, or_true]
      · simpa only [update_of_ne same] using between.shown_stale key isStale
    · intro key value wanted
      simpa only [update_of_ne (plan.name_ne stale wanted)] using
        between.shown_wanted key value wanted
  | forget moved stale down =>
    refine ⟨?_, between.shown_other, ?_, ?_, between.shown_stale, between.shown_wanted⟩
    · intro key outside
      have different : key ≠ moved := by
        intro same
        subst same
        exact outside (Or.inl stale)
      simpa only [update_of_ne different] using between.tracked_other key outside
    · intro key isStale
      by_cases same : key = moved
      · subst same
        exact Or.inr ⟨update_self _ _ _, down⟩
      · simpa only [update_of_ne same] using between.stale key isStale
    · intro key value wanted
      have different : key ≠ moved := by
        intro same
        subst same
        exact plan.not_stale_of_wanted wanted stale
      simpa only [update_of_ne different] using between.wanted key value wanted
  | putUp moved value wanted =>
    refine ⟨between.tracked_other, ?_, ?_, ?_, ?_, ?_⟩
    · intro name outside
      have different : name ≠ plan.name moved :=
        (outside moved (plan.concerns_of_wanted wanted)).symm
      simpa only [update_of_ne different] using between.shown_other name outside
    · intro key stale
      rcases between.stale key stale with kept | gone
      · exact Or.inl kept
      · exact Or.inr ⟨gone.1, lasts.down key stale gone.2⟩
    · intro key other isWanted
      rcases between.wanted key other isWanted with absent | present
      · exact Or.inl absent
      · exact Or.inr ⟨present.1, lasts.up key other isWanted present.2⟩
    · intro key stale
      simpa only [update_of_ne (plan.name_ne stale wanted).symm] using between.shown_stale key stale
    · intro key other isWanted
      by_cases same : plan.name key = plan.name moved
      · have equal := plan.apart key moved (plan.concerns_of_wanted isWanted)
          (plan.concerns_of_wanted wanted) same
        subst equal
        rw [wanted] at isWanted
        simp only [update_self, isWanted, or_true]
      · simpa only [update_of_ne same] using between.shown_wanted key other isWanted
  | record moved value wanted up =>
    refine ⟨?_, between.shown_other, ?_, ?_, between.shown_stale, between.shown_wanted⟩
    · intro key outside
      have different : key ≠ moved := by
        intro same
        subst same
        exact outside (plan.concerns_of_wanted wanted)
      simpa only [update_of_ne different] using between.tracked_other key outside
    · intro key stale
      have different : key ≠ moved := by
        intro same
        subst same
        exact plan.not_stale_of_wanted wanted stale
      simpa only [update_of_ne different] using between.stale key stale
    · intro key other isWanted
      by_cases same : key = moved
      · subst same
        rw [wanted] at isWanted
        cases isWanted
        exact Or.inr ⟨update_self _ _ _, up⟩
      · simpa only [update_of_ne same] using between.wanted key other isWanted

theorem Between.moves (between : plan.Between before)
    (moves : Relation.ReflTransGen plan.Move before after) : plan.Between after := by
  induction moves with
  | refl => exact between
  | tail _ move ih => exact ih.move move

end Plan

end Reconciliation
