/-
Two programs that overtake each other, seen from afar. Of all requests of a
program only some are actions on a view of the world; the others leave the view as
it is. What two such programs do together is the effect of their actions in one
order, in which the actions of either keep their own.
-/

import ContestSync.Resumable.Program

namespace Resumable

open Function

variable {service : Interface} {A S α : Type}

/-- The two lists in one, each in its own order. -/
inductive Merge : List A → List A → List A → Prop where
  | done : Merge [] [] []
  | left {action : A} {first second merged : List A} (rest : Merge first second merged) :
      Merge (action :: first) second (action :: merged)
  | right {action : A} {first second merged : List A} (rest : Merge first second merged) :
      Merge first (action :: second) (action :: merged)

theorem Merge.eq_of_nil {actions merged : List A} (merge : Merge [] actions merged) :
    merged = actions := by
  induction actions generalizing merged with
  | nil =>
    cases merge
    rfl
  | cons action rest ih =>
    cases merge with
    | right later => rw [ih later]

section Performs

variable (environment : Environment service) (admits : environment.Admits)
  (apply : A → S → S) (views : environment.State → S → Prop)

/-- The program performs the actions in order, each with one request, and none of its
other requests changes the view. -/
def Performs : Program service α → List A → Prop
  | .done _, actions => actions = []
  | .call request next, actions =>
    (∃ action rest, actions = action :: rest ∧
      ∀ state view outcome, admits request outcome → views state view →
        views (environment.serve state request outcome).1 (apply action view) ∧
          Performs (next (environment.serve state request outcome).2) rest) ∨
    ∀ state view outcome, admits request outcome → views state view →
      views (environment.serve state request outcome).1 view ∧
        Performs (next (environment.serve state request outcome).2) actions

end Performs

variable {environment : Environment service} {admits : environment.Admits}
  {disturbs : environment.State → environment.State → Prop}
  {apply : A → S → S} {views : environment.State → S → Prop}

theorem Interleaved.merges {first last : environment.State}
    {pool residue : Bool → Program service α}
    (run : Interleaved environment admits disturbs first pool last residue)
    (undisturbed : ∀ before after view, disturbs before after → views before view →
      views after view)
    (finished : ∀ who, ∃ value, residue who = .done value) {actions : Bool → List A}
    (performs : ∀ who, Performs environment admits apply views (pool who) (actions who))
    {view : S} (viewed : views first view) :
    ∃ merged, Merge (actions false) (actions true) merged ∧
      views last (merged.foldl (fun view action => apply action view) view) := by
  induction run generalizing actions view with
  | refl state pool =>
    have none : ∀ who, actions who = [] := by
      intro who
      obtain ⟨value, done⟩ := finished who
      have performed := performs who
      rw [done] at performed
      exact performed
    refine ⟨[], ?_, viewed⟩
    rw [none false, none true]
    exact .done
  | disturbed disturbance _ ih =>
    exact ih finished performs (undisturbed _ _ view disturbance viewed)
  | @step state last pool residue request next who ready outcome admitted _ ih =>
    have own := performs who
    rw [ready] at own
    rcases own with ⟨action, rest, taken, served⟩ | served
    · obtain ⟨after, later⟩ := served state view outcome admitted viewed
      have performsAfter : ∀ other, Performs environment admits apply views
          (update pool who (next (environment.serve state request outcome).2) other)
          (update actions who rest other) := by
        intro other
        by_cases same : other = who
        · subst same
          rw [update_self, update_self]
          exact later
        · rw [update_of_ne same, update_of_ne same]
          exact performs other
      obtain ⟨merged, merge, ends⟩ := ih finished performsAfter after
      refine ⟨action :: merged, ?_, ends⟩
      cases who with
      | false =>
        rw [taken]
        exact .left merge
      | true =>
        rw [taken]
        exact .right merge
    · obtain ⟨after, later⟩ := served state view outcome admitted viewed
      exact ih finished ((Function.forall_update_iff pool (fun other program =>
        Performs environment admits apply views program (actions other))).mpr
        ⟨later, fun other _ => performs other⟩) after

theorem exists_finished (environment : Environment service) {admits : environment.Admits}
    {disturbs : environment.State → environment.State → Prop}
    (policy : environment.State → service.Request → environment.Outcome)
    (admitted : ∀ state request, admits request (policy state request))
    (state : environment.State) (pool : Bool → Program service α) :
    ∃ last residue, Interleaved environment admits disturbs state pool last residue ∧
      ∀ who, ∃ value, residue who = .done value := by
  have first := (complete_steps environment admits disturbs policy admitted (pool false)
    state).interleaved pool false rfl
  have second := fun middle ended => (complete_steps environment admits disturbs policy admitted
    (pool true) middle).interleaved (update pool false ended) true
    (update_of_ne (Ne.symm Bool.false_ne_true) ended pool)
  refine ⟨_, _, first.trans (second _ _), ?_⟩
  intro who
  cases who with
  | false => exact ⟨_, (update_of_ne Bool.false_ne_true _ _).trans (update_self _ _ _)⟩
  | true => exact ⟨_, update_self _ _ _⟩

/-! ### Turns in a given order -/

section Turns

variable {ι : Type} [DecidableEq ι] (environment) (policy : service.Request → environment.Outcome)

/-- The named program makes its next request, if it has not ended. -/
def turn (point : environment.State × (ι → Program service α)) (who : ι) :
    environment.State × (ι → Program service α) :=
  match point.2 who with
  | .done _ => point
  | .call request next =>
    let served := environment.serve point.1 request (policy request)
    (served.1, update point.2 who (next served.2))

theorem interleaved_turns (admitted : ∀ request, admits request (policy request))
    (order : List ι) (point : environment.State × (ι → Program service α)) :
    Interleaved environment admits disturbs point.1 point.2
      (order.foldl (turn environment policy) point).1
      (order.foldl (turn environment policy) point).2 := by
  induction order generalizing point with
  | nil => exact .refl _ _
  | cons who rest ih =>
    have later := ih (turn environment policy point who)
    rw [List.foldl_cons]
    cases ready : point.2 who with
    | done value =>
      simp only [turn, ready] at later ⊢
      exact later
    | call request next =>
      simp only [turn, ready] at later ⊢
      exact .step who ready (policy request) (admitted request) later

end Turns

/-- Two programs of two actions each: one after the other, or both first actions
before both second ones. -/
theorem Merge.of_pairs (first second : Bool → A) {merged : List A}
    (merge : Merge [first false, second false] [first true, second true] merged) :
    ∃ who, merged = [first !who, second !who, first who, second who] ∨
      ∃ other, merged = [first !other, first other, second !who, second who] := by
  cases merge with
  | left rest =>
    cases rest with
    | left rest =>
      cases rest with
      | right rest =>
        cases rest with
        | right rest =>
          cases rest
          exact ⟨true, .inl rfl⟩
    | right rest =>
      cases rest with
      | left rest =>
        cases rest with
        | right rest =>
          cases rest
          exact ⟨true, .inr ⟨true, rfl⟩⟩
      | right rest =>
        cases rest with
        | left rest =>
          cases rest
          exact ⟨false, .inr ⟨true, rfl⟩⟩
  | right rest =>
    cases rest with
    | right rest =>
      cases rest with
      | left rest =>
        cases rest with
        | left rest =>
          cases rest
          exact ⟨false, .inl rfl⟩
    | left rest =>
      cases rest with
      | left rest =>
        cases rest with
        | right rest =>
          cases rest
          exact ⟨true, .inr ⟨false, rfl⟩⟩
      | right rest =>
        cases rest with
        | left rest =>
          cases rest
          exact ⟨false, .inr ⟨false, rfl⟩⟩

end Resumable
