/-
Rely and guarantee for resumable programs. A contract fixes the outcomes the
environment may choose, what other programs may do between two requests, and
what each request of this program must do to the world.

What a contract ensures holds in all three executions: a run to the end, a run
cut off after any request, and any interleaving of programs whose guarantees
are within each other's rely.
-/

import ContestSync.Resumable.Specification

namespace Resumable

variable {service : Interface} {environment : Environment service} {α : Type}

structure Contract (environment : Environment service) where
  admits : environment.Admits
  rely : environment.State → environment.State → Prop
  guarantee : environment.State → environment.State → Prop

/-- Every request, served now under any admitted outcome, keeps the guarantee;
its answer is used when the others have done whatever they may do. -/
def Contract.spec (contract : Contract environment) :
    Specification service environment.State :=
  { holds := fun request post state =>
      ∀ outcome, contract.admits request outcome →
        contract.guarantee state (environment.serve state request outcome).1 ∧
          ∀ later, contract.rely (environment.serve state request outcome).1 later →
            post (environment.serve state request outcome).2 later
    mono := by
      intro request post weaker implies state holds outcome admitted
      obtain ⟨kept, follows⟩ := holds outcome admitted
      exact ⟨kept, fun later allowed => implies _ later (follows later allowed)⟩ }

variable {contract : Contract environment}

/-- The assertion in the form that survives interference before the program's
next request. -/
def Stably (contract : Contract environment) (post : α → environment.State → Prop)
    (program : Program service α) (state : environment.State) : Prop :=
  ∀ later, contract.rely state later → Ensures contract.spec post program later

/-- A rely that can be used for whole executions. -/
structure Contract.Steady (contract : Contract environment)
    (disturbs : environment.State → environment.State → Prop) : Prop where
  reflexive : ∀ state, contract.rely state state
  transitive : ∀ first middle last, contract.rely first middle →
    contract.rely middle last → contract.rely first last
  absorbs : ∀ first last, disturbs first last → contract.rely first last

variable {disturbs : environment.State → environment.State → Prop}
  {post : α → environment.State → Prop} {program : Program service α}
  {state first last : environment.State} {admits : environment.Admits}

theorem Stably.now (steady : contract.Steady disturbs)
    (stably : Stably contract post program state) : Ensures contract.spec post program state :=
  stably state (steady.reflexive state)

theorem Stably.after (steady : contract.Steady disturbs) {next : environment.State}
    (stably : Stably contract post program state) (allowed : contract.rely state next) :
    Stably contract post program next := by
  intro later further
  exact stably later (steady.transitive _ _ _ allowed further)

/-- A run by itself, complete or cut off: every request kept the guarantee, and
what is left of the program still ensures the postcondition. -/
theorem Stably.steps (steady : contract.Steady disturbs) {residue : Program service α}
    (execution : Steps environment contract.admits disturbs first program last residue)
    (stably : Stably contract post program first) :
    Relation.ReflTransGen
        (fun before after => contract.guarantee before after ∨ disturbs before after)
        first last ∧
      Stably contract post residue last := by
  induction execution with
  | refl state program => exact ⟨.refl, stably⟩
  | disturbed disturbance _ ih =>
    obtain ⟨path, left⟩ := ih (stably.after steady (steady.absorbs _ _ disturbance))
    exact ⟨.head (Or.inr disturbance) path, left⟩
  | call outcome admitted _ ih =>
    obtain ⟨kept, follows⟩ := stably.now steady outcome admitted
    obtain ⟨path, left⟩ := ih follows
    exact ⟨.head (Or.inl kept) path, left⟩

/-- Any interleaving of any number of programs: each of them still ensures its
own postcondition, and every request kept the guarantee of its program. -/
theorem Stably.interleaved {ι : Type} [DecidableEq ι] (contract : ι → Contract environment)
    (admitted : ∀ who request outcome, admits request outcome →
      (contract who).admits request outcome) (steady : ∀ who, (contract who).Steady disturbs)
    (within : ∀ actor other first last, actor ≠ other →
      (contract actor).guarantee first last → (contract other).rely first last)
    {post : ι → α → environment.State → Prop} {pool residue : ι → Program service α}
    (execution : Interleaved environment admits disturbs first pool last residue)
    (ensured : ∀ who, Stably (contract who) (post who) (pool who) first) :
    Relation.ReflTransGen (fun before after =>
          (∃ who, (contract who).guarantee before after) ∨ disturbs before after)
        first last ∧
      ∀ who, Stably (contract who) (post who) (residue who) last := by
  induction execution with
  | refl state pool => exact ⟨.refl, ensured⟩
  | disturbed disturbance _ ih =>
    obtain ⟨path, left⟩ := ih (fun who =>
      (ensured who).after (steady who) ((steady who).absorbs _ _ disturbance))
    exact ⟨.head (Or.inr disturbance) path, left⟩
  | @step state last pool residue request next who ready outcome permitted _ ih =>
    have own := (ensured who).now (steady who)
    rw [ready] at own
    obtain ⟨kept, follows⟩ := own outcome (admitted who request outcome permitted)
    have advanced : ∀ other, Stably (contract other) (post other) (Function.update pool who
          (next (environment.serve state request outcome).2) other)
        (environment.serve state request outcome).1 := by
      intro other
      by_cases same : other = who
      · subst other
        rw [Function.update_self]
        exact follows
      · rw [Function.update_of_ne same]
        exact (ensured other).after (steady other) (within who other _ _ (Ne.symm same) kept)
    obtain ⟨path, left⟩ := ih advanced
    exact ⟨.head (Or.inl ⟨who, kept⟩) path, left⟩

/-! ### A program by itself -/

/-- Nobody else is there, and nothing is promised to anybody. -/
def solo (environment : Environment service) (admits : environment.Admits) :
    Contract environment :=
  { admits := admits
    rely := fun before after => after = before
    guarantee := fun _ _ => True }

/-- Execution to the end without any disturbance. -/
abbrev Runs (environment : Environment service) (admits : environment.Admits)
    (first : environment.State) (program : Program service α) (last : environment.State)
    (value : α) : Prop :=
  Steps environment admits (fun _ _ => False) first program last (.done value)

theorem Ensures.runs {value : α}
    (ensured : Ensures (solo environment admits).spec post program first)
    (execution : Runs environment admits first program last value) : post value last := by
  have steady : (solo environment admits).Steady (fun _ _ => False) :=
    { reflexive := fun _ => rfl
      transitive := fun _ _ _ left right => right.trans left
      absorbs := fun _ _ impossible => impossible.elim }
  have stably : Stably (solo environment admits) post program first := by
    rintro later rfl
    exact ensured
  obtain ⟨_, ended⟩ := stably.steps steady execution
  exact ended.now steady

end Resumable
