/-
The calls that programs make. An environment keeps a record of the requests and
their answers; what a program says about its own calls, whatever it is answered,
holds of its share of the record, alone or beside others.
-/

import ContestSync.Resumable.Specification

namespace Resumable

open Function

variable {service : Interface} {α β : Type}

abbrev Call (service : Interface) : Type :=
  (request : service.Request) × service.Answer request

abbrev Calls (service : Interface) : Type :=
  List (Call service)

/-- The same environment with a record of the calls, the last one first. -/
def Environment.recorded (environment : Environment service) : Environment service :=
  { State := environment.State × Calls service
    Outcome := environment.Outcome
    serve := fun state request outcome =>
      let served := environment.serve state.1 request outcome
      ((served.1, ⟨request, served.2⟩ :: state.2), served.2) }

/-- Others may do anything to the state; the record is not theirs. -/
def Environment.Elsewhere (environment : Environment service)
    (before after : environment.recorded.State) : Prop :=
  after.2 = before.2

/-- The states are the calls of a program so far; nothing is known of an answer. -/
def calls (service : Interface) : Specification service (Calls service) :=
  { holds := fun request post made => ∀ answer, post answer (⟨request, answer⟩ :: made)
    mono := fun _ _ _ implies _ holds answer => implies answer _ (holds answer) }

variable {post : β → Calls service → Prop} {made : Calls service}
  {request : service.Request}

/-- Whatever a program has asked before, what its end says of its calls holds. -/
theorem ensures_then {program : Program service α} {rest : α → Program service β}
    (follows : ∀ value made, Ensures (calls service) post (rest value) made) :
    Ensures (calls service) post (program >>= rest) made := by
  induction program generalizing made with
  | done value => exact follows value made
  | call request next ih => exact fun answer => ih answer

theorem ensures_call {rest : service.Answer request → Program service β}
    (follows : ∀ answer, Ensures (calls service) post (rest answer) (⟨request, answer⟩ :: made)) :
    Ensures (calls service) post ((.call request .done : Program service _) >>= rest) made :=
  follows

theorem maintains_call {invariant : Calls service → Prop}
    (keeps : ∀ made answer, invariant made → invariant (⟨request, answer⟩ :: made)) :
    Maintains (calls service) invariant (.call request .done) :=
  fun made holds answer => keeps made answer holds

/-- The record has grown by calls of an allowed kind. -/
def Extends (allowed : service.Request → Bool) (made later : Calls service) : Prop :=
  ∃ new, later = new ++ made ∧ ∀ call ∈ new, allowed call.1 = true

section Extends

variable {allowed : service.Request → Bool} {made middle later : Calls service}

theorem Extends.refl (made : Calls service) : Extends allowed made made :=
  ⟨[], rfl, nofun⟩

theorem Extends.cons (grown : Extends allowed made later) {request : service.Request}
    (permitted : allowed request = true) (answer : service.Answer request) :
    Extends allowed made (⟨request, answer⟩ :: later) := by
  obtain ⟨new, rfl, all⟩ := grown
  refine ⟨⟨request, answer⟩ :: new, rfl, ?_⟩
  intro call member
  rcases List.mem_cons.mp member with rfl | old
  · exact permitted
  · exact all call old

theorem Extends.trans (first : Extends allowed made middle)
    (second : Extends allowed middle later) : Extends allowed made later := by
  obtain ⟨early, rfl, allEarly⟩ := first
  obtain ⟨late, rfl, allLate⟩ := second
  refine ⟨late ++ early, (List.append_assoc ..).symm, ?_⟩
  intro call member
  rcases List.mem_append.mp member with inLate | inEarly
  · exact allLate call inLate
  · exact allEarly call inEarly

theorem Extends.mono (grown : Extends allowed made later) {weaker : service.Request → Bool}
    (implies : ∀ request, allowed request = true → weaker request = true) :
    Extends weaker made later := by
  obtain ⟨new, rfl, all⟩ := grown
  exact ⟨new, rfl, fun call member => implies _ (all call member)⟩

theorem Extends.suffix (grown : Extends allowed made later) : made <:+ later := by
  obtain ⟨new, rfl, _⟩ := grown
  exact List.suffix_append new made

theorem Extends.keeps (grown : Extends allowed made later) (invariant : Calls service → Prop)
    (step : ∀ call made, allowed call.1 = true → invariant made → invariant (call :: made))
    (holds : invariant made) : invariant later := by
  obtain ⟨new, rfl, all⟩ := grown
  induction new with
  | nil => exact holds
  | cons call rest ih =>
    exact step call _ (all call List.mem_cons_self)
      (ih (fun other member => all other (List.mem_cons_of_mem call member)))

end Extends

/-- An attempt: a failure leaves one call with its error, a success what it says. -/
def Attempted {ε ρ : Type} (failed : ε → Call service) (fails : ε → Prop)
    (succeeds : ρ → Calls service → Calls service → Prop)
    (made : Calls service) : Except ε ρ → Calls service → Prop
  | .ok value, later => succeeds value made later
  | .error error, later => fails error ∧ later = failed error :: made

/-- Several attempts: the last calls are those of the failures when all have failed,
and otherwise the successful attempt comes after the failures. -/
def Retried {ε ρ : Type} (attempts : Nat) (failed : ε → Call service) (fails : ε → Prop)
    (succeeds : ρ → Calls service → Calls service → Prop)
    (made : Calls service) : Except ε ρ → Calls service → Prop
  | .ok value, later => ∃ errors : List ε, succeeds value (errors.map failed ++ made) later
  | .error last, later => ∃ errors : List ε, errors.length = attempts ∧ last ∈ errors ∧
      (∀ error ∈ errors, fails error) ∧ later = errors.map failed ++ made

theorem ensures_retry_calls {ε ρ : Type} {body : Program service (Except ε ρ)}
    {failed : ε → Call service} {fails : ε → Prop}
    {succeeds : ρ → Calls service → Calls service → Prop}
    (once : ∀ made, Ensures (calls service) (Attempted failed fails succeeds made) body made)
    (further : Nat) (made : Calls service) :
    Ensures (calls service) (Retried (further + 1) failed fails succeeds made)
      (Program.retry body further) made := by
  induction further generalizing made with
  | zero =>
    refine Ensures.mono ?_ (once made)
    intro result later reached
    cases result with
    | ok value => exact ⟨[], reached⟩
    | error error =>
      refine ⟨[error], rfl, List.mem_singleton.mpr rfl, ?_, reached.2⟩
      intro other member
      rw [List.mem_singleton.mp member]
      exact reached.1
  | succ further ih =>
    refine (once made).then ?_
    intro result middle reached
    cases result with
    | ok value => exact ⟨[], reached⟩
    | error error =>
      obtain ⟨first, rfl⟩ := reached
      refine Ensures.mono ?_ (ih (failed error :: made))
      intro result later reached
      cases result with
      | ok value =>
        obtain ⟨errors, reached⟩ := reached
        refine ⟨errors ++ [error], ?_⟩
        rw [List.map_append, List.append_assoc]
        exact reached
      | error last =>
        obtain ⟨errors, count, final, all, rfl⟩ := reached
        refine ⟨errors ++ [error], ?_, List.mem_append_left _ final, ?_, ?_⟩
        · rw [List.length_append, count]
          rfl
        · intro other member
          rcases List.mem_append.mp member with later | here
          · exact all other later
          · rw [List.mem_singleton.mp here]
            exact first
        · rw [List.map_append, List.append_assoc]
          rfl

theorem exists_mem_update_cons {ι γ : Type} [DecidableEq ι] {own : ι → List γ} {who : ι}
    {new item : γ} :
    (∃ other, item ∈ update own who (new :: own who) other) ↔
      item = new ∨ ∃ other, item ∈ own other := by
  constructor
  · rintro ⟨other, member⟩
    by_cases same : other = who
    · subst same
      rw [update_self] at member
      exact (List.mem_cons.mp member).imp_right (fun old => ⟨other, old⟩)
    · rw [update_of_ne same] at member
      exact .inr ⟨other, member⟩
  · rintro (rfl | ⟨other, member⟩)
    · refine ⟨who, ?_⟩
      rw [update_self]
      exact List.mem_cons_self
    · refine ⟨other, ?_⟩
      by_cases same : other = who
      · subst same
        rw [update_self]
        exact List.mem_cons_of_mem _ member
      · rw [update_of_ne same]
        exact member

section Record

variable {environment : Environment service} {admits : environment.recorded.Admits}
  {first last : environment.recorded.State} {program residue : Program service α}

theorem Ensures.steps {post : α → Calls service → Prop}
    (run : Steps environment.recorded admits environment.Elsewhere first program last residue)
    (ensured : Ensures (calls service) post program first.2) :
    Ensures (calls service) post residue last.2 := by
  induction run with
  | refl state program => exact ensured
  | disturbed elsewhere _ ih =>
    apply ih
    rw [elsewhere]
    exact ensured
  | call outcome _ _ ih => exact ih (ensured _)

theorem Steps.answers
    (run : Steps environment.recorded admits environment.Elsewhere first program last residue)
    {known : Call service → Prop} (answers : ∀ state request outcome,
      known ⟨request, (environment.serve state request outcome).2⟩)
    (earlier : ∀ call ∈ first.2, known call) : ∀ call ∈ last.2, known call := by
  induction run with
  | refl state program => exact earlier
  | disturbed elsewhere _ ih =>
    apply ih
    rw [elsewhere]
    exact earlier
  | @call state last request next residue outcome _ _ ih =>
    apply ih
    intro call member
    rcases List.mem_cons.mp member with rfl | member
    · exact answers state.1 request outcome
    · exact earlier call member

/-- Every call in the record of several programs is one of one of them, and what each
of them says of its own calls holds. -/
theorem Interleaved.calls {ι : Type} [DecidableEq ι]
    {posts : ι → α → Calls service → Prop} {pool residue : ι → Program service α}
    (run : Interleaved environment.recorded admits environment.Elsewhere first pool last residue)
    {earlier : Calls service} {own : ι → Calls service}
    (ensured : ∀ who, Ensures (Resumable.calls service) (posts who) (pool who) (own who))
    (shares : ∀ call, call ∈ first.2 ↔ call ∈ earlier ∨ ∃ who, call ∈ own who) :
    ∃ made : ι → Calls service,
      (∀ who, Ensures (Resumable.calls service) (posts who) (residue who) (made who)) ∧
      ∀ call, call ∈ last.2 ↔ call ∈ earlier ∨ ∃ who, call ∈ made who := by
  induction run generalizing own with
  | refl state pool => exact ⟨own, ensured, shares⟩
  | disturbed elsewhere _ ih =>
    apply ih ensured
    rw [elsewhere]
    exact shares
  | @step state last pool residue request next who ready outcome _ _ ih =>
    have answered := ensured who
    rw [ready] at answered
    let made := update own who
      (⟨request, (environment.recorded.serve state request outcome).2⟩ :: own who)
    have kept : ∀ other, Ensures (Resumable.calls service) (posts other) (update pool who
          (next (environment.recorded.serve state request outcome).2) other)
        (made other) := by
      intro other
      by_cases same : other = who
      · subst same
        simp only [made, update_self]
        exact answered _
      · simp only [made, update_of_ne same]
        exact ensured other
    refine ih kept ?_
    intro call
    change call ∈ _ :: state.2 ↔ call ∈ earlier ∨ ∃ who, call ∈ made who
    rw [List.mem_cons, shares, exists_mem_update_cons]
    exact or_left_comm

end Record

end Resumable
