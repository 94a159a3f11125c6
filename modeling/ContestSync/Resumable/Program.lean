/-
Resumable programs over a service. A program is finished with a value, or it
waits for the answer to one request; every request is a point at which it may
be cut off or overtaken by another program. The environment serves a request
under an outcome of its own choice.

This module names no service. It defines programs, their loops and the three
ways in which they are executed: step by step, to the end under a fixed policy,
and interleaved with other programs.
-/

import Mathlib.Logic.Relation
import Mathlib.Logic.Function.Basic

namespace Resumable

/-- What can be asked of a service, and the type of each answer. -/
structure Interface where
  Request : Type
  Answer : Request → Type

inductive Program (service : Interface) (α : Type) where
  | done (value : α)
  | call (request : service.Request) (next : service.Answer request → Program service α)

namespace Program

variable {service : Interface} {α β γ ε ρ σ : Type}

def bind : Program service α → (α → Program service β) → Program service β
  | .done value, rest => rest value
  | .call request next, rest => .call request (fun answer => (next answer).bind rest)

instance : Monad (Program service) where
  pure := .done
  bind := bind

@[simp] theorem pure_eq (value : α) : (pure value : Program service α) = .done value :=
  rfl

@[simp] theorem done_bind (value : α) (rest : α → Program service β) :
    (Program.done value >>= rest) = rest value :=
  rfl

@[simp] theorem call_bind (request : service.Request)
    (next : service.Answer request → Program service α) (rest : α → Program service β) :
    (Program.call request next >>= rest) = .call request (fun answer => next answer >>= rest) :=
  rfl

/-- Fold the body over the items; an error leaves the loop at once with it. -/
def traverse (body : σ → β → Program service (Except ρ σ)) :
    σ → List β → Program service (Except ρ σ)
  | state, [] => .done (.ok state)
  | state, item :: rest => do
      match ← body state item with
      | .ok state => traverse body state rest
      | .error result => return .error result

def each (body : β → Program service Unit) : List β → Program service Unit
  | [] => .done ()
  | item :: rest => do
      body item
      each body rest

/-- Run the body once and then, as long as it answers an error, up to
`further` times more. The last error is the result when all of them fail. -/
def retry (body : Program service (Except ε ρ)) : Nat → Program service (Except ε ρ)
  | 0 => body
  | further + 1 => do
      match ← body with
      | .ok result => return .ok result
      | .error _ => retry body further

/-- The program cut off after so many requests, when it has not ended before. -/
def cut : Nat → Program service α → Program service (Option α)
  | 0, _ => .done none
  | _ + 1, .done value => .done (some value)
  | further + 1, .call request next => .call request (fun answer => (next answer).cut further)

end Program

/-- The world behind a service. An outcome is the part of an answer that the
program cannot determine: whether the call fails, and how. -/
structure Environment (service : Interface) where
  State : Type
  Outcome : Type
  serve : State → (request : service.Request) → Outcome → State × service.Answer request

variable {service : Interface} {α : Type}

namespace Environment

variable (environment : Environment service)

/-- Which outcomes a class of executions admits for each request. -/
abbrev Admits : Type :=
  service.Request → environment.Outcome → Prop

end Environment

/-- A run of a step relation with the list of the states it passes. -/
inductive Trace {S : Type} (step : S → S → Prop) : S → List S → S → Prop where
  | stay (state : S) : Trace step state [state] state
  | move {first next last : S} {states : List S} (moved : step first next)
      (rest : Trace step next states last) : Trace step first (first :: states) last

theorem Trace.first_mem {S : Type} {step : S → S → Prop} {first last : S} {states : List S}
    (trace : Trace step first states last) : first ∈ states := by
  cases trace with
  | stay => exact List.mem_singleton.mpr rfl
  | move _ _ => exact List.mem_cons_self

section Execution

variable (environment : Environment service)

/-- Execution of a program by itself, for any number of its requests. Before
each of them the world may be disturbed. The program on the right is what is
left when the execution stops: `done` when it ran to its end, anything else
when it was cut off. -/
inductive Steps (admits : environment.Admits)
    (disturbs : environment.State → environment.State → Prop) :
    environment.State → Program service α → environment.State → Program service α → Prop where
  | refl (state : environment.State) (program : Program service α) :
      Steps admits disturbs state program state program
  | disturbed {state disturbed last : environment.State} {program residue : Program service α}
      (disturbance : disturbs state disturbed)
      (rest : Steps admits disturbs disturbed program last residue) :
      Steps admits disturbs state program last residue
  | call {state last : environment.State} {request : service.Request}
      {next : service.Answer request → Program service α} {residue : Program service α}
      (outcome : environment.Outcome) (admitted : admits request outcome)
      (rest : Steps admits disturbs (environment.serve state request outcome).1
        (next (environment.serve state request outcome).2) last residue) :
      Steps admits disturbs state (.call request next) last residue

/-- Run a program to its end, the outcome of each request taken from a policy. -/
def complete (policy : environment.State → service.Request → environment.Outcome) :
    Program service α → environment.State → environment.State × α
  | .done value, state => (state, value)
  | .call request next, state =>
    let served := environment.serve state request (policy state request)
    complete policy (next served.2) served.1

theorem complete_steps (admits : environment.Admits)
    (disturbs : environment.State → environment.State → Prop)
    (policy : environment.State → service.Request → environment.Outcome)
    (admitted : ∀ state request, admits request (policy state request))
    (program : Program service α) (state : environment.State) :
    Steps environment admits disturbs state program (complete environment policy program state).1
      (.done (complete environment policy program state).2) := by
  induction program generalizing state with
  | done value => exact .refl state _
  | call request next ih =>
    exact .call (policy state request) (admitted state request) (ih _ _)

/-- Programs with a common world, one request of one of them at a time. -/
inductive Interleaved {ι : Type} [DecidableEq ι] (admits : environment.Admits)
    (disturbs : environment.State → environment.State → Prop) :
    environment.State → (ι → Program service α) →
      environment.State → (ι → Program service α) → Prop where
  | refl (state : environment.State) (pool : ι → Program service α) :
      Interleaved admits disturbs state pool state pool
  | disturbed {state disturbed last : environment.State} {pool residue : ι → Program service α}
      (disturbance : disturbs state disturbed)
      (rest : Interleaved admits disturbs disturbed pool last residue) :
      Interleaved admits disturbs state pool last residue
  | step {state last : environment.State} {pool residue : ι → Program service α}
      {request : service.Request} {next : service.Answer request → Program service α}
      (who : ι) (ready : pool who = .call request next)
      (outcome : environment.Outcome) (admitted : admits request outcome)
      (rest : Interleaved admits disturbs (environment.serve state request outcome).1
        (Function.update pool who (next (environment.serve state request outcome).2))
        last residue) :
      Interleaved admits disturbs state pool last residue

end Execution

variable {environment : Environment service} {program residue : Program service α}
  {admits : environment.Admits} {disturbs : environment.State → environment.State → Prop}
  {first last : environment.State}

theorem Interleaved.trans {ι : Type} [DecidableEq ι]
    {middle : environment.State} {pool between residue : ι → Program service α}
    (left : Interleaved environment admits disturbs first pool middle between)
    (right : Interleaved environment admits disturbs middle between last residue) :
    Interleaved environment admits disturbs first pool last residue := by
  induction left with
  | refl state pool => exact right
  | disturbed disturbance _ ih => exact .disturbed disturbance (ih right)
  | step who ready outcome admitted _ ih => exact .step who ready outcome admitted (ih right)

theorem Interleaved.keeps {ι : Type} [DecidableEq ι] {pool residue : ι → Program service α}
    (run : Interleaved environment admits disturbs first pool last residue)
    (invariant : environment.State → Prop)
    (serves : ∀ state request outcome, admits request outcome → invariant state →
      invariant (environment.serve state request outcome).1)
    (disturbances : ∀ before after, disturbs before after → invariant before → invariant after)
    (holds : invariant first) : invariant last := by
  induction run with
  | refl state pool => exact holds
  | disturbed disturbance _ ih => exact ih (disturbances _ _ disturbance holds)
  | step who ready outcome admitted _ ih => exact ih (serves _ _ outcome admitted holds)

theorem Steps.keeps (run : Steps environment admits disturbs first program last residue)
    (invariant : environment.State → Prop)
    (serves : ∀ state request outcome, admits request outcome → invariant state →
      invariant (environment.serve state request outcome).1)
    (disturbances : ∀ before after, disturbs before after → invariant before → invariant after)
    (holds : invariant first) : invariant last := by
  induction run with
  | refl state program => exact holds
  | disturbed disturbance _ ih => exact ih (disturbances _ _ disturbance holds)
  | call outcome admitted _ ih => exact ih (serves _ _ outcome admitted holds)

theorem Steps.mono {weaker : environment.State → environment.State → Prop}
    (run : Steps environment admits disturbs first program last residue)
    (implies : ∀ before after, disturbs before after → weaker before after) :
    Steps environment admits weaker first program last residue := by
  induction run with
  | refl state program => exact .refl state program
  | disturbed disturbance _ ih => exact .disturbed (implies _ _ disturbance) ih
  | call outcome admitted _ ih => exact .call outcome admitted ih

theorem Steps.interleaved {ι : Type} [DecidableEq ι]
    (execution : Steps environment admits disturbs first program last residue)
    (pool : ι → Program service α) (who : ι) (ready : pool who = program) :
    Interleaved environment admits disturbs first pool last (Function.update pool who residue) := by
  induction execution generalizing pool with
  | refl state program =>
    rw [← ready, Function.update_eq_self]
    exact .refl state pool
  | disturbed disturbance _ ih => exact .disturbed disturbance (ih pool ready)
  | @call state last request next residue outcome admitted _ ih =>
    refine .step who ready outcome admitted ?_
    have rest := ih _ (Function.update_self who
      (next (environment.serve state request outcome).2) pool)
    rwa [Function.update_idem] at rest

end Resumable
