/-
Workers that take up one job after another. The jobs of all workers share the
world, one request of one of them at a time, and between two requests the world
may be disturbed. Each worker remembers of its present job what a monitor records
of the answers; the memory is not visible to any program.

A discipline says which requests a job may make with which memory, and with which
memory it may end. It is a property of the program of each job by itself, and it
holds for every worker in every execution.
-/

import ContestSync.Resumable.Specification

namespace Resumable

open Function

variable {service : Interface} {A M α : Type}

/-- The program of each job, and what is remembered of it. -/
structure Workforce (service : Interface) (A M α : Type) where
  program : A → Program service α
  fresh : A → M
  record : A → M → (request : service.Request) → service.Answer request → M

namespace Workforce

variable (work : Workforce service A M α)

/-- Assertions about the memory along the program of a job. -/
def watch (allows : A → M → service.Request → Prop) (job : A) : Specification service M :=
  { holds := fun request post memory => allows job memory request ∧
      ∀ answer, post answer (work.record job memory request answer)
    mono := fun _ _ _ implies _ holds =>
      ⟨holds.1, fun answer => implies answer _ (holds.2 answer)⟩ }

/-- Every job keeps to the discipline, whatever it is answered. -/
def Disciplined (allows : A → M → service.Request → Prop) (ends : A → α → M → Prop) : Prop :=
  ∀ job, Ensures (work.watch allows job) (ends job) (work.program job) (work.fresh job)

variable {work} {allows : A → M → service.Request → Prop} {job : A} {invariant : M → Prop}

theorem maintains_call {request : service.Request}
    (allowed : ∀ memory, invariant memory → allows job memory request)
    (kept : ∀ memory answer, invariant memory → invariant (work.record job memory request answer)) :
    Maintains (work.watch allows job) invariant (.call request .done) :=
  fun memory holds => ⟨allowed memory holds, fun answer => kept memory answer holds⟩

/-- What a job remembers is determined by its answers, so that two assertions about
it can be proved apart. -/
theorem ensures_and {β : Type} {left right : β → M → Prop} {program : Program service β}
    {memory : M} (first : Ensures (work.watch allows job) left program memory)
    (second : Ensures (work.watch allows job) right program memory) :
    Ensures (work.watch allows job) (fun value later => left value later ∧ right value later)
      program memory := by
  induction program generalizing memory with
  | done value => exact ⟨first, second⟩
  | call request next ih =>
    exact ⟨first.1, fun answer => ih answer (first.2 answer) (second.2 answer)⟩

end Workforce

variable (environment : Environment service) (ι : Type)

structure Pool (A M α : Type) where
  state : environment.State
  job : ι → A
  rest : ι → Program service α
  memory : ι → M

namespace Pool

variable {environment} {ι}

/-- A worker is idle when its last job has ended. -/
def Idle (pool : Pool environment ι A M α) (who : ι) : Prop :=
  ∃ value, pool.rest who = .done value

variable (work : Workforce service A M α)

/-- Every worker keeps to the discipline for the rest of its job. -/
def Watched (allows : A → M → service.Request → Prop) (ends : A → α → M → Prop)
    (pool : Pool environment ι A M α) : Prop :=
  ∀ who, Ensures (work.watch allows (pool.job who)) (ends (pool.job who)) (pool.rest who)
    (pool.memory who)

section Watched

variable {work} {allows : A → M → service.Request → Prop} {ends : A → α → M → Prop}
  {pool : Pool environment ι A M α} {who : ι}

theorem Watched.allowed (watched : pool.Watched work allows ends)
    {request : service.Request} {next : service.Answer request → Program service α}
    (ready : pool.rest who = .call request next) :
    allows (pool.job who) (pool.memory who) request := by
  have own := watched who
  rw [ready] at own
  exact own.1

theorem Watched.ended (watched : pool.Watched work allows ends)
    {value : α} (done : pool.rest who = .done value) :
    ends (pool.job who) value (pool.memory who) := by
  have own := watched who
  rw [done] at own
  exact own

end Watched

variable [DecidableEq ι]

def start (pool : Pool environment ι A M α) (who : ι) (job : A) : Pool environment ι A M α :=
  { pool with
    job := update pool.job who job
    rest := update pool.rest who (work.program job)
    memory := update pool.memory who (work.fresh job) }

def serve (pool : Pool environment ι A M α) (who : ι) (request : service.Request)
    (next : service.Answer request → Program service α) (outcome : environment.Outcome) :
    Pool environment ι A M α :=
  let served := environment.serve pool.state request outcome
  { pool with
    state := served.1
    rest := update pool.rest who (next served.2)
    memory := update pool.memory who
      (work.record (pool.job who) (pool.memory who) request served.2) }

section Updates

variable {work} {pool : Pool environment ι A M α} {who other : ι} {job : A}
  {request : service.Request} {next : service.Answer request → Program service α}
  {outcome : environment.Outcome}

@[simp] theorem memory_start_self : (pool.start work who job).memory who = work.fresh job :=
  update_self _ _ _

@[simp] theorem job_start_self : (pool.start work who job).job who = job :=
  update_self _ _ _

@[simp] theorem rest_start_self : (pool.start work who job).rest who = work.program job :=
  update_self _ _ _

theorem memory_start_of_ne (different : other ≠ who) :
    (pool.start work who job).memory other = pool.memory other :=
  update_of_ne different _ _

theorem job_start_of_ne (different : other ≠ who) :
    (pool.start work who job).job other = pool.job other :=
  update_of_ne different _ _

theorem rest_start_of_ne (different : other ≠ who) :
    (pool.start work who job).rest other = pool.rest other :=
  update_of_ne different _ _

theorem idle_start_of_ne (different : other ≠ who) :
    (pool.start work who job).Idle other ↔ pool.Idle other := by
  unfold Idle
  rw [rest_start_of_ne different]

@[simp] theorem memory_serve_self : (pool.serve work who request next outcome).memory who =
    work.record (pool.job who) (pool.memory who) request
      (environment.serve pool.state request outcome).2 :=
  update_self _ _ _

@[simp] theorem rest_serve_self : (pool.serve work who request next outcome).rest who =
    next (environment.serve pool.state request outcome).2 :=
  update_self _ _ _

theorem memory_serve_of_ne (different : other ≠ who) :
    (pool.serve work who request next outcome).memory other = pool.memory other :=
  update_of_ne different _ _

theorem memory_serve_of_unnoted (unnoted : work.record (pool.job who) (pool.memory who) request
      (environment.serve pool.state request outcome).2 = pool.memory who) (other : ι) :
    (pool.serve work who request next outcome).memory other = pool.memory other := by
  by_cases same : other = who
  · rw [same, memory_serve_self, unnoted]
  · exact memory_serve_of_ne same

theorem rest_serve_of_ne (different : other ≠ who) :
    (pool.serve work who request next outcome).rest other = pool.rest other :=
  update_of_ne different _ _

theorem idle_serve_of_ne (different : other ≠ who) :
    (pool.serve work who request next outcome).Idle other ↔ pool.Idle other := by
  unfold Idle
  rw [rest_serve_of_ne different]

omit [DecidableEq ι] in
theorem not_idle_of_call (ready : pool.rest who = .call request next) : ¬pool.Idle who := by
  rintro ⟨value, done⟩
  rw [ready] at done
  cases done

omit [DecidableEq ι] in
theorem watched_of_idle {allows : A → M → service.Request → Prop}
    (idle : ∀ who, pool.Idle who) : pool.Watched work allows (fun _ _ _ => True) := by
  intro who
  obtain ⟨value, done⟩ := idle who
  rw [done]
  trivial

/-- A token that one worker has at most: a worker that gets hold of it does so while
no other has it. -/
theorem update_alone (holds : M → Prop) {memory : ι → M} {next : M}
    (alone : ∀ left right, holds (memory left) → holds (memory right) → left = right)
    (exclusive : ∀ other, other ≠ who → holds (memory other) → ¬holds next) (left right : ι)
    (first : holds (update memory who next left))
    (second : holds (update memory who next right)) : left = right := by
  by_cases leftOwn : left = who
  · subst leftOwn
    by_contra different
    rw [update_self] at first
    rw [update_of_ne (Ne.symm different)] at second
    exact exclusive right (Ne.symm different) second first
  · rw [update_of_ne leftOwn] at first
    by_cases rightOwn : right = who
    · subst rightOwn
      rw [update_self] at second
      exact absurd second (exclusive left leftOwn first)
    · rw [update_of_ne rightOwn] at second
      exact alone left right first second

end Updates

/-- Which steps are considered: the jobs that may be started, the outcomes with
which a request may be served, and what may happen to the world in between. -/
structure Rules (environment : Environment service) (ι A M α : Type) where
  starts : Pool environment ι A M α → ι → A → Prop := fun _ _ _ => True
  permits : Pool environment ι A M α → ι → service.Request → environment.Outcome → Prop
  disturbs : environment.State → environment.State → Prop

inductive Step (rules : Rules environment ι A M α) :
    Pool environment ι A M α → Pool environment ι A M α → Prop where
  | start {pool : Pool environment ι A M α} (who : ι) (job : A) (idle : pool.Idle who)
      (allowed : rules.starts pool who job) : Step rules pool (pool.start work who job)
  | serve {pool : Pool environment ι A M α} (who : ι) (request : service.Request)
      (next : service.Answer request → Program service α) (outcome : environment.Outcome)
      (ready : pool.rest who = .call request next)
      (permitted : rules.permits pool who request outcome) :
      Step rules pool (pool.serve work who request next outcome)
  | disturbed {pool : Pool environment ι A M α} (after : environment.State)
      (disturbance : rules.disturbs pool.state after) :
      Step rules pool { pool with state := after }

variable {work} {allows : A → M → service.Request → Prop} {ends : A → α → M → Prop}
  {rules : Rules environment ι A M α} {pool : Pool environment ι A M α} {who : ι}
  {request : service.Request} {next : service.Answer request → Program service α}

theorem Watched.start (watched : pool.Watched work allows ends)
    (disciplined : work.Disciplined allows ends) (who : ι) (job : A) :
    (pool.start work who job).Watched work allows ends := by
  intro other
  unfold Pool.start
  by_cases same : other = who
  · subst same
    simp only [update_self]
    exact disciplined job
  · simp only [update_of_ne same]
    exact watched other

theorem Watched.serve (watched : pool.Watched work allows ends)
    (ready : pool.rest who = .call request next) (outcome : environment.Outcome) :
    (pool.serve work who request next outcome).Watched work allows ends := by
  intro other
  unfold Pool.serve
  by_cases same : other = who
  · subst same
    have own := watched other
    rw [ready] at own
    simp only [update_self]
    exact own.2 _
  · simp only [update_of_ne same]
    exact watched other

theorem Step.watched {before after : Pool environment ι A M α}
    (disciplined : work.Disciplined allows ends)
    (step : Step work rules before after)
    (watched : before.Watched work allows ends) : after.Watched work allows ends := by
  cases step with
  | start who job _ _ => exact watched.start disciplined who job
  | serve who request next outcome ready _ => exact watched.serve ready outcome
  | disturbed after _ => exact watched

/-- An invariant of the pool: what each kind of step has to preserve may be
proved with the discipline at hand. -/
theorem keeps {first last : Pool environment ι A M α} (disciplined : work.Disciplined allows ends)
    (execution : Relation.ReflTransGen (Step work rules) first last)
    (invariant : Pool environment ι A M α → Prop)
    (starts : ∀ pool who job, pool.Watched work allows ends → pool.Idle who →
      rules.starts pool who job → invariant pool → invariant (pool.start work who job))
    (serves : ∀ pool who request next outcome, pool.Watched work allows ends →
      pool.rest who = .call request next → rules.permits pool who request outcome →
      invariant pool → invariant (pool.serve work who request next outcome))
    (disturbances : ∀ pool after, rules.disturbs pool.state after → invariant pool →
      invariant { pool with state := after })
    (watched : first.Watched work allows ends) (holds : invariant first) :
    last.Watched work allows ends ∧ invariant last := by
  induction execution with
  | refl => exact ⟨watched, holds⟩
  | tail _ step ih =>
    obtain ⟨watchedBefore, holdsBefore⟩ := ih
    refine ⟨step.watched disciplined watchedBefore, ?_⟩
    cases step with
    | start who job idle allowed =>
      exact starts _ who job watchedBefore idle allowed holdsBefore
    | serve who request next outcome ready permitted =>
      exact serves _ who request next outcome watchedBefore ready permitted holdsBefore
    | disturbed after disturbance => exact disturbances _ after disturbance holdsBefore

/-! ### Schedules -/

/-- One move of a schedule; it does nothing when the worker is not ready for it. -/
inductive Move (environment : Environment service) (ι A : Type) where
  | start (who : ι) (job : A)
  | serve (who : ι) (outcome : environment.Outcome)

variable (work)

def advance (pool : Pool environment ι A M α) : Move environment ι A → Pool environment ι A M α
  | .start who job =>
    match pool.rest who with
    | .done _ => pool.start work who job
    | .call _ _ => pool
  | .serve who outcome =>
    match pool.rest who with
    | .done _ => pool
    | .call request next => pool.serve work who request next outcome

def play (moves : List (Move environment ι A)) (pool : Pool environment ι A M α) :
    Pool environment ι A M α :=
  moves.foldl (advance work) pool

variable (rules)

/-- Whether every move of the schedule keeps to the rules where it is made. -/
def Along : List (Move environment ι A) → Pool environment ι A M α → Prop
  | [], _ => True
  | .start who job :: rest, pool =>
    rules.starts pool who job ∧ Along rest (pool.advance work (.start who job))
  | .serve who outcome :: rest, pool =>
    (match pool.rest who with
      | .done _ => True
      | .call request _ => rules.permits pool who request outcome) ∧
    Along rest (pool.advance work (.serve who outcome))

variable {work} {rules}

theorem step_advance_serve {outcome : environment.Outcome}
    (ready : pool.rest who = .call request next)
    (permitted : rules.permits pool who request outcome) :
    Step work rules pool (pool.advance work (.serve who outcome)) := by
  have served : pool.advance work (.serve who outcome) =
      pool.serve work who request next outcome := by
    simp only [advance, ready]
  rw [served]
  exact .serve who request next outcome ready permitted

theorem play_steps (moves : List (Move environment ι A)) (along : Along work rules moves pool) :
    Relation.ReflTransGen (Step work rules) pool (pool.play work moves) := by
  induction moves generalizing pool with
  | nil => exact .refl
  | cons move rest ih =>
    cases move with
    | start who job =>
      refine Relation.ReflTransGen.trans ?_ (ih along.2)
      unfold advance
      simp only
      split
      · rename_i value done
        exact .single (.start who job ⟨value, done⟩ along.1)
      · exact .refl
    | serve who outcome =>
      refine Relation.ReflTransGen.trans ?_ (ih along.2)
      have own := along.1
      cases ready : pool.rest who with
      | done value =>
        simp only [advance, ready]
        exact .refl
      | call request next =>
        rw [ready] at own
        exact .single (step_advance_serve ready own)

end Pool

end Resumable
