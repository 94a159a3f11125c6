/-
What a program does, computed from its text. A specification says for each
request what may be assumed of its answer and of the state after it; the
assertion `Ensures` pushes a postcondition back through a whole program.

Nothing is said here about where the states come from. They are the states of
a world in a rely-guarantee argument and the histories of a single program in
an argument about the requests it makes.
-/

import ContestSync.Resumable.Program

namespace Resumable

variable {service : Interface} {S : Type} {α β ε ρ σ : Type}

structure Specification (service : Interface) (S : Type) where
  holds : (request : service.Request) → (service.Answer request → S → Prop) → S → Prop
  mono : ∀ request (post weaker : service.Answer request → S → Prop),
    (∀ answer state, post answer state → weaker answer state) →
    ∀ state, holds request post state → holds request weaker state

def Ensures (spec : Specification service S) (post : α → S → Prop) :
    Program service α → S → Prop
  | .done value, state => post value state
  | .call request next, state =>
    spec.holds request (fun answer => Ensures spec post (next answer)) state

variable {spec : Specification service S}

/-! ### Composition -/

variable {state : S} {post : α → S → Prop} {program whenTrue whenFalse : Program service α}
  {rest : α → Program service β} {values known : α → Prop} {results : β → Prop}
  {body : Program service (Except ε ρ)} {items : List β}

theorem Ensures.mono {weaker : α → S → Prop}
    (implies : ∀ value state, post value state → weaker value state)
    (ensured : Ensures spec post program state) :
    Ensures spec weaker program state := by
  induction program generalizing state with
  | done value => exact implies value state ensured
  | call request next ih =>
    exact spec.mono request _ _ (fun answer later => ih answer) state ensured

theorem Ensures.bind {post : β → S → Prop}
    (ensured : Ensures spec (fun value => Ensures spec post (rest value)) program state) :
    Ensures spec post (program >>= rest) state := by
  induction program generalizing state with
  | done value => exact ensured
  | call request next ih =>
    exact spec.mono request _ _ (fun answer later => ih answer) state ensured

theorem Ensures.then {middle : α → S → Prop} {post : β → S → Prop}
    (ensured : Ensures spec middle program state)
    (continues : ∀ value later, middle value later → Ensures spec post (rest value) later) :
    Ensures spec post (program >>= rest) state :=
  (ensured.mono continues).bind

/-- What a program can return, whatever it is answered. -/
def Returns (values : α → Prop) : Program service α → Prop
  | .done value => values value
  | .call _ next => ∀ answer, Returns values (next answer)

theorem returns_any (program : Program service α) : Returns (fun _ => True) program := by
  induction program with
  | done value => trivial
  | call request next ih => exact ih

theorem Returns.bind (first : Returns values program)
    (returns : ∀ value, values value → Returns results (rest value)) :
    Returns results (program >>= rest) := by
  induction program with
  | done value => exact returns value first
  | call request next ih => exact fun answer => ih answer (first answer)

theorem returns_then (returns : ∀ value, Returns results (rest value)) :
    Returns results (program >>= rest) :=
  (returns_any program).bind (fun value _ => returns value)

theorem returns_ite {condition : Prop} [Decidable condition] (positive : Returns values whenTrue)
    (negative : Returns values whenFalse) :
    Returns values (if condition then whenTrue else whenFalse) := by
  split
  · exact positive
  · exact negative

theorem Ensures.returning (ensured : Ensures spec post program state)
    (returns : Returns values program) :
    Ensures spec (fun value later => values value ∧ post value later) program state := by
  induction program generalizing state with
  | done value => exact ⟨returns, ensured⟩
  | call request next ih =>
    exact spec.mono request _ _ (fun answer later kept => ih answer kept (returns answer))
      state ensured

theorem Ensures.cut (ensured : Ensures spec post program state) (further : Nat) :
    Ensures spec (fun result later => ∀ value, result = some value → post value later)
      (program.cut further) state := by
  induction further generalizing program state with
  | zero => exact nofun
  | succ further ih =>
    cases program with
    | done value => exact fun _ same => Option.some.inj same ▸ ensured
    | call request next =>
      exact spec.mono request _ _ (fun answer later kept => ih kept) state ensured

theorem ensures_ite {condition : Prop} [Decidable condition]
    (positive : condition → Ensures spec post whenTrue state)
    (negative : ¬condition → Ensures spec post whenFalse state) :
    Ensures spec post (if condition then whenTrue else whenFalse) state := by
  split
  · exact positive ‹condition›
  · exact negative ‹¬condition›

/-- The loop rule. The invariant speaks about the accumulator and the items
still to come; leaving the loop early has to establish the postcondition. -/
theorem ensures_traverse {body : σ → β → Program service (Except ρ σ)}
    {post : Except ρ σ → S → Prop} (invariant : σ → List β → S → Prop)
    (step : ∀ accumulated item rest state, invariant accumulated (item :: rest) state → Ensures spec
        (fun result later => match result with
          | .ok next => invariant next rest later
          | .error left => post (.error left) later)
        (body accumulated item) state)
    (finish : ∀ accumulated state, invariant accumulated [] state →
      post (.ok accumulated) state) (items : List β) {accumulated : σ}
    (holds : invariant accumulated items state) :
    Ensures spec post (Program.traverse body accumulated items) state := by
  induction items generalizing accumulated state with
  | nil => exact finish accumulated state holds
  | cons item rest ih =>
    refine (step accumulated item rest state holds).then ?_
    intro result later reached
    cases result with
    | ok next => exact ih reached
    | error left => exact reached

theorem ensures_each {body : β → Program service Unit} {post : Unit → S → Prop}
    (invariant : List β → S → Prop) (step : ∀ item rest state, invariant (item :: rest) state →
      Ensures spec (fun _ later => invariant rest later) (body item) state)
    (finish : ∀ state, invariant [] state → post () state)
    (items : List β) (holds : invariant items state) :
    Ensures spec post (Program.each body items) state := by
  induction items generalizing state with
  | nil => exact finish state holds
  | cons item rest ih =>
    refine (step item rest state holds).then ?_
    intro _ later reached
    exact ih reached

/-- A failed attempt has to restore the invariant, since another may follow it,
and has to establish the postcondition, since it may have been the last. -/
theorem ensures_retry {post : Except ε ρ → S → Prop}
    (invariant : S → Prop) (once : ∀ state, invariant state → Ensures spec
        (fun result later => match result with
          | .ok value => post (.ok value) later
          | .error failure => invariant later ∧ post (.error failure) later)
        body state) (further : Nat) (holds : invariant state) :
    Ensures spec post (Program.retry body further) state := by
  induction further generalizing state with
  | zero =>
    refine Ensures.mono ?_ (once state holds)
    intro result later reached
    cases result with
    | ok value => exact reached
    | error failure => exact reached.2
  | succ further ih =>
    refine (once state holds).then ?_
    intro result later reached
    cases result with
    | ok value => exact reached
    | error failure => exact ih reached.1

theorem ensures_retry_keeping {post : Except ε ρ → S → Prop} (invariant : S → Prop)
    (once : ∀ state, invariant state →
      Ensures spec (fun result later => invariant later ∧ post result later) body state)
    (further : Nat) (holds : invariant state) :
    Ensures spec (fun result later => invariant later ∧ post result later)
      (Program.retry body further) state := by
  refine ensures_retry invariant ?_ further holds
  intro ready kept
  refine Ensures.mono ?_ (once ready kept)
  intro result later reached
  cases result with
  | ok value => exact reached
  | error failure => exact ⟨reached.1, reached⟩

/-! ### Invariants -/

/-- The program keeps the invariant, and this is known of its answer. -/
def Yields (spec : Specification service S) (invariant : S → Prop) (known : α → Prop)
    (program : Program service α) : Prop :=
  ∀ state, invariant state →
    Ensures spec (fun value later => invariant later ∧ known value) program state

/-- The program keeps the invariant, whatever it answers. -/
def Maintains (spec : Specification service S) (invariant : S → Prop)
    (program : Program service α) : Prop :=
  ∀ state, invariant state → Ensures spec (fun _ => invariant) program state

variable {invariant : S → Prop}

theorem yields_done {value : α} (holds : known value) :
    Yields spec invariant known (.done value) :=
  fun _ kept => ⟨kept, holds⟩

theorem Yields.bind {next : β → Prop} (first : Yields spec invariant known program)
    (second : ∀ value, known value → Yields spec invariant next (rest value)) :
    Yields spec invariant next (program >>= rest) := by
  intro state holds
  refine (first state holds).then ?_
  rintro value later ⟨kept, answered⟩
  exact second value answered later kept

theorem yields_ite {condition : Prop} [Decidable condition]
    (positive : condition → Yields spec invariant known whenTrue)
    (negative : ¬condition → Yields spec invariant known whenFalse) :
    Yields spec invariant known (if condition then whenTrue else whenFalse) := by
  intro state holds
  exact ensures_ite (fun yes => positive yes state holds) (fun no => negative no state holds)

theorem yields_retry {known : Except ε ρ → Prop}
    (once : Yields spec invariant known body) (further : Nat) :
    Yields spec invariant known (Program.retry body further) :=
  fun _ holds => ensures_retry_keeping invariant once further holds

theorem Maintains.yields (maintains : Maintains spec invariant program)
    (always : ∀ value, known value) : Yields spec invariant known program :=
  fun state holds => (maintains state holds).mono (fun value _ kept => ⟨kept, always value⟩)

theorem Yields.maintains (yields : Yields spec invariant known program) :
    Maintains spec invariant program :=
  fun state holds => (yields state holds).mono (fun _ _ reached => reached.1)

theorem maintains_done (value : α) : Maintains spec invariant (.done value) :=
  fun _ holds => holds

theorem Yields.then (first : Yields spec invariant known program)
    (second : ∀ value, known value → Maintains spec invariant (rest value)) :
    Maintains spec invariant (program >>= rest) := by
  intro state holds
  refine (first state holds).then ?_
  rintro value later ⟨kept, answered⟩
  exact second value answered later kept

theorem Maintains.bind (first : Maintains spec invariant program)
    (second : ∀ value, Maintains spec invariant (rest value)) :
    Maintains spec invariant (program >>= rest) :=
  (first.yields (fun _ => trivial)).then (fun value _ => second value)

theorem Maintains.map (first : Maintains spec invariant program) {value : α → β} :
    Maintains spec invariant (program >>= fun answer => .done (value answer)) :=
  first.bind (fun _ => maintains_done _)

theorem maintains_ite {condition : Prop} [Decidable condition]
    (positive : condition → Maintains spec invariant whenTrue)
    (negative : ¬condition → Maintains spec invariant whenFalse) :
    Maintains spec invariant (if condition then whenTrue else whenFalse) := by
  intro state holds
  exact ensures_ite (fun yes => positive yes state holds) (fun no => negative no state holds)

theorem maintains_each {body : β → Program service Unit}
    (step : ∀ item ∈ items, Maintains spec invariant (body item)) :
    Maintains spec invariant (Program.each body items) := by
  induction items with
  | nil => exact maintains_done ()
  | cons item rest ih =>
    apply Maintains.bind (step item List.mem_cons_self)
    intro _
    exact ih (fun other member => step other (List.mem_cons_of_mem item member))

theorem maintains_traverse {body : σ → β → Program service (Except ρ σ)}
    (step : ∀ accumulated, ∀ item ∈ items, Maintains spec invariant (body accumulated item))
    (accumulated : σ) :
    Maintains spec invariant (Program.traverse body accumulated items) := by
  induction items generalizing accumulated with
  | nil => exact maintains_done _
  | cons item rest ih =>
    apply Maintains.bind (step accumulated item List.mem_cons_self)
    intro result
    cases result with
    | ok next =>
      exact ih (fun accumulated other member =>
        step accumulated other (List.mem_cons_of_mem item member)) next
    | error left => exact maintains_done _

theorem maintains_retry (once : Maintains spec invariant body) (further : Nat) :
    Maintains spec invariant (Program.retry body further) := by
  induction further with
  | zero => exact once
  | succ further ih =>
    apply Maintains.bind once
    intro result
    cases result with
    | ok value => exact maintains_done _
    | error failure => exact ih

end Resumable
