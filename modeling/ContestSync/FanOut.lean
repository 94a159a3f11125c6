/-
A loop that starts a worker for every item and then waits for all of them. Each worker takes one
of a fixed number of places, calls, and calls again after a failure, up to a number of attempts. A
refused call stops the loop; workers that wait for a place leave when the whole is cancelled.
-/

import Mathlib.Algebra.Order.BigOperators.Group.List
import Mathlib.Algebra.Order.Group.Nat
import ContestSync.Broker

namespace FanOut

variable {α σ ω : Type}

inductive Verdict where
  | settled
  | refused
  | failed

/-- A worker that has a place calls at least once. -/
structure Work (α σ ω : Type) where
  capacity : Nat
  attempts : Nat
  call : σ → α → ω → σ × Verdict
  roomy : 0 < capacity
  tries : 0 < attempts

/-- A worker that is calling, or pausing before the next attempt, holds a place; the numbers count
its calls. -/
inductive Stage where
  | waiting
  | calling (calls : Nat)
  | pausing (calls : Nat)
  | ended (calls : Nat)

namespace Stage

def holds : Stage → Bool
  | calling _ => true
  | pausing _ => true
  | _ => false

def idle : Stage → Bool
  | ended _ => true
  | _ => false

def calls : Stage → Nat
  | waiting => 0
  | calling calls => calls
  | pausing calls => calls
  | ended calls => calls

end Stage

structure Worker (α : Type) where
  item : α
  stage : Stage

inductive Phase where
  | looping
  | joining
  | joined

structure State (α σ : Type) where
  phase : Phase
  refused : Bool
  cancelled : Bool
  pending : List α
  workers : List (Worker α)
  store : σ

def initial (items : List α) (store : σ) : State α σ :=
  ⟨.looping, false, false, items, [], store⟩

namespace State

variable (state : State α σ)

def holders : Nat :=
  state.workers.countP fun worker => worker.stage.holds

def calls : Nat :=
  (state.workers.map fun worker => worker.stage.calls).sum

def advance (index : Nat) (worker : Worker α) (stage : Stage) : State α σ :=
  { state with workers := state.workers.set index { worker with stage := stage } }

end State

def Verdict.next (attempts calls : Nat) : Verdict → Stage
  | .failed => if calls < attempts then .pausing calls else .ended calls
  | _ => .ended calls

def Verdict.refuses : Verdict → Bool
  | .refused => true
  | _ => false

inductive Event (ω : Type) where
  | cancelled
  | moved
  | answered (outcome : ω)

/-- What a worker can do: its next stage, and the store and the flag after it. -/
inductive Turn (work : Work α σ ω) (state : State α σ) (worker : Worker α) :
    Event ω → Stage → σ → Bool → Prop where
  | acquire (waiting : worker.stage = .waiting) (free : state.holders < work.capacity) :
      Turn work state worker .moved (.calling 1) state.store state.refused
  | leave (waiting : worker.stage = .waiting) (cancelled : state.cancelled = true) :
      Turn work state worker .moved (.ended 0) state.store state.refused
  | answer (outcome : ω) {calls : Nat} (calling : worker.stage = .calling calls) :
      Turn work state worker (.answered outcome)
        ((work.call state.store worker.item outcome).2.next work.attempts calls)
        (work.call state.store worker.item outcome).1
        (state.refused || (work.call state.store worker.item outcome).2.refuses)
  | resume {calls : Nat} (pausing : worker.stage = .pausing calls) :
      Turn work state worker .moved (.calling (calls + 1)) state.store state.refused

/-- A worker counts as started when the loop has read the flag for it; it does nothing until it
takes a place. -/
inductive Step (work : Work α σ ω) (state : State α σ) : Event ω → State α σ → Prop where
  | cancel : Step work state .cancelled { state with cancelled := true }
  | launch {item : α} {rest : List α} (looping : state.phase = .looping)
      (accepted : state.refused = false) (next : state.pending = item :: rest) :
      Step work state .moved
        { state with pending := rest, workers := state.workers ++ [⟨item, .waiting⟩] }
  | stop (looping : state.phase = .looping) (last : state.refused = true ∨ state.pending = []) :
      Step work state .moved { state with phase := .joining }
  | join (joining : state.phase = .joining)
      (idle : ∀ worker ∈ state.workers, worker.stage.idle = true) :
      Step work state .moved { state with phase := .joined }
  | turn (index : Nat) {worker : Worker α} {event : Event ω} {stage : Stage} {store : σ}
      {refused : Bool} (found : state.workers[index]? = some worker)
      (turn : Turn work state worker event stage store refused) :
      Step work state event
        { state.advance index worker stage with store := store, refused := refused }

inductive Run (work : Work α σ ω) : State α σ → List (Event ω) → State α σ → Prop where
  | refl (state : State α σ) : Run work state [] state
  | step {state next after : State α σ} {event : Event ω} {events : List (Event ω)}
      (first : Step work state event next) (rest : Run work next events after) :
      Run work state (event :: events) after

section Steps

variable {work : Work α σ ω} {items : List α} {state after : State α σ} {worker : Worker α}
  {event : Event ω} {events : List (Event ω)} {stage : Stage} {store : σ} {refused : Bool}

theorem Run.keeps (ran : Run work state events after) (property : State α σ → Prop)
    (kept : ∀ {state event next}, event ∈ events → Step work state event next →
      property state → property next)
    (holds : property state) : property after := by
  induction ran with
  | refl state => exact holds
  | step first _ ih =>
    exact ih (fun listed => kept (List.mem_cons_of_mem _ listed))
      (kept List.mem_cons_self first holds)

/-! ### Bounds -/

/-- A worker that pauses may call again. -/
def Stage.Legal (attempts : Nat) : Stage → Prop
  | .pausing calls => calls < attempts
  | stage => stage.calls ≤ attempts

structure Bounded (work : Work α σ ω) (items : List α) (state : State α σ) : Prop where
  items : state.workers.map Worker.item ++ state.pending = items
  places : state.holders ≤ work.capacity
  legal : ∀ worker ∈ state.workers, worker.stage.Legal work.attempts
  joined : state.phase = .joined → ∀ worker ∈ state.workers, worker.stage.idle = true

theorem bounded_initial (work : Work α σ ω) (items : List α) (store : σ) :
    Bounded work items (initial items store) :=
  ⟨rfl, Nat.zero_le _, nofun, nofun⟩

section Turns

variable (turn : Turn work state worker event stage store refused)
include turn

theorem Turn.legal (legal : worker.stage.Legal work.attempts) : stage.Legal work.attempts := by
  cases turn with
  | acquire => exact work.tries
  | leave => exact Nat.zero_le _
  | answer outcome calling =>
    rw [calling] at legal
    unfold Verdict.next
    split
    · split
      · assumption
      · exact legal
    · exact legal
  | resume pausing =>
    rw [pausing] at legal
    exact legal

theorem Turn.place
    (takes : stage.holds = true) : worker.stage.holds = true ∨ state.holders < work.capacity := by
  cases turn with
  | acquire _ free => exact .inr free
  | leave => cases takes
  | answer _ active | resume active =>
    rw [active]
    exact .inl rfl

theorem Turn.active :
    worker.stage.idle = false := by
  cases turn with
  | acquire active | leave active | answer _ active | resume active =>
    rw [active]
    rfl

theorem holders_turn {index : Nat}
    (found : state.workers[index]? = some worker) (places : state.holders ≤ work.capacity) :
    (state.advance index worker stage).holders ≤ work.capacity := by
  have moved : (state.advance index worker stage).holders + worker.stage.holds.toNat =
      state.holders + stage.holds.toNat := by
    obtain ⟨before, rest, whole, replaced, _⟩ := Broker.split_position found
    rw [State.holders, State.holders, State.advance, replaced, whole]
    simp only [List.countP_append, List.countP_cons]
    cases worker.stage.holds <;> cases stage.holds <;> simp <;> omega
  by_cases takes : stage.holds = true
  · rcases turn.place takes with already | free
    · rw [takes, already] at moved
      omega
    · have one : stage.holds.toNat ≤ 1 := Bool.toNat_le _
      omega
  · rw [Bool.eq_false_iff.mpr takes, Bool.toNat_false] at moved
    omega

end Turns

section Bounds

variable (bounded : Bounded work items state)
include bounded

theorem Bounded.step (step : Step work state event after) :
    Bounded work items after := by
  cases step with
  | cancel => exact { bounded with }
  | launch looping _ next =>
    refine ⟨?_, ?_, ?_, ?_⟩
    · rw [← bounded.items, next]
      simp
    · rw [State.holders, List.countP_append]
      exact bounded.places
    · refine List.forall_mem_append.mpr ⟨bounded.legal, ?_⟩
      exact List.forall_mem_singleton.mpr (Nat.zero_le _)
    · intro joined
      cases joined.symm.trans looping
  | stop =>
    refine { bounded with joined := ?_ }
    intro joined
    cases joined
  | join _ idle => exact { bounded with joined := fun _ => idle }
  | @turn index worker event stage store refused found turn =>
    obtain ⟨before, rest, whole, replaced, _⟩ := Broker.split_position found
    have member : worker ∈ state.workers := List.mem_of_getElem? found
    refine ⟨?_, holders_turn turn found bounded.places, ?_, ?_⟩
    · rw [← bounded.items, whole]
      simp only [State.advance, replaced, List.map_append, List.map_cons]
    · intro other listed
      rcases List.mem_or_eq_of_mem_set listed with old | rfl
      · exact bounded.legal other old
      · exact turn.legal (bounded.legal worker member)
    · intro joined
      cases turn.active.symm.trans (bounded.joined joined worker member)

theorem Bounded.run (ran : Run work state events after) :
    Bounded work items after :=
  ran.keeps (Bounded work items) (fun _ step before => before.step step) bounded

theorem Bounded.calls_le :
    state.calls ≤ work.attempts * items.length := by
  have each : ∀ calls ∈ state.workers.map fun worker => worker.stage.calls,
      calls ≤ work.attempts := by
    intro calls member
    obtain ⟨worker, listed, rfl⟩ := List.mem_map.mp member
    have legal := bounded.legal worker listed
    match stage : worker.stage with
    | .pausing _ =>
      rw [stage] at legal
      exact Nat.le_of_lt legal
    | .waiting | .calling _ | .ended _ =>
      rw [stage] at legal
      exact legal
  have sum := List.sum_le_card_nsmul _ _ each
  rw [List.length_map] at sum
  rw [← bounded.items, List.length_append, List.length_map, Nat.mul_comm]
  exact sum.trans (Nat.mul_le_mul_right _ (Nat.le_add_right _ _))

theorem Bounded.quiet (joined : state.phase = .joined) (ran : Run work state events after) :
    after.store = state.store ∧ after.calls = state.calls := by
  have kept := ran.keeps (fun later => later.phase = .joined ∧ later.workers = state.workers ∧
      later.store = state.store)
    (fun _ step before => by
      obtain ⟨there, workers, store⟩ := before
      cases step with
      | cancel => exact ⟨there, workers, store⟩
      | launch looping | stop looping => cases there.symm.trans looping
      | join joining => cases there.symm.trans joining
      | turn index found turn =>
        rw [workers] at found
        cases turn.active.symm.trans (bounded.joined joined _ (List.mem_of_getElem? found)))
    ⟨joined, rfl, rfl⟩
  exact ⟨kept.2.2, by rw [State.calls, kept.2.1, State.calls]⟩

theorem Bounded.store_keeps (property : σ → Prop)
    (kept : ∀ item ∈ items, ∀ before outcome, property before →
      property (work.call before item outcome).1)
    (ran : Run work state events after) (holds : property state.store) :
    property after.store := by
  have both := ran.keeps (fun later => Bounded work items later ∧ property later.store)
    (fun _ step before => by
      refine ⟨before.1.step step, ?_⟩
      cases step with
      | @turn index worker event stage store refused found turn =>
        cases turn with
        | answer outcome =>
          refine kept worker.item ?_ _ outcome before.2
          rw [← before.1.items]
          exact List.mem_append_left _ (List.mem_map_of_mem (List.mem_of_getElem? found))
        | acquire | leave | resume => exact before.2
      | cancel | launch | stop | join => exact before.2)
    ⟨bounded, holds⟩
  exact both.2

end Bounds

/-! ### Coming to an end -/

def Moves (work : Work α σ ω) (state : State α σ) : Prop :=
  ∃ event after, event ≠ .cancelled ∧ Step work state event after

theorem Turn.proper (turn : Turn work state worker event stage store refused) :
    event ≠ .cancelled := by
  rintro rfl
  cases turn

theorem Turn.moves (turn : Turn work state worker event stage store refused)
    (member : worker ∈ state.workers) : Moves work state := by
  obtain ⟨index, found⟩ := List.mem_iff_getElem?.mp member
  exact ⟨event, _, turn.proper, .turn index found turn⟩

theorem moves_of_holder [Inhabited ω] (member : worker ∈ state.workers)
    (held : worker.stage.holds = true) : Moves work state := by
  match stage : worker.stage with
  | .calling calls => exact (Turn.answer default stage).moves member
  | .pausing calls => exact (Turn.resume stage).moves member
  | .waiting | .ended _ =>
    rw [stage] at held
    cases held

theorem moves_of_active [Inhabited ω] (member : worker ∈ state.workers)
    (active : worker.stage.idle ≠ true) : Moves work state := by
  match stage : worker.stage with
  | .calling _ | .pausing _ => exact moves_of_holder member (by rw [stage]; rfl)
  | .ended _ => exact absurd (by rw [stage]; rfl) active
  | .waiting =>
    by_cases free : state.holders < work.capacity
    · exact (Turn.acquire stage free).moves member
    · have taken : 0 < state.holders := by
        have room := work.roomy
        omega
      obtain ⟨other, listed, held⟩ := List.countP_pos_iff.mp taken
      exact moves_of_holder listed held

theorem moves_of_unjoined [Inhabited ω] (unjoined : state.phase ≠ .joined) : Moves work state := by
  match there : state.phase with
  | .looping =>
    by_cases last : state.refused = true ∨ state.pending = []
    · exact ⟨.moved, _, nofun, .stop there last⟩
    · obtain ⟨accepted, more⟩ := not_or.mp last
      obtain ⟨item, rest, next⟩ := List.exists_cons_of_ne_nil more
      exact ⟨.moved, _, nofun, .launch there (Bool.eq_false_iff.mpr accepted) next⟩
  | .joining =>
    by_cases idle : ∀ worker ∈ state.workers, worker.stage.idle = true
    · exact ⟨.moved, _, nofun, .join there idle⟩
    · obtain ⟨worker, active⟩ := Classical.not_forall.mp idle
      obtain ⟨member, active⟩ := Classical.not_imp.mp active
      exact moves_of_active member active
  | .joined => exact absurd there unjoined

/-- The steps that a worker can still make, at most. -/
def Stage.rank (attempts : Nat) : Stage → Nat
  | .waiting => 2 * attempts
  | .calling calls => 2 * (attempts - calls) + 1
  | .pausing calls => 2 * (attempts - calls)
  | .ended _ => 0

def Phase.rank : Phase → Nat
  | .looping => 2
  | .joining => 1
  | .joined => 0

def State.measure (work : Work α σ ω) (state : State α σ) : Nat :=
  state.phase.rank + (2 * work.attempts + 1) * state.pending.length +
    (state.workers.map fun worker => worker.stage.rank work.attempts).sum

theorem Turn.rank_lt (turn : Turn work state worker event stage store refused)
    (legal : worker.stage.Legal work.attempts) :
    stage.rank work.attempts < worker.stage.rank work.attempts := by
  have tries := work.tries
  cases turn with
  | acquire waiting | leave waiting =>
    rw [waiting]
    simp only [Stage.rank]
    omega
  | answer outcome calling =>
    rw [calling]
    unfold Verdict.next
    split
    · split
      · exact Nat.lt_succ_self _
      · exact Nat.succ_pos _
    · exact Nat.succ_pos _
  | resume pausing =>
    rw [pausing] at legal ⊢
    have fewer : _ < work.attempts := legal
    simp only [Stage.rank]
    omega

theorem Bounded.measure_lt (bounded : Bounded work items state)
    (step : Step work state event after) (proper : event ≠ .cancelled) :
    after.measure work < state.measure work := by
  cases step with
  | cancel => exact absurd rfl proper
  | launch _ _ next =>
    simp only [State.measure, next, List.length_cons, List.map_append, List.sum_append,
      List.map_singleton, List.sum_singleton, Stage.rank, Nat.mul_succ]
    omega
  | stop looping =>
    simp only [State.measure, looping, Phase.rank]
    omega
  | join joining =>
    simp only [State.measure, joining, Phase.rank]
    omega
  | @turn index worker event stage store refused found turn =>
    have less := turn.rank_lt (bounded.legal worker (List.mem_of_getElem? found))
    have sum := Broker.State.sum_map_set
      (fun other => other.stage.rank work.attempts) state.workers found ⟨worker.item, stage⟩
    simp only [State.measure, State.advance] at sum ⊢
    omega

def Event.cancels : Event ω → Bool
  | .cancelled => true
  | _ => false

/-- The number of steps is bounded, apart from being cancelled again and again. -/
theorem Bounded.steps_le (bounded : Bounded work items state) (ran : Run work state events after) :
    events.countP (fun event => !event.cancels) + after.measure work ≤ state.measure work := by
  induction ran with
  | refl state => exact Nat.le_of_eq (Nat.zero_add _)
  | @step state next after event events first _ ih =>
    have rest := ih (bounded.step first)
    rw [List.countP_cons]
    cases event with
    | cancelled =>
      cases first with
      | cancel => exact rest
      | turn _ _ turn => exact absurd rfl turn.proper
    | moved | answered =>
      have less := bounded.measure_lt first nofun
      change List.countP _ events + 1 + after.measure work ≤ state.measure work
      omega

/-! ### What is left over -/

/-- Unless a call was refused or the whole cancelled, a worker ends when it has settled its item or
has no attempt left. -/
structure Accounted (work : Work α σ ω) (done : α → σ → Prop) (state : State α σ) : Prop where
  started : state.phase ≠ .looping → state.pending = []
  ended : ∀ worker ∈ state.workers, ∀ calls, worker.stage = .ended calls →
    done worker.item state.store ∨ work.attempts ≤ calls

variable {done : α → σ → Prop}

theorem Turn.accounted (turn : Turn work state worker event stage store refused)
    (settles : ∀ outcome, event = .answered outcome →
      (work.call state.store worker.item outcome).2 = .settled →
        done worker.item (work.call state.store worker.item outcome).1)
    (accepted : refused = false) (uncancelled : state.cancelled = false) {calls : Nat}
    (ended : stage = .ended calls) : done worker.item store ∨ work.attempts ≤ calls := by
  cases turn with
  | acquire | resume => cases ended
  | leave _ cancelled => cases uncancelled.symm.trans cancelled
  | answer outcome =>
    cases verdict : (work.call state.store worker.item outcome).2 with
    | settled => exact .inl (settles outcome rfl verdict)
    | refused =>
      rw [verdict, Verdict.refuses, Bool.or_true] at accepted
      cases accepted
    | failed =>
      rw [verdict, Verdict.next] at ended
      split_ifs at ended with more
      cases ended
      exact .inr (Nat.le_of_not_lt more)

theorem Turn.accepted (turn : Turn work state worker event stage store refused)
    (accepted : refused = false) : state.refused = false := by
  cases turn with
  | answer => exact (Bool.or_eq_false_iff.mp accepted).1
  | acquire | leave | resume => exact accepted

theorem Run.accounted (ran : Run work (initial items store) events after)
    (kept : ∀ before item outcome other, done other before →
      done other (work.call before item outcome).1)
    (settles : ∀ before item outcome, .answered outcome ∈ events →
      (work.call before item outcome).2 = .settled → done item (work.call before item outcome).1) :
    after.refused = false → after.cancelled = false → Accounted work done after := by
  refine ran.keeps (fun later => later.refused = false → later.cancelled = false →
    Accounted work done later) ?_ fun _ _ => ⟨fun looping => absurd rfl looping, nofun⟩
  intro state event next listed step before accepted uncancelled
  cases step with
  | cancel => cases uncancelled
  | launch looping =>
    refine ⟨fun later => absurd looping later, List.forall_mem_append.mpr
      ⟨(before accepted uncancelled).ended, ?_⟩⟩
    exact List.forall_mem_singleton.mpr nofun
  | stop _ last =>
    exact ⟨fun _ => last.resolve_left (Bool.eq_false_iff.mp accepted),
      (before accepted uncancelled).ended⟩
  | join joining =>
    have old := before accepted uncancelled
    exact ⟨fun _ => old.started (joining ▸ nofun), old.ended⟩
  | @turn index worker event stage store refused found turn =>
    have old := before (turn.accepted accepted) uncancelled
    refine ⟨old.started, fun other member calls ended => ?_⟩
    rcases List.mem_or_eq_of_mem_set member with still | rfl
    · refine (old.ended other still calls ended).imp_left ?_
      cases turn with
      | answer outcome => exact kept _ _ outcome _
      | acquire | leave | resume => exact id
    · exact turn.accounted (fun outcome same => settles _ _ outcome (same ▸ listed)) accepted
        uncancelled ended

/-- When the loop has waited for all, an item that is not done has used up its attempts. -/
theorem Run.leftover (ran : Run work (initial items store) events after)
    (accounted : Accounted work done after) (joined : after.phase = .joined) {item : α}
    (listed : item ∈ items) : done item after.store ∨
      ∃ worker ∈ after.workers, worker.item = item ∧ work.attempts ≤ worker.stage.calls := by
  have bounded := (bounded_initial work items store).run ran
  rw [← bounded.items, accounted.started (joined ▸ nofun), List.append_nil] at listed
  obtain ⟨worker, member, rfl⟩ := List.mem_map.mp listed
  have idle := bounded.joined joined worker member
  match stage : worker.stage with
  | .ended calls =>
    refine (accounted.ended worker member calls stage).imp_right fun used => ?_
    exact ⟨worker, member, rfl, stage ▸ used⟩
  | .waiting | .calling _ | .pausing _ =>
    rw [stage] at idle
    cases idle

end Steps

end FanOut
