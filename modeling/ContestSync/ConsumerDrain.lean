/-
The consumers of the queue and the end of the worker. A consumer takes a message, waits for a
slot of its semaphore, adds itself to the wait group and starts a goroutine for the handler;
`main` cancels the context of the consumers and waits for the group. A message that was taken
is not yet in the group, and a `select` may prefer a message to the cancelled context. So the
group being empty says that no handler runs, and not that none will.
-/

import ContestSync.Broker
import ContestSync.GuardedRuns
import Mathlib.Data.List.Basic
import Mathlib.Logic.Function.Basic

namespace ContestSync.Drain

open Function GuardedRuns

/-! ### Consumers and handlers -/

inductive Kind where
  | extraction
  | sync
deriving DecidableEq

def capacity : Kind → Nat
  | .extraction => 3
  | .sync => 10

theorem capacity_pos (kind : Kind) : 0 < capacity kind := by
  cases kind <;> decide

/-- Whether an AMQP broker is configured. -/
inductive Mode where
  | inMemory
  | amqp
deriving DecidableEq

/-- Only a message of the broker can be malformed. -/
inductive Delivery where
  | task
  | malformed
deriving DecidableEq

/-- Where a consumer is: at the head of its outer loop, opening its channel, in the `select`,
and between taking a message and the `go` statement. The first two are only there with a
broker. -/
inductive Phase where
  | top
  | connecting
  | selecting
  | holding
  | permitted
  | registered
  | returned
deriving DecidableEq

/-- `slots` is the length of the semaphore, which is made anew with every channel. -/
structure Loop where
  phase : Phase
  slots : Nat
  epoch : Nat
deriving DecidableEq

/-- The goroutine of one message, up to the last of its deferred calls. -/
inductive Stage where
  | spawned
  | handling
  | handled
  | released
deriving DecidableEq

structure Worker where
  kind : Kind
  epoch : Nat
  stage : Stage
deriving DecidableEq

/-- `started` counts the handlers that were called. -/
structure State where
  loops : Kind → Loop
  pending : Kind → List Delivery
  workers : List Worker
  waitGroup : Nat
  cancelled : Bool
  drained : Bool
  started : Nat

def initial (mode : Mode) : State :=
  { loops := fun _ => ⟨match mode with | .inMemory => .selecting | .amqp => .top, 0, 0⟩
    pending := fun _ => []
    workers := []
    waitGroup := 0
    cancelled := false
    drained := false
    started := 0 }

/-! ### Steps -/

inductive LoopAction where
  | check
  | connected
  | failed
  | gaveUp
  | receive
  | channelClosed
  | observe
  | acquire
  | add
  | spawn
deriving DecidableEq

inductive WorkerAction where
  | start
  | handled
  | release
  | done
deriving DecidableEq

inductive Action where
  | offer (kind : Kind) (delivery : Delivery)
  | cancel
  -- `Drain` returns.
  | drain
  | loop (kind : Kind) (action : LoopAction)
  | worker (index : Nat) (action : WorkerAction)
deriving DecidableEq

namespace State

variable (state : State)

def withLoop (kind : Kind) (loop : Loop) : State :=
  { state with loops := update state.loops kind loop }

def move (kind : Kind) (phase : Phase) : State :=
  state.withLoop kind { state.loops kind with phase := phase }

@[simp] theorem withLoop_loops_self (kind : Kind) (loop : Loop) :
    (state.withLoop kind loop).loops kind = loop :=
  update_self ..

theorem withLoop_loops_of_ne {kind other : Kind} (different : other ≠ kind) (state : State)
    (loop : Loop) : (state.withLoop kind loop).loops other = state.loops other :=
  update_of_ne different ..

def receive (kind : Kind) : Option State :=
  match state.pending kind with
  | [] => none
  | delivery :: rest =>
    let taken := { state with pending := update state.pending kind rest }
    match delivery with
    | .task => some (taken.move kind .holding)
    | .malformed => some taken

/-- `none` when the consumer is not there, or is blocked. -/
def loopStep (mode : Mode) (state : State) (kind : Kind) (action : LoopAction) : Option State :=
  let loop := state.loops kind
  match action with
  | .check =>
    if loop.phase = .top then
      some (state.move kind (if state.cancelled then .returned else .connecting))
    else none
  | .connected =>
    if loop.phase = .connecting then
      some (state.withLoop kind ⟨.selecting, 0, loop.epoch + 1⟩)
    else none
  | .failed => if loop.phase = .connecting then some (state.move kind .top) else none
  | .gaveUp =>
    if loop.phase = .connecting ∧ state.cancelled then some (state.move kind .returned)
    else none
  | .receive => if loop.phase = .selecting then state.receive kind else none
  | .channelClosed =>
    if loop.phase = .selecting ∧ mode = .amqp then some (state.move kind .top) else none
  | .observe =>
    if loop.phase = .selecting ∧ state.cancelled then some (state.move kind .returned)
    else none
  | .acquire =>
    if loop.phase = .holding ∧ loop.slots < capacity kind then
      some (state.withLoop kind ⟨.permitted, loop.slots + 1, loop.epoch⟩)
    else none
  | .add =>
    if loop.phase = .permitted then
      some { state.move kind .registered with waitGroup := state.waitGroup + 1 }
    else none
  | .spawn =>
    if loop.phase = .registered then
      some { state.move kind .selecting with
        workers := state.workers ++ [⟨kind, loop.epoch, .spawned⟩] }
    else none

def advance (index : Nat) (worker : Worker) (stage : Stage) : State :=
  { state with workers := state.workers.set index { worker with stage := stage } }

/-- The slot goes back to the semaphore from which it was taken. -/
def freeSlot (worker : Worker) : State :=
  let loop := state.loops worker.kind
  if worker.epoch = loop.epoch then
    state.withLoop worker.kind { loop with slots := loop.slots - 1 }
  else state

def workerStep (index : Nat) (action : WorkerAction) : Option State :=
  match state.workers[index]? with
  | none => none
  | some worker =>
    match action with
    | .start =>
      if worker.stage = .spawned then
        some { state.advance index worker .handling with started := state.started + 1 }
      else none
    | .handled =>
      if worker.stage = .handling then some (state.advance index worker .handled) else none
    | .release =>
      if worker.stage = .handled then
        some ((state.advance index worker .released).freeSlot worker)
      else none
    | .done =>
      if worker.stage = .released then
        some { state with
          workers := state.workers.eraseIdx index
          waitGroup := state.waitGroup - 1 }
      else none

end State

def step (mode : Mode) (state : State) : Action → Option State
  | .offer kind delivery =>
    if mode = .inMemory ∧ delivery = .malformed then none
    else
      some { state with
        pending := update state.pending kind (state.pending kind ++ [delivery]) }
  | .cancel => some { state with cancelled := true }
  | .drain =>
    if state.cancelled ∧ state.waitGroup = 0 then some { state with drained := true } else none
  | .loop kind action => state.loopStep mode kind action
  | .worker index action => state.workerStep index action

def run (mode : Mode) (state : State) (actions : List Action) : Option State :=
  actions.foldlM (step mode) state

/-! ### What the counters count -/

/-- The loop has added a handler to the group that it has not started yet. -/
def Phase.added : Phase → Nat
  | .registered => 1
  | _ => 0

def Phase.slot : Phase → Nat
  | .permitted => 1
  | .registered => 1
  | _ => 0

def Worker.holds (kind : Kind) (epoch : Nat) (worker : Worker) : Bool :=
  worker.kind = kind ∧ worker.epoch = epoch ∧ worker.stage ≠ .released

def State.added (state : State) : Nat :=
  (state.loops .extraction).phase.added + (state.loops .sync).phase.added

structure Counted (state : State) : Prop where
  group : state.waitGroup = state.workers.length + state.added
  slots : ∀ kind, (state.loops kind).slots =
    state.workers.countP (Worker.holds kind (state.loops kind).epoch) +
      (state.loops kind).phase.slot
  epochs : ∀ worker ∈ state.workers, worker.epoch ≤ (state.loops worker.kind).epoch

theorem counted_initial (mode : Mode) : Counted (initial mode) := by
  cases mode with
  | inMemory =>
    refine ⟨rfl, fun kind => rfl, ?_⟩
    intro worker member
    cases member
  | amqp =>
    refine ⟨rfl, fun kind => rfl, ?_⟩
    intro worker member
    cases member

variable {after : State} {action : LoopAction} {index : Nat} {worker : Worker}

section Steps

variable {state : State} {kind : Kind}

theorem State.added_withLoop (state : State) (kind : Kind) (loop : Loop) :
    (state.withLoop kind loop).added + (state.loops kind).phase.added =
      state.added + loop.phase.added := by
  cases kind with
  | extraction =>
    simp [State.added, State.withLoop, update]
    omega
  | sync =>
    simp [State.added, State.withLoop, update]
    omega

variable {loop : Loop} {mode : Mode}

theorem State.epoch_le_withLoop (newer : (state.loops kind).epoch ≤ loop.epoch) (other : Kind) :
    (state.loops other).epoch ≤ ((state.withLoop kind loop).loops other).epoch := by
  by_cases same : other = kind
  · rw [same, State.withLoop_loops_self]
    exact newer
  · exact Nat.le_of_eq (by rw [State.withLoop_loops_of_ne same])

section Counting

variable (counted : Counted state)
include counted

theorem Counted.withLoop {group : Nat} (epoch : loop.epoch = (state.loops kind).epoch)
    (slots : loop.slots + (state.loops kind).phase.slot =
      (state.loops kind).slots + loop.phase.slot)
    (added : group + (state.loops kind).phase.added = state.waitGroup + loop.phase.added) :
    Counted { state.withLoop kind loop with waitGroup := group } := by
  constructor
  · have sum := state.added_withLoop kind loop
    have before := counted.group
    change group = state.workers.length + (state.withLoop kind loop).added
    omega
  · intro other
    have before := counted.slots other
    by_cases same : other = kind
    · subst same
      simp only [State.withLoop, update_self, epoch]
      omega
    · simp only [State.withLoop, update_of_ne same]
      exact before
  · intro worker member
    exact Nat.le_trans (counted.epochs worker member)
      (State.epoch_le_withLoop (Nat.le_of_eq epoch.symm) worker.kind)

theorem Counted.move {before after : Phase}
    (there : (state.loops kind).phase = before) (free : before.slot = 0 ∧ before.added = 0)
    (still : after.slot = 0 ∧ after.added = 0) : Counted (state.move kind after) := by
  rw [← there] at free
  change Counted { state.withLoop kind { state.loops kind with phase := after } with
    waitGroup := state.waitGroup }
  refine counted.withLoop rfl ?_ ?_
  · rw [free.1, still.1]
  · rw [free.2, still.2]

theorem Counted.connected (connecting : (state.loops kind).phase = .connecting) :
    Counted (state.withLoop kind ⟨.selecting, 0, (state.loops kind).epoch + 1⟩) := by
  constructor
  · have sum := state.added_withLoop kind ⟨.selecting, 0, (state.loops kind).epoch + 1⟩
    rw [connecting] at sum
    have before := counted.group
    change state.waitGroup = state.workers.length + _
    simp only [Phase.added] at sum
    omega
  · intro other
    by_cases same : other = kind
    · subst same
      simp only [State.withLoop, update_self, Phase.slot, Nat.add_zero]
      symm
      rw [List.countP_eq_zero]
      intro worker member holds
      have older := counted.epochs worker member
      simp only [Worker.holds, decide_eq_true_eq] at holds
      rw [holds.1] at older
      omega
    · simp only [State.withLoop, update_of_ne same]
      exact counted.slots other
  · intro worker member
    exact Nat.le_trans (counted.epochs worker member)
      (State.epoch_le_withLoop (Nat.le_succ _) worker.kind)

theorem Counted.spawn (registered : (state.loops kind).phase = .registered) :
    Counted { state.move kind .selecting with
      workers := state.workers ++ [⟨kind, (state.loops kind).epoch, .spawned⟩] } := by
  have group := counted.group
  constructor
  · have sum := state.added_withLoop kind { state.loops kind with phase := .selecting }
    rw [registered] at sum
    change state.waitGroup = (state.workers ++ [_]).length + (state.move kind .selecting).added
    change (state.move kind .selecting).added + 1 = state.added + 0 at sum
    rw [List.length_append, List.length_singleton]
    omega
  · intro other
    have before := counted.slots other
    by_cases same : other = kind
    · subst same
      rw [registered] at before
      simp only [State.move, State.withLoop, update_self, List.countP_append,
        List.countP_singleton, Worker.holds, Phase.slot] at before ⊢
      simpa using before
    · have others : ¬kind = other := Ne.symm same
      simp only [State.move, State.withLoop, update_of_ne same, List.countP_append,
        List.countP_singleton, Worker.holds, others] at before ⊢
      simpa using before
  · intro worker member
    have same : (state.loops worker.kind).epoch ≤
        ((state.move kind .selecting).loops worker.kind).epoch := by
      apply State.epoch_le_withLoop
      exact Nat.le_refl _
    refine Nat.le_trans ?_ same
    rcases List.mem_append.mp member with older | newest
    · exact counted.epochs worker older
    · have own := List.mem_singleton.mp newest
      subst own
      exact Nat.le_refl _

theorem Counted.receive (selecting : (state.loops kind).phase = .selecting)
    (stepped : state.receive kind = some after) : Counted after := by
  unfold State.receive at stepped
  split at stepped
  · cases stepped
  · rename_i delivery rest _
    have taken : Counted { state with pending := update state.pending kind rest } :=
      { counted with }
    cases delivery with
    | task =>
      cases stepped
      exact taken.move selecting (by decide) (by decide)
    | malformed =>
      cases stepped
      exact taken

theorem Counted.loopStep (stepped : state.loopStep mode kind action = some after) :
    Counted after := by
  cases action with
  | check =>
    obtain ⟨there, same⟩ := Option.ite_none_right_eq_some.mp stepped
    cases same
    apply counted.move there (by decide)
    cases state.cancelled <;> decide
  | connected =>
    exact of_guard stepped (fun there => counted.connected there)
  | failed =>
    exact of_guard stepped (fun there => counted.move there (by decide) (by decide))
  | gaveUp =>
    exact of_guard stepped (fun there => counted.move there.1 (by decide) (by decide))
  | receive =>
    obtain ⟨there, received⟩ := Option.ite_none_right_eq_some.mp stepped
    exact counted.receive there received
  | channelClosed =>
    exact of_guard stepped (fun there => counted.move there.1 (by decide) (by decide))
  | observe =>
    exact of_guard stepped (fun there => counted.move there.1 (by decide) (by decide))
  | acquire =>
    obtain ⟨there, same⟩ := Option.ite_none_right_eq_some.mp stepped
    cases same
    refine counted.withLoop rfl ?_ ?_
    · rw [there.1]
      rfl
    · rw [there.1]
      rfl
  | add =>
    obtain ⟨there, same⟩ := Option.ite_none_right_eq_some.mp stepped
    cases same
    refine counted.withLoop rfl ?_ ?_
    · rw [there]
      rfl
    · rw [there]
      rfl
  | spawn =>
    exact of_guard stepped (fun there => counted.spawn there)

theorem Counted.advance {started : Nat} {stage : Stage}
    (found : state.workers[index]? = some worker)
    (before : worker.stage ≠ .released) (after : stage ≠ .released) :
    Counted { state.advance index worker stage with started := started } := by
  obtain ⟨front, back, whole, set, _⟩ := Broker.split_position found
  have holds : ∀ kind epoch, Worker.holds kind epoch { worker with stage := stage } =
      Worker.holds kind epoch worker := by
    intro kind epoch
    simp [Worker.holds, before, after]
  constructor
  · have group := counted.group
    rw [whole] at group
    change state.waitGroup = (state.workers.set index _).length + state.added
    rw [set]
    simpa using group
  · intro kind
    have slots := counted.slots kind
    rw [whole] at slots
    change (state.loops kind).slots = (state.workers.set index _).countP
      (Worker.holds kind (state.loops kind).epoch) + (state.loops kind).phase.slot
    rw [set]
    simpa [List.countP_append, List.countP_cons, holds] using slots
  · intro other member
    change other ∈ state.workers.set index _ at member
    rw [set] at member
    rcases List.mem_append.mp member with inFront | rest
    · exact counted.epochs other (by rw [whole]; exact List.mem_append_left _ inFront)
    · rcases List.mem_cons.mp rest with rfl | inBack
      · exact counted.epochs worker (by rw [whole]; simp)
      · exact counted.epochs other (by rw [whole]; simp [inBack])

end Counting

theorem State.freeSlot_loops (state : State) (worker : Worker) (kind : Kind) :
    (state.freeSlot worker).loops kind =
      { state.loops kind with
        slots := (state.loops kind).slots -
          if worker.kind = kind ∧ worker.epoch = (state.loops kind).epoch then 1 else 0 } := by
  unfold State.freeSlot
  simp only
  by_cases own : worker.kind = kind
  · subst own
    by_cases current : worker.epoch = (state.loops worker.kind).epoch
    · simp [current, State.withLoop]
    · simp [current]
  · split
    · simp [State.withLoop, update_of_ne (Ne.symm own), own]
    · simp [own]

theorem State.freeSlot_rest (state : State) (worker : Worker) :
    (state.freeSlot worker).workers = state.workers ∧
      (state.freeSlot worker).waitGroup = state.waitGroup := by
  unfold State.freeSlot
  simp only
  split <;> exact ⟨rfl, rfl⟩

theorem Counted.release (counted : Counted state)
    (found : state.workers[index]? = some worker) (handled : worker.stage = .handled) :
    Counted ((state.advance index worker .released).freeSlot worker) := by
  obtain ⟨front, back, whole, set, _⟩ := Broker.split_position found
  obtain ⟨workers, waitGroup⟩ :=
    (state.advance index worker .released).freeSlot_rest worker
  have loops := (state.advance index worker .released).freeSlot_loops worker
  -- Only the semaphore of the worker's own channel counted the worker.
  have counts : ∀ kind epoch, state.workers.countP (Worker.holds kind epoch) =
      (state.workers.set index { worker with stage := .released }).countP
        (Worker.holds kind epoch) +
          if worker.kind = kind ∧ worker.epoch = epoch then 1 else 0 := by
    intro kind epoch
    rw [set, whole]
    simp [List.countP_append, List.countP_cons, Worker.holds, handled]
    omega
  constructor
  · rw [workers, waitGroup, State.added, loops, loops]
    change state.waitGroup = (state.workers.set index _).length + state.added
    rw [List.length_set]
    exact counted.group
  · intro kind
    have slots := counted.slots kind
    rw [counts] at slots
    rw [workers, loops]
    change (state.loops kind).slots -
        (if worker.kind = kind ∧ worker.epoch = (state.loops kind).epoch then 1 else 0) =
      (state.workers.set index _).countP (Worker.holds kind (state.loops kind).epoch) +
        (state.loops kind).phase.slot
    omega
  · intro other member
    rw [workers] at member
    rw [loops]
    change other.epoch ≤ (state.loops other.kind).epoch
    rcases List.mem_or_eq_of_mem_set member with old | rfl
    · exact counted.epochs other old
    · exact counted.epochs worker (List.mem_of_getElem? found)

theorem Counted.done (counted : Counted state)
    (found : state.workers[index]? = some worker) (released : worker.stage = .released) :
    Counted { state with
      workers := state.workers.eraseIdx index
      waitGroup := state.waitGroup - 1 } := by
  obtain ⟨front, back, whole, _, erased⟩ := Broker.split_position found
  constructor
  · have group := counted.group
    rw [whole] at group
    change state.waitGroup - 1 = (state.workers.eraseIdx index).length + state.added
    rw [erased, group]
    simp only [List.length_append, List.length_cons]
    omega
  · intro kind
    have slots := counted.slots kind
    rw [whole] at slots
    change (state.loops kind).slots = (state.workers.eraseIdx index).countP
      (Worker.holds kind (state.loops kind).epoch) + (state.loops kind).phase.slot
    rw [erased]
    simpa [List.countP_append, List.countP_cons, Worker.holds, released] using slots
  · intro other member
    change other ∈ state.workers.eraseIdx index at member
    apply counted.epochs other
    exact List.mem_of_mem_eraseIdx member

theorem Counted.workerStep {action : WorkerAction}
    (counted : Counted state) (stepped : state.workerStep index action = some after) :
    Counted after := by
  unfold State.workerStep at stepped
  cases found : state.workers[index]? with
  | none =>
    rw [found] at stepped
    cases stepped
  | some worker =>
    rw [found] at stepped
    cases action with
    | start =>
      exact of_guard stepped
        (fun there => counted.advance found (by rw [there]; decide) (by decide))
    | handled =>
      exact of_guard stepped
        (fun there => counted.advance found (by rw [there]; decide) (by decide))
    | release =>
      exact of_guard stepped (fun there => counted.release found there)
    | done =>
      exact of_guard stepped (fun there => counted.done found there)

theorem Counted.step {action : Action} (counted : Counted state)
    (stepped : step mode state action = some after) : Counted after := by
  cases action with
  | offer kind delivery =>
    obtain ⟨_, same⟩ := Option.ite_none_left_eq_some.mp stepped
    cases same
    exact { counted with }
  | cancel =>
    cases stepped
    exact { counted with }
  | drain =>
    exact of_guard stepped (fun _ => { counted with })
  | loop kind action => exact counted.loopStep stepped
  | worker index action => exact counted.workerStep stepped

end Steps

variable {mode : Mode} {state : State} {actions : List Action} {kind : Kind}

theorem Counted.run (counted : Counted state) (ran : run mode state actions = some after) :
    Counted after :=
  keeps Counted (fun stepped before => before.step stepped) ran counted

/-! ### After the group is empty -/

/-- The consumer takes no message any more once its context is cancelled. -/
def Phase.Settled (phase : Phase) : Prop :=
  phase = .top ∨ phase = .returned

instance (phase : Phase) : Decidable phase.Settled :=
  inferInstanceAs (Decidable (_ ∨ _))

structure Quiet (state : State) : Prop where
  cancelled : state.cancelled = true
  idle : state.workers = []
  settled : ∀ kind, (state.loops kind).phase.Settled

/-- Where a consumer is when it does this. -/
def LoopAction.source : LoopAction → Phase
  | .check => .top
  | .connected => .connecting
  | .failed => .connecting
  | .gaveUp => .connecting
  | .receive => .selecting
  | .channelClosed => .selecting
  | .observe => .selecting
  | .acquire => .holding
  | .add => .permitted
  | .spawn => .registered

theorem phase_of_loopStep (stepped : state.loopStep mode kind action = some after) :
    (state.loops kind).phase = action.source := by
  cases action <;> obtain ⟨there, _⟩ := Option.ite_none_right_eq_some.mp stepped
  all_goals first | exact there | exact there.1

theorem eq_check_of_settled (settled : action.source.Settled) :
    action = .check := by
  revert settled
  cases action <;> decide

theorem Quiet.loopStep (quiet : Quiet state)
    (stepped : state.loopStep mode kind action = some after) :
    Quiet after ∧ after.started = state.started := by
  have settled := quiet.settled kind
  rw [phase_of_loopStep stepped] at settled
  rw [eq_check_of_settled settled] at stepped
  obtain ⟨_, same⟩ := Option.ite_none_right_eq_some.mp stepped
  rw [if_pos quiet.cancelled] at same
  cases same
  refine ⟨⟨quiet.cancelled, quiet.idle, ?_⟩, rfl⟩
  intro other
  by_cases own : other = kind
  · right
    rw [own, State.move, State.withLoop_loops_self]
  · rw [State.move, State.withLoop_loops_of_ne own]
    exact quiet.settled other

theorem Quiet.step {action : Action} (quiet : Quiet state)
    (stepped : step mode state action = some after) :
    Quiet after ∧ after.started = state.started := by
  cases action with
  | offer kind delivery =>
    obtain ⟨_, same⟩ := Option.ite_none_left_eq_some.mp stepped
    cases same
    exact ⟨{ quiet with }, rfl⟩
  | cancel =>
    cases stepped
    exact ⟨⟨rfl, quiet.idle, quiet.settled⟩, rfl⟩
  | drain =>
    obtain ⟨_, same⟩ := Option.ite_none_right_eq_some.mp stepped
    cases same
    exact ⟨{ quiet with }, rfl⟩
  | loop kind action => exact quiet.loopStep stepped
  | worker index action =>
    simp only [Drain.step, State.workerStep, quiet.idle, List.getElem?_nil] at stepped
    cases stepped

theorem Quiet.run (quiet : Quiet state) (ran : run mode state actions = some after) :
    after.started = state.started := by
  refine (keeps (fun later => Quiet later ∧ later.started = state.started) ?_ ran ⟨quiet, rfl⟩).2
  rintro before next action stepped ⟨still, unchanged⟩
  obtain ⟨again, same⟩ := still.step stepped
  exact ⟨again, same.trans unchanged⟩

/-! ### What an unsettled consumer can still do -/

def Starts (mode : Mode) (state : State) : Prop :=
  ∃ actions after, run mode state actions = some after ∧ state.started < after.started

theorem Starts.step {next : State} {action : Action}
    (starts : Starts mode next) (stepped : step mode state action = some next)
    (same : next.started = state.started) : Starts mode state := by
  obtain ⟨actions, after, ran, more⟩ := starts
  refine ⟨action :: actions, after, ?_, by rw [← same]; exact more⟩
  exact foldlM_cons_eq_some_iff.mpr ⟨next, stepped, ran⟩

theorem starts_of_call {action : Action}
    (stepped : step mode state action = some after) (more : state.started < after.started) :
    Starts mode state := by
  refine ⟨[action], after, ?_, more⟩
  exact foldlM_cons_eq_some_iff.mpr ⟨after, stepped, rfl⟩

section Unsettled

variable {mode : Mode} {state : State} (kind : Kind)

theorem starts_of_registered (there : (state.loops kind).phase = .registered) :
    Starts mode state := by
  let worker : Worker := ⟨kind, (state.loops kind).epoch, .spawned⟩
  let next : State := { state.move kind .selecting with workers := state.workers ++ [worker] }
  have spawned : step mode state (.loop kind .spawn) = some next := if_pos there
  have last : next.workers[state.workers.length]? = some worker := by
    change (state.workers ++ [worker])[state.workers.length]? = some worker
    rw [List.getElem?_concat_length]
  have called : step mode next (.worker state.workers.length .start) =
      some { next.advance state.workers.length worker .handling with
        started := next.started + 1 } := by
    simp only [step, State.workerStep, last]
    exact if_pos rfl
  exact (starts_of_call called (Nat.lt_succ_self _)).step spawned rfl

theorem starts_of_permitted (there : (state.loops kind).phase = .permitted) :
    Starts mode state := by
  have added : step mode state (.loop kind .add) =
      some { state.move kind .registered with waitGroup := state.waitGroup + 1 } := if_pos there
  refine Starts.step (starts_of_registered kind ?_) added rfl
  change ((state.move kind .registered).loops kind).phase = .registered
  rw [State.move, State.withLoop_loops_self]

theorem starts_of_holding (there : (state.loops kind).phase = .holding)
    (free : (state.loops kind).slots < capacity kind) : Starts mode state := by
  have acquired : step mode state (.loop kind .acquire) =
      some (state.withLoop kind ⟨.permitted, (state.loops kind).slots + 1,
        (state.loops kind).epoch⟩) := if_pos ⟨there, free⟩
  refine Starts.step (starts_of_permitted kind ?_) acquired rfl
  rw [State.withLoop_loops_self]

theorem starts_of_queued {rest : List Delivery} (there : (state.loops kind).phase = .selecting)
    (free : (state.loops kind).slots < capacity kind)
    (queued : state.pending kind = .task :: rest) : Starts mode state := by
  let taken := { state with pending := update state.pending kind rest }
  have received : step mode state (.loop kind .receive) = some (taken.move kind .holding) := by
    refine (if_pos there).trans ?_
    rw [State.receive, queued]
  refine Starts.step (starts_of_holding kind ?_ ?_) received rfl
  · rw [State.move, State.withLoop_loops_self]
  · rw [State.move, State.withLoop_loops_self]
    exact free

theorem starts_of_selecting (there : (state.loops kind).phase = .selecting)
    (free : (state.loops kind).slots < capacity kind) : Starts mode state := by
  generalize queued : state.pending kind = queue
  induction queue generalizing state with
  | nil =>
    let next : State := { state with
      pending := update state.pending kind (state.pending kind ++ [.task]) }
    have offered : step mode state (.offer kind .task) = some next := by
      rw [step, if_neg]
      intro malformed
      cases malformed.2
    have pending : next.pending kind = [.task] := by
      change update state.pending kind (state.pending kind ++ [.task]) kind = [.task]
      rw [update_self, queued, List.nil_append]
    have starts : Starts mode next := starts_of_queued kind there free pending
    exact starts.step offered rfl
  | cons delivery rest ih =>
    cases delivery with
    | task => exact starts_of_queued kind there free queued
    | malformed =>
      let next := { state with pending := update state.pending kind rest }
      have received : step mode state (.loop kind .receive) = some next := by
        refine (if_pos there).trans ?_
        rw [State.receive, queued]
      have pending : next.pending kind = rest := update_self ..
      have starts : Starts mode next := ih there free pending
      exact starts.step received rfl

theorem starts_of_connecting (there : (state.loops kind).phase = .connecting) :
    Starts mode state := by
  have connected : step mode state (.loop kind .connected) =
      some (state.withLoop kind ⟨.selecting, 0, (state.loops kind).epoch + 1⟩) := if_pos there
  refine Starts.step (starts_of_selecting kind ?_ ?_) connected rfl
  · rw [State.withLoop_loops_self]
  · rw [State.withLoop_loops_self]
    exact capacity_pos kind

theorem settled_of_not_starts (counted : Counted state) (idle : state.workers = [])
    (added : (state.loops kind).phase.added = 0) (never : ¬Starts mode state) :
    (state.loops kind).phase.Settled := by
  have slots := counted.slots kind
  rw [idle, List.countP_nil, Nat.zero_add] at slots
  have room := capacity_pos kind
  cases there : (state.loops kind).phase with
  | top => exact Or.inl rfl
  | connecting => exact absurd (starts_of_connecting kind there) never
  | selecting =>
    rw [there] at slots
    exact absurd (starts_of_selecting kind there (by rw [slots]; exact room)) never
  | holding =>
    rw [there] at slots
    exact absurd (starts_of_holding kind there (by rw [slots]; exact room)) never
  | permitted => exact absurd (starts_of_permitted kind there) never
  | registered =>
    rw [there] at added
    cases added
  | returned => exact Or.inr rfl

end Unsettled

/-- When `Drain` returns no handler is running, and none is called afterwards exactly when
every consumer has returned or is about to see that its context is cancelled. -/
theorem drain_barrier_iff {mode : Mode} {actions : List Action} {state drained : State}
    (reached : run mode (initial mode) actions = some state)
    (returns : step mode state .drain = some drained) :
    drained.workers = [] ∧
      ((∀ later after, run mode drained later = some after → after.started = drained.started) ↔
        ∀ kind, (drained.loops kind).phase.Settled) := by
  have counted : Counted drained := ((counted_initial mode).run reached).step returns
  obtain ⟨⟨cancelled, empty⟩, same⟩ := Option.ite_none_right_eq_some.mp returns
  cases same
  have group := counted.group
  change state.waitGroup = state.workers.length + state.added at group
  rw [empty] at group
  have idle : state.workers = [] := List.length_eq_zero_iff.mp (by omega)
  have none : ∀ kind, (state.loops kind).phase.added = 0 := by
    intro kind
    have zero : state.added = 0 := by omega
    rw [State.added] at zero
    cases kind <;> omega
  refine ⟨idle, ?_, ?_⟩
  · intro quiet kind
    apply settled_of_not_starts kind counted idle (none kind)
    rintro ⟨later, after, ran, more⟩
    rw [quiet later after ran] at more
    exact Nat.lt_irrefl _ more
  · intro settled later after ran
    exact Quiet.run ⟨cancelled, idle, settled⟩ ran

/-- A handler is called, the context is cancelled while it runs, and both consumers see that before
it has ended. -/
def handledRun : List Action :=
  [.offer .sync .task, .loop .sync .receive, .loop .sync .acquire, .loop .sync .add,
    .loop .sync .spawn, .worker 0 .start, .cancel, .loop .extraction .observe,
    .loop .sync .observe, .worker 0 .handled, .worker 0 .release, .worker 0 .done]

theorem drain_barrier_handled :
    ∃ state drained, run .inMemory (initial .inMemory) handledRun = some state ∧
      step .inMemory state .drain = some drained ∧ drained.started = 1 ∧
      ∀ later after, run .inMemory drained later = some after → after.started = 1 := by
  obtain ⟨state, drained, reached, returns, started, extraction, sync⟩ :
      ∃ state drained, run .inMemory (initial .inMemory) handledRun = some state ∧
        step .inMemory state .drain = some drained ∧ drained.started = 1 ∧
        (drained.loops .extraction).phase = .returned ∧
        (drained.loops .sync).phase = .returned :=
    ⟨_, _, rfl, rfl, rfl, rfl, rfl⟩
  refine ⟨state, drained, reached, returns, started, ?_⟩
  rw [← started]
  refine (drain_barrier_iff reached returns).2.mpr ?_
  intro kind
  cases kind with
  | extraction => exact .inr extraction
  | sync => exact .inr sync

/-- A message was taken before the cancellation, and its handler is called after `Drain`. -/
theorem handler_called_after_drain :
    (run .inMemory (initial .inMemory)
        [.offer .sync .task, .loop .sync .receive, .cancel, .drain]).map
          (fun state => (state.drained, state.started)) = some (true, 0) ∧
      (run .inMemory (initial .inMemory)
        [.offer .sync .task, .loop .sync .receive, .cancel, .drain, .loop .sync .acquire,
          .loop .sync .add, .loop .sync .spawn, .worker 0 .start]).map
          (fun state => (state.drained, state.started, state.workers)) =
        some (true, 1, [⟨.sync, 0, .handling⟩]) := by
  decide

end ContestSync.Drain
