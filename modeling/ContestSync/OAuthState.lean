/-
The state parameter of the login. `GoogleLogin` stores a random state and sets it
as a cookie; `GoogleCallback` compares the cookie with the parameter, consumes the
row with one `DELETE ... RETURNING`, and only then exchanges the code;
`CleanupOAuthStates` removes what has expired. What a state can lead to rests on
the row: it is there once, and whoever deletes it is the one that goes on.
-/

import ContestSync.KeyedTable
import ContestSync.Models
import ContestSync.Resumable.Pool

namespace ContestSync.OAuth

open Resumable Program Relation

/-! ### The service -/

/-- A row of `oauth_states`. -/
structure StateRow where
  state : String
  createdAt : Timestamp
deriving DecidableEq

structure Callback where
  state : String
  cookie : Option String
  code : String
deriving DecidableEq

def tenMinutes : Timestamp := 10 * 60 * 1000000

/-- What has happened; no request reads it. -/
inductive Event where
  | issued (state : String) (time : Timestamp)
  | consumed (row : StateRow) (time : Timestamp)
  | exchanged (callback : Callback)
  | cleaned (row : StateRow) (time : Timestamp)
deriving DecidableEq

structure World where
  states : Keyed.Table StateRow.state
  now : Timestamp
  log : List Event

inductive Request where
  | timeNow
  | insertState (state : String)
  | consumeState (state : String) (createdAfter : Timestamp)
  -- Only the code is sent; the rest tells whose exchange it is.
  | exchange (callback : Callback)
  | cleanup

abbrev Request.Answer : Request → Type
  | .timeNow => Timestamp
  | .insertState _ => Bool
  | .consumeState _ _ => Option String
  | .exchange _ => Bool
  | .cleanup => Bool

abbrev service : Interface :=
  { Request := Request
    Answer := Request.Answer }

abbrev ask (request : Request) : Program service request.Answer :=
  .call request .done

/-! ### The handlers -/

structure Rejection where
  status : Nat
  error : String
deriving DecidableEq

inductive Response where
  | rejected (rejection : Rejection)
  | redirect (state : String)
  | exchanged
  | cleaned

/-- `none` is a failure of the random source. -/
def googleLogin (generated : Option String) : Program service Response := do
  match generated with
  | none => return .rejected ⟨500, "internal server error"⟩
  | some state =>
    if ← ask (.insertState state) then
      return .redirect state
    else
      return .rejected ⟨500, "internal server error"⟩

/-- Up to the exchange of the code. -/
def googleCallback (callback : Callback) : Program service Response := do
  match callback.cookie with
  | none => return .rejected ⟨400, "missing state cookie"⟩
  | some cookie =>
    if cookie ≠ callback.state then
      return .rejected ⟨400, "invalid state"⟩
    else
      let now ← ask .timeNow
      match ← ask (.consumeState callback.state (now - tenMinutes)) with
      | none => return .rejected ⟨400, "invalid state or expired"⟩
      | some _ =>
        if ← ask (.exchange callback) then
          return .exchanged
        else
          return .rejected ⟨500, "authentication failed"⟩

def cleanupOAuthStates : Program service Response := do
  let _ ← ask .cleanup
  return .cleaned

/-! ### Serving -/

namespace World

/-- `INSERT INTO oauth_states (state) VALUES ($1)`. -/
def insertState (world : World) (state : String) : World × Bool :=
  if fresh : ∀ old ∈ world.states.rows, old.state ≠ state then
    ({ world with
        states := world.states.insert ⟨state, world.now⟩ fresh
        log := .issued state world.now :: world.log }, true)
  else (world, false)

/-- `DELETE FROM oauth_states WHERE state = $1 AND created_at > $2 RETURNING state`. -/
def consumeState (world : World) (state : String) (createdAfter : Timestamp) :
    World × Option String :=
  match world.states.find state with
  | none => (world, none)
  | some row =>
    if createdAfter < row.createdAt then
      ({ world with
          states := world.states.delete (fun other => other.state = state)
          log := .consumed row world.now :: world.log }, some row.state)
    else (world, none)

/-- `created_at < NOW() - INTERVAL '10 minutes'`. -/
def expired (world : World) (row : StateRow) : Bool :=
  row.createdAt < world.now - tenMinutes

/-- `DELETE FROM oauth_states WHERE created_at < NOW() - INTERVAL '10 minutes'`. -/
def cleanup (world : World) : World :=
  { world with
    states := world.states.delete world.expired
    log := (world.states.rows.filter world.expired).map (fun row => .cleaned row world.now) ++
      world.log }

def handle (world : World) : (request : Request) → World × request.Answer
  | .timeNow => (world, world.now)
  | .insertState state => world.insertState state
  | .consumeState state createdAfter => world.consumeState state createdAfter
  | .exchange callback => ({ world with log := .exchanged callback :: world.log }, true)
  | .cleanup => (world.cleanup, true)

end World

/-- Served, failed before it takes effect, or failed after it. -/
inductive Outcome where
  | served
  | lost
  | late

def World.failure (world : World) : (request : Request) → request.Answer
  | .timeNow => world.now
  | .insertState _ => false
  | .consumeState _ _ => none
  | .exchange _ => false
  | .cleanup => false

/-- A call of `Exchange` counts, whatever becomes of it. -/
def World.serve (world : World) (request : Request) (outcome : Outcome) :
    World × request.Answer :=
  match request, outcome with
  | request, .served => world.handle request
  | .exchange callback, .lost => ((world.handle (.exchange callback)).1, false)
  | request, .lost => (world, world.failure request)
  | request, .late => ((world.handle request).1, world.failure request)

abbrev environment : Environment service :=
  { State := World
    Outcome := Outcome
    serve := World.serve }

/-! ### Requests in any order -/

inductive Job where
  | googleLogin (generated : Option String)
  | googleCallback (callback : Callback)
  | cleanupOAuthStates

inductive Progress where
  | begun
  | consumed
  | exchanged
deriving DecidableEq

def Progress.after (progress : Progress) (request : Request) (answer : request.Answer) : Progress :=
  match request, answer with
  | .consumeState _ _, some _ => .consumed
  | .exchange _, _ => .exchanged
  | _, _ => progress

def requests : Workforce service Job Progress Response :=
  { program := fun job =>
      match job with
      | .googleLogin generated => OAuth.googleLogin generated
      | .googleCallback callback => OAuth.googleCallback callback
      | .cleanupOAuthStates => OAuth.cleanupOAuthStates
    fresh := fun _ => .begun
    record := fun _ => Progress.after }

/-- The order of the checks: a state is consumed by a callback whose cookie names
it, and exchanged by one that has consumed it. -/
def InOrder (job : Job) (progress : Progress) : Request → Prop
  | .consumeState state _ => ∃ callback, job = .googleCallback callback ∧
      callback.state = state ∧ progress = .begun
  | .exchange callback => job = .googleCallback callback ∧
      callback.cookie = some callback.state ∧ progress = .consumed
  | _ => True

def AnyEnd (_job : Job) (_response : Response) (_progress : Progress) : Prop :=
  True

theorem requests_disciplined : requests.Disciplined InOrder AnyEnd := by
  intro job
  cases job with
  | googleLogin generated =>
    cases generated with
    | none => exact trivial
    | some state =>
      refine ⟨trivial, ?_⟩
      intro stored
      apply ensures_ite
      · exact fun _ => trivial
      · exact fun _ => trivial
  | googleCallback callback =>
    change Ensures _ _ (OAuth.googleCallback callback) Progress.begun
    unfold OAuth.googleCallback
    cases cookie : callback.cookie with
    | none => exact trivial
    | some value =>
      apply ensures_ite
      · exact fun _ => trivial
      · intro same
        rw [ne_eq, not_not] at same
        refine ⟨trivial, fun now => ⟨⟨callback, rfl, rfl, rfl⟩, ?_⟩⟩
        intro consumed
        cases consumed with
        | none => exact trivial
        | some state =>
          refine ⟨⟨rfl, same ▸ cookie, rfl⟩, ?_⟩
          intro exchanged
          apply ensures_ite
          · exact fun _ => trivial
          · exact fun _ => trivial
  | cleanupOAuthStates => exact ⟨trivial, fun _ => trivial⟩

/-! ### What the log shows -/

/-- The state was consumed, less than `tenMinutes + delay` after it had been issued. -/
def ConsumedInTime (delay : Timestamp) (log : List Event) (state : String) : Prop :=
  ∃ row time, .consumed row time ∈ log ∧ row.state = state ∧ .issued state row.createdAt ∈ log ∧
    ∀ issuedAt, .issued state issuedAt ∈ log → time < issuedAt + (tenMinutes + delay)

/-- The log, newest first: each exchange is the only one of its state, comes from a
request whose cookie is the state, and was preceded by the deletion of the state;
what a clean-up removed had been issued ten minutes before or earlier. -/
def Orderly (delay : Timestamp) : List Event → Prop
  | [] => True
  | .exchanged callback :: earlier =>
    (callback.cookie = some callback.state ∧ ConsumedInTime delay earlier callback.state ∧
      ∀ other, .exchanged other ∈ earlier → other.state ≠ callback.state) ∧
    Orderly delay earlier
  | .cleaned row time :: earlier =>
    (.issued row.state row.createdAt ∈ earlier ∧ row.createdAt + tenMinutes ≤ time) ∧
    Orderly delay earlier
  | .issued _ _ :: earlier => Orderly delay earlier
  | .consumed _ _ :: earlier => Orderly delay earlier

/-! ### What the table and the log say about each other -/

structure Ledger (delay : Timestamp) (world : World) : Prop where
  orderly : Orderly delay world.log
  unique : ∀ state first second, .issued state first ∈ world.log →
    .issued state second ∈ world.log → first = second
  stored : ∀ row ∈ world.states.rows, .issued row.state row.createdAt ∈ world.log ∧
    ∀ other time, .consumed other time ∈ world.log → other.state ≠ row.state
  known : ∀ row time, .consumed row time ∈ world.log → .issued row.state row.createdAt ∈ world.log
  exchanged : ∀ callback, .exchanged callback ∈ world.log →
    ∃ row time, .consumed row time ∈ world.log ∧ row.state = callback.state

/-- The state has been consumed, and its code has not been exchanged. -/
def Claimed (delay : Timestamp) (log : List Event) (state : String) : Prop :=
  ConsumedInTime delay log state ∧ ∀ callback, .exchanged callback ∈ log → callback.state ≠ state

section Ledgers

variable {delay : Timestamp} {world : World} {log : List Event} {state : String}

theorem Claimed.mono {later : List Event} (claimed : Claimed delay log state)
    (grown : ∀ event ∈ log, event ∈ later)
    (issues : ∀ issuedAt, .issued state issuedAt ∈ later → .issued state issuedAt ∈ log)
    (exchanges : ∀ callback, .exchanged callback ∈ later → callback.state = state →
      .exchanged callback ∈ log) : Claimed delay later state := by
  obtain ⟨⟨row, time, consumed, own, issued, inTime⟩, unexchanged⟩ := claimed
  refine ⟨⟨row, time, grown _ consumed, own, grown _ issued, ?_⟩, ?_⟩
  · exact fun issuedAt listed => inTime issuedAt (issues issuedAt listed)
  · exact fun callback listed same => unexchanged callback (exchanges callback listed same) same

theorem not_claimed_of_stored (ledger : Ledger delay world) {row : StateRow}
    (member : row ∈ world.states.rows) : ¬Claimed delay world.log row.state := by
  rintro ⟨⟨earlier, time, consumed, own, _⟩, _⟩
  exact (ledger.stored row member).2 earlier time consumed own

theorem Ledger.insertState (ledger : Ledger delay world)
    (fresh : ∀ time, .issued state time ∉ world.log) :
    Ledger delay (world.insertState state).1 := by
  unfold World.insertState
  split
  · constructor
    · exact ledger.orderly
    · intro other first second issuedFirst issuedSecond
      simp only [List.mem_cons, Event.issued.injEq] at issuedFirst issuedSecond
      rcases issuedFirst with ⟨rfl, rfl⟩ | old
      · rcases issuedSecond with ⟨_, rfl⟩ | again
        · rfl
        · exact absurd again (fresh second)
      · rcases issuedSecond with ⟨rfl, rfl⟩ | again
        · exact absurd old (fresh first)
        · exact ledger.unique other first second old again
    · intro row member
      simp only [Keyed.Table.mem_insert] at member
      simp only [List.mem_cons, reduceCtorEq, false_or]
      rcases member with old | rfl
      · exact ⟨.inr (ledger.stored row old).1, (ledger.stored row old).2⟩
      · refine ⟨.inl rfl, ?_⟩
        rintro other time consumed rfl
        exact fresh other.createdAt (ledger.known other time consumed)
    · intro row time consumed
      simp only [List.mem_cons, reduceCtorEq, false_or] at consumed
      exact List.mem_cons_of_mem _ (ledger.known row time consumed)
    · simpa only [List.mem_cons, reduceCtorEq, false_or] using ledger.exchanged
  · exact ledger

theorem Claimed.insertState {fresh : String} (claimed : Claimed delay world.log state)
    (unissued : ∀ time, .issued fresh time ∉ world.log) :
    Claimed delay (world.insertState fresh).1.log state := by
  unfold World.insertState
  split
  · apply claimed.mono
    · exact fun _ listed => List.mem_cons_of_mem _ listed
    · intro issuedAt listed
      simp only [List.mem_cons, Event.issued.injEq] at listed
      rcases listed with ⟨rfl, _⟩ | before
      · obtain ⟨⟨row, _, _, _, issued, _⟩, _⟩ := claimed
        exact absurd issued (unissued row.createdAt)
      · exact before
    · intro callback listed _
      simpa only [List.mem_cons, reduceCtorEq, false_or] using listed
  · exact claimed

theorem consumeState_cases (world : World) (state : String) (createdAfter : Timestamp) :
    world.consumeState state createdAfter = (world, none) ∨
    ∃ row ∈ world.states.rows, row.state = state ∧ createdAfter < row.createdAt ∧
      world.consumeState state createdAfter = ({ world with
            states := world.states.delete (fun other => other.state = state)
            log := .consumed row world.now :: world.log }, some state) := by
  unfold World.consumeState
  cases found : world.states.find state with
  | none => exact .inl rfl
  | some row =>
    obtain ⟨member, rfl⟩ := Keyed.Table.find_eq_some_iff.mp found
    by_cases young : createdAfter < row.createdAt
    · exact .inr ⟨row, member, rfl, young, if_pos young⟩
    · exact .inl (if_neg young)

theorem Ledger.consumeState (ledger : Ledger delay world) (createdAfter : Timestamp) :
    Ledger delay (world.consumeState state createdAfter).1 := by
  rcases consumeState_cases world state createdAfter with
    unchanged | ⟨row, member, rfl, _, consumed⟩
  · rw [unchanged]
    exact ledger
  · rw [consumed]
    have issued := (ledger.stored row member).1
    constructor
    · exact ledger.orderly
    · simpa only [List.mem_cons, reduceCtorEq, false_or] using ledger.unique
    · intro other left
      simp only [Keyed.Table.mem_delete, decide_eq_false_iff_not] at left
      obtain ⟨before, different⟩ := left
      refine ⟨List.mem_cons_of_mem _ (ledger.stored other before).1, ?_⟩
      intro earlier time listed
      simp only [List.mem_cons, Event.consumed.injEq] at listed
      rcases listed with ⟨rfl, _⟩ | old
      · exact Ne.symm different
      · exact (ledger.stored other before).2 earlier time old
    · intro other time listed
      simp only [List.mem_cons, Event.consumed.injEq] at listed
      rcases listed with ⟨rfl, _⟩ | old
      · exact List.mem_cons_of_mem _ issued
      · exact List.mem_cons_of_mem _ (ledger.known other time old)
    · intro callback listed
      simp only [List.mem_cons, reduceCtorEq, false_or] at listed
      obtain ⟨other, time, earlier, own⟩ := ledger.exchanged callback listed
      exact ⟨other, time, List.mem_cons_of_mem _ earlier, own⟩

theorem Claimed.consumeState (claimed : Claimed delay world.log state) (other : String)
    (createdAfter : Timestamp) :
    Claimed delay (world.consumeState other createdAfter).1.log state := by
  rcases consumeState_cases world other createdAfter with unchanged | ⟨row, _, _, _, consumed⟩
  · rw [unchanged]
    exact claimed
  · rw [consumed]
    apply claimed.mono
    · exact fun _ listed => List.mem_cons_of_mem _ listed
    · intro issuedAt listed
      simpa only [List.mem_cons, reduceCtorEq, false_or] using listed
    · intro callback listed _
      simpa only [List.mem_cons, reduceCtorEq, false_or] using listed

/-- The one that is answered with the state is the only one to claim it. -/
theorem claimed_consumeState (ledger : Ledger delay world) {createdAfter : Timestamp}
    (behind : world.now ≤ createdAfter + (tenMinutes + delay))
    {answer : String} (answered : (world.consumeState state createdAfter).2 = some answer) :
    Claimed delay (world.consumeState state createdAfter).1.log state ∧
      ¬Claimed delay world.log state := by
  rcases consumeState_cases world state createdAfter with
    unchanged | ⟨row, member, rfl, young, consumed⟩
  · rw [unchanged] at answered
    cases answered
  · rw [consumed]
    have issued := (ledger.stored row member).1
    refine ⟨⟨⟨row, world.now, List.mem_cons_self, rfl, List.mem_cons_of_mem _ issued, ?_⟩, ?_⟩,
      not_claimed_of_stored ledger member⟩
    · intro issuedAt listed
      simp only [List.mem_cons, reduceCtorEq, false_or] at listed
      rw [ledger.unique _ _ _ listed issued]
      exact Int.lt_of_le_of_lt behind (Int.add_lt_add_right young _)
    · intro callback listed same
      simp only [List.mem_cons, reduceCtorEq, false_or] at listed
      obtain ⟨earlier, time, deleted, own⟩ := ledger.exchanged callback listed
      exact (ledger.stored row member).2 earlier time deleted (own.trans same)

variable {callback : Callback}

theorem Ledger.exchange (ledger : Ledger delay world)
    (claimed : Claimed delay world.log callback.state)
    (cookie : callback.cookie = some callback.state) :
    Ledger delay (world.handle (.exchange callback)).1 := by
  constructor
  · exact ⟨⟨cookie, claimed⟩, ledger.orderly⟩
  · simpa only [World.handle, List.mem_cons, reduceCtorEq, false_or] using ledger.unique
  · simpa only [World.handle, List.mem_cons, reduceCtorEq, false_or] using ledger.stored
  · simpa only [World.handle, List.mem_cons, reduceCtorEq, false_or] using ledger.known
  · intro other listed
    simp only [World.handle, List.mem_cons, reduceCtorEq, false_or, Event.exchanged.injEq]
      at listed ⊢
    rcases listed with rfl | old
    · obtain ⟨⟨row, time, consumed, own, _⟩, _⟩ := claimed
      exact ⟨row, time, consumed, own⟩
    · exact ledger.exchanged other old

theorem Claimed.exchange (claimed : Claimed delay world.log state)
    (different : callback.state ≠ state) :
    Claimed delay (world.handle (.exchange callback)).1.log state := by
  apply claimed.mono
  · exact fun _ listed => List.mem_cons_of_mem _ listed
  · intro issuedAt listed
    simpa only [World.handle, List.mem_cons, reduceCtorEq, false_or] using listed
  · intro other listed same
    simp only [World.handle, List.mem_cons, Event.exchanged.injEq] at listed
    rcases listed with rfl | old
    · exact absurd same different
    · exact old

theorem mem_log_cleanup {event : Event} (other : ∀ row time, event ≠ .cleaned row time) :
    event ∈ world.cleanup.log ↔ event ∈ world.log := by
  unfold World.cleanup
  rw [List.mem_append, or_iff_right]
  intro removed
  obtain ⟨row, _, rfl⟩ := List.mem_map.mp removed
  exact other row world.now rfl

theorem orderly_append_cleaned {rows : List StateRow} {time : Timestamp}
    (old : ∀ row ∈ rows, .issued row.state row.createdAt ∈ log ∧ row.createdAt + tenMinutes ≤ time)
    (orderly : Orderly delay log) :
    Orderly delay (rows.map (fun row => .cleaned row time) ++ log) := by
  induction rows with
  | nil => exact orderly
  | cons row rest ih =>
    obtain ⟨first, others⟩ := List.forall_mem_cons.mp old
    exact ⟨⟨List.mem_append_right _ first.1, first.2⟩, ih others⟩

theorem Ledger.cleanup (ledger : Ledger delay world) : Ledger delay world.cleanup := by
  have issues : ∀ state time, .issued state time ∈ world.cleanup.log ↔
      .issued state time ∈ world.log := fun _ _ => mem_log_cleanup (by simp)
  have consumptions : ∀ row time, .consumed row time ∈ world.cleanup.log ↔
      .consumed row time ∈ world.log := fun _ _ => mem_log_cleanup (by simp)
  have exchanges : ∀ callback, .exchanged callback ∈ world.cleanup.log ↔
      .exchanged callback ∈ world.log := fun _ => mem_log_cleanup (by simp)
  constructor
  · apply orderly_append_cleaned _ ledger.orderly
    intro row removed
    obtain ⟨member, expired⟩ := List.mem_filter.mp removed
    refine ⟨(ledger.stored row member).1, ?_⟩
    exact Int.le_of_lt (Int.add_lt_of_lt_sub_right (of_decide_eq_true expired))
  · simpa only [issues] using ledger.unique
  · intro row left
    simp only [issues, consumptions]
    exact ledger.stored row (Keyed.Table.mem_delete.mp left).1
  · simpa only [issues, consumptions] using ledger.known
  · simpa only [consumptions, exchanges] using ledger.exchanged

theorem Claimed.cleanup (claimed : Claimed delay world.log state) :
    Claimed delay world.cleanup.log state :=
  claimed.mono (fun _ listed => List.mem_append_right _ listed)
    (fun _ listed => (mem_log_cleanup (by simp)).mp listed)
    (fun _ listed _ => (mem_log_cleanup (by simp)).mp listed)

end Ledgers

/-! ### Who holds a state -/

section Pools

variable {ι : Type}

/-- Issued states are distinct, and a `DELETE` is executed at most `delay` after the callback has
read the clock. -/
def Assumed (delay : Timestamp) (pool : Pool environment ι Job Progress Response) (_who : ι)
    (request : Request) (_outcome : Outcome) : Prop :=
  match request with
  | .insertState state => ∀ time, .issued state time ∉ pool.state.log
  | .consumeState _ createdAfter => pool.state.now ≤ createdAfter + (tenMinutes + delay)
  | _ => True

def Passes (before after : World) : Prop :=
  after.states = before.states ∧ after.log = before.log ∧ before.now ≤ after.now

def rules (ι : Type) (delay : Timestamp) : Pool.Rules environment ι Job Progress Response :=
  { permits := Assumed delay
    disturbs := Passes }

/-- The worker has consumed a state and has not exchanged the code yet. -/
def Holds (pool : Pool environment ι Job Progress Response) (who : ι) (state : String) : Prop :=
  pool.memory who = .consumed ∧ ∃ callback, pool.job who = .googleCallback callback ∧
    callback.state = state

structure SingleUse (delay : Timestamp) (pool : Pool environment ι Job Progress Response) :
    Prop where
  ledger : Ledger delay pool.state
  held : ∀ who state, Holds pool who state → Claimed delay pool.state.log state
  single : ∀ who other state, Holds pool who state → Holds pool other state → who = other

section Steps

variable [DecidableEq ι] {delay : Timestamp} {pool : Pool environment ι Job Progress Response}
  {who : ι} {request : Request} {next : request.Answer → Program service Response}
  {outcome : Outcome} {state : String}

theorem holds_serve_of_ne {other : ι} (different : other ≠ who) :
    Holds (pool.serve requests who request next outcome) other state ↔ Holds pool other state := by
  unfold Holds
  rw [Pool.memory_serve_of_ne different]
  rfl

section Serving

variable (sound : SingleUse delay pool)
include sound

/-- What a step has to show: the claims of the others stand, and if the worker holds
a state after it, the claim is its own. -/
theorem SingleUse.serve (ledger : Ledger delay (pool.state.serve request outcome).1)
    (others : ∀ other state, other ≠ who → Holds pool other state →
      Claimed delay (pool.state.serve request outcome).1.log state)
    (own : ∀ state, Holds (pool.serve requests who request next outcome) who state →
      Claimed delay (pool.state.serve request outcome).1.log state ∧
        ∀ other, Holds pool other state → other = who) :
    SingleUse delay (pool.serve requests who request next outcome) := by
  refine ⟨ledger, ?_, ?_⟩
  · intro other state holds
    by_cases same : other = who
    · subst same
      exact (own state holds).1
    · exact others other state same ((holds_serve_of_ne same).mp holds)
  · intro left right state first second
    by_cases leftOwn : left = who
    · subst leftOwn
      by_cases rightOwn : right = left
      · exact rightOwn.symm
      · exact ((own state first).2 right ((holds_serve_of_ne rightOwn).mp second)).symm
    · by_cases rightOwn : right = who
      · subst rightOwn
        exact (own state second).2 left ((holds_serve_of_ne leftOwn).mp first)
      · exact sound.single left right state ((holds_serve_of_ne leftOwn).mp first)
          ((holds_serve_of_ne rightOwn).mp second)

theorem SingleUse.serve_unclaimed (ledger : Ledger delay (pool.state.serve request outcome).1)
    (claims : ∀ state, Claimed delay pool.state.log state →
      Claimed delay (pool.state.serve request outcome).1.log state)
    (same : (pool.memory who).after request (pool.state.serve request outcome).2 =
      pool.memory who) :
    SingleUse delay (pool.serve requests who request next outcome) := by
  apply sound.serve ledger
  · exact fun other state _ holds => claims state (sound.held other state holds)
  · rintro state ⟨consumed, assigned⟩
    rw [Pool.memory_serve_self] at consumed
    have before : Holds pool who state := ⟨same.symm.trans consumed, assigned⟩
    exact ⟨claims state (sound.held who state before),
      fun other holds => sound.single other who state holds before⟩

theorem SingleUse.serve_timeNow
    {next : Timestamp → Program service Response} :
    SingleUse delay (pool.serve requests who .timeNow next outcome) := by
  have unchanged : (pool.state.serve .timeNow outcome).1 = pool.state := by
    cases outcome <;> rfl
  apply sound.serve_unclaimed
  · rw [unchanged]
    exact sound.ledger
  · rw [unchanged]
    exact fun _ claimed => claimed
  · rfl

theorem SingleUse.serve_insertState
    (fresh : ∀ time, .issued state time ∉ pool.state.log) {next : Bool → Program service Response} :
    SingleUse delay (pool.serve requests who (.insertState state) next outcome) := by
  apply sound.serve_unclaimed
  · cases outcome with
    | served => exact sound.ledger.insertState fresh
    | lost => exact sound.ledger
    | late => exact sound.ledger.insertState fresh
  · intro other claimed
    cases outcome with
    | served => exact claimed.insertState fresh
    | lost => exact claimed
    | late => exact claimed.insertState fresh
  · rfl

theorem SingleUse.serve_cleanup
    {next : Bool → Program service Response} :
    SingleUse delay (pool.serve requests who .cleanup next outcome) := by
  apply sound.serve_unclaimed
  · cases outcome with
    | served => exact sound.ledger.cleanup
    | lost => exact sound.ledger
    | late => exact sound.ledger.cleanup
  · intro other claimed
    cases outcome with
    | served => exact claimed.cleanup
    | lost => exact claimed
    | late => exact claimed.cleanup
  · rfl

theorem SingleUse.serve_consumeState
    {createdAfter : Timestamp} (behind : pool.state.now ≤ createdAfter + (tenMinutes + delay))
    (allowed : InOrder (pool.job who) (pool.memory who) (.consumeState state createdAfter))
    {next : Option String → Program service Response} :
    SingleUse delay (pool.serve requests who (.consumeState state createdAfter) next outcome) := by
  cases outcome with
  | lost => exact sound.serve_unclaimed sound.ledger (fun _ claimed => claimed) rfl
  | late =>
    exact sound.serve_unclaimed (sound.ledger.consumeState createdAfter)
      (fun _ claimed => claimed.consumeState state createdAfter) rfl
  | served =>
    cases answered : (pool.state.consumeState state createdAfter).2 with
    | none =>
      refine sound.serve_unclaimed (sound.ledger.consumeState createdAfter)
        (fun _ claimed => claimed.consumeState state createdAfter) ?_
      change (pool.memory who).after (.consumeState state createdAfter)
        (pool.state.consumeState state createdAfter).2 = _
      rw [answered]
      rfl
    | some answer =>
      obtain ⟨callback, assigned, rfl, _⟩ := allowed
      obtain ⟨claimed, unclaimed⟩ := claimed_consumeState sound.ledger behind answered
      apply sound.serve
      · exact sound.ledger.consumeState createdAfter
      · exact fun other held _ holds =>
          (sound.held other held holds).consumeState callback.state createdAfter
      · rintro held ⟨_, same, again, rfl⟩
        obtain rfl : callback = same := Job.googleCallback.inj (assigned.symm.trans again)
        exact ⟨claimed, fun other holds =>
          absurd (sound.held other callback.state holds) unclaimed⟩

theorem SingleUse.serve_exchange {callback : Callback}
    (allowed : InOrder (pool.job who) (pool.memory who) (.exchange callback))
    {next : Bool → Program service Response} :
    SingleUse delay (pool.serve requests who (.exchange callback) next outcome) := by
  obtain ⟨assigned, cookie, consumed⟩ := allowed
  have holder : Holds pool who callback.state := ⟨consumed, callback, assigned, rfl⟩
  have logged : (pool.state.serve (.exchange callback) outcome).1 =
      (pool.state.handle (.exchange callback)).1 := by
    cases outcome <;> rfl
  apply sound.serve
  · rw [logged]
    exact sound.ledger.exchange (sound.held who _ holder) cookie
  · intro other state different holds
    rw [logged]
    refine (sound.held other state holds).exchange ?_
    rintro rfl
    exact different (sound.single other who _ holds holder)
  · rintro state ⟨still, _⟩
    rw [Pool.memory_serve_self] at still
    cases still

theorem SingleUse.serve_any (allowed : InOrder (pool.job who) (pool.memory who) request)
    (assumed : Assumed delay pool who request outcome) :
    SingleUse delay (pool.serve requests who request next outcome) := by
  cases request with
  | timeNow => exact sound.serve_timeNow
  | insertState state => exact sound.serve_insertState assumed
  | consumeState state createdAfter => exact sound.serve_consumeState assumed allowed
  | exchange callback => exact sound.serve_exchange allowed
  | cleanup => exact sound.serve_cleanup

theorem SingleUse.start (job : Job) :
    SingleUse delay (pool.start requests who job) := by
  have before : ∀ other state, Holds (pool.start requests who job) other state →
      Holds pool other state := by
    rintro other state ⟨consumed, assigned⟩
    by_cases same : other = who
    · subst same
      rw [Pool.memory_start_self] at consumed
      cases consumed
    · rw [Pool.memory_start_of_ne same] at consumed
      rw [Pool.job_start_of_ne same] at assigned
      exact ⟨consumed, assigned⟩
  exact ⟨sound.ledger, fun other state holds => sound.held other state (before other state holds),
    fun left right state first second =>
      sound.single left right state (before left state first) (before right state second)⟩

end Serving

omit [DecidableEq ι] in
theorem SingleUse.passes (sound : SingleUse delay pool) {after : World}
    (passes : Passes pool.state after) : SingleUse delay { pool with state := after } := by
  obtain ⟨states, log, _⟩ := passes
  refine ⟨⟨?_, ?_, ?_, ?_, ?_⟩, ?_, sound.single⟩
  · rw [log]
    exact sound.ledger.orderly
  · rw [log]
    exact sound.ledger.unique
  · rw [log, states]
    exact sound.ledger.stored
  · rw [log]
    exact sound.ledger.known
  · rw [log]
    exact sound.ledger.exchanged
  · rw [log]
    exact sound.held

structure Initial (pool : Pool environment ι Job Progress Response) : Prop where
  idle : ∀ who, pool.Idle who
  begun : ∀ who, pool.memory who = .begun
  states : pool.state.states.rows = []
  log : pool.state.log = []

omit [DecidableEq ι] in
theorem SingleUse.initial (initial : Initial pool) : SingleUse delay pool := by
  have unheld : ∀ who state, ¬Holds pool who state := by
    rintro who state ⟨consumed, _⟩
    rw [initial.begun who] at consumed
    cases consumed
  refine ⟨⟨?_, ?_, ?_, ?_, ?_⟩, ?_, ?_⟩
  · rw [initial.log]
    trivial
  · simp [initial.log]
  · simp [initial.states]
  · simp [initial.log]
  · simp [initial.log]
  · exact fun who state holds => absurd holds (unheld who state)
  · exact fun who _ state holds => absurd holds (unheld who state)

end Steps

/-- Whatever is requested, repeated or replayed, and in whatever order: a state leads
to at most one exchange, made for a request whose cookie is that state, after a
deletion that came in time; and a clean-up spares what is younger than ten minutes. -/
theorem oauth_state_single_use [DecidableEq ι] {delay : Timestamp}
    {first last : Pool environment ι Job Progress Response} (initial : Initial first)
    (execution : ReflTransGen (Pool.Step requests (rules ι delay)) first last) :
    Orderly delay last.state.log := by
  have sound := Pool.keeps requests_disciplined execution (SingleUse delay)
    (fun _ _ job _ _ _ sound => sound.start job)
    (fun _ _ _ _ _ watched ready assumed sound =>
      sound.serve_any (watched.allowed ready) assumed)
    (fun _ _ passes sound => sound.passes passes)
    (Pool.watched_of_idle initial.idle) (SingleUse.initial initial)
  exact sound.2.ledger.orderly

end Pools

/-! ### A login whose callback is replayed -/

def sampleCallback : Callback :=
  { state := "s1"
    cookie := some "s1"
    code := "c1" }

def sampleStart : Pool environment Bool Job Progress Response :=
  { state :=
      { states := Keyed.Table.empty
        now := 0
        log := [] }
    job := fun _ => .cleanupOAuthStates
    rest := fun _ => .done .cleaned
    memory := fun _ => .begun }

/-- The callback and its replay both read the clock before either deletes the row. -/
def replayedCallback : List (Pool.Move environment Bool Job) :=
  [.start true (.googleLogin (some "s1")), .serve true .served,
    .start true (.googleCallback sampleCallback), .start false (.googleCallback sampleCallback),
    .serve true .served, .serve false .served, .serve true .served, .serve false .served,
    .serve true .served]

def sampleEnd : Pool environment Bool Job Progress Response :=
  sampleStart.play requests replayedCallback

theorem sampleEnd_log : sampleEnd.state.log =
    [.exchanged sampleCallback, .consumed ⟨"s1", 0⟩ 0, .issued "s1" 0] := by
  rfl

theorem oauth_state_single_use_replayed :
    Initial sampleStart ∧ sampleEnd.state.log =
      [.exchanged sampleCallback, .consumed ⟨"s1", 0⟩ 0, .issued "s1" 0] ∧
    Orderly 0 sampleEnd.state.log := by
  have initial : Initial sampleStart :=
    ⟨fun _ => ⟨_, rfl⟩, fun _ => rfl, rfl, rfl⟩
  refine ⟨initial, sampleEnd_log, ?_⟩
  apply oauth_state_single_use initial
  apply Pool.play_steps
  have unissued : ∀ time, Event.issued "s1" time ∉ ([] : List Event) := fun _ => List.not_mem_nil
  have inTime : (0 : Timestamp) ≤ 0 - tenMinutes + (tenMinutes + 0) := by decide
  exact ⟨trivial, unissued, trivial, trivial, trivial, trivial, inTime, inTime, trivial, trivial⟩

/-! ### A callback that waits for the database -/

def atTime (pool : Pool environment Bool Job Progress Response) (seconds : Timestamp) :
    Pool environment Bool Job Progress Response :=
  { pool with state := { pool.state with now := seconds * 1000000 } }

def issuedState : Pool environment Bool Job Progress Response :=
  sampleStart.play requests [.start true (.googleLogin (some "s1")), .serve true .served]

theorem step_atTime {pool : Pool environment Bool Job Progress Response} {seconds : Timestamp}
    {delay : Timestamp} (later : pool.state.now ≤ seconds * 1000000) :
    Pool.Step requests (rules Bool delay) pool (atTime pool seconds) :=
  .disturbed _ ⟨rfl, rfl, later⟩

def waitingCallback : Pool environment Bool Job Progress Response :=
  (atTime issuedState 599).play requests
    [.start true (.googleCallback sampleCallback), .serve true .served]

/-- Its statement is executed six seconds later. -/
def lateEnd : Pool environment Bool Job Progress Response :=
  (atTime waitingCallback 605).play requests [.serve true .served, .serve true .served]

theorem oauth_state_consumed_late :
    ReflTransGen (Pool.Step requests (rules Bool 6000000)) sampleStart lateEnd ∧ lateEnd.state.log =
        [.exchanged sampleCallback, .consumed ⟨"s1", 0⟩ 605000000, .issued "s1" 0] ∧
      ¬Orderly 0 lateEnd.state.log := by
  have log : lateEnd.state.log =
      [.exchanged sampleCallback, .consumed ⟨"s1", 0⟩ 605000000, .issued "s1" 0] := by
    rfl
  refine ⟨?_, log, ?_⟩
  · have issued : ReflTransGen (Pool.Step requests (rules Bool 6000000)) sampleStart
        issuedState :=
      Pool.play_steps _ ⟨trivial, fun _ => List.not_mem_nil, trivial⟩
    have waiting : ReflTransGen (Pool.Step requests (rules Bool 6000000))
        (atTime issuedState 599) waitingCallback :=
      Pool.play_steps _ ⟨trivial, trivial, trivial⟩
    have late : ReflTransGen (Pool.Step requests (rules Bool 6000000))
        (atTime waitingCallback 605) lateEnd :=
      Pool.play_steps _ ⟨(by decide : (605000000 : Timestamp) ≤ 599000000 - tenMinutes +
        (tenMinutes + 6000000)), trivial, trivial⟩
    exact ((issued.tail (step_atTime (by decide))).trans waiting).trans
      (.head (step_atTime (by decide)) late)
  · rw [log]
    rintro ⟨⟨_, ⟨row, time, consumed, _, _, early⟩, _⟩, _⟩
    have inTime := early 0 (List.mem_cons_of_mem _ (List.mem_singleton_self _))
    simp only [List.mem_cons, Event.consumed.injEq, reduceCtorEq, List.not_mem_nil, or_false]
      at consumed
    rw [consumed.2] at inTime
    exact absurd inTime (by decide)

end ContestSync.OAuth
