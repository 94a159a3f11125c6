/-
The rate limits with a Valkey client. The counters are kept under the pattern of the
route and the address, and every request that gets to one puts its end off. The limit
is never exceeded in any interval of its duration, but a request is counted for as long
as no pause of a full duration has followed it.
-/

import ContestSync.ExpiringCounter
import ContestSync.RateLimit

namespace ContestSync.ValkeyLimiter

open FixedWindow (Limit)
open RateLimit (Verdict Visit rateLimitMiddleware)
open ExpiringCounter (Counter Hit increment counterAfter stretch passes passing Ordered)

/-- A request at an instance of the middleware that has a client. `pattern` is `none`
without a route context. -/
structure Request (ι : Type) where
  middleware : ι
  pattern : Option String
  ip : String
  wait : Nat
  hold : Nat

def scope : Option String → String
  | none => "unmatched"
  | some pattern => if pattern ≠ "" then pattern else "unmatched"

def Request.key {ι : Type} (request : Request ι) : String :=
  "ratelimit:" ++ scope request.pattern ++ ":" ++ request.ip

structure Check (ι : Type) where
  middleware : ι
  key : String
  time : Int
  verdict : Verdict
deriving DecidableEq

/-- The limiters of the process and the counters in Valkey. The log, last check first,
is read by nobody. -/
structure State (ι : Type) where
  process : RateLimit.State ι
  store : String → Option Counter
  log : List (Check ι)

section Middleware

variable {ι : Type} (limits : ι → Limit)

def Request.hit (request : Request ι) (time : Int) : Hit :=
  ⟨time, (limits request.middleware).duration⟩

/-- `INCR` and `EXPIRE` in one transaction, which a request that was turned down early
does not get to. -/
def serve (state : State ι) (request : Request ι) : State ι :=
  let time := state.process.clock + request.wait + request.hold
  let counter := increment (state.store request.key) (request.hit limits time)
  let visit : Visit ι :=
    { middleware := request.middleware
      ip := request.ip
      wait := request.wait
      hold := request.hold
      incr := some (some counter.count) }
  let answer := rateLimitMiddleware limits state.process visit
  { process := answer.1
    store :=
      if answer.2 = .early then state.store
      else Function.update state.store request.key (some counter)
    log := ⟨request.middleware, request.key, answer.1.clock, answer.2⟩ :: state.log }

def run (state : State ι) (requests : List (Request ι)) : State ι :=
  requests.foldl (serve limits) state

def State.initial (clock : Int) : State ι :=
  { process := .initial clock
    store := fun _ => none
    log := [] }

/-! ### What the counters hold -/

def Check.hit (check : Check ι) : Hit :=
  ⟨check.time, (limits check.middleware).duration⟩

def hitsOn (key : String) (log : List (Check ι)) : List Hit :=
  (log.filter (fun check => check.key = key ∧ check.verdict ≠ .early)).map (Check.hit limits)

/-- A check that was not turned down early tells what its counter said. -/
def Recorded : List (Check ι) → Prop
  | [] => True
  | check :: earlier =>
    (check.verdict ≠ .early → check.verdict =
        if passes (limits check.middleware).max (check.hit limits)
          (hitsOn limits check.key earlier)
        then .next else .limited) ∧
    Recorded earlier

structure Kept (state : State ι) : Prop where
  counters : ∀ key, state.store key = counterAfter (hitsOn limits key state.log)
  recorded : Recorded limits state.log
  past : ∀ check ∈ state.log, check.time ≤ state.process.clock
  ordered : state.log.Pairwise (fun last earlier => earlier.time ≤ last.time)

variable {limits} {state : State ι} {check : Check ι} {log : List (Check ι)} {key : String}

theorem hitsOn_cons_self (reached : check.verdict ≠ .early) :
    hitsOn limits check.key (check :: log) = check.hit limits :: hitsOn limits check.key log := by
  simp [hitsOn, reached]

theorem hitsOn_cons_early (early : check.verdict = .early) :
    hitsOn limits key (check :: log) = hitsOn limits key log := by
  simp [hitsOn, early]

theorem hitsOn_cons_other (different : key ≠ check.key) :
    hitsOn limits key (check :: log) = hitsOn limits key log := by
  simp [hitsOn, Ne.symm different]

theorem kept_initial (clock : Int) : Kept limits (State.initial clock : State ι) :=
  ⟨fun _ => rfl, trivial, nofun, List.Pairwise.nil⟩

theorem rateLimitMiddleware_counted (limits : ι → Limit) (process : RateLimit.State ι)
    {visit : Visit ι} {count : Int}
    (counted : visit.incr = some (some count)) :
    ((rateLimitMiddleware limits process visit).2 = .early ∧
      (rateLimitMiddleware limits process visit).1.clock = process.clock + visit.wait) ∨
    ((rateLimitMiddleware limits process visit).2 =
        (if (limits visit.middleware).max < count then .limited else .next) ∧
      (rateLimitMiddleware limits process visit).1.clock =
        process.clock + visit.wait + visit.hold) := by
  unfold rateLimitMiddleware
  simp only [counted]
  split
  · exact .inr ⟨rfl, rfl⟩
  · exact .inl ⟨rfl, rfl⟩

theorem judged_reached (max : Int) (count : Nat) :
    (if max < count then Verdict.limited else .next) ≠ .early := by
  split <;> exact nofun

theorem judged_eq (max : Int) (count : Nat) :
    (if max < count then Verdict.limited else .next) =
      if decide ((count : Int) ≤ max) then .next else .limited := by
  by_cases exceeded : max < count
  · rw [if_pos exceeded, if_neg (by simpa using exceeded)]
  · rw [if_neg exceeded, if_pos (by simpa using exceeded)]

theorem serve_cases (limits : ι → Limit) (state : State ι) (request : Request ι) :
    ∃ time, state.process.clock ≤ time ∧ (serve limits state request).process.clock = time ∧
      (((serve limits state request).store = state.store ∧ (serve limits state request).log =
          ⟨request.middleware, request.key, time, .early⟩ :: state.log) ∨
      ((serve limits state request).store = Function.update state.store request.key
          (some (increment (state.store request.key) (request.hit limits time))) ∧
        (serve limits state request).log = ⟨request.middleware, request.key, time,
            if (limits request.middleware).max <
              (increment (state.store request.key) (request.hit limits time)).count
            then .limited else .next⟩ :: state.log)) := by
  let time := state.process.clock + request.wait + request.hold
  let visit : Visit ι := ⟨request.middleware, request.ip, request.wait, request.hold,
    some (some (increment (state.store request.key) (request.hit limits time)).count)⟩
  have counted : visit.incr =
      some (some ((increment (state.store request.key) (request.hit limits time)).count : Int)) :=
    rfl
  rcases rateLimitMiddleware_counted limits state.process counted with
    ⟨early, clock⟩ | ⟨verdict, clock⟩
  · refine ⟨_, ?_, clock, .inl ⟨if_pos early, ?_⟩⟩
    · omega
    · simp only [serve]
      rw [early, clock]
  · refine ⟨_, ?_, clock, .inr ⟨?_, ?_⟩⟩
    · omega
    · refine if_neg ?_
      rw [verdict]
      exact judged_reached _ _
    · simp only [serve]
      rw [verdict, clock]

theorem Kept.past_cons (kept : Kept limits state) {time : Int}
    (late : state.process.clock ≤ time) (current : check.time = time) :
    (∀ other ∈ check :: state.log, other.time ≤ time) ∧
      (check :: state.log).Pairwise (fun last earlier => earlier.time ≤ last.time) := by
  constructor
  · intro other member
    rcases List.mem_cons.mp member with same | member
    · rw [same]
      exact Int.le_of_eq current
    · exact Int.le_trans (kept.past other member) late
  · rw [List.pairwise_cons, current]
    exact ⟨fun other member => Int.le_trans (kept.past other member) late, kept.ordered⟩

theorem Kept.serve (kept : Kept limits state) (request : Request ι) :
    Kept limits (serve limits state request) := by
  have counter := kept.counters request.key
  obtain ⟨time, late, clock, ⟨store, log⟩ | ⟨store, log⟩⟩ :=
    serve_cases limits state request
  · constructor
    · intro key
      rw [store, log, hitsOn_cons_early rfl]
      exact kept.counters key
    · rw [log]
      exact ⟨fun reached => absurd rfl reached, kept.recorded⟩
    · rw [log, clock]
      exact (kept.past_cons late rfl).1
    · rw [log]
      exact (kept.past_cons late rfl).2
  · rw [counter] at store log
    have hits : hitsOn limits request.key (ValkeyLimiter.serve limits state request).log =
        request.hit limits time :: hitsOn limits request.key state.log := by
      rw [log]
      exact hitsOn_cons_self (judged_reached _ _)
    constructor
    · intro key
      by_cases same : key = request.key
      · rw [same, hits, store, Function.update_self]
        rfl
      · rw [store, log, Function.update_of_ne same, hitsOn_cons_other same]
        exact kept.counters key
    · rw [log]
      refine ⟨fun _ => ?_, kept.recorded⟩
      rw [judged_eq]
      rfl
    · rw [log, clock]
      exact (kept.past_cons late rfl).1
    · rw [log]
      exact (kept.past_cons late rfl).2

theorem Kept.run (kept : Kept limits state) (requests : List (Request ι)) :
    Kept limits (run limits state requests) := by
  induction requests generalizing state with
  | nil => exact kept
  | cons request rest ih => exact ih (kept.serve request)

theorem Recorded.at {later earlier : List (Check ι)}
    (recorded : Recorded limits (later ++ check :: earlier)) :
    Recorded limits (check :: earlier) := by
  induction later with
  | nil => exact recorded
  | cons _ _ ih => exact ih recorded.2

theorem mem_log_run {requests : List (Request ι)}
    (member : check ∈ (run limits state requests).log) :
    check ∈ state.log ∨
      ∃ request ∈ requests, check.key = request.key ∧ check.middleware = request.middleware := by
  induction requests generalizing state with
  | nil => exact .inl member
  | cons request rest ih =>
    rcases ih member with before | ⟨other, present, origin⟩
    · have head : check ∈ state.log ∨
          check.key = request.key ∧ check.middleware = request.middleware := by
        obtain ⟨_, _, _, ⟨_, log⟩ | ⟨_, log⟩⟩ := serve_cases limits state request
        all_goals
          rw [log] at before
          rcases List.mem_cons.mp before with same | before
          · exact .inr ⟨by rw [same], by rw [same]⟩
          · exact .inl before
      rcases head with before | origin
      · exact .inl before
      · exact .inr ⟨request, List.mem_cons_self, origin⟩
    · exact .inr ⟨other, List.mem_cons_of_mem _ present, origin⟩

theorem ordered_hitsOn (ordered : log.Pairwise (fun last earlier => earlier.time ≤ last.time)) :
    Ordered (hitsOn limits key log) :=
  List.pairwise_map.mpr (ordered.filter _)

/-! ### Within the rate -/

/-- The requests that the counter of a check has counted: those of its key since the
counter had last expired. -/
def counted (limits : ι → Limit) (check : Check ι) (earlier : List (Check ι)) : List Hit :=
  stretch (hitsOn limits check.key (check :: earlier))

/-- The requests with the key of a check that arrived within the duration before it, with
the check itself. -/
def arrived (limits : ι → Limit) (check : Check ι) (earlier : List (Check ι)) : Nat :=
  (check :: earlier).countP (fun other =>
    other.key = check.key ∧ check.time - (limits check.middleware).duration ≤ other.time)

theorem counted_le_arrived {earlier : List (Check ι)}
    (recent : ∀ hit ∈ counted limits check earlier,
      check.time - (limits check.middleware).duration ≤ hit.time) :
    (counted limits check earlier).length ≤ arrived limits check earlier := by
  let start := check.time - (limits check.middleware).duration
  have all : (counted limits check earlier).countP (fun hit => start ≤ hit.time) =
      (counted limits check earlier).length :=
    List.countP_eq_length.mpr (fun hit member => decide_eq_true (recent hit member))
  rw [← all]
  calc (counted limits check earlier).countP (fun hit => start ≤ hit.time)
      ≤ (hitsOn limits check.key (check :: earlier)).countP (fun hit => start ≤ hit.time) :=
        (ExpiringCounter.stretch_initial _).sublist.countP_le
    _ ≤ arrived limits check earlier := by
        rw [hitsOn, List.countP_map, List.countP_filter]
        apply List.countP_mono_left
        intro other _ both
        simp only [Function.comp_apply, Bool.and_eq_true, decide_eq_true_eq] at both ⊢
        exact ⟨both.2.1, both.1⟩

theorem limited_within_rate {clock : Int} {requests : List (Request ι)}
    {later earlier : List (Check ι)}
    (happened : (run limits (State.initial clock) requests).log = later ++ check :: earlier)
    (reached : check.verdict ≠ .early) :
    (check.verdict = .limited ↔
      (limits check.middleware).max < (counted limits check earlier).length) ∧
    ((∀ hit ∈ counted limits check earlier,
        check.time - (limits check.middleware).duration ≤ hit.time) →
      check.verdict = .limited → (limits check.middleware).max < arrived limits check earlier) := by
  have kept : Kept limits (run limits (State.initial clock) requests) :=
    (kept_initial clock).run requests
  have recorded := kept.recorded
  rw [happened] at recorded
  have verdict := recorded.at.1 reached
  have judged : check.verdict = .limited ↔
      (limits check.middleware).max < (counted limits check earlier).length := by
    rw [verdict, counted, hitsOn_cons_self reached, ← ExpiringCounter.counterAfter_count, passes]
    split
    · rename_i within
      rw [decide_eq_true_eq] at within
      constructor
      · intro impossible
        cases impossible
      · intro exceeded
        omega
    · rename_i exceeded
      rw [decide_eq_true_eq] at exceeded
      exact ⟨fun _ => by omega, fun _ => rfl⟩
  constructor
  · exact judged
  · intro recent limited
    have exceeded := judged.mp limited
    have bound := counted_le_arrived recent
    omega

end Middleware

open RateLimit (Middleware second minute)

/-- Eleven calls of an administrator; one more than the limit of a quarter of an hour. -/
def adminCalls (spacing : Nat) : List (Request Middleware) :=
  List.replicate 11 ⟨.admin, some "/admin/sync", "203.0.113.7", spacing, 0⟩

def adminCheck (spacing : Nat) (verdict : Verdict) (index : Nat) : Check Middleware :=
  ⟨.admin, "ratelimit:/admin/sync:203.0.113.7", spacing * (index + 1), verdict⟩

/-- The ten calls before the last one. -/
def adminChecks (spacing : Nat) : List (Check Middleware) :=
  (List.range 10).reverse.map (adminCheck spacing .next)

/-- Calls that are one second apart. -/
theorem fast_client_limited :
    Middleware.limit .admin = ⟨10, 15 * minute⟩ ∧
    (10 : Int) <
      arrived Middleware.limit (adminCheck 1000000000 .limited 10) (adminChecks 1000000000) :=
  ⟨rfl, (@limited_within_rate Middleware Middleware.limit (adminCheck 1000000000 .limited 10) 0
      (adminCalls 1000000000) [] (adminChecks 1000000000) (by decide +kernel) nofun).2
      (by decide +kernel) rfl⟩

/-- Calls that are fourteen minutes apart: the last one is turned down, although only
one other call has arrived within the quarter of an hour before it. -/
theorem slow_client_limited :
    (run Middleware.limit (State.initial 0) (adminCalls 840000000000)).log =
        adminCheck 840000000000 .limited 10 :: adminChecks 840000000000 ∧
      arrived Middleware.limit (adminCheck 840000000000 .limited 10)
        (adminChecks 840000000000) = 2 ∧
      2 ≤ (Middleware.limit .admin).max := by
  decide +kernel

/-! ### In every window -/

section Windows

variable {ι : Type} {limits : ι → Limit} {log : List (Check ι)} {key : String}

theorem passing_hitsOn (recorded : Recorded limits log) (limit : Limit)
    (uniform : ∀ check ∈ log, check.key = key → limits check.middleware = limit) (start : Int) :
    log.countP (fun check => check.key = key ∧ check.verdict = .next ∧
        start ≤ check.time ∧ check.time < start + limit.duration) =
      (passing limit.max (hitsOn limits key log)).countP
        (fun hit => start ≤ hit.time ∧ hit.time < start + limit.duration) := by
  induction log with
  | nil => rfl
  | cons check earlier ih =>
    have rest := ih recorded.2 (fun other member => uniform other (List.mem_cons_of_mem _ member))
    by_cases own : check.key = key
    · by_cases early : check.verdict = .early
      · rw [hitsOn_cons_early early, List.countP_cons_of_neg (by simp [early]), rest]
      · have verdict := recorded.1 early
        have same := uniform check List.mem_cons_self own
        subst own
        rw [same] at verdict
        rw [hitsOn_cons_self early, passing]
        by_cases through : passes limit.max (check.hit limits) (hitsOn limits check.key earlier)
        · rw [if_pos through] at verdict ⊢
          by_cases inside : start ≤ check.time ∧ check.time < start + limit.duration
          · rw [List.countP_cons_of_pos (by simp [verdict, inside]),
              List.countP_cons_of_pos (by simp [Check.hit, inside]), rest]
          · rw [List.countP_cons_of_neg (by simpa [verdict] using inside),
              List.countP_cons_of_neg (by simp only [Check.hit, inside]; decide), rest]
        · rw [if_neg through] at verdict ⊢
          rw [List.countP_cons_of_neg (by simp [verdict]), rest]
    · rw [hitsOn_cons_other (Ne.symm own), List.countP_cons_of_neg (by simp [own]), rest]

theorem passed_in_window {limit : Limit} {clock : Int} {requests : List (Request ι)}
    (uniform : ∀ request ∈ requests, request.key = key → limits request.middleware = limit)
    (start : Int) :
    (run limits (State.initial clock) requests).log.countP (fun check =>
        check.key = key ∧ check.verdict = .next ∧
          start ≤ check.time ∧ check.time < start + limit.duration) ≤
      limit.max.toNat := by
  have kept : Kept limits (run limits (State.initial clock) requests) :=
    (kept_initial clock).run requests
  have same : ∀ check ∈ (run limits (State.initial clock) requests).log,
      check.key = key → limits check.middleware = limit := by
    intro check member atKey
    rcases mem_log_run member with impossible | ⟨request, present, origin, instanceOf⟩
    · cases impossible
    · rw [instanceOf]
      exact uniform request present (origin.symm.trans atKey)
  rw [passing_hitsOn kept.recorded limit same]
  apply ExpiringCounter.passing_in_window (ordered_hitsOn kept.ordered)
  intro hit member
  obtain ⟨check, present, made⟩ := List.mem_map.mp member
  rw [List.mem_filter, decide_eq_true_eq] at present
  rw [← made]
  exact congrArg Limit.duration (same check present.1 present.2.1)

end Windows

theorem adminCalls_in_window :
    (run Middleware.limit (State.initial 0) (adminCalls 1000000000)).log.countP (fun check =>
        check.key = "ratelimit:/admin/sync:203.0.113.7" ∧ check.verdict = .next ∧
          0 ≤ check.time ∧ check.time < 0 + 15 * minute) ≤ 10 :=
  @passed_in_window Middleware Middleware.limit "ratelimit:/admin/sync:203.0.113.7"
    ⟨10, 15 * minute⟩ 0 (adminCalls 1000000000)
    (fun request member _ => by rw [List.eq_of_mem_replicate member]; rfl) 0

end ContestSync.ValkeyLimiter
