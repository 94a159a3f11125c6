/-
The rate limits. Every instance of the middleware asks two limiters that the whole
process shares: one with a limit of its own that comes first, and, without Valkey, one
with the limit of the instance. Both count by address alone, so that an instance finds
the window that another one has opened.
-/

import ContestSync.KeyedTable
import ContestSync.FixedWindow

namespace ContestSync.RateLimit

open FixedWindow

/-! ### The local limiter -/

/-- An entry of `counters`: the address and its `ipLimit`. -/
structure Counter where
  ip : String
  hits : Int
  resetTime : Int
deriving DecidableEq

abbrev Counters := Keyed.Table Counter.ip

/-- `counters[ip] = &ipLimit{...}`. -/
def put (counters : Counters) (counter : Counter) : Counters :=
  counters.upsert counter (fun old => { counter with ip := old.ip }) (fun _ => rfl)

/-- Only a large map is searched for windows that are over. -/
def evict (counters : Counters) (now : Int) : Counters :=
  if 10000 < counters.rows.length then
    counters.delete (fun counter => counter.resetTime < now)
  else counters

def allow (counters : Counters) (now : Int) (ip : String) (limit : Limit) : Counters × Bool :=
  let counters := evict counters now
  match counters.find ip with
  | none => (put counters ⟨ip, 1, now + limit.duration⟩, true)
  | some lim =>
    if lim.resetTime < now then
      (put counters ⟨ip, 1, now + limit.duration⟩, true)
    else if limit.max ≤ lim.hits then
      (counters, false)
    else
      (put counters { lim with hits := lim.hits + 1 }, true)

def Counter.window (counter : Counter) : Window :=
  ⟨counter.hits, counter.resetTime⟩

def windowOf (counters : Counters) (ip : String) : Option Window :=
  (counters.find ip).map Counter.window

section Limiter

variable {counters : Counters} {now : Int} {ip other : String} {limit : Limit}

theorem find_put (counter : Counter) :
    (put counters counter).find ip =
      if ip = counter.ip then some counter else counters.find ip := by
  rw [put, Keyed.Table.find_upsert]
  by_cases same : ip = counter.ip
  · rw [if_pos same, if_pos same]
    cases found : counters.find counter.ip with
    | none => rfl
    | some old =>
      have atKey : old.ip = counter.ip := (Keyed.Table.find_eq_some_iff.mp found).2
      simp [atKey]
  · rw [if_neg same, if_neg same]

theorem live_evict (counters : Counters) (now : Int) (ip : String) :
    live now (windowOf (evict counters now) ip) = live now (windowOf counters ip) := by
  unfold evict
  split
  · unfold windowOf
    rw [Keyed.Table.find_delete]
    cases counters.find ip with
    | none => rfl
    | some counter =>
      by_cases expired : counter.resetTime < now
      · have ended : live now (some counter.window) = none := live_over expired
        rw [Option.filter_some_neg (by simpa using expired)]
        exact ended.symm
      · rw [Option.filter_some_pos (by simpa using expired)]
  · rfl

theorem windowOf_put_self (counter : Counter) :
    windowOf (put counters counter) counter.ip = some counter.window := by
  rw [windowOf, find_put, if_pos rfl]
  rfl

theorem windowOf_put_other (counter : Counter) (different : ip ≠ counter.ip) :
    windowOf (put counters counter) ip = windowOf counters ip := by
  rw [windowOf, find_put, if_neg different]
  rfl

theorem windowOf_allow_self (counters : Counters) (now : Int) (ip : String) (limit : Limit) :
    (windowOf (allow counters now ip limit).1 ip, (allow counters now ip limit).2) =
      (some (hit limit now (windowOf counters ip)).1,
        (hit limit now (windowOf counters ip)).2) := by
  rw [← hit_congr (live_evict counters now ip)]
  unfold allow
  simp only
  cases found : (evict counters now).find ip with
  | none =>
    have absent : windowOf (evict counters now) ip = none := by
      rw [windowOf, found]
      rfl
    rw [absent]
    exact Prod.ext (windowOf_put_self ⟨ip, 1, now + limit.duration⟩) rfl
  | some lim =>
    have present : windowOf (evict counters now) ip = some lim.window := by
      rw [windowOf, found]
      rfl
    have atKey : lim.ip = ip := (Keyed.Table.find_eq_some_iff.mp found).2
    rw [present]
    by_cases expired : lim.resetTime < now
    · have answer : hit limit now (some lim.window) = (⟨1, now + limit.duration⟩, true) :=
        hit_over expired
      rw [answer]
      simp only [if_pos expired]
      exact Prod.ext (windowOf_put_self ⟨ip, 1, now + limit.duration⟩) rfl
    by_cases used : limit.max ≤ lim.hits
    · have answer : hit limit now (some lim.window) = (lim.window, false) := hit_used expired used
      rw [answer]
      simp only [if_neg expired, if_pos used]
      exact Prod.ext present rfl
    · have answer : hit limit now (some lim.window) =
          (⟨lim.hits + 1, lim.resetTime⟩, true) := hit_counted expired used
      rw [answer]
      simp only [if_neg expired, if_neg used]
      subst atKey
      exact Prod.ext (windowOf_put_self { lim with hits := lim.hits + 1 }) rfl

theorem live_allow_other (different : other ≠ ip) :
    live now (windowOf (allow counters now ip limit).1 other) =
      live now (windowOf counters other) := by
  rw [← live_evict counters now other]
  unfold allow
  simp only
  cases found : (evict counters now).find ip with
  | none => rw [windowOf_put_other _ different]
  | some lim =>
    have atKey : lim.ip = ip := (Keyed.Table.find_eq_some_iff.mp found).2
    simp only
    split
    · rw [windowOf_put_other _ different]
    split
    · rfl
    · subst atKey
      rw [windowOf_put_other { lim with hits := lim.hits + 1 } different]

end Limiter

/-! ### The middleware -/

def second : Int :=
  1000000000

def minute : Int :=
  60 * second

/-- `earlyLimiter.allow(ip, 150, 10*time.Second)`. -/
def earlyLimit : Limit :=
  { max := 150
    duration := 10 * second }

/-- What an instance does with a request: the first limiter turns it down, its own
limit does, or the next handler gets it. -/
inductive Verdict where
  | early
  | limited
  | next
deriving DecidableEq

structure Response where
  status : Nat
  retryAfter : Int
  body : String
deriving DecidableEq

/-- The answer to a request that is not passed on. -/
def Verdict.response (limit : Limit) : Verdict → Option Response
  | .early => some ⟨429, 60, "\x7b\"error\":\"too many requests\"\x7d"⟩
  | .limited =>
    some ⟨429, limit.duration.tdiv second, "\x7b\"error\":\"too many requests\"\x7d"⟩
  | .next => none

/-- A request at an instance of the middleware. Time passes before each of the two
limiters reads the clock. `incr` is `none` without a client, and otherwise what the
pipeline returns. -/
structure Visit (ι : Type) where
  middleware : ι
  ip : String
  wait : Nat
  hold : Nat
  incr : Option (Option Int)

/-- `resetTime` is the end of the window at the local limiter, if that one was asked. -/
structure Entry (ι : Type) where
  middleware : ι
  ip : String
  time : Int
  verdict : Verdict
  resetTime : Option Int
deriving DecidableEq

/-- The two limiters of the process. The log, last entry first, is read by nobody. -/
structure State (ι : Type) where
  clock : Int
  early : Counters
  global : Counters
  log : List (Entry ι)

section Middleware

variable {ι : Type}

def State.record (state : State ι) (visit : Visit ι) (time : Int) (verdict : Verdict)
    (resetTime : Option Int) : State ι :=
  { state with
    clock := time
    log := ⟨visit.middleware, visit.ip, time, verdict, resetTime⟩ :: state.log }

variable (limits : ι → Limit)

/-- `globalLimiter.allow(ip, max, duration)`. -/
def askGlobal (state : State ι) (visit : Visit ι) (time : Int) : State ι × Verdict :=
  let answer := allow state.global time visit.ip (limits visit.middleware)
  let verdict := if answer.2 then .next else .limited
  (({ state with global := answer.1 }).record visit time verdict
    ((windowOf answer.1 visit.ip).map Window.resetTime), verdict)

def rateLimitMiddleware (state : State ι) (visit : Visit ι) : State ι × Verdict :=
  let arrival := state.clock + visit.wait
  let answer := allow state.early arrival visit.ip earlyLimit
  let state := { state with early := answer.1 }
  if answer.2 then
    let time := arrival + visit.hold
    match visit.incr with
    | some (some count) =>
      let verdict := if (limits visit.middleware).max < count then .limited else .next
      (state.record visit time verdict none, verdict)
    | some none => askGlobal limits state visit time
    | none => askGlobal limits state visit time
  else
    (state.record visit arrival .early none, .early)

def run (state : State ι) (visits : List (Visit ι)) : State ι :=
  visits.foldl (fun state visit => (rateLimitMiddleware limits state visit).1) state

/-- A request passes through the instances on its route until one keeps it. -/
def serve (state : State ι) : (stack : List (Visit ι)) → State ι
  | [] => state
  | visit :: rest =>
    match rateLimitMiddleware limits state visit with
    | (after, .next) => serve after rest
    | (after, _) => after

def State.initial (clock : Int) : State ι :=
  { clock := clock
    early := .empty
    global := .empty
    log := [] }

variable {limits}

theorem serve_eq_run (state : State ι) (stack : List (Visit ι)) :
    ∃ visits, visits <+: stack ∧ serve limits state stack = run limits state visits := by
  induction stack generalizing state with
  | nil => exact ⟨[], List.prefix_rfl, rfl⟩
  | cons visit rest ih =>
    unfold serve
    split
    · rename_i after passed
      obtain ⟨visits, initial, same⟩ := ih after
      refine ⟨visit :: visits, (List.prefix_cons_inj visit).mpr initial, ?_⟩
      rw [same, run, run, List.foldl_cons, passed]
    · rename_i after verdict _ stopped
      refine ⟨[visit], ⟨rest, rfl⟩, ?_⟩
      rw [run, List.foldl_cons, List.foldl_nil, stopped]

/-! ### What the shared counters hold -/

def hitOf (ip : String) (entry : Entry ι) : Option (Hit ι) :=
  if entry.ip = ip then
    entry.resetTime.map (fun resetTime =>
      ⟨entry.middleware, entry.time, resetTime, entry.verdict = .next⟩)
  else none

def hitsOf (ip : String) (log : List (Entry ι)) : List (Hit ι) :=
  log.filterMap (hitOf ip)

variable (limits)

structure Faithful (state : State ι) : Prop where
  window : ∀ ip, live state.clock (windowOf state.global ip) =
    live state.clock (shared limits (hitsOf ip state.log))
  recorded : ∀ ip, Recorded limits (hitsOf ip state.log)
  past : ∀ ip, ∀ hit ∈ hitsOf ip state.log, hit.time ≤ state.clock

variable {limits} {state : State ι} {visit : Visit ι} {time : Int}

theorem faithful_initial (clock : Int) : Faithful limits (State.initial clock : State ι) :=
  ⟨fun _ => rfl, fun _ => trivial, nofun⟩

theorem Faithful.unasked (faithful : Faithful limits state) (later : state.clock ≤ time)
    (verdict : Verdict) (early : Counters) :
    Faithful limits (({ state with early := early }).record visit time verdict none) := by
  have hits : ∀ ip, hitsOf ip
      (⟨visit.middleware, visit.ip, time, verdict, none⟩ :: state.log) = hitsOf ip state.log := by
    intro ip
    simp [hitsOf, hitOf]
  constructor
  · intro ip
    simp only [State.record, hits]
    exact live_congr later (faithful.window ip)
  · intro ip
    simp only [State.record, hits]
    exact faithful.recorded ip
  · intro ip hit member
    simp only [State.record, hits] at member
    exact Int.le_trans (faithful.past ip hit member) later

variable {entry : Entry ι} {log : List (Entry ι)}

theorem hitsOf_cons_other {ip : String}
    (different : ip ≠ entry.ip) : hitsOf ip (entry :: log) = hitsOf ip log := by
  simp [hitsOf, hitOf, Ne.symm different]

theorem hitsOf_cons_self {resetTime : Int} (asked : entry.resetTime = some resetTime) :
    hitsOf entry.ip (entry :: log) =
      ⟨entry.middleware, entry.time, resetTime, entry.verdict = .next⟩ ::
        hitsOf entry.ip log := by
  simp [hitsOf, hitOf, asked]

theorem Faithful.asking (faithful : Faithful limits state) (later : state.clock ≤ time) :
    Faithful limits (askGlobal limits state visit time).1 := by
  have answer := windowOf_allow_self state.global time visit.ip (limits visit.middleware)
  have alike := live_congr later (faithful.window visit.ip)
  rw [hit_congr alike] at answer
  obtain ⟨window, passed⟩ := Prod.ext_iff.mp answer
  simp only at window passed
  -- The new entry tells the end of the window and the answer as the counter gave them.
  have hits : hitsOf visit.ip (askGlobal limits state visit time).1.log = ⟨visit.middleware, time,
        (hit (limits visit.middleware) time
          (shared limits (hitsOf visit.ip state.log))).1.resetTime,
        (hit (limits visit.middleware) time (shared limits (hitsOf visit.ip state.log))).2⟩ ::
        hitsOf visit.ip state.log := by
    have asked := congrArg (Option.map Window.resetTime) window
    refine (hitsOf_cons_self asked).trans ?_
    rw [← passed]
    cases (allow state.global time visit.ip (limits visit.middleware)).2 <;> rfl
  have other : ∀ ip, ip ≠ visit.ip →
      hitsOf ip (askGlobal limits state visit time).1.log = hitsOf ip state.log :=
    fun ip different => hitsOf_cons_other different
  constructor
  · intro ip
    by_cases same : ip = visit.ip
    · subst same
      rw [hits]
      exact congrArg (live time) window
    · rw [other ip same]
      exact (live_allow_other same).trans (live_congr later (faithful.window ip))
  · intro ip
    by_cases same : ip = visit.ip
    · subst same
      rw [hits]
      exact ⟨fun before member => Int.le_trans (faithful.past _ before member) later, rfl, rfl,
        faithful.recorded _⟩
    · rw [other ip same]
      exact faithful.recorded ip
  · intro ip hit member
    by_cases same : ip = visit.ip
    · subst same
      rw [hits] at member
      rcases List.mem_cons.mp member with rfl | member
      · exact Int.le_refl time
      · exact Int.le_trans (faithful.past _ hit member) later
    · rw [other ip same] at member
      exact Int.le_trans (faithful.past ip hit member) later

theorem Faithful.step (faithful : Faithful limits state) (visit : Visit ι) :
    Faithful limits (rateLimitMiddleware limits state visit).1 := by
  have arrival : state.clock ≤ state.clock + visit.wait := by omega
  have check : state.clock ≤ state.clock + visit.wait + visit.hold := by omega
  have past : Faithful limits { state with
      early := (allow state.early (state.clock + visit.wait) visit.ip earlyLimit).1 } :=
    ⟨faithful.window, faithful.recorded, faithful.past⟩
  unfold rateLimitMiddleware
  simp only
  split
  · split
    · exact faithful.unasked check _ _
    · exact past.asking check
    · exact past.asking check
  · exact faithful.unasked arrival _ _

theorem Faithful.runs (faithful : Faithful limits state) (visits : List (Visit ι)) :
    Faithful limits (run limits state visits) := by
  induction visits generalizing state with
  | nil => exact faithful
  | cons visit rest ih => exact ih (faithful.step visit)

/-! ### Without a client -/

/-- Every instance that a request got as far as its own limit at has asked the local
limiter. -/
def Asked (log : List (Entry ι)) : Prop :=
  ∀ entry ∈ log, entry.verdict ≠ .early → ∃ resetTime, entry.resetTime = some resetTime

theorem asked_step (asked : Asked state.log) (unattached : visit.incr = none) :
    Asked (rateLimitMiddleware limits state visit).1.log := by
  unfold rateLimitMiddleware
  simp only [unattached]
  split
  · intro entry member
    rcases List.mem_cons.mp member with rfl | member
    · intro _
      have answer := windowOf_allow_self state.global (state.clock + visit.wait + visit.hold)
        visit.ip (limits visit.middleware)
      exact ⟨_, congrArg (Option.map Window.resetTime) (Prod.ext_iff.mp answer).1⟩
    · exact asked entry member
  · intro entry member
    rcases List.mem_cons.mp member with rfl | member
    · exact fun notEarly => absurd rfl notEarly
    · exact asked entry member

theorem asked_run {visits : List (Visit ι)} (asked : Asked state.log)
    (unattached : ∀ visit ∈ visits, visit.incr = none) :
    Asked (run limits state visits).log := by
  induction visits generalizing state with
  | nil => exact asked
  | cons visit rest ih =>
    exact ih (asked_step asked (unattached visit List.mem_cons_self))
      (fun other member => unattached other (List.mem_cons_of_mem _ member))

end Middleware

/-! ### One instance among others -/

section Independence

variable {ι : Type} [DecidableEq ι]

/-- The times at which the requests of an address got to an instance. -/
def reachedTimes (middleware : ι) (ip : String) (log : List (Entry ι)) : List Int :=
  (log.filter (fun entry => entry.middleware = middleware ∧ entry.ip = ip)).map Entry.time

/-- No request of the address at this instance was turned down early or came while a
window was running in which another instance had counted the address. -/
def Undisturbed (middleware : ι) (ip : String) : List (Entry ι) → Prop
  | [] => True
  | entry :: earlier =>
    (entry.middleware = middleware → entry.ip = ip → entry.verdict ≠ .early ∧
      ∀ before ∈ earlier, before.ip = ip → before.middleware ≠ middleware →
        before.verdict = .next → ∀ resetTime ∈ before.resetTime, resetTime < entry.time) ∧
    Undisturbed middleware ip earlier

instance decidableUndisturbed (middleware : ι) (ip : String) :
    (log : List (Entry ι)) → Decidable (Undisturbed middleware ip log)
  | [] => inferInstanceAs (Decidable True)
  | _ :: earlier =>
    have := decidableUndisturbed middleware ip earlier
    inferInstanceAs (Decidable (_ ∧ _))

variable {limits : ι → Limit} {middleware : ι} {ip : String} {log : List (Entry ι)}

omit [DecidableEq ι] in
theorem hitsOf_cons_unasked {entry : Entry ι} (unasked : entry.resetTime = none) :
    hitsOf ip (entry :: log) = hitsOf ip log := by
  simp [hitsOf, hitOf, unasked]

omit [DecidableEq ι] in
theorem settled_hitsOf {time : Int}
    (expired : ∀ before ∈ log, before.ip = ip → before.middleware ≠ middleware →
      before.verdict = .next → ∀ resetTime ∈ before.resetTime, resetTime < time) :
    Settled middleware time (hitsOf ip log) := by
  intro hit member foreign passed
  obtain ⟨before, present, made⟩ := List.mem_filterMap.mp member
  unfold hitOf at made
  split at made
  · rename_i sameIP
    obtain ⟨resetTime, asked, rfl⟩ := Option.map_eq_some_iff.mp made
    exact expired before present sameIP foreign (of_decide_eq_true passed) resetTime asked
  · cases made

omit [DecidableEq ι] in
theorem Undisturbed.hits (undisturbed : Undisturbed middleware ip log) :
    FixedWindow.Undisturbed middleware (hitsOf ip log) := by
  induction log with
  | nil => trivial
  | cons entry earlier ih =>
    obtain ⟨here, before⟩ := undisturbed
    by_cases sameIP : entry.ip = ip
    · cases asked : entry.resetTime with
      | none =>
        rw [hitsOf_cons_unasked asked]
        exact ih before
      | some resetTime =>
        subst sameIP
        rw [hitsOf_cons_self asked]
        exact ⟨fun same => settled_hitsOf (here same rfl).2, ih before⟩
    · rw [hitsOf_cons_other (Ne.symm sameIP)]
      exact ih before

theorem ownTimes_hitsOf (asked : Asked log) (undisturbed : Undisturbed middleware ip log) :
    ownTimes middleware (hitsOf ip log) = reachedTimes middleware ip log := by
  induction log with
  | nil => rfl
  | cons entry earlier ih =>
    obtain ⟨here, before⟩ := undisturbed
    have rest := ih (fun other member => asked other (List.mem_cons_of_mem _ member)) before
    by_cases own : entry.middleware = middleware ∧ entry.ip = ip
    · obtain ⟨sameMiddleware, sameIP⟩ := own
      obtain ⟨resetTime, present⟩ :=
        asked entry List.mem_cons_self (here sameMiddleware sameIP).1
      subst sameIP
      rw [hitsOf_cons_self present, ownTimes_cons_self sameMiddleware, rest]
      simp [reachedTimes, sameMiddleware]
    · have skipped : reachedTimes middleware ip (entry :: earlier) =
          reachedTimes middleware ip earlier := by
        simp [reachedTimes, own]
      rw [skipped, ← rest]
      by_cases sameIP : entry.ip = ip
      · cases present : entry.resetTime with
        | none => rw [hitsOf_cons_unasked present]
        | some resetTime =>
          subst sameIP
          rw [hitsOf_cons_self present]
          exact ownTimes_cons_other (fun same => own ⟨same, rfl⟩)
      · rw [hitsOf_cons_other (Ne.symm sameIP)]

/-- The limit of an instance decides as a counter of its own would, which counts the
requests of the address at this instance, if nobody else has interfered. -/
theorem limit_decides_alone {clock : Int} {visits : List (Visit ι)}
    (unattached : ∀ visit ∈ visits, visit.incr = none)
    {later earlier : List (Entry ι)} {entry : Entry ι}
    (happened : (run limits (State.initial clock) visits).log = later ++ entry :: earlier)
    (undisturbed : Undisturbed entry.middleware entry.ip (entry :: earlier)) :
    entry.verdict =
      if (hit (limits entry.middleware) entry.time (alone (limits entry.middleware)
        (reachedTimes entry.middleware entry.ip earlier))).2
      then .next else .limited := by
  have asked : Asked (later ++ entry :: earlier) := by
    rw [← happened]
    exact asked_run nofun unattached
  have recorded : Recorded limits (hitsOf entry.ip (entry :: earlier)) := by
    have faithful : Faithful limits (run limits (State.initial clock) visits) :=
      (faithful_initial clock).runs visits
    have whole := faithful.recorded entry.ip
    rw [happened, hitsOf, List.filterMap_append] at whole
    exact whole.before
  obtain ⟨notEarly, _⟩ := undisturbed.1 rfl rfl
  obtain ⟨resetTime, present⟩ :=
    asked entry (List.mem_append_right _ List.mem_cons_self) notEarly
  have hits := undisturbed.hits
  rw [hitsOf_cons_self present] at recorded hits
  have passed := passed_alone recorded hits
  have askedEarlier : Asked earlier := fun other member =>
    asked other (List.mem_append_right _ (List.mem_cons_of_mem _ member))
  rw [ownTimes_hitsOf askedEarlier undisturbed.2] at passed
  rw [← passed]
  cases verdict : entry.verdict with
  | early => exact absurd verdict notEarly
  | limited => rfl
  | next => rfl

end Independence

/-! ### The instances of the server -/

/-- The instances in `main`: for every request, for the two administrative routes, and
for the check of the calendar. -/
inductive Middleware where
  | root
  | admin
  | validate
deriving DecidableEq

def Middleware.limit : Middleware → Limit
  | .root => ⟨300, minute⟩
  | .admin => ⟨10, 15 * minute⟩
  | .validate => ⟨60, minute⟩

/-- A request on an open route, after some time. -/
def openRequest (ip : String) (wait : Nat) : List (Visit Middleware) :=
  [⟨.root, ip, wait, 0, none⟩]

def adminRequest (ip : String) (wait : Nat) : List (Visit Middleware) :=
  [⟨.root, ip, wait, 0, none⟩, ⟨.admin, ip, 0, 0, none⟩]

def serveAll (requests : List (List (Visit Middleware))) : State Middleware :=
  requests.foldl (serve Middleware.limit) (State.initial 0)

/-- The three entries of an administrative request and of one on an open route when
the windows of the first are over. -/
def lateEntry : Entry Middleware :=
  ⟨.root, "192.0.2.1", 61 * second, .next, some (121 * second)⟩

def adminEntries : List (Entry Middleware) :=
  [⟨.admin, "192.0.2.1", 0, .next, some (60 * second)⟩,
    ⟨.root, "192.0.2.1", 0, .next, some (60 * second)⟩]

theorem limit_decides_alone_late :
    (run Middleware.limit (State.initial 0)
      (adminRequest "192.0.2.1" 0 ++ openRequest "192.0.2.1" 61000000000)).log =
      lateEntry :: adminEntries ∧
    lateEntry.verdict =
      if (hit Middleware.root.limit (61 * second)
        (alone Middleware.root.limit (reachedTimes .root "192.0.2.1" adminEntries))).2
      then .next else .limited := by
  have happened : (run Middleware.limit (State.initial 0)
      (adminRequest "192.0.2.1" 0 ++ openRequest "192.0.2.1" 61000000000)).log =
      [] ++ lateEntry :: adminEntries := by
    decide +kernel
  have unattached : ∀ visit ∈ adminRequest "192.0.2.1" 0 ++ openRequest "192.0.2.1" 61000000000,
      visit.incr = none := by
    decide +kernel
  exact ⟨happened, limit_decides_alone unattached happened (by decide +kernel)⟩

/-- Ten requests elsewhere use up the limit of the administrative routes, and eleven
administrative requests pass in fifteen minutes when others reset the window. -/
theorem admin_limit_shared :
    let quiet := serveAll [adminRequest "192.0.2.1" 0]
    let busy := serveAll (List.replicate 10 (openRequest "192.0.2.1" 0) ++
      [adminRequest "192.0.2.1" 0])
    let spread := serveAll (List.replicate 11 (adminRequest "192.0.2.1" 61000000000))
    (quiet.log.head?.map (fun entry => (entry.middleware, entry.verdict)) = some (.admin, .next) ∧
      busy.log.head?.map (fun entry => (entry.middleware, entry.verdict)) =
        some (.admin, .limited) ∧
      reachedTimes .admin "192.0.2.1" quiet.log.tail =
        reachedTimes .admin "192.0.2.1" busy.log.tail) ∧
    (spread.log.filter (fun entry => entry.middleware = .admin ∧ entry.verdict = .next)).length =
      11 ∧ spread.clock ≤ 15 * minute := by
  decide +kernel

end ContestSync.RateLimit
