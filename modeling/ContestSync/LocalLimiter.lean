/-
The local limiter over whole sequences of calls. What it removes from its map are pairs
that the next call of their address would replace, so that it answers like a limiter
that keeps every pair. With one limit for all calls, the calls of an address that it
allows fall in windows, and an interval of one duration meets two of them at most.
-/

import ContestSync.RateLimit

namespace ContestSync.RateLimit

open FixedWindow

structure LimiterCall where
  time : Int
  ip : String
  limit : Limit
deriving DecidableEq

/-- What a call of `allow` did: `reset` when it wrote a new pair for its address. -/
structure LimiterAnswer where
  call : LimiterCall
  reset : Bool
  allowed : Bool
deriving DecidableEq

/-- `!ok || now.After(lim.resetTime)`. -/
def resets (counters : Counters) (now : Int) (ip : String) : Bool :=
  match (evict counters now).find ip with
  | none => true
  | some lim => lim.resetTime < now

def answers (counters : Counters) : List LimiterCall → List LimiterAnswer
  | [] => []
  | call :: later =>
    let after := allow counters call.time call.ip call.limit
    ⟨call, resets counters call.time call.ip, after.2⟩ :: answers after.1 later

theorem resets_eq (counters : Counters) (now : Int) (ip : String) :
    resets counters now ip = (live now (windowOf counters ip)).isNone := by
  rw [← live_evict, resets, windowOf]
  cases (evict counters now).find ip with
  | none => rfl
  | some lim =>
    by_cases expired : lim.resetTime < now
    · have ended : live now (some lim.window) = none := live_over expired
      simp [expired, ended]
    · have running : live now (some lim.window) = some lim.window :=
        live_running (Int.not_lt.mp expired)
      simp [expired, running]

/-- The calls are in the order of their times, none before `now`. -/
def Timely (now : Int) (calls : List LimiterCall) : Prop :=
  (now :: calls.map LimiterCall.time).Pairwise (· ≤ ·)

theorem Timely.cons {now : Int} {call : LimiterCall} {later : List LimiterCall}
    (timely : Timely now (call :: later)) : now ≤ call.time ∧ Timely call.time later := by
  have parts := List.pairwise_cons.mp timely
  exact ⟨parts.1 call.time List.mem_cons_self, parts.2⟩

theorem exists_timely {calls : List LimiterCall}
    (ordered : calls.Pairwise (fun earlier later => earlier.time ≤ later.time)) :
    ∃ now, Timely now calls := by
  cases calls with
  | nil => exact ⟨0, List.pairwise_singleton _ _⟩
  | cons call later =>
    refine ⟨call.time, List.pairwise_cons.mpr ⟨?_, List.pairwise_map.mpr ordered⟩⟩
    intro time member
    rcases List.mem_cons.mp member with same | member
    · exact Int.le_of_eq same.symm
    · obtain ⟨after, present, same⟩ := List.mem_map.mp member
      rw [← same]
      exact List.rel_of_pairwise_cons ordered present

/-! ### A limiter that keeps every pair -/

/-- One pair for each address that was ever seen. -/
abbrev Pairs := String → Option Window

def Pairs.allow (pairs : Pairs) (call : LimiterCall) : Pairs × Bool :=
  let after := hit call.limit call.time (pairs call.ip)
  (Function.update pairs call.ip (some after.1), after.2)

def Pairs.answers (pairs : Pairs) : List LimiterCall → List Bool
  | [] => []
  | call :: later =>
    let after := pairs.allow call
    after.2 :: Pairs.answers after.1 later

/-- The two limiters differ in pairs whose time is over. -/
def Alike (now : Int) (counters : Counters) (pairs : Pairs) : Prop :=
  ∀ ip, live now (windowOf counters ip) = live now (pairs ip)

section Alike

variable {now : Int} {counters : Counters} {pairs : Pairs} {call : LimiterCall}

theorem Alike.allow (alike : Alike now counters pairs) (later : now ≤ call.time) :
    (allow counters call.time call.ip call.limit).2 = (pairs.allow call).2 ∧
      Alike call.time (allow counters call.time call.ip call.limit).1 (pairs.allow call).1 := by
  have current : ∀ ip, live call.time (windowOf counters ip) = live call.time (pairs ip) :=
    fun ip => live_congr later (alike ip)
  have self := windowOf_allow_self counters call.time call.ip call.limit
  rw [hit_congr (current call.ip)] at self
  obtain ⟨window, answer⟩ := Prod.mk.inj self
  constructor
  · exact answer
  · intro ip
    by_cases same : ip = call.ip
    · rw [same, window]
      simp [Pairs.allow]
    · rw [live_allow_other same, current ip]
      simp [Pairs.allow, same]

theorem Alike.answers {calls : List LimiterCall} (alike : Alike now counters pairs)
    (timely : Timely now calls) :
    (answers counters calls).map LimiterAnswer.allowed = pairs.answers calls := by
  induction calls generalizing now counters pairs with
  | nil => rfl
  | cons call rest ih =>
    obtain ⟨later, timely⟩ := timely.cons
    obtain ⟨answer, alike⟩ := alike.allow later
    simp only [RateLimit.answers, Pairs.answers, List.map_cons]
    rw [answer, ih alike timely]

end Alike

theorem answers_without_eviction {calls : List LimiterCall}
    (ordered : calls.Pairwise (fun earlier later => earlier.time ≤ later.time)) :
    (answers .empty calls).map LimiterAnswer.allowed = Pairs.answers (fun _ => none) calls := by
  obtain ⟨now, timely⟩ := exists_timely ordered
  have alike : Alike now .empty (fun _ => none) := fun _ => rfl
  exact alike.answers timely

/-- More addresses than the map keeps without a search, each at its own time. -/
def crowd : List LimiterCall :=
  (List.range 10002).map
    (fun index : Nat => ⟨index, String.ofList (List.replicate index '1'), ⟨1, index % 7⟩⟩)

theorem crowd_answers_without_eviction :
    (answers .empty crowd).map LimiterAnswer.allowed = Pairs.answers (fun _ => none) crowd := by
  apply answers_without_eviction
  rw [crowd, List.pairwise_map]
  exact List.pairwise_lt_range.imp (fun before => Int.ofNat_le.mpr (Nat.le_of_lt before))

/-! ### One limit for all calls -/

def LimiterAnswer.mark (answer : LimiterAnswer) : Mark :=
  ⟨answer.call.time, answer.reset, answer.allowed⟩

def marksOf (ip : String) (log : List LimiterAnswer) : List Mark :=
  (log.filter (fun answer => answer.call.ip = ip)).map LimiterAnswer.mark

def timesOf (ip : String) (calls : List LimiterCall) : List Int :=
  (calls.filter (fun call => call.ip = ip)).map LimiterCall.time

section OneLimit

variable {limit : Limit} {now : Int} {counters : Counters} {ip : String}
  {calls : List LimiterCall}

theorem marksOf_answers {window : Option Window} (timely : Timely now calls)
    (alike : live now (windowOf counters ip) = live now window)
    (uniform : ∀ call ∈ calls, call.limit = limit) :
    marksOf ip (answers counters calls) = marks limit window (timesOf ip calls) := by
  induction calls generalizing now counters window with
  | nil => rfl
  | cons call rest ih =>
    obtain ⟨later, timely⟩ := timely.cons
    have same : call.limit = limit := uniform call List.mem_cons_self
    have uniform := fun call member => uniform call (List.mem_cons_of_mem _ member)
    have current := live_congr later alike
    by_cases own : call.ip = ip
    · have self := windowOf_allow_self counters call.time ip limit
      rw [hit_congr current] at self
      obtain ⟨window, answer⟩ := Prod.mk.inj self
      have remaining := ih timely (congrArg (live call.time) window) uniform
      simp only [answers, marksOf, timesOf, own, same, decide_true, List.filter_cons_of_pos,
        List.map_cons, marks, LimiterAnswer.mark] at remaining ⊢
      rw [resets_eq, current, answer, remaining]
    · have kept : live call.time (windowOf (allow counters call.time call.ip call.limit).1 ip) =
            live call.time window := by
        rw [live_allow_other (Ne.symm own), current]
      have remaining := ih timely kept uniform
      simpa [answers, marksOf, timesOf, own] using remaining

theorem timesOf_ordered (ip : String)
    (ordered : calls.Pairwise (fun earlier later => earlier.time ≤ later.time)) :
    (timesOf ip calls).Pairwise (· ≤ ·) :=
  List.pairwise_map.mpr (ordered.filter _)

theorem countP_marksOf (log : List LimiterAnswer) (counted : Mark → Bool) :
    log.countP (fun answer => answer.call.ip = ip && counted answer.mark) =
      (marksOf ip log).countP counted := by
  rw [marksOf, List.countP_map, List.countP_filter]
  apply List.countP_congr
  intro answer _
  simp [and_comm]

theorem marksOf_append (earlier later : List LimiterAnswer) :
    marksOf ip (earlier ++ later) = marksOf ip earlier ++ marksOf ip later := by
  simp [marksOf]

theorem tail_marksOf {first : LimiterAnswer} {during : List LimiterAnswer} {mark : Mark}
    (member : mark ∈ (marksOf ip (first :: during)).tail) :
    ∃ answer ∈ during, answer.call.ip = ip ∧ answer.mark = mark := by
  have rest : mark ∈ marksOf ip during := by
    by_cases own : first.call.ip = ip
    · simpa [marksOf, own] using member
    · have inside : mark ∈ (marksOf ip during).tail := by
        simpa [marksOf, own] using member
      exact List.mem_of_mem_tail inside
  obtain ⟨answer, present, same⟩ := List.mem_map.mp rest
  rw [List.mem_filter, decide_eq_true_eq] at present
  exact ⟨answer, present.1, present.2, same⟩

end OneLimit

theorem allowed_calls_bounded {limit : Limit} {calls : List LimiterCall}
    (positive : 1 ≤ limit.max) (uniform : ∀ call ∈ calls, call.limit = limit)
    (ordered : calls.Pairwise (fun earlier later => earlier.time ≤ later.time)) (ip : String) :
    (∀ start, ((answers .empty calls).countP (fun answer =>
        answer.call.ip = ip && (start ≤ answer.call.time ∧
          answer.call.time ≤ start + limit.duration ∧ answer.allowed)) : Int) ≤
      2 * limit.max) ∧
    ∀ before first during after, answers .empty calls = before ++ first :: during ++ after →
      (∀ answer ∈ during, answer.call.ip = ip → answer.reset = false) →
      ((first :: during).countP
        (fun answer => answer.call.ip = ip && answer.allowed) : Int) ≤ limit.max := by
  obtain ⟨now, timely⟩ := exists_timely ordered
  have hits : marksOf ip (answers .empty calls) = marks limit none (timesOf ip calls) :=
    marksOf_answers timely rfl uniform
  constructor
  · intro start
    have bound := passedIn_le start positive (bounded_none limit) (timesOf_ordered ip ordered)
    rw [← hits, ← countP_marksOf] at bound
    exact bound
  · intro before first during after whole quiet
    rw [whole, marksOf_append, marksOf_append] at hits
    obtain ⟨window, times, bounded, segment⟩ :=
      marks_infix positive (bounded_none limit) hits.symm
    have unopened : ∀ mark ∈ (marks limit window times).tail, mark.opened = false := by
      intro mark member
      rw [← segment] at member
      obtain ⟨answer, present, own, same⟩ := tail_marksOf member
      rw [← same]
      exact quiet answer present own
    have bound := passed_segment positive bounded unopened
    rw [← segment, ← countP_marksOf] at bound
    exact bound

/-- Two windows that an interval of one duration meets: three calls of it are allowed
with a limit of two. -/
def burst : List LimiterCall :=
  [0, 5, 6, 6, 6].map (fun time => ⟨time, "203.0.113.7", ⟨2, 5⟩⟩)

theorem burst_calls_bounded :
    (answers .empty burst).map LimiterAnswer.allowed = [true, true, true, true, false] ∧
    ((answers .empty burst).countP (fun answer =>
      answer.call.ip = "203.0.113.7" && (1 ≤ answer.call.time ∧
        answer.call.time ≤ 1 + 5 ∧ answer.allowed)) : Int) ≤ 2 * 2 :=
  ⟨by decide,
    (@allowed_calls_bounded ⟨2, 5⟩ burst (by decide) (by decide) (by decide) "203.0.113.7").1 1⟩

end ContestSync.RateLimit
