/-
Counters over windows of time. A counter opens a window with the first hit after the
last window has ended, and turns a hit down when the window is used up. Two counters
that differ only in a window that is over answer alike from then on.
-/

import Mathlib.Order.Basic
import Mathlib.Data.Option.Basic

namespace FixedWindow

structure Limit where
  max : Int
  duration : Int
deriving DecidableEq

structure Window where
  hits : Int
  resetTime : Int
deriving DecidableEq

def hit (limit : Limit) (now : Int) : Option Window → Window × Bool
  | none => (⟨1, now + limit.duration⟩, true)
  | some window =>
    if window.resetTime < now then
      (⟨1, now + limit.duration⟩, true)
    else if limit.max ≤ window.hits then
      (window, false)
    else
      (⟨window.hits + 1, window.resetTime⟩, true)

/-- The window, unless it is over. -/
def live (now : Int) : Option Window → Option Window
  | none => none
  | some window => if window.resetTime < now then none else some window

section Windows

variable {limit : Limit} {now later : Int} {window other : Option Window} {current : Window}

theorem hit_over (expired : current.resetTime < now) :
    hit limit now (some current) = (⟨1, now + limit.duration⟩, true) :=
  if_pos expired

theorem hit_used (running : ¬current.resetTime < now) (used : limit.max ≤ current.hits) :
    hit limit now (some current) = (current, false) := by
  rw [hit, if_neg running, if_pos used]

theorem hit_counted (running : ¬current.resetTime < now) (room : ¬limit.max ≤ current.hits) :
    hit limit now (some current) = (⟨current.hits + 1, current.resetTime⟩, true) := by
  rw [hit, if_neg running, if_neg room]

theorem live_over (expired : current.resetTime < now) : live now (some current) = none :=
  if_pos expired

theorem live_running (running : now ≤ current.resetTime) :
    live now (some current) = some current :=
  if_neg (Int.not_lt.mpr running)

theorem over_of_live (expired : live now (some current) = none) : current.resetTime < now := by
  by_contra running
  rw [live_running (Int.not_lt.mp running)] at expired
  cases expired

theorem live_eq_some_iff :
    live now window = some current ↔ window = some current ∧ now ≤ current.resetTime := by
  cases window with
  | none => simp [live]
  | some old =>
    by_cases expired : old.resetTime < now
    · rw [live_over expired]
      constructor
      · exact nofun
      · rintro ⟨same, running⟩
        cases same
        omega
    · rw [live_running (Int.not_lt.mp expired)]
      constructor
      · intro same
        cases same
        exact ⟨rfl, Int.not_lt.mp expired⟩
      · exact fun facts => facts.1

theorem hit_live (limit : Limit) (now : Int) (window : Option Window) :
    hit limit now (live now window) = hit limit now window := by
  cases window with
  | none => rfl
  | some old =>
    by_cases expired : old.resetTime < now
    · rw [live_over expired, hit_over expired]
      rfl
    · rw [live_running (Int.not_lt.mp expired)]

theorem hit_congr (alike : live now window = live now other) :
    hit limit now window = hit limit now other := by
  rw [← hit_live, alike, hit_live]

theorem live_live (ordered : now ≤ later) (window : Option Window) :
    live later (live now window) = live later window := by
  cases window with
  | none => rfl
  | some old =>
    by_cases expired : old.resetTime < now
    · rw [live_over expired, live_over (Int.lt_of_lt_of_le expired ordered)]
      rfl
    · rw [live_running (Int.not_lt.mp expired)]

theorem live_congr (ordered : now ≤ later) (alike : live now window = live now other) :
    live later window = live later other := by
  rw [← live_live ordered, alike, live_live ordered]

theorem live_none_later (ordered : now ≤ later) (expired : live now window = none) :
    live later window = none := by
  rw [← live_live ordered, expired]
  rfl

theorem hit_cases (limit : Limit) (now : Int) (window : Option Window) :
    (live now window = none ∧ hit limit now window = (⟨1, now + limit.duration⟩, true)) ∨
    (∃ current, live now window = some current ∧ limit.max ≤ current.hits ∧
      hit limit now window = (current, false)) ∨
    ∃ current, live now window = some current ∧ current.hits < limit.max ∧
      hit limit now window = (⟨current.hits + 1, current.resetTime⟩, true) := by
  rw [← hit_live]
  cases found : live now window with
  | none => exact .inl ⟨rfl, rfl⟩
  | some current =>
    have running : ¬current.resetTime < now := Int.not_lt.mpr (live_eq_some_iff.mp found).2
    by_cases used : limit.max ≤ current.hits
    · exact .inr (.inl ⟨current, rfl, used, hit_used running used⟩)
    · exact .inr (.inr ⟨current, rfl, Int.not_le.mp used, hit_counted running used⟩)

end Windows

/-! ### A counter that several origins hit -/

/-- A hit with the limit of its origin. `resetTime` is the end of the window that the
hit opened or was counted in, or that turned it down. -/
structure Hit (κ : Type) where
  origin : κ
  time : Int
  resetTime : Int
  passed : Bool

section Shared

variable {κ : Type} (limits : κ → Limit)

/-- The window of a counter after its hits; the last one stands first. -/
def shared : List (Hit κ) → Option Window
  | [] => none
  | last :: earlier => some (hit (limits last.origin) last.time (shared earlier)).1

/-- The hits are in order, and what they say of themselves is what happened. -/
def Recorded : List (Hit κ) → Prop
  | [] => True
  | last :: earlier =>
    (∀ before ∈ earlier, before.time ≤ last.time) ∧
    last.resetTime = (hit (limits last.origin) last.time (shared limits earlier)).1.resetTime ∧
    last.passed = (hit (limits last.origin) last.time (shared limits earlier)).2 ∧
    Recorded earlier

/-- The windows that the hits of other origins were counted in are over. -/
def Settled (origin : κ) (now : Int) (hits : List (Hit κ)) : Prop :=
  ∀ before ∈ hits, before.origin ≠ origin → before.passed = true → before.resetTime < now

/-- So they are at every hit of this origin. -/
def Undisturbed (origin : κ) : List (Hit κ) → Prop
  | [] => True
  | last :: earlier =>
    (last.origin = origin → Settled origin last.time earlier) ∧ Undisturbed origin earlier

/-- The window of a counter that only one origin hits, from the times of its hits. -/
def alone (limit : Limit) : List Int → Option Window
  | [] => none
  | last :: earlier => some (hit limit last (alone limit earlier)).1

variable {limits} {origin : κ} {last : Hit κ} {earlier hits : List (Hit κ)} {now : Int}

theorem Settled.tail (settled : Settled origin now (last :: earlier)) :
    Settled origin now earlier :=
  fun before member => settled before (List.mem_cons_of_mem _ member)

theorem Recorded.before {later : List (Hit κ)} (recorded : Recorded limits (later ++ earlier)) :
    Recorded limits earlier := by
  induction later with
  | nil => exact recorded
  | cons _ _ ih => exact ih recorded.2.2.2

theorem shared_runs_on (ordered : last.time ≤ now)
    (expired : live now (shared limits (last :: earlier)) = none) :
    live last.time (shared limits earlier) = none ∨ live now (shared limits earlier) = none := by
  rw [shared] at expired
  rcases hit_cases (limits last.origin) last.time (shared limits earlier) with
    ⟨ended, _⟩ | ⟨current, found, _, rejected⟩ | ⟨current, found, _, counted⟩
  · exact .inl ended
  · rw [rejected] at expired
    rw [← live_live ordered, found]
    exact .inr expired
  · rw [counted] at expired
    have ended := over_of_live expired
    rw [← live_live ordered, found]
    exact .inr (live_over ended)

variable [DecidableEq κ]

def ownTimes (origin : κ) (hits : List (Hit κ)) : List Int :=
  (hits.filter (fun hit => hit.origin = origin)).map Hit.time

theorem ownTimes_cons_self (same : last.origin = origin) :
    ownTimes origin (last :: earlier) = last.time :: ownTimes origin earlier := by
  simp [ownTimes, same]

theorem ownTimes_cons_other (different : last.origin ≠ origin) :
    ownTimes origin (last :: earlier) = ownTimes origin earlier := by
  simp [ownTimes, different]

/-- A counter that several origins hit and one that a single origin hits: the first
runs while the second does, and they are the same once the windows of the others are
over. -/
theorem shared_agrees (recorded : Recorded limits hits) (undisturbed : Undisturbed origin hits)
    (timely : ∀ hit ∈ hits, hit.time ≤ now) :
    (live now (shared limits hits) = none →
      live now (alone (limits origin) (ownTimes origin hits)) = none) ∧
    (Settled origin now hits → live now (shared limits hits) =
        live now (alone (limits origin) (ownTimes origin hits))) := by
  induction hits generalizing now with
  | nil => exact ⟨fun _ => rfl, fun _ => rfl⟩
  | cons last earlier ih =>
    obtain ⟨ordered, reset, passed, recorded⟩ := recorded
    obtain ⟨settled, undisturbed⟩ := undisturbed
    have recent : last.time ≤ now := timely last List.mem_cons_self
    have atLast := ih recorded undisturbed ordered
    have atNow := ih recorded undisturbed
      (fun hit member => timely hit (List.mem_cons_of_mem _ member))
    by_cases same : last.origin = origin
    · -- Both counters take the hit in the same window.
      have alike := atLast.2 (settled same)
      have windows : shared limits (last :: earlier) =
          alone (limits origin) (ownTimes origin (last :: earlier)) := by
        rw [ownTimes_cons_self same, shared, alone, same, hit_congr alike]
      rw [windows]
      exact ⟨id, fun _ => rfl⟩
    · rw [ownTimes_cons_other same]
      have ends : live now (shared limits (last :: earlier)) = none →
          live now (alone (limits origin) (ownTimes origin earlier)) = none := by
        intro expired
        rcases shared_runs_on recent expired with ended | ended
        · exact live_none_later recent (atLast.1 ended)
        · exact atNow.1 ended
      refine ⟨ends, ?_⟩
      intro settledNow
      cases through : last.passed with
      | true =>
        have expired : live now (shared limits (last :: earlier)) = none := by
          rw [shared]
          apply live_over
          rw [← reset]
          exact settledNow last List.mem_cons_self same through
        rw [expired, ends expired]
      | false =>
        -- The window that turns a hit down stays as it is.
        have kept : live now (shared limits (last :: earlier)) =
            live now (shared limits earlier) := by
          rw [passed] at through
          rcases hit_cases (limits last.origin) last.time (shared limits earlier) with
            ⟨_, opened⟩ | ⟨current, found, _, rejected⟩ | ⟨current, _, _, counted⟩
          · rw [opened] at through
            cases through
          · rw [shared, rejected, ← found, live_live recent]
          · rw [counted] at through
            cases through
        rw [kept]
        exact atNow.2 settledNow.tail

/-- The answer to a hit comes from the hits of its own origin. -/
theorem passed_alone (recorded : Recorded limits (last :: earlier))
    (undisturbed : Undisturbed last.origin (last :: earlier)) :
    last.passed = (hit (limits last.origin) last.time
        (alone (limits last.origin) (ownTimes last.origin earlier))).2 := by
  obtain ⟨ordered, _, passed, recorded⟩ := recorded
  obtain ⟨settled, undisturbed⟩ := undisturbed
  have alike := (shared_agrees recorded undisturbed ordered).2 (settled rfl)
  rw [passed, hit_congr alike]

end Shared

/-! ### The hits of one counter -/

/-- A hit, whether it opened a window, and whether it was let through. -/
structure Mark where
  time : Int
  opened : Bool
  passed : Bool
deriving DecidableEq

def marks (limit : Limit) (window : Option Window) : List Int → List Mark
  | [] => []
  | now :: later =>
    ⟨now, (live now window).isNone, (hit limit now window).2⟩ ::
      marks limit (some (hit limit now window).1) later

def passedIn (first last : Int) (mark : Mark) : Bool :=
  first ≤ mark.time ∧ mark.time ≤ last ∧ mark.passed

def afterHits (limit : Limit) (window : Option Window) (times : List Int) : Option Window :=
  times.foldl (fun window now => some (hit limit now window).1) window

/-- A window holds at least the hit that opened it, and no more than the limit allows. -/
def Bounded (limit : Limit) (window : Option Window) : Prop :=
  ∀ current ∈ window, 1 ≤ current.hits ∧ current.hits ≤ limit.max

def used (window : Option Window) : Int :=
  window.elim 0 Window.hits

section Marks

variable {limit : Limit} {window : Option Window} {current : Window} {now first last : Int}
  {times : List Int}

theorem marks_append (window : Option Window) (earlier later : List Int) :
    marks limit window (earlier ++ later) =
      marks limit window earlier ++ marks limit (afterHits limit window earlier) later := by
  induction earlier generalizing window with
  | nil => rfl
  | cons now rest ih => simp [marks, afterHits, ih]

theorem map_time_marks (limit : Limit) (window : Option Window) (times : List Int) :
    (marks limit window times).map Mark.time = times := by
  induction times generalizing window with
  | nil => rfl
  | cons now later ih => simp [marks, ih]

theorem length_marks (limit : Limit) (window : Option Window) (times : List Int) :
    (marks limit window times).length = times.length := by
  rw [← List.length_map, map_time_marks]

theorem bounded_none (limit : Limit) : Bounded limit none :=
  nofun

theorem Bounded.hit (positive : 1 ≤ limit.max) (bounded : Bounded limit window) (now : Int) :
    Bounded limit (some (hit limit now window).1) := by
  intro after same
  cases same
  rcases hit_cases limit now window with
    ⟨_, opened⟩ | ⟨current, found, _, rejected⟩ | ⟨current, found, room, counted⟩
  · simp [opened, positive]
  · rw [rejected]
    exact bounded current (live_eq_some_iff.mp found).1
  · have atLeast := (bounded current (live_eq_some_iff.mp found).1).1
    simp only [counted]
    omega

theorem Bounded.afterHits (positive : 1 ≤ limit.max) (bounded : Bounded limit window)
    (times : List Int) : Bounded limit (afterHits limit window times) := by
  induction times generalizing window with
  | nil => exact bounded
  | cons now later ih => exact ih (bounded.hit positive now)

theorem Bounded.used_le (positive : 1 ≤ limit.max) (bounded : Bounded limit window) :
    used window ≤ limit.max := by
  cases window with
  | none => exact Int.le_trans Int.one_nonneg positive
  | some current => exact (bounded current rfl).2

theorem Bounded.used_nonneg (bounded : Bounded limit window) : 0 ≤ used window := by
  cases window with
  | none => exact Int.le_refl 0
  | some current => exact Int.le_trans Int.one_nonneg (bounded current rfl).1

theorem marks_infix (positive : 1 ≤ limit.max) (bounded : Bounded limit window)
    {before segment after : List Mark}
    (whole : marks limit window times = before ++ segment ++ after) :
    ∃ found during, Bounded limit found ∧ segment = marks limit found during := by
  have split : times = before.map Mark.time ++ segment.map Mark.time ++ after.map Mark.time := by
    rw [← map_time_marks limit window times, whole]
    simp
  rw [split, marks_append, marks_append] at whole
  have left := List.append_inj_left whole (by simp [length_marks])
  have middle := List.append_inj_right left (by simp [length_marks])
  exact ⟨_, _, bounded.afterHits positive _, middle.symm⟩

theorem passed_unopened (bounded : Bounded limit (some current))
    (unopened : ∀ mark ∈ marks limit (some current) times, mark.opened = false) :
    current.hits + ((marks limit (some current) times).countP Mark.passed : Nat) ≤ limit.max := by
  induction times generalizing current with
  | nil =>
    have room := (bounded current rfl).2
    simp [marks, room]
  | cons now later ih =>
    have positive : 1 ≤ limit.max := by
      have counts := bounded current rfl
      omega
    have rest := bounded.hit positive now
    have head : (live now (some current)).isNone = false := unopened _ List.mem_cons_self
    have tail := fun mark member => unopened mark (List.mem_cons_of_mem _ member)
    rcases hit_cases limit now (some current) with
      ⟨ended, _⟩ | ⟨kept, found, _, rejected⟩ | ⟨kept, found, _, counted⟩
    · simp [ended] at head
    · cases (live_eq_some_iff.mp found).1
      rw [rejected] at rest tail
      have later := ih rest tail
      simpa [marks, rejected] using later
    · cases (live_eq_some_iff.mp found).1
      rw [counted] at rest tail
      have later := ih rest tail
      simp [marks, counted] at later ⊢
      omega

theorem passed_segment (positive : 1 ≤ limit.max) (bounded : Bounded limit window)
    (unopened : ∀ mark ∈ (marks limit window times).tail, mark.opened = false) :
    ((marks limit window times).countP Mark.passed : Int) ≤ limit.max := by
  cases times with
  | nil =>
    simp only [marks, List.countP_nil]
    omega
  | cons now later =>
    have remaining := passed_unopened (bounded.hit positive now) unopened
    rw [marks]
    rcases hit_cases limit now window with
      ⟨_, opened⟩ | ⟨kept, found, _, rejected⟩ | ⟨kept, found, _, counted⟩
    · simp [opened] at remaining ⊢
      omega
    · have atLeast := (bounded kept (live_eq_some_iff.mp found).1).1
      simp [rejected] at remaining ⊢
      omega
    · have atLeast := (bounded kept (live_eq_some_iff.mp found).1).1
      simp [counted] at remaining ⊢
      omega

theorem forall_mem_of_pairwise {later : List Int} (ordered : (now :: later).Pairwise (· ≤ ·))
    (late : last < now) : ∀ time ∈ now :: later, last < time := by
  intro time member
  rcases List.mem_cons.mp member with same | member
  · omega
  · have after := List.rel_of_pairwise_cons ordered member
    omega

theorem passedIn_late (limit : Limit) (window : Option Window) (first : Int)
    (late : ∀ time ∈ times, last < time) :
    (marks limit window times).countP (passedIn first last) = 0 := by
  rw [List.countP_eq_zero]
  intro mark member passed
  have time : mark.time ∈ times := by
    rw [← map_time_marks limit window times]
    exact List.mem_map_of_mem member
  have after := late mark.time time
  simp [passedIn] at passed
  omega

theorem passedIn_cons_le (limit : Limit) (window : Option Window) (first last now : Int)
    (later : List Int) :
    (marks limit window (now :: later)).countP (passedIn first last) ≤
      (marks limit (some (hit limit now window).1) later).countP (passedIn first last) +
        (hit limit now window).2.toNat := by
  rw [marks, List.countP_cons]
  cases through : (hit limit now window).2 with
  | false => simp [passedIn]
  | true =>
    split
    · exact Nat.le_refl _
    · exact Nat.le_succ _

theorem passedIn_running (first : Int) (bounded : Bounded limit (some current))
    (runs : last ≤ current.resetTime) (ordered : times.Pairwise (· ≤ ·)) :
    current.hits + ((marks limit (some current) times).countP (passedIn first last) : Nat) ≤
      limit.max := by
  induction times generalizing current with
  | nil =>
    have room := (bounded current rfl).2
    simp [marks, room]
  | cons now later ih =>
    obtain ⟨atLeast, atMost⟩ := bounded current rfl
    have rest := bounded.hit (Int.le_trans atLeast atMost) now
    by_cases late : last < now
    · have uncounted := passedIn_late limit (some current) first
        (forall_mem_of_pairwise ordered late)
      omega
    have count := passedIn_cons_le limit (some current) first last now later
    rcases hit_cases limit now (some current) with
      ⟨ended, _⟩ | ⟨kept, found, _, rejected⟩ | ⟨kept, found, _, counted⟩
    · have expired := over_of_live ended
      omega
    · cases (live_eq_some_iff.mp found).1
      rw [rejected] at rest count
      have remaining := ih rest runs ordered.of_cons
      simp only [Bool.toNat_false] at count remaining
      omega
    · cases (live_eq_some_iff.mp found).1
      rw [counted] at rest count
      have remaining := ih rest runs ordered.of_cons
      simp only [Bool.toNat_true] at count remaining
      omega

/-- At most one window opens in the interval, and one was open before. -/
theorem passedIn_started (positive : 1 ≤ limit.max) (bounded : Bounded limit window)
    (short : last ≤ first + limit.duration) (started : ∀ time ∈ times, first ≤ time)
    (ordered : times.Pairwise (· ≤ ·)) :
    used window + ((marks limit window times).countP (passedIn first last) : Nat) ≤
      2 * limit.max := by
  induction times generalizing window with
  | nil =>
    have room := bounded.used_le positive
    simp only [marks, List.countP_nil]
    omega
  | cons now later ih =>
    have room := bounded.used_le positive
    have rest := bounded.hit positive now
    have begun := started now List.mem_cons_self
    have restStarted := fun time member => started time (List.mem_cons_of_mem now member)
    by_cases late : last < now
    · have uncounted := passedIn_late limit window first
        (forall_mem_of_pairwise ordered late)
      omega
    have count := passedIn_cons_le limit window first last now later
    rcases hit_cases limit now window with
      ⟨_, opened⟩ | ⟨kept, found, _, rejected⟩ | ⟨kept, found, _, counted⟩
    · rw [opened] at rest count
      have runs : last ≤ now + limit.duration := by omega
      have remaining := passedIn_running first rest runs ordered.of_cons
      simp only [Bool.toNat_true] at count remaining
      omega
    · obtain ⟨same, _⟩ := live_eq_some_iff.mp found
      subst same
      rw [rejected] at rest count
      have remaining := ih rest restStarted ordered.of_cons
      simp only [Bool.toNat_false] at count remaining
      omega
    · obtain ⟨same, _⟩ := live_eq_some_iff.mp found
      subst same
      rw [counted] at rest count
      have remaining := ih rest restStarted ordered.of_cons
      simp only [used, Option.elim_some, Bool.toNat_true] at count remaining ⊢
      omega

/-- The hits of one duration, both its ends included, fall in two windows. -/
theorem passedIn_le (first : Int) (positive : 1 ≤ limit.max) (bounded : Bounded limit window)
    (ordered : times.Pairwise (· ≤ ·)) :
    ((marks limit window times).countP (passedIn first (first + limit.duration)) : Int) ≤
      2 * limit.max := by
  induction times generalizing window with
  | nil =>
    simp only [marks, List.countP_nil]
    omega
  | cons now later ih =>
    by_cases early : now < first
    · have remaining := ih (bounded.hit positive now) ordered.of_cons
      have uncounted : passedIn first (first + limit.duration)
          ⟨now, (live now window).isNone, (hit limit now window).2⟩ = false := by
        simp only [passedIn, decide_eq_false_iff_not]
        omega
      rw [marks, List.countP_cons_of_neg (by rw [uncounted]; exact Bool.false_ne_true)]
      exact remaining
    · have started : ∀ time ∈ now :: later, first ≤ time := by
        intro time member
        rcases List.mem_cons.mp member with same | member
        · omega
        · have after := List.rel_of_pairwise_cons ordered member
          omega
      have bound := passedIn_started positive bounded (Int.le_refl _) started ordered
      have unused := bounded.used_nonneg
      omega

end Marks

end FixedWindow
