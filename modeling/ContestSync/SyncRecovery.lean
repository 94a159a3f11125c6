/-
Crash and retry. Runs of `SyncUser` without a cache that are cut off anywhere,
or in which the calls that write events and rows fail, are repaired by the next
run: what they leave behind is a point on the way of one plan, and a plan has
only one end.
-/

import ContestSync.SyncConvergence

namespace ContestSync

open Reconciliation Resumable

/-! ### Runs without a usable token -/

/-- The plan of a run that ends before its first call to Google. -/
def idlePlan (initial : Snapshot String String Event) : Plan initial :=
  { stale := ∅
    wanted := fun _ => none
    name := fun contestID => contestID
    tracked_of_stale := by intro key impossible; cases impossible
    untracked_of_wanted := by intro key value impossible; cases impossible
    apart := fun _ _ _ _ same => same
    unclaimed := by intro key value impossible; cases impossible }

theorem idlePlan_complete (initial state : Snapshot String String Event) :
    (idlePlan initial).Complete state :=
  { forgotten := by intro key impossible; cases impossible
    recorded := by intro key value impossible; cases impossible }

variable {userID : Int} {calendarID : String} {start : World} {row : UserRow} {syncer : Syncer}
  {plan : Plan (start.snapshot userID calendarID)}

theorem stably_idle {world : World} {admits : environment.Admits}
    (tolerable : ∀ request outcome, admits request outcome → Tolerable request outcome)
    (uncached : syncer.valkey = false) (stored : start.database.users.find userID = some row)
    (refused : ∀ user, scanSyncProfile row = some user →
      syncer.decryptToken user.refreshToken = none)
    (started : Reaches userID calendarID (idlePlan (start.snapshot userID calendarID))
      start world) (free : (syncer.process, userID) ∉ world.syncing) :
    Stably (runContract userID calendarID (idlePlan (start.snapshot userID calendarID))
        admits syncer.process)
      (Finished userID calendarID (idlePlan (start.snapshot userID calendarID)) admits
        syncer.process (fun _ => True))
      (syncer.syncUser userID) world := by
  have hosts : Hosts userID calendarID (idlePlan (start.snapshot userID calendarID))
      syncer.process _ := runContract_hosts tolerable
  apply stably_syncUser hosts uncached free
  intro ready further
  refine (ensures_loadProfile hosts uncached stored (started.onward further)).then ?_
  rintro _ loaded ⟨_, rfl⟩
  cases scanned : scanSyncProfile row with
  | none => exact ⟨trivial, fun _ => idlePlan_complete _ _⟩
  | some user =>
    apply ensures_syncLoaded hosts uncached
    intro marked _marking
    unfold Syncer.syncProfile
    rw [refused user scanned]
    exact ⟨trivial, fun _ => idlePlan_complete _ _⟩

/-! ### One plan for all runs -/

/-- Runs of this user, by any process with the same key, carry out the plan
from wherever it has been left. -/
structure CarriedOut (decryptToken : String → Option String) (userID : Int)
    (calendarID : String) (start : World) (plan : Plan (start.snapshot userID calendarID)) :
    Prop where
  stably : ∀ syncer : Syncer, syncer.valkey = false → syncer.decryptToken = decryptToken →
    ∀ admits : environment.Admits,
      (∀ request outcome, admits request outcome → Tolerable request outcome) →
      ∀ world, Reaches userID calendarID plan start world →
        (syncer.process, userID) ∉ world.syncing →
        Stably (runContract userID calendarID plan admits syncer.process)
          (Finished userID calendarID plan admits syncer.process (fun _ => True))
          (syncer.syncUser userID) world
  wanted : ∀ contestID event, plan.wanted contestID = some event →
    ∃ row contest timezone, start.database.users.find userID = some row ∧
      contest ∈ start.database.contests.rows ∧ contest.id = contestID ∧
      plan.name contestID = generateDeterministicEventID row.googleID contestID ∧
      event = contestEvent row.googleID timezone contest

theorem exists_carriedOut (decryptToken : String → Option String)
    (stored : start.database.users.find userID = some row)
    (determined : ∀ user, scanSyncProfile row = some user →
      determinedCalendar user = some calendarID) (faithful : start.Faithful userID row.googleID)
    (apart : start.EventIDsApart row.googleID) :
    ∃ plan, CarriedOut decryptToken userID calendarID start plan := by
  by_cases refused : ∀ user, scanSyncProfile row = some user → decryptToken user.refreshToken = none
  · refine ⟨idlePlan _, ⟨?_, ?_⟩⟩
    · intro syncer uncached sameKey admits tolerable world started free
      refine stably_idle tolerable uncached stored ?_ started free
      rw [sameKey]
      exact refused
    · intro contestID event impossible
      cases impossible
  · push Not at refused
    obtain ⟨user, scanned, accepted⟩ := refused
    obtain ⟨token, decrypts⟩ := Option.ne_none_iff_exists'.mp accepted
    have sameID := googleID_of_scanSyncProfile scanned
    let setting : Setting :=
      { userID, start, row, user, calendarID, stored
        profile := scanned
        determined := determined user scanned
        faithful := sameID ▸ faithful
        apart := sameID ▸ apart }
    refine ⟨setting.plan, ⟨?_, ?_⟩⟩
    · intro syncer uncached sameKey admits tolerable world started free
      rw [← sameKey] at decrypts
      intro later allowed
      refine Ensures.mono ?_
        (setting.stably_run (runContract_hosts tolerable) uncached decrypts started free later
          allowed)
      rintro result last ⟨_, finished⟩
      exact ⟨trivial, finished⟩
    · intro contestID event wanted
      obtain ⟨_, contest, upcoming, atID, built⟩ := setting.wanted_eq_some.mp wanted
      refine ⟨row, contest, setting.timezone, stored, upcoming.1, atID, ?_, ?_⟩
      · change generateDeterministicEventID user.googleID contestID = _
        rw [sameID]
      · rw [← built, ← sameID]

theorem same_of_settled {first second : World}
    (toFirst : Reaches userID calendarID plan start first)
    (toSecond : Reaches userID calendarID plan start second)
    (firstSettled : plan.Settled (first.snapshot userID calendarID))
    (secondSettled : plan.Settled (second.snapshot userID calendarID)) :
    (∀ row, row ∈ first.database.syncedEvents.rows ↔ row ∈ second.database.syncedEvents.rows) ∧
      ∀ calendar eventID, (first.accounts userID).shown calendar eventID =
        (second.accounts userID).shown calendar eventID := by
  have same := firstSettled.unique secondSettled
  constructor
  · rintro ⟨rowUser, contestID, eventID⟩
    by_cases ours : rowUser = userID
    · subst ours
      rw [← World.tracked_eq_some, ← World.tracked_eq_some, same]
    · exact (toFirst.unchanged.others _ ours).trans (toSecond.unchanged.others _ ours).symm
  · intro calendar eventID
    by_cases target : calendar = calendarID
    · subst target
      exact congrFun (congrArg Snapshot.shown same) eventID
    · unfold Account.shown
      rw [toFirst.unchanged.calendars calendar target, toSecond.unchanged.calendars calendar target]

/-! ### Attempts -/

/-- A crash: what the process held in memory is gone. -/
def World.restart (world : World) (process : Nat) : World :=
  { world with syncing := world.syncing.filter (fun held => held.1 ≠ process) }

/-- Any number of runs, each of them finished or cut off, in which calls may
fail. A run that is cut off takes its process with it. -/
inductive Attempts (syncer : Syncer) (userID : Int) : World → World → Prop where
  | none (world : World) : Attempts syncer userID world world
  | finished {first middle last : World} {result : Except SyncError Unit}
      (earlier : Attempts syncer userID first middle)
      (run : Steps environment Tolerable World.Tick middle (syncer.syncUser userID) last
        (.done result)) :
      Attempts syncer userID first last
  | cutOff {first middle last : World} {residue : Program service (Except SyncError Unit)}
      (earlier : Attempts syncer userID first middle)
      (run : Steps environment Tolerable World.Tick middle (syncer.syncUser userID) last residue) :
      Attempts syncer userID first (last.restart syncer.process)

theorem Attempts.reaches {tried : World}
    (carried : CarriedOut syncer.decryptToken userID calendarID start plan)
    (uncached : syncer.valkey = false) (free : (syncer.process, userID) ∉ start.syncing)
    (attempts : Attempts syncer userID start tried) :
    Reaches userID calendarID plan start tried ∧ (syncer.process, userID) ∉ tried.syncing := by
  induction attempts with
  | none => exact ⟨.refl start, free⟩
  | finished earlier run ih =>
    obtain ⟨reached, stillFree⟩ := ih
    have stably := carried.stably syncer uncached rfl Tolerable (fun _ _ admitted => admitted)
      _ reached stillFree
    obtain ⟨onward, ends⟩ := reaches_of_steps stably reached run
    obtain ⟨_, released, _⟩ := ends _ rfl
    exact ⟨onward, released⟩
  | cutOff earlier run ih =>
    obtain ⟨reached, stillFree⟩ := ih
    have stably := carried.stably syncer uncached rfl Tolerable (fun _ _ admitted => admitted)
      _ reached stillFree
    obtain ⟨onward, _⟩ := reaches_of_steps stably reached run
    refine ⟨onward.onward (advances_syncing _), ?_⟩
    intro held
    have kept := (List.mem_filter.mp held).2
    simp at kept

theorem syncUser_after_attempts (syncer : Syncer) (userID : Int) (start tried : World)
    (row : UserRow) (uncached : syncer.valkey = false)
    (free : (syncer.process, userID) ∉ start.syncing)
    (stored : start.database.users.find userID = some row)
    (primary : row.useDedicated = false)
    (faithful : start.Faithful userID row.googleID)
    (apart : start.EventIDsApart row.googleID)
    (attempts : Attempts syncer userID start tried) :
    (∃ last result, Steps environment served World.Tick tried (syncer.syncUser userID) last
        (.done result)) ∧
      ∀ last result single singleResult,
        Steps environment served World.Tick tried (syncer.syncUser userID) last (.done result) →
        Steps environment served World.Tick start (syncer.syncUser userID) single
          (.done singleResult) →
        (∀ row, row ∈ last.database.syncedEvents.rows ↔ row ∈ single.database.syncedEvents.rows) ∧
        ∀ calendarID eventID, (last.accounts userID).shown calendarID eventID =
          (single.accounts userID).shown calendarID eventID := by
  have determined : ∀ user, scanSyncProfile row = some user →
      determinedCalendar user = some "primary" := by
    intro user scanned
    unfold scanSyncProfile at scanned
    obtain ⟨token, _, rfl⟩ := Option.map_eq_some_iff.mp scanned
    unfold determinedCalendar
    rw [primary]
    rfl
  obtain ⟨plan, carried⟩ := exists_carriedOut syncer.decryptToken stored determined faithful apart
  obtain ⟨reached, stillFree⟩ := attempts.reaches carried uncached free
  refine ⟨⟨_, _, complete_served (syncer.syncUser userID) tried⟩, ?_⟩
  intro last result single singleResult run singleRun
  obtain ⟨toLast, lastEnds⟩ := reaches_of_steps
    (carried.stably syncer uncached rfl served served_tolerable tried reached stillFree)
    reached run
  obtain ⟨toSingle, singleEnds⟩ := reaches_of_steps
    (carried.stably syncer uncached rfl served served_tolerable start (.refl start) free)
    (.refl start) singleRun
  exact same_of_settled toLast toSingle ((lastEnds _ rfl).2.2 served_faultless)
    ((singleEnds _ rfl).2.2 served_faultless)

/-- Every call that may fail takes effect and then reports an error. -/
def unreliable (_world : World) (request : Request) : Outcome :=
  if request.fragile then
    .late { code := some 503, message := "googleapi: Error 503: Service Unavailable" }
  else .served

theorem unreliable_tolerable (world : World) (request : Request) :
    Tolerable request (unreliable world request) := by
  unfold unreliable
  split
  · rename_i fragile
    exact Or.inr ⟨fragile, by decide +kernel⟩
  · exact Or.inl rfl

theorem syncUser_after_unreliable_run :
    ∃ tried last single, ∃ result singleResult, Attempts sampleSyncer 1 sampleWorld tried ∧
      Steps environment served World.Tick tried (sampleSyncer.syncUser 1) last (.done result) ∧
      Steps environment served World.Tick sampleWorld (sampleSyncer.syncUser 1) single
        (.done singleResult) ∧
      ∀ row, row ∈ last.database.syncedEvents.rows ↔ row ∈ single.database.syncedEvents.rows := by
  have attempts := Attempts.finished (.none sampleWorld) (complete_steps environment Tolerable
    World.Tick unreliable unreliable_tolerable (sampleSyncer.syncUser 1) sampleWorld)
  obtain ⟨⟨last, result, run⟩, same⟩ := syncUser_after_attempts sampleSyncer 1 sampleWorld _
    sampleRow rfl (by decide) (by decide) rfl sampleWorld_faithful sampleWorld_apart attempts
  have singleRun := complete_served (sampleSyncer.syncUser 1) sampleWorld
  exact ⟨_, last, _, result, _, attempts, run, singleRun, (same _ _ _ _ run singleRun).1⟩

end ContestSync
