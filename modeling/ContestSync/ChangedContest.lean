/-
A contest whose name, URL or end is changed by an extraction keeps its id, and with it
its event. `SyncUser` decides by the id whether anything has to be sent: the event
follows the contest when the run does not take the contest for synced, and otherwise
it stays as it is.
-/

import ContestSync.ContestLists
import ContestSync.FaithfulRows
import ContestSync.ServedRun

namespace ContestSync

open Resumable Program Function

/-! ### The lists and the table -/

/-- The entries of the lists are rows of the table, as they are stored now. -/
structure Stocked (world : World) : Prop extends Shelved world where
  supported : ∀ contest ∈ world.database.contests.rows, contest.platform ∈ platforms
  stored : ∀ platform rows, world.valkey.contests platform = some rows →
    ∀ contest ∈ rows, contest ∈ world.database.contests.rows

namespace Stocked

variable {before after : World}

theorem filled (stocked : Stocked before) (filled : Filled before after) : Stocked after := by
  refine ⟨stocked.toShelved.filled filled, ?_, ?_⟩
  · rw [filled.contests]
    exact stocked.supported
  · intro platform rows hit contest member
    rw [filled.contests]
    rcases filled.lists platform with kept | ⟨filledRows, listed, announced⟩
    · exact stocked.stored platform rows (kept.symm.trans hit) contest member
    · cases listed.symm.trans hit
      exact ((announced contest).mp member).1.1

theorem extracted (stocked : Stocked before) {pruned : Database} {platform : String}
    {contests : List Contest} (supported : platform ∈ platforms)
    (built : Built platform contests)
    (removed : pruned = before.database ∨ pruned =
      before.database.pruneObsolete before.now platform (contests.map Contest.id))
    (table : after.database.contests = (pruned.upsertContests contests).contests)
    (lists : after.valkey.contests = update before.valkey.contests platform none)
    (shelved : Shelved after) : Stocked after := by
  have schemed := Shelved.schemed_of_removed stocked.schemed removed
  have others : ∀ contest : ContestRow, contest.platform ≠ platform →
      (contest ∈ pruned.contests.rows ↔ contest ∈ before.database.contests.rows) := by
    intro contest other
    rcases removed with same | deleted
    · rw [same]
    · rw [deleted, Database.pruneObsolete, Database.mem_deleteContests, decide_eq_false_iff_not]
      exact and_iff_left (fun obsolete => other obsolete.1)
  have kept : ∀ contest : ContestRow, contest.platform ≠ platform →
      (contest ∈ after.database.contests.rows ↔ contest ∈ before.database.contests.rows) := by
    intro contest other
    rw [table, Database.mem_upsertContests_other schemed built other]
    exact others contest other
  refine ⟨shelved, ?_, ?_⟩
  · intro contest member
    by_cases own : contest.platform = platform
    · rw [own]
      exact supported
    · exact stocked.supported contest ((kept contest own).mp member)
  · intro other rows hit contest member
    rw [lists] at hit
    by_cases same : other = platform
    · rw [same, update_self] at hit
      cases hit
    · rw [update_of_ne same] at hit
      have ofOther := stocked.own other rows hit contest member
      refine (kept contest ?_).mpr (stocked.stored other rows hit contest member)
      rw [ofOther]
      exact same

theorem relisted (stocked : Stocked before) (relisted : Relisted before after) :
    Stocked after := by
  have shelved := stocked.toShelved.relisted relisted
  cases relisted with
  | filled filled => exact stocked.filled filled
  | passed lapse =>
    refine ⟨shelved, ?_, ?_⟩
    · rw [lapse.database]
      exact stocked.supported
    · intro platform rows hit
      rw [lapse.database]
      rcases lapse.contests platform with same | expired
      · exact stocked.stored platform rows (same.symm.trans hit)
      · cases expired.symm.trans hit
  | ended contests now lists dropped =>
    refine ⟨shelved, ?_, ?_⟩
    · rw [contests]
      exact fun contest member =>
        stocked.supported contest (Database.mem_deleteContests.mp member).1
    · intro platform rows hit contest member
      -- The list of a supported platform was dropped, and no row has another platform.
      rcases lists platform with same | none
      · have listed := same.symm.trans hit
        have known := stocked.supported contest (stocked.stored platform rows listed contest member)
        rw [stocked.own platform rows listed contest member] at known
        cases (dropped platform known).symm.trans hit
      · cases none.symm.trans hit
  | @extracted pruned platform contests supported built removed table now lists =>
    exact stocked.extracted supported built removed table lists shelved

end Stocked

variable {syncer : Syncer} {first world : World}

structure Event.Shows (event : Event) (contest : ContestRow) : Prop where
  summary : event.summary = "[" ++ contest.platform ++ "] " ++ contest.name
  description : event.description = "Platform: " ++ contest.platform ++ "\nURL: " ++ contest.url ++
    "\n\nSynced by ContestSync"
  location : event.location = contest.url
  start : event.start.dateTime = contest.startTime
  finish : event.finish.dateTime = contest.endTime

def Account.Displays (account : Account) (calendarID eventID : String) (contest : ContestRow) :
    Prop :=
  ∃ event, account.shown calendarID eventID = some event ∧ event.Shows contest

/-- A run in `ready` for a contest that it has to process. -/
structure Due (syncer : Syncer) (userID : Int) (ready : World) (user : CachedUser)
    (goal : Target) (contest : ContestRow) : Prop where
  targeted : target user (ready.accounts userID) = some goal
  faithful : ready.Faithful userID user.googleID
  free : ∀ other ∈ ready.database.contests.rows,
    generateDeterministicEventID user.googleID other.id =
      generateDeterministicEventID user.googleID contest.id → other.id = contest.id
  listed : contest ∈ ready.database.contests.rows
  chosen : contest.platform ∈ user.platforms.getD []
  loaded : ready.Loads syncer.valkey (user.platforms.getD []) contest
  stored : ∀ other, ready.Loads syncer.valkey (user.platforms.getD []) other →
    other ∈ ready.database.contests.rows

/-- The contest, its row and its event are as they were when the run got its target. -/
structure Waiting (userID : Int) (ready : World) (user : CachedUser) (goal : Target)
    (contest : ContestRow) (state : World) : Prop where
  contests : state.database.contests = ready.database.contests
  now : state.now = ready.now
  contestsCache : state.valkey.contests = ready.valkey.contests
  syncedCache : state.valkey.syncedEvents = ready.valkey.syncedEvents
  tracked : ∀ row ∈ state.database.syncedEvents.rows, row ∈ ready.database.syncedEvents.rows
  synced : contest.id ∈ state.database.selectSynced userID ↔
    contest.id ∈ ready.database.selectSynced userID
  shown : (state.accounts userID).shown goal.calendarID
      (generateDeterministicEventID user.googleID contest.id) =
    goal.account.shown goal.calendarID (generateDeterministicEventID user.googleID contest.id)

structure EventFollows (syncer : Syncer) (userID : Int) (ready : World) (user : CachedUser)
    (goal : Target) (contest : ContestRow) (state : World) : Prop where
  skipped : contest.id ∈ ready.readSynced syncer.valkey userID →
    (state.accounts userID).shown goal.calendarID
        (generateDeterministicEventID user.googleID contest.id) =
      goal.account.shown goal.calendarID (generateDeterministicEventID user.googleID contest.id)
  written : contest.id ∉ ready.readSynced syncer.valkey userID →
    (state.accounts userID).Displays goal.calendarID
      (generateDeterministicEventID user.googleID contest.id) contest

section Run

variable {syncer : Syncer} {userID : Int} {ready state : World} {user : CachedUser} {goal : Target}
  {contest : ContestRow} {token timezone : String}

theorem Due.apart (due : Due syncer userID ready user goal contest)
    (waiting : Waiting userID ready user goal contest state) {item : Tracked}
    (member : item ∈ state.database.selectTracked userID)
    (unselected : item.platform ∉ user.platforms.getD []) :
    item.contestID ≠ contest.id ∧
      generateDeterministicEventID user.googleID contest.id ≠ item.googleEventID := by
  obtain ⟨tracked, other, listed, sameID, platform⟩ := Database.mem_selectTracked.mp member
  rw [waiting.contests] at listed
  have different : item.contestID ≠ contest.id := by
    intro same
    rw [Keyed.Table.row_eq_of_key listed due.listed (sameID.trans same)] at platform
    rw [← platform] at unselected
    exact unselected due.chosen
  refine ⟨different, ?_⟩
  intro same
  have computed : item.googleEventID = generateDeterministicEventID user.googleID item.contestID :=
    due.faithful _ (waiting.tracked _ tracked) rfl
  rw [computed, ← sameID] at same
  exact different (sameID.symm.trans (due.free other listed same.symm))

variable {calendarID : String} {later : World} {synced : List String} {request : Request}

theorem Waiting.deleteEvent (waiting : Waiting userID ready user goal contest state)
    {eventID : String} (other : generateDeterministicEventID user.googleID contest.id ≠ eventID) :
    Waiting userID ready user goal contest
      (state.handle (.deleteEvent userID token calendarID eventID)).1 := by
  have shown : ((state.handle (.deleteEvent userID token calendarID eventID)).1.accounts
      userID) = ((state.accounts userID).deleteEvent calendarID eventID).1 :=
    update_self _ _ _
  refine { waiting with shown := ?_ }
  rw [shown, (Account.sameBut_deleteEvent _ calendarID eventID).shown other]
  exact waiting.shown

theorem Waiting.deleteSynced (waiting : Waiting userID ready user goal contest state)
    {contestID : String} (other : contestID ≠ contest.id) :
    Waiting userID ready user goal contest (state.handle (.deleteSynced userID contestID)).1 := by
  refine { waiting with tracked := ?_, synced := ?_ }
  · exact fun row member =>
      waiting.tracked row (Database.mem_deleteSyncedEvent.mp member).1
  · rw [← waiting.synced, Database.mem_selectSynced, Database.mem_selectSynced]
    refine exists_congr (fun eventID => Database.mem_deleteSyncedEvent.trans (and_iff_left ?_))
    exact fun same => other same.2.symm

theorem Waiting.readSynced (waiting : Waiting userID ready user goal contest state) :
    contest.id ∈ state.readSynced syncer.valkey userID ↔
      contest.id ∈ ready.readSynced syncer.valkey userID := by
  unfold World.readSynced
  rw [waiting.syncedCache]
  cases (if syncer.valkey then ready.valkey.syncedEvents userID else none) with
  | none => exact waiting.synced
  | some listed => exact Iff.rfl

theorem Waiting.loads (waiting : Waiting userID ready user goal contest state)
    (contests : later.database = state.database) (now : later.now = state.now)
    (lists : later.valkey.contests = state.valkey.contests) (selected : List String)
    (other : ContestRow) :
    later.Loads syncer.valkey selected other ↔ ready.Loads syncer.valkey selected other := by
  unfold World.Loads World.list World.Announces
  rw [contests, now, lists, waiting.contests, waiting.now, waiting.contestsCache]

/-! ### Putting events up -/

def Answered (userID : Int) (calendarID : String) (event : Event) (state : World)
    (result : Except GoogleError Syncer.InsertExit) (later : World) : Prop :=
  (∃ created, result = .ok (.created created) ∧ later.accounts userID =
      (state.accounts userID).setEvent calendarID event.id (some event)) ∨
    ∃ error, result = .ok (.conflict error) ∧
      (state.accounts userID).events calendarID event.id ≠ none ∧
      later.accounts userID = state.accounts userID

theorem EventFollows.accounts (followed : EventFollows syncer userID ready user goal contest state)
    (same : later.accounts = state.accounts) :
    EventFollows syncer userID ready user goal contest later := by
  refine ⟨?_, ?_⟩
  · rw [same]
    exact followed.skipped
  · rw [same]
    exact followed.written

theorem Directed.waiting {valkey : Bool} (directed : Directed valkey userID user state goal later)
    (alike : Alike false userID ready state) :
    Waiting userID ready user goal contest later := by
  have kept := alike.toRowsKept.trans directed.toRowsKept
  refine ⟨kept.contests, kept.now, kept.contestsCache, kept.syncedCache, ?_, ?_, ?_⟩
  · rw [kept.syncedEvents]
    exact fun _ member => member
  · unfold Database.selectSynced
    rw [kept.syncedEvents]
  · rw [directed.account]

end Run

/-! ### A contest that has changed -/

end ContestSync
