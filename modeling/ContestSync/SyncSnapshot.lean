/-
A world seen as a reconciliation: the rows a user has in `synced_events` track
the events of one of the user's calendars. Each request that a run of `SyncUser`
makes is related here to the moves of a plan, together with the part of the
world it leaves alone.
-/

import ContestSync.SyncUser
import ContestSync.Reconciliation

namespace ContestSync

open Reconciliation Function

namespace World

def snapshot (world : World) (userID : Int) (calendarID : String) :
    Snapshot String String Event :=
  { tracked := fun contestID =>
      (world.database.syncedEvents.find (userID, contestID)).map SyncedEvent.googleEventID
    shown := (world.accounts userID).shown calendarID }

theorem tracked_eq_some {world : World} {userID : Int} {calendarID contestID eventID : String} :
    (world.snapshot userID calendarID).tracked contestID = some eventID ↔
      { userID := userID, contestID := contestID, googleEventID := eventID } ∈
        world.database.syncedEvents.rows := by
  simp only [snapshot, Option.map_eq_some_iff, Keyed.Table.find_eq_some_iff]
  constructor
  · rintro ⟨row, ⟨member, atKey⟩, rfl⟩
    cases row
    cases atKey
    exact member
  · intro member
    exact ⟨_, ⟨member, rfl⟩, rfl⟩

/-- Every event a user has in `synced_events` carries the id that is computed
for its contest. -/
def Faithful (world : World) (userID : Int) (googleID : String) : Prop :=
  ∀ row ∈ world.database.syncedEvents.rows, row.userID = userID →
    row.googleEventID = generateDeterministicEventID googleID row.contestID

/-- No two contests of the table have the same event id for this user. -/
def EventIDsApart (world : World) (googleID : String) : Prop :=
  Set.InjOn (generateDeterministicEventID googleID)
    {contestID | ∃ contest ∈ world.database.contests.rows, contest.id = contestID}

/-- Time passes, but the start of no contest. -/
def Tick (before after : World) : Prop :=
  ∃ now, after = { before with now := now } ∧ ∀ contest ∈ before.database.contests.rows,
      (now < contest.startTime ↔ before.now < contest.startTime)

end World

/-! ### What a run leaves alone -/

/-- The part of the world that a run for one user and calendar does not change,
except for the status columns of the user. -/
structure Unchanged (userID : Int) (calendarID : String) (before after : World) : Prop where
  contests : after.database.contests = before.database.contests
  future : ∀ contest ∈ before.database.contests.rows,
    (after.now < contest.startTime ↔ before.now < contest.startTime)
  profile : ∀ row, before.database.users.find userID = some row →
    ∃ next, after.database.users.find userID = some next ∧
      scanSyncProfile next = scanSyncProfile row
  timezone : (after.accounts userID).timezone = (before.accounts userID).timezone
  others : ∀ row : SyncedEvent, row.userID ≠ userID →
    (row ∈ after.database.syncedEvents.rows ↔ row ∈ before.database.syncedEvents.rows)
  calendars : ∀ other, other ≠ calendarID →
    (after.accounts userID).events other = (before.accounts userID).events other
  accounts : ∀ other, other ≠ userID → after.accounts other = before.accounts other

namespace Unchanged

variable {userID : Int} {calendarID : String}

theorem of_same {before after : World} (database : after.database = before.database)
    (accounts : after.accounts = before.accounts) (now : after.now = before.now) :
    Unchanged userID calendarID before after := by
  cases before
  cases after
  subst database accounts now
  exact
    { contests := rfl
      future := fun _ _ => Iff.rfl
      profile := fun row found => ⟨row, found, rfl⟩
      timezone := rfl
      others := fun _ _ => Iff.rfl
      calendars := fun _ _ => rfl
      accounts := fun _ _ => rfl }

theorem refl (world : World) : Unchanged userID calendarID world world :=
  .of_same rfl rfl rfl

theorem trans {first middle last : World} (left : Unchanged userID calendarID first middle)
    (right : Unchanged userID calendarID middle last) :
    Unchanged userID calendarID first last :=
  { contests := right.contests.trans left.contests
    future := by
      intro contest member
      have between : contest ∈ middle.database.contests.rows := by
        rw [left.contests]
        exact member
      exact (right.future contest between).trans (left.future contest member)
    profile := by
      intro row found
      obtain ⟨between, foundBetween, sameBetween⟩ := left.profile row found
      obtain ⟨next, foundNext, sameNext⟩ := right.profile between foundBetween
      exact ⟨next, foundNext, sameNext.trans sameBetween⟩
    timezone := right.timezone.trans left.timezone
    others := fun row other => (right.others row other).trans (left.others row other)
    calendars := fun other different =>
      (right.calendars other different).trans (left.calendars other different)
    accounts := fun other different =>
      (right.accounts other different).trans (left.accounts other different) }

theorem setAccount {world : World} {eventID : String} {account : Account}
    (same : Account.SameBut calendarID eventID (world.accounts userID) account) :
    Unchanged userID calendarID world (world.setAccount userID account) :=
  { contests := rfl
    future := fun _ _ => Iff.rfl
    profile := fun row found => ⟨row, found, rfl⟩
    timezone := by simpa [World.setAccount] using same.timezone
    others := fun _ _ => Iff.rfl
    calendars := by
      intro other different
      simpa [World.setAccount] using same.calendars other different
    accounts := by
      intro other different
      simp [World.setAccount, update_of_ne different] }

theorem setDatabase {world : World} {database : Database}
    (contests : database.contests = world.database.contests)
    (profile : ∀ row, world.database.users.find userID = some row →
      ∃ next, database.users.find userID = some next ∧ scanSyncProfile next = scanSyncProfile row)
    (others : ∀ row : SyncedEvent, row.userID ≠ userID →
      (row ∈ database.syncedEvents.rows ↔ row ∈ world.database.syncedEvents.rows)) :
    Unchanged userID calendarID world (world.setDatabase database) :=
  { contests := contests
    future := fun _ _ => Iff.rfl
    profile := profile
    timezone := rfl
    others := others
    calendars := fun _ _ => rfl
    accounts := fun _ _ => rfl }

end Unchanged

/-! ### Requests as moves -/

/-- Any number of requests, seen as moves of a plan. A cancelled event is
invisible to the plan but not to Google, hence `present`. -/
structure Reaches (userID : Int) (calendarID : String) {start : Snapshot String String Event}
    (plan : Plan start) (before after : World) : Prop where
  unchanged : Unchanged userID calendarID before after
  moves : Relation.ReflTransGen plan.Move (before.snapshot userID calendarID)
    (after.snapshot userID calendarID)
  present : ∀ key value, plan.wanted key = some value →
    (before.accounts userID).events calendarID (plan.name key) ≠ none →
      (after.accounts userID).events calendarID (plan.name key) ≠ none

/-- The same for requests that leave Valkey alone. -/
structure Advances (userID : Int) (calendarID : String) {start : Snapshot String String Event}
    (plan : Plan start) (before after : World) : Prop
    extends Reaches userID calendarID plan before after where
  valkey : after.valkey = before.valkey

variable {first middle last before after : World}

section Relations

variable {userID : Int} {calendarID : String} {start : Snapshot String String Event}
  {plan : Plan start}

theorem Reaches.refl (world : World) : Reaches userID calendarID plan world world :=
  ⟨.refl world, .refl, fun _ _ _ present => present⟩

theorem Reaches.trans (left : Reaches userID calendarID plan first middle)
    (right : Reaches userID calendarID plan middle last) :
    Reaches userID calendarID plan first last :=
  { unchanged := left.unchanged.trans right.unchanged
    moves := left.moves.trans right.moves
    present := fun key value wanted present =>
      right.present key value wanted (left.present key value wanted present) }

theorem Reaches.onward (left : Reaches userID calendarID plan first middle)
    (right : Advances userID calendarID plan middle last) :
    Reaches userID calendarID plan first last :=
  left.trans right.toReaches

theorem Reaches.lasts (reaches : Reaches userID calendarID plan before after) :
    plan.Lasts (before.snapshot userID calendarID) (after.snapshot userID calendarID) :=
  Plan.lasts_of_moves reaches.moves

theorem Advances.refl (world : World) : Advances userID calendarID plan world world :=
  ⟨.refl world, rfl⟩

theorem Advances.trans (left : Advances userID calendarID plan first middle)
    (right : Advances userID calendarID plan middle last) :
    Advances userID calendarID plan first last :=
  ⟨left.toReaches.onward right, right.valkey.trans left.valkey⟩

theorem Advances.of_path (path : Relation.ReflTransGen
    (Advances userID calendarID plan) before after) :
    Advances userID calendarID plan before after := by
  induction path with
  | refl => exact .refl before
  | tail _ step ih => exact ih.trans step

theorem Reaches.of_unchanged (unchanged : Unchanged userID calendarID before after)
    (rows : after.database.syncedEvents = before.database.syncedEvents)
    (accounts : after.accounts = before.accounts) :
    Reaches userID calendarID plan before after := by
  have same : after.snapshot userID calendarID = before.snapshot userID calendarID := by
    unfold World.snapshot
    rw [rows, accounts]
  refine ⟨unchanged, ?_, ?_⟩
  · rw [same]
  · intro key value _wanted present
    rw [accounts]
    exact present

theorem Reaches.of_valkey {world : World} (valkey : Valkey) :
    Reaches userID calendarID plan world { world with valkey := valkey } :=
  .of_unchanged (.of_same rfl rfl rfl) rfl rfl

theorem Advances.of_tick (tick : World.Tick before after) :
    Advances userID calendarID plan before after := by
  obtain ⟨now, rfl, future⟩ := tick
  refine ⟨.of_unchanged ?_ rfl rfl, rfl⟩
  exact
    { contests := rfl
      future := future
      profile := fun row found => ⟨row, found, rfl⟩
      timezone := rfl
      others := fun _ _ => Iff.rfl
      calendars := fun _ _ => rfl
      accounts := fun _ _ => rfl }

end Relations

variable {key : String} {event : Event}

section Requests

variable {userID : Int} {calendarID : String} {start : Snapshot String String Event}
  {plan : Plan start} {world : World}

theorem snapshot_setAccount (account : Account) :
    (world.setAccount userID account).snapshot userID calendarID =
      { world.snapshot userID calendarID with shown := account.shown calendarID } := by
  simp [World.snapshot, World.setAccount]

theorem events_setAccount (account : Account) :
    ((world.setAccount userID account).accounts userID).events = account.events := by
  simp [World.setAccount]

theorem advances_deleteEvent (stale : key ∈ plan.stale) (token : String) :
    Advances userID calendarID plan world
      (world.handle (.deleteEvent userID token calendarID (plan.name key))).1 := by
  have same := Account.sameBut_deleteEvent (world.accounts userID) calendarID (plan.name key)
  refine ⟨⟨Unchanged.setAccount same, ?_, ?_⟩, rfl⟩
  · change Relation.ReflTransGen plan.Move _ ((world.setAccount userID _).snapshot userID _)
    rw [snapshot_setAccount, Account.shown_deleteEvent]
    exact .single (.takeDown key stale)
  · intro other value wanted present
    change ((world.setAccount userID _).accounts userID).events calendarID _ ≠ none
    rw [events_setAccount, same.events _ (plan.name_ne stale wanted)]
    exact present

theorem down_deleteEvent (token eventID : String) :
    ((world.handle (.deleteEvent userID token calendarID eventID)).1.snapshot
      userID calendarID).shown eventID = none := by
  change ((world.setAccount userID _).snapshot userID _).shown eventID = none
  rw [snapshot_setAccount, Account.shown_deleteEvent]
  exact update_self _ _ _

theorem advances_setEvent (wanted : plan.wanted key = some event)
    (confirmed : event.status ≠ .cancelled) :
    Advances userID calendarID plan world (world.setAccount userID
        ((world.accounts userID).setEvent calendarID (plan.name key) (some event))) := by
  refine ⟨⟨Unchanged.setAccount (Account.sameBut_setEvent _ _ (plan.name key) _), ?_, ?_⟩, rfl⟩
  · rw [snapshot_setAccount, Account.shown_setEvent, Option.filter_some,
      if_pos (decide_eq_true confirmed)]
    exact .single (.putUp key event wanted)
  · intro other value _wantedOther present
    rw [events_setAccount]
    by_cases same : plan.name other = plan.name key
    · rw [same, Account.events_setEvent_self]
      exact Option.some_ne_none event
    · rw [Account.events_setEvent_of_ne _ _ same]
      exact present

theorem up_setEvent {eventID : String} (confirmed : event.status ≠ .cancelled) :
    ((world.setAccount userID
        ((world.accounts userID).setEvent calendarID eventID (some event))).snapshot
      userID calendarID).shown eventID = some event := by
  rw [snapshot_setAccount, Account.shown_setEvent, Option.filter_some,
    if_pos (decide_eq_true confirmed)]
  exact update_self _ _ _

theorem insertEvent_wanted (world : World) (userID : Int) (calendarID token : String)
    (wanted : plan.wanted key = some event)
    (named : event.id = plan.name key) (confirmed : event.status ≠ .cancelled) :
    Advances userID calendarID plan world
        (world.handle (.insertEvent userID token calendarID event)).1 ∧
      ((world.handle (.insertEvent userID token calendarID event)).2 = .ok event ∧
          ((world.handle (.insertEvent userID token calendarID event)).1.snapshot
            userID calendarID).shown (plan.name key) = some event ∨
        (world.handle (.insertEvent userID token calendarID event)).2 = .error .conflict ∧
          ((world.handle (.insertEvent userID token calendarID event)).1.accounts
            userID).events calendarID (plan.name key) ≠ none) := by
  have inserted : world.handle (.insertEvent userID token calendarID event) =
      (world.setAccount userID ((world.accounts userID).insertEvent calendarID event).1,
        ((world.accounts userID).insertEvent calendarID event).2) := rfl
  rw [inserted]
  rcases Account.insertEvent_cases (world.accounts userID) calendarID event with
    ⟨_, called⟩ | ⟨present, called⟩
  · rw [called, named]
    exact ⟨advances_setEvent wanted confirmed, Or.inl ⟨rfl, up_setEvent confirmed⟩⟩
  · have same : world.setAccount userID (world.accounts userID) = world := by
      simp [World.setAccount]
    rw [called, same]
    rw [named] at present
    exact ⟨.refl world, Or.inr ⟨rfl, present⟩⟩

theorem updateEvent_wanted (world : World) (userID : Int) (calendarID token : String)
    (wanted : plan.wanted key = some event) (confirmed : event.status ≠ .cancelled) :
    Advances userID calendarID plan world
        (world.handle (.updateEvent userID token calendarID (plan.name key) event)).1 ∧
      ((world.accounts userID).events calendarID (plan.name key) ≠ none →
        (world.handle (.updateEvent userID token calendarID (plan.name key) event)).2 = none) ∧
      ((world.handle (.updateEvent userID token calendarID (plan.name key) event)).2 = none →
        ((world.handle (.updateEvent userID token calendarID (plan.name key) event)).1.snapshot
          userID calendarID).shown (plan.name key) = some event) := by
  have updated : world.handle (.updateEvent userID token calendarID (plan.name key) event) =
      (world.setAccount userID
          ((world.accounts userID).updateEvent calendarID (plan.name key) event).1,
        ((world.accounts userID).updateEvent calendarID (plan.name key) event).2) := rfl
  rw [updated]
  rcases Account.updateEvent_cases (world.accounts userID) calendarID (plan.name key) event with
    ⟨_, called⟩ | ⟨absent, called⟩
  · rw [called]
    exact ⟨advances_setEvent wanted confirmed, fun _ => rfl, fun _ => up_setEvent confirmed⟩
  · have same : world.setAccount userID (world.accounts userID) = world := by
      simp [World.setAccount]
    rw [called, same]
    exact ⟨.refl world, fun present => absurd absent present, nofun⟩

/-! ### Rows -/

theorem tracked_of_rows {row : Option String} (rows : ∀ contestID eventID,
      ⟨userID, contestID, eventID⟩ ∈ after.database.syncedEvents.rows ↔
        if contestID = key then row = some eventID
        else ⟨userID, contestID, eventID⟩ ∈ before.database.syncedEvents.rows) :
    (after.snapshot userID calendarID).tracked =
      update (before.snapshot userID calendarID).tracked key row := by
  funext contestID
  apply Option.ext
  intro eventID
  rw [World.tracked_eq_some, rows]
  by_cases same : contestID = key
  · rw [if_pos same, same, update_self]
  · rw [if_neg same, update_of_ne same, World.tracked_eq_some]

theorem deleteSynced_stale (stale : key ∈ plan.stale)
    (down : (world.snapshot userID calendarID).shown (plan.name key) = none) :
    Advances userID calendarID plan world (world.handle (.deleteSynced userID key)).1 ∧
      ((world.handle (.deleteSynced userID key)).1.snapshot userID calendarID).tracked key =
        none := by
  have tracked : ((world.handle (.deleteSynced userID key)).1.snapshot userID calendarID).tracked =
      update (world.snapshot userID calendarID).tracked key none := by
    apply tracked_of_rows
    intro contestID eventID
    change _ ∈ (world.database.deleteSyncedEvent userID key).syncedEvents.rows ↔ _
    rw [Database.mem_deleteSyncedEvent]
    by_cases same : contestID = key
    · simp [same]
    · simp [same]
  refine ⟨⟨⟨Unchanged.setDatabase rfl (fun row found => ⟨row, found, rfl⟩) ?_, ?_,
    fun _ _ _ present => present⟩, rfl⟩, ?_⟩
  · intro row other
    rw [Database.mem_deleteSyncedEvent]
    exact and_iff_left (fun both => other both.1)
  · have moved : (world.handle (.deleteSynced userID key)).1.snapshot userID calendarID =
        { world.snapshot userID calendarID with
          tracked := update (world.snapshot userID calendarID).tracked key none } :=
      Snapshot.ext tracked rfl
    rw [moved]
    exact .single (.forget key stale down)
  · rw [tracked, update_self]

theorem answer_insertSynced {row : SyncedEvent} (references : world.database.References row) :
    (world.handle (.insertSynced row)).2 = true := by
  obtain ⟨database, inserted⟩ := Database.insertSyncedEvent_some references
  simp only [World.handle, inserted]

/-- Recording a wanted event that is up. A conflict means that it has already
been recorded, since no other row can carry its name. -/
theorem insertSynced_wanted (wanted : plan.wanted key = some event)
    (between : plan.Between (world.snapshot userID calendarID))
    (up : (world.snapshot userID calendarID).shown (plan.name key) = some event)
    (references : world.database.References ⟨userID, key, plan.name key⟩) :
    Advances userID calendarID plan world
        (world.handle (.insertSynced ⟨userID, key, plan.name key⟩)).1 ∧
      ((world.handle (.insertSynced ⟨userID, key, plan.name key⟩)).1.snapshot
        userID calendarID).tracked key = some (plan.name key) := by
  obtain ⟨database, inserted⟩ := Database.insertSyncedEvent_some references
  have served : (world.handle (.insertSynced ⟨userID, key, plan.name key⟩)).1 =
      world.setDatabase database := by
    simp only [World.handle, inserted]
  rw [served]
  rcases Database.insertSyncedEvent_cases inserted with
    ⟨admissible, users, contests, rows⟩ | ⟨conflict, rfl⟩
  · have tracked : ((world.setDatabase database).snapshot userID calendarID).tracked =
        update (world.snapshot userID calendarID).tracked key (some (plan.name key)) := by
      apply tracked_of_rows
      intro contestID eventID
      change _ ∈ database.syncedEvents.rows ↔ _
      rw [rows]
      by_cases same : contestID = key
      · subst same
        have free := admissible.1 ⟨userID, contestID, eventID⟩
        rw [if_pos rfl]
        constructor
        · rintro (member | equal)
          · exact absurd rfl (free member)
          · cases equal
            rfl
        · intro equal
          cases equal
          exact Or.inr rfl
      · simp [same]
    refine ⟨⟨⟨Unchanged.setDatabase contests ?_ ?_, ?_, fun _ _ _ present => present⟩, rfl⟩, ?_⟩
    · intro row found
      rw [users]
      exact ⟨row, found, rfl⟩
    · intro row other
      rw [rows]
      apply or_iff_left
      rintro rfl
      exact other rfl
    · have moved : (world.setDatabase database).snapshot userID calendarID =
          { world.snapshot userID calendarID with
            tracked := update (world.snapshot userID calendarID).tracked key
              (some (plan.name key)) } :=
        Snapshot.ext tracked rfl
      rw [moved]
      exact .single (.record key event wanted up)
    · rw [tracked, update_self]
  · refine ⟨.refl world, ?_⟩
    -- Whichever constraint was violated, the row that violates it is the one wanted here.
    have held : ∃ other, (world.snapshot userID calendarID).tracked key = some other ∨
        (world.snapshot userID calendarID).tracked other = some (plan.name key) := by
      rw [Database.Admissible, not_and_or] at conflict
      push Not at conflict
      rcases conflict with ⟨old, member, same⟩ | ⟨old, member, same⟩
      · obtain ⟨oldUser, oldContest, oldEvent⟩ := old
        cases same
        exact ⟨oldEvent, Or.inl (World.tracked_eq_some.mpr member)⟩
      · obtain ⟨oldUser, oldContest, oldEvent⟩ := old
        cases same
        exact ⟨oldContest, Or.inr (World.tracked_eq_some.mpr member)⟩
    obtain ⟨other, byKey | byName⟩ := held
    · rcases between.wanted key event wanted with absent | present
      · rw [absent] at byKey
        cases byKey
      · exact present.1
    · have same := between.owner wanted byName
      subst same
      exact byName

end Requests

end ContestSync
