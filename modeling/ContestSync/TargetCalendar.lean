/-
Where the tracked events of a user are. A row of `synced_events` does not say in
which calendar its event is; `SyncUser` looks in the calendar that the columns of
the user name at that moment. The rows stay true as long as the target does not
move away from under them: it moves when `SavePreferences` switches the kind of
calendar, and when `SyncUser` creates a dedicated calendar.
-/

import ContestSync.Histories
import ContestSync.Footprints

namespace ContestSync

open Resumable Program Function Database

/-- The calendar that `SyncUser` targets, as far as it is determined. -/
def UserRow.target (row : UserRow) : String :=
  if row.useDedicated = true ∧ row.calendarID.getD "" ≠ "" ∧ row.calendarID.getD "" ≠ "primary" then
    row.calendarID.getD ""
  else "primary"

/-- A run has to create the dedicated calendar first. -/
def UserRow.lacksCalendar (row : UserRow) : Prop :=
  row.useDedicated = true ∧ ¬(row.calendarID.getD "" ≠ "" ∧ row.calendarID.getD "" ≠ "primary")

variable {row : UserRow}

theorem UserRow.target_of_lacksCalendar (lacks : row.lacksCalendar) :
    row.target = "primary" := by
  unfold UserRow.target
  rw [if_neg]
  exact fun named => lacks.2 named.2

namespace World

/-- Every row of the user names an event that is in the target calendar. -/
def InTarget (world : World) (userID : Int) : Prop :=
  ∀ user, world.database.users.find userID = some user →
    ∀ row ∈ world.database.syncedEvents.rows, row.userID = userID →
      (world.accounts userID).shown user.target row.googleEventID ≠ none

def Untracked (world : World) (userID : Int) : Prop :=
  ∀ row ∈ world.database.syncedEvents.rows, row.userID ≠ userID

/-- The profile names the same calendar as the row of the user. -/
def Matches (world : World) (userID : Int) (user : CachedUser) : Prop :=
  ∀ row, world.database.users.find userID = some row →
    user.useDedicated = row.useDedicated ∧ user.calendarID = row.calendarID.getD ""

def Remembers (world : World) (userID : Int) : Prop :=
  ∀ user, world.valkey.users userID = some user → world.Matches userID user

instance (world : World) (userID : Int) : Decidable (world.InTarget userID) :=
  match found : world.database.users.find userID with
  | none => isTrue (by
      intro user stored
      cases found.symm.trans stored)
  | some user =>
    decidable_of_iff (∀ row ∈ world.database.syncedEvents.rows, row.userID = userID →
      (world.accounts userID).shown user.target row.googleEventID ≠ none) (by
    unfold InTarget
    rw [found]
    simp only [Option.some.injEq, forall_eq'])

end World

/-! ### What moves neither the target nor an event -/

structure Unmoved (userID : Int) (before after : World) : Prop where
  stored : ∀ row, after.database.users.find userID = some row →
    ∃ old, before.database.users.find userID = some old ∧
      row.useDedicated = old.useDedicated ∧ row.calendarID = old.calendarID
  tracked : ∀ row ∈ after.database.syncedEvents.rows, row.userID = userID →
    row ∈ before.database.syncedEvents.rows
  shown : ∀ calendarID eventID, (before.accounts userID).shown calendarID eventID ≠ none →
    (after.accounts userID).shown calendarID eventID ≠ none
  cached : after.valkey.users userID = before.valkey.users userID ∨ after.valkey.users userID = none

namespace Unmoved

variable {userID : Int} {before after world : World}

theorem of_sameFor (same : SameFor userID before after) : Unmoved userID before after := by
  refine ⟨?_, same.tracked, ?_, Or.inl same.profile⟩
  · rw [same.stored]
    exact fun row found => ⟨row, found, rfl, rfl⟩
  · rw [same.account]
    exact fun _ _ visible => visible

theorem setDatabase {database : Database} (stored : ∀ row, database.users.find userID = some row →
      ∃ old, world.database.users.find userID = some old ∧
        row.useDedicated = old.useDedicated ∧ row.calendarID = old.calendarID)
    (tracked : ∀ row ∈ database.syncedEvents.rows, row.userID = userID →
      row ∈ world.database.syncedEvents.rows) :
    Unmoved userID world (world.setDatabase database) :=
  ⟨stored, tracked, fun _ _ visible => visible, Or.inl rfl⟩

theorem updateUser {change : Database.UserChange}
    (keeps : ∀ row, (change.apply row).useDedicated = row.useDedicated ∧
      (change.apply row).calendarID = row.calendarID) :
    Unmoved userID world (world.setDatabase (world.database.updateUser userID change)) := by
  refine .setDatabase ?_ (fun row member _ => member)
  intro row found
  rw [find_updateUser, if_pos rfl] at found
  obtain ⟨old, foundOld, rfl⟩ := Option.map_eq_some_iff.mp found
  exact ⟨old, foundOld, keeps old⟩

theorem setAccount {account : Account}
    (shown : ∀ calendarID eventID, (world.accounts userID).shown calendarID eventID ≠ none →
      account.shown calendarID eventID ≠ none) :
    Unmoved userID world (world.setAccount userID account) := by
  refine ⟨fun row found => ⟨row, found, rfl, rfl⟩, fun row member _ => member, ?_, Or.inl rfl⟩
  intro calendarID eventID visible
  change ((update world.accounts userID account) userID).shown calendarID eventID ≠ none
  rw [update_self]
  exact shown calendarID eventID visible

end Unmoved

/-- The requests of a user's own operations that may move something. -/
def Request.moves : Request → Bool
  | .setCachedUser _ _ => true
  | .setCalendarID _ _ => true
  | .updatePreferences _ _ _ => true
  | .insertSynced _ => true
  | .insertCalendar _ _ _ => true
  | .insertEvent _ _ _ _ => true
  | .updateEvent _ _ _ _ _ => true
  | .deleteEvent _ _ _ _ => true
  | _ => false

variable {request : Request}

theorem unmoved_handle {userID : Int} (world : World)
    (own : request.ofUser userID) (calm : request.moves = false) :
    Unmoved userID world (world.handle request).1 := by
  have frame := frame_handle world request
  cases request <;> cases own <;> cases calm
  case deleteCachedUser =>
    exact ⟨fun row found => ⟨row, found, rfl, rfl⟩, fun row member _ => member,
      fun _ _ visible => visible, Or.inr (update_self userID _ _)⟩
  case markSyncing => exact .updateUser (fun _ => ⟨rfl, rfl⟩)
  case markSynced status => exact .updateUser (fun _ => ⟨rfl, rfl⟩)
  case deleteUser rejected =>
    refine .setDatabase ?_ (fun row member _ => (Keyed.Table.mem_delete.mp member).1)
    intro row found
    rw [find_deleteUsers] at found
    exact ⟨row, (Option.filter_eq_some_iff.mp found).1, rfl, rfl⟩
  case deleteSynced contestID =>
    exact .setDatabase (fun row found => ⟨row, found, rfl, rfl⟩)
      (fun row member _ => (mem_deleteSyncedEvent.mp member).1)
  all_goals exact .of_sameFor (frame.sameFor rfl rfl rfl rfl userID)

/-! ### The assertions of a run -/

/-- What holds between two operations. -/
structure Located (valkey : Bool) (userID : Int) (world : World) : Prop where
  inTarget : world.InTarget userID
  remembers : valkey = true → world.Remembers userID

/-- What holds before a run: a calendar is only created for a user without rows. -/
structure Ready (valkey : Bool) (userID : Int) (remote : Request → Outcome → Prop)
    (world : World) : Prop extends Located valkey userID world where
  unburdened : ∀ row, world.database.users.find userID = some row → row.lacksCalendar →
    ∀ token timezone, remote (.insertCalendar userID token timezone) .served →
      world.Untracked userID

/-- What holds in a run that has chosen its calendar. -/
structure Aimed (valkey : Bool) (userID : Int) (calendarID : String) (world : World) : Prop where
  remembers : valkey = true → world.Remembers userID
  aimed : ∀ row, world.database.users.find userID = some row → row.target = calendarID
  shown : ∀ row ∈ world.database.syncedEvents.rows, row.userID = userID →
    (world.accounts userID).shown calendarID row.googleEventID ≠ none

variable {user : CachedUser}

section Assertions

variable {valkey : Bool} {userID : Int} {calendarID : String} {before after world : World}
  {remote : Request → Outcome → Prop}

theorem World.Matches.unmoved (same : before.Matches userID user)
    (unmoved : Unmoved userID before after) : after.Matches userID user := by
  intro row found
  obtain ⟨old, foundOld, dedicated, calendar⟩ := unmoved.stored row found
  rw [dedicated, calendar]
  exact same old foundOld

theorem World.Remembers.unmoved (remembers : before.Remembers userID)
    (unmoved : Unmoved userID before after) : after.Remembers userID := by
  intro user hit
  rcases unmoved.cached with same | expired
  · rw [same] at hit
    exact (remembers user hit).unmoved unmoved
  · rw [expired] at hit
    cases hit

theorem UserRow.target_congr {old : UserRow} (dedicated : row.useDedicated = old.useDedicated)
    (calendar : row.calendarID = old.calendarID) : row.target = old.target := by
  unfold UserRow.target
  rw [dedicated, calendar]

theorem Located.unmoved (located : Located valkey userID before)
    (unmoved : Unmoved userID before after) : Located valkey userID after := by
  refine ⟨?_, fun configured => (located.remembers configured).unmoved unmoved⟩
  intro user found row member ofUser
  obtain ⟨old, foundOld, dedicated, calendar⟩ := unmoved.stored user found
  rw [UserRow.target_congr dedicated calendar]
  exact unmoved.shown _ _ (located.inTarget old foundOld row
    (unmoved.tracked row member ofUser) ofUser)

theorem Ready.unmoved (ready : Ready valkey userID remote before)
    (unmoved : Unmoved userID before after) : Ready valkey userID remote after := by
  refine ⟨ready.toLocated.unmoved unmoved, ?_⟩
  intro row found lacks token timezone granted other member ofUser
  obtain ⟨old, foundOld, dedicated, calendar⟩ := unmoved.stored row found
  refine ready.unburdened old foundOld ?_ token timezone granted other
    (unmoved.tracked other member ofUser) ofUser
  unfold UserRow.lacksCalendar at lacks ⊢
  rwa [dedicated, calendar] at lacks

theorem Aimed.unmoved (aimed : Aimed valkey userID calendarID before)
    (unmoved : Unmoved userID before after) : Aimed valkey userID calendarID after := by
  refine ⟨fun configured => (aimed.remembers configured).unmoved unmoved, ?_, ?_⟩
  · intro row found
    obtain ⟨old, foundOld, dedicated, calendar⟩ := unmoved.stored row found
    rw [UserRow.target_congr dedicated calendar]
    exact aimed.aimed old foundOld
  · intro row member ofUser
    exact unmoved.shown _ _ (aimed.shown row (unmoved.tracked row member ofUser) ofUser)

theorem Aimed.located (aimed : Aimed valkey userID calendarID world) :
    Located valkey userID world := by
  refine ⟨?_, aimed.remembers⟩
  intro user found row member ofUser
  rw [aimed.aimed user found]
  exact aimed.shown row member ofUser

theorem Located.aimed (located : Located valkey userID world)
    (target : ∀ row, world.database.users.find userID = some row → row.target = calendarID) :
    Aimed valkey userID calendarID world := by
  refine ⟨located.remembers, target, ?_⟩
  intro row member ofUser
  obtain ⟨user, present, atID⟩ := world.database.userRef row member
  have found : world.database.users.find userID = some user :=
    Keyed.Table.find_eq_some_iff.mpr ⟨present, atID.trans ofUser⟩
  rw [← target user found]
  exact located.inTarget user found row member ofUser

theorem Aimed.setAccount {account : Account} (aimed : Aimed valkey userID calendarID world)
    (same : account.shown calendarID = (world.accounts userID).shown calendarID) :
    Aimed valkey userID calendarID (world.setAccount userID account) := by
  refine ⟨aimed.remembers, aimed.aimed, ?_⟩
  intro row member ofUser
  change (update world.accounts userID account userID).shown calendarID _ ≠ none
  rw [update_self, same]
  exact aimed.shown row member ofUser

end Assertions

variable {event : Event}

section Run

variable {remote : Request → Outcome → Prop} {valkey : Bool} {syncer : Syncer} {userID : Int}
  {token calendarID timezone : String} {world : World} {invariant : World → Prop}
  {queried : Database} {item : Tracked} {eventID : String}

theorem maintains_unmoved
    (stable : ∀ before after, Unmoved userID before after → invariant before → invariant after)
    (own : request.ofUser userID) (calm : request.moves = false) :
    Maintains (alone remote) invariant (ask request) :=
  maintains_ask (fun world holds =>
    stable world _ (unmoved_handle world own calm) holds)

theorem maintains_unmoved_handleSyncError
    (stable : ∀ before after, Unmoved userID before after → invariant before → invariant after)
    (error : GoogleError) :
    Maintains (alone remote) invariant (syncer.handleSyncError userID token error) :=
  Syncer.maintains_handleSyncError error (maintains_unmoved stable rfl rfl)
    (maintains_unmoved stable rfl rfl)

/-! ### The profile and the target -/

theorem matches_scanSyncProfile (found : world.database.users.find userID = some row)
    (scanned : scanSyncProfile row = some user) : world.Matches userID user := by
  intro other foundOther
  cases found.symm.trans foundOther
  unfold scanSyncProfile at scanned
  obtain ⟨token, _, rfl⟩ := Option.map_eq_some_iff.mp scanned
  exact ⟨rfl, rfl⟩

theorem ensures_located_loadSyncProfile (located : Located valkey userID world) :
    Ensures (alone remote)
      (fun found later => Located valkey userID later ∧ later.database = world.database ∧
        ∀ user, found = some user → later.Matches userID user)
      (loadSyncProfile valkey userID) world := by
  have missed : Ensures (alone remote)
      (fun found later => Located valkey userID later ∧ later.database = world.database ∧
        ∀ user, found = some user → later.Matches userID user)
      (selectProfile valkey userID) world := by
    apply ensures_local rfl
    intro answer selected
    cases found : world.database.users.find userID with
    | none =>
      cases selected.trans (congrArg some found)
      exact ⟨located, rfl, nofun⟩
    | some row =>
      cases selected.trans (congrArg some found)
      change Ensures _ _ (fillProfile valkey userID (scanSyncProfile row)) world
      cases scanned : scanSyncProfile row with
      | none => exact ⟨located, rfl, nofun⟩
      | some user =>
        have same := matches_scanSyncProfile found scanned
        apply ensures_ite
        · intro _
          apply ensures_local rfl
          intro _ _
          refine ⟨⟨located.inTarget, fun _ => ?_⟩, rfl, ?_⟩
          · intro cached hit
            change update world.valkey.users userID (some user) userID = _ at hit
            rw [update_self] at hit
            cases hit
            exact same
          · rintro _ ⟨⟩
            exact same
        · intro _
          refine ⟨located, rfl, ?_⟩
          rintro _ ⟨⟩
          exact same
  apply ensures_ite
  · intro configured
    apply ensures_local rfl
    intro cached answered
    cases cached with
    | none => exact missed
    | some user =>
      refine ⟨located, rfl, ?_⟩
      rintro _ ⟨⟩
      exact located.remembers configured user answered.symm
  · exact fun _ => missed

theorem ensures_aimed_adoptCalendar (same : world.Matches userID user)
    (dedicated : user.useDedicated = true) (untracked : world.Untracked userID)
    (named : calendarID ≠ "") (secondary : calendarID ≠ "primary") :
    Ensures (alone remote) (fun _ => Aimed syncer.valkey userID calendarID)
      (syncer.adoptCalendar userID calendarID) world := by
  have aims : ∀ row, (world.handle (.setCalendarID userID calendarID)).1.database.users.find
      userID = some row → row.target = calendarID := by
    intro row found
    change (world.database.updateUser userID _).users.find userID = some row at found
    rw [find_updateUser, if_pos rfl] at found
    obtain ⟨old, foundOld, rfl⟩ := Option.map_eq_some_iff.mp found
    have flag : old.useDedicated = true := (same old foundOld).1.symm.trans dedicated
    simp [UserRow.target, setCalendarID, flag, named, secondary]
  have shows : ∀ row ∈ world.database.syncedEvents.rows, row.userID = userID →
      (world.accounts userID).shown calendarID row.googleEventID ≠ none :=
    fun row member ofUser => absurd ofUser (untracked row member)
  apply ensures_local rfl
  intro _ _
  apply ensures_ite
  · intro _
    apply ensures_local rfl
    intro _ _
    refine ⟨fun _ => ?_, aims, shows⟩
    intro cached hit
    change update world.valkey.users userID none userID = _ at hit
    rw [update_self] at hit
    cases hit
  · intro unconfigured
    exact ⟨fun configured => absurd configured unconfigured, aims, shows⟩

theorem ensures_aimed_refused (aimed : Aimed syncer.valkey userID "primary" world)
    (error : GoogleError) :
    Ensures (alone remote) (fun target later => Located syncer.valkey userID later ∧
        ∀ calendarID, target = some calendarID → Aimed syncer.valkey userID calendarID later)
      (do
        if ← syncer.handleSyncError userID token error then
          return none
        else
          return some "primary") world := by
  refine (maintains_unmoved_handleSyncError
    (fun _ _ unmoved aimed => Aimed.unmoved aimed unmoved) error world aimed).then ?_
  intro deleted last stillAimed
  apply ensures_ite
  · exact fun _ => ⟨stillAimed.located, nofun⟩
  · intro _
    refine ⟨stillAimed.located, ?_⟩
    rintro _ ⟨⟩
    exact stillAimed

theorem ensures_targetCalendar (ready : Ready syncer.valkey userID remote world)
    (same : world.Matches userID user) :
    Ensures (alone remote) (fun target later => Located syncer.valkey userID later ∧
        ∀ calendarID, target = some calendarID → Aimed syncer.valkey userID calendarID later)
      (syncer.targetCalendar userID token timezone user) world := by
  have chosen : ∀ target, Aimed syncer.valkey userID target world →
      Located syncer.valkey userID world ∧ ∀ calendarID, some target = some calendarID →
          Aimed syncer.valkey userID calendarID world := by
    intro target aimed
    refine ⟨aimed.located, ?_⟩
    rintro _ ⟨⟩
    exact aimed
  apply ensures_ite
  · intro dedicated
    apply ensures_ite
    · intro named
      refine chosen _ (ready.toLocated.aimed ?_)
      intro row found
      obtain ⟨flag, calendar⟩ := same row found
      rw [dedicated] at flag
      rw [calendar] at named ⊢
      exact if_pos ⟨flag.symm, named⟩
    · intro unnamed
      have lacks : ∀ row, world.database.users.find userID = some row → row.lacksCalendar := by
        intro row found
        obtain ⟨flag, calendar⟩ := same row found
        rw [calendar] at unnamed
        exact ⟨flag.symm.trans dedicated, unnamed⟩
      have primary : Aimed syncer.valkey userID "primary" world :=
        ready.toLocated.aimed (fun row found => UserRow.target_of_lacksCalendar (lacks row found))
      have called : Aimed syncer.valkey userID "primary"
          (world.handle (.insertCalendar userID token timezone)).1 :=
        primary.setAccount (world.accounts userID).shown_insertCalendar_primary
      apply ensures_remote rfl
      · intro granted answer answered
        rcases (world.accounts userID).insertCalendar_cases with
          ⟨error, failed⟩ | ⟨calendarID, named, secondary, _, created⟩
        · have result : answer = .error error := answered.trans (congrArg Prod.snd failed)
          subst result
          exact ensures_aimed_refused called error
        · have result : answer = .ok calendarID := answered.trans (congrArg Prod.snd created)
          subst result
          have untracked : world.Untracked userID := by
            intro row member ofUser
            obtain ⟨stored, present, atID⟩ := world.database.userRef row member
            have found : world.database.users.find userID = some stored :=
              Keyed.Table.find_eq_some_iff.mpr ⟨present, atID.trans ofUser⟩
            exact ready.unburdened stored found (lacks stored found) token timezone granted
              row member ofUser
          apply Ensures.bind
          have stillSame : (world.handle (.insertCalendar userID token timezone)).1.Matches
              userID user := same
          refine Ensures.mono ?_ (ensures_aimed_adoptCalendar stillSame dedicated untracked
            named secondary)
          intro _ later aimed
          refine ⟨aimed.located, ?_⟩
          rintro _ ⟨⟩
          exact aimed
      · rintro error later (rfl | rfl)
        · exact ensures_aimed_refused primary error
        · exact ensures_aimed_refused called error
  · intro shared
    refine chosen _ (ready.toLocated.aimed ?_)
    intro row found
    obtain ⟨flag, _⟩ := same row found
    unfold UserRow.target
    rw [if_neg]
    exact fun named => shared (flag.trans named.1)

/-! ### Taking events down -/

/-- A row is being removed, together with its event. The rows that are left
were there when the query was answered, so no other row names that event. -/
structure Removing (valkey : Bool) (userID : Int) (calendarID : String) (queried : Database)
    (item : Tracked) (world : World) : Prop where
  remembers : valkey = true → world.Remembers userID
  aimed : ∀ row, world.database.users.find userID = some row → row.target = calendarID
  left : ∀ row ∈ world.database.syncedEvents.rows, row.userID = userID →
    row ∈ queried.syncedEvents.rows
  others : ∀ row ∈ world.database.syncedEvents.rows, row.userID = userID →
    row.contestID ≠ item.contestID → row.googleEventID ≠ item.googleEventID ∧
        (world.accounts userID).shown calendarID row.googleEventID ≠ none

theorem maintains_removing_deleteEvent :
    Maintains (alone remote) (Removing valkey userID calendarID queried item)
      (ask (.deleteEvent userID token calendarID item.googleEventID)) := by
  apply maintains_ask
  intro world removing
  refine ⟨removing.remembers, removing.aimed, removing.left, ?_⟩
  intro row member ofUser different
  obtain ⟨otherEvent, visible⟩ := removing.others row member ofUser different
  refine ⟨otherEvent, ?_⟩
  change ((update world.accounts userID _) userID).shown calendarID _ ≠ none
  rw [update_self, Account.shown_deleteEvent, update_of_ne otherEvent]
  exact visible

theorem ensures_aimed_removeTracked
    (listed : ⟨userID, item.contestID, item.googleEventID⟩ ∈ queried.syncedEvents.rows)
    (aimed : Aimed valkey userID calendarID world)
    (left : ∀ row ∈ world.database.syncedEvents.rows, row.userID = userID →
      row ∈ queried.syncedEvents.rows) :
    Ensures (alone remote) (fun _ later => Aimed valkey userID calendarID later ∧
        ∀ row ∈ later.database.syncedEvents.rows, row.userID = userID →
          row ∈ queried.syncedEvents.rows)
      (Syncer.removeTracked userID token calendarID item) world := by
  have removing : Removing valkey userID calendarID queried item world := by
    refine ⟨aimed.remembers, aimed.aimed, left, ?_⟩
    intro row member ofUser different
    refine ⟨?_, aimed.shown row member ofUser⟩
    intro sameEvent
    have same := queried.event_row_unique (left row member ofUser) listed ofUser sameEvent
    exact different (congrArg SyncedEvent.contestID same)
  refine (Syncer.maintains_deleteAttempts maintains_removing_deleteEvent world removing).then ?_
  intro _ later removed
  apply ensures_local rfl
  intro _ _
  refine ⟨⟨removed.remembers, removed.aimed, ?_⟩, ?_⟩
  · intro row member ofUser
    obtain ⟨present, kept⟩ := mem_deleteSyncedEvent.mp member
    exact (removed.others row present ofUser (fun same => kept ⟨ofUser, same⟩)).2
  · intro row member ofUser
    exact removed.left row (mem_deleteSyncedEvent.mp member).1 ofUser

theorem maintains_aimed_cleanup {selected : List String} :
    Maintains (alone remote) (Aimed valkey userID calendarID)
      (Syncer.cleanup userID token calendarID selected) := by
  intro world aimed
  apply ensures_local rfl
  rintro _ rfl
  refine ensures_each (fun rest later => (Aimed valkey userID calendarID later ∧
      ∀ row ∈ later.database.syncedEvents.rows, row.userID = userID →
        row ∈ world.database.syncedEvents.rows) ∧
      ∀ item ∈ rest, ⟨userID, item.contestID, item.googleEventID⟩ ∈
        world.database.syncedEvents.rows)
    ?_ (fun later reached => reached.1.1) _ ⟨⟨aimed, fun row member _ => member⟩, ?_⟩
  · rintro item rest later ⟨⟨stillAimed, left⟩, listed⟩
    refine Ensures.mono ?_ (ensures_aimed_removeTracked (listed item List.mem_cons_self)
      stillAimed left)
    intro _ next reached
    exact ⟨reached, fun other member => listed other (List.mem_cons_of_mem item member)⟩
  · intro item member
    exact (mem_selectTracked.mp (List.mem_filter.mp member).1).1

/-! ### Putting events up -/

theorem maintains_aimed (own : request.ofUser userID) (calm : request.moves = false) :
    Maintains (alone remote) (Aimed valkey userID calendarID) (ask request) :=
  maintains_unmoved (fun _ _ unmoved aimed => Aimed.unmoved aimed unmoved) own calm

theorem Aimed.insertEvent (aimed : Aimed valkey userID calendarID world)
    (visible : event.status ≠ .cancelled) :
    Aimed valkey userID calendarID (world.handle (.insertEvent userID token calendarID event)).1 :=
  aimed.unmoved (.setAccount (fun _ _ shown =>
    Account.shown_insertEvent_ne_none _ visible shown))

theorem Aimed.updateEvent (aimed : Aimed valkey userID calendarID world)
    (visible : event.status ≠ .cancelled) :
    Aimed valkey userID calendarID
      (world.handle (.updateEvent userID token calendarID eventID event)).1 :=
  aimed.unmoved (.setAccount (fun _ _ shown =>
    Account.shown_updateEvent_ne_none _ visible shown))

theorem ensures_aimed_recordSynced {contestID : String} (anySynced : Bool)
    (aimed : Aimed valkey userID calendarID world)
    (shown : (world.accounts userID).shown calendarID eventID ≠ none) :
    Ensures (alone remote) (fun _ => Aimed valkey userID calendarID)
      (Syncer.recordSynced userID anySynced contestID eventID) world := by
  apply ensures_local rfl
  intro _ _
  unfold World.handle
  simp only
  split
  · rename_i database inserted
    rcases insertSyncedEvent_cases inserted with ⟨_, users, _, rows⟩ | ⟨_, rfl⟩
    · refine ⟨fun configured user hit row found => ?_, ?_, ?_⟩
      · change database.users.find userID = _ at found
        rw [users] at found
        exact aimed.remembers configured user hit row found
      · intro row found
        change database.users.find userID = _ at found
        rw [users] at found
        exact aimed.aimed row found
      · intro row member ofUser
        rcases (rows row).mp member with present | rfl
        · exact aimed.shown row present ofUser
        · exact shown
    · exact aimed
  · exact aimed

theorem ensures_aimed_insertAttempts (visible : event.status ≠ .cancelled)
    (aimed : Aimed syncer.valkey userID calendarID world) :
    Ensures (alone remote) (fun result later => Aimed syncer.valkey userID calendarID later ∧
        ∀ created, result = .ok (.created created) →
          (later.accounts userID).shown calendarID created.id ≠ none)
      (retry (syncer.insertAttempt userID token calendarID event) 2) world := by
  refine ensures_retry_keeping (Aimed syncer.valkey userID calendarID) ?_ 2 aimed
  intro world aimed
  have failed : ∀ error later, Aimed syncer.valkey userID calendarID later → Ensures (alone remote)
        (fun result later => Aimed syncer.valkey userID calendarID later ∧
          ∀ created, result = .ok (.created created) →
            (later.accounts userID).shown calendarID created.id ≠ none)
        (syncer.insertFailed userID token error) later := by
    intro error later aimed
    apply ensures_ite
    · exact fun _ => ⟨aimed, nofun⟩
    · intro _
      refine (maintains_unmoved_handleSyncError
        (fun _ _ unmoved aimed => Aimed.unmoved aimed unmoved) error later aimed).then ?_
      intro deleted last stillAimed
      apply ensures_ite
      · exact fun _ => ⟨stillAimed, nofun⟩
      · exact fun _ => ⟨stillAimed, nofun⟩
  apply ensures_remote rfl
  · intro _ answer answered
    rcases (world.accounts userID).insertEvent_cases calendarID event with
      ⟨_, created⟩ | ⟨_, conflict⟩
    · have result : answer = .ok event := answered.trans (congrArg Prod.snd created)
      subst result
      refine ⟨aimed.insertEvent visible, ?_⟩
      rintro _ ⟨⟩
      change ((update world.accounts userID _) userID).shown calendarID _ ≠ none
      rw [update_self, created, Account.shown_setEvent, update_self]
      simp [visible]
    · have result : answer = .error .conflict := answered.trans (congrArg Prod.snd conflict)
      subst result
      exact failed _ _ (aimed.insertEvent visible)
  · rintro error later (rfl | rfl)
    · exact failed error _ aimed
    · exact failed error _ (aimed.insertEvent visible)

theorem ensures_aimed_updateAttempts (visible : event.status ≠ .cancelled)
    (aimed : Aimed valkey userID calendarID world) :
    Ensures (alone remote) (fun result later => Aimed valkey userID calendarID later ∧
        (result = .ok () → (later.accounts userID).shown calendarID event.id ≠ none))
      (retry (Syncer.updateAttempt userID token calendarID event) 2) world := by
  refine ensures_retry_keeping (Aimed valkey userID calendarID) ?_ 2 aimed
  intro world aimed
  apply ensures_remote rfl
  · intro _ answer answered
    rcases (world.accounts userID).updateEvent_cases calendarID event.id event with
      ⟨_, updated⟩ | ⟨_, missing⟩
    · have result : answer = none := answered.trans (congrArg Prod.snd updated)
      subst result
      refine ⟨aimed.updateEvent visible, fun _ => ?_⟩
      change ((update world.accounts userID _) userID).shown calendarID _ ≠ none
      rw [update_self, updated, Account.shown_setEvent, update_self]
      simp [visible]
    · have result : answer = some .notFound := answered.trans (congrArg Prod.snd missing)
      subst result
      exact ⟨aimed.updateEvent visible, nofun⟩
  · rintro error later (rfl | rfl)
    · exact ⟨aimed, nofun⟩
    · exact ⟨aimed.updateEvent visible, nofun⟩

theorem maintains_aimed_syncContest {googleID : String} (anySynced : Bool) (contest : ContestRow) :
    Maintains (alone remote) (Aimed syncer.valkey userID calendarID)
      (syncer.syncContest userID token calendarID timezone googleID anySynced contest) := by
  intro world aimed
  have visible : (contestEvent googleID timezone contest).status ≠ .cancelled :=
    EventStatus.noConfusion
  have drops : ∀ error, Maintains (alone remote) (Aimed syncer.valkey userID calendarID)
      (syncer.giveUp userID token anySynced error) :=
    fun error => Syncer.maintains_giveUp anySynced (maintains_unmoved_handleSyncError
      (fun _ _ unmoved aimed => Aimed.unmoved aimed unmoved) error)
  refine (ensures_aimed_insertAttempts visible aimed).then ?_
  rintro result later ⟨stillAimed, shown⟩
  cases result with
  | error error => exact drops error later stillAimed
  | ok exit =>
    cases exit with
    | deleted => exact stillAimed
    | created event => exact ensures_aimed_recordSynced anySynced stillAimed (shown event rfl)
    | conflict error =>
      refine (ensures_aimed_updateAttempts visible stillAimed).then ?_
      rintro updated last ⟨finallyAimed, confirmed⟩
      cases updated with
      | ok _ => exact ensures_aimed_recordSynced anySynced finallyAimed (confirmed rfl)
      | error failure => exact drops error last finallyAimed

/-! ### The run -/

theorem maintains_aimed_syncCalendar :
    Maintains (alone remote) (Aimed syncer.valkey userID calendarID)
      (syncer.syncCalendar userID token calendarID timezone user) := by
  have cached : ∀ platform, Maintains (alone remote) (Aimed syncer.valkey userID calendarID)
      (ask (.getCachedContests platform)) := fun _ => maintains_aimed trivial rfl
  have selects : ∀ missed, Maintains (alone remote) (Aimed syncer.valkey userID calendarID)
      (ask (.selectContests missed)) := fun _ => maintains_aimed trivial rfl
  apply Syncer.maintains_syncCalendar (fun _ => True)
  · exact maintains_aimed_cleanup
  · exact Syncer.maintains_loadSynced (maintains_aimed rfl rfl) (maintains_aimed rfl rfl)
      (fun _ => maintains_aimed rfl rfl)
  · exact Syncer.yields_loadContests (fun _ => True)
      (fun _ platform => (cached platform).yields (fun _ _ _ _ _ => trivial))
      (fun missed => (selects missed).yields (fun _ _ _ _ _ => trivial))
      (fun _ _ _ => maintains_aimed trivial rfl)
  · exact fun anySynced contest _ => maintains_aimed_syncContest anySynced contest
  · exact maintains_aimed rfl rfl

theorem ensures_located_syncProfile (ready : Ready syncer.valkey userID remote world)
    (same : world.Matches userID user) :
    Ensures (alone remote) (fun _ => Located syncer.valkey userID)
      (syncer.syncProfile userID user) world := by
  have primary : ∀ token, Maintains (alone remote)
      (fun later => Ready syncer.valkey userID remote later ∧ later.Matches userID user)
      (ask (.getPrimary userID token)) :=
    fun token => maintains_unmoved (fun _ _ unmoved holds =>
      ⟨holds.1.unmoved unmoved, holds.2.unmoved unmoved⟩) rfl rfl
  unfold Syncer.syncProfile
  cases syncer.decryptToken user.refreshToken with
  | none => exact ready.toLocated
  | some token =>
    refine (primary token world ⟨ready, same⟩).then ?_
    rintro answer later ⟨stillReady, stillSame⟩
    cases answer with
    | error error =>
      refine (maintains_unmoved_handleSyncError
        (fun _ _ unmoved located => Located.unmoved located unmoved) error later
        stillReady.toLocated).then ?_
      intro deleted last located
      exact ensures_ite (fun _ => located) (fun _ => located)
    | ok timezone =>
      refine (ensures_targetCalendar stillReady stillSame).then ?_
      rintro target last ⟨located, aimed⟩
      cases target with
      | none => exact located
      | some calendarID =>
        refine Ensures.mono ?_ (maintains_aimed_syncCalendar last (aimed calendarID rfl))
        exact fun _ _ stillAimed => stillAimed.located

theorem ensures_located_syncUser (ready : Ready syncer.valkey userID remote world) :
    Ensures (alone remote) (fun _ => Located syncer.valkey userID)
      (syncer.syncUser userID) world := by
  have calmReady : ∀ request : Request, request.ofUser userID → request.moves = false →
      Maintains (alone remote) (Ready syncer.valkey userID remote) (ask request) :=
    fun _ own calm => maintains_unmoved (fun _ _ unmoved ready => Ready.unmoved ready unmoved)
      own calm
  have calmLocated : ∀ request : Request, request.ofUser userID → request.moves = false →
      Maintains (alone remote) (Located syncer.valkey userID) (ask request) :=
    fun _ own calm => maintains_unmoved
      (fun _ _ unmoved located => Located.unmoved located unmoved) own calm
  refine Syncer.ensures_syncUser (fun _ ready => ready.toLocated) (calmReady _ rfl rfl)
    (calmLocated _ rfl rfl) (calmReady _ rfl rfl) (calmLocated _ rfl rfl) ?_ ready
  intro world ready
  refine (ensures_located_loadSyncProfile ready.toLocated).then ?_
  rintro found later ⟨stillLocated, stored, same⟩
  have stillReady : Ready syncer.valkey userID remote later := by
    refine ⟨stillLocated, ?_⟩
    unfold World.Untracked
    rw [stored]
    exact ready.unburdened
  cases found with
  | none => exact stillReady.toLocated
  | some user =>
    have marks : Maintains (alone remote)
        (fun later => Ready syncer.valkey userID remote later ∧ later.Matches userID user)
        (ask (.markSyncing userID)) :=
      maintains_unmoved (fun _ _ unmoved holds =>
        ⟨holds.1.unmoved unmoved, holds.2.unmoved unmoved⟩) rfl rfl
    exact Syncer.ensures_syncLoaded marks
      (fun _ holds => ensures_located_syncProfile holds.1 holds.2)
      (fun status => calmLocated _ rfl rfl) (calmLocated _ rfl rfl) ⟨stillReady, same user rfl⟩

/-! ### SavePreferences -/

theorem ensures_located_savePreferences {requested : Option (List String)} {useDedicated : Bool}
    (keeps : (∃ platform ∈ requested.getD [], platform ∉ platforms) ∨
      (∀ row, world.database.users.find userID = some row →
        ((updatePreferences requested useDedicated).apply row).target = row.target) ∨
      world.Untracked userID)
    (located : Located valkey userID world) :
    Ensures (alone remote) (fun _ => Located valkey userID)
      (Handlers.savePreferences ⟨valkey⟩ userID requested useDedicated) world := by
  apply ensures_ite
  · exact fun _ => located
  · intro valid
    refine (ensures_located_loadSyncProfile located).then ?_
    rintro found later ⟨stillLocated, stored, _⟩
    cases found with
    | none => exact stillLocated
    | some user =>
      apply ensures_ite
      · intro _
        have updated : (later.handle (.updatePreferences userID requested
            useDedicated)).1.InTarget userID := by
          intro next foundNext row member ofUser
          change (later.database.updateUser userID _).users.find userID = _ at foundNext
          rw [find_updateUser, if_pos rfl] at foundNext
          obtain ⟨old, foundOld, rfl⟩ := Option.map_eq_some_iff.mp foundNext
          rcases keeps.resolve_left valid with same | untracked
          · rw [same old (by rw [← stored]; exact foundOld)]
            exact stillLocated.inTarget old foundOld row member ofUser
          · refine absurd ofUser (untracked row ?_)
            rw [← stored]
            exact member
        apply ensures_local rfl
        rintro _ rfl
        refine ensures_ite (fun _ => ?_) (fun failed => absurd rfl failed)
        apply ensures_ite
        · intro _
          apply ensures_local rfl
          intro _ _
          refine ⟨updated, fun _ => ?_⟩
          intro cached hit
          change update later.valkey.users userID none userID = _ at hit
          rw [update_self] at hit
          cases hit
        · exact fun unconfigured => ⟨updated, fun configured => absurd configured unconfigured⟩
      · exact fun _ => stillLocated

end Run

/-! ### Histories -/

/-- The target of a user with rows stays where it is: no switch of
`SavePreferences` moves it, and no dedicated calendar is created. -/
def KeepsTarget (world : World) (remote : Request → Outcome → Prop) : Operation → Prop
  | .savePreferences userID requested useDedicated =>
    (∃ platform ∈ requested.getD [], platform ∉ platforms) ∨
      (∀ row, world.database.users.find userID = some row →
        ((updatePreferences requested useDedicated).apply row).target = row.target) ∨
      world.Untracked userID
  | .syncUser userID =>
    ∀ row, world.database.users.find userID = some row → row.lacksCalendar →
      ∀ token timezone, remote (.insertCalendar userID token timezone) .served →
        world.Untracked userID
  | _ => False

theorem located_of_turn {syncer : Syncer} {before after : World}
    {remote : Request → Outcome → Prop} {operation : Operation}
    (permitted : KeepsTarget before remote operation)
    (run : Runs environment (Reliable remote) before (operation.program syncer) after ())
    (located : ∀ userID, Located syncer.valkey userID before) (userID : Int) :
    Located syncer.valkey userID after := by
  have foreign : ∀ owner, owner ≠ userID →
      RunKeeps (alone remote) (Located syncer.valkey userID) syncer owner _ :=
    fun owner different => .of_each (fun request own => maintains_ask (fun world located =>
      located.unmoved (.of_sameFor (sameFor_handle different own))))
  cases operation with
  | savePreferences owner requested useDedicated =>
    by_cases same : owner = userID
    · subst same
      exact (ensures_discard (ensures_located_savePreferences permitted (located owner))).runs run
    · exact (ensures_discard ((foreign owner same).savePreferences requested useDedicated
        before (located userID))).runs run
  | syncUser owner =>
    by_cases same : owner = userID
    · subst same
      exact (ensures_discard (ensures_located_syncUser ⟨located owner, permitted⟩)).runs run
    · exact (ensures_discard ((foreign owner same).syncUser before (located userID))).runs run
  | googleCallback login => exact permitted.elim
  | me owner => exact permitted.elim
  | deleteAccount owner _ => exact permitted.elim
  | pruneOldData => exact permitted.elim
  | handleExtraction platform fetched => exact permitted.elim

/-- Every row names an event in the target calendar of its user, after any
sequence of operations that moves no target away from under a row. -/
theorem inTarget_after_history {syncer : Syncer} {first last : World}
    (inTarget : ∀ userID, first.InTarget userID) (remembers : ∀ userID, first.Remembers userID)
    (history : History syncer KeepsTarget first last) (userID : Int) :
    last.InTarget userID := by
  have located : ∀ userID, Located syncer.valkey userID last := by
    refine history.keeps (fun world => ∀ userID, Located syncer.valkey userID world)
      (fun _ _ _ _ permitted run => located_of_turn permitted run)
      (fun _ _ _ _ _ permitted => permitted.elim) ?_
      (fun userID => ⟨inTarget userID, fun _ => remembers userID⟩)
    intro before after lapse located userID
    refine (located userID).unmoved ⟨?_, ?_, ?_, lapse.users userID⟩
    · rw [lapse.database]
      exact fun row found => ⟨row, found, rfl, rfl⟩
    · rw [lapse.database]
      exact fun row member _ => member
    · rw [lapse.accounts]
      exact fun _ _ visible => visible
  exact (located userID).inTarget

theorem sampleWorld_inTarget (userID : Int) : sampleWorld.InTarget userID := by
  by_cases same : userID = 1
  · subst same
    decide +kernel
  · intro user found
    obtain ⟨member, atID⟩ := Keyed.Table.find_eq_some_iff.mp found
    cases List.mem_singleton.mp member
    exact absurd atID.symm same

theorem sampleWorld_remembers (userID : Int) : sampleWorld.Remembers userID :=
  nofun

theorem inTarget_after_selection :
    (replay sampleSyncer [.savePreferences 1 (some ["leetcode"]) false, .syncUser 1]
      sampleWorld).InTarget 1 := by
  refine inTarget_after_history sampleWorld_inTarget sampleWorld_remembers
    (history_replay [.savePreferences 1 (some ["leetcode"]) false, .syncUser 1] ⟨?_, ?_, trivial⟩) 1
  · refine Or.inr (Or.inl ?_)
    rintro row ⟨⟩
    rfl
  · rintro row found ⟨dedicated, _⟩
    have stored : (replay sampleSyncer [.savePreferences 1 (some ["leetcode"]) false]
        sampleWorld).database.users.find 1 =
          some { sampleRow with platforms := some ["leetcode"] } := by
      decide +kernel
    cases stored.symm.trans found
    cases dedicated

/-- The user asks for a dedicated calendar; the next run creates it and keeps the
row of an event that stays behind in the primary calendar. -/
theorem inTarget_lost :
    (∀ userID, sampleWorld.InTarget userID) ∧ (∀ userID, sampleWorld.Remembers userID) ∧
      History sampleSyncer (fun _ _ _ => True) sampleWorld (replay sampleSyncer
          [.savePreferences 1 (some ["codeforces", "leetcode"]) true, .syncUser 1] sampleWorld) ∧
      ¬(replay sampleSyncer [.savePreferences 1 (some ["codeforces", "leetcode"]) true, .syncUser 1]
        sampleWorld).InTarget 1 := by
  refine ⟨sampleWorld_inTarget, sampleWorld_remembers,
    history_replay _ ⟨trivial, trivial, trivial⟩, ?_⟩
  decide +kernel

end ContestSync
