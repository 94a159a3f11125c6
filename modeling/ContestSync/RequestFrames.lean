/-
What a request leaves alone. The world is divided by its parts, and the parts
of one user from those of the others; every invariant of the service is kept by
the requests that stay clear of what it is about.
-/

import ContestSync.Service

namespace ContestSync

/-- The parts of the world that invariants are about. -/
inductive Part where
  | users
  | syncedEvents
  | contests
  | accounts
  | profiles
  | syncedCache
  | contestsCache
deriving DecidableEq

namespace Request

def parts : Request → List Part
  | .setCachedUser _ _ => [.profiles]
  | .deleteCachedUser _ => [.profiles]
  | .setCachedSynced _ _ => [.syncedCache]
  | .deleteCachedSynced _ => [.syncedCache]
  | .setCachedContests _ _ => [.contestsCache]
  | .deleteCachedContests _ => [.contestsCache]
  | .markSyncing _ => [.users]
  | .markSynced _ _ => [.users]
  | .setCalendarID _ _ => [.users]
  | .updatePreferences _ _ _ => [.users]
  | .upsertUser _ => [.users]
  | .deleteUser _ _ => [.users, .syncedEvents]
  | .pruneUsers => [.users, .syncedEvents]
  | .deleteSynced _ _ => [.syncedEvents]
  | .insertSynced _ => [.syncedEvents]
  | .pruneObsolete _ _ => [.contests, .syncedEvents]
  | .upsertContests _ => [.contests]
  | .pruneEnded => [.contests, .syncedEvents]
  | .insertCalendar _ _ _ => [.accounts]
  | .insertEvent _ _ _ _ => [.accounts]
  | .updateEvent _ _ _ _ _ => [.accounts]
  | .deleteEvent _ _ _ _ => [.accounts]
  | _ => []

def writes (request : Request) (part : Part) : Bool :=
  request.parts.contains part

end Request

theorem Database.upsertContests_others (database : Database) (contests : List Contest) :
    (database.upsertContests contests).users = database.users ∧
      (database.upsertContests contests).serial = database.serial ∧
      (database.upsertContests contests).syncedEvents = database.syncedEvents := by
  unfold Database.upsertContests
  induction contests generalizing database with
  | nil => exact ⟨rfl, rfl, rfl⟩
  | cons contest rest ih => exact ih (database.upsertContest contest.row)

theorem Database.insertSyncedEvent_others {database after : Database} {row : SyncedEvent}
    (inserted : database.insertSyncedEvent row = some after) :
    after.users = database.users ∧ after.serial = database.serial ∧
      after.contests = database.contests := by
  unfold Database.insertSyncedEvent at inserted
  split at inserted
  · split at inserted
    · cases inserted
      exact ⟨rfl, rfl, rfl⟩
    · cases inserted
  · cases inserted
    exact ⟨rfl, rfl, rfl⟩

theorem Database.upsertUser_others (database : Database) (googleID email refreshToken : String)
    (hasCalendarAccess : Bool) (now : Timestamp) :
    (database.upsertUser googleID email refreshToken hasCalendarAccess now).1.contests =
        database.contests ∧
      (database.upsertUser googleID email refreshToken hasCalendarAccess now).1.syncedEvents =
        database.syncedEvents := by
  rcases database.upsertUser_cases googleID email refreshToken hasCalendarAccess now with
    ⟨user, _, _, called⟩ | ⟨next, unused, called⟩
  · rw [called]
    exact ⟨rfl, rfl⟩
  · rw [called]
    exact ⟨rfl, rfl⟩

/-- Nothing but the named parts has changed, and no time has passed. -/
structure Frame (written : Part → Bool) (before after : World) : Prop where
  users : written .users = false → after.database.users = before.database.users
  serial : written .users = false → after.database.serial = before.database.serial
  syncedEvents : written .syncedEvents = false →
    after.database.syncedEvents = before.database.syncedEvents
  contests : written .contests = false → after.database.contests = before.database.contests
  accounts : written .accounts = false → after.accounts = before.accounts
  profiles : written .profiles = false → after.valkey.users = before.valkey.users
  syncedCache : written .syncedCache = false →
    after.valkey.syncedEvents = before.valkey.syncedEvents
  contestsCache : written .contestsCache = false → after.valkey.contests = before.valkey.contests
  now : after.now = before.now

variable {written : Part → Bool} {before after : World}

theorem Frame.of_same (database : after.database = before.database)
    (accounts : after.accounts = before.accounts)
    (profiles : after.valkey.users = before.valkey.users)
    (syncedCache : after.valkey.syncedEvents = before.valkey.syncedEvents)
    (contestsCache : after.valkey.contests = before.valkey.contests)
    (now : after.now = before.now) :
    Frame written before after := by
  refine ⟨?_, ?_, ?_, ?_, fun _ => accounts, fun _ => profiles, fun _ => syncedCache,
    fun _ => contestsCache, now⟩
  all_goals
    intro _
    rw [database]

theorem frame_handle (world : World) (request : Request) :
    Frame request.writes world (world.handle request).1 := by
  cases request
  case lockUser process userID =>
    unfold World.handle
    simp only
    split <;> exact .of_same rfl rfl rfl rfl rfl rfl
  case lockKey userID =>
    unfold World.handle
    simp only
    split <;> exact .of_same rfl rfl rfl rfl rfl rfl
  case insertSynced row =>
    unfold World.handle
    simp only
    split
    · rename_i inserted
      obtain ⟨users, serial, contests⟩ := Database.insertSyncedEvent_others inserted
      exact ⟨fun _ => users, fun _ => serial, nofun, fun _ => contests,
        fun _ => rfl, fun _ => rfl, fun _ => rfl, fun _ => rfl, rfl⟩
    · exact .of_same rfl rfl rfl rfl rfl rfl
  case upsertContests contests =>
    obtain ⟨users, serial, syncedEvents⟩ := world.database.upsertContests_others contests
    exact ⟨fun _ => users, fun _ => serial, fun _ => syncedEvents, nofun,
      fun _ => rfl, fun _ => rfl, fun _ => rfl, fun _ => rfl, rfl⟩
  case upsertUser login =>
    obtain ⟨contests, syncedEvents⟩ := world.database.upsertUser_others login.googleID
      login.email login.refreshToken login.hasCalendarAccess world.now
    exact ⟨nofun, nofun,
      fun _ => syncedEvents, fun _ => contests, fun _ => rfl, fun _ => rfl, fun _ => rfl,
      fun _ => rfl, rfl⟩
  all_goals
    constructor <;> first | rfl | (intro written; first | rfl | cases written)

theorem serial_handle (world : World) (request : Request) :
    world.database.serial ≤ (world.handle request).1.database.serial := by
  have frame := frame_handle world request
  cases request
  case upsertUser login => exact world.database.serial_upsertUser _ _ _ _ _
  case markSyncing => exact Int.le_refl _
  case markSynced => exact Int.le_refl _
  case setCalendarID => exact Int.le_refl _
  case updatePreferences => exact Int.le_refl _
  case deleteUser => exact Int.le_refl _
  case pruneUsers => exact Int.le_refl _
  all_goals exact Int.le_of_eq (frame.serial rfl).symm

/-! ### The requests made for one user -/

/-- The requests that `SyncUser` and `SavePreferences` make for a user. -/
def Request.ofUser (userID : Int) : Request → Prop
  | .lockUser _ owner => owner = userID
  | .unlockUser _ owner => owner = userID
  | .lockKey owner => owner = userID
  | .unlockKey owner => owner = userID
  | .getCachedUser owner => owner = userID
  | .setCachedUser owner _ => owner = userID
  | .deleteCachedUser owner => owner = userID
  | .getCachedSynced owner => owner = userID
  | .setCachedSynced owner _ => owner = userID
  | .deleteCachedSynced owner => owner = userID
  | .getCachedContests _ => True
  | .setCachedContests _ _ => True
  | .cacheLastSync owner => owner = userID
  | .selectUser owner => owner = userID
  | .markSyncing owner => owner = userID
  | .markSynced owner _ => owner = userID
  | .setCalendarID owner _ => owner = userID
  | .updatePreferences owner _ _ => owner = userID
  | .deleteUser owner _ => owner = userID
  | .selectTracked owner => owner = userID
  | .selectSynced owner => owner = userID
  | .deleteSynced owner _ => owner = userID
  | .insertSynced row => row.userID = userID
  | .selectContests _ => True
  | .getPrimary owner _ => owner = userID
  | .insertCalendar owner _ _ => owner = userID
  | .insertEvent owner _ _ _ => owner = userID
  | .updateEvent owner _ _ _ _ => owner = userID
  | .deleteEvent owner _ _ _ => owner = userID
  | _ => False

/-- Nothing of the user has changed, but rows may have been deleted. -/
structure SameFor (userID : Int) (before after : World) : Prop where
  stored : after.database.users.find userID = before.database.users.find userID
  tracked : ∀ row ∈ after.database.syncedEvents.rows, row.userID = userID →
    row ∈ before.database.syncedEvents.rows
  account : after.accounts userID = before.accounts userID
  profile : after.valkey.users userID = before.valkey.users userID

theorem Frame.sameFor (frame : Frame written before after) (users : written .users = false)
    (syncedEvents : written .syncedEvents = false) (accounts : written .accounts = false)
    (profiles : written .profiles = false) (userID : Int) : SameFor userID before after := by
  refine ⟨?_, ?_, congrFun (frame.accounts accounts) userID,
    congrFun (frame.profiles profiles) userID⟩
  · rw [frame.users users]
  · rw [frame.syncedEvents syncedEvents]
    exact fun row member _ => member

section Foreign

variable {userID owner : Int} {world : World} (different : owner ≠ userID)
include different

theorem sameFor_updateUser (change : Database.UserChange) :
    SameFor userID world (world.setDatabase (world.database.updateUser owner change)) := by
  refine ⟨?_, fun row member _ => member, rfl, rfl⟩
  change (world.database.updateUser owner change).users.find userID = _
  rw [Database.find_updateUser, if_neg (Ne.symm different)]

theorem sameFor_setAccount (account : Account) :
    SameFor userID world (world.setAccount owner account) :=
  ⟨rfl, fun _ member _ => member, Function.update_of_ne (Ne.symm different) _ _, rfl⟩

theorem sameFor_profile {valkey : Valkey} {profile : Option CachedUser}
    (users : valkey.users = Function.update world.valkey.users owner profile) :
    SameFor userID world { world with valkey := valkey } := by
  refine ⟨rfl, fun row member _ => member, rfl, ?_⟩
  change valkey.users userID = _
  rw [users, Function.update_of_ne (Ne.symm different)]

theorem sameFor_handle {request : Request} (own : request.ofUser owner) :
    SameFor userID world (world.handle request).1 := by
  have frame := frame_handle world request
  cases request <;> cases own
  case setCachedUser profile => exact sameFor_profile different rfl
  case deleteCachedUser => exact sameFor_profile different rfl
  case markSyncing => exact sameFor_updateUser different _
  case markSynced status => exact sameFor_updateUser different _
  case setCalendarID calendarID => exact sameFor_updateUser different _
  case updatePreferences platforms useDedicated => exact sameFor_updateUser different _
  case deleteUser rejected =>
    exact ⟨Database.find_deleteUser_other (Ne.symm different),
      fun row member _ => (Keyed.Table.mem_delete.mp member).1, rfl, rfl⟩
  case deleteSynced contestID =>
    exact ⟨rfl, fun row member _ => (Database.mem_deleteSyncedEvent.mp member).1, rfl, rfl⟩
  case insertSynced =>
    refine ⟨by rw [frame.users rfl], ?_, congrFun (frame.accounts rfl) userID,
      congrFun (frame.profiles rfl) userID⟩
    unfold World.handle
    simp only
    intro other member ofUser
    split at member
    · rename_i inserted
      rcases Database.insertSyncedEvent_cases inserted with ⟨_, _, _, rows⟩ | ⟨_, same⟩
      · rcases (rows other).mp member with present | rfl
        · exact present
        · exact absurd ofUser different
      · subst same
        exact member
    · exact member
  case insertCalendar token timezone => exact sameFor_setAccount different _
  case insertEvent token calendarID event => exact sameFor_setAccount different _
  case updateEvent token calendarID eventID event => exact sameFor_setAccount different _
  case deleteEvent token calendarID eventID => exact sameFor_setAccount different _
  all_goals exact frame.sameFor rfl rfl rfl rfl userID

end Foreign

end ContestSync
