/-
Everything outside the process, as one service: the database, Valkey, the
Google accounts, the locks and the task queue. Each request stands for one
statement, command or API call of the source and is served atomically.

A request is served, or fails before it takes effect, or takes effect and
fails on the way back. Which of the three happens is an outcome.
-/

import ContestSync.Database
import ContestSync.GoogleCalendar
import ContestSync.Resumable.Program

namespace ContestSync

open Function

/-- The Valkey keys, by family. An absent key is `none`. -/
structure Valkey where
  users : Int → Option CachedUser
  syncedEvents : Int → Option (List String)
  contests : String → Option (List ContestRow)
  lastSync : Int → Option Timestamp
  locks : Int → Bool

def Valkey.empty : Valkey :=
  { users := fun _ => none
    syncedEvents := fun _ => none
    contests := fun _ => none
    lastSync := fun _ => none
    locks := fun _ => false }

/-- `accounts` gives the Google account that the tokens of a user open;
`syncing` is the `syncingUsers` map of each process. -/
structure World where
  database : Database
  valkey : Valkey
  accounts : Int → Account
  syncing : List (Nat × Int)
  tasks : List Int
  now : Timestamp

/-- What `GoogleCallback` knows after the code exchange; the token is already
encrypted, and empty when Google sent none. -/
structure Login where
  googleID : String
  email : String
  refreshToken : String
  hasCalendarAccess : Bool
deriving DecidableEq, Repr

inductive Request where
  | lockUser (process : Nat) (userID : Int)
  | unlockUser (process : Nat) (userID : Int)
  | lockKey (userID : Int)
  | unlockKey (userID : Int)
  | getCachedUser (userID : Int)
  | setCachedUser (userID : Int) (user : CachedUser)
  | deleteCachedUser (userID : Int)
  | getCachedSynced (userID : Int)
  | setCachedSynced (userID : Int) (contestIDs : List String)
  | deleteCachedSynced (userID : Int)
  | getCachedContests (platform : String)
  | setCachedContests (platform : String) (contests : List ContestRow)
  | deleteCachedContests (platform : String)
  | cacheLastSync (userID : Int)
  | selectUser (userID : Int)
  | markSyncing (userID : Int)
  | markSynced (userID : Int) (status : SyncStatus)
  | setCalendarID (userID : Int) (calendarID : String)
  | updatePreferences (userID : Int) (platforms : Option (List String)) (useDedicated : Bool)
  | upsertUser (login : Login)
  -- `rejected` names the token that caused the deletion; the statement ignores it.
  | deleteUser (userID : Int) (rejected : Option String)
  | pruneUsers
  | selectTracked (userID : Int)
  | selectSynced (userID : Int)
  | deleteSynced (userID : Int) (contestID : String)
  | insertSynced (row : SyncedEvent)
  | selectContests (platforms : List String)
  | pruneObsolete (platform : String) (contestIDs : List String)
  | upsertContests (contests : List Contest)
  | pruneEnded
  | getPrimary (userID : Int) (token : String)
  | insertCalendar (userID : Int) (token timezone : String)
  | insertEvent (userID : Int) (token calendarID : String) (event : Event)
  | updateEvent (userID : Int) (token calendarID eventID : String) (event : Event)
  | deleteEvent (userID : Int) (token calendarID eventID : String)
  | publishSyncTask (userID : Int)

/-- A row of the clean-up query: a tracked event and its contest's platform. -/
structure Tracked where
  contestID : String
  googleEventID : String
  platform : String
deriving DecidableEq, Repr

namespace Request

/-- `Bool` is the absence of an error; `Option` of a result is `none` on an
error; a Google call answers the error itself. -/
abbrev Answer : Request → Type
  | lockUser _ _ => Bool
  | unlockUser _ _ => Unit
  | lockKey _ => Option Bool
  | unlockKey _ => Unit
  | getCachedUser _ => Option CachedUser
  | setCachedUser _ _ => Unit
  | deleteCachedUser _ => Unit
  | getCachedSynced _ => Option (List String)
  | setCachedSynced _ _ => Unit
  | deleteCachedSynced _ => Unit
  | getCachedContests _ => Option (List ContestRow)
  | setCachedContests _ _ => Unit
  | deleteCachedContests _ => Unit
  | cacheLastSync _ => Unit
  | selectUser _ => Option (Option UserRow)
  | markSyncing _ => Bool
  | markSynced _ _ => Bool
  | setCalendarID _ _ => Bool
  | updatePreferences _ _ _ => Bool
  | upsertUser _ => Option (Int × Option (List String))
  | deleteUser _ _ => Bool
  | pruneUsers => Bool
  | selectTracked _ => Option (List Tracked)
  | selectSynced _ => Option (List String)
  | deleteSynced _ _ => Bool
  | insertSynced _ => Bool
  | selectContests _ => Option (List ContestRow)
  | pruneObsolete _ _ => Bool
  | upsertContests _ => Bool
  | pruneEnded => Bool
  | getPrimary _ _ => Except GoogleError String
  | insertCalendar _ _ _ => Except GoogleError String
  | insertEvent _ _ _ _ => Except GoogleError Event
  | updateEvent _ _ _ _ _ => Option GoogleError
  | deleteEvent _ _ _ _ => Option GoogleError
  | publishSyncTask _ => Bool

/-- The map of a process cannot fail. -/
def locksProcess : Request → Bool
  | .lockUser _ _ => true
  | .unlockUser _ _ => true
  | _ => false

end Request

abbrev service : Resumable.Interface :=
  { Request := Request
    Answer := Request.Answer }

/-- One request as a program. -/
abbrev ask (request : Request) : Resumable.Program service request.Answer :=
  .call request .done

/-! ### Statements that are more than one operation of the database -/

def Contest.row (contest : Contest) : ContestRow :=
  { id := contest.id
    name := contest.name
    url := contest.url
    startTime := unixTime contest.startTime
    endTime := unixTime contest.endTime
    duration := contest.duration
    platform := contest.platform }

namespace Database

variable (database : Database)

/-- The statements of one batch take effect together, in order. -/
def upsertContests (contests : List Contest) : Database :=
  contests.foldl (fun database contest => database.upsertContest contest.row) database

/-- `DELETE FROM contests WHERE platform = $1 AND start_time > NOW() AND
id != ALL($2)`. -/
def pruneObsolete (now : Timestamp) (platform : String) (contestIDs : List String) : Database :=
  database.deleteContests (fun contest => contest.platform = platform ∧ now < contest.startTime ∧
      contest.id ∉ contestIDs)

/-- `DELETE FROM contests WHERE end_time < NOW()`. -/
def pruneEnded (now : Timestamp) : Database :=
  database.deleteContests (fun contest => contest.endTime < now)

def dayInterval : Timestamp := 24 * 60 * 60 * 1000000

/-- `DELETE FROM users WHERE (refresh_token IS NULL OR refresh_token = '') AND
created_at < NOW() - INTERVAL '24 hours'`. -/
def pruneUsers (now : Timestamp) : Database :=
  database.deleteUsers
    (fun user => user.refreshToken.getD "" = "" ∧ user.createdAt < now - dayInterval)

/-- The clean-up query: tracked events of a user joined with their contests. -/
def selectTracked (userID : Int) : List Tracked :=
  (database.syncedEvents.rows.filter (fun row => row.userID = userID)).filterMap fun row =>
    (database.contests.find row.contestID).map fun contest =>
      { contestID := row.contestID
        googleEventID := row.googleEventID
        platform := contest.platform }

def selectSynced (userID : Int) : List String :=
  (database.syncedEvents.rows.filter (fun row => row.userID = userID)).map SyncedEvent.contestID

/-- `SELECT ... FROM contests WHERE platform = ANY($1) AND start_time > NOW()`. -/
def selectContests (now : Timestamp) (platforms : List String) :
    List ContestRow :=
  database.contests.rows.filter
    (fun contest => contest.platform ∈ platforms ∧ now < contest.startTime)

variable {database : Database} {userID : Int}

theorem mem_selectTracked {item : Tracked} :
    item ∈ database.selectTracked userID ↔
      ⟨userID, item.contestID, item.googleEventID⟩ ∈ database.syncedEvents.rows ∧
        ∃ contest ∈ database.contests.rows,
          contest.id = item.contestID ∧ contest.platform = item.platform := by
  unfold selectTracked
  rw [List.mem_filterMap]
  constructor
  · rintro ⟨⟨rowUser, contestID, eventID⟩, member, joined⟩
    obtain ⟨inTable, ofUser⟩ := List.mem_filter.mp member
    obtain ⟨contest, found, rfl⟩ := Option.map_eq_some_iff.mp joined
    obtain ⟨known, atID⟩ := Keyed.Table.find_eq_some_iff.mp found
    cases of_decide_eq_true ofUser
    exact ⟨inTable, contest, known, atID, rfl⟩
  · rintro ⟨inTable, contest, known, atID, onPlatform⟩
    refine ⟨_, List.mem_filter.mpr ⟨inTable, decide_eq_true rfl⟩, ?_⟩
    rw [Keyed.Table.find_eq_some_iff.mpr ⟨known, atID⟩, Option.map_some, onPlatform]

theorem mem_selectSynced {contestID : String} :
    contestID ∈ database.selectSynced userID ↔
      ∃ eventID, ⟨userID, contestID, eventID⟩ ∈ database.syncedEvents.rows := by
  unfold selectSynced
  rw [List.mem_map]
  constructor
  · rintro ⟨⟨rowUser, rowContest, eventID⟩, member, rfl⟩
    obtain ⟨inTable, ofUser⟩ := List.mem_filter.mp member
    cases of_decide_eq_true ofUser
    exact ⟨eventID, inTable⟩
  · rintro ⟨eventID, inTable⟩
    exact ⟨_, List.mem_filter.mpr ⟨inTable, decide_eq_true rfl⟩, rfl⟩

theorem mem_selectContests {now : Timestamp} {platforms : List String} {contest : ContestRow} :
    contest ∈ database.selectContests now platforms ↔
      contest ∈ database.contests.rows ∧ contest.platform ∈ platforms ∧
        now < contest.startTime := by
  unfold selectContests
  rw [List.mem_filter, decide_eq_true_iff]

def markSyncing : UserChange :=
  { apply := fun user => { user with syncStatus := .syncing }
    keepsID := fun _ => rfl
    keepsGoogleID := fun _ => rfl }

def markSynced (status : SyncStatus) (now : Timestamp) : UserChange :=
  { apply := fun user => { user with syncStatus := status, lastSyncAt := some now }
    keepsID := fun _ => rfl
    keepsGoogleID := fun _ => rfl }

def setCalendarID (calendarID : String) : UserChange :=
  { apply := fun user => { user with calendarID := some calendarID }
    keepsID := fun _ => rfl
    keepsGoogleID := fun _ => rfl }

/-- The two forms of the update: switching to the primary calendar also clears
`calendar_id`. -/
def updatePreferences (platforms : Option (List String)) (useDedicated : Bool) : UserChange :=
  { apply := fun user =>
      if useDedicated then { user with platforms := platforms, useDedicated := true }
      else { user with platforms := platforms, useDedicated := false, calendarID := none }
    keepsID := by intro user; cases useDedicated <;> rfl
    keepsGoogleID := by intro user; cases useDedicated <;> rfl }

end Database

/-! ### Serving a request -/

namespace World

def setAccount (world : World) (userID : Int) (account : Account) : World :=
  { world with accounts := update world.accounts userID account }

def setDatabase (world : World) (database : Database) : World :=
  { world with database := database }

/-- The effect and the answer of a request that does not fail on the way. -/
def handle (world : World) : (request : Request) → World × request.Answer
  | .lockUser process userID =>
    if (process, userID) ∈ world.syncing then (world, false)
    else ({ world with syncing := (process, userID) :: world.syncing }, true)
  | .unlockUser process userID =>
    ({ world with syncing := world.syncing.filter (fun held => held ≠ (process, userID)) }, ())
  | .lockKey userID =>
    if world.valkey.locks userID then (world, some false)
    else
      ({ world with valkey :=
          { world.valkey with locks := update world.valkey.locks userID true } },
        some true)
  | .unlockKey userID =>
    ({ world with valkey :=
        { world.valkey with locks := update world.valkey.locks userID false } }, ())
  | .getCachedUser userID => (world, world.valkey.users userID)
  | .setCachedUser userID user =>
    ({ world with valkey :=
        { world.valkey with users := update world.valkey.users userID (some user) } }, ())
  | .deleteCachedUser userID =>
    ({ world with valkey :=
        { world.valkey with users := update world.valkey.users userID none } }, ())
  | .getCachedSynced userID => (world, world.valkey.syncedEvents userID)
  | .setCachedSynced userID contestIDs =>
    ({ world with valkey :=
        { world.valkey with
          syncedEvents := update world.valkey.syncedEvents userID (some contestIDs) } }, ())
  | .deleteCachedSynced userID =>
    ({ world with valkey :=
        { world.valkey with
          syncedEvents := update world.valkey.syncedEvents userID none } }, ())
  | .getCachedContests platform => (world, world.valkey.contests platform)
  | .setCachedContests platform contests =>
    ({ world with valkey :=
        { world.valkey with
          contests := update world.valkey.contests platform (some contests) } }, ())
  | .deleteCachedContests platform =>
    ({ world with valkey :=
        { world.valkey with contests := update world.valkey.contests platform none } }, ())
  | .cacheLastSync userID =>
    ({ world with valkey :=
        { world.valkey with
          lastSync := update world.valkey.lastSync userID (some world.now) } }, ())
  | .selectUser userID => (world, some (world.database.users.find userID))
  | .markSyncing userID =>
    (world.setDatabase (world.database.updateUser userID Database.markSyncing), true)
  | .markSynced userID status =>
    (world.setDatabase
      (world.database.updateUser userID (Database.markSynced status world.now)), true)
  | .setCalendarID userID calendarID =>
    (world.setDatabase (world.database.updateUser userID (Database.setCalendarID calendarID)), true)
  | .updatePreferences userID platforms useDedicated =>
    (world.setDatabase
      (world.database.updateUser userID (Database.updatePreferences platforms useDedicated)), true)
  | .upsertUser login =>
    let upserted := world.database.upsertUser login.googleID login.email login.refreshToken
      login.hasCalendarAccess world.now
    (world.setDatabase upserted.1, some upserted.2)
  | .deleteUser userID _ =>
    (world.setDatabase (world.database.deleteUsers (fun user => user.id = userID)), true)
  | .pruneUsers => (world.setDatabase (world.database.pruneUsers world.now), true)
  | .selectTracked userID => (world, some (world.database.selectTracked userID))
  | .selectSynced userID => (world, some (world.database.selectSynced userID))
  | .deleteSynced userID contestID =>
    (world.setDatabase (world.database.deleteSyncedEvent userID contestID), true)
  | .insertSynced row =>
    match world.database.insertSyncedEvent row with
    | some database => (world.setDatabase database, true)
    | none => (world, false)
  | .selectContests platforms =>
    (world, some (world.database.selectContests world.now platforms))
  | .pruneObsolete platform contestIDs =>
    (world.setDatabase (world.database.pruneObsolete world.now platform contestIDs), true)
  | .upsertContests contests =>
    (world.setDatabase (world.database.upsertContests contests), true)
  | .pruneEnded => (world.setDatabase (world.database.pruneEnded world.now), true)
  | .getPrimary userID _ => (world, .ok (world.accounts userID).timezone)
  | .insertCalendar userID _ _ =>
    let called := (world.accounts userID).insertCalendar
    (world.setAccount userID called.1, called.2)
  | .insertEvent userID _ calendarID event =>
    let called := (world.accounts userID).insertEvent calendarID event
    (world.setAccount userID called.1, called.2)
  | .updateEvent userID _ calendarID eventID event =>
    let called := (world.accounts userID).updateEvent calendarID eventID event
    (world.setAccount userID called.1, called.2)
  | .deleteEvent userID _ calendarID eventID =>
    let called := (world.accounts userID).deleteEvent calendarID eventID
    (world.setAccount userID called.1, called.2)
  | .publishSyncTask userID => ({ world with tasks := world.tasks ++ [userID] }, true)

end World

/-- The answer of a request that failed with this error. -/
def Request.failure (error : GoogleError) : (request : Request) → request.Answer
  | .lockUser _ _ => false
  | .unlockUser _ _ => ()
  | .lockKey _ => none
  | .unlockKey _ => ()
  | .getCachedUser _ => none
  | .setCachedUser _ _ => ()
  | .deleteCachedUser _ => ()
  | .getCachedSynced _ => none
  | .setCachedSynced _ _ => ()
  | .deleteCachedSynced _ => ()
  | .getCachedContests _ => none
  | .setCachedContests _ _ => ()
  | .deleteCachedContests _ => ()
  | .cacheLastSync _ => ()
  | .selectUser _ => none
  | .markSyncing _ => false
  | .markSynced _ _ => false
  | .setCalendarID _ _ => false
  | .updatePreferences _ _ _ => false
  | .upsertUser _ => none
  | .deleteUser _ _ => false
  | .pruneUsers => false
  | .selectTracked _ => none
  | .selectSynced _ => none
  | .deleteSynced _ _ => false
  | .insertSynced _ => false
  | .selectContests _ => none
  | .pruneObsolete _ _ => false
  | .upsertContests _ => false
  | .pruneEnded => false
  | .getPrimary _ _ => .error error
  | .insertCalendar _ _ _ => .error error
  | .insertEvent _ _ _ _ => .error error
  | .updateEvent _ _ _ _ _ => some error
  | .deleteEvent _ _ _ _ => some error
  | .publishSyncTask _ => false

/-- `lost` fails before the request takes effect, `late` after it. -/
inductive Outcome where
  | served
  | lost (error : GoogleError)
  | late (error : GoogleError)
deriving DecidableEq, Repr

def World.serve (world : World) (request : Request) (outcome : Outcome) :
    World × request.Answer :=
  match outcome with
  | .served => world.handle request
  | .lost error => (world, request.failure error)
  | .late error => ((world.handle request).1, request.failure error)

abbrev environment : Resumable.Environment service :=
  { State := World
    Outcome := Outcome
    serve := World.serve }

end ContestSync
