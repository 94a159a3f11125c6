/-
`SyncUser` as a resumable program, request for request as in `sync.go`. The
deferred calls are written where they run: the status update around the body,
the release of the lock around both. Logging, the Telegram callback and the
pauses between attempts are left out; none of them is read by the program.
-/

import ContestSync.Service

namespace ContestSync

open Resumable Program

/-- A `Syncer`. `valkey` tells whether a client is configured; `decryptToken`
is `auth.DecryptToken` under its encryption key, `none` for an error. -/
structure Syncer where
  process : Nat
  valkey : Bool
  decryptToken : String → Option String

inductive SyncError where
  | valkey
  | alreadySyncing
  | profile
  | decrypt
  | primaryCalendar (error : GoogleError)
  | contests
deriving DecidableEq, Repr

/-- The `Scan` of the profile query shared by `SyncUser` and `SavePreferences`.
It fails on a `NULL` token, and `has_calendar_access` is not selected. -/
def scanSyncProfile (row : UserRow) : Option CachedUser :=
  row.refreshToken.map fun token =>
    { id := row.id
      googleID := row.googleID
      email := row.email
      refreshToken := token
      calendarID := row.calendarID.getD ""
      useDedicated := row.useDedicated
      platforms := row.platforms
      hasCalendarAccess := false }

theorem googleID_of_scanSyncProfile {row : UserRow} {user : CachedUser}
    (scanned : scanSyncProfile row = some user) : user.googleID = row.googleID := by
  unfold scanSyncProfile at scanned
  obtain ⟨token, _, rfl⟩ := Option.map_eq_some_iff.mp scanned
  rfl

def fillProfile (valkey : Bool) (userID : Int) (profile : Option CachedUser) :
    Program service (Option CachedUser) := do
  match profile with
  | some user =>
    if valkey then
      ask (.setCachedUser userID user)
    return some user
  | none => return none

/-- The part of `loadSyncProfile` after a miss. -/
def selectProfile (valkey : Bool) (userID : Int) : Program service (Option CachedUser) := do
  match ← ask (.selectUser userID) with
  | some (some row) => fillProfile valkey userID (scanSyncProfile row)
  | _ => return none

/-- The profile that `SyncUser` and `SavePreferences` work with: from the cache,
or from the database and then into the cache. -/
def loadSyncProfile (valkey : Bool) (userID : Int) : Program service (Option CachedUser) := do
  let cached ← if valkey then ask (.getCachedUser userID) else pure none
  match cached with
  | some user => return some user
  | none => selectProfile valkey userID

namespace Syncer

variable (syncer : Syncer) (userID : Int)

/-- The first component of `handleSyncError`: whether the account was deleted. -/
def handleSyncError (token : String) (error : GoogleError) : Program service Bool := do
  if error.revoked then
    let _ ← ask (.deleteUser userID (some token))
    if syncer.valkey then
      ask (.deleteCachedUser userID)
    return true
  else
    return false

theorem handleSyncError_harmless (token : String) {error : GoogleError}
    (harmless : error.revoked = false) :
    syncer.handleSyncError userID token error = .done false := by
  unfold handleSyncError
  rw [harmless]
  rfl

def loadProfile : Program service (Option CachedUser) :=
  loadSyncProfile syncer.valkey userID

/-- A dedicated calendar was created; from now on the user's runs target it. -/
def adoptCalendar (calendarID : String) : Program service Unit := do
  let _ ← ask (.setCalendarID userID calendarID)
  if syncer.valkey then
    ask (.deleteCachedUser userID)

/-- The part of `targetCalendar` for a user without a dedicated calendar as yet. -/
def createCalendar (token timezone : String) : Program service (Option String) := do
  match ← ask (.insertCalendar userID token timezone) with
  | .error error =>
    if ← syncer.handleSyncError userID token error then
      return none
    else
      return some "primary"
  | .ok calendarID =>
    syncer.adoptCalendar userID calendarID
    return some calendarID

/-- `none` when the account was deleted on the way. -/
def targetCalendar (token timezone : String) (user : CachedUser) :
    Program service (Option String) := do
  if user.useDedicated then
    if user.calendarID ≠ "" ∧ user.calendarID ≠ "primary" then
      return some user.calendarID
    else
      syncer.createCalendar userID token timezone
  else
    return some "primary"

/-! ### Unselected platforms -/

def deleteAttempt (token calendarID eventID : String) :
    Program service (Except GoogleError (Option GoogleError)) := do
  match ← ask (.deleteEvent userID token calendarID eventID) with
  | none => return .ok none
  | some error =>
    if error.code = some 404 then
      return .ok (some error)
    else
      return .error error

def removeTracked (token calendarID : String) (item : Tracked) : Program service Unit := do
  -- The error of the last attempt is only logged.
  let _ ← retry (deleteAttempt userID token calendarID item.googleEventID) 2
  let _ ← ask (.deleteSynced userID item.contestID)
  return ()

def cleanup (token calendarID : String) (selected : List String) : Program service Unit := do
  match ← ask (.selectTracked userID) with
  | none => return ()
  | some rows =>
    each (removeTracked userID token calendarID) (rows.filter (fun row => row.platform ∉ selected))

/-! ### The synced set and the contests -/

/-- The part of `loadSynced` after a miss. -/
def selectSyncedSet : Program service (List String) := do
  match ← ask (.selectSynced userID) with
  | some contestIDs =>
    if syncer.valkey then
      ask (.setCachedSynced userID contestIDs)
    return contestIDs
  | none => return []

def loadSynced : Program service (List String) := do
  let cached ← if syncer.valkey then ask (.getCachedSynced userID) else pure none
  match cached with
  | some contestIDs => return contestIDs
  | none => syncer.selectSyncedSet userID

/-- The contests found in the cache, and the platforms that were missed. -/
def cachedContests : List String → Program service (List ContestRow × List String)
  | [] => return ([], [])
  | platform :: rest => do
      let hit ← ask (.getCachedContests platform)
      let (found, missed) ← cachedContests rest
      match hit with
      | some contests => return (contests ++ found, missed)
      | none => return (found, platform :: missed)

def fillContests (rows : List ContestRow) : List String → Program service (List ContestRow)
  | [] => return []
  | platform :: rest => do
      let own := rows.filter (fun contest => contest.platform = platform)
      ask (.setCachedContests platform own)
      let others ← fillContests rows rest
      return own ++ others

def loadContests (selected : List String) : Program service (Option (List ContestRow)) := do
  if syncer.valkey then
    let (found, missed) ← cachedContests selected
    if missed = [] then
      return some found
    else
      match ← ask (.selectContests missed) with
      | none => return none
      | some rows =>
        let filled ← fillContests rows missed
        return some (found ++ filled)
  else
    let rows ← ask (.selectContests selected)
    return rows

/-! ### The insert loop -/

/-- How the attempts to insert an event end, when an attempt ends them. -/
inductive InsertExit where
  | created (event : Event)
  | conflict (error : GoogleError)
  | deleted

def insertFailed (token : String) (error : GoogleError) :
    Program service (Except GoogleError InsertExit) := do
  if error.code = some 409 then
    return .ok (.conflict error)
  else if ← syncer.handleSyncError userID token error then
    return .ok .deleted
  else
    return .error error

def insertAttempt (token calendarID : String) (event : Event) :
    Program service (Except GoogleError InsertExit) := do
  match ← ask (.insertEvent userID token calendarID event) with
  | .ok created => return .ok (.created created)
  | .error error => syncer.insertFailed userID token error

def updateAttempt (token calendarID : String) (event : Event) :
    Program service (Except GoogleError Unit) := do
  match ← ask (.updateEvent userID token calendarID event.id event) with
  | none => return .ok ()
  | some error => return .error error

def recordSynced (anySynced : Bool) (contestID eventID : String) :
    Program service (Except Unit Bool) := do
  let saved ← ask (.insertSynced
    { userID := userID, contestID := contestID, googleEventID := eventID })
  return .ok (saved || anySynced)

def giveUp (token : String) (anySynced : Bool) (error : GoogleError) :
    Program service (Except Unit Bool) := do
  if ← syncer.handleSyncError userID token error then
    return .error ()
  else
    return .ok anySynced

theorem giveUp_harmless (token : String) (anySynced : Bool) {error : GoogleError}
    (harmless : error.revoked = false) :
    syncer.giveUp userID token anySynced error = .done (.ok anySynced) := by
  unfold giveUp
  rw [syncer.handleSyncError_harmless userID token harmless]
  rfl

/-- One iteration over a contest that is not in the synced set. An error of
the result is the early return of a deleted account. -/
def syncContest (token calendarID timezone googleID : String) (anySynced : Bool)
    (contest : ContestRow) : Program service (Except Unit Bool) := do
  let event := contestEvent googleID timezone contest
  match ← retry (syncer.insertAttempt userID token calendarID event) 2 with
  | .ok .deleted => return .error ()
  | .ok (.created created) => recordSynced userID anySynced contest.id created.id
  | .ok (.conflict error) =>
    match ← retry (updateAttempt userID token calendarID event) 2 with
    | .ok () => recordSynced userID anySynced contest.id event.id
    | .error _ => syncer.giveUp userID token anySynced error
  | .error error => syncer.giveUp userID token anySynced error

def syncContests (token calendarID timezone googleID : String) (synced : List String)
    (contests : List ContestRow) : Program service (Except Unit Bool) :=
  traverse (fun anySynced contest =>
      if contest.id ∈ synced then .done (.ok anySynced)
      else syncer.syncContest userID token calendarID timezone googleID anySynced contest)
    false contests

/-! ### The run -/

def syncCalendar (token calendarID timezone : String) (user : CachedUser) :
    Program service (Except SyncError Unit) := do
  let selected := user.platforms.getD []
  cleanup userID token calendarID selected
  let synced ← syncer.loadSynced userID
  if selected = [] then
    return .ok ()
  else
    match ← syncer.loadContests selected with
    | none => return .error .contests
    | some contests =>
      match ← syncer.syncContests userID token calendarID timezone user.googleID
        synced contests with
      | .error () => return .ok ()
      | .ok anySynced =>
        if anySynced && syncer.valkey then
          ask (.deleteCachedSynced userID)
        return .ok ()

def effectiveTimezone (timezone : String) : String :=
  if timezone = "" then "UTC" else timezone

/-- The part of `syncProfile` once the timezone is known. -/
def syncTarget (token timezone : String) (user : CachedUser) :
    Program service (Except SyncError Unit) := do
  match ← syncer.targetCalendar userID token timezone user with
  | none => return .ok ()
  | some calendarID => syncer.syncCalendar userID token calendarID timezone user

def syncProfile (user : CachedUser) : Program service (Except SyncError Unit) := do
  match syncer.decryptToken user.refreshToken with
  | none => return .error .decrypt
  | some token =>
    match ← ask (.getPrimary userID token) with
    | .error error =>
      if ← syncer.handleSyncError userID token error then
        return .ok ()
      else
        return .error (.primaryCalendar error)
    | .ok timezone =>
      match ← syncer.targetCalendar userID token (effectiveTimezone timezone) user with
      | none => return .ok ()
      | some calendarID =>
        syncer.syncCalendar userID token calendarID (effectiveTimezone timezone) user

def syncLoaded (user : CachedUser) : Program service (Except SyncError Unit) := do
  let _ ← ask (.markSyncing userID)
  let result ← syncer.syncProfile userID user
  let _ ← ask (.markSynced userID (if result.isOk then .success else .failed))
  if syncer.valkey then
    ask (.cacheLastSync userID)
  return result

def syncLocked : Program service (Except SyncError Unit) := do
  match ← syncer.loadProfile userID with
  | none => return .error .profile
  | some user => syncer.syncLoaded userID user

def syncUser : Program service (Except SyncError Unit) := do
  if syncer.valkey then
    match ← ask (.lockKey userID) with
    | none => return .error .valkey
    | some false => return .error .alreadySyncing
    | some true =>
      let result ← syncer.syncLocked userID
      ask (.unlockKey userID)
      return result
  else if ← ask (.lockUser syncer.process userID) then
    let result ← syncer.syncLocked userID
    ask (.unlockUser syncer.process userID)
    return result
  else
    return .error .alreadySyncing

end Syncer

/-! ### A sample world

One user with Codeforces selected, an upcoming Codeforces contest, and an event
left over from the time when LeetCode was selected. -/

def sampleRow : UserRow :=
  { id := 1
    googleID := "1080"
    email := "user@example.com"
    refreshToken := some "token"
    calendarID := none
    useDedicated := false
    platforms := some ["codeforces"]
    hasCalendarAccess := true
    lastSyncAt := none
    syncStatus := .pending
    createdAt := 0 }

def sampleCodeforces : ContestRow :=
  { id := "codeforces_2000"
    name := "Codeforces Round"
    url := "https://codeforces.com/contests/1"
    startTime := unixTime 2000
    endTime := unixTime 9200
    duration := 7200
    platform := "codeforces" }

def sampleLeetcode : ContestRow :=
  { id := "leetcode_3000"
    name := "Weekly Contest"
    url := "https://leetcode.com/contest/weekly"
    startTime := unixTime 3000
    endTime := unixTime 8400
    duration := 5400
    platform := "leetcode" }

def sampleDatabase : Database :=
  { users := ⟨[sampleRow], by decide⟩
    contests := ⟨[sampleCodeforces, sampleLeetcode], by decide⟩
    syncedEvents :=
      ⟨[⟨1, "leetcode_3000", generateDeterministicEventID "1080" "leetcode_3000"⟩], by simp⟩
    serial := 2
    googleIDs := by decide
    eventIDs := by simp
    userRef := by simp [sampleRow]
    contestRef := by simp [sampleCodeforces, sampleLeetcode]
    issued := by decide }

def sampleAccount : Account :=
  { events := fun calendarID eventID =>
      if calendarID = "primary" ∧ eventID = generateDeterministicEventID "1080" "leetcode_3000" then
        some (contestEvent "1080" "UTC" sampleLeetcode)
      else none
    timezone := "UTC"
    calendars := []
    supply := fun index => "calendar" ++ toString index
    retains := fun _ => true }

def sampleWorld : World :=
  { database := sampleDatabase
    valkey := .empty
    accounts := fun _ => sampleAccount
    syncing := []
    tasks := []
    now := unixTime 1000 }

def sampleSyncer : Syncer :=
  { process := 0
    valkey := false
    decryptToken := some }

def sampleUser : CachedUser :=
  { id := 1
    googleID := "1080"
    email := "user@example.com"
    refreshToken := "token"
    calendarID := ""
    useDedicated := false
    platforms := some ["codeforces"]
    hasCalendarAccess := false }

end ContestSync
