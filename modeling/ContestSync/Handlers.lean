/-
The request handlers and background jobs that share the tables and the cache
with `SyncUser`: `Me`, `SavePreferences`, `GoogleCallback`, `DeleteAccount`,
`PruneOldData` and `handleExtraction`. Each starts after authentication, input
decoding and the captcha; the response is what is written to the client, except
for the CSRF token, which comes from the session alone.
-/

import ContestSync.SyncUser

namespace ContestSync

open Resumable Program

/-- Whether a Valkey client is configured is all the handlers differ in here. -/
structure Handlers where
  valkey : Bool

namespace Handlers

variable (handlers : Handlers)

/-! ### Me -/

/-- The `Scan` of `Me`: a `NULL` token is read as an empty one. -/
def scanMe (row : UserRow) : CachedUser :=
  { id := row.id
    googleID := row.googleID
    email := row.email
    refreshToken := row.refreshToken.getD ""
    calendarID := row.calendarID.getD ""
    useDedicated := row.useDedicated
    platforms := row.platforms
    hasCalendarAccess := row.hasCalendarAccess }

structure UserResponse where
  email : String
  useDedicated : Bool
  platforms : Option (List String)
  hasCalendarAccess : Bool
  refreshTokenMissing : Bool
  icalFeedURL : String
deriving DecidableEq

def userResponse (user : CachedUser) : UserResponse :=
  { email := user.email
    useDedicated := user.useDedicated
    platforms := user.platforms
    hasCalendarAccess := user.hasCalendarAccess
    refreshTokenMissing := user.refreshToken = "" || !user.hasCalendarAccess
    icalFeedURL := "/feed/ical?token=" ++ feedToken user.id }

/-- The part of `me` after a miss. -/
def selectMe (userID : Int) : Program service (Option UserResponse) := do
  match ← ask (.selectUser userID) with
  | some (some row) =>
    if handlers.valkey then
      ask (.setCachedUser userID (scanMe row))
    return some (userResponse (scanMe row))
  | _ => return none

/-- `none` is the answer 404. -/
def me (userID : Int) : Program service (Option UserResponse) := do
  let cached ← if handlers.valkey then ask (.getCachedUser userID) else pure none
  match cached with
  | some user => return some (userResponse user)
  | none => handlers.selectMe userID

/-! ### SavePreferences -/

inductive SaveResponse where
  | invalidPlatform
  | internalError
  | ok (changed : Bool)
deriving DecidableEq

/-- The comparison with the current preferences: the lengths and the flag, then
the number of occurrences of every platform. -/
def preferencesChanged (requested : Option (List String)) (useDedicated : Bool)
    (user : CachedUser) : Bool :=
  let wanted := requested.getD []
  let current := user.platforms.getD []
  if wanted.length ≠ current.length ∨ useDedicated ≠ user.useDedicated then true
  else (current ++ wanted).any
    (fun platform => (current.count platform : Int) - wanted.count platform ≠ 0)

def savePreferences (userID : Int) (requested : Option (List String)) (useDedicated : Bool) :
    Program service SaveResponse := do
  if ∃ platform ∈ requested.getD [], platform ∉ platforms then
    return .invalidPlatform
  else
    match ← loadSyncProfile handlers.valkey userID with
    | none => return .internalError
    | some user =>
      if preferencesChanged requested useDedicated user then
        if ← ask (.updatePreferences userID requested useDedicated) then
          if handlers.valkey then
            ask (.deleteCachedUser userID)
          return .ok true
        else
          return .internalError
      else
        return .ok false

/-! ### Accounts -/

inductive CallbackResponse where
  | internalError
  | redirect
deriving DecidableEq

def googleCallback (login : Login) : Program service CallbackResponse := do
  match ← ask (.upsertUser login) with
  | none => return .internalError
  | some (userID, chosen) =>
    if handlers.valkey then
      ask (.deleteCachedUser userID)
    if chosen.getD [] ≠ [] then
      let _ ← ask (.publishSyncTask userID)
    return .redirect

inductive DeleteResponse where
  | internalError
  | deleted
deriving DecidableEq

/-- Without the clean-up of Google data, which runs in the background and
touches neither the tables nor the cache. A user that is not in the table is
answered before anything is deleted. -/
def deleteAccount (userID : Int) : Program service DeleteResponse := do
  match ← ask (.selectUser userID) with
  | some none => return .deleted
  | _ =>
    if ← ask (.deleteUser userID none) then
      if handlers.valkey then
        ask (.deleteCachedUser userID)
      return .deleted
    else
      return .internalError

end Handlers

/-! ### Background jobs -/

/-- `Scheduler.PruneOldData`; errors are only logged. -/
def pruneOldData (valkey : Bool) : Program service Unit := do
  let _ ← ask .pruneEnded
  let _ ← ask .pruneUsers
  each (fun platform => do
    if valkey then
      ask (.deleteCachedContests platform)) platforms

inductive ExtractionError where
  | unknownPlatform
  | fetch
  | save
deriving DecidableEq

/-- `Queue.handleExtraction` for what the fetcher returned, `none` for an error.
The prune is not undone when the batch after it fails. -/
def handleExtraction (valkey : Bool) (platform : String) (fetched : Option (List Contest)) :
    Program service (Except ExtractionError Unit) := do
  if platform ∉ platforms then
    return .error .unknownPlatform
  else
    match fetched with
    | none => return .error .fetch
    | some contests =>
      if contests = [] then
        return .ok ()
      else
        let _ ← ask (.pruneObsolete platform (contests.map Contest.id))
        if ← ask (.upsertContests contests) then
          if valkey then
            ask (.deleteCachedContests platform)
          return .ok ()
        else
          return .error .save

end ContestSync
