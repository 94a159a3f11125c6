/-
Data of the service: the rows of the three tables, the profile that is cached
in Valkey, the contests a fetcher returns, and the calendar events built from
them. Columns that no modelled statement reads or writes are left out.
-/

import ContestSync.Identifiers

namespace ContestSync

/-- Microseconds since the epoch, the resolution of `TIMESTAMPTZ`. -/
abbrev Timestamp := Int

/-- `time.Unix(seconds, 0)`. -/
def unixTime (seconds : Int) : Timestamp :=
  seconds * 1000000

/-- `extractor.Contest`, with its times in seconds as the fetchers give them. -/
structure Contest where
  id : String
  name : String
  url : String
  startTime : Int
  endTime : Int
  duration : Int
  platform : String
deriving DecidableEq, Repr

/-- `extractor.Platforms`; the same names are the keys of `extractor.Fetchers`. -/
def platforms : List String :=
  ["codechef", "codeforces", "leetcode", "atcoder", "hackerrank", "geeksforgeeks", "code360"]

structure ContestRow where
  id : String
  name : String
  url : String
  startTime : Timestamp
  endTime : Timestamp
  duration : Int
  platform : String
deriving DecidableEq, Repr

inductive SyncStatus where
  | pending
  | syncing
  | success
  | failed
deriving DecidableEq, Repr

/-- A row of `users`. `none` is `NULL`; for `platforms` it is also what the
driver makes of a nil slice, in both directions. -/
structure UserRow where
  id : Int
  googleID : String
  email : String
  refreshToken : Option String
  calendarID : Option String
  useDedicated : Bool
  platforms : Option (List String)
  hasCalendarAccess : Bool
  lastSyncAt : Option Timestamp
  syncStatus : SyncStatus
  createdAt : Timestamp
deriving DecidableEq, Repr

structure SyncedEvent where
  userID : Int
  contestID : String
  googleEventID : String
deriving DecidableEq, Repr

/-- `models.CachedUser`. `encoding/json` gives back the struct it was given, a
nil slice included, so the cached text is identified with the struct. -/
structure CachedUser where
  id : Int
  googleID : String
  email : String
  refreshToken : String
  calendarID : String
  useDedicated : Bool
  platforms : Option (List String)
  hasCalendarAccess : Bool
deriving DecidableEq, Repr

/-! ### Calendar events -/

inductive EventStatus where
  | confirmed
  | tentative
  | cancelled
deriving DecidableEq, Repr

/-- `calendar.EventDateTime`; the RFC 3339 text is kept as its instant. -/
structure EventDateTime where
  dateTime : Timestamp
  timeZone : String
deriving DecidableEq, Repr

structure EventReminder where
  method : String
  minutes : Nat
deriving DecidableEq, Repr

structure Event where
  id : String
  summary : String
  description : String
  location : String
  start : EventDateTime
  finish : EventDateTime
  reminders : List EventReminder
  transparency : String
  status : EventStatus
deriving DecidableEq, Repr

def reminderOverrides : List EventReminder :=
  [{ method := "popup", minutes := 30 }, { method := "popup", minutes := 10 },
    { method := "email", minutes := 60 }]

/-- The event `SyncUser` builds for a contest. A request without a status is
stored as confirmed, which is also what the request after a conflict asks for. -/
def contestEvent (googleID timezone : String) (contest : ContestRow) : Event :=
  { id := generateDeterministicEventID googleID contest.id
    summary := "[" ++ contest.platform ++ "] " ++ contest.name
    description := "Platform: " ++ contest.platform ++ "\nURL: " ++ contest.url ++
      "\n\nSynced by ContestSync"
    location := contest.url
    start := { dateTime := contest.startTime, timeZone := timezone }
    finish := { dateTime := contest.endTime, timeZone := timezone }
    reminders := reminderOverrides
    transparency := "opaque"
    status := .confirmed }

end ContestSync
