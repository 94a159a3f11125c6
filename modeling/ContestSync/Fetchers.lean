/-
The fetchers that decode JSON, besides the Codeforces one. Each walks the entries of the
answer, skips those it cannot use, and fills in the three times of a contest in its own way:
by reading two instants, or by truncating numbers of seconds separately. An error on the way
in is a failed call or a malformed answer.
-/

import ContestSync.Extraction
import ContestSync.TimeLayouts
import ContestSync.UrlParsing

namespace ContestSync

/-- `time.Parse(layout, text)` and `Unix()`. -/
def parseSeconds (layout : List TimeLayout.Chunk) (text : String) : Option Int :=
  TimeLayout.parse layout (Utf8.encode text.toList)

/-- A contest between two instants; `none` is `continue`, when one of them was not read. -/
def contestBetween (platform name url : String) (startTime endTime : Option Int) :
    Option Contest := do
  let startTime ← startTime
  let endTime ← endTime
  some
    { id := generateContestID platform startTime
      name := name
      url := url
      startTime := startTime
      endTime := endTime
      duration := endTime - startTime
      platform := platform }

/-! ### CodeChef -/

structure CodechefEntry where
  contestName : String
  contestCode : String
  startDate : String
  endDate : String

/-- With a zone, or else without one. -/
def codechefTime (text : String) : Option Int :=
  (parseSeconds TimeLayout.rfc3339 text).or (parseSeconds TimeLayout.dateTime text)

def CodechefEntry.contest (entry : CodechefEntry) : Option Contest :=
  if entry.contestName = "" ∨ entry.contestCode = "" ∨ entry.startDate = "" ∨
      entry.endDate = "" then none
  else
    contestBetween "codechef" entry.contestName ("https://www.codechef.com/" ++ entry.contestCode)
      (codechefTime entry.startDate) (codechefTime entry.endDate)

structure LeetcodeEntry where
  title : String
  titleSlug : String
  startTime : Rat
  duration : Rat

def LeetcodeEntry.contest (now : Int) (entry : LeetcodeEntry) : Option Contest :=
  if entry.startTime + entry.duration < now then none
  else
    some
      { id := generateContestID "leetcode" (truncate entry.startTime)
        name := entry.title
        url := "https://leetcode.com/contest/" ++ entry.titleSlug
        startTime := truncate entry.startTime
        endTime := truncate (entry.startTime + entry.duration)
        duration := truncate entry.duration
        platform := "leetcode" }

structure GeeksforgeeksEntry where
  name : String
  slug : String
  startTime : String
  endTime : String

def GeeksforgeeksEntry.contest (entry : GeeksforgeeksEntry) : Option Contest :=
  if entry.name = "" ∨ entry.slug = "" ∨ entry.startTime = "" ∨ entry.endTime = "" then none
  else
    contestBetween "geeksforgeeks" entry.name
      ("https://practice.geeksforgeeks.org/contest/" ++ entry.slug)
      (parseSeconds TimeLayout.dateTime entry.startTime)
      (parseSeconds TimeLayout.dateTime entry.endTime)

structure Code360Entry where
  name : String
  slug : String
  registrationEnd : Rat
  eventStart : Rat
  eventEnd : Rat

def Code360Entry.contest (now : Int) (entry : Code360Entry) : Option Contest :=
  if entry.registrationEnd < now ∨ entry.name = "" ∨ entry.slug = "" then none
  else
    some
      { id := generateContestID "code360" (truncate entry.eventStart)
        name := entry.name
        url := "https://www.naukri.com/code360/contests/" ++ entry.slug
        startTime := truncate entry.eventStart
        endTime := truncate entry.eventEnd
        duration := truncate (entry.eventEnd - entry.eventStart)
        platform := "code360" }

structure HackerrankEntry where
  name : String
  url : String
  startTime : String
  endTime : String
deriving DecidableEq

/-- `strings.Replace(text, "Z", "+00:00", 1)`. -/
def replaceZulu : List Char → List Char
  | [] => []
  | char :: rest => if char = 'Z' then "+00:00".toList ++ rest else char :: replaceZulu rest

def parseISO (text : String) : Option Int :=
  TimeLayout.parse TimeLayout.rfc3339 (Utf8.encode (replaceZulu text.toList))

def urlBytes (url : String) : Url.Bytes :=
  Utf8.encode url.toList

def https : Url.Bytes :=
  urlBytes "https"

def trustedName : Url.Bytes :=
  urlBytes "hackerrank.com"

def acceptedURL (isAddress : Url.Bytes → Bool) (url : String) : Bool :=
  match Url.parse isAddress (urlBytes url) with
  | none => false
  | some parsed => parsed.scheme = https ∧ trustedName <:+ parsed.host

def HackerrankEntry.contest (isAddress : Url.Bytes → Bool) (entry : HackerrankEntry) :
    Option Contest :=
  if entry.name = "" ∨ entry.url = "" ∨ entry.startTime = "" ∨ entry.endTime = "" then none
  else if acceptedURL isAddress entry.url then
    contestBetween "hackerrank" entry.name entry.url (parseISO entry.startTime)
      (parseISO entry.endTime)
  else none

def fetchHackerrankContests (isAddress : Url.Bytes → Bool)
    (answer : Except String (List HackerrankEntry)) : Except String (List Contest) :=
  answer.map (List.filterMap (HackerrankEntry.contest isAddress))

end ContestSync
