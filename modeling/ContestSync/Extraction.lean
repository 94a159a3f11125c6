/-
What an extraction leaves in the contests table. A fetcher names a contest by its
platform and start time, and the batch that stores the list is one upsert per
entry, so that of all entries with one id only the last is kept. A contest of
the list is recorded when its data is what one of these last entries carries, or
when a row of another id had it before and is not pruned.
-/

import Mathlib.Data.Rat.Defs
import ContestSync.Histories

namespace ContestSync

open Resumable Program

/-! ### The Codeforces fetcher -/

/-- `int64(number)`. -/
def truncate (number : Rat) : Int :=
  number.num.tdiv number.den

/-- `fmt.Sprintf("%.0f", number)`: the nearest integer, a tie to the even one. -/
def formatWhole (number : Rat) : String :=
  let floor := number.num.fdiv number.den
  let rest := number - floor
  let rounded :=
    if rest < 1 / 2 ∨ rest = 1 / 2 ∧ floor % 2 = 0 then floor else floor + 1
  if rounded = 0 ∧ number < 0 then "-0" else toString rounded

/-- One entry of the answer of `contest.list`. -/
structure CodeforcesEntry where
  id : Rat
  name : String
  phase : String
  startTimeSeconds : Rat
  durationSeconds : Rat

structure CodeforcesAnswer where
  status : String
  result : List CodeforcesEntry

def CodeforcesEntry.contest (entry : CodeforcesEntry) : Contest :=
  { id := generateContestID "codeforces" (truncate entry.startTimeSeconds)
    name := entry.name
    url := "https://codeforces.com/contestRegistration/" ++ formatWhole entry.id
    startTime := truncate entry.startTimeSeconds
    -- The sum is one of `int64`.
    endTime :=
      Int.bmod (truncate entry.startTimeSeconds + truncate entry.durationSeconds) (2 ^ 64)
    duration := truncate entry.durationSeconds
    platform := "codeforces" }

/-- `FetchCodeforcesContests` at `now`, in seconds, for the decoded answer; `none`
is a failed call or a malformed answer on the way in, an error on the way out. -/
def fetchCodeforcesContests (now : Int) (answer : Option CodeforcesAnswer) :
    Option (List Contest) :=
  match answer with
  | none => none
  | some data =>
    if data.status ≠ "OK" then none
    else
      some ((data.result.filter (fun entry =>
        !(entry.phase ≠ "BEFORE" ∨ truncate entry.startTimeSeconds < now))).map
        CodeforcesEntry.contest)

/-! ### The batch -/

def ContestRow.Carries (row : ContestRow) (contest : Contest) : Prop :=
  row.name = contest.name ∧ row.url = contest.url ∧
    row.startTime = unixTime contest.startTime ∧ row.endTime = unixTime contest.endTime

instance (row : ContestRow) (contest : Contest) : Decidable (row.Carries contest) :=
  inferInstanceAs (Decidable (_ ∧ _))

theorem Contest.carries_row (contest : Contest) : contest.row.Carries contest :=
  ⟨rfl, rfl, rfl, rfl⟩

def lastWith (id : String) : List Contest → Option Contest
  | [] => none
  | contest :: rest => (lastWith id rest).or (if contest.id = id then some contest else none)

variable {contests : List Contest} {id : String} {last : Contest}

theorem lastWith_eq_none :
    lastWith id contests = none ↔ id ∉ contests.map Contest.id := by
  induction contests with
  | nil => simp [lastWith]
  | cons contest rest ih =>
    simp only [lastWith, Option.or_eq_none_iff, ih, List.map_cons, List.mem_cons, not_or]
    constructor
    · rintro ⟨later, here⟩
      refine ⟨?_, later⟩
      rintro rfl
      simp at here
    · rintro ⟨different, later⟩
      exact ⟨later, if_neg (Ne.symm different)⟩

theorem mem_of_lastWith (found : lastWith id contests = some last) :
    last ∈ contests ∧ last.id = id := by
  induction contests with
  | nil => cases found
  | cons contest rest ih =>
    rw [lastWith, Option.or_eq_some_iff] at found
    rcases found with later | ⟨_, here⟩
    · obtain ⟨member, atID⟩ := ih later
      exact ⟨List.mem_cons_of_mem contest member, atID⟩
    · split at here
      · rename_i atID
        cases here
        exact ⟨List.mem_cons_self, atID⟩
      · cases here

variable {contest : Contest}

namespace Database

variable {id : String}

theorem find_upsertContest_other {database : Database} {row : ContestRow}
    (different : row.id ≠ id) :
    (database.upsertContest row).contests.find id = database.contests.find id := by
  unfold upsertContest
  rw [Keyed.Table.find_upsert, if_neg (Ne.symm different)]

theorem find_upsertContest_self (database : Database) (contest : Contest) :
    ∃ row, (database.upsertContest contest.row).contests.find contest.id = some row ∧
      row.Carries contest := by
  have atID : contest.id = contest.row.id := rfl
  unfold upsertContest
  rw [Keyed.Table.find_upsert, if_pos atID]
  refine ⟨_, rfl, ?_⟩
  cases database.contests.find contest.row.id with
  | none => exact contest.carries_row
  | some old => exact contest.carries_row

theorem find_upsertContests_absent (database : Database) (absent : lastWith id contests = none) :
    (database.upsertContests contests).contests.find id = database.contests.find id := by
  induction contests generalizing database with
  | nil => rfl
  | cons contest rest ih =>
    obtain ⟨later, here⟩ := Option.or_eq_none_iff.mp absent
    have different : contest.id ≠ id := by
      intro same
      rw [if_pos same] at here
      cases here
    calc ((database.upsertContest contest.row).upsertContests rest).contests.find id
        = (database.upsertContest contest.row).contests.find id := ih _ later
      _ = database.contests.find id := find_upsertContest_other different

theorem find_upsertContests_last {last : Contest}
    (database : Database) (found : lastWith id contests = some last) :
    ∃ row, (database.upsertContests contests).contests.find id = some row ∧ row.Carries last := by
  induction contests generalizing database with
  | nil => cases found
  | cons contest rest ih =>
    rcases Option.or_eq_some_iff.mp found with later | ⟨absent, here⟩
    · exact ih (database.upsertContest contest.row) later
    · by_cases atID : contest.id = id
      · rw [if_pos atID] at here
        have same := Option.some.inj here
        subst same
        subst atID
        obtain ⟨row, stored, carries⟩ := database.find_upsertContest_self contest
        exact ⟨row, (find_upsertContests_absent _ absent).trans stored, carries⟩
      · rw [if_neg atID] at here
        cases here

end Database

/-! ### The table after an extraction -/

def Database.Records (database : Database) (contest : Contest) : Prop :=
  ∃ row ∈ database.contests.rows, row.Carries contest

/-- `handleExtraction` with every statement succeeding. -/
def extracted (valkey : Bool) (platform : String) (fetched : Option (List Contest))
    (world : World) : World × Except ExtractionError Unit :=
  complete environment (fun _ _ => .served) (handleExtraction valkey platform fetched) world

theorem database_extracted (valkey : Bool) (world : World) {platform : String}
    (supported : platform ∈ platforms) {fetched : List Contest} (nonempty : fetched ≠ []) :
    (extracted valkey platform (some fetched) world).1.database =
      (world.database.pruneObsolete world.now platform
        (fetched.map Contest.id)).upsertContests fetched := by
  unfold extracted handleExtraction
  rw [if_neg (not_not_intro supported)]
  simp only [nonempty, if_false]
  cases valkey
  · rfl
  · rfl

/-- What is in the batch, or in a row that neither the prune nor the batch
touches. -/
def Kept (world : World) (platform : String) (fetched : List Contest) (contest : Contest) :
    Prop :=
  (∃ last ∈ fetched, lastWith last.id fetched = some last ∧ last.row.Carries contest) ∨
    ∃ row ∈ world.database.contests.rows, row.id ∉ fetched.map Contest.id ∧
      ¬(row.platform = platform ∧ world.now < row.startTime) ∧ row.Carries contest

theorem ContestRow.Carries.trans {row : ContestRow}
    (first : row.Carries last) : row.Carries contest ↔ last.row.Carries contest := by
  obtain ⟨name, url, startTime, endTime⟩ := first
  unfold ContestRow.Carries
  rw [name, url, startTime, endTime]
  exact Iff.rfl

theorem records_iff_kept (world : World) (platform : String) (fetched : List Contest)
    (contest : Contest) :
    ((world.database.pruneObsolete world.now platform
        (fetched.map Contest.id)).upsertContests fetched).Records contest ↔
      Kept world platform fetched contest := by
  constructor
  · rintro ⟨row, member, carries⟩
    have stored := Keyed.Table.find_of_mem member
    cases found : lastWith row.id fetched with
    | some last =>
      obtain ⟨listed, atID⟩ := mem_of_lastWith found
      obtain ⟨other, written, carriesLast⟩ := Database.find_upsertContests_last
        (world.database.pruneObsolete world.now platform (fetched.map Contest.id)) found
      cases stored.symm.trans written
      exact Or.inl ⟨last, listed, atID ▸ found, carriesLast.trans.mp carries⟩
    | none =>
      rw [Database.find_upsertContests_absent _ found] at stored
      obtain ⟨kept, _⟩ := Keyed.Table.find_eq_some_iff.mp stored
      obtain ⟨present, spared⟩ := Database.mem_deleteContests.mp kept
      have missing := lastWith_eq_none.mp found
      refine Or.inr ⟨row, present, missing, ?_, carries⟩
      rintro ⟨own, future⟩
      exact of_decide_eq_false spared ⟨own, future, missing⟩
  · rintro (⟨last, _, found, carries⟩ | ⟨row, present, missing, spared, carries⟩)
    · obtain ⟨row, written, carriesLast⟩ := Database.find_upsertContests_last
        (world.database.pruneObsolete world.now platform (fetched.map Contest.id)) found
      exact ⟨row, (Keyed.Table.find_eq_some_iff.mp written).1, carriesLast.trans.mpr carries⟩
    · have kept : row ∈ (world.database.pruneObsolete world.now platform
          (fetched.map Contest.id)).contests.rows := by
        refine Database.mem_deleteContests.mpr ⟨present, decide_eq_false ?_⟩
        rintro ⟨own, future, _⟩
        exact spared ⟨own, future⟩
      have stored := Database.find_upsertContests_absent
        (world.database.pruneObsolete world.now platform (fetched.map Contest.id))
        (lastWith_eq_none.mpr missing)
      rw [Keyed.Table.find_of_mem kept] at stored
      exact ⟨row, (Keyed.Table.find_eq_some_iff.mp stored).1, carries⟩

/-- Exactly which lists an extraction records as a whole. -/
theorem extraction_records_iff (valkey : Bool) (world : World) {platform : String}
    (supported : platform ∈ platforms) {fetched : List Contest} (nonempty : fetched ≠ []) :
    (∀ contest ∈ fetched,
      (extracted valkey platform (some fetched) world).1.database.Records contest) ↔
      ∀ contest ∈ fetched, Kept world platform fetched contest := by
  rw [database_extracted valkey world supported nonempty]
  exact forall₂_congr (fun contest _ => records_iff_kept world platform fetched contest)

/-! ### Two rounds at one time -/

def codeforcesEntry (id : Rat) (name : String) (startTimeSeconds : Rat) : CodeforcesEntry :=
  { id := id
    name := name
    phase := "BEFORE"
    startTimeSeconds := startTimeSeconds
    durationSeconds := 7200 }

/-- The two divisions of a round start together. -/
def bothDivisions : CodeforcesAnswer :=
  { status := "OK"
    result := [codeforcesEntry 2001 "Codeforces Round (Div. 1)" 5000,
      codeforcesEntry 2002 "Codeforces Round (Div. 2)" 5000] }

def firstDivision : Contest :=
  (codeforcesEntry 2001 "Codeforces Round (Div. 1)" 5000).contest

def secondDivision : Contest :=
  (codeforcesEntry 2002 "Codeforces Round (Div. 2)" 5000).contest

def laterRound : Contest :=
  (codeforcesEntry 2003 "Educational Codeforces Round" 9000).contest

/-- Rounds at different times meet the condition. -/
theorem extraction_records_iff_two_rounds :
    (∀ contest ∈ [firstDivision, laterRound],
      (extracted true "codeforces" (some [firstDivision, laterRound])
        emptyWorld).1.database.Records contest) ↔
      ∀ contest ∈ [firstDivision, laterRound],
        Kept emptyWorld "codeforces" [firstDivision, laterRound] contest :=
  extraction_records_iff true emptyWorld (by decide) (by decide)

/-- The fetcher returns both divisions, the extraction reports no error, and the
first division has no row. -/
theorem extraction_loses_first_division :
    fetchCodeforcesContests 1000 (some bothDivisions) = some [firstDivision, secondDivision] ∧
    firstDivision.url ≠ secondDivision.url ∧
    (extracted true "codeforces" (some [firstDivision, secondDivision]) emptyWorld).2 = .ok () ∧
    ∀ row ∈ (extracted true "codeforces" (some [firstDivision, secondDivision])
      emptyWorld).1.database.contests.rows, ¬row.Carries firstDivision := by
  refine ⟨?_, ?_, ?_, ?_⟩
  · decide +kernel
  · decide +kernel
  · rfl
  · decide +kernel

end ContestSync
