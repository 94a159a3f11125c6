/-
What an extraction replaces. The prune and the batch together exchange the future of
one platform for the list that was fetched and leave everything else alone; the ids
keep the platforms apart. When the batch fails, the prune has happened all the same.
-/

import ContestSync.Extraction
import ContestSync.RequestFrames

namespace ContestSync

open Resumable Program Keyed

/-! ### The ids of a table -/

/-- What a fetcher returns: the platform and the id of every entry are built alike. -/
def Built (platform : String) (contests : List Contest) : Prop :=
  ∀ contest ∈ contests, contest.platform = platform ∧
    contest.id = generateContestID platform contest.startTime

instance (platform : String) (contests : List Contest) : Decidable (Built platform contests) :=
  inferInstanceAs (Decidable (∀ _ ∈ _, _))

/-- Every row has an id of its platform. -/
def Database.Schemed (database : Database) : Prop :=
  ∀ row ∈ database.contests.rows, ∃ startTime, row.id = generateContestID row.platform startTime

namespace Database

variable {database : Database} {platform id : String} {contest last : Contest}
  {contests : List Contest}

theorem Schemed.delete (schemed : database.Schemed) (condition : ContestRow → Bool) :
    (database.deleteContests condition).Schemed :=
  fun row member => schemed row (mem_deleteContests.mp member).1

theorem Schemed.platform_of_find (schemed : database.Schemed) {row : ContestRow}
    {startTime : Int} (found : database.contests.find id = some row)
    (ofPlatform : id = generateContestID platform startTime) : row.platform = platform := by
  obtain ⟨member, atID⟩ := Table.find_eq_some_iff.mp found
  obtain ⟨rowTime, rowID⟩ := schemed row member
  apply platform_of_generateContestID
  rw [← rowID, atID, ofPlatform]

theorem find_upsertContest_row (own : ∀ row, database.contests.find contest.id = some row →
      row.platform = contest.platform) :
    (database.upsertContest contest.row).contests.find contest.id = some contest.row := by
  have atID : contest.id = contest.row.id := rfl
  unfold upsertContest
  rw [Table.find_upsert, if_pos atID]
  cases found : database.contests.find contest.row.id with
  | none => rfl
  | some old =>
    have oldID : old.id = contest.id := (Table.find_eq_some_iff.mp found).2
    have oldPlatform : old.platform = contest.platform := own old found
    simp [Contest.row, oldID, oldPlatform]

theorem Schemed.upsertContest (schemed : database.Schemed)
    (built : contest.id = generateContestID contest.platform contest.startTime) :
    (database.upsertContest contest.row).Schemed := by
  intro row member
  have stored := Table.find_of_mem member
  by_cases same : row.id = contest.id
  · rw [same, find_upsertContest_row
      (fun old found => schemed.platform_of_find found built)] at stored
    cases stored
    exact ⟨contest.startTime, built⟩
  · rw [find_upsertContest_other (Ne.symm same)] at stored
    exact schemed row (Table.find_eq_some_iff.mp stored).1

theorem Schemed.upsertContests (schemed : database.Schemed) (built : Built platform contests) :
    (database.upsertContests contests).Schemed := by
  induction contests generalizing database with
  | nil => exact schemed
  | cons contest rest ih =>
    obtain ⟨ofPlatform, id⟩ := built contest List.mem_cons_self
    refine ih (schemed.upsertContest ?_)
      (fun other member => built other (List.mem_cons_of_mem _ member))
    rw [ofPlatform]
    exact id

theorem find_upsertContests_row (schemed : database.Schemed) (built : Built platform contests)
    (found : lastWith id contests = some last) :
    (database.upsertContests contests).contests.find id = some last.row := by
  induction contests generalizing database with
  | nil => cases found
  | cons contest rest ih =>
    obtain ⟨ofPlatform, entryID⟩ := built contest List.mem_cons_self
    rw [← ofPlatform] at entryID
    have builtRest : Built platform rest :=
      fun other member => built other (List.mem_cons_of_mem _ member)
    rcases Option.or_eq_some_iff.mp found with later | ⟨absent, here⟩
    · exact ih (schemed.upsertContest entryID) builtRest later
    · by_cases atID : contest.id = id
      · rw [if_pos atID] at here
        cases here
        subst atID
        exact (find_upsertContests_absent _ absent).trans
          (find_upsertContest_row (fun old stored => schemed.platform_of_find stored entryID))
      · rw [if_neg atID] at here
        cases here

theorem mem_upsertContests_other (schemed : database.Schemed) (built : Built platform contests)
    {row : ContestRow} (other : row.platform ≠ platform) :
    row ∈ (database.upsertContests contests).contests.rows ↔ row ∈ database.contests.rows := by
  have atID : ∀ table : Table ContestRow.id, row ∈ table.rows ↔ table.find row.id = some row :=
    fun table => ⟨Table.find_of_mem, fun found => (Table.find_eq_some_iff.mp found).1⟩
  rw [atID, atID]
  cases found : lastWith row.id contests with
  | none => rw [find_upsertContests_absent _ found]
  | some last =>
    obtain ⟨entry, sameID⟩ := mem_of_lastWith found
    obtain ⟨entryPlatform, entryID⟩ := built last entry
    constructor
    · intro stored
      rw [find_upsertContests_row schemed built found] at stored
      cases stored
      exact absurd entryPlatform other
    · intro stored
      exact absurd (schemed.platform_of_find stored (sameID.symm.trans entryID)) other

end Database

/-- The scheme is kept by every request, lists that no fetcher returns apart. -/
theorem schemed_handle {world : World} (schemed : world.database.Schemed) (request : Request)
    (built : ∀ contests, request = .upsertContests contests → ∃ platform, Built platform contests) :
    (world.handle request).1.database.Schemed := by
  by_cases writes : request.writes .contests = false
  · have kept := (frame_handle world request).contests writes
    unfold Database.Schemed
    rw [kept]
    exact schemed
  · cases request with
    | pruneObsolete platform contestIDs => exact schemed.delete _
    | pruneEnded => exact schemed.delete _
    | upsertContests contests =>
      obtain ⟨platform, fetched⟩ := built contests rfl
      exact schemed.upsertContests fetched
    | _ => exact absurd rfl writes

/-! ### Every statement succeeds -/

section Replaced

variable {world : World} {platform : String} {fetched : List Contest} {row : ContestRow}

def replacedFuture (world : World) (platform : String) (fetched : List Contest) : Database :=
  (world.database.pruneObsolete world.now platform (fetched.map Contest.id)).upsertContests fetched

theorem mem_replaced_outside (absent : row.id ∉ fetched.map Contest.id) :
    row ∈ (replacedFuture world platform fetched).contests.rows ↔
      row ∈ world.database.contests.rows ∧
        ¬(row.platform = platform ∧ world.now < row.startTime) := by
  have unwritten := Database.find_upsertContests_absent
    (world.database.pruneObsolete world.now platform (fetched.map Contest.id))
    (lastWith_eq_none.mpr absent)
  have pruned : row ∈ (replacedFuture world platform fetched).contests.rows ↔
      row ∈ (world.database.pruneObsolete world.now platform
        (fetched.map Contest.id)).contests.rows := by
    constructor
    · intro member
      have stored := Table.find_of_mem member
      rw [replacedFuture, unwritten] at stored
      exact (Table.find_eq_some_iff.mp stored).1
    · intro member
      have stored := Table.find_of_mem member
      rw [← unwritten] at stored
      exact (Table.find_eq_some_iff.mp stored).1
  rw [pruned, Database.pruneObsolete, Database.mem_deleteContests, decide_eq_false_iff_not]
  constructor
  · rintro ⟨member, kept⟩
    exact ⟨member, fun future => kept ⟨future.1, future.2, absent⟩⟩
  · rintro ⟨member, kept⟩
    exact ⟨member, fun obsolete => kept ⟨obsolete.1, obsolete.2.1⟩⟩

theorem mem_replaced_listed (schemed : world.database.Schemed) (built : Built platform fetched)
    {last : Contest} (found : lastWith row.id fetched = some last) :
    row ∈ (replacedFuture world platform fetched).contests.rows ↔ row = last.row := by
  have written : (replacedFuture world platform fetched).contests.find row.id = some last.row :=
    Database.find_upsertContests_row (schemed.delete _) built found
  constructor
  · intro member
    exact Option.some.inj ((Table.find_of_mem member).symm.trans written)
  · intro same
    obtain ⟨member, _⟩ := Table.find_eq_some_iff.mp written
    rwa [same]

theorem mem_replaced_other (schemed : world.database.Schemed) (built : Built platform fetched)
    (other : row.platform ≠ platform) :
    row ∈ (replacedFuture world platform fetched).contests.rows ↔
      row ∈ world.database.contests.rows := by
  refine (Database.mem_upsertContests_other (schemed.delete _) built other).trans ?_
  rw [Database.mem_deleteContests, decide_eq_false_iff_not]
  exact and_iff_left (fun obsolete => other obsolete.1)

/-- A list for one platform takes the place of the future of this platform. -/
theorem extraction_replaces_future (valkey : Bool) (world : World)
    (supported : platform ∈ platforms) (nonempty : fetched ≠ []) (built : Built platform fetched)
    (schemed : world.database.Schemed) :
    let after := (extracted valkey platform (some fetched) world).1.database.contests
    (∀ row, row.platform ≠ platform → (row ∈ after.rows ↔ row ∈ world.database.contests.rows)) ∧
    (∀ row, row.platform = platform → row.startTime ≤ world.now → row.id ∉ fetched.map Contest.id →
      (row ∈ after.rows ↔ row ∈ world.database.contests.rows)) ∧
    (∀ row ∈ after.rows, row.platform = platform → world.now < row.startTime →
      row.id ∈ fetched.map Contest.id) ∧
    ∀ id ∈ fetched.map Contest.id, ∃ last, lastWith id fetched = some last ∧
      ∀ row, row ∈ after.rows ∧ row.id = id ↔ row = last.row := by
  intro after
  have replaced : after = (replacedFuture world platform fetched).contests :=
    congrArg Database.contests (database_extracted valkey world supported nonempty)
  rw [replaced]
  refine ⟨fun row other => mem_replaced_other schemed built other, ?_, ?_, ?_⟩
  · intro row _ past absent
    rw [mem_replaced_outside absent]
    exact and_iff_left (fun future => Int.not_lt.mpr past future.2)
  · intro row member own future
    by_contra absent
    exact ((mem_replaced_outside absent).mp member).2 ⟨own, future⟩
  · intro id listed
    cases found : lastWith id fetched with
    | none => exact absurd listed (lastWith_eq_none.mp found)
    | some last =>
      obtain ⟨_, atID⟩ := mem_of_lastWith found
      refine ⟨last, rfl, ?_⟩
      intro row
      constructor
      · rintro ⟨member, rfl⟩
        exact (mem_replaced_listed schemed built found).mp member
      · rintro rfl
        refine ⟨?_, atID⟩
        have same : lastWith last.row.id fetched = some last := by
          rw [← found]
          exact congrArg (lastWith · fetched) atID
        exact (mem_replaced_listed schemed built same).mpr rfl

end Replaced

/-- A round that is moved, and a contest of another platform at the same time. -/
def leetcodeContest : Contest :=
  { codeforcesRound 5000 with
    id := generateContestID "leetcode" 5000
    platform := "leetcode" }

def storedContests : Database :=
  Database.empty.upsertContests [codeforcesRound 5000, leetcodeContest]

theorem storedContests_schemed : storedContests.Schemed := by
  have empty : Database.empty.Schemed := nofun
  have first : (Database.empty.upsertContest (codeforcesRound 5000).row).Schemed :=
    empty.upsertContest rfl
  exact first.upsertContest rfl

theorem extraction_replaces_future_moved :
    let after := (extracted true "codeforces" (some [codeforcesRound 9000])
      { emptyWorld with database := storedContests }).1.database.contests
    (∀ row ∈ after.rows, row.platform = "codeforces" → emptyWorld.now < row.startTime →
      row.id ∈ [generateContestID "codeforces" 9000]) ∧
    leetcodeContest.row ∈ after.rows := by
  obtain ⟨others, _, future, _⟩ := extraction_replaces_future true
    { emptyWorld with database := storedContests } (show "codeforces" ∈ platforms by decide)
    (show [codeforcesRound 9000] ≠ [] by decide) (by decide) storedContests_schemed
  have stored : leetcodeContest.row ∈ storedContests.contests.rows := by
    decide +kernel
  exact ⟨future, (others _ (by decide)).mpr stored⟩

/-! ### A statement fails -/

/-- `handleExtraction` with these ends of its two statements. -/
def attempted (pruning batch : Outcome) (valkey : Bool) (platform : String)
    (fetched : Option (List Contest)) (world : World) : World × Except ExtractionError Unit :=
  complete environment (fun _ request =>
      match request with
      | .pruneObsolete _ _ => pruning
      | .upsertContests _ => batch
      | _ => .served)
    (handleExtraction valkey platform fetched) world

def Obsolete (now : Timestamp) (platform : String) (contests : List Contest) (row : ContestRow) :
    Prop :=
  row.platform = platform ∧ now < row.startTime ∧ row.id ∉ contests.map Contest.id

instance (now : Timestamp) (platform : String) (contests : List Contest) (row : ContestRow) :
    Decidable (Obsolete now platform contests row) :=
  inferInstanceAs (Decidable (_ ∧ _))

def SameTables (before after : Database) : Prop :=
  after.contests = before.contests ∧ after.syncedEvents = before.syncedEvents

theorem Database.pruneObsolete_same_iff (database : Database) (now : Timestamp)
    (platform : String) (contests : List Contest) :
    SameTables database (database.pruneObsolete now platform (contests.map Contest.id)) ↔
      ∀ row ∈ database.contests.rows, ¬Obsolete now platform contests row := by
  constructor
  · rintro ⟨same, _⟩ row member
    rw [← same] at member
    exact of_decide_eq_false (mem_deleteContests.mp member).2
  · intro spared
    have kept : database.contests.delete (fun contest => decide (contest.platform = platform ∧
        now < contest.startTime ∧ contest.id ∉ contests.map Contest.id)) = database.contests :=
      Table.delete_eq_self (fun row member => decide_eq_false (spared row member))
    refine ⟨kept, Table.delete_eq_self ?_⟩
    intro row member
    rw [kept]
    obtain ⟨contest, present, atID⟩ := database.contestRef row member
    simp only [Bool.not_eq_false', List.any_eq_true, decide_eq_true_eq]
    exact ⟨contest, present, atID⟩

theorem attempted_failed {pruning : Outcome} {error : GoogleError} {valkey : Bool}
    {platform : String} {fetched : Option (List Contest)} {world : World}
    {reason : ExtractionError}
    (failed : (attempted pruning (.lost error) valkey platform fetched world).2 = .error reason) :
    ((platform ∉ platforms ∨ fetched = none) ∧
      (attempted pruning (.lost error) valkey platform fetched world).1 = world) ∨
    ∃ contests, platform ∈ platforms ∧ fetched = some contests ∧
      (attempted pruning (.lost error) valkey platform fetched world).1 =
        (world.serve (.pruneObsolete platform (contests.map Contest.id)) pruning).1 := by
  unfold attempted handleExtraction at failed ⊢
  by_cases supported : platform ∈ platforms
  · rw [if_neg (not_not_intro supported)] at failed ⊢
    cases fetched with
    | none => exact .inl ⟨.inr rfl, rfl⟩
    | some contests =>
      by_cases empty : contests = []
      · simp only [if_pos empty] at failed
        cases failed
      · simp only [if_neg empty]
        exact .inr ⟨contests, supported, rfl, rfl⟩
  · rw [if_pos supported]
    exact .inl ⟨.inl supported, rfl⟩

/-- An extraction that returns an error leaves the tables as they were when it did not
get to the prune, the prune had no effect or it had nothing to remove, and only
then. -/
theorem failed_extraction_unchanged_iff (pruning : Outcome) (error : GoogleError) (valkey : Bool)
    (platform : String) (fetched : Option (List Contest)) (world : World)
    {reason : ExtractionError}
    (failed : (attempted pruning (.lost error) valkey platform fetched world).2 = .error reason) :
    SameTables world.database
        (attempted pruning (.lost error) valkey platform fetched world).1.database ↔
      platform ∉ platforms ∨ fetched = none ∨ (∃ lost, pruning = .lost lost) ∨
        ∀ contests ∈ fetched, ∀ row ∈ world.database.contests.rows,
          ¬Obsolete world.now platform contests row := by
  rcases attempted_failed failed with ⟨unreached, same⟩ | ⟨contests, supported, rfl, same⟩
  · rw [same]
    constructor
    · intro _
      exact unreached.elim .inl (fun unfetched => .inr (.inl unfetched))
    · exact fun _ => ⟨rfl, rfl⟩
  · rw [same]
    have pruned := world.database.pruneObsolete_same_iff world.now platform contests
    have effective : (∀ row ∈ world.database.contests.rows,
        ¬Obsolete world.now platform contests row) ↔
        ∀ listed ∈ some contests, ∀ row ∈ world.database.contests.rows,
          ¬Obsolete world.now platform listed row := by
      constructor
      · intro spared listed same
        rw [Option.mem_some_iff] at same
        rwa [← same]
      · exact fun spared => spared contests rfl
    rw [← effective, ← pruned]
    cases pruning with
    | lost lost =>
      constructor
      · exact fun _ => .inr (.inr (.inl ⟨lost, rfl⟩))
      · exact fun _ => ⟨rfl, rfl⟩
    | served => simp [supported, World.serve, World.handle, World.setDatabase]
    | late late => simp [supported, World.serve, World.handle, World.setDatabase]

def contextCanceled : GoogleError :=
  { code := none
    message := "context canceled" }

def trackedWorld : World :=
  replay cachingSyncer [.syncUser 1] announcedRound

/-- Nothing is lost when the list still has the round. -/
theorem failed_extraction_unchanged_relisted :
    SameTables trackedWorld.database (attempted .served (.lost contextCanceled) true "codeforces"
        (some [codeforcesRound 5000, codeforcesRound 9000]) trackedWorld).1.database := by
  have spared : ∀ row ∈ trackedWorld.database.contests.rows, ¬Obsolete trackedWorld.now
      "codeforces" [codeforcesRound 5000, codeforcesRound 9000] row := by
    decide +kernel
  apply (failed_extraction_unchanged_iff .served contextCanceled true "codeforces"
    (some [codeforcesRound 5000, codeforcesRound 9000]) trackedWorld rfl).mpr
  refine .inr (.inr (.inr ?_))
  intro listed same
  rw [Option.mem_some_iff] at same
  rwa [← same]

/-- The round and its event row are gone although the extraction has failed. -/
theorem failed_extraction_prunes :
    (attempted .served (.lost contextCanceled) true "codeforces" (some [codeforcesRound 9000])
      trackedWorld).2 = .error .save ∧
    trackedWorld.database.contests.rows.length = 1 ∧
    trackedWorld.database.syncedEvents.rows.length = 1 ∧
    (attempted .served (.lost contextCanceled) true "codeforces" (some [codeforcesRound 9000])
      trackedWorld).1.database.contests.rows = [] ∧
    (attempted .served (.lost contextCanceled) true "codeforces" (some [codeforcesRound 9000])
      trackedWorld).1.database.syncedEvents.rows = [] := by
  refine ⟨rfl, ?_, ?_, ?_, ?_⟩
  all_goals decide +kernel

end ContestSync
