/-
Two extractions of one platform at a time. The prune and the batch of
`handleExtraction` are separate statements, so that both runs may have pruned
before either stores its list; then the contests of both lists stay. Here the
table is viewed as the set of ids that are upcoming at a given time, on which an
extraction acts as a refresh from its list.
-/

import ContestSync.Extraction
import ContestSync.Refresh
import ContestSync.RequestFrames
import ContestSync.SyncContract

namespace ContestSync

open Refresh Resumable Program Database

/-- What a fetcher of the platform returns, when it returns something. -/
structure FetchedList (platform : String) where
  contests : List Contest
  supported : platform ∈ platforms
  nonempty : contests ≠ []
  own : ∀ contest ∈ contests, contest.platform = platform

namespace Database

variable {database : Database} {platform id : String} {now time : Timestamp}

def upcoming (database : Database) (platform : String) (time : Timestamp) : Set String :=
  {id | ∃ row, database.contests.find id = some row ∧ row.platform = platform ∧
    time < row.startTime}

/-- The ids that another platform has taken: an upsert does not set the platform. -/
def foreign (database : Database) (platform : String) : Set String :=
  {id | ∃ row, database.contests.find id = some row ∧ row.platform ≠ platform}

theorem find_pruneObsolete {ids : List String} {row : ContestRow} :
    (database.pruneObsolete now platform ids).contests.find id = some row ↔
      database.contests.find id = some row ∧
        ¬(row.platform = platform ∧ now < row.startTime ∧ row.id ∉ ids) := by
  unfold pruneObsolete deleteContests
  simp only
  rw [Keyed.Table.find_delete, Option.filter_eq_some_iff, Bool.not_eq_true',
    decide_eq_false_iff_not]

theorem foreign_pruneObsolete (ids : List String) :
    (database.pruneObsolete now platform ids).foreign platform = database.foreign platform := by
  ext id
  constructor
  · rintro ⟨row, found, other⟩
    exact ⟨row, (find_pruneObsolete.mp found).1, other⟩
  · rintro ⟨row, found, other⟩
    exact ⟨row, find_pruneObsolete.mpr ⟨found, fun pruned => other pruned.1⟩, other⟩

theorem upcoming_pruneObsolete (ids : List String) (past : now ≤ time) :
    (database.pruneObsolete now platform ids).upcoming platform time =
      database.upcoming platform time ∩ {id | id ∈ ids} := by
  ext id
  constructor
  · rintro ⟨row, found, own, future⟩
    obtain ⟨present, spared⟩ := find_pruneObsolete.mp found
    refine ⟨⟨row, present, own, future⟩, ?_⟩
    obtain ⟨_, rfl⟩ := Keyed.Table.find_eq_some_iff.mp present
    by_contra unlisted
    exact spared ⟨own, Int.lt_of_le_of_lt past future, unlisted⟩
  · rintro ⟨⟨row, present, own, future⟩, listed⟩
    obtain ⟨_, rfl⟩ := Keyed.Table.find_eq_some_iff.mp present
    exact ⟨row, find_pruneObsolete.mpr ⟨present, fun pruned => pruned.2.2 listed⟩, own, future⟩

theorem foreign_upsertContest {contest : Contest} (own : contest.platform = platform) :
    (database.upsertContest contest.row).foreign platform = database.foreign platform := by
  ext id
  by_cases same : contest.id = id
  · subst same
    unfold foreign upsertContest
    simp only [Set.mem_ofPred_eq]
    have atID : contest.id = contest.row.id := rfl
    rw [Keyed.Table.find_upsert, if_pos atID, atID]
    cases database.contests.find contest.row.id with
    | none => simp [Contest.row, own]
    | some old => simp
  · unfold foreign
    simp only [Set.mem_ofPred_eq]
    rw [find_upsertContest_other same]

theorem foreign_upsertContests {contests : List Contest}
    (own : ∀ contest ∈ contests, contest.platform = platform) :
    (database.upsertContests contests).foreign platform = database.foreign platform := by
  induction contests generalizing database with
  | nil => rfl
  | cons contest rest ih =>
    obtain ⟨ownFirst, ownRest⟩ := List.forall_mem_cons.mp own
    exact (ih ownRest).trans (foreign_upsertContest ownFirst)

end Database

namespace FetchedList

variable {platform : String} (fetched : FetchedList platform)

def ids : List String :=
  fetched.contests.map Contest.id

/-- The ids that the list will show as upcoming at the time, where no other platform
has taken them. Of several entries with one id the last counts. -/
def upcoming (foreign : Set String) (time : Timestamp) : Set String :=
  {id | ∃ last, lastWith id fetched.contests = some last ∧ time < unixTime last.startTime ∧
    id ∉ foreign}

def listing (foreign : Set String) (time : Timestamp) : Listing String :=
  { known := {id | id ∈ fetched.ids}
    upcoming := fetched.upcoming foreign time
    listed := by
      rintro id ⟨last, found, _⟩
      obtain ⟨member, rfl⟩ := mem_of_lastWith found
      exact List.mem_map_of_mem member }

end FetchedList

theorem Database.upcoming_upsertContests {database : Database} {platform : String}
    {time : Timestamp} (fetched : FetchedList platform) :
    (database.upsertContests fetched.contests).upcoming platform time =
      (database.upcoming platform time \ {id | id ∈ fetched.ids}) ∪
        fetched.upcoming (database.foreign platform) time := by
  ext id
  cases found : lastWith id fetched.contests with
  | none =>
    have absent := lastWith_eq_none.mp found
    have unlisted : id ∉ fetched.upcoming (database.foreign platform) time := by
      rintro ⟨last, listed, _⟩
      rw [found] at listed
      cases listed
    unfold upcoming
    rw [Set.mem_union, or_iff_left unlisted, Set.mem_sdiff]
    simp only [Set.mem_ofPred_eq]
    rw [find_upsertContests_absent database found]
    exact (and_iff_left absent).symm
  | some last =>
    obtain ⟨row, written, _, _, starts, _⟩ := find_upsertContests_last database found
    have listed : id ∈ fetched.ids := by
      obtain ⟨member, rfl⟩ := mem_of_lastWith found
      exact List.mem_map_of_mem member
    have own : row.platform = platform ↔ id ∉ database.foreign platform := by
      rw [← database.foreign_upsertContests fetched.own]
      constructor
      · rintro same ⟨other, again, different⟩
        cases written.symm.trans again
        exact different same
      · intro free
        by_contra different
        exact free ⟨row, written, different⟩
    constructor
    · rintro ⟨other, again, same, future⟩
      cases written.symm.trans again
      exact .inr ⟨last, found, starts ▸ future, own.mp same⟩
    · rintro (⟨_, unlisted⟩ | ⟨other, again, future, free⟩)
      · exact absurd listed unlisted
      · cases found.symm.trans again
        exact ⟨row, written, own.mpr free, starts.symm ▸ future⟩

/-! ### The statements of an extraction -/

section Extractions

variable {platform : String}

def invalidate (valkey : Bool) (platform : String) :
    Program service (Except ExtractionError Unit) :=
  if valkey then .call (.deleteCachedContests platform) (fun _ => .done (.ok ()))
  else .done (.ok ())

def storing (valkey : Bool) (platform : String) (contests : List Contest) :
    Program service (Except ExtractionError Unit) :=
  .call (.upsertContests contests) (fun saved =>
    if saved then invalidate valkey platform else .done (.error .save))

theorem handleExtraction_fetched (valkey : Bool) (fetched : FetchedList platform) :
    handleExtraction valkey platform (some fetched.contests) =
      .call (.pruneObsolete platform fetched.ids) (fun _ =>
        storing valkey platform fetched.contests) := by
  unfold handleExtraction
  rw [if_neg (not_not_intro fetched.supported)]
  simp only [fetched.nonempty, if_false]
  cases valkey <;> rfl

/-- The world as far as the ids that are upcoming at the time: until then, a prune
takes away what its list does not name. -/
def ViewedAt (platform : String) (foreign : Set String) (time : Timestamp) (world : World)
    (view : Set String) : Prop :=
  world.database.foreign platform = foreign ∧
    (world.now ≤ time → world.database.upcoming platform time = view)

variable {foreign : Set String} {time : Timestamp}

theorem performs_invalidate (valkey : Bool) :
    Performs environment served Statement.apply (ViewedAt platform foreign time)
      (invalidate valkey platform) [] := by
  cases valkey with
  | false => exact rfl
  | true =>
    refine .inr ?_
    rintro world view outcome rfl viewed
    exact ⟨viewed, rfl⟩

theorem performs_handleExtraction (valkey : Bool) (fetched : FetchedList platform) :
    Performs environment served Statement.apply (ViewedAt platform foreign time)
      (handleExtraction valkey platform (some fetched.contests))
      [.prune (fetched.listing foreign time), .store (fetched.listing foreign time)] := by
  rw [handleExtraction_fetched]
  refine .inl ⟨_, _, rfl, ?_⟩
  rintro world view outcome rfl ⟨others, viewed⟩
  refine ⟨⟨(foreign_pruneObsolete _).trans others, ?_⟩, .inl ⟨_, _, rfl, ?_⟩⟩
  · intro past
    have pruned : (world.database.pruneObsolete world.now platform fetched.ids).upcoming platform
        time = world.database.upcoming platform time ∩ {id | id ∈ fetched.ids} :=
      upcoming_pruneObsolete _ past
    exact pruned.trans (congrArg (· ∩ _) (viewed past))
  · rintro later next outcome rfl ⟨othersLater, viewedLater⟩
    refine ⟨⟨(foreign_upsertContests fetched.own).trans othersLater, ?_⟩,
      performs_invalidate valkey⟩
    intro past
    have stored : (later.database.upsertContests fetched.contests).upcoming platform time =
        (later.database.upcoming platform time \ {id | id ∈ fetched.ids}) ∪
          fetched.upcoming (later.database.foreign platform) time :=
      upcoming_upsertContests fetched
    rw [viewedLater past, othersLater] at stored
    exact stored

theorem viewedAt_lapse {before after : World} {view : Set String} (lapse : Lapse before after)
    (viewed : ViewedAt platform foreign time before view) :
    ViewedAt platform foreign time after view := by
  unfold ViewedAt
  rw [lapse.database]
  exact ⟨viewed.1, fun past => viewed.2 (Int.le_trans lapse.now past)⟩

end Extractions

/-! ### One after the other -/

section Serial

variable {platform : String} (valkey : Bool) (fetched : FetchedList platform) (world : World)

theorem now_extracted :
    (extracted valkey platform (some fetched.contests) world).1.now = world.now := by
  unfold extracted
  rw [handleExtraction_fetched]
  cases valkey <;> rfl

theorem foreign_extracted :
    (extracted valkey platform (some fetched.contests) world).1.database.foreign platform =
      world.database.foreign platform := by
  rw [database_extracted valkey world fetched.supported fetched.nonempty,
    foreign_upsertContests fetched.own, foreign_pruneObsolete]

theorem upcoming_extracted {time : Timestamp} (past : world.now ≤ time) :
    (extracted valkey platform (some fetched.contests) world).1.database.upcoming platform time =
      fetched.upcoming (world.database.foreign platform) time := by
  rw [database_extracted valkey world fetched.supported fetched.nonempty,
    upcoming_upsertContests, upcoming_pruneObsolete _ past,
    foreign_pruneObsolete]
  refine Set.union_eq_right.mpr ?_
  rintro id ⟨⟨_, listed⟩, unlisted⟩
  exact absurd listed unlisted

end Serial

/-! ### Both at a time -/

section Concurrent

variable {platform : String} (valkey : Bool → Bool) (lists : Bool → FetchedList platform)

def extractions (which : Bool) : Program service (Except ExtractionError Unit) :=
  handleExtraction (valkey which) platform (some (lists which).contests)

/-- The serial order in which the named run is the second. -/
def extractedSerially (which : Bool) (start : World) : World :=
  (extracted (valkey which) platform (some (lists which).contests)
    (extracted (valkey !which) platform (some (lists !which).contests) start).1).1

/-- The ids that are upcoming in the end are those that some serial order leaves. -/
def Serialisable (start last : World) : Prop :=
  ∃ which, last.database.upcoming platform last.now =
    (extractedSerially valkey lists which start).database.upcoming platform last.now

/-- Storing both lists, the named one last, does no harm: it names everything that
is upcoming in the other one, or agrees with it on what it names. -/
def OverlapHarmless (start : World) (time : Timestamp) (which : Bool) : Prop :=
  let upcoming := fun one => (lists one).upcoming (start.database.foreign platform) time
  let named := {id | id ∈ (lists which).ids}
  upcoming (!which) ⊆ named ∨ upcoming which = upcoming (!which) ∩ named

variable {start last : World} {time : Timestamp}
  {residue : Bool → Program service (Except ExtractionError Unit)}

theorem upcoming_extractedSerially (past : start.now ≤ time) (which : Bool) :
    (extractedSerially valkey lists which start).database.upcoming platform time =
      (lists which).upcoming (start.database.foreign platform) time := by
  unfold extractedSerially
  rw [upcoming_extracted _ _ _ (by rwa [now_extracted]), foreign_extracted]

variable {valkey lists}

theorem now_le_of_interleaved {pool : Bool → Program service (Except ExtractionError Unit)}
    (run : Interleaved environment served Lapse start pool last residue) :
    start.now ≤ last.now := by
  refine run.keeps (fun world => start.now ≤ world.now) ?_ ?_ (Int.le_refl _)
  · rintro world request outcome rfl before
    have same : (world.handle request).1.now = world.now := (frame_handle world request).now
    exact same.symm ▸ before
  · exact fun _ _ lapse before => Int.le_trans before lapse.now

/-- What two concurrent runs can leave. -/
theorem upcoming_of_interleaved
    (run : Interleaved environment served Lapse start (extractions valkey lists) last residue)
    (finished : ∀ which, ∃ result, residue which = .done result) :
    ∃ which, last.database.upcoming platform last.now =
        (lists which).upcoming (start.database.foreign platform) last.now ∨
      last.database.upcoming platform last.now =
        overlapped ((lists !which).listing (start.database.foreign platform) last.now)
          ((lists which).listing (start.database.foreign platform) last.now) := by
  let listings := fun which => (lists which).listing (start.database.foreign platform) last.now
  have performs : ∀ which, Performs environment served Statement.apply
      (ViewedAt platform (start.database.foreign platform) last.now)
      (extractions valkey lists which) [.prune (listings which), .store (listings which)] :=
    fun which => performs_handleExtraction (valkey which) (lists which)
  have viewedFirst : ViewedAt platform (start.database.foreign platform) last.now start
      (start.database.upcoming platform last.now) := ⟨rfl, fun _ => rfl⟩
  have undisturbed : ∀ before after view, Lapse before after →
      ViewedAt platform (start.database.foreign platform) last.now before view →
      ViewedAt platform (start.database.foreign platform) last.now after view :=
    fun _ _ _ lapse viewed => viewedAt_lapse lapse viewed
  obtain ⟨merged, merge, _, viewed⟩ := run.merges undisturbed finished performs viewedFirst
  rw [viewed (Int.le_refl _)]
  exact execute_merge listings merge _

theorem extractions_eq (valkey : Bool → Bool) (lists : Bool → FetchedList platform) :
    extractions valkey lists = fun which =>
      .call (.pruneObsolete platform (lists which).ids) (fun _ =>
        storing (valkey which) platform (lists which).contests) :=
  funext (fun which => handleExtraction_fetched (valkey which) (lists which))

theorem exists_overlapping_run (valkey : Bool → Bool) (lists : Bool → FetchedList platform)
    (which : Bool) (start : World) :
    ∃ last residue, Interleaved environment served Lapse start (extractions valkey lists) last
        residue ∧
      (∀ one, ∃ result, residue one = .done result) ∧
      last.database = (((start.database.pruneObsolete start.now platform
        (lists !which).ids).pruneObsolete start.now platform (lists which).ids).upsertContests
          (lists !which).contests).upsertContests (lists which).contests ∧
      last.now = start.now := by
  obtain ⟨one, other, rfl⟩ : ∃ one other, valkey = fun which => cond which one other :=
    ⟨valkey true, valkey false, funext (fun which => by cases which <;> rfl)⟩
  rw [extractions_eq]
  have admitted : ∀ request, served request .served := fun _ => rfl
  refine ⟨_, _, interleaved_turns environment (fun _ => .served) admitted
    [!which, which, !which, which, !which, which] (start, _), ?_, ?_, ?_⟩
  · intro run
    cases which <;> cases run <;> cases one <;> cases other <;> exact ⟨_, rfl⟩
  · cases which <;> cases one <;> cases other <;> rfl
  · cases which <;> cases one <;> cases other <;> rfl

theorem lapse_to {world : World} (past : world.now ≤ time) :
    Lapse world { world with now := time } :=
  ⟨rfl, rfl, rfl, past, fun _ => .inl rfl, fun _ => .inl rfl, fun _ => .inl rfl, fun _ held => held⟩

theorem upcoming_overlapping (past : start.now ≤ time) {which : Bool} :
    ((((start.database.pruneObsolete start.now platform
        (lists !which).ids).pruneObsolete start.now platform (lists which).ids).upsertContests
          (lists !which).contests).upsertContests (lists which).contests).upcoming platform time =
      overlapped ((lists !which).listing (start.database.foreign platform) time)
        ((lists which).listing (start.database.foreign platform) time) := by
  rw [← execute_overlapped (fun one => (lists one).listing (start.database.foreign platform) time)
    (start.database.upcoming platform time) which which]
  rw [upcoming_upsertContests, upcoming_upsertContests,
    foreign_upsertContests (lists !which).own, foreign_pruneObsolete,
    foreign_pruneObsolete, upcoming_pruneObsolete _ past,
    upcoming_pruneObsolete _ past]
  rfl

/-- It is harmless to run two extractions at a time exactly when their lists are such
that overlapping does no harm, whichever is stored last and however late one looks. -/
theorem concurrent_extractions_serialisable_iff (valkey : Bool → Bool)
    (lists : Bool → FetchedList platform) (start : World) :
    (∀ last residue,
      Interleaved environment served Lapse start (extractions valkey lists) last residue →
      (∀ which, ∃ result, residue which = .done result) → Serialisable valkey lists start last) ↔
      ∀ time, start.now ≤ time → ∀ which, OverlapHarmless lists start time which := by
  constructor
  · intro serialisable time past which
    obtain ⟨last, residue, run, finished, database, now⟩ :=
      exists_overlapping_run valkey lists which start
    have lapse : Lapse last { last with now := time } :=
      lapse_to (Int.le_trans (Int.le_of_eq now) past)
    obtain ⟨second, left⟩ := serialisable { last with now := time } residue
      (run.trans (.disturbed lapse (.refl _ _))) finished
    change last.database.upcoming platform time = _ at left
    rw [database, upcoming_overlapping past, upcoming_extractedSerially valkey lists past] at left
    by_cases same : second = which
    · subst same
      exact .inl (overlapped_eq_later.mp left)
    · obtain rfl : second = !which := Bool.eq_not.mpr same
      exact .inr (overlapped_eq_earlier.mp left)
  · intro harmless last residue run finished
    have past := now_le_of_interleaved run
    obtain ⟨which, alone | both⟩ := upcoming_of_interleaved run finished
    · refine ⟨which, ?_⟩
      rw [alone, upcoming_extractedSerially valkey lists past]
    · rcases harmless last.now past which with covered | agreed
      · refine ⟨which, ?_⟩
        rw [both, upcoming_extractedSerially valkey lists past]
        exact overlapped_eq_later.mpr covered
      · refine ⟨!which, ?_⟩
        rw [both, upcoming_extractedSerially valkey lists past]
        exact overlapped_eq_earlier.mpr agreed

end Concurrent

/-! ### A round that is moved -/

/-- One run has fetched the round at its old time, the other at its new time. -/
def movedRound (which : Bool) : FetchedList "codeforces" :=
  { contests := [codeforcesRound (if which then 9000 else 5000)]
    supported := by decide
    nonempty := List.cons_ne_nil _ _
    own := by
      intro contest member
      rw [List.mem_singleton.mp member]
      rfl }

/-- Both stay, while each order of the two runs would leave one. -/
theorem concurrent_extractions_keep_both :
    ∃ last residue,
      Interleaved environment served Lapse emptyWorld (extractions (fun _ => true) movedRound) last
        residue ∧
      (∀ which, ∃ result, residue which = .done result) ∧
      (codeforcesRound 5000).id ∈ last.database.upcoming "codeforces" last.now ∧
      (codeforcesRound 9000).id ∈ last.database.upcoming "codeforces" last.now ∧
      ¬Serialisable (fun _ => true) movedRound emptyWorld last := by
  obtain ⟨last, residue, run, finished, database, now⟩ :=
    exists_overlapping_run (fun _ => true) movedRound true emptyWorld
  have old : (codeforcesRound 5000).id ∈ last.database.upcoming "codeforces" last.now := by
    rw [database, now]
    exact ⟨(codeforcesRound 5000).row, by decide +kernel, rfl, by decide⟩
  have new : (codeforcesRound 9000).id ∈ last.database.upcoming "codeforces" last.now := by
    rw [database, now]
    exact ⟨(codeforcesRound 9000).row, by decide +kernel, rfl, by decide⟩
  refine ⟨last, residue, run, finished, old, new, ?_⟩
  rintro ⟨which, same⟩
  rw [same, upcoming_extractedSerially _ _ (now_le_of_interleaved run)] at old new
  obtain ⟨_, namesOld, _⟩ := old
  obtain ⟨_, namesNew, _⟩ := new
  cases which with
  | false =>
    have absent : lastWith (codeforcesRound 9000).id (movedRound false).contests = none := by
      decide +kernel
    cases absent.symm.trans namesNew
  | true =>
    have absent : lastWith (codeforcesRound 5000).id (movedRound true).contests = none := by
      decide +kernel
    cases absent.symm.trans namesOld

end ContestSync
