/-
The event of a contest that was pruned. Pruning a contest removes the rows of
`synced_events` that refer to it, by `ON DELETE CASCADE`, and `SyncUser` takes
down only events that a row names. From then on no operation touches the event:
it is in a calendar exactly when it was there at the time of the prune.
-/

import ContestSync.FaithfulRows

namespace ContestSync

open Resumable Program Function

def World.Visible (world : World) (userID : Int) (eventID calendarID : String) : Prop :=
  (calendarID = "primary" ∨ calendarID ∈ (world.accounts userID).calendars) ∧
    (world.accounts userID).shown calendarID eventID ≠ none

instance (world : World) (userID : Int) (eventID calendarID : String) :
    Decidable (world.Visible userID eventID calendarID) :=
  inferInstanceAs (Decidable (_ ∧ _))

/-- Nothing that an operation could do for the user is about this event, and it
is visible where it was at the start. -/
structure Apart (valkey : Bool) (userID : Int) (googleID eventID : String)
    (start world : World) : Prop where
  issued : userID < world.database.serial
  unlisted : ∀ contest ∈ world.database.contests.rows,
    generateDeterministicEventID googleID contest.id ≠ eventID
  uncached : valkey = true → ∀ platform rows, world.valkey.contests platform = some rows →
    ∀ contest ∈ rows, generateDeterministicEventID googleID contest.id ≠ eventID
  visible : ∀ calendarID, world.Visible userID eventID calendarID ↔
    start.Visible userID eventID calendarID

namespace Apart

variable {valkey : Bool} {userID owner : Int} {googleID eventID : String} {start world : World}

theorem quiet (apart : Apart valkey userID googleID eventID start world) {request : Request}
    (contests : request.writes .contests = false)
    (contestsCache : request.writes .contestsCache = false)
    (accounts : request.writes .accounts = false) :
    Apart valkey userID googleID eventID start (world.handle request).1 := by
  have frame := frame_handle world request
  refine ⟨Int.lt_of_lt_of_le apart.issued (serial_handle world request), ?_, ?_, ?_⟩
  · rw [frame.contests contests]
    exact apart.unlisted
  · rw [frame.contestsCache contestsCache]
    exact apart.uncached
  · intro calendarID
    unfold World.Visible
    rw [frame.accounts accounts]
    exact apart.visible calendarID

variable {account : Account}

variable (apart : Apart valkey userID googleID eventID start world)
include apart

theorem setAccount (same : owner = userID → ∀ calendarID,
      ((calendarID = "primary" ∨ calendarID ∈ account.calendars) ∧
        account.shown calendarID eventID ≠ none) ↔ world.Visible userID eventID calendarID) :
    Apart valkey userID googleID eventID start (world.setAccount owner account) := by
  refine ⟨apart.issued, apart.unlisted, apart.uncached, ?_⟩
  intro calendarID
  refine Iff.trans ?_ (apart.visible calendarID)
  unfold World.Visible World.setAccount
  by_cases own : userID = owner
  · subst own
    simp only [update_self]
    exact same rfl calendarID
  · simp only [update_of_ne own]

theorem sameBut
    {calendarID other : String}
    (same : Account.SameBut calendarID other (world.accounts owner) account)
    (different : owner = userID → other ≠ eventID) :
    Apart valkey userID googleID eventID start (world.setAccount owner account) := by
  refine apart.setAccount ?_
  intro own otherCalendar
  subst own
  unfold World.Visible
  rw [same.known, same.shown (Ne.symm (different rfl)) otherCalendar]

theorem insertCalendar :
    Apart valkey userID googleID eventID start
      (world.setAccount owner (world.accounts owner).insertCalendar.1) := by
  refine apart.setAccount ?_
  rintro rfl calendarID
  unfold World.Visible
  rcases (world.accounts owner).insertCalendar_cases with
    ⟨error, called⟩ | ⟨created, _, secondary, unknown, called⟩
  · rw [called]
  · rw [called]
    by_cases new : calendarID = created
    · subst new
      simp [Account.shown, secondary, unknown]
    · simp [Account.shown, new]

theorem setContests
    {database : Database} (serial : database.serial = world.database.serial)
    (unlisted : ∀ contest ∈ database.contests.rows,
      generateDeterministicEventID googleID contest.id ≠ eventID) :
    Apart valkey userID googleID eventID start (world.setDatabase database) := by
  refine ⟨?_, unlisted, apart.uncached, apart.visible⟩
  change userID < database.serial
  rw [serial]
  exact apart.issued

theorem setContestsCache
    {cached : Valkey} {platform : String} {filled : Option (List ContestRow)}
    (contests : cached.contests = update world.valkey.contests platform filled)
    (fits : ∀ rows, filled = some rows → ∀ contest ∈ rows,
      generateDeterministicEventID googleID contest.id ≠ eventID) :
    Apart valkey userID googleID eventID start { world with valkey := cached } := by
  refine ⟨apart.issued, apart.unlisted, ?_, apart.visible⟩
  intro configured other rows hit
  change cached.contests other = _ at hit
  rw [contests] at hit
  by_cases same : other = platform
  · subst same
    rw [update_self] at hit
    exact fits rows hit
  · rw [update_of_ne same] at hit
    exact apart.uncached configured other rows hit

end Apart

/-! ### The contests table -/

namespace Database

variable {database : Database} {contest : ContestRow}

theorem mem_upsertContest_id {row : ContestRow}
    (member : contest ∈ (database.upsertContest row).contests.rows) :
    contest.id = row.id ∨ ∃ old ∈ database.contests.rows, old.id = contest.id := by
  have found := Keyed.Table.find_of_mem member
  unfold upsertContest at found
  rw [Keyed.Table.find_upsert] at found
  split at found
  · rename_i same
    exact Or.inl same
  · obtain ⟨present, _⟩ := Keyed.Table.find_eq_some_iff.mp found
    exact Or.inr ⟨contest, present, rfl⟩

theorem mem_upsertContests_id {contests : List Contest}
    (member : contest ∈ (database.upsertContests contests).contests.rows) :
    (∃ fetched ∈ contests, fetched.id = contest.id) ∨
      ∃ old ∈ database.contests.rows, old.id = contest.id := by
  unfold upsertContests at member
  induction contests generalizing database with
  | nil => exact Or.inr ⟨contest, member, rfl⟩
  | cons first rest ih =>
    rcases ih member with ⟨fetched, inRest, same⟩ | ⟨old, present, same⟩
    · exact Or.inl ⟨fetched, List.mem_cons_of_mem first inRest, same⟩
    · rcases mem_upsertContest_id present with new | ⟨older, earlier, sameOlder⟩
      · exact Or.inl ⟨first, List.mem_cons_self, new.symm.trans same⟩
      · exact Or.inr ⟨older, earlier, sameOlder.trans same⟩

end Database

section Operations

variable {remote : Request → Outcome → Prop} {syncer : Syncer} {owner : Int → String} {userID : Int}
  {googleID eventID : String} {start : World} {valkey : Bool} {request : Request}

theorem maintains_apart (contests : request.writes .contests = false)
    (contestsCache : request.writes .contestsCache = false)
    (accounts : request.writes .accounts = false) :
    Maintains (alone remote) (Apart valkey userID googleID eventID start) (ask request) :=
  maintains_ask (fun _ apart => apart.quiet contests contestsCache accounts)

theorem maintains_apart_deleteContests
    (deletes : ∀ world : World, ∃ condition, (world.handle request).1 =
      world.setDatabase (world.database.deleteContests condition)) :
    Maintains (alone remote) (Apart valkey userID googleID eventID start) (ask request) := by
  apply maintains_ask
  intro world apart
  obtain ⟨condition, called⟩ := deletes world
  rw [called]
  exact apart.setContests rfl (fun contest member =>
    apart.unlisted contest (Database.mem_deleteContests.mp member).1)

theorem maintains_apart_upsertContests {contests : List Contest} (different : ∀ contest ∈ contests,
      generateDeterministicEventID googleID contest.id ≠ eventID) :
    Maintains (alone remote) (Apart valkey userID googleID eventID start)
      (ask (.upsertContests contests)) := by
  apply maintains_ask
  intro world apart
  refine apart.setContests (world.database.upsertContests_others contests).2.1 ?_
  intro contest member
  rcases Database.mem_upsertContests_id member with ⟨fetched, listed, same⟩ | ⟨old, present, same⟩
  · rw [← same]
    exact different fetched listed
  · rw [← same]
    exact apart.unlisted old present

theorem maintains_apart_deleteCachedContests (platform : String) :
    Maintains (alone remote) (Apart valkey userID googleID eventID start)
      (ask (.deleteCachedContests platform)) :=
  maintains_ask (fun _ apart => apart.setContestsCache rfl (fun _ impossible => nomatch impossible))

/-! ### Runs of SyncUser -/

theorem Apart.plain {world : World} {runner : Int}
    (apart : Apart valkey userID googleID eventID start world) (own : request.ofUser runner)
    (uninformed : request.informed = false) :
    Apart valkey userID googleID eventID start (world.handle request).1 := by
  cases request
  case insertCalendar account token timezone => exact apart.insertCalendar
  all_goals first | exact apart.quiet rfl rfl rfl | (cases uninformed; done) | cases own

/-- What a run for any user knows: the contests have other event ids, and so do
the rows it cleans up when it is a run for the user of the event. -/
def apartKnowledge (owner : Int → String) (userID runner : Int) (eventID : String) : Knowledge :=
  { profiles := fun user => user.googleID = owner runner
    items := fun item => runner = userID → item.googleEventID ≠ eventID
    contests := fun contest => generateDeterministicEventID (owner userID) contest.id ≠ eventID
    events := fun user contest computed =>
      computed = generateDeterministicEventID user.googleID contest.id }

theorem runKeeps_apart (runner : Int) :
    RunKeeps (alone remote) (fun world => Identified syncer.valkey owner world ∧
        Apart syncer.valkey userID (owner userID) eventID start world)
      syncer runner (apartKnowledge owner userID runner eventID) := by
  have different : ∀ (user : CachedUser) (contest : ContestRow), user.googleID = owner runner →
      generateDeterministicEventID (owner userID) contest.id ≠ eventID → ∀ timezone,
      runner = userID → (contestEvent user.googleID timezone contest).id ≠ eventID := by
    intro user contest fits listed timezone same
    subst same
    change generateDeterministicEventID user.googleID contest.id ≠ eventID
    rw [fits]
    exact listed
  exact
    { plain := fun request own uninformed => maintains_ask (fun world holds =>
        ⟨holds.1.inherits (inherits_handle world (introduces_of_ofUser own uninformed)),
          holds.2.plain own uninformed⟩)
      cachedProfile := fun configured => yields_ask
        (fun world holds => ⟨holds, fun user hit => holds.1.cached configured runner user hit⟩)
        (fun _ _ impossible => nomatch impossible)
      storedProfile := yields_ask (fun world holds => ⟨holds, fun row user answered scanned =>
          (googleID_of_scanSyncProfile scanned).trans
            (holds.1.stored runner row (Option.some.inj answered))⟩)
        (fun _ _ _ impossible => nomatch impossible)
      fillProfile := fun user fits => maintains_ask (fun world holds =>
        ⟨holds.1.setCachedUser fits, holds.2.quiet rfl rfl rfl⟩)
      tracked := yields_ask (fun world holds => ⟨holds, by
          rintro rows ⟨⟩ item member same
          subst same
          obtain ⟨tracked, contest, listed, sameID, _⟩ := Database.mem_selectTracked.mp member
          have computed : item.googleEventID =
              generateDeterministicEventID (owner runner) item.contestID :=
            holds.1.tracked _ tracked
          rw [computed, ← sameID]
          exact holds.2.unlisted contest listed⟩)
        (fun _ _ impossible => nomatch impossible)
      takeDown := fun token calendarID item apart => maintains_ask (fun world holds =>
        ⟨holds.1.inherits (inherits_handle world rfl),
          holds.2.sameBut (Account.sameBut_deleteEvent _ calendarID item.googleEventID) apart⟩)
      cachedContests := fun configured platform => yields_ask
        (fun world holds => ⟨holds, fun rows hit => holds.2.uncached configured platform rows hit⟩)
        (fun _ _ impossible => nomatch impossible)
      storedContests := fun missed => yields_ask (fun world holds => ⟨holds, by
          rintro rows ⟨⟩ contest member
          exact holds.2.unlisted contest (Database.mem_selectContests.mp member).1⟩)
        (fun _ _ impossible => nomatch impossible)
      fillContests := fun platform rows listed => maintains_ask (fun world holds =>
        ⟨holds.1.inherits (inherits_handle world rfl),
          holds.2.setContestsCache rfl (fun _ same => Option.some.inj same ▸ listed)⟩)
      computed := fun _ _ => rfl
      insert := fun token calendarID timezone user contest fits listed => yields_ask
        (fun world holds => ⟨⟨holds.1.inherits (inherits_handle world rfl),
            holds.2.sameBut (Account.sameBut_insertEvent _ calendarID _)
              (different user contest fits listed timezone)⟩,
          fun created answered => Account.id_of_insertEvent answered⟩)
        (fun _ _ impossible => nomatch impossible)
      update := fun token calendarID timezone user contest fits listed =>
        maintains_ask (fun world holds => ⟨holds.1.inherits (inherits_handle world rfl),
          holds.2.sameBut (Account.sameBut_updateEvent _ calendarID _ _)
            (different user contest fits listed timezone)⟩)
      record := fun user contest computed fits _ created => maintains_ask (fun world holds =>
        ⟨holds.1.insertSynced (by rw [created, fits]), holds.2.quiet rfl rfl rfl⟩) }

/-! ### The other operations -/

/-- The operations that do not announce a contest with this event id again. The
background part of `DeleteAccount` clears the calendars of its user. -/
def Spares (userID : Int) (googleID eventID : String) (_world : World)
    (_remote : Request → Outcome → Prop) : Operation → Prop
  | .handleExtraction _ fetched => ∀ contests, fetched = some contests → ∀ contest ∈ contests,
      generateDeterministicEventID googleID contest.id ≠ eventID
  | .deleteAccount account _ => account ≠ userID
  | _ => True

theorem maintains_apart_me (account : Int) :
    Maintains (alone remote) (Apart valkey userID googleID eventID start)
      (Handlers.me ⟨valkey⟩ account) :=
  maintains_me (fun _ => True) (maintains_apart rfl rfl rfl)
    (Maintains.yields (maintains_apart rfl rfl rfl) (fun _ _ _ => trivial))
    (fun _ _ => maintains_apart rfl rfl rfl)

theorem apart_of_turn {before after : World} {operation : Operation}
    (permitted : Spares userID (owner userID) eventID before remote operation)
    (run : Runs environment (Reliable remote) before (operation.program syncer) after ())
    (identified : Identified syncer.valkey owner before)
    (apart : Apart syncer.valkey userID (owner userID) eventID start before) :
    Apart syncer.valkey userID (owner userID) eventID start after := by
  have kept : ∀ {program : Program service Unit},
      Maintains (alone remote) (Apart syncer.valkey userID (owner userID) eventID start) program →
      Runs environment (Reliable remote) before program after () →
      Apart syncer.valkey userID (owner userID) eventID start after :=
    fun maintains run => (maintains before apart).runs run
  cases operation with
  | googleCallback login =>
    exact kept ((maintains_googleCallback (maintains_apart rfl rfl rfl)
      (fun _ => maintains_apart rfl rfl rfl) (fun _ => maintains_apart rfl rfl rfl)).map) run
  | me account =>
    exact kept ((maintains_apart_me account).map) run
  | savePreferences account requested useDedicated =>
    exact ((((runKeeps_apart account).savePreferences requested useDedicated).map before
      ⟨identified, apart⟩).runs run).2
  | syncUser account =>
    exact (((runKeeps_apart account).syncUser.map before ⟨identified, apart⟩).runs run).2
  | deleteAccount account _ =>
    exact kept ((maintains_deleteAccount (maintains_apart rfl rfl rfl)
      (maintains_apart rfl rfl rfl) (maintains_apart rfl rfl rfl)).map) run
  | pruneOldData =>
    exact kept (maintains_pruneOldData (maintains_apart_deleteContests (fun _ => ⟨_, rfl⟩))
      (maintains_apart rfl rfl rfl) maintains_apart_deleteCachedContests) run
  | handleExtraction platform fetched =>
    exact kept ((maintains_handleExtraction
      (fun _ => maintains_apart_deleteContests (fun _ => ⟨_, rfl⟩))
      (fun contests fetch => maintains_apart_upsertContests (permitted contests fetch))
      (maintains_apart_deleteCachedContests platform)).map) run

end Operations

/-! ### The prune -/

/-- No other contest that is known when a contest is pruned has its event id. -/
structure EventIDFree (valkey : Bool) (world : World) (googleID : String) (contest : ContestRow)
    (fetched : List Contest) : Prop where
  listed : ∀ other ∈ world.database.contests.rows, other.id ≠ contest.id →
    generateDeterministicEventID googleID other.id ≠
      generateDeterministicEventID googleID contest.id
  fetched : ∀ other ∈ fetched, generateDeterministicEventID googleID other.id ≠
    generateDeterministicEventID googleID contest.id
  cached : valkey = true → ∀ platform rows, platform ≠ contest.platform →
    world.valkey.contests platform = some rows → ∀ other ∈ rows,
      generateDeterministicEventID googleID other.id ≠
        generateDeterministicEventID googleID contest.id

theorem ensures_apart_handleExtraction {remote : Request → Outcome → Prop} {valkey : Bool}
    {world : World} {user : UserRow} (stored : user ∈ world.database.users.rows)
    {contest : ContestRow} (listed : contest ∈ world.database.contests.rows)
    (future : world.now < contest.startTime) (supported : contest.platform ∈ platforms)
    {fetched : List Contest} (nonempty : fetched ≠ [])
    (missing : contest.id ∉ fetched.map Contest.id)
    (free : EventIDFree valkey world user.googleID contest fetched) :
    Ensures (alone remote) (fun _ => Apart valkey user.id user.googleID
        (generateDeterministicEventID user.googleID contest.id) world)
      (handleExtraction valkey contest.platform (some fetched)) world := by
  refine ensures_ite (fun unknown => absurd supported unknown) (fun _ => ?_)
  refine ensures_ite (fun empty => absurd empty nonempty) (fun _ => ?_)
  apply ensures_local rfl
  intro _ _
  apply ensures_local rfl
  rintro _ rfl
  have unlisted : ∀ other ∈ ((world.database.pruneObsolete world.now contest.platform
        (fetched.map Contest.id)).upsertContests fetched).contests.rows,
      generateDeterministicEventID user.googleID other.id ≠
        generateDeterministicEventID user.googleID contest.id := by
    intro other member
    rcases Database.mem_upsertContests_id member with ⟨source, inFetched, same⟩ | ⟨old, kept, same⟩
    · rw [← same]
      exact free.fetched source inFetched
    · rw [← same]
      obtain ⟨present, spared⟩ := Database.mem_deleteContests.mp kept
      refine free.listed old present ?_
      -- The pruned contest is the only row with its id, and it is deleted.
      intro sameID
      cases Keyed.Table.row_eq_of_key present listed sameID
      exact of_decide_eq_false spared ⟨rfl, future, missing⟩
  have issued : user.id < ((world.database.pruneObsolete world.now contest.platform
      (fetched.map Contest.id)).upsertContests fetched).serial := by
    rw [(Database.upsertContests_others _ fetched).2.1]
    exact world.database.issued user stored
  refine ensures_ite (fun _ => ?_) (fun failed => absurd rfl failed)
  apply ensures_ite
  · intro _
    apply ensures_local rfl
    intro _ _
    refine ⟨issued, unlisted, ?_, fun _ => Iff.rfl⟩
    intro configured platform rows hit
    change update world.valkey.contests contest.platform none platform = _ at hit
    by_cases same : platform = contest.platform
    · rw [same, update_self] at hit
      cases hit
    · rw [update_of_ne same] at hit
      exact free.cached configured platform rows same hit
  · intro unconfigured
    exact ⟨issued, unlisted, fun configured => absurd configured unconfigured, fun _ => Iff.rfl⟩

/-- The event of a pruned contest is gone after the next run for the user if and
only if it was in none of the user's calendars when the contest was pruned. -/
theorem prunedEvent_gone_iff {syncer : Syncer} {permits : Permits}
    {first world pruned middle last : World} {remote : Request → Outcome → Prop}
    (untracked : first.database.syncedEvents.rows = [])
    (uncached : ∀ userID, first.valkey.users userID = none)
    (reachable : History syncer permits first world)
    {user : UserRow} (stored : user ∈ world.database.users.rows)
    {contest : ContestRow} (listed : contest ∈ world.database.contests.rows)
    (future : world.now < contest.startTime) (supported : contest.platform ∈ platforms)
    {fetched : List Contest} (nonempty : fetched ≠ [])
    (missing : contest.id ∉ fetched.map Contest.id)
    (free : EventIDFree syncer.valkey world user.googleID contest fetched)
    (prune : Runs environment (Reliable remote) world
      ((Operation.handleExtraction contest.platform (some fetched)).program syncer) pruned ())
    (between : History syncer (Spares user.id user.googleID
      (generateDeterministicEventID user.googleID contest.id)) pruned middle)
    (sync : Runs environment (Reliable servedRemote) middle
      ((Operation.syncUser user.id).program syncer) last ()) :
    (∀ calendarID, ¬last.Visible user.id
        (generateDeterministicEventID user.googleID contest.id) calendarID) ↔
      ∀ calendarID, ¬world.Visible user.id
        (generateDeterministicEventID user.googleID contest.id) calendarID := by
  obtain ⟨owner, identified⟩ := identified_after_history untracked uncached reachable
  have own : user.googleID = owner user.id :=
    identified.stored user.id user (Keyed.Table.find_of_mem stored)
  have issued := world.database.issued user stored
  have pruning := (ensures_discard (ensures_apart_handleExtraction stored listed future supported
    nonempty missing free)).runs prune
  obtain ⟨next, same, identifiedPruned⟩ := identified_of_turn prune identified
  -- The invariant of everything that happens between the prune and the run.
  have later : ∃ owner, owner user.id = user.googleID ∧ Identified syncer.valkey owner middle ∧
      Apart syncer.valkey user.id (owner user.id)
        (generateDeterministicEventID user.googleID contest.id) world middle := by
    refine between.keeps (fun state => ∃ owner, owner user.id = user.googleID ∧
      Identified syncer.valkey owner state ∧ Apart syncer.valkey user.id (owner user.id)
        (generateDeterministicEventID user.googleID contest.id) world state) ?_ ?_ ?_ ?_
    · rintro before after remote operation permitted run ⟨owner, own, identified, apart⟩
      have stillApart := apart_of_turn (by rw [own]; exact permitted) run identified apart
      obtain ⟨next, same, identifiedAfter⟩ := identified_of_turn run identified
      have stillOwn := same user.id apart.issued
      refine ⟨next, stillOwn.trans own, identifiedAfter, ?_⟩
      rw [stillOwn]
      exact stillApart
    · rintro _ _ _ _ _ other ⟨owner, own, identified, apart⟩
      exact ⟨owner, own, { identified with }, apart.setAccount (fun same => absurd same other)⟩
    · rintro before after lapse ⟨owner, own, identified, apart⟩
      refine ⟨owner, own, identified.lapse lapse, ?_, ?_, ?_, ?_⟩
      · rw [lapse.database]
        exact apart.issued
      · rw [lapse.database]
        exact apart.unlisted
      · intro configured platform rows hit
        rcases lapse.contests platform with same | expired
        · rw [same] at hit
          exact apart.uncached configured platform rows hit
        · rw [expired] at hit
          cases hit
      · unfold World.Visible
        rw [lapse.accounts]
        exact apart.visible
    · have stillOwn : next user.id = user.googleID := (same user.id issued).trans own.symm
      refine ⟨next, stillOwn, identifiedPruned, ?_⟩
      rw [stillOwn]
      exact pruning
  obtain ⟨owner, own, identified, apart⟩ := later
  have synced := (((runKeeps_apart user.id).syncUser.map middle ⟨identified, apart⟩).runs sync).2
  exact forall_congr' (fun calendarID => not_congr (synced.visible calendarID))

/-! ### A round that is moved -/

/-- A user selects Codeforces, and a round is announced and synced. -/
def untilSynced : List Operation :=
  [.googleCallback sampleLogin, .savePreferences 1 (some ["codeforces"]) false,
    .handleExtraction "codeforces" (some [codeforcesRound 2000]), .syncUser 1]

def syncedWorld : World :=
  replay sampleSyncer untilSynced emptyWorld

/-- The round is moved: the next extraction knows it under another id. -/
def movedWorld : World :=
  replay sampleSyncer [.handleExtraction "codeforces" (some [codeforcesRound 5000])] syncedWorld

def movedUser : UserRow :=
  { sampleRow with
    lastSyncAt := some (unixTime 1000)
    syncStatus := .success
    createdAt := unixTime 1000 }

theorem syncedWorld_free :
    EventIDFree false syncedWorld movedUser.googleID (codeforcesRound 2000).row
      [codeforcesRound 5000] :=
  { listed := by decide +kernel
    fetched := by decide +kernel
    cached := fun configured => nomatch configured }

theorem syncedWorld_stored : movedUser ∈ syncedWorld.database.users.rows := by
  have found : syncedWorld.database.users.find 1 = some movedUser := by
    decide +kernel
  exact (Keyed.Table.find_eq_some_iff.mp found).1

theorem syncedWorld_listed :
    (codeforcesRound 2000).row ∈ syncedWorld.database.contests.rows := by
  have found : syncedWorld.database.contests.find "codeforces_2000" =
      some (codeforcesRound 2000).row := by
    decide +kernel
  exact (Keyed.Table.find_eq_some_iff.mp found).1

theorem prunedEvent_gone_iff_moved :
    (∀ calendarID, ¬(replay sampleSyncer [.syncUser movedUser.id] movedWorld).Visible movedUser.id
        (generateDeterministicEventID movedUser.googleID (codeforcesRound 2000).row.id)
        calendarID) ↔
      ∀ calendarID, ¬syncedWorld.Visible movedUser.id
        (generateDeterministicEventID movedUser.googleID (codeforcesRound 2000).row.id)
        calendarID := by
  have reachable : History sampleSyncer (fun _ _ _ => True) emptyWorld syncedWorld :=
    history_replay untilSynced ⟨trivial, trivial, trivial, trivial, trivial⟩
  have future : syncedWorld.now < (codeforcesRound 2000).row.startTime := by
    decide +kernel
  have missing : (codeforcesRound 2000).row.id ∉ [codeforcesRound 5000].map Contest.id := by
    decide +kernel
  have prune : Runs environment (Reliable servedRemote) syncedWorld
      ((Operation.handleExtraction (codeforcesRound 2000).row.platform
        (some [codeforcesRound 5000])).program sampleSyncer) movedWorld () :=
    runs_replay sampleSyncer _ syncedWorld
  exact prunedEvent_gone_iff rfl (fun _ => rfl) reachable syncedWorld_stored syncedWorld_listed
    future (by decide) (by decide) missing syncedWorld_free prune .refl
    (runs_replay sampleSyncer (.syncUser movedUser.id) movedWorld)

/-- The round had been synced, it is pruned when it is moved, and its event is
still in the calendar after the next run. -/
theorem prunedEvent_stays :
    (∃ row ∈ syncedWorld.database.syncedEvents.rows,
      row.userID = 1 ∧ row.contestID = "codeforces_2000") ∧
    (∀ contest ∈ movedWorld.database.contests.rows, contest.id ≠ "codeforces_2000") ∧
    (replay sampleSyncer [.syncUser 1] movedWorld).Visible 1
      (generateDeterministicEventID "1080" "codeforces_2000") "primary" := by
  have computed : generateDeterministicEventID "1080" "codeforces_2000" =
      "je31pkhvff7v1im2drtj3du5a8" := by
    decide +kernel
  refine ⟨?_, ?_, ?_⟩
  · decide +kernel
  · decide +kernel
  · rw [computed]
    decide +kernel

end ContestSync
