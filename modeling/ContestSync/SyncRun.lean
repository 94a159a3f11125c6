/-
What a run of `SyncUser` without a cache carries out. A setting is what the run
starts from; it determines the plan. Every request of the run is a move of this
plan, and a run in which every request is served completes it.

The results hold for a run that others overtake at any point, as long as they
carry out the same plan, and for a run in which the calls that write an event
or a row may fail.
-/

import ContestSync.SyncContract

namespace ContestSync

open Reconciliation Resumable

/-- The calendar a run writes to when it does not have to create one. -/
def determinedCalendar (user : CachedUser) : Option String :=
  if user.useDedicated then
    if user.calendarID ≠ "" ∧ user.calendarID ≠ "primary" then some user.calendarID else none
  else some "primary"

structure Setting where
  userID : Int
  start : World
  row : UserRow
  user : CachedUser
  calendarID : String
  stored : start.database.users.find userID = some row
  profile : scanSyncProfile row = some user
  determined : determinedCalendar user = some calendarID
  faithful : start.Faithful userID user.googleID
  apart : start.EventIDsApart user.googleID

namespace Setting

variable (setting : Setting)

def selected : List String :=
  setting.user.platforms.getD []

def timezone : String :=
  Syncer.effectiveTimezone (setting.start.accounts setting.userID).timezone

def initial : Snapshot String String Event :=
  setting.start.snapshot setting.userID setting.calendarID

def Upcoming (contest : ContestRow) : Prop :=
  contest ∈ setting.start.database.contests.rows ∧ contest.platform ∈ setting.selected ∧
    setting.start.now < contest.startTime

def wanted (contestID : String) : Option Event :=
  if setting.initial.tracked contestID = none then
    ((setting.start.database.contests.find contestID).filter (fun contest =>
      contest.platform ∈ setting.selected ∧ setting.start.now < contest.startTime)).map
      (contestEvent setting.user.googleID setting.timezone)
  else none

variable {contestID : String}

theorem wanted_eq_some {event : Event} :
    setting.wanted contestID = some event ↔ setting.initial.tracked contestID = none ∧
        ∃ contest, setting.Upcoming contest ∧ contest.id = contestID ∧
          contestEvent setting.user.googleID setting.timezone contest = event := by
  unfold wanted
  by_cases untracked : setting.initial.tracked contestID = none
  · rw [if_pos untracked, Option.map_eq_some_iff]
    constructor
    · rintro ⟨contest, chosen, built⟩
      obtain ⟨found, upcoming⟩ := Option.filter_eq_some_iff.mp chosen
      obtain ⟨member, atID⟩ := Keyed.Table.find_eq_some_iff.mp found
      obtain ⟨onPlatform, future⟩ := of_decide_eq_true upcoming
      exact ⟨untracked, contest, ⟨member, onPlatform, future⟩, atID, built⟩
    · rintro ⟨_, contest, ⟨member, onPlatform, future⟩, atID, built⟩
      refine ⟨contest, Option.filter_eq_some_iff.mpr ⟨?_, ?_⟩, built⟩
      · exact Keyed.Table.find_eq_some_iff.mpr ⟨member, atID⟩
      · exact decide_eq_true ⟨onPlatform, future⟩
  · rw [if_neg untracked]
    constructor
    · intro impossible
      cases impossible
    · rintro ⟨isUntracked, _⟩
      exact absurd isUntracked untracked

theorem tracked_contest {eventID : String}
    (tracked : setting.initial.tracked contestID = some eventID) :
    (∃ contest ∈ setting.start.database.contests.rows, contest.id = contestID) ∧
      eventID = generateDeterministicEventID setting.user.googleID contestID := by
  have member := World.tracked_eq_some.mp tracked
  exact ⟨setting.start.database.contestRef _ member, setting.faithful _ member rfl⟩

/-- What a run carries out: take down the tracked events of platforms that are
not selected, put up those of upcoming contests that are not tracked. -/
def plan : Plan setting.initial :=
  { stale := {contestID | setting.initial.tracked contestID ≠ none ∧
      ∃ contest ∈ setting.start.database.contests.rows,
        contest.id = contestID ∧ contest.platform ∉ setting.selected}
    wanted := setting.wanted
    name := generateDeterministicEventID setting.user.googleID
    tracked_of_stale := fun _ stale => stale.1
    untracked_of_wanted := fun _ _ wanted => (setting.wanted_eq_some.mp wanted).1
    apart := by
      have known : ∀ contestID, (setting.initial.tracked contestID ≠ none ∧
          (∃ contest ∈ setting.start.database.contests.rows,
            contest.id = contestID ∧ contest.platform ∉ setting.selected) ∨
          setting.wanted contestID ≠ none) →
          ∃ contest ∈ setting.start.database.contests.rows, contest.id = contestID := by
        rintro contestID (⟨_, contest, member, atID, _⟩ | isWanted)
        · exact ⟨contest, member, atID⟩
        · obtain ⟨event, wanted⟩ := Option.ne_none_iff_exists'.mp isWanted
          obtain ⟨_, contest, upcoming, atID, _⟩ := setting.wanted_eq_some.mp wanted
          exact ⟨contest, upcoming.1, atID⟩
      intro first second concernsFirst concernsSecond same
      exact setting.apart (known first concernsFirst) (known second concernsSecond) same
    unclaimed := by
      intro contestID event wanted other claimed
      obtain ⟨untracked, contest, upcoming, atID, _⟩ := setting.wanted_eq_some.mp wanted
      obtain ⟨known, named⟩ := setting.tracked_contest claimed
      have same := setting.apart ⟨contest, upcoming.1, atID⟩ known named
      subst same
      rw [untracked] at claimed
      cases claimed }

abbrev view (world : World) : Snapshot String String Event :=
  world.snapshot setting.userID setting.calendarID

abbrev Advances (before after : World) : Prop :=
  ContestSync.Advances setting.userID setting.calendarID setting.plan before after

/-- What a run can lead to, cut off anywhere and overtaken by anyone who
carries out the same plan. -/
abbrev Reached (world : World) : Prop :=
  Reaches setting.userID setting.calendarID setting.plan setting.start world

variable {setting} {world : World}

theorem between_of_reached (reached : setting.Reached world) :
    setting.plan.Between (setting.view world) :=
  setting.plan.between_start.moves reached.moves

variable {contest : ContestRow}

theorem upcoming_wanted (upcoming : setting.Upcoming contest)
    (untracked : setting.initial.tracked contest.id = none) :
    setting.plan.wanted contest.id =
      some (contestEvent setting.user.googleID setting.timezone contest) :=
  setting.wanted_eq_some.mpr ⟨untracked, contest, upcoming, rfl, rfl⟩

theorem selectContests_of_reached (reached : setting.Reached world) :
    contest ∈ world.database.selectContests world.now setting.selected ↔
      setting.Upcoming contest := by
  rw [Database.mem_selectContests, reached.unchanged.contests]
  exact and_congr_right (fun member =>
    and_congr_right (fun _ => reached.unchanged.future contest member))

theorem stale_of_selectTracked (reached : setting.Reached world) {item : Tracked}
    (listed : item ∈ world.database.selectTracked setting.userID)
    (unselected : item.platform ∉ setting.selected) :
    item.contestID ∈ setting.plan.stale ∧
      item.googleEventID = setting.plan.name item.contestID := by
  obtain ⟨inTable, contest, known, atID, onPlatform⟩ := Database.mem_selectTracked.mp listed
  rw [reached.unchanged.contests] at known
  rw [← onPlatform] at unselected
  have tracked : (setting.view world).tracked item.contestID =
      some item.googleEventID := World.tracked_eq_some.mpr inTable
  have between := between_of_reached reached
  have unwanted : setting.plan.wanted item.contestID = none := by
    cases isWanted : setting.plan.wanted item.contestID with
    | none => rfl
    | some event =>
      obtain ⟨_, other, upcoming, sameID, _⟩ := setting.wanted_eq_some.mp isWanted
      have same := Keyed.Table.row_eq_of_key upcoming.1 known (sameID.trans atID.symm)
      subst same
      exact absurd upcoming.2.1 unselected
  have kept : setting.initial.tracked item.contestID = some item.googleEventID := by
    by_cases stale : item.contestID ∈ setting.plan.stale
    · rcases between.stale item.contestID stale with kept | gone
      · exact kept.symm.trans tracked
      · rw [gone.1] at tracked
        cases tracked
    · exact (between.tracked_other item.contestID
        (setting.plan.not_concerns stale unwanted)).symm.trans tracked
  refine ⟨⟨?_, contest, known, atID, unselected⟩, (setting.tracked_contest kept).2⟩
  rw [kept]
  exact Option.some_ne_none item.googleEventID

theorem references_of_reached (reached : setting.Reached world)
    (upcoming : setting.Upcoming contest) (eventID : String) :
    world.database.References ⟨setting.userID, contest.id, eventID⟩ := by
  obtain ⟨row, found, _⟩ := reached.unchanged.profile setting.row setting.stored
  obtain ⟨member, atID⟩ := Keyed.Table.find_eq_some_iff.mp found
  refine ⟨⟨row, member, atID⟩, contest, ?_, rfl⟩
  rw [reached.unchanged.contests]
  exact upcoming.1

/-! ### Unselected platforms -/

variable {syncer : Syncer} {before : World} {token : String}

section Run

variable {contract : Contract environment} {process : Nat}
  (hosts : Hosts setting.userID setting.calendarID setting.plan process contract)
include hosts

theorem ensures_deleteAttempt (token : String) (stale : contestID ∈ setting.plan.stale) :
    Ensures contract.spec (fun _ later => setting.Advances world later ∧
        (setting.view later).shown (setting.plan.name contestID) = none)
      (Syncer.deleteAttempt setting.userID token setting.calendarID
        (setting.plan.name contestID)) world := by
  have advances : setting.Advances world
      (world.handle (.deleteEvent setting.userID token setting.calendarID
        (setting.plan.name contestID))).1 := advances_deleteEvent stale token
  apply ensures_served hosts rfl rfl advances
  intro answer _answered later further
  have reached := advances.trans further
  have down := further.lasts.down contestID stale (down_deleteEvent token _)
  cases answer with
  | none => exact ⟨reached, down⟩
  | some error =>
    exact ensures_ite (fun _ => ⟨reached, down⟩) (fun _ => ⟨reached, down⟩)

theorem ensures_removeTracked (token : String) {item : Tracked}
    (stale : item.contestID ∈ setting.plan.stale)
    (named : item.googleEventID = setting.plan.name item.contestID) :
    Ensures contract.spec (fun _ later => setting.Advances world later ∧
        (setting.view later).tracked item.contestID = none)
      (Syncer.removeTracked setting.userID token setting.calendarID item) world := by
  unfold Syncer.removeTracked
  rw [named]
  apply Ensures.bind
  refine ensures_retry (fun (later : World) => setting.Advances world later) ?_ 2 (.refl world)
  intro state reached
  refine Ensures.mono ?_ (ensures_deleteAttempt hosts token stale)
  rintro result later ⟨further, down⟩
  have onward := reached.trans further
  have forgets := deleteSynced_stale stale down
  have deleted : Ensures contract.spec (fun _ last => setting.Advances world last ∧
        (setting.view last).tracked item.contestID = none)
      (do
        let _ ← ask (.deleteSynced setting.userID item.contestID)
        return ()) later := by
    apply ensures_served hosts rfl rfl forgets.1
    intro _ _ last rest
    exact ⟨onward.trans (forgets.1.trans rest), rest.lasts.forgotten _ stale forgets.2⟩
  cases result with
  | ok value => exact deleted
  | error failure => exact ⟨onward, deleted⟩

theorem ensures_cleanup (token : String) (reached : setting.Reached world) :
    Ensures contract.spec (fun _ later => setting.Advances world later ∧
        ∀ contestID ∈ setting.plan.stale, (setting.view later).tracked contestID = none)
      (Syncer.cleanup setting.userID token setting.calendarID setting.selected) world := by
  apply ensures_served hosts rfl rfl (.refl world)
  rintro _ rfl later further
  -- A stale key that is not in the remaining items has been forgotten already.
  refine ensures_each (fun (items : List Tracked) (state : World) => setting.Advances world state ∧
    (∀ item ∈ items, item.contestID ∈ setting.plan.stale ∧
      item.googleEventID = setting.plan.name item.contestID) ∧
    ∀ contestID ∈ setting.plan.stale, (∀ item ∈ items, item.contestID ≠ contestID) →
      (setting.view state).tracked contestID = none)
    ?_ ?_ _ ⟨further, ?_, ?_⟩
  · rintro item rest state ⟨onward, listed, forgotten⟩
    obtain ⟨stale, named⟩ := listed item List.mem_cons_self
    refine Ensures.mono ?_ (ensures_removeTracked hosts token stale named)
    rintro _ last ⟨removed, gone⟩
    refine ⟨onward.trans removed, fun other member => listed other (List.mem_cons_of_mem _ member),
      ?_⟩
    intro contestID isStale absent
    by_cases same : item.contestID = contestID
    · rw [← same]
      exact gone
    · refine removed.lasts.forgotten contestID isStale (forgotten contestID isStale ?_)
      intro other member
      rcases List.mem_cons.mp member with rfl | inRest
      · exact same
      · exact absent other inRest
  · rintro state ⟨onward, _, forgotten⟩
    exact ⟨onward, fun contestID stale =>
      forgotten contestID stale (fun _ member => absurd member List.not_mem_nil)⟩
  · intro item member
    obtain ⟨listed, unselected⟩ := List.mem_filter.mp member
    exact stale_of_selectTracked reached listed (of_decide_eq_true unselected)
  · intro contestID stale absent
    apply further.lasts.forgotten contestID stale
    cases tracked : (setting.view world).tracked contestID with
    | none => exact tracked
    | some eventID =>
      obtain ⟨_, contest, known, atID, unselected⟩ := stale
      rw [← reached.unchanged.contests] at known
      have listed : ⟨contestID, eventID, contest.platform⟩ ∈
          world.database.selectTracked setting.userID :=
        Database.mem_selectTracked.mpr ⟨World.tracked_eq_some.mp tracked, contest, known, atID, rfl⟩
      exact absurd rfl (absent _ (List.mem_filter.mpr ⟨listed, decide_eq_true unselected⟩))

/-! ### The synced set and the contests -/

omit hosts in
theorem selectSynced_of_reached (reached : setting.Reached world) :
    (∀ contestID eventID, setting.initial.tracked contestID = some eventID →
      contestID ∉ setting.plan.stale → contestID ∈ world.database.selectSynced setting.userID) ∧
    ∀ contestID ∈ world.database.selectSynced setting.userID, ∀ event,
      setting.plan.wanted contestID = some event → (setting.view world).tracked contestID =
          some (setting.plan.name contestID) := by
  have between := between_of_reached reached
  constructor
  · intro contestID eventID tracked fresh
    have unwanted : setting.plan.wanted contestID = none := by
      cases wanted : setting.plan.wanted contestID with
      | none => rfl
      | some event =>
        rw [setting.plan.untracked_of_wanted contestID event wanted] at tracked
        cases tracked
    have kept := between.tracked_other contestID (setting.plan.not_concerns fresh unwanted)
    rw [tracked] at kept
    exact Database.mem_selectSynced.mpr ⟨eventID, World.tracked_eq_some.mp kept⟩
  · intro contestID member event wanted
    obtain ⟨eventID, inTable⟩ := Database.mem_selectSynced.mp member
    have tracked : (setting.view world).tracked contestID =
        some eventID := World.tracked_eq_some.mpr inTable
    rcases between.wanted contestID event wanted with absent | present
    · rw [absent] at tracked
      cases tracked
    · exact present.1

theorem ensures_loadSynced (uncached : syncer.valkey = false) (reached : setting.Reached world) :
    Ensures contract.spec (fun synced later => setting.Advances world later ∧
        (∀ contestID eventID, setting.initial.tracked contestID = some eventID →
          contestID ∉ setting.plan.stale → contestID ∈ synced) ∧
        ∀ contestID ∈ synced, ∀ event, setting.plan.wanted contestID = some event →
          (setting.view later).tracked contestID = some (setting.plan.name contestID))
      (syncer.loadSynced setting.userID) world := by
  unfold Syncer.loadSynced Syncer.selectSyncedSet
  rw [uncached]
  apply ensures_served hosts rfl rfl (.refl world)
  rintro _ rfl later further
  obtain ⟨known, recorded⟩ := selectSynced_of_reached reached
  exact ⟨further, known, fun contestID member event wanted =>
    further.lasts.recorded contestID event wanted (recorded contestID member event wanted)⟩

theorem ensures_loadContests (uncached : syncer.valkey = false) (reached : setting.Reached world) :
    Ensures contract.spec (fun found later => setting.Advances world later ∧
        ∃ contests, found = some contests ∧
          ∀ contest, contest ∈ contests ↔ setting.Upcoming contest)
      (syncer.loadContests setting.selected) world := by
  unfold Syncer.loadContests
  rw [uncached]
  apply ensures_served hosts rfl rfl (.refl world)
  rintro _ rfl later further
  exact ⟨further, _, rfl, fun contest => selectContests_of_reached reached⟩

/-! ### The insert loop -/

/-- How the attempts to put up the event of a contest can end. -/
def Inserted (setting : Setting) (admits : environment.Admits) (contest : ContestRow)
    (result : Except GoogleError Syncer.InsertExit) (later : World) : Prop :=
  match result with
  | .ok (.created created) =>
    created = contestEvent setting.user.googleID setting.timezone contest ∧
      (setting.view later).shown (setting.plan.name contest.id) = some created
  | .ok (.conflict error) => error.revoked = false ∧
      (Faultless admits → (later.accounts setting.userID).events setting.calendarID
          (setting.plan.name contest.id) ≠ none)
  | .ok .deleted => False
  | .error error => error.revoked = false ∧ ¬Faultless admits

omit hosts in
theorem ensures_insertFailed (token : String)
    {error : GoogleError} (harmless : error.revoked = false)
    (faulty : ¬Faultless contract.admits) (reached : setting.Advances before world) :
    Ensures contract.spec (fun result later => setting.Advances before later ∧
        setting.Inserted contract.admits contest result later)
      (syncer.insertFailed setting.userID token error) world := by
  apply ensures_ite
  · intro _conflict
    exact ⟨reached, harmless, fun faultless => absurd faultless faulty⟩
  · intro _other
    rw [syncer.handleSyncError_harmless setting.userID token harmless]
    exact ⟨reached, harmless, faulty⟩

theorem ensures_insertAttempt (token : String) (upcoming : setting.Upcoming contest)
    (untracked : setting.initial.tracked contest.id = none) :
    Ensures contract.spec (fun result later => setting.Advances world later ∧
        setting.Inserted contract.admits contest result later)
      (syncer.insertAttempt setting.userID token setting.calendarID
        (contestEvent setting.user.googleID setting.timezone contest)) world := by
  have wanted := upcoming_wanted upcoming untracked
  obtain ⟨advances, answers⟩ := insertEvent_wanted world setting.userID setting.calendarID token
    wanted rfl EventStatus.noConfusion
  apply ensures_fragile hosts rfl advances
  · intro answer answered later further
    rcases answers with ⟨created, up⟩ | ⟨conflict, present⟩
    · cases answered.trans created
      exact ⟨advances.trans further, rfl, further.lasts.up _ _ wanted up⟩
    · cases answered.trans conflict
      refine ⟨advances.trans further, GoogleError.conflict_not_revoked, ?_⟩
      intro _faultless
      exact further.present _ _ wanted present
  · intro error harmless faulty later further
    exact ensures_insertFailed token harmless faulty further

def Updated (setting : Setting) (admits : environment.Admits) (contest : ContestRow)
    (result : Except GoogleError Unit) (later : World) : Prop :=
  match result with
  | .ok () => (setting.view later).shown (setting.plan.name contest.id) =
        some (contestEvent setting.user.googleID setting.timezone contest)
  | .error _ => ¬Faultless admits

theorem ensures_updateAttempt (token : String) (upcoming : setting.Upcoming contest)
    (untracked : setting.initial.tracked contest.id = none) (present : Faultless contract.admits →
      (world.accounts setting.userID).events setting.calendarID
        (setting.plan.name contest.id) ≠ none) :
    Ensures contract.spec (fun result later => setting.Advances world later ∧
        setting.Updated contract.admits contest result later)
      (Syncer.updateAttempt setting.userID token setting.calendarID
        (contestEvent setting.user.googleID setting.timezone contest)) world := by
  have wanted := upcoming_wanted upcoming untracked
  obtain ⟨advances, succeeds, up⟩ := updateEvent_wanted world setting.userID setting.calendarID
    token wanted EventStatus.noConfusion
  apply ensures_fragile hosts rfl advances
  · intro answer answered later further
    cases answer with
    | none => exact ⟨advances.trans further, further.lasts.up _ _ wanted (up answered.symm)⟩
    | some error =>
      refine ⟨advances.trans further, ?_⟩
      intro faultless
      cases answered.trans (succeeds (present faultless))
  · intro error _harmless faulty later further
    exact ⟨further, faulty⟩

/-- The end of an iteration: the loop goes on, and unless something failed the
contest has its row and the loop knows that something was synced. -/
def Recorded (setting : Setting) (admits : environment.Admits) (contest : ContestRow)
    (result : Except Unit Bool) (later : World) : Prop :=
  result.isOk ∧ (Faultless admits → result = .ok true ∧
      (setting.view later).tracked contest.id = some (setting.plan.name contest.id))

theorem ensures_recordSynced (anySynced : Bool)
    (started : setting.Reached before) (reached : setting.Advances before world)
    (upcoming : setting.Upcoming contest) (untracked : setting.initial.tracked contest.id = none)
    (up : (setting.view world).shown (setting.plan.name contest.id) =
        some (contestEvent setting.user.googleID setting.timezone contest)) :
    Ensures contract.spec (fun result later => setting.Advances before later ∧
        setting.Recorded contract.admits contest result later)
      (Syncer.recordSynced setting.userID anySynced contest.id
        (setting.plan.name contest.id)) world := by
  have wanted := upcoming_wanted upcoming untracked
  have fromStart := started.onward reached
  have references := references_of_reached fromStart upcoming (setting.plan.name contest.id)
  obtain ⟨advances, recorded⟩ := insertSynced_wanted wanted (between_of_reached fromStart) up
    references
  apply ensures_fragile hosts rfl advances
  · intro answer answered later further
    rw [answer_insertSynced references] at answered
    subst answered
    exact ⟨reached.trans (advances.trans further), rfl,
      fun _ => ⟨rfl, further.lasts.recorded _ _ wanted recorded⟩⟩
  · intro error _harmless faulty later further
    exact ⟨reached.trans further, rfl, fun faultless => absurd faultless faulty⟩

/-- Another attempt starts from wherever the failed one left the plan. -/
theorem ensures_insertEvent (token : String) (upcoming : setting.Upcoming contest)
    (untracked : setting.initial.tracked contest.id = none) :
    Ensures contract.spec (fun result later => setting.Advances world later ∧
        setting.Inserted contract.admits contest result later)
      (Program.retry (syncer.insertAttempt setting.userID token setting.calendarID
        (contestEvent setting.user.googleID setting.timezone contest)) 2) world := by
  refine ensures_retry (fun later : World => setting.Advances world later) ?_ 2 (.refl world)
  intro state onward
  refine Ensures.mono ?_ (ensures_insertAttempt hosts token upcoming untracked)
  rintro result later ⟨further, ended⟩
  cases result with
  | ok exit => exact ⟨onward.trans further, ended⟩
  | error error => exact ⟨onward.trans further, onward.trans further, ended⟩

theorem ensures_updateEvent (token : String)
    (reached : setting.Advances before world) (upcoming : setting.Upcoming contest)
    (untracked : setting.initial.tracked contest.id = none) (present : Faultless contract.admits →
      (world.accounts setting.userID).events setting.calendarID
        (setting.plan.name contest.id) ≠ none) :
    Ensures contract.spec (fun result later => setting.Advances before later ∧
        setting.Updated contract.admits contest result later)
      (Program.retry (Syncer.updateAttempt setting.userID token setting.calendarID
        (contestEvent setting.user.googleID setting.timezone contest)) 2) world := by
  refine ensures_retry (fun later : World => setting.Advances before later ∧
    (Faultless contract.admits → (later.accounts setting.userID).events setting.calendarID
      (setting.plan.name contest.id) ≠ none)) ?_ 2 ⟨reached, present⟩
  rintro state ⟨onward, stillPresent⟩
  refine Ensures.mono ?_ (ensures_updateAttempt hosts token upcoming untracked stillPresent)
  rintro result later ⟨further, ended⟩
  cases result with
  | ok _ => exact ⟨onward.trans further, ended⟩
  | error failure =>
    refine ⟨⟨onward.trans further, ?_⟩, onward.trans further, ended⟩
    intro faultless
    exact absurd faultless ended

theorem ensures_syncContest (token : String) (anySynced : Bool) (started : setting.Reached world)
    (upcoming : setting.Upcoming contest) (untracked : setting.initial.tracked contest.id = none) :
    Ensures contract.spec (fun result later => setting.Advances world later ∧
        setting.Recorded contract.admits contest result later)
      (syncer.syncContest setting.userID token setting.calendarID setting.timezone
        setting.user.googleID anySynced contest) world := by
  refine (ensures_insertEvent hosts token upcoming untracked).then ?_
  rintro result later ⟨onward, ended⟩
  cases result with
  | error error =>
    obtain ⟨harmless, faulty⟩ := ended
    change Ensures _ _ (syncer.giveUp setting.userID token anySynced error) later
    rw [syncer.giveUp_harmless setting.userID token anySynced harmless]
    exact ⟨onward, rfl, fun faultless => absurd faultless faulty⟩
  | ok exit =>
    cases exit with
    | deleted => exact ended.elim
    | created event =>
      obtain ⟨rfl, up⟩ := ended
      exact ensures_recordSynced hosts anySynced started onward upcoming untracked up
    | conflict error =>
      obtain ⟨harmless, present⟩ := ended
      refine (ensures_updateEvent hosts token onward upcoming untracked present).then ?_
      rintro result last ⟨further, updated⟩
      cases result with
      | ok _ =>
        exact ensures_recordSynced hosts anySynced started further upcoming untracked updated
      | error failure =>
        change Ensures _ _ (syncer.giveUp setting.userID token anySynced error) last
        rw [syncer.giveUp_harmless setting.userID token anySynced harmless]
        exact ⟨further, rfl, fun faultless => absurd faultless updated⟩

omit hosts in
theorem not_stale_of_upcoming (upcoming : setting.Upcoming contest) :
    contest.id ∉ setting.plan.stale := by
  rintro ⟨_, other, member, sameID, unselected⟩
  have same := Keyed.Table.row_eq_of_key member upcoming.1 sameID
  subst same
  exact unselected upcoming.2.1

theorem ensures_syncContests (token : String) {synced : List String}
    {contests : List ContestRow} (started : setting.Reached world)
    (listed : ∀ contest, contest ∈ contests ↔ setting.Upcoming contest)
    (known : ∀ contestID eventID, setting.initial.tracked contestID = some eventID →
      contestID ∉ setting.plan.stale → contestID ∈ synced)
    (skipped : ∀ contestID ∈ synced, ∀ event, setting.plan.wanted contestID = some event →
      (setting.view world).tracked contestID = some (setting.plan.name contestID)) :
    Ensures contract.spec (fun result later => setting.Advances world later ∧ result.isOk ∧
        (Faultless contract.admits →
          (∀ contestID event, setting.plan.wanted contestID = some event →
            (setting.view later).tracked contestID = some (setting.plan.name contestID)) ∧
          (result = .ok false → ∀ contest, setting.Upcoming contest → contest.id ∈ synced)))
      (syncer.syncContests setting.userID token setting.calendarID setting.timezone
        setting.user.googleID synced contests) world := by
  -- The contests that are not in the remaining list have been dealt with.
  refine ensures_traverse (fun (anySynced : Bool) (rest : List ContestRow) (state : World) =>
    setting.Advances world state ∧ (∀ contest ∈ rest, setting.Upcoming contest) ∧
    (Faultless contract.admits → ∀ contest, setting.Upcoming contest → contest ∉ rest →
      (∀ event, setting.plan.wanted contest.id = some event →
        (setting.view state).tracked contest.id = some (setting.plan.name contest.id)) ∧
      (anySynced = false → contest.id ∈ synced))) ?_ ?_ contests ⟨.refl world, ?_, ?_⟩
  · rintro anySynced contest rest state ⟨onward, upcoming, handled⟩
    have later : ∀ other, setting.Upcoming other → other ∉ rest → other ≠ contest →
        other ∉ contest :: rest := by
      intro other _ absent different member
      rcases List.mem_cons.mp member with same | inRest
      · exact different same
      · exact absent inRest
    apply ensures_ite
    · intro inSynced
      refine ⟨onward, fun other member => upcoming other (List.mem_cons_of_mem _ member), ?_⟩
      intro faultless other isUpcoming absent
      by_cases same : other = contest
      · subst same
        exact ⟨fun event wanted => onward.lasts.recorded _ event wanted
          (skipped _ inSynced event wanted), fun _ => inSynced⟩
      · exact handled faultless other isUpcoming (later other isUpcoming absent same)
    · intro notSynced
      have isUpcoming := upcoming contest List.mem_cons_self
      have untracked : setting.initial.tracked contest.id = none := by
        cases tracked : setting.initial.tracked contest.id with
        | none => rfl
        | some eventID =>
          exact absurd (known _ eventID tracked (not_stale_of_upcoming isUpcoming)) notSynced
      refine Ensures.mono ?_ (ensures_syncContest hosts token anySynced
        (started.onward onward) isUpcoming untracked)
      rintro result last ⟨further, isOk, done⟩
      cases result with
      | error left => cases isOk
      | ok next =>
        refine ⟨onward.trans further,
          fun other member => upcoming other (List.mem_cons_of_mem _ member), ?_⟩
        intro faultless other otherUpcoming absent
        obtain ⟨marked, recorded⟩ := done faultless
        cases marked
        refine ⟨?_, nofun⟩
        intro event wanted
        by_cases same : other = contest
        · subst same
          exact recorded
        · exact further.lasts.recorded _ event wanted
            ((handled faultless other otherUpcoming (later other otherUpcoming absent same)).1
              event wanted)
  · rintro anySynced state ⟨onward, _, handled⟩
    refine ⟨onward, rfl, fun faultless => ⟨?_, ?_⟩⟩
    · intro contestID event wanted
      obtain ⟨_, contest, upcoming, rfl, _⟩ := setting.wanted_eq_some.mp wanted
      exact (handled faultless contest upcoming List.not_mem_nil).1 event wanted
    · rintro ⟨⟩ contest upcoming
      exact (handled faultless contest upcoming List.not_mem_nil).2 rfl
  · exact fun contest member => (listed contest).mp member
  · intro _ contest upcoming absent
    exact absurd ((listed contest).mpr upcoming) absent

/-! ### The run -/

theorem ensures_syncCalendar (uncached : syncer.valkey = false)
    (token : String) (started : setting.Reached world) :
    Ensures contract.spec (fun result later => setting.Advances world later ∧ result = .ok () ∧
        (Faultless contract.admits → setting.plan.Complete (setting.view later)))
      (syncer.syncCalendar setting.userID token setting.calendarID setting.timezone
        setting.user) world := by
  refine (ensures_cleanup hosts token started).then ?_
  rintro _ cleaned ⟨cleaning, forgotten⟩
  refine (ensures_loadSynced hosts uncached (started.onward cleaning)).then ?_
  rintro synced loaded ⟨loading, known, skipped⟩
  have onward := cleaning.trans loading
  have stillForgotten : ∀ contestID ∈ setting.plan.stale,
      (setting.view loaded).tracked contestID = none :=
    fun contestID stale => loading.lasts.forgotten contestID stale (forgotten contestID stale)
  apply ensures_ite
  · intro nothing
    refine ⟨onward, rfl, fun _ => ⟨stillForgotten, ?_⟩⟩
    intro contestID event wanted
    obtain ⟨_, contest, upcoming, _⟩ := setting.wanted_eq_some.mp wanted
    have selected : contest.platform ∈ ([] : List String) := nothing ▸ upcoming.2.1
    exact absurd selected List.not_mem_nil
  · intro _something
    refine (ensures_loadContests hosts uncached (started.onward onward)).then ?_
    rintro _ chosen ⟨choosing, contests, rfl, listed⟩
    refine (ensures_syncContests hosts token (started.onward (onward.trans choosing)) listed known
      (fun contestID member event wanted =>
        choosing.lasts.recorded contestID event wanted
          (skipped contestID member event wanted))).then ?_
    rintro result last ⟨inserting, isOk, recorded⟩
    cases result with
    | error left => cases isOk
    | ok anySynced =>
      apply ensures_ite
      · intro cached
        rw [uncached, Bool.and_false] at cached
        cases cached
      · intro _
        refine ⟨onward.trans (choosing.trans inserting), rfl, fun faultless => ⟨?_, ?_⟩⟩
        · intro contestID stale
          exact (choosing.trans inserting).lasts.forgotten contestID stale
            (stillForgotten contestID stale)
        · exact (recorded faultless).1

omit hosts in
theorem targetCalendar_determined (syncer : Syncer) (userID : Int) (token timezone : String)
    {user : CachedUser} {calendarID : String}
    (determined : determinedCalendar user = some calendarID) :
    syncer.targetCalendar userID token timezone user = .done (some calendarID) := by
  unfold determinedCalendar at determined
  unfold Syncer.targetCalendar
  split at determined
  · rename_i dedicated
    split at determined
    · rename_i created
      rw [if_pos dedicated, if_pos created]
      cases determined
      rfl
    · cases determined
  · rename_i primary
    rw [if_neg primary]
    cases determined
    rfl

theorem ensures_syncProfile (uncached : syncer.valkey = false)
    (decrypts : syncer.decryptToken setting.user.refreshToken = some token)
    (started : setting.Reached world) :
    Ensures contract.spec (fun result later => setting.Advances world later ∧ result = .ok () ∧
        (Faultless contract.admits → setting.plan.Complete (setting.view later)))
      (syncer.syncProfile setting.userID setting.user) world := by
  unfold Syncer.syncProfile
  rw [decrypts]
  apply ensures_served hosts rfl rfl (.refl world)
  rintro _ rfl later further
  have sameZone : Syncer.effectiveTimezone (world.accounts setting.userID).timezone =
      setting.timezone := by
    rw [started.unchanged.timezone]
    rfl
  change Ensures _ _ (syncer.syncTarget setting.userID token
    (Syncer.effectiveTimezone (world.accounts setting.userID).timezone) setting.user) _
  unfold Syncer.syncTarget
  rw [targetCalendar_determined syncer _ _ _ setting.determined, sameZone]
  refine Ensures.mono ?_ (ensures_syncCalendar hosts uncached token (started.onward further))
  rintro result last ⟨onward, outcome⟩
  exact ⟨further.trans onward, outcome⟩

theorem ensures_syncLocked (uncached : syncer.valkey = false)
    (decrypts : syncer.decryptToken setting.user.refreshToken = some token)
    (started : setting.Reached world) :
    Ensures contract.spec (fun result later => result = .ok () ∧
        (Faultless contract.admits → setting.plan.Complete (setting.view later)))
      (syncer.syncLocked setting.userID) world := by
  refine (ensures_loadProfile hosts uncached setting.stored started).then ?_
  rintro _ loaded ⟨loading, rfl⟩
  rw [setting.profile]
  apply ensures_syncLoaded hosts uncached
  intro ready further
  refine Ensures.mono ?_ (ensures_syncProfile hosts uncached decrypts
    (started.onward (loading.trans further)))
  rintro result later ⟨_, finished⟩
  exact finished

omit hosts in
theorem stably_run
    (hosts : Hosts setting.userID setting.calendarID setting.plan syncer.process contract)
    (uncached : syncer.valkey = false)
    (decrypts : syncer.decryptToken setting.user.refreshToken = some token)
    (started : setting.Reached world) (free : (syncer.process, setting.userID) ∉ world.syncing) :
    Stably contract
      (Finished setting.userID setting.calendarID setting.plan contract.admits syncer.process
        (fun result => result = .ok ()))
      (syncer.syncUser setting.userID) world := by
  apply stably_syncUser hosts uncached free
  intro ready further
  exact ensures_syncLocked hosts uncached decrypts (started.onward further)

end Run

end Setting

end ContestSync
