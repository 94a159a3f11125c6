/-
Convergence of one run of `SyncUser` without a cache: the rows it ends with,
from any database, any calendar and any list of platforms.
-/

import ContestSync.SyncRun

namespace ContestSync

open Reconciliation Resumable

section Whole

variable {userID : Int} {calendarID : String} {start world : World}
  {plan : Plan (start.snapshot userID calendarID)} {admits : environment.Admits}

/-- A run by itself, complete or cut off. The plan is the one for the world in
which the first of any number of runs started. -/
theorem reaches_of_steps {process : Nat} {answers : Except SyncError Unit → Prop}
    {program : Program service (Except SyncError Unit)}
    (stably : Stably (runContract userID calendarID plan admits process)
      (Finished userID calendarID plan admits process answers) program world)
    (started : Reaches userID calendarID plan start world)
    {last : World} {residue : Program service (Except SyncError Unit)}
    (run : Steps environment admits World.Tick world program last residue) :
    Reaches userID calendarID plan start last ∧
      ∀ result, residue = .done result → answers result ∧ (process, userID) ∉ last.syncing ∧
        (Faultless admits → plan.Settled (last.snapshot userID calendarID)) := by
  obtain ⟨path, left⟩ := stably.steps runContract_steady run
  have reaches : Reaches userID calendarID plan start last := by
    refine started.onward (.of_path (Relation.ReflTransGen.mono ?_ _ _ path))
    rintro before after (kept | tick)
    · exact kept.1
    · exact .of_tick tick
  refine ⟨reaches, ?_⟩
  rintro result rfl
  obtain ⟨answered, released, complete⟩ := left.now runContract_steady
  exact ⟨answered, released, fun faultless =>
    (plan.between_start.moves reaches.moves).settled (complete faultless)⟩

end Whole

namespace Setting

variable {setting : Setting}

theorem tracked_of_settled {last : World} (settled : setting.plan.Settled (setting.view last))
    (contestID eventID : String) :
    (setting.view last).tracked contestID = some eventID ↔
      (setting.initial.tracked contestID = some eventID ∧
          ∃ contest ∈ setting.start.database.contests.rows,
            contest.id = contestID ∧ contest.platform ∈ setting.selected) ∨
        eventID = generateDeterministicEventID setting.user.googleID contestID ∧
          ∃ contest ∈ setting.start.database.contests.rows,
            contest.id = contestID ∧ contest.platform ∈ setting.selected ∧
              setting.start.now < contest.startTime := by
  by_cases stale : contestID ∈ setting.plan.stale
  · rw [settled.complete.forgotten contestID stale]
    constructor
    · intro impossible
      cases impossible
    · obtain ⟨_, contest, known, atID, unselected⟩ := stale
      have notSelected : ∀ other ∈ setting.start.database.contests.rows,
          other.id = contestID → other.platform ∉ setting.selected := by
        intro other member sameID
        rw [Keyed.Table.row_eq_of_key member known (sameID.trans atID.symm)]
        exact unselected
      rintro (⟨_, other, member, sameID, selected⟩ | ⟨_, other, member, sameID, selected, _⟩)
      · exact absurd selected (notSelected other member sameID)
      · exact absurd selected (notSelected other member sameID)
  · cases wanted : setting.plan.wanted contestID with
    | some event =>
      obtain ⟨untracked, contest, upcoming, atID, _⟩ := setting.wanted_eq_some.mp wanted
      rw [settled.complete.recorded contestID event wanted, untracked]
      constructor
      · intro same
        exact Or.inr ⟨(Option.some.inj same).symm, contest, upcoming.1, atID, upcoming.2⟩
      · rintro (⟨impossible, _⟩ | ⟨rfl, _⟩)
        · cases impossible
        · rfl
    | none =>
      rw [settled.tracked_other contestID (setting.plan.not_concerns stale wanted)]
      constructor
      · intro tracked
        obtain ⟨⟨contest, known, atID⟩, _⟩ := setting.tracked_contest tracked
        refine Or.inl ⟨tracked, contest, known, atID, ?_⟩
        by_contra unselected
        refine stale ⟨?_, contest, known, atID, unselected⟩
        rw [tracked]
        exact Option.some_ne_none eventID
      · rintro (⟨tracked, _⟩ | ⟨rfl, contest, member, rfl, upcoming⟩)
        · exact tracked
        · cases tracked : setting.initial.tracked contest.id with
          | none =>
            rw [upcoming_wanted ⟨member, upcoming⟩ tracked] at wanted
            cases wanted
          | some held => rw [(setting.tracked_contest tracked).2]

theorem added_of_settled {last : World} (settled : setting.plan.Settled (setting.view last))
    {contestID eventID : String}
    (after : (setting.view last).tracked contestID = some eventID)
    (before : setting.initial.tracked contestID ≠ some eventID) :
    eventID = generateDeterministicEventID setting.user.googleID contestID ∧
      ∃ event, (last.accounts setting.userID).events setting.calendarID eventID = some event ∧
        event.id = eventID ∧ event.status = .confirmed := by
  rcases (tracked_of_settled settled contestID eventID).mp after with
    ⟨tracked, _⟩ | ⟨rfl, contest, member, rfl, upcoming⟩
  · exact absurd tracked before
  · refine ⟨rfl, contestEvent setting.user.googleID setting.timezone contest, ?_, rfl, rfl⟩
    cases tracked : setting.initial.tracked contest.id with
    | none =>
      have up := settled.up contest.id _ (upcoming_wanted ⟨member, upcoming⟩ tracked)
      exact (Account.shown_eq_some.mp up).1
    | some held =>
      rw [tracked, (setting.tracked_contest tracked).2] at before
      exact absurd rfl before

end Setting

/-! ### One run from any state -/

/-- The rows a run without a cache ends with, exactly, and what it leaves in the
calendar for those it added. -/
theorem syncUser_rows_exact (syncer : Syncer) (userID : Int) (start : World) (row : UserRow)
    (user : CachedUser) (token calendarID : String)
    (uncached : syncer.valkey = false)
    (free : (syncer.process, userID) ∉ start.syncing)
    (stored : start.database.users.find userID = some row)
    (profile : scanSyncProfile row = some user)
    (decrypts : syncer.decryptToken user.refreshToken = some token)
    (determined : determinedCalendar user = some calendarID)
    (faithful : start.Faithful userID user.googleID)
    (apart : start.EventIDsApart user.googleID) :
    (∃ last, Steps environment served World.Tick start (syncer.syncUser userID) last
        (.done (.ok ()))) ∧
      ∀ last result, Steps environment served World.Tick start (syncer.syncUser userID) last
          (.done result) →
        result = .ok () ∧
        (∀ contestID eventID, ⟨userID, contestID, eventID⟩ ∈ last.database.syncedEvents.rows ↔
            (⟨userID, contestID, eventID⟩ ∈ start.database.syncedEvents.rows ∧
              ∃ contest ∈ start.database.contests.rows,
                contest.id = contestID ∧ contest.platform ∈ user.platforms.getD []) ∨
            (eventID = generateDeterministicEventID user.googleID contestID ∧
              ∃ contest ∈ start.database.contests.rows,
                contest.id = contestID ∧ contest.platform ∈ user.platforms.getD [] ∧
                  start.now < contest.startTime)) ∧
        (∀ contestID eventID, ⟨userID, contestID, eventID⟩ ∈ last.database.syncedEvents.rows →
          ⟨userID, contestID, eventID⟩ ∉ start.database.syncedEvents.rows →
          eventID = generateDeterministicEventID user.googleID contestID ∧
            ∃ event, (last.accounts userID).events calendarID eventID = some event ∧
              event.id = eventID ∧ event.status = .confirmed) ∧
        ∀ other : SyncedEvent, other.userID ≠ userID → (other ∈ last.database.syncedEvents.rows ↔
            other ∈ start.database.syncedEvents.rows) := by
  let setting : Setting :=
    { userID, start, row, user, calendarID, stored, profile, determined, faithful, apart }
  have ends : ∀ last result,
      Steps environment served World.Tick start (syncer.syncUser userID) last (.done result) →
      setting.Reached last ∧ result = .ok () ∧
        setting.plan.Settled (last.snapshot userID calendarID) := by
    intro last result run
    have stably := setting.stably_run (runContract_hosts served_tolerable) uncached decrypts
      (.refl start) free
    obtain ⟨reached, finished⟩ := reaches_of_steps stably (.refl start) run
    obtain ⟨isOk, _, settled⟩ := finished result rfl
    exact ⟨reached, isOk, settled served_faultless⟩
  constructor
  · have run := complete_served (syncer.syncUser userID) start
    obtain ⟨_, isOk, _⟩ := ends _ _ run
    rw [isOk] at run
    exact ⟨_, run⟩
  · intro last result run
    obtain ⟨reached, isOk, settled⟩ := ends last result run
    refine ⟨isOk, ?_, ?_, reached.unchanged.others⟩
    · intro contestID eventID
      have rows := Setting.tracked_of_settled settled contestID eventID
      rw [World.tracked_eq_some] at rows
      exact rows.trans (or_congr_left (and_congr_left' World.tracked_eq_some))
    · intro contestID eventID after before
      exact Setting.added_of_settled settled (World.tracked_eq_some.mpr after)
        (fun tracked => before (World.tracked_eq_some.mp tracked))

/-! ### The sample world -/

theorem sampleWorld_faithful : sampleWorld.Faithful 1 "1080" := by
  intro row member _ofUser
  cases List.mem_singleton.mp member
  rfl

theorem sampleWorld_apart : sampleWorld.EventIDsApart "1080" := by
  have different : generateDeterministicEventID "1080" "codeforces_2000" ≠
      generateDeterministicEventID "1080" "leetcode_3000" := by
    decide +kernel
  rintro first ⟨contest, member, rfl⟩ second ⟨other, otherMember, rfl⟩ same
  change contest ∈ [sampleCodeforces, sampleLeetcode] at member
  change other ∈ [sampleCodeforces, sampleLeetcode] at otherMember
  rcases List.mem_pair.mp member with rfl | rfl
  · rcases List.mem_pair.mp otherMember with rfl | rfl
    · rfl
    · exact absurd same different
  · rcases List.mem_pair.mp otherMember with rfl | rfl
    · exact absurd same.symm different
    · rfl

theorem syncUser_rows_sample :
    ∃ last, Steps environment served World.Tick sampleWorld (sampleSyncer.syncUser 1) last
        (.done (.ok ())) ∧
      ⟨1, "codeforces_2000", generateDeterministicEventID "1080" "codeforces_2000"⟩ ∈
        last.database.syncedEvents.rows ∧
      ∀ eventID, ⟨1, "leetcode_3000", eventID⟩ ∉ last.database.syncedEvents.rows := by
  obtain ⟨⟨last, run⟩, ends⟩ := syncUser_rows_exact sampleSyncer 1 sampleWorld sampleRow
    sampleUser "token" "primary" rfl (by decide) (by decide) (by decide) rfl (by decide)
    sampleWorld_faithful sampleWorld_apart
  obtain ⟨_, rows, _⟩ := ends last _ run
  refine ⟨last, run, ?_, ?_⟩
  · exact (rows _ _).mpr (Or.inr ⟨rfl, sampleCodeforces, by decide, by decide, by decide,
      by decide⟩)
  · intro eventID member
    have selected : ∀ contest ∈ sampleWorld.database.contests.rows,
        contest.id = "leetcode_3000" → contest.platform ∉ ["codeforces"] := by
      decide
    rcases (rows _ _).mp member with ⟨_, contest, known, atID, chosen⟩ | ⟨_, contest, known,
      atID, chosen, _⟩
    · exact selected contest known atID chosen
    · exact selected contest known atID chosen

end ContestSync
