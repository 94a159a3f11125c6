/-
A user's operations with Valkey and without it, side by side. As long as the cached
list of synced contests names no contest that a run would have to put up, the rows
and the calendars of the user are the same on both sides; the first run for which
it does name one leaves them different.
-/

import ContestSync.ServedRun
import ContestSync.FaithfulRows

namespace ContestSync

open Reconciliation Resumable Program

/-! ### Worlds that look alike for a user -/

structure SameResults (userID : Int) (left right : World) : Prop where
  rows : ∀ row : SyncedEvent, row.userID = userID →
    (row ∈ right.database.syncedEvents.rows ↔ row ∈ left.database.syncedEvents.rows)
  shown : (right.accounts userID).shown = (left.accounts userID).shown

/-- Everything an operation of the user depends on is the same; what a new
calendar would be called matters only while there is one to create. -/
structure Matched (userID : Int) (left right : World) : Prop
    extends SameResults userID left right where
  contests : right.database.contests = left.database.contests
  future : ∀ contest ∈ left.database.contests.rows,
    (right.now < contest.startTime ↔ left.now < contest.startTime)
  profile : right.profile userID = left.profile userID
  timezone : (right.accounts userID).timezone = (left.accounts userID).timezone
  creation : ∀ user, left.profile userID = some user → determinedCalendar user = none →
    (right.accounts userID).calendars = (left.accounts userID).calendars ∧
      (right.accounts userID).supply = (left.accounts userID).supply

section Matching

variable {userID : Int} {left right leftAfter rightAfter : World}

theorem Matched.refl (world : World) : Matched userID world world :=
  { rows := fun _ _ => Iff.rfl
    shown := rfl
    contests := rfl
    future := fun _ _ => Iff.rfl
    profile := rfl
    timezone := rfl
    creation := fun _ _ _ => ⟨rfl, rfl⟩ }

theorem Matched.rowsKept {leftValkey rightValkey : Bool} (matched : Matched userID left right)
    (keptLeft : RowsKept leftValkey userID left leftAfter)
    (keptRight : RowsKept rightValkey userID right rightAfter)
    (accountsLeft : leftAfter.accounts = left.accounts)
    (accountsRight : rightAfter.accounts = right.accounts)
    (profile : rightAfter.profile userID = leftAfter.profile userID)
    (undetermined : ∀ user, leftAfter.profile userID = some user → determinedCalendar user = none →
      ∃ old, left.profile userID = some old ∧ determinedCalendar old = none) :
    Matched userID leftAfter rightAfter := by
  refine ⟨⟨?_, ?_⟩, ?_, ?_, profile, ?_, ?_⟩
  · rw [keptLeft.syncedEvents, keptRight.syncedEvents]
    exact matched.rows
  · rw [accountsLeft, accountsRight]
    exact matched.shown
  · rw [keptLeft.contests, keptRight.contests]
    exact matched.contests
  · rw [keptLeft.contests, keptLeft.now, keptRight.now]
    exact matched.future
  · rw [accountsLeft, accountsRight]
    exact matched.timezone
  · rw [accountsLeft, accountsRight]
    intro user stored undecided
    obtain ⟨old, oldStored, oldUndecided⟩ := undetermined user stored undecided
    exact matched.creation old oldStored oldUndecided

/-! ### Runs -/

variable {account next : Account} {calendarID : String} {user : CachedUser}
  {leftGoal rightGoal : Target}

theorem supplied_of_insertCalendar (created : account.insertCalendar = (next, .ok calendarID)) :
    calendarID = account.supply account.calendars.length := by
  unfold Account.insertCalendar at created
  simp only at created
  split at created
  · cases created
  · cases created
    rfl

theorem shown_of_created (created : account.insertCalendar = (next, .ok calendarID)) :
    next.shown = Function.update account.shown calendarID (fun _ => none) := by
  obtain ⟨_, _, rfl⟩ := created_of_insertCalendar created
  funext other eventID
  unfold Account.shown
  by_cases same : other = calendarID
  · subst same
    simp only [Function.update_self]
    rfl
  · simp only [Function.update_of_ne same]

theorem Matched.target (matched : Matched userID left right)
    (profile : left.profile userID = some user)
    (targetLeft : target user (left.accounts userID) = some leftGoal)
    (targetRight : target user (right.accounts userID) = some rightGoal) :
    rightGoal.calendarID = leftGoal.calendarID ∧ rightGoal.user = leftGoal.user ∧
      rightGoal.account.shown = leftGoal.account.shown := by
  rcases target_cases targetLeft with ⟨determined, userLeft, accountLeft⟩ |
    ⟨undetermined, createdLeft, userLeft⟩
  · rcases target_cases targetRight with ⟨again, userRight, accountRight⟩ | ⟨undetermined, _, _⟩
    · refine ⟨Option.some.inj (again.symm.trans determined), userRight.trans userLeft.symm, ?_⟩
      rw [accountLeft, accountRight]
      exact matched.shown
    · rw [determined] at undetermined
      cases undetermined
  · rcases target_cases targetRight with ⟨determined, _, _⟩ | ⟨_, createdRight, userRight⟩
    · rw [undetermined] at determined
      cases determined
    · obtain ⟨calendars, supply⟩ := matched.creation user profile undetermined
      have sameID : rightGoal.calendarID = leftGoal.calendarID := by
        rw [supplied_of_insertCalendar createdRight, supplied_of_insertCalendar createdLeft,
          calendars, supply]
      refine ⟨sameID, ?_, ?_⟩
      · rw [userLeft, userRight, sameID]
      · rw [shown_of_created createdLeft, shown_of_created createdRight, sameID, matched.shown]

theorem Setting.settled_alike {first second : Setting} {firstAfter secondAfter : World}
    (firstUser : first.userID = userID) (secondUser : second.userID = userID)
    (firstCalendar : first.calendarID = calendarID)
    (secondCalendar : second.calendarID = calendarID)
    (user : second.user = first.user) (timezone : second.timezone = first.timezone)
    (initial : second.initial = first.initial)
    (contests : second.start.database.contests = first.start.database.contests)
    (future : ∀ contest ∈ first.start.database.contests.rows,
      (second.start.now < contest.startTime ↔ first.start.now < contest.startTime))
    (firstSettled : first.plan.Settled (firstAfter.snapshot first.userID first.calendarID))
    (secondSettled : second.plan.Settled (secondAfter.snapshot second.userID second.calendarID)) :
    secondAfter.snapshot userID calendarID = firstAfter.snapshot userID calendarID := by
  have selected : second.selected = first.selected := by
    unfold Setting.selected
    rw [user]
  have stale : second.plan.stale = first.plan.stale := by
    unfold Setting.plan
    simp only
    rw [initial, contests, selected]
  have upcoming : ∀ contest, second.Upcoming contest ↔ first.Upcoming contest := by
    intro contest
    unfold Setting.Upcoming
    rw [contests, selected]
    exact and_congr_right (fun member => and_congr_right (fun _ => future contest member))
  have wanted : second.plan.wanted = first.plan.wanted := by
    funext contestID
    apply Option.ext
    intro event
    refine second.wanted_eq_some.trans (Iff.trans ?_ first.wanted_eq_some.symm)
    rw [initial, user, timezone]
    exact and_congr_right (fun _ => exists_congr (fun contest =>
      and_congr_left (fun _ => upcoming contest)))
  have name : second.plan.name = first.plan.name := by
    unfold Setting.plan
    simp only
    rw [user]
  have moved := secondSettled.transfer initial stale wanted name
  rw [secondUser, secondCalendar] at moved
  rw [firstUser, firstCalendar] at firstSettled
  exact moved.unique firstSettled

theorem Carried.matched {leftSetting rightSetting : Setting} (matched : Matched userID left right)
    (profile : left.profile userID = some user)
    (targetLeft : target user (left.accounts userID) = some leftGoal)
    (targetRight : target user (right.accounts userID) = some rightGoal)
    (carriedLeft : Carried userID left leftGoal leftSetting leftAfter)
    (carriedRight : Carried userID right rightGoal rightSetting rightAfter) :
    Matched userID leftAfter rightAfter := by
  obtain ⟨sameCalendar, sameUser, sameShown⟩ := matched.target profile targetLeft targetRight
  have contests : rightSetting.start.database.contests = leftSetting.start.database.contests := by
    rw [carriedLeft.contests, carriedRight.contests]
    exact matched.contests
  have future : ∀ contest ∈ leftSetting.start.database.contests.rows,
      (rightSetting.start.now < contest.startTime ↔ leftSetting.start.now < contest.startTime) := by
    rw [carriedLeft.contests, carriedLeft.now, carriedRight.now]
    exact matched.future
  have zone : (rightSetting.start.accounts userID).timezone =
      (leftSetting.start.accounts userID).timezone := by
    rw [carriedLeft.account, carriedRight.account, timezone_of_target targetLeft,
      timezone_of_target targetRight]
    exact matched.timezone
  have timezone : rightSetting.timezone = leftSetting.timezone := by
    unfold Setting.timezone
    rw [carriedLeft.ofUser, carriedRight.ofUser, zone]
  have initial : rightSetting.initial = leftSetting.initial := by
    apply Snapshot.ext
    · funext contestID
      apply Option.ext
      intro eventID
      refine World.tracked_eq_some.trans (Iff.trans ?_ World.tracked_eq_some.symm)
      rw [carriedLeft.ofUser, carriedRight.ofUser, carriedLeft.syncedEvents,
        carriedRight.syncedEvents]
      exact matched.rows _ rfl
    · change (rightSetting.start.accounts rightSetting.userID).shown rightSetting.calendarID =
        (leftSetting.start.accounts leftSetting.userID).shown leftSetting.calendarID
      rw [carriedLeft.ofUser, carriedRight.ofUser, carriedLeft.account, carriedRight.account,
        carriedLeft.calendarID, carriedRight.calendarID, sameCalendar, sameShown]
  have same : rightAfter.snapshot userID leftGoal.calendarID =
      leftAfter.snapshot userID leftGoal.calendarID :=
    Setting.settled_alike carriedLeft.ofUser carriedRight.ofUser carriedLeft.calendarID
      (carriedRight.calendarID.trans sameCalendar)
      (carriedRight.user.trans (sameUser.trans carriedLeft.user.symm)) timezone initial contests
      future carriedLeft.settled carriedRight.settled
  have others : ∀ other, other ≠ leftGoal.calendarID →
      (rightAfter.accounts userID).shown other = (leftAfter.accounts userID).shown other := by
    intro other different
    have leftSame := carriedLeft.reached.unchanged.calendars other
      (by rw [carriedLeft.calendarID]; exact different)
    have rightSame := carriedRight.reached.unchanged.calendars other
      (by rw [carriedRight.calendarID, sameCalendar]; exact different)
    rw [carriedLeft.ofUser, carriedLeft.account] at leftSame
    rw [carriedRight.ofUser, carriedRight.account] at rightSame
    have shown := congrFun sameShown other
    funext eventID
    have atEvent := congrFun shown eventID
    unfold Account.shown at atEvent ⊢
    rw [leftSame, rightSame]
    exact atEvent
  refine ⟨⟨?_, ?_⟩, ?_, ?_, ?_, ?_, ?_⟩
  · rintro ⟨owner, contestID, eventID⟩ rfl
    have tracked := congrFun (congrArg Snapshot.tracked same) contestID
    rw [← World.tracked_eq_some, ← World.tracked_eq_some, tracked]
  · funext other
    by_cases own : other = leftGoal.calendarID
    · subst own
      exact congrArg Snapshot.shown same
    · exact others other own
  · rw [carriedLeft.reached.unchanged.contests, carriedRight.reached.unchanged.contests]
    exact contests
  · intro contest member
    rw [carriedLeft.reached.unchanged.contests] at member
    rw [carriedLeft.reached.unchanged.future contest member,
      carriedRight.reached.unchanged.future contest (by rw [contests]; exact member)]
    exact future contest member
  · rw [carriedLeft.profile, carriedRight.profile, sameUser]
  · have leftZone := carriedLeft.reached.unchanged.timezone
    have rightZone := carriedRight.reached.unchanged.timezone
    rw [carriedLeft.ofUser] at leftZone
    rw [carriedRight.ofUser] at rightZone
    rw [leftZone, rightZone]
    exact zone
  · intro other stored undetermined
    rw [carriedLeft.profile] at stored
    cases stored
    rw [determined_of_target targetLeft] at undetermined
    cases undetermined

end Matching

def Syncer.withValkey (syncer : Syncer) : Syncer :=
  { syncer with valkey := true }

def Syncer.withoutValkey (syncer : Syncer) : Syncer :=
  { syncer with valkey := false }

section Sides

variable {syncer : Syncer} {userID : Int} {left right leftAfter rightAfter : World}

theorem Ran.matched (matched : Matched userID left right)
    (ranLeft : Ran syncer.withValkey userID left leftAfter)
    (ranRight : Ran syncer.withoutValkey userID right rightAfter) :
    Matched userID leftAfter rightAfter := by
  rcases ranLeft with ⟨alikeLeft, unusable⟩ | ⟨user, token, leftGoal, leftSetting, profile,
    decrypts, targetLeft, carriedLeft⟩
  · rcases ranRight with ⟨alikeRight, _⟩ | ⟨user, token, _, _, profile, decrypts, _⟩
    · refine matched.rowsKept alikeLeft.toRowsKept alikeRight.toRowsKept alikeLeft.accounts
        alikeRight.accounts ?_ ?_
      · rw [alikeLeft.profile, alikeRight.profile]
        exact matched.profile
      · intro user stored undetermined
        rw [alikeLeft.profile] at stored
        exact ⟨user, stored, undetermined⟩
    · rw [matched.profile] at profile
      cases decrypts.symm.trans (unusable user profile)
  · rcases ranRight with ⟨_, unusable⟩ | ⟨other, _, rightGoal, rightSetting, otherProfile, _,
      targetRight, carriedRight⟩
    · rw [matched.profile] at unusable
      cases decrypts.symm.trans (unusable user profile)
    · rw [matched.profile] at otherProfile
      cases profile.symm.trans otherProfile
      exact carriedLeft.matched matched profile targetLeft targetRight carriedRight

variable {before after : World}

theorem Ran.tracks {user : CachedUser} {token : String}
    {contest : ContestRow} (ran : Ran syncer userID before after)
    (profile : before.profile userID = some user)
    (decrypts : syncer.decryptToken user.refreshToken = some token)
    (announced : before.Announces contest) (chosen : contest.platform ∈ user.platforms.getD []) :
    ∃ row ∈ after.database.syncedEvents.rows, row.userID = userID ∧ row.contestID = contest.id := by
  rcases ran with ⟨_, unusable⟩ | ⟨other, _, goal, setting, stored, _, targeted, carried⟩
  · cases decrypts.symm.trans (unusable user profile)
  · cases profile.symm.trans stored
    have selected : contest.platform ∈ setting.selected := by
      unfold Setting.selected
      rw [carried.user, user_of_target targeted]
      exact chosen
    have inTable : contest ∈ setting.start.database.contests.rows := by
      rw [carried.contests]
      exact announced.1
    have future : setting.start.now < contest.startTime := by
      rw [carried.now]
      exact announced.2
    have recorded := (Setting.tracked_of_settled carried.settled contest.id _).mpr
      (Or.inr ⟨rfl, contest, inTable, rfl, selected, future⟩)
    exact ⟨_, World.tracked_eq_some.mp recorded, carried.ofUser, rfl⟩

theorem Carried.named {goal : Target} {setting : Setting}
    (carried : Carried userID before goal setting after) :
    after.Named userID goal.user.googleID := by
  rw [← carried.user]
  constructor
  · rintro ⟨owner, contestID, eventID⟩ member own
    rw [← carried.ofUser] at own
    cases own
    rcases (Setting.tracked_of_settled carried.settled contestID eventID).mp
      (World.tracked_eq_some.mpr member) with ⟨tracked, _⟩ | ⟨computed, _⟩
    · exact (setting.tracked_contest tracked).2
    · exact computed
  · unfold World.EventIDsApart
    rw [carried.reached.unchanged.contests]
    exact setting.apart

theorem Matched.named (matched : Matched userID left right) {googleID : String}
    (named : left.Named userID googleID) : right.Named userID googleID := by
  refine ⟨fun row member own => named.faithful row ((matched.rows row own).mp member) own, ?_⟩
  unfold World.EventIDsApart
  rw [matched.contests]
  exact named.apart

/-! ### A contest that is left out -/

def World.Untracks (world : World) (userID : Int) (contestID : String) : Prop :=
  ∀ row ∈ world.database.syncedEvents.rows, row.userID = userID → row.contestID ≠ contestID

/-- The contest has no row, and this is the cached list. -/
structure World.Skips (world : World) (userID : Int) (listed : List String) (contestID : String) :
    Prop where
  hit : world.valkey.syncedEvents userID = some listed
  untracked : world.Untracks userID contestID

end Sides

section Skipped

variable {remote : Request → Outcome → Prop} {userID : Int} {listed : List String}
  {contestID : String} {request : Request}

theorem maintains_untracks (plain : request.introduces = false) :
    Maintains (alone remote) (fun world => world.Untracks userID contestID) (ask request) :=
  maintains_ask (fun world untracked row member =>
    untracked row ((inherits_handle world plain).tracked row member))

theorem maintains_skips (plain : request.introduces = false)
    (kept : request.writes .syncedCache = false) :
    Maintains (alone remote) (fun world => world.Skips userID listed contestID) (ask request) :=
  maintains_ask (fun world skips =>
    ⟨((congrFun ((frame_handle world request).syncedCache kept) userID).trans skips.hit),
      fun row member => skips.untracked row ((inherits_handle world plain).tracked row member)⟩)

theorem maintains_untracks_insertSynced {row : SyncedEvent}
    (different : row.contestID ≠ contestID) :
    Maintains (alone remote) (fun world => world.Untracks userID contestID)
      (ask (.insertSynced row)) := by
  apply maintains_ask
  intro world untracked other member own
  unfold World.handle at member
  simp only at member
  split at member
  · rename_i inserted
    rcases Database.insertSyncedEvent_cases inserted with ⟨_, _, _, rows⟩ | ⟨_, same⟩
    · rcases (rows other).mp member with old | rfl
      · exact untracked other old own
      · exact different
    · subst same
      exact untracked other member own
  · exact untracked other member own

theorem maintains_skips_loadSyncProfile {valkey : Bool} :
    Maintains (alone remote) (fun world => world.Skips userID listed contestID)
      (loadSyncProfile valkey userID) := by
  have fills : ∀ user, Maintains (alone remote)
      (fun world => world.Skips userID listed contestID) (ask (.setCachedUser userID user)) :=
    fun user => maintains_ask (fun world skips => ⟨skips.hit, skips.untracked⟩)
  exact maintains_loadSyncProfile (maintains_skips rfl rfl) (maintains_skips rfl rfl) fills

variable {syncer : Syncer} {token calendarID timezone : String} {user : CachedUser} {world : World}

theorem ensures_syncCalendar_skips (configured : syncer.valkey = true)
    (member : contestID ∈ listed) (skips : world.Skips userID listed contestID) :
    Ensures (alone remote) (fun _ later => later.Untracks userID contestID)
      (syncer.syncCalendar userID token calendarID timezone user) world := by
  have cleans : Maintains (alone remote) (fun world => world.Skips userID listed contestID)
      (Syncer.cleanup userID token calendarID (user.platforms.getD [])) :=
    Syncer.maintains_cleanup (fun _ => True)
      ((maintains_skips rfl rfl).yields (fun _ _ _ _ _ => trivial))
      (fun _ _ _ => Syncer.maintains_removeTracked (maintains_skips rfl rfl)
        (maintains_skips rfl rfl))
  have drops : ∀ error, Maintains (alone remote) (fun world => world.Untracks userID contestID)
      (syncer.handleSyncError userID token error) :=
    fun error => Syncer.maintains_handleSyncError error (maintains_untracks rfl)
      (maintains_untracks rfl)
  refine (cleans world skips).then ?_
  intro _ cleaned still
  have loads : Ensures (alone remote) (fun synced later => synced = listed ∧ later = cleaned)
      (syncer.loadSynced userID) cleaned := by
    unfold Syncer.loadSynced Syncer.selectSyncedSet
    rw [configured]
    apply ensures_local rfl
    intro hit answered
    cases answered.trans still.hit
    exact ⟨rfl, rfl⟩
  refine Ensures.then loads ?_
  rintro _ _ ⟨rfl, rfl⟩
  apply ensures_ite
  · exact fun _ => still.untracked
  · intro _
    have found : Maintains (alone remote) (fun world => world.Untracks userID contestID)
        (syncer.loadContests (user.platforms.getD [])) :=
      (Syncer.yields_loadContests (fun _ => True)
        (fun _ _ => (maintains_untracks rfl).yields (fun _ _ _ _ _ => trivial))
        (fun _ => (maintains_untracks rfl).yields (fun _ _ _ _ _ => trivial))
        (fun _ _ _ => maintains_untracks rfl)).maintains
    refine found.bind ?_ _ still.untracked
    intro answer
    cases answer with
    | none => exact maintains_done _
    | some contests =>
      apply Maintains.bind
      · apply maintains_traverse
        intro anySynced contest _
        apply maintains_ite
        · exact fun _ => maintains_done _
        · intro unlisted
          have different : contest.id ≠ contestID := fun same => unlisted (same ▸ member)
          exact Syncer.maintains_syncContest (fun _ => True) trivial anySynced
            ((maintains_untracks rfl).yields (fun _ _ _ => trivial)) (maintains_untracks rfl)
            (fun _ _ => maintains_untracks_insertSynced different) drops
      · intro result
        cases result with
        | error left => exact maintains_done _
        | ok anySynced =>
          exact maintains_ite (fun _ => (maintains_untracks rfl).map) (fun _ => maintains_done _)

theorem ensures_syncUser_skips (configured : syncer.valkey = true)
    (member : contestID ∈ listed) (skips : world.Skips userID listed contestID) :
    Ensures (alone remote) (fun _ later => later.Untracks userID contestID)
      (syncer.syncUser userID) world := by
  have syncs : ∀ user state, state.Skips userID listed contestID →
      Ensures (alone remote) (fun _ later => later.Untracks userID contestID)
        (syncer.syncProfile userID user) state := by
    intro user state holds
    unfold Syncer.syncProfile
    cases syncer.decryptToken user.refreshToken with
    | none => exact holds.untracked
    | some token =>
      have drops : ∀ error, Maintains (alone remote)
          (fun world => world.Skips userID listed contestID)
          (syncer.handleSyncError userID token error) :=
        fun error => Syncer.maintains_handleSyncError error (maintains_skips rfl rfl)
          (maintains_skips rfl rfl)
      have primary : Maintains (alone remote) (fun world => world.Skips userID listed contestID)
          (ask (.getPrimary userID token)) := maintains_skips rfl rfl
      refine (primary state holds).then ?_
      intro answer ready still
      cases answer with
      | error error =>
        refine (drops error ready still).then ?_
        intro deleted later kept
        exact ensures_ite (fun _ => kept.untracked) (fun _ => kept.untracked)
      | ok timezone =>
        refine (Syncer.maintains_targetCalendar (maintains_skips rfl rfl)
          (fun _ => Syncer.maintains_adoptCalendar (maintains_skips rfl rfl)
            (maintains_skips rfl rfl)) drops ready still).then ?_
        intro found later kept
        cases found with
        | none => exact kept.untracked
        | some calendarID => exact ensures_syncCalendar_skips configured member kept
  refine Syncer.ensures_syncUser (fun _ skips => skips.untracked) (maintains_skips rfl rfl)
    (maintains_untracks rfl) (maintains_skips rfl rfl) (maintains_untracks rfl) ?_ skips
  intro ready holds
  refine (maintains_skips_loadSyncProfile ready holds).then ?_
  intro found loaded still
  cases found with
  | none => exact still.untracked
  | some user =>
    exact Syncer.ensures_syncLoaded (maintains_skips rfl rfl) (syncs user)
      (fun _ => maintains_untracks rfl) (maintains_untracks rfl) still

end Skipped

/-! ### Both sides in step -/

/-- Google creates the dedicated calendar of the user if it is asked to. -/
def World.Supplies (world : World) (userID : Int) : Prop :=
  ∀ user, world.profile userID = some user → target user (world.accounts userID) ≠ none

/-- Time passes and keys expire, but no contest starts. -/
structure Pause (before after : World) : Prop extends Lapse before after where
  future : ∀ contest ∈ before.database.contests.rows,
    (after.now < contest.startTime ↔ before.now < contest.startTime)

/-- An operation of the user, every call served, with Valkey on the left and
without it on the right. -/
inductive Paired (syncer : Syncer) (userID : Int) (useDedicated : Bool) :
    World × World → World × World → Prop where
  | savePreferences (left right : World) (requested : Option (List String)) :
      Paired syncer userID useDedicated (left, right)
        (replay syncer.withValkey [.savePreferences userID requested useDedicated] left,
          replay syncer.withoutValkey [.savePreferences userID requested useDedicated] right)
  | syncUser {left right : World} (upToDate : left.UpToDate syncer userID)
      (suppliesLeft : left.Supplies userID) (suppliesRight : right.Supplies userID) :
      Paired syncer userID useDedicated (left, right)
        (replay syncer.withValkey [.syncUser userID] left,
          replay syncer.withoutValkey [.syncUser userID] right)
  | pause {left right leftAfter rightAfter : World} (pauseLeft : Pause left leftAfter)
      (pauseRight : Pause right rightAfter) :
      Paired syncer userID useDedicated (left, right) (leftAfter, rightAfter)

structure Standing (syncer : Syncer) (userID : Int) (useDedicated : Bool) (left right : World) :
    Prop extends Matched userID left right where
  coherent : left.Coherent userID
  unlocked : left.Unlocked syncer.withValkey userID
  free : right.Unlocked syncer.withoutValkey userID
  named : ∀ user, left.profile userID = some user → left.Named userID user.googleID
  fixed : ∀ user, left.profile userID = some user → user.useDedicated = useDedicated

section Steps

variable {syncer : Syncer} {userID : Int} {useDedicated : Bool} {left right : World}

theorem ran_plain (standing : Standing syncer userID useDedicated left right)
    (supplies : right.Supplies userID) :
    Ran syncer.withoutValkey userID right (replay syncer.withoutValkey [.syncUser userID] right) ∧
      (replay syncer.withoutValkey [.syncUser userID] right).Unlocked syncer.withoutValkey
        userID := by
  have named : ∀ user, right.profile userID = some user → right.Named userID user.googleID := by
    intro user profile
    rw [standing.profile] at profile
    exact standing.toMatched.named (standing.named user profile)
  have run : Ensures (alone servedRemote)
      (fun _ later => (Ran syncer.withoutValkey userID right later ∧
        (syncer.withoutValkey.valkey = true → later.Coherent userID)) ∧
          later.Unlocked syncer.withoutValkey userID)
      (syncer.withoutValkey.syncUser userID) right :=
    ensures_ran nofun nofun standing.free named supplies
  obtain ⟨⟨ran, _⟩, unlocked⟩ := (ensures_discard run).runs
    (runs_replay syncer.withoutValkey (.syncUser userID) right)
  exact ⟨ran, unlocked⟩

theorem ran_cached (standing : Standing syncer userID useDedicated left right)
    (upToDate : left.UpToDate syncer userID) (supplies : left.Supplies userID) :
    (Ran syncer.withValkey userID left (replay syncer.withValkey [.syncUser userID] left) ∧
      (replay syncer.withValkey [.syncUser userID] left).Coherent userID) ∧
      (replay syncer.withValkey [.syncUser userID] left).Unlocked syncer.withValkey userID := by
  have run : Ensures (alone servedRemote) (fun _ later => (Ran syncer.withValkey userID left later ∧
        (syncer.withValkey.valkey = true → later.Coherent userID)) ∧
          later.Unlocked syncer.withValkey userID)
      (syncer.withValkey.syncUser userID) left :=
    ensures_ran (fun _ => standing.coherent) (fun _ => upToDate) standing.unlocked standing.named
      supplies
  obtain ⟨⟨ran, coherent⟩, unlocked⟩ := (ensures_discard run).runs
    (runs_replay syncer.withValkey (.syncUser userID) left)
  exact ⟨⟨ran, coherent rfl⟩, unlocked⟩

theorem Standing.syncUser (standing : Standing syncer userID useDedicated left right)
    (upToDate : left.UpToDate syncer userID) (suppliesLeft : left.Supplies userID)
    (suppliesRight : right.Supplies userID) :
    Standing syncer userID useDedicated (replay syncer.withValkey [.syncUser userID] left)
      (replay syncer.withoutValkey [.syncUser userID] right) := by
  obtain ⟨ranRight, free⟩ := ran_plain standing suppliesRight
  obtain ⟨⟨ranLeft, coherent⟩, unlocked⟩ := ran_cached standing upToDate suppliesLeft
  refine ⟨ranLeft.matched standing.toMatched ranRight, coherent, unlocked, free, ?_, ?_⟩
  · intro user profile
    rcases ranLeft with ⟨alike, _⟩ | ⟨_, _, goal, _, _, _, _, carried⟩
    · rw [alike.profile] at profile
      exact (standing.named user profile).rowsKept alike.toRowsKept
    · rw [carried.profile] at profile
      cases profile
      exact carried.named
  · intro user profile
    rcases ranLeft with ⟨alike, _⟩ | ⟨old, _, goal, _, stored, _, targeted, carried⟩
    · rw [alike.profile] at profile
      exact standing.fixed user profile
    · rw [carried.profile] at profile
      cases profile
      rw [user_of_target targeted]
      exact standing.fixed old stored

/-! ### SavePreferences and pauses -/

theorem savedProfile_facts {requested : Option (List String)} {user : CachedUser}
    (fixed : user.useDedicated = useDedicated) :
    (savedProfile requested useDedicated user).googleID = user.googleID ∧
      (savedProfile requested useDedicated user).useDedicated = useDedicated ∧
      (determinedCalendar (savedProfile requested useDedicated user) = none →
        determinedCalendar user = none) := by
  unfold savedProfile
  split
  · exact ⟨rfl, fixed, fun undetermined => undetermined⟩
  · refine ⟨rfl, rfl, ?_⟩
    unfold determinedCalendar
    rw [fixed]
    cases useDedicated
    · exact fun undetermined => undetermined
    · exact fun undetermined => undetermined

theorem Standing.savePreferences (standing : Standing syncer userID useDedicated left right)
    (requested : Option (List String)) :
    Standing syncer userID useDedicated
      (replay syncer.withValkey [.savePreferences userID requested useDedicated] left)
      (replay syncer.withoutValkey [.savePreferences userID requested useDedicated] right) := by
  obtain ⟨keptLeft, accountsLeft, profileLeft, locksLeft, _⟩ := (ensures_discard
    (ensures_savedProfile (fun _ => standing.coherent.profile))).runs
    (runs_replay syncer.withValkey (.savePreferences userID requested useDedicated) left)
  have unconfigured : false = true → right.ProfileCached userID :=
    nofun
  obtain ⟨keptRight, accountsRight, profileRight, _, syncingRight⟩ := (ensures_discard
    (ensures_savedProfile unconfigured)).runs
    (runs_replay syncer.withoutValkey (.savePreferences userID requested useDedicated) right)
  have earlier : ∀ user, (replay syncer.withValkey
      [.savePreferences userID requested useDedicated] left).profile userID = some user →
      ∃ old, left.profile userID = some old ∧ savedProfile requested useDedicated old = user := by
    intro user profile
    rw [profileLeft] at profile
    exact Option.map_eq_some_iff.mp profile
  refine ⟨standing.toMatched.rowsKept keptLeft keptRight accountsLeft accountsRight ?_ ?_,
    standing.coherent.rowsKept keptLeft, ?_, ?_, ?_, ?_⟩
  · rw [profileLeft, profileRight, standing.profile]
  · intro user profile undetermined
    obtain ⟨old, stored, rfl⟩ := earlier user profile
    exact ⟨old, stored, (savedProfile_facts (standing.fixed old stored)).2.2 undetermined⟩
  · have unlocked : left.valkey.locks userID = false := standing.unlocked
    change (replay _ _ left).valkey.locks userID = false
    rw [locksLeft]
    exact unlocked
  · have free : (syncer.process, userID) ∉ right.syncing := standing.free
    change (syncer.process, userID) ∉ (replay _ _ right).syncing
    rw [syncingRight]
    exact free
  · intro user profile
    obtain ⟨old, stored, rfl⟩ := earlier user profile
    rw [(savedProfile_facts (standing.fixed old stored)).1]
    exact (standing.named old stored).rowsKept keptLeft
  · intro user profile
    obtain ⟨old, stored, rfl⟩ := earlier user profile
    exact (savedProfile_facts (standing.fixed old stored)).2.1

theorem World.Coherent.pause {before after : World} (coherent : before.Coherent userID)
    (pause : Pause before after) : after.Coherent userID := by
  refine ⟨?_, ?_, ?_⟩
  · intro user hit
    unfold World.profile
    rw [pause.database]
    rcases pause.users userID with same | expired
    · rw [same] at hit
      exact coherent.profile user hit
    · rw [expired] at hit
      cases hit
  · intro platform rows hit contest
    rcases pause.contests platform with same | expired
    · rw [same] at hit
      refine (coherent.contests platform rows hit contest).trans (and_congr_left fun _ => ?_)
      unfold World.Announces
      rw [pause.database]
      exact and_congr_right (fun member => (pause.future contest member).symm)
    · rw [expired] at hit
      cases hit
  · intro listed hit
    rw [pause.database]
    rcases pause.syncedEvents userID with same | expired
    · rw [same] at hit
      exact coherent.synced listed hit
    · rw [expired] at hit
      cases hit

theorem Standing.pause {leftAfter rightAfter : World}
    (standing : Standing syncer userID useDedicated left right)
    (pauseLeft : Pause left leftAfter) (pauseRight : Pause right rightAfter) :
    Standing syncer userID useDedicated leftAfter rightAfter := by
  have profileLeft : leftAfter.profile userID = left.profile userID := by
    unfold World.profile
    rw [pauseLeft.database]
  have profileRight : rightAfter.profile userID = right.profile userID := by
    unfold World.profile
    rw [pauseRight.database]
  refine ⟨⟨⟨?_, ?_⟩, ?_, ?_, ?_, ?_, ?_⟩, standing.coherent.pause pauseLeft, ?_, ?_, ?_, ?_⟩
  · rw [pauseLeft.database, pauseRight.database]
    exact standing.rows
  · rw [pauseLeft.accounts, pauseRight.accounts]
    exact standing.shown
  · rw [pauseLeft.database, pauseRight.database]
    exact standing.contests
  · intro contest member
    rw [pauseLeft.database] at member
    rw [pauseLeft.future contest member,
      pauseRight.future contest (by rw [standing.contests]; exact member)]
    exact standing.future contest member
  · rw [profileLeft, profileRight]
    exact standing.profile
  · rw [pauseLeft.accounts, pauseRight.accounts]
    exact standing.timezone
  · rw [profileLeft, pauseLeft.accounts, pauseRight.accounts]
    exact standing.creation
  · have unlocked : left.valkey.locks userID = false := standing.unlocked
    change leftAfter.valkey.locks userID = false
    cases held : leftAfter.valkey.locks userID with
    | false => rfl
    | true =>
      exact absurd (pauseLeft.locks userID held) (by rw [unlocked]; exact Bool.false_ne_true)
  · have free : (syncer.process, userID) ∉ right.syncing := standing.free
    change (syncer.process, userID) ∉ rightAfter.syncing
    rw [pauseRight.syncing]
    exact free
  · intro user profile
    rw [profileLeft] at profile
    have named := standing.named user profile
    refine ⟨?_, ?_⟩
    · unfold World.Faithful
      rw [pauseLeft.database]
      exact named.faithful
    · unfold World.EventIDsApart
      rw [pauseLeft.database]
      exact named.apart
  · intro user profile
    rw [profileLeft] at profile
    exact standing.fixed user profile

theorem Standing.after {first last : World × World}
    (history : Relation.ReflTransGen (Paired syncer userID useDedicated) first last)
    (standing : Standing syncer userID useDedicated first.1 first.2) :
    Standing syncer userID useDedicated last.1 last.2 := by
  induction history with
  | refl => exact standing
  | tail _ step ih =>
    cases step with
    | savePreferences left right requested => exact ih.savePreferences requested
    | syncUser upToDate suppliesLeft suppliesRight =>
      exact ih.syncUser upToDate suppliesLeft suppliesRight
    | pause pauseLeft pauseRight => exact ih.pause pauseLeft pauseRight

/-- A list that is not up to date shows: the contest it names is put up on one
side only. -/
theorem Standing.diverges (standing : Standing syncer userID useDedicated left right)
    (suppliesRight : right.Supplies userID) (outdated : ¬left.UpToDate syncer userID) :
    ¬SameResults userID (replay syncer.withValkey [.syncUser userID] left)
      (replay syncer.withoutValkey [.syncUser userID] right) := by
  unfold World.UpToDate at outdated
  push Not at outdated
  obtain ⟨user, token, listed, profile, decrypts, hit, contest, announced, chosen, member,
    untracked⟩ := outdated
  have skips : left.Skips userID listed contest.id := ⟨hit, untracked⟩
  have run : Ensures (alone servedRemote) (fun _ later => later.Untracks userID contest.id)
      (syncer.withValkey.syncUser userID) left := ensures_syncUser_skips rfl member skips
  have skipped := (ensures_discard run).runs (runs_replay syncer.withValkey (.syncUser userID) left)
  obtain ⟨ranRight, _⟩ := ran_plain standing suppliesRight
  have announcedRight : right.Announces contest := by
    refine ⟨?_, (standing.future contest announced.1).mpr announced.2⟩
    rw [standing.contests]
    exact announced.1
  obtain ⟨row, present, own, atID⟩ := ranRight.tracks (standing.profile.trans profile) decrypts
    announcedRight chosen
  intro same
  exact skipped row ((same.rows row own).mp present) own atID

end Steps

/-! ### The comparison -/

structure World.Uncached (world : World) (userID : Int) : Prop where
  profile : world.valkey.users userID = none
  synced : world.valkey.syncedEvents userID = none
  contests : ∀ platform, world.valkey.contests platform = none
  lock : world.valkey.locks userID = false

variable {world : World}

theorem standing_of_uncached {syncer : Syncer} {userID : Int} {row : UserRow}
    (uncached : world.Uncached userID) (free : (syncer.process, userID) ∉ world.syncing)
    (stored : world.database.users.find userID = some row)
    (named : world.Named userID row.googleID) :
    Standing syncer userID row.useDedicated world world := by
  have scanned : ∀ user, world.profile userID = some user →
      user.googleID = row.googleID ∧ user.useDedicated = row.useDedicated := by
    intro user profile
    unfold World.profile at profile
    rw [stored] at profile
    obtain ⟨token, _, rfl⟩ := Option.map_eq_some_iff.mp profile
    exact ⟨rfl, rfl⟩
  refine ⟨.refl world, ⟨?_, ?_, ?_⟩, uncached.lock, free, ?_, fun user profile =>
    (scanned user profile).2⟩
  · intro user hit
    rw [uncached.profile] at hit
    cases hit
  · intro platform rows hit
    rw [uncached.contests] at hit
    cases hit
  · intro listed hit
    rw [uncached.synced] at hit
    cases hit
  · intro user profile
    rw [(scanned user profile).1]
    exact named

/-- After any operations in which every run met the condition, the next run leaves
the same rows and calendars with Valkey as without it if and only if it meets the
condition as well. -/
theorem syncUser_transparent_iff {syncer : Syncer} {userID : Int} {start left right : World}
    {row : UserRow} (uncached : start.Uncached userID)
    (free : (syncer.process, userID) ∉ start.syncing)
    (stored : start.database.users.find userID = some row)
    (faithful : start.Faithful userID row.googleID) (apart : start.EventIDsApart row.googleID)
    (history : Relation.ReflTransGen (Paired syncer userID row.useDedicated)
      (start, start) (left, right))
    (suppliesLeft : left.Supplies userID) (suppliesRight : right.Supplies userID) :
    SameResults userID (replay syncer.withValkey [.syncUser userID] left)
        (replay syncer.withoutValkey [.syncUser userID] right) ↔
      left.UpToDate syncer userID := by
  have standing : Standing syncer userID row.useDedicated left right :=
    Standing.after history (standing_of_uncached uncached free stored ⟨faithful, apart⟩)
  constructor
  · intro same
    by_contra outdated
    exact standing.diverges suppliesRight outdated same
  · intro upToDate
    exact (standing.syncUser upToDate suppliesLeft suppliesRight).toSameResults

/-! ### A platform that is deselected and selected again -/

/-- A user has selected Codeforces, and a round is announced. -/
def announcedWorld : World :=
  replay sampleSyncer [.googleCallback sampleLogin, .savePreferences 1 (some ["codeforces"]) false,
      .handleExtraction "codeforces" (some [codeforcesRound 2000])] emptyWorld

def announcedUser : UserRow :=
  { sampleRow with createdAt := unixTime 1000 }

def twiceSynced (syncer : Syncer) : World :=
  replay syncer [.syncUser 1] (replay syncer [.syncUser 1] announcedWorld)

theorem supplies_of_primary {user : CachedUser} (userID : Int)
    (profile : world.profile userID = some user) (primary : user.useDedicated = false) :
    world.Supplies userID := by
  intro other stored
  cases profile.symm.trans stored
  unfold target determinedCalendar
  rw [primary]
  exact Option.some_ne_none _

theorem announcedWorld_faithful : announcedWorld.Faithful 1 announcedUser.googleID := by
  have empty : announcedWorld.database.syncedEvents.rows = [] := by
    decide +kernel
  intro row member
  rw [empty] at member
  cases member

theorem announcedWorld_apart : announcedWorld.EventIDsApart announcedUser.googleID := by
  have only : announcedWorld.database.contests.rows = [(codeforcesRound 2000).row] := by
    decide +kernel
  rintro first ⟨contest, member, rfl⟩ second ⟨other, otherMember, rfl⟩ _
  rw [only] at member otherMember
  rw [List.mem_singleton.mp member, List.mem_singleton.mp otherMember]

theorem twiceSynced_withValkey :
    (twiceSynced sampleSyncer.withValkey).profile 1 = some sampleUser ∧
    (twiceSynced sampleSyncer.withValkey).valkey.syncedEvents 1 = some ["codeforces_2000"] ∧
    ∃ row ∈ (twiceSynced sampleSyncer.withValkey).database.syncedEvents.rows,
      row.userID = 1 ∧ row.contestID = "codeforces_2000" := by
  decide +kernel

theorem syncUser_transparent_third_run :
    SameResults 1
      (replay sampleSyncer.withValkey [.syncUser 1] (twiceSynced sampleSyncer.withValkey))
      (replay sampleSyncer.withoutValkey [.syncUser 1]
        (twiceSynced sampleSyncer.withoutValkey)) := by
  have start : announcedWorld.profile 1 = some sampleUser := by
    decide +kernel
  have onceLeft : (replay sampleSyncer.withValkey [.syncUser 1] announcedWorld).profile 1 =
      some sampleUser := by
    decide +kernel
  have onceRight : (replay sampleSyncer.withoutValkey [.syncUser 1] announcedWorld).profile 1 =
      some sampleUser := by
    decide +kernel
  obtain ⟨twiceLeft, list, row⟩ := twiceSynced_withValkey
  have twiceRight : (twiceSynced sampleSyncer.withoutValkey).profile 1 = some sampleUser := by
    decide +kernel
  have unlisted : ∀ world : World, world.valkey.syncedEvents 1 = none →
      world.UpToDate sampleSyncer 1 := by
    intro world missed user token listed _ _ hit
    rw [missed] at hit
    cases hit
  have history : Relation.ReflTransGen (Paired sampleSyncer 1 announcedUser.useDedicated)
      (announcedWorld, announcedWorld)
      (twiceSynced sampleSyncer.withValkey, twiceSynced sampleSyncer.withoutValkey) := by
    refine .tail (.single (.syncUser (unlisted _ ?_) (supplies_of_primary 1 start rfl)
      (supplies_of_primary 1 start rfl))) (.syncUser (unlisted _ ?_)
      (supplies_of_primary 1 onceLeft rfl) (supplies_of_primary 1 onceRight rfl))
    · decide +kernel
    · decide +kernel
  refine (syncUser_transparent_iff ⟨?_, ?_, fun _ => rfl, ?_⟩ ?_ ?_ announcedWorld_faithful
    announcedWorld_apart history (supplies_of_primary 1 twiceLeft rfl)
    (supplies_of_primary 1 twiceRight rfl)).mpr ?_
  · decide +kernel
  · decide +kernel
  · decide +kernel
  · decide +kernel
  · decide +kernel
  · intro user token listed _ _ hit contest _ _ member
    cases list.symm.trans hit
    rw [List.mem_singleton.mp member]
    exact row

def reselected (syncer : Syncer) : World :=
  replay syncer [.savePreferences 1 (some []) false, .syncUser 1,
      .savePreferences 1 (some ["codeforces"]) false] (twiceSynced syncer)

theorem reselected_withoutValkey :
    (reselected sampleSyncer.withoutValkey).profile 1 = some sampleUser ∧
    (reselected sampleSyncer.withoutValkey).database.syncedEvents.rows = [] ∧
    (reselected sampleSyncer.withoutValkey).database.contests.rows = [(codeforcesRound 2000).row] ∧
    (reselected sampleSyncer.withoutValkey).syncing = [] ∧
    (reselected sampleSyncer.withoutValkey).now = unixTime 1000 := by
  decide +kernel

/-- The next run puts the round up again, but not with Valkey: its list still
has the round from the time before it was deselected. -/
theorem syncUser_opaque_after_reselection :
    (∀ row ∈ (replay sampleSyncer.withValkey [.syncUser 1]
        (reselected sampleSyncer.withValkey)).database.syncedEvents.rows,
      row.contestID ≠ "codeforces_2000") ∧
    ∃ row ∈ (replay sampleSyncer.withoutValkey [.syncUser 1]
        (reselected sampleSyncer.withoutValkey)).database.syncedEvents.rows,
      row.userID = 1 ∧ row.contestID = "codeforces_2000" := by
  constructor
  · decide +kernel
  · obtain ⟨profile, untracked, only, unlocked, now⟩ := reselected_withoutValkey
    have named : ∀ user, (reselected sampleSyncer.withoutValkey).profile 1 = some user →
        (reselected sampleSyncer.withoutValkey).Named 1 user.googleID := by
      intro user _
      constructor
      · intro row member
        rw [untracked] at member
        cases member
      · rintro first ⟨contest, member, rfl⟩ second ⟨other, otherMember, rfl⟩ _
        rw [only] at member otherMember
        rw [List.mem_singleton.mp member, List.mem_singleton.mp otherMember]
    have run : Ensures (alone servedRemote)
        (fun _ later => (Ran sampleSyncer.withoutValkey 1 (reselected sampleSyncer.withoutValkey)
          later ∧ (sampleSyncer.withoutValkey.valkey = true → later.Coherent 1)) ∧
            later.Unlocked sampleSyncer.withoutValkey 1)
        (sampleSyncer.withoutValkey.syncUser 1) (reselected sampleSyncer.withoutValkey) :=
      ensures_ran nofun nofun (by
          change (0, 1) ∉ (reselected sampleSyncer.withoutValkey).syncing
          rw [unlocked]
          exact List.not_mem_nil) named (supplies_of_primary 1 profile rfl)
    have ran := ((ensures_discard run).runs (runs_replay sampleSyncer.withoutValkey (.syncUser 1)
      (reselected sampleSyncer.withoutValkey))).1.1
    have announced : (reselected sampleSyncer.withoutValkey).Announces
        (codeforcesRound 2000).row := by
      refine ⟨?_, ?_⟩
      · rw [only]
        exact List.mem_singleton.mpr rfl
      · rw [now]
        decide
    exact ran.tracks profile rfl announced (by decide)

end ContestSync
