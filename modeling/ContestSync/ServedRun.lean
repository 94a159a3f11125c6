/-
Whole operations of a user in which every call succeeds, with Valkey or without
it. A run of `SyncUser` carries out its plan for the calendar it targets, created
on the way if need be, and `SavePreferences` changes the profile and nothing else.
With Valkey this rests on caches that fit the tables, and the caches still fit
afterwards.
-/

import ContestSync.CachedRun
import ContestSync.RequestFrames
import ContestSync.Footprints

namespace ContestSync

open Reconciliation Resumable Program Function

/-- The profile that `SyncUser` and `SavePreferences` would read from the database. -/
def World.profile (world : World) (userID : Int) : Option CachedUser :=
  (world.database.users.find userID).bind scanSyncProfile

/-- The profile that they would work with: the cached one, or else the stored one. -/
def World.readProfile (world : World) (valkey : Bool) (userID : Int) : Option CachedUser :=
  (if valkey then world.valkey.users userID else none).or (world.profile userID)

/-- The cached profile of the user is the stored one. -/
def World.ProfileCached (world : World) (userID : Int) : Prop :=
  ∀ user, world.valkey.users userID = some user → world.profile userID = some user

/-! ### What surrounds the body of a run -/

/-- The contests, the rows and the lists in Valkey are the same, and a cached
profile of the user is the stored one. -/
structure RowsKept (valkey : Bool) (userID : Int) (before after : World) : Prop where
  contests : after.database.contests = before.database.contests
  syncedEvents : after.database.syncedEvents = before.database.syncedEvents
  now : after.now = before.now
  syncedCache : after.valkey.syncedEvents = before.valkey.syncedEvents
  contestsCache : after.valkey.contests = before.valkey.contests
  cached : valkey = true → after.ProfileCached userID

structure Alike (valkey : Bool) (userID : Int) (before after : World) : Prop
    extends RowsKept valkey userID before after where
  accounts : after.accounts = before.accounts
  profile : after.profile userID = before.profile userID

section Surroundings

variable {valkey : Bool} {userID : Int} {first middle last before after world : World}

theorem RowsKept.trans (left : RowsKept valkey userID first middle)
    (right : RowsKept valkey userID middle last) : RowsKept valkey userID first last :=
  { contests := right.contests.trans left.contests
    syncedEvents := right.syncedEvents.trans left.syncedEvents
    now := right.now.trans left.now
    syncedCache := right.syncedCache.trans left.syncedCache
    contestsCache := right.contestsCache.trans left.contestsCache
    cached := right.cached }

theorem Alike.refl (cached : valkey = true → world.ProfileCached userID) :
    Alike valkey userID world world :=
  ⟨⟨rfl, rfl, rfl, rfl, rfl, cached⟩, rfl, rfl⟩

theorem Alike.trans (left : Alike valkey userID first middle)
    (right : Alike valkey userID middle last) : Alike valkey userID first last :=
  ⟨left.toRowsKept.trans right.toRowsKept, right.accounts.trans left.accounts,
    right.profile.trans left.profile⟩

theorem Alike.quiet {request : Request} (idle : request.parts = [])
    (cached : valkey = true → world.ProfileCached userID) :
    Alike valkey userID world (world.handle request).1 := by
  have clear : ∀ part, request.writes part = false := by
    intro part
    unfold Request.writes
    rw [idle]
    rfl
  have frame := frame_handle world request
  have same : (world.handle request).1.profile userID = world.profile userID := by
    unfold World.profile
    rw [frame.users (clear _)]
  refine ⟨⟨frame.contests (clear _), frame.syncedEvents (clear _), frame.now,
    frame.syncedCache (clear _), frame.contestsCache (clear _), ?_⟩, frame.accounts (clear _),
    same⟩
  intro configured user hit
  rw [frame.profiles (clear _)] at hit
  rw [same]
  exact cached configured user hit

variable {change : Database.UserChange} {remote : Request → Outcome → Prop}

theorem profile_updateUser {derive : CachedUser → CachedUser}
    (scans : ∀ row, scanSyncProfile (change.apply row) = (scanSyncProfile row).map derive) :
    (world.setDatabase (world.database.updateUser userID change)).profile userID =
      (world.profile userID).map derive := by
  unfold World.profile World.setDatabase
  rw [Database.find_updateUser, if_pos rfl]
  cases world.database.users.find userID with
  | none => rfl
  | some row => exact scans row

theorem Alike.updateUser
    (keepsProfile : ∀ row, scanSyncProfile (change.apply row) = scanSyncProfile row)
    (cached : valkey = true → world.ProfileCached userID) :
    Alike valkey userID world (world.setDatabase (world.database.updateUser userID change)) := by
  have scans : ∀ row, scanSyncProfile (change.apply row) = (scanSyncProfile row).map id := by
    intro row
    rw [keepsProfile, Option.map_id_fun, id]
  have same : (world.setDatabase (world.database.updateUser userID change)).profile userID =
      world.profile userID := by
    rw [profile_updateUser scans, Option.map_id_fun, id]
  refine ⟨⟨rfl, rfl, rfl, rfl, rfl, ?_⟩, rfl, same⟩
  intro configured user hit
  rw [same]
  exact cached configured user hit

theorem ensures_loadSyncProfile_found :
    Ensures (alone remote) (fun found later => found = world.readProfile valkey userID ∧
        (later = world ∨ ∃ user, world.profile userID = some user ∧
          later = (world.handle (.setCachedUser userID user)).1))
      (loadSyncProfile valkey userID) world := by
  have missed : Ensures (alone remote) (fun found later => found = world.profile userID ∧
        (later = world ∨ ∃ user, world.profile userID = some user ∧
          later = (world.handle (.setCachedUser userID user)).1))
      (selectProfile valkey userID) world := by
    apply ensures_local rfl
    intro answer answered
    change answer = some (world.database.users.find userID) at answered
    cases answered
    have read : world.profile userID = (world.database.users.find userID).bind scanSyncProfile :=
      rfl
    cases stored : world.database.users.find userID with
    | none =>
      rw [stored] at read
      exact ⟨read.symm, .inl rfl⟩
    | some row =>
      rw [stored] at read
      change world.profile userID = scanSyncProfile row at read
      change Ensures _ _ (fillProfile valkey userID (scanSyncProfile row)) _
      rw [← read]
      cases found : world.profile userID with
      | none => exact ⟨rfl, .inl rfl⟩
      | some user =>
        apply ensures_ite
        · intro _
          apply ensures_local rfl
          intro _ _
          exact ⟨rfl, .inr ⟨user, rfl, rfl⟩⟩
        · exact fun _ => ⟨rfl, .inl rfl⟩
  unfold World.readProfile
  apply ensures_ite
  · intro configured
    rw [if_pos configured]
    apply ensures_local rfl
    intro hit answered
    change hit = world.valkey.users userID at answered
    rw [← answered]
    cases hit with
    | some user => exact ⟨rfl, .inl rfl⟩
    | none => exact missed
  · intro unconfigured
    rw [if_neg unconfigured]
    exact missed

theorem ensures_loadSyncProfile (cached : valkey = true → world.ProfileCached userID) :
    Ensures (alone remote)
      (fun found later => found = world.profile userID ∧ Alike valkey userID world later ∧
        later.valkey.locks = world.valkey.locks ∧ later.syncing = world.syncing)
      (loadSyncProfile valkey userID) world := by
  have same : world.readProfile valkey userID = world.profile userID := by
    unfold World.readProfile
    cases valkey with
    | false => rfl
    | true =>
      cases hit : world.valkey.users userID with
      | none => simp
      | some user => simp [cached rfl user hit]
  refine Ensures.mono ?_ ensures_loadSyncProfile_found
  rintro found later ⟨read, rfl | ⟨user, stored, rfl⟩⟩
  · exact ⟨read.trans same, .refl cached, rfl, rfl⟩
  · refine ⟨read.trans same, ⟨⟨rfl, rfl, rfl, rfl, rfl, ?_⟩, rfl, rfl⟩, rfl, rfl⟩
    intro _ other hit
    change update world.valkey.users userID (some user) userID = _ at hit
    rw [update_self] at hit
    cases hit
    exact stored

end Surroundings

def World.Unlocked (world : World) (syncer : Syncer) (userID : Int) : Prop :=
  if syncer.valkey then world.valkey.locks userID = false
  else (syncer.process, userID) ∉ world.syncing

variable {syncer : Syncer} {userID : Int} {world after before : World} {timezone : String}
  {valkey : Bool}

theorem ensures_syncUser_around
    {after : World → Prop} (cached : syncer.valkey = true → world.ProfileCached userID)
    (unlocked : world.Unlocked syncer userID)
    (missing : ∀ ready, Alike syncer.valkey userID world ready → world.profile userID = none →
      after ready) (body : ∀ ready user, Alike syncer.valkey userID world ready →
      world.profile userID = some user →
      Ensures (alone servedRemote) (fun _ => after) (syncer.syncProfile userID user) ready)
    (fits : ∀ later, after later → syncer.valkey = true → later.ProfileCached userID)
    (closing : ∀ later next, after later → Alike syncer.valkey userID later next → after next) :
    Ensures (alone servedRemote) (fun _ later => after later ∧ later.Unlocked syncer userID)
      (syncer.syncUser userID) world := by
  have locked : ∀ ready, Alike syncer.valkey userID world ready →
      Ensures (alone servedRemote) (fun _ => after) (syncer.syncLocked userID) ready := by
    intro ready alike
    refine (ensures_loadSyncProfile alike.cached).then ?_
    rintro found loaded ⟨read, loading, _⟩
    rw [alike.profile] at read
    cases found with
    | none => exact missing loaded (alike.trans loading) read.symm
    | some user =>
      exact Syncer.ensures_syncLoaded
        (maintains_ask (fun _ alike => alike.trans (.updateUser (fun _ => rfl) alike.cached)))
        (fun marked alike => body marked user alike read.symm)
        (fun _ => maintains_ask (fun later reached =>
          closing later _ reached (.updateUser (fun _ => rfl) (fits later reached))))
        (maintains_ask (fun later reached =>
          closing later _ reached (.quiet rfl (fits later reached))))
        (alike.trans loading)
  unfold Syncer.syncUser
  unfold World.Unlocked at unlocked ⊢
  apply ensures_ite
  · intro configured
    rw [if_pos configured] at unlocked
    simp only [if_pos configured]
    apply ensures_local rfl
    intro answer answered
    have granted : world.handle (.lockKey userID) = ({ world with valkey :=
            { world.valkey with locks := update world.valkey.locks userID true } },
          some true) := by
      simp only [World.handle, unlocked]
      rfl
    have free : answer = some true := answered.trans (congrArg Prod.snd granted)
    subst free
    refine (locked _ (Alike.quiet rfl cached)).then ?_
    intro result later reached
    apply ensures_local rfl
    intro _ _
    exact ⟨closing _ _ reached (Alike.quiet rfl (fits later reached)), update_self _ _ _⟩
  · intro unconfigured
    rw [if_neg unconfigured] at unlocked
    simp only [if_neg unconfigured]
    apply ensures_local rfl
    intro answer answered
    have granted : answer = true := by
      rw [answered]
      simp only [World.handle, if_neg unlocked]
    subst granted
    apply ensures_ite
    · intro _
      refine (locked _ (Alike.quiet rfl cached)).then ?_
      intro result later reached
      apply ensures_local rfl
      intro _ _
      refine ⟨closing _ _ reached (Alike.quiet rfl (fits later reached)), ?_⟩
      simp [World.handle]
    · exact fun refused => absurd rfl refused

/-! ### The target calendar -/

/-- Where a run writes to, with the profile and the account it goes on with. -/
structure Target where
  calendarID : String
  user : CachedUser
  account : Account

/-- A dedicated calendar is created when there is none yet; `none` when Google
does not create it. -/
def target (user : CachedUser) (account : Account) : Option Target :=
  match determinedCalendar user with
  | some calendarID => some ⟨calendarID, user, account⟩
  | none =>
    match account.insertCalendar with
    | (next, .ok calendarID) =>
      some ⟨calendarID, { user with calendarID := calendarID }, next⟩
    | (_, .error _) => none

variable {account : Account}

theorem created_of_insertCalendar {next : Account} {calendarID : String}
    (created : account.insertCalendar = (next, .ok calendarID)) :
    calendarID ≠ "" ∧ calendarID ≠ "primary" ∧ next = { account with
        events := update account.events calendarID (fun _ => none)
        calendars := account.calendars ++ [calendarID] } := by
  rcases account.insertCalendar_cases with ⟨error, refused⟩ | ⟨given, named, secondary, _, answered⟩
  · rw [refused] at created
    cases created
  · rw [answered] at created
    cases created
    exact ⟨named, secondary, rfl⟩

variable {user : CachedUser} {goal : Target}

section Targets

variable (targeted : target user account = some goal)
include targeted

theorem target_cases :
    (determinedCalendar user = some goal.calendarID ∧ goal.user = user ∧ goal.account = account) ∨
      (determinedCalendar user = none ∧
        account.insertCalendar = (goal.account, .ok goal.calendarID) ∧
        goal.user = { user with calendarID := goal.calendarID }) := by
  unfold target at targeted
  split at targeted
  · rename_i determined
    cases targeted
    exact Or.inl ⟨determined, rfl, rfl⟩
  · rename_i undetermined
    split at targeted
    · rename_i created
      cases targeted
      exact Or.inr ⟨undetermined, created, rfl⟩
    · cases targeted

theorem determined_of_target :
    determinedCalendar goal.user = some goal.calendarID := by
  rcases target_cases targeted with ⟨determined, same, _⟩ | ⟨undetermined, created, same⟩
  · rw [same]
    exact determined
  · have dedicated : user.useDedicated = true := by
      cases flag : user.useDedicated with
      | true => rfl
      | false =>
        unfold determinedCalendar at undetermined
        rw [flag] at undetermined
        cases undetermined
    obtain ⟨named, secondary, _⟩ := created_of_insertCalendar created
    rw [same]
    unfold determinedCalendar
    simp [dedicated, named, secondary]

theorem timezone_of_target :
    goal.account.timezone = account.timezone := by
  rcases target_cases targeted with ⟨_, _, same⟩ | ⟨_, created, _⟩
  · rw [same]
  · rw [(created_of_insertCalendar created).2.2]

theorem user_of_target :
    goal.user = { user with calendarID := goal.user.calendarID } := by
  rcases target_cases targeted with ⟨_, same, _⟩ | ⟨_, _, same⟩
  · rw [same]
  · rw [same]

end Targets

/-- A run that is about to synchronize the target. -/
structure Prepared (valkey : Bool) (userID : Int) (before : World) (goal : Target)
    (after : World) : Prop extends RowsKept valkey userID before after where
  account : after.accounts userID = goal.account
  profile : after.profile userID = some goal.user

theorem scanSyncProfile_setCalendarID (calendarID : String) (row : UserRow) :
    scanSyncProfile ((Database.setCalendarID calendarID).apply row) =
      (scanSyncProfile row).map (fun user => { user with calendarID := calendarID }) := by
  unfold scanSyncProfile
  rw [Option.map_map]
  rfl

theorem targetCalendar_undetermined (syncer : Syncer) (userID : Int) (token timezone : String)
    (undetermined : determinedCalendar user = none) :
    syncer.targetCalendar userID token timezone user =
      syncer.createCalendar userID token timezone := by
  unfold determinedCalendar at undetermined
  unfold Syncer.targetCalendar
  split at undetermined
  · rename_i dedicated
    split at undetermined
    · cases undetermined
    · rename_i uncreated
      exact (if_pos dedicated).trans (if_neg uncreated)
  · cases undetermined

/-- A run that goes on with the target, whatever profile was stored or cached. -/
structure Directed (valkey : Bool) (userID : Int) (user : CachedUser) (before : World)
    (goal : Target) (after : World) : Prop extends RowsKept false userID before after where
  account : after.accounts userID = goal.account
  profile : before.profile userID = some user → after.profile userID = some goal.user
  fits : valkey = true → before.ProfileCached userID → after.ProfileCached userID

variable {token : String} {ready : World}

theorem ensures_targetCalendar_directed
    (targeted : target user (ready.accounts userID) = some goal) :
    Ensures (alone servedRemote) (fun found later => found = some goal.calendarID ∧
        Directed syncer.valkey userID user ready goal later)
      (syncer.targetCalendar userID token timezone user) ready := by
  rcases target_cases targeted with ⟨determined, sameUser, sameAccount⟩ |
    ⟨undetermined, created, sameUser⟩
  · rw [Setting.targetCalendar_determined syncer userID token timezone determined]
    refine ⟨rfl, ⟨rfl, rfl, rfl, rfl, rfl, nofun⟩, sameAccount.symm, ?_, fun _ cached => cached⟩
    rw [sameUser]
    exact fun profile => profile
  · rw [targetCalendar_undetermined syncer userID token timezone undetermined]
    apply ensures_handled
    intro answer answered
    change answer = (ready.accounts userID).insertCalendar.2 at answered
    rw [created] at answered
    subst answered
    have account : ((ready.handle (.insertCalendar userID token timezone)).1.accounts userID) =
        goal.account := by
      change update ready.accounts userID (ready.accounts userID).insertCalendar.1 userID
        = goal.account
      rw [update_self, created]
    apply Ensures.bind
    apply ensures_local rfl
    intro _ _
    have adopted : ∀ valkey : Valkey, ready.profile userID = some user → World.profile
          { (World.handle (ready.handle (.insertCalendar userID token timezone)).1
              (.setCalendarID userID goal.calendarID)).1 with valkey := valkey } userID =
          some goal.user := by
      intro valkey profile
      refine (profile_updateUser (scanSyncProfile_setCalendarID goal.calendarID)).trans ?_
      change (ready.profile userID).map _ = _
      rw [profile, sameUser]
      rfl
    apply ensures_ite
    · intro _
      change Ensures _ _ (ask (.deleteCachedUser userID) >>= Program.done) _
      apply ensures_local rfl
      intro _ _
      refine ⟨rfl, ⟨rfl, rfl, rfl, rfl, rfl, nofun⟩, account, adopted _, ?_⟩
      intro _ _ other hit
      change update ready.valkey.users userID none userID = _ at hit
      rw [update_self] at hit
      cases hit
    · intro unconfigured
      exact ⟨rfl, ⟨rfl, rfl, rfl, rfl, rfl, nofun⟩, account,
        adopted ready.valkey, fun configured => absurd configured unconfigured⟩

theorem ensures_targetCalendar_goal (targeted : target user (ready.accounts userID) = some goal)
    (profile : ready.profile userID = some user)
    (cached : syncer.valkey = true → ready.ProfileCached userID) :
    Ensures (alone servedRemote) (fun found later => found = some goal.calendarID ∧
        Prepared syncer.valkey userID ready goal later)
      (syncer.targetCalendar userID token timezone user) ready := by
  refine Ensures.mono ?_ (ensures_targetCalendar_directed targeted)
  intro found later ⟨answered, directed⟩
  exact ⟨answered,
    { contests := directed.contests
      syncedEvents := directed.syncedEvents
      now := directed.now
      syncedCache := directed.syncedCache
      contestsCache := directed.contestsCache
      cached := fun configured => directed.fits configured (cached configured)
      account := directed.account
      profile := directed.profile profile }⟩

/-! ### The body -/

/-- The outcome of a run for a target: its plan, made for a state with the rows
and contests of `before`, is carried out in `after`. -/
structure Carried (userID : Int) (before : World) (goal : Target) (setting : Setting)
    (after : World) : Prop where
  ofUser : setting.userID = userID
  user : setting.user = goal.user
  calendarID : setting.calendarID = goal.calendarID
  account : setting.start.accounts userID = goal.account
  contests : setting.start.database.contests = before.database.contests
  syncedEvents : setting.start.database.syncedEvents = before.database.syncedEvents
  now : setting.start.now = before.now
  reached : setting.Reached after
  settled : setting.plan.Settled (setting.view after)

theorem Carried.profile {setting : Setting} (carried : Carried userID before goal setting after) :
    after.profile userID = some goal.user := by
  obtain ⟨next, found, same⟩ := carried.reached.unchanged.profile setting.row setting.stored
  unfold World.profile
  rw [← carried.ofUser, found, ← carried.user, ← setting.profile, ← same]
  rfl

theorem Carried.alike {next : World}
    {setting : Setting} (carried : Carried userID before goal setting after)
    (alike : Alike valkey userID after next) : Carried userID before goal setting next := by
  have unchanged : Unchanged setting.userID setting.calendarID after next :=
    { contests := alike.contests
      future := fun _ _ => by rw [alike.now]
      profile := by
        intro row found
        have before := carried.profile
        have same := alike.profile.trans before
        rw [carried.ofUser] at found ⊢
        obtain ⟨other, stored, scanned⟩ := Option.bind_eq_some_iff.mp same
        unfold World.profile at before
        rw [found] at before
        exact ⟨other, stored, scanned.trans before.symm⟩
      timezone := by rw [alike.accounts]
      others := fun _ _ => by rw [alike.syncedEvents]
      calendars := fun _ _ => by rw [alike.accounts]
      accounts := fun _ _ => by rw [alike.accounts] }
  have onward : Reaches setting.userID setting.calendarID setting.plan after next :=
    .of_unchanged unchanged alike.syncedEvents alike.accounts
  have same : setting.view next = setting.view after := by
    unfold Setting.view World.snapshot
    rw [alike.syncedEvents, alike.accounts]
  refine { carried with reached := carried.reached.trans onward, settled := ?_ }
  rw [same]
  exact carried.settled

/-- The rows of the user name the events that are computed for their contests,
and no two contests have the same event. -/
structure World.Named (world : World) (userID : Int) (googleID : String) : Prop where
  faithful : world.Faithful userID googleID
  apart : world.EventIDsApart googleID

theorem Prepared.setting (targeted : target user account = some goal)
    (prepared : Prepared valkey userID before goal after)
    (named : before.Named userID user.googleID) :
    ∃ setting : Setting, setting.userID = userID ∧ setting.start = after ∧
      setting.user = goal.user ∧ setting.calendarID = goal.calendarID := by
  obtain ⟨row, stored, scanned⟩ := Option.bind_eq_some_iff.mp prepared.profile
  have sameID : goal.user.googleID = user.googleID := by
    rw [user_of_target targeted]
  have faithful : after.Faithful userID goal.user.googleID := by
    intro tracked member own
    rw [prepared.syncedEvents] at member
    rw [sameID]
    exact named.faithful tracked member own
  have apart : after.EventIDsApart goal.user.googleID := by
    unfold World.EventIDsApart
    rw [prepared.contests, sameID]
    exact named.apart
  exact
    ⟨{ userID := userID
       start := after
       row := row
       user := goal.user
       calendarID := goal.calendarID
       stored := stored
       profile := scanned
       determined := determined_of_target targeted
       faithful := faithful
       apart := apart }, rfl, rfl, rfl, rfl⟩

theorem ensures_syncProfile_goal {after : World → Prop}
    (decrypts : syncer.decryptToken user.refreshToken = some token)
    (targeted : target user (ready.accounts userID) = some goal)
    (profile : ready.profile userID = some user)
    (cached : syncer.valkey = true → ready.ProfileCached userID)
    (body : ∀ prepared, Prepared syncer.valkey userID ready goal prepared →
      Ensures (alone servedRemote) (fun _ => after)
        (syncer.syncCalendar userID token goal.calendarID
          (Syncer.effectiveTimezone goal.account.timezone) goal.user) prepared) :
    Ensures (alone servedRemote) (fun _ => after) (syncer.syncProfile userID user) ready := by
  unfold Syncer.syncProfile
  rw [decrypts]
  apply ensures_handled
  rintro _ rfl
  refine (ensures_targetCalendar_goal targeted profile cached).then ?_
  rintro _ later ⟨rfl, prepared⟩
  have runs := body later prepared
  rw [timezone_of_target targeted] at runs
  have same : syncer.syncCalendar userID token goal.calendarID
      (Syncer.effectiveTimezone (ready.accounts userID).timezone) goal.user =
      syncer.syncCalendar userID token goal.calendarID
        (Syncer.effectiveTimezone (ready.accounts userID).timezone) user := by
    rw [user_of_target targeted]
    rfl
  rw [same] at runs
  exact runs

/-! ### Whole runs -/

structure World.Coherent (world : World) (userID : Int) : Prop where
  profile : world.ProfileCached userID
  contests : world.ContestsCached
  synced : world.SyncedCached userID

/-- Every upcoming contest of a selected platform that the cached list of synced
contests names has a row. -/
def World.UpToDate (world : World) (syncer : Syncer) (userID : Int) : Prop :=
  ∀ user token listed, world.profile userID = some user →
    syncer.decryptToken user.refreshToken = some token →
    world.valkey.syncedEvents userID = some listed →
    ∀ contest, world.Announces contest → contest.platform ∈ user.platforms.getD [] →
      contest.id ∈ listed →
      ∃ row ∈ world.database.syncedEvents.rows, row.userID = userID ∧ row.contestID = contest.id

/-- A run without a usable profile or token does nothing, any other one carries
out its plan. -/
def Ran (syncer : Syncer) (userID : Int) (before after : World) : Prop :=
  (Alike syncer.valkey userID before after ∧ ∀ user, before.profile userID = some user →
    syncer.decryptToken user.refreshToken = none) ∨
  ∃ user token goal setting, before.profile userID = some user ∧
    syncer.decryptToken user.refreshToken = some token ∧
    target user (before.accounts userID) = some goal ∧
    Carried userID before goal setting after

theorem World.Coherent.rowsKept
    (coherent : before.Coherent userID) (kept : RowsKept true userID before after) :
    after.Coherent userID := by
  refine ⟨kept.cached rfl, ?_, ?_⟩
  · intro platform rows hit contest
    rw [kept.contestsCache] at hit
    refine (coherent.contests platform rows hit contest).trans (and_congr_left fun _ => ?_)
    unfold World.Announces
    rw [kept.contests, kept.now]
  · intro listed hit
    rw [kept.syncedCache] at hit
    rw [kept.syncedEvents]
    exact coherent.synced listed hit

section Runs

variable {syncer : Syncer} {userID : Int} {world : World}

theorem Ran.alike {next later : World} (ran : Ran syncer userID world later)
    (alike : Alike syncer.valkey userID later next) : Ran syncer userID world next := by
  rcases ran with ⟨same, unusable⟩ | ⟨user, token, goal, setting, profile, decrypts, targeted,
    carried⟩
  · exact Or.inl ⟨same.trans alike, unusable⟩
  · exact Or.inr ⟨user, token, goal, setting, profile, decrypts, targeted, carried.alike alike⟩

theorem World.Named.rowsKept {valkey : Bool} {googleID : String} {before after : World}
    (named : before.Named userID googleID) (kept : RowsKept valkey userID before after) :
    after.Named userID googleID := by
  refine ⟨?_, ?_⟩
  · unfold World.Faithful
    rw [kept.syncedEvents]
    exact named.faithful
  · unfold World.EventIDsApart
    rw [kept.contests]
    exact named.apart

theorem ensures_syncCalendar_ran {prepared : World}
    (coherent : syncer.valkey = true → world.Coherent userID)
    (upToDate : syncer.valkey = true → world.UpToDate syncer userID)
    (profile : world.profile userID = some user) (named : world.Named userID user.googleID)
    (decrypts : syncer.decryptToken user.refreshToken = some token)
    (targeted : target user (world.accounts userID) = some goal)
    (isPrepared : Prepared syncer.valkey userID world goal prepared) :
    Ensures (alone servedRemote) (fun _ later => Ran syncer userID world later ∧
        (syncer.valkey = true → later.Coherent userID))
      (syncer.syncCalendar userID token goal.calendarID
        (Syncer.effectiveTimezone goal.account.timezone) goal.user) prepared := by
  obtain ⟨setting, rfl, rfl, sameUser, sameCalendar⟩ := isPrepared.setting targeted named
  have carried : ∀ later, setting.Reached later → setting.plan.Settled (setting.view later) →
      Carried setting.userID world goal setting later :=
    fun later reached settled => ⟨rfl, sameUser, sameCalendar, isPrepared.account,
      isPrepared.contests, isPrepared.syncedEvents, isPrepared.now, reached, settled⟩
  rw [← isPrepared.account, ← sameUser, ← sameCalendar]
  change Ensures _ _ (syncer.syncCalendar setting.userID token setting.calendarID
    setting.timezone setting.user) _
  cases configured : syncer.valkey with
  | false =>
    refine Ensures.mono ?_ (setting.ensures_syncCalendar (hosts_alone syncer.process)
      configured token (.refl setting.start))
    rintro _ later ⟨onward, _, complete⟩
    have reached : setting.Reached later := onward.toReaches
    exact ⟨Or.inr ⟨user, token, goal, setting, profile, decrypts, targeted, carried later reached
      ((Setting.between_of_reached reached).settled (complete faultless_alone))⟩,
      nofun⟩
  | true =>
    have kept := isPrepared.toRowsKept
    rw [configured] at kept
    have fits := (coherent configured).rowsKept kept
    refine Ensures.mono ?_ (setting.ensures_syncCalendar_cached configured token fits.contests
      fits.synced ?_)
    · intro _ later refreshed
      have outcome := carried later refreshed.reached refreshed.settled
      refine ⟨Or.inr ⟨user, token, goal, setting, profile, decrypts, targeted, outcome⟩,
        fun _ => ⟨?_, refreshed.contests, refreshed.synced⟩⟩
      intro other hit
      rw [refreshed.profiles] at hit
      rw [outcome.profile, ← isPrepared.profile]
      exact fits.profile other hit
    · intro listed hit contest upcoming member untracked
      rw [kept.syncedCache] at hit
      obtain ⟨row, present, own, atID⟩ := upToDate configured user token listed profile decrypts
        hit contest ⟨kept.contests ▸ upcoming.1, kept.now ▸ upcoming.2.2⟩
        (by
          have chosen := upcoming.2.1
          unfold Setting.selected at chosen
          rw [sameUser, user_of_target targeted] at chosen
          exact chosen) member
      obtain ⟨ofUser, contestID, eventID⟩ := row
      cases own
      cases atID
      rw [← kept.syncedEvents] at present
      cases (World.tracked_eq_some.mpr present).symm.trans untracked

theorem ensures_ran (coherent : syncer.valkey = true → world.Coherent userID)
    (upToDate : syncer.valkey = true → world.UpToDate syncer userID)
    (unlocked : world.Unlocked syncer userID)
    (named : ∀ user, world.profile userID = some user → world.Named userID user.googleID)
    (supplied : ∀ user, world.profile userID = some user →
      target user (world.accounts userID) ≠ none) :
    Ensures (alone servedRemote) (fun _ later => (Ran syncer userID world later ∧
        (syncer.valkey = true → later.Coherent userID)) ∧ later.Unlocked syncer userID)
      (syncer.syncUser userID) world := by
  have still : ∀ before after, (syncer.valkey = true → before.Coherent userID) →
      Alike syncer.valkey userID before after → syncer.valkey = true → after.Coherent userID := by
    intro before after holds alike configured
    have kept := alike.toRowsKept
    rw [configured] at kept
    exact (holds configured).rowsKept kept
  refine ensures_syncUser_around (fun configured => (coherent configured).profile) unlocked
    ?_ ?_ (fun later reached configured => (reached.2 configured).profile)
    (fun later next reached alike => ⟨reached.1.alike alike, still later next reached.2 alike⟩)
  · intro ready alike missing
    refine ⟨Or.inl ⟨alike, ?_⟩, still world ready coherent alike⟩
    intro user profile
    rw [missing] at profile
    cases profile
  · intro ready user alike profile
    cases decrypts : syncer.decryptToken user.refreshToken with
    | none =>
      unfold Syncer.syncProfile
      rw [decrypts]
      refine ⟨Or.inl ⟨alike, ?_⟩, still world ready coherent alike⟩
      intro other otherProfile
      cases profile.symm.trans otherProfile
      exact decrypts
    | some token =>
      obtain ⟨goal, targeted⟩ := Option.ne_none_iff_exists'.mp (supplied user profile)
      have readyTarget : target user (ready.accounts userID) = some goal := by
        rw [alike.accounts]
        exact targeted
      refine ensures_syncProfile_goal decrypts readyTarget (alike.profile.trans profile)
        alike.cached ?_
      intro prepared isPrepared
      exact ensures_syncCalendar_ran coherent upToDate profile (named user profile) decrypts
        targeted ⟨alike.toRowsKept.trans isPrepared.toRowsKept, isPrepared.account,
          isPrepared.profile⟩

end Runs

/-! ### SavePreferences -/

def savedProfile (requested : Option (List String)) (useDedicated : Bool) (user : CachedUser) :
    CachedUser :=
  if (∃ platform ∈ requested.getD [], platform ∉ platforms) ∨
      Handlers.preferencesChanged requested useDedicated user = false then user
  else
    { user with
      platforms := requested
      useDedicated := useDedicated
      calendarID := if useDedicated then user.calendarID else "" }

theorem scanSyncProfile_updatePreferences (requested : Option (List String)) (useDedicated : Bool)
    (row : UserRow) :
    scanSyncProfile ((Database.updatePreferences requested useDedicated).apply row) =
      (scanSyncProfile row).map (fun user =>
        { user with
          platforms := requested
          useDedicated := useDedicated
          calendarID := if useDedicated then user.calendarID else "" }) := by
  unfold scanSyncProfile
  rw [Option.map_map]
  cases useDedicated <;> rfl

theorem ensures_savedProfile {requested : Option (List String)} {useDedicated : Bool}
    {remote : Request → Outcome → Prop} (cached : valkey = true → world.ProfileCached userID) :
    Ensures (alone remote)
      (fun _ later => RowsKept valkey userID world later ∧ later.accounts = world.accounts ∧
        later.profile userID = (world.profile userID).map (savedProfile requested useDedicated) ∧
        later.valkey.locks = world.valkey.locks ∧ later.syncing = world.syncing)
      (Handlers.savePreferences ⟨valkey⟩ userID requested useDedicated) world := by
  have unsaved : ∀ later, Alike valkey userID world later →
      later.valkey.locks = world.valkey.locks → later.syncing = world.syncing →
      (∀ user, world.profile userID = some user → savedProfile requested useDedicated user = user) →
      RowsKept valkey userID world later ∧ later.accounts = world.accounts ∧
        later.profile userID = (world.profile userID).map (savedProfile requested useDedicated) ∧
        later.valkey.locks = world.valkey.locks ∧ later.syncing = world.syncing := by
    intro later alike locks syncing same
    refine ⟨alike.toRowsKept, alike.accounts, alike.profile.trans ?_, locks, syncing⟩
    cases profile : world.profile userID with
    | none => rfl
    | some user => rw [Option.map_some, same user profile]
  apply ensures_ite
  · intro invalid
    exact unsaved world (.refl cached) rfl rfl (fun _ _ => if_pos (Or.inl invalid))
  · intro valid
    refine (ensures_loadSyncProfile cached).then ?_
    rintro found loaded ⟨read, loading, locks, syncing⟩
    cases found with
    | none =>
      refine unsaved loaded loading locks syncing ?_
      intro user profile
      cases read.trans profile
    | some user =>
      apply ensures_ite
      · intro changed
        have saved : savedProfile requested useDedicated user =
            { user with
              platforms := requested
              useDedicated := useDedicated
              calendarID := if useDedicated then user.calendarID else "" } := by
          unfold savedProfile
          rw [if_neg]
          rintro (invalid | unchanged)
          · exact valid invalid
          · rw [changed] at unchanged
            cases unchanged
        apply ensures_local rfl
        rintro _ rfl
        have stored : ∀ valkey : Valkey, World.profile
            { (loaded.handle (.updatePreferences userID requested useDedicated)).1 with
              valkey := valkey } userID =
            (world.profile userID).map (savedProfile requested useDedicated) := by
          intro valkey
          refine (profile_updateUser
            (scanSyncProfile_updatePreferences requested useDedicated)).trans ?_
          rw [loading.profile, ← read, Option.map_some, Option.map_some, saved]
        refine ensures_ite (fun _ => ?_) (fun failed => absurd rfl failed)
        apply ensures_ite
        · intro _
          apply ensures_local rfl
          intro _ _
          refine ⟨⟨loading.contests, loading.syncedEvents, loading.now, loading.syncedCache,
            loading.contestsCache, ?_⟩, loading.accounts, stored _, locks, syncing⟩
          intro _ other hit
          change update loaded.valkey.users userID none userID = _ at hit
          rw [update_self] at hit
          cases hit
        · intro unconfigured
          exact ⟨⟨loading.contests, loading.syncedEvents, loading.now, loading.syncedCache,
            loading.contestsCache, fun configured => absurd configured unconfigured⟩,
            loading.accounts, stored loaded.valkey, locks, syncing⟩
      · intro unchanged
        refine unsaved loaded loading locks syncing ?_
        intro other profile
        cases read.trans profile
        exact if_pos (Or.inr (Bool.eq_false_of_not_eq_true unchanged))

end ContestSync
