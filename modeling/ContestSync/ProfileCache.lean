/-
The cached profile against the row it was read from. `Me` reads every field of
a profile, while `SyncUser` and `SavePreferences` fill the cache from a query
that does not select `has_calendar_access`, and `PruneOldData` removes rows
without looking at the cache. Everything else keeps the two in agreement.
-/

import ContestSync.Histories
import ContestSync.Footprints

namespace ContestSync

open Resumable Program Handlers

namespace World

/-- What `Me` would answer from the cache is what it would answer without. -/
def AgreesAt (world : World) (userID : Int) : Prop :=
  ∀ user, world.valkey.users userID = some user →
    ∃ row, world.database.users.find userID = some row ∧
      userResponse user = userResponse (scanMe row)

def Agrees (world : World) : Prop :=
  ∀ userID, world.AgreesAt userID

def AgreesBut (world : World) (userID : Int) : Prop :=
  ∀ other, other ≠ userID → world.AgreesAt other

/-- The profile is not cached, and the query of `loadSyncProfile` would lose
that the user has granted access to the calendar. -/
def Forgets (world : World) (userID : Int) (profile : CachedUser) : Prop :=
  world.valkey.users userID = none ∧
    ∃ row, world.database.users.find userID = some row ∧ row.hasCalendarAccess = true ∧
      scanSyncProfile row = some profile

theorem AgreesAt.congr {before after : World} {userID : Int} (agrees : before.AgreesAt userID)
    (cached : after.valkey.users userID = before.valkey.users userID ∨
      after.valkey.users userID = none)
    (stored : after.database.users.find userID = before.database.users.find userID) :
    after.AgreesAt userID := by
  intro user hit
  rcases cached with same | expired
  · rw [same] at hit
    rw [stored]
    exact agrees user hit
  · rw [expired] at hit
    cases hit

end World

/-! ### Requests -/

namespace World

variable {world : World} {userID : Int}

theorem Agrees.quiet (agrees : world.Agrees) {request : Request}
    (users : request.writes .users = false) (profiles : request.writes .profiles = false) :
    (world.handle request).1.Agrees := by
  have frame := frame_handle world request
  intro userID
  exact (agrees userID).congr (Or.inl (congrFun (frame.profiles profiles) userID))
    (by rw [frame.users users])

theorem Agrees.but (agrees : world.Agrees) (userID : Int) :
    world.AgreesBut userID :=
  fun other _ => agrees other

theorem AgreesBut.close (others : world.AgreesBut userID)
    (own : world.AgreesAt userID) : world.Agrees := by
  intro other
  by_cases same : other = userID
  · rw [same]
    exact own
  · exact others other same

theorem AgreesBut.update {after : World} {profile : Option CachedUser}
    (agrees : world.AgreesBut userID)
    (cached : after.valkey.users = Function.update world.valkey.users userID profile)
    (stored : after.database.users = world.database.users) : after.AgreesBut userID := by
  intro other different
  refine (agrees other different).congr (Or.inl ?_) (by rw [stored])
  rw [cached, Function.update_of_ne different]

theorem AgreesBut.deleteCachedUser (agrees : world.AgreesBut userID) :
    (world.handle (.deleteCachedUser userID)).1.Agrees := by
  have cached : (world.handle (.deleteCachedUser userID)).1.valkey.users =
      Function.update world.valkey.users userID none := rfl
  refine (agrees.update cached rfl).close ?_
  intro user hit
  rw [cached, Function.update_self] at hit
  cases hit

theorem AgreesBut.setCachedUser {profile : CachedUser}
    {row : UserRow} (agrees : world.AgreesBut userID)
    (found : world.database.users.find userID = some row)
    (answers : userResponse profile = userResponse (scanMe row)) :
    (world.handle (.setCachedUser userID profile)).1.Agrees := by
  have cached : (world.handle (.setCachedUser userID profile)).1.valkey.users =
      Function.update world.valkey.users userID (some profile) := rfl
  refine (agrees.update cached rfl).close ?_
  intro user hit
  rw [cached, Function.update_self] at hit
  cases hit
  exact ⟨row, found, answers⟩

theorem Agrees.updateUser (agrees : world.Agrees) (userID : Int) (change : Database.UserChange)
    (same : ∀ row, userResponse (scanMe (change.apply row)) = userResponse (scanMe row)) :
    (world.setDatabase (world.database.updateUser userID change)).Agrees := by
  intro other user hit
  obtain ⟨row, found, answers⟩ := agrees other user hit
  change ∃ row, (world.database.updateUser userID change).users.find other = some row ∧ _
  rw [Database.find_updateUser, found]
  split
  · exact ⟨_, rfl, answers.trans (same row).symm⟩
  · exact ⟨row, rfl, answers⟩

theorem Agrees.setDatabase (agrees : world.Agrees) {database : Database}
    (others : ∀ other, other ≠ userID →
      database.users.find other = world.database.users.find other) :
    (world.setDatabase database).AgreesBut userID := by
  intro other different
  exact (agrees other).congr (Or.inl rfl) (others other different)

end World

section Programs

variable {world : World} {syncer : Syncer} {userID : Int} {remote : Request → Outcome → Prop}

theorem maintains_agrees {request : Request} (users : request.writes .users = false)
    (profiles : request.writes .profiles = false) :
    Maintains (alone remote) World.Agrees (ask request) :=
  maintains_ask (fun _ agrees => agrees.quiet users profiles)

theorem maintains_agrees_deleteCachedUser (userID : Int) :
    Maintains (alone remote) World.Agrees (ask (.deleteCachedUser userID)) :=
  maintains_ask (fun _ agrees => (agrees.but userID).deleteCachedUser)

theorem ensures_agrees_deleteCachedUser {α : Type} (value : α) (agrees : world.AgreesBut userID) :
    Ensures (alone remote) (fun _ => World.Agrees)
      (do
        ask (.deleteCachedUser userID)
        return value) world :=
  ensures_local rfl (fun _ _ => agrees.deleteCachedUser)

/-! ### The profile of SyncUser and SavePreferences -/

theorem userResponse_scanSyncProfile {row : UserRow} {profile : CachedUser}
    (scanned : scanSyncProfile row = some profile) (denied : row.hasCalendarAccess = false) :
    userResponse profile = userResponse (scanMe row) := by
  unfold scanSyncProfile at scanned
  obtain ⟨token, stored, rfl⟩ := Option.map_eq_some_iff.mp scanned
  simp [userResponse, scanMe, stored, denied]

/-- Loading a profile keeps the agreement, except that of the loaded profile
when the query forgets the access that was granted. -/
theorem ensures_agrees_loadSyncProfile (agrees : world.Agrees) :
    Ensures (alone remote) (fun found later => later.AgreesBut userID ∧
        ((∀ profile, ¬world.Forgets userID profile) → later.Agrees) ∧
        ∀ profile, world.Forgets userID profile → found = some profile)
      (loadSyncProfile true userID) world := by
  have kept : ∀ found : Option CachedUser, (∀ profile, ¬world.Forgets userID profile) →
      world.AgreesBut userID ∧ ((∀ profile, ¬world.Forgets userID profile) → world.Agrees) ∧
        ∀ profile, world.Forgets userID profile → found = some profile :=
    fun _ mindful => ⟨agrees.but userID, fun _ => agrees,
      fun profile forgets => absurd forgets (mindful profile)⟩
  apply ensures_local rfl
  intro cached answered
  cases cached with
  | some user =>
    refine kept _ ?_
    rintro profile ⟨missed, _⟩
    cases (answered.trans missed)
  | none =>
    apply ensures_selectUser
    · intro absent
      refine kept _ ?_
      rintro profile ⟨_, row, stored, _⟩
      cases absent.symm.trans stored
    · intro row found
      change Ensures _ _ (fillProfile true userID (scanSyncProfile row)) world
      cases scanned : scanSyncProfile row with
      | none =>
        refine kept _ ?_
        rintro profile ⟨_, other, stored, _, scannedOther⟩
        cases found.symm.trans stored
        cases scanned.symm.trans scannedOther
      | some profile =>
        apply ensures_local rfl
        intro _ _
        refine ⟨(agrees.but userID).update rfl rfl, ?_, ?_⟩
        · intro mindful
          refine (agrees.but userID).setCachedUser found (userResponse_scanSyncProfile scanned ?_)
          cases granted : row.hasCalendarAccess with
          | false => rfl
          | true =>
            exact absurd ⟨answered.symm, row, found, granted, scanned⟩ (mindful profile)
        · rintro other ⟨_, stored, foundStored, _, scannedOther⟩
          cases found.symm.trans foundStored
          cases scanned.symm.trans scannedOther
          rfl

/-! ### SyncUser -/

theorem maintains_agrees_handleSyncError (token : String) (error : GoogleError)
    (configured : syncer.valkey = true) :
    Maintains (alone remote) World.Agrees (syncer.handleSyncError userID token error) := by
  apply maintains_ite
  · intro _ world agrees
    apply ensures_local rfl
    intro _ _
    rw [configured]
    apply ensures_agrees_deleteCachedUser
    apply agrees.setDatabase
    intro other different
    exact Database.find_deleteUser_other different
  · exact fun _ => maintains_done _

theorem maintains_agrees_syncProfile (configured : syncer.valkey = true) (user : CachedUser) :
    Maintains (alone remote) World.Agrees (syncer.syncProfile userID user) := by
  have drops : ∀ token error, Maintains (alone remote) World.Agrees
      (syncer.handleSyncError userID token error) :=
    fun token error => maintains_agrees_handleSyncError token error configured
  apply Syncer.maintains_syncProfile
  · exact fun token => maintains_agrees rfl rfl
  · exact fun token timezone _ => Syncer.maintains_targetCalendar (maintains_agrees rfl rfl)
      (fun calendarID => Syncer.maintains_adoptCalendar
        (maintains_ask (fun _ agrees => agrees.updateUser userID _ (fun _ => rfl)))
        (maintains_agrees_deleteCachedUser userID))
      (drops token)
  · intro token calendarID timezone _
    apply Syncer.maintains_syncCalendar (fun _ => True)
    · apply Syncer.maintains_cleanup (fun _ => True)
        (Maintains.yields (maintains_agrees rfl rfl) (fun _ _ _ _ _ => trivial))
      exact fun item _ _ =>
        Syncer.maintains_removeTracked (maintains_agrees rfl rfl) (maintains_agrees rfl rfl)
    · exact Syncer.maintains_loadSynced (maintains_agrees rfl rfl) (maintains_agrees rfl rfl)
        (fun _ => maintains_agrees rfl rfl)
    · exact Syncer.yields_loadContests (fun _ => True)
        (fun _ _ => Maintains.yields (maintains_agrees rfl rfl) (fun _ _ _ _ _ => trivial))
        (fun _ => Maintains.yields (maintains_agrees rfl rfl) (fun _ _ _ _ _ => trivial))
        (fun _ _ _ => maintains_agrees rfl rfl)
    · exact fun anySynced contest _ => Syncer.maintains_syncContest (fun _ => True) trivial
        anySynced (Maintains.yields (maintains_agrees rfl rfl) (fun _ _ _ => trivial))
        (maintains_agrees rfl rfl) (fun _ _ => maintains_agrees rfl rfl) (drops token)
    · exact maintains_agrees rfl rfl
  · exact fun token error _ => drops token error

theorem maintains_agrees_syncLoaded (configured : syncer.valkey = true) (user : CachedUser) :
    Maintains (alone remote) World.Agrees (syncer.syncLoaded userID user) := by
  intro world agrees
  refine Syncer.ensures_syncLoaded ?_ (maintains_agrees_syncProfile configured user) ?_
    (maintains_agrees rfl rfl) agrees
  · exact maintains_ask (fun _ agrees => agrees.updateUser userID _ (fun _ => rfl))
  · exact fun status => maintains_ask (fun _ agrees => agrees.updateUser userID _ (fun _ => rfl))

theorem ensures_agrees_syncUser (configured : syncer.valkey = true)
    (mindful : world.valkey.locks userID = true ∨ ∀ profile, ¬world.Forgets userID profile)
    (agrees : world.Agrees) :
    Ensures (alone remote) (fun _ => World.Agrees) (syncer.syncUser userID) world := by
  have loaded : ∀ ready : World, ready.Agrees → (∀ profile, ¬ready.Forgets userID profile) →
      Ensures (alone remote) (fun _ => World.Agrees) (syncer.syncLocked userID) ready := by
    intro ready agreesReady mindfulReady
    apply Ensures.bind
    unfold Syncer.loadProfile
    rw [configured]
    refine Ensures.mono ?_ (ensures_agrees_loadSyncProfile agreesReady)
    rintro found later ⟨_, kept, _⟩
    cases found with
    | none => exact kept mindfulReady
    | some user => exact maintains_agrees_syncLoaded configured user later (kept mindfulReady)
  unfold Syncer.syncUser
  rw [configured]
  apply ensures_local rfl
  intro answer answered
  have quiet : (world.handle (.lockKey userID)).1.Agrees := agrees.quiet rfl rfl
  unfold World.handle at answered quiet ⊢
  cases held : world.valkey.locks userID with
  | true =>
    simp only [held, if_true] at answered quiet ⊢
    subst answered
    exact quiet
  | false =>
    simp only [held, Bool.false_eq_true, if_false] at answered quiet ⊢
    subst answered
    apply Ensures.bind
    refine Ensures.mono ?_ (loaded _ quiet ?_)
    · intro result later kept
      exact (maintains_agrees rfl rfl).map later kept
    · refine mindful.resolve_left ?_
      rw [held]
      exact Bool.false_ne_true

/-! ### The handlers -/

theorem ensures_agrees_googleCallback (login : Login) (agrees : world.Agrees) :
    Ensures (alone remote) (fun _ => World.Agrees) (googleCallback ⟨true⟩ login) world := by
  apply ensures_local rfl
  rintro _ rfl
  apply ensures_local rfl
  intro _ _
  have others : (world.handle (.upsertUser login)).1.AgreesBut _ :=
    agrees.setDatabase (fun other different => Database.find_upsertUser_other different)
  refine maintains_ite ?_ ?_ _ others.deleteCachedUser
  · intro _
    exact (maintains_agrees rfl rfl).map
  · exact fun _ => maintains_done _

theorem ensures_agrees_me (agrees : world.Agrees) :
    Ensures (alone remote) (fun _ => World.Agrees) (me ⟨true⟩ userID) world := by
  apply ensures_local rfl
  intro cached _
  cases cached with
  | some user => exact agrees
  | none =>
    apply ensures_selectUser
    · exact fun _ => agrees
    · intro row found
      apply ensures_local rfl
      intro _ _
      exact (agrees.but userID).setCachedUser found rfl

theorem ensures_agrees_savePreferences {requested : Option (List String)} {useDedicated : Bool}
    (mindful : ∀ profile, world.Forgets userID profile →
      (∃ platform ∈ requested.getD [], platform ∉ platforms) ∨
        preferencesChanged requested useDedicated profile = true)
    (agrees : world.Agrees) :
    Ensures (alone remote) (fun _ => World.Agrees)
      (savePreferences ⟨true⟩ userID requested useDedicated) world := by
  apply ensures_ite
  · exact fun _ => agrees
  · intro valid
    refine (ensures_agrees_loadSyncProfile agrees).then ?_
    rintro found later ⟨others, kept, forgotten⟩
    have unchanged : (∀ profile, found = some profile →
        preferencesChanged requested useDedicated profile = false) → later.Agrees := by
      intro same
      apply kept
      intro profile forgets
      have changed := (mindful profile forgets).resolve_left valid
      rw [same profile (forgotten profile forgets)] at changed
      cases changed
    cases found with
    | none => exact unchanged (by intro profile impossible; cases impossible)
    | some user =>
      apply ensures_ite
      · intro _
        apply ensures_local rfl
        rintro _ rfl
        apply ensures_agrees_deleteCachedUser
        intro other different
        refine (others other different).congr (Or.inl rfl) ?_
        change (later.database.updateUser userID _).users.find other = _
        rw [Database.find_updateUser, if_neg different]
      · intro same
        refine unchanged ?_
        rintro profile ⟨⟩
        exact Bool.eq_false_iff.mpr same

theorem ensures_agrees_deleteAccount (agrees : world.Agrees) :
    Ensures (alone remote) (fun _ => World.Agrees) (deleteAccount ⟨true⟩ userID) world := by
  have deletes : Ensures (alone remote) (fun _ => World.Agrees) (do
      if ← ask (.deleteUser userID none) then
        ask (.deleteCachedUser userID)
        return Handlers.DeleteResponse.deleted
      else
        return .internalError) world := by
    apply ensures_local rfl
    rintro _ rfl
    exact ensures_agrees_deleteCachedUser _ (agrees.setDatabase
      (fun other different => Database.find_deleteUser_other different))
  apply ensures_selectUser
  · exact fun _ => agrees
  · exact fun _ _ => deletes

theorem ensures_agrees_pruneOldData
    (uncached : ∀ user ∈ world.database.users.rows, user.refreshToken.getD "" = "" →
      user.createdAt < world.now - Database.dayInterval → world.valkey.users user.id = none)
    (agrees : world.Agrees) :
    Ensures (alone remote) (fun _ => World.Agrees) (pruneOldData true) world := by
  apply ensures_local rfl
  intro _ _
  apply ensures_local rfl
  intro _ _
  refine maintains_each (fun platform _ => maintains_agrees rfl rfl) _ ?_
  intro userID user hit
  obtain ⟨row, found, answers⟩ := agrees userID user hit
  refine ⟨row, ?_, answers⟩
  change (Database.deleteUsers _ _).users.find userID = _
  rw [Database.find_deleteUsers, show
    ((world.handle .pruneEnded).1.database.users.find userID) = some row from found,
    Option.filter_eq_some_iff]
  refine ⟨rfl, ?_⟩
  obtain ⟨member, rfl⟩ := Keyed.Table.find_eq_some_iff.mp found
  rw [Bool.not_eq_true', decide_eq_false_iff_not]
  rintro ⟨empty, old⟩
  cases (uncached row member empty old).symm.trans hit

end Programs

/-! ### Histories -/

/-- What each operation has to find so that the profiles stay in agreement. -/
def KeepsProfiles (world : World) (_remote : Request → Outcome → Prop) : Operation → Prop
  | .savePreferences userID requested useDedicated =>
    ∀ profile, world.Forgets userID profile →
      (∃ platform ∈ requested.getD [], platform ∉ platforms) ∨
        preferencesChanged requested useDedicated profile = true
  | .syncUser userID =>
    world.valkey.locks userID = true ∨ ∀ profile, ¬world.Forgets userID profile
  | .pruneOldData =>
    ∀ user ∈ world.database.users.rows, user.refreshToken.getD "" = "" →
      user.createdAt < world.now - Database.dayInterval → world.valkey.users user.id = none
  | _ => True

theorem ensures_agrees_operation {syncer : Syncer} (configured : syncer.valkey = true)
    (world : World) (remote : Request → Outcome → Prop) (operation : Operation)
    (permitted : KeepsProfiles world remote operation) (agrees : world.Agrees) :
    Ensures (alone remote) (fun _ => World.Agrees) (operation.program syncer) world := by
  unfold Operation.program
  rw [configured]
  cases operation with
  | googleCallback login => exact ensures_discard (ensures_agrees_googleCallback login agrees)
  | me userID => exact ensures_discard (ensures_agrees_me agrees)
  | savePreferences userID requested useDedicated =>
    exact ensures_discard (ensures_agrees_savePreferences permitted agrees)
  | syncUser userID => exact ensures_discard (ensures_agrees_syncUser configured permitted agrees)
  | deleteAccount userID _ => exact ensures_discard (ensures_agrees_deleteAccount agrees)
  | pruneOldData => exact ensures_agrees_pruneOldData permitted agrees
  | handleExtraction platform fetched =>
    exact ensures_discard (maintains_handleExtraction (fun _ => maintains_agrees rfl rfl)
      (fun _ _ => maintains_agrees rfl rfl) (maintains_agrees rfl rfl) world agrees)

/-- The answer of `Me` when every call is served. -/
def World.meResponse (world : World) (valkey : Bool) (userID : Int) :
    Option Handlers.UserResponse :=
  (complete environment (fun _ _ => .served) (me ⟨valkey⟩ userID) world).2

theorem World.Agrees.meResponse {world : World} (agrees : world.Agrees) (userID : Int) :
    world.meResponse true userID = world.meResponse false userID := by
  cases found : world.database.users.find userID with
  | none =>
    cases cached : world.valkey.users userID with
    | none =>
      simp [World.meResponse, me, selectMe, complete, World.serve, World.handle, found, cached]
    | some user =>
      obtain ⟨row, stored, _⟩ := agrees userID user cached
      cases found.symm.trans stored
  | some row =>
    cases cached : world.valkey.users userID with
    | none =>
      simp [World.meResponse, me, selectMe, complete, World.serve, World.handle, found, cached]
    | some user =>
      obtain ⟨stored, foundStored, answers⟩ := agrees userID user cached
      cases found.symm.trans foundStored
      simp [World.meResponse, me, selectMe, complete, World.serve, World.handle, found, cached,
        answers]

/-- The answer of `Me` does not depend on the cache after any history in which
the access of a user was not forgotten and no cached user was pruned. -/
theorem meResponse_after_history {syncer : Syncer} (configured : syncer.valkey = true)
    {first last : World} (uncached : ∀ userID, first.valkey.users userID = none)
    (history : History syncer KeepsProfiles first last) (userID : Int) :
    last.meResponse true userID = last.meResponse false userID := by
  have agrees : last.Agrees := by
    refine history.keeps World.Agrees ?_ (fun _ _ _ _ _ _ agrees => agrees) ?_ ?_
    · intro before after remote operation permitted run agrees
      exact (ensures_agrees_operation configured before remote operation permitted agrees).runs run
    · intro before after lapse agrees other
      exact (agrees other).congr (lapse.users other) (by rw [lapse.database])
    · intro other user hit
      rw [uncached other] at hit
      cases hit
  exact agrees.meResponse userID

theorem meResponse_after_first_sync :
    (replay cachingSyncer [.googleCallback sampleLogin, .me 1, .syncUser 1]
        emptyWorld).meResponse true 1 =
      (replay cachingSyncer [.googleCallback sampleLogin, .me 1, .syncUser 1]
        emptyWorld).meResponse false 1 := by
  refine meResponse_after_history rfl (fun _ => rfl)
    (history_replay [.googleCallback sampleLogin, .me 1, .syncUser 1]
      ⟨trivial, trivial, Or.inr ?_, trivial⟩) 1
  rintro profile ⟨missed, _⟩
  exact absurd missed (by decide +kernel)

def ungrantedLogin : Login :=
  { googleID := "1081"
    email := "other@example.com"
    refreshToken := ""
    hasCalendarAccess := false }

def dayLater (world : World) : World :=
  { world with now := world.now + (Database.dayInterval + 1) }

theorem lapse_dayLater (world : World) : Lapse world (dayLater world) :=
  { database := rfl
    accounts := rfl
    syncing := rfl
    now := Int.le_add_of_nonneg_right (by decide)
    users := fun _ => Or.inl rfl
    syncedEvents := fun _ => Or.inl rfl
    contests := fun _ => Or.inl rfl
    locks := fun _ held => held }

/-- The two histories that disagree: a first run of `SyncUser` caches a profile
without the access that was granted, and a cached user without a token is
pruned a day later. -/
theorem meResponse_disagrees :
    (∃ last, History cachingSyncer (fun _ _ _ => True) emptyWorld last ∧
      last.meResponse true 1 ≠ last.meResponse false 1) ∧
    ∃ last, History cachingSyncer (fun _ _ _ => True) emptyWorld last ∧
      last.meResponse true 1 ≠ none ∧ last.meResponse false 1 = none := by
  constructor
  · refine ⟨_, history_replay [.googleCallback sampleLogin, .syncUser 1]
      ⟨trivial, trivial, trivial⟩, ?_⟩
    decide +kernel
  · have cached : History cachingSyncer (fun _ _ _ => True) emptyWorld _ :=
      history_replay [.googleCallback ungrantedLogin, .me 1] ⟨trivial, trivial, trivial⟩
    refine ⟨_, (cached.tail (Or.inr (lapse_dayLater _))).trans
      (history_replay [.pruneOldData] ⟨trivial, trivial⟩), ?_, ?_⟩
    · decide +kernel
    · decide +kernel

end ContestSync
