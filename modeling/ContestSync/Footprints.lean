/-
The requests that the operations of the service are made of. An invariant of an
operation, for whatever specification, follows from what it means for single
requests and for the few places where two requests belong together: taking an
event down and forgetting its row, deleting an account and its cached profile,
adopting a new calendar. Where a later request repeats what an earlier one
answered, a predicate says what is known of the answer.
-/

import ContestSync.Handlers
import ContestSync.RequestFrames
import ContestSync.Resumable.Specification

namespace ContestSync

open Resumable Program

variable {S : Type} {spec : Specification service S} {invariant : S → Prop}

/-! ### The profile -/

/-- The requests that read or change a profile, or create a calendar for it. -/
def Request.profiled : Request → Bool
  | .getCachedUser _ => true
  | .setCachedUser _ _ => true
  | .deleteCachedUser _ => true
  | .selectUser _ => true
  | .setCalendarID _ _ => true
  | .updatePreferences _ _ _ => true
  | .upsertUser _ => true
  | .deleteUser _ _ => true
  | .pruneUsers => true
  | .insertCalendar _ _ _ => true
  | _ => false

/-- The requests that take or release a lock. -/
def Request.locking : Request → Bool
  | .lockUser _ _ => true
  | .unlockUser _ _ => true
  | .lockKey _ => true
  | .unlockKey _ => true
  | _ => false

variable {valkey : Bool} {userID : Int}

theorem yields_loadSyncProfile (profiles : CachedUser → Prop)
    (cached : valkey = true → Yields spec invariant
      (fun answer => ∀ user, answer = some user → profiles user) (ask (.getCachedUser userID)))
    (selects : Yields spec invariant
      (fun answer => ∀ row user, answer = some (some row) → scanSyncProfile row = some user →
        profiles user) (ask (.selectUser userID)))
    (fills : ∀ user, profiles user → Maintains spec invariant (ask (.setCachedUser userID user))) :
    Yields spec invariant (fun found => ∀ user, found = some user → profiles user)
      (loadSyncProfile valkey userID) := by
  have nothing : Yields spec invariant (fun found => ∀ user, found = some user → profiles user)
      (.done none) := yields_done nofun
  have found : ∀ user, profiles user → Yields spec invariant
      (fun found => ∀ user, found = some user → profiles user) (.done (some user)) :=
    fun user known => yields_done (fun _ same => Option.some.inj same ▸ known)
  have missed : Yields spec invariant (fun found => ∀ user, found = some user → profiles user)
      (selectProfile valkey userID) := by
    apply selects.bind
    intro answer known
    cases answer with
    | none => exact nothing
    | some stored =>
      cases stored with
      | none => exact nothing
      | some row =>
        change Yields spec invariant _ (fillProfile valkey userID (scanSyncProfile row))
        cases scanned : scanSyncProfile row with
        | none => exact nothing
        | some user =>
          have fit := known row user rfl scanned
          apply yields_ite
          · intro _
            exact ((fills user fit).yields (fun _ => trivial)).bind (fun _ _ => found user fit)
          · exact fun _ => found user fit
  apply yields_ite
  · intro configured
    apply (cached configured).bind
    intro hit known
    cases hit with
    | some user => exact found user (known user rfl)
    | none => exact missed
  · exact fun _ => missed

theorem maintains_loadSyncProfile (gets : Maintains spec invariant (ask (.getCachedUser userID)))
    (selects : Maintains spec invariant (ask (.selectUser userID)))
    (fills : ∀ user, Maintains spec invariant (ask (.setCachedUser userID user))) :
    Maintains spec invariant (loadSyncProfile valkey userID) :=
  (yields_loadSyncProfile (fun _ => True) (fun _ => gets.yields (fun _ _ _ => trivial))
    (selects.yields (fun _ _ _ _ _ => trivial)) (fun user _ => fills user)).maintains

/-- Loading for assertions that change with the profile: what holds before it
has been read, and what holds once a profile has. -/
theorem ensures_loadSyncProfile_read (unread : S → Prop)
    (read : CachedUser → S → Prop) (gets : ∀ state, unread state → Ensures spec
      (fun answer later => (answer = none → unread later) ∧
        ∀ user, answer = some user → read user later) (ask (.getCachedUser userID)) state)
    (selects : ∀ state, unread state → Ensures spec
      (fun answer later => ∀ row user, answer = some (some row) →
        scanSyncProfile row = some user → read user later) (ask (.selectUser userID)) state)
    (fills : ∀ user, Maintains spec (read user) (ask (.setCachedUser userID user)))
    {state : S} (holds : unread state) :
    Ensures spec (fun found later => ∀ user, found = some user → read user later)
      (loadSyncProfile valkey userID) state := by
  have found : ∀ user ready, read user ready → Ensures spec
      (fun found later => ∀ user, found = some user → read user later)
      (.done (some user)) ready :=
    fun user ready known _ same => Option.some.inj same ▸ known
  have missed : ∀ ready, unread ready → Ensures spec
      (fun found later => ∀ user, found = some user → read user later)
      (selectProfile valkey userID) ready := by
    intro ready fresh
    refine (selects ready fresh).then ?_
    intro answer later known
    cases answer with
    | none => exact nofun
    | some stored =>
      cases stored with
      | none => exact nofun
      | some row =>
        change Ensures spec _ (fillProfile valkey userID (scanSyncProfile row)) later
        cases scanned : scanSyncProfile row with
        | none => exact nofun
        | some user =>
          have kept := known row user rfl scanned
          apply ensures_ite
          · intro _
            refine (fills user later kept).then ?_
            exact fun _ => found user
          · exact fun _ => found user later kept
  apply ensures_ite
  · intro _
    refine (gets state holds).then ?_
    rintro hit later ⟨absent, known⟩
    cases hit with
    | some user => exact found user later (known user rfl)
    | none => exact missed later (absent rfl)
  · exact fun _ => missed state holds

/-! ### SyncUser -/

namespace Syncer

variable {syncer : Syncer} {userID : Int} {token calendarID timezone googleID : String}

theorem maintains_deleteAttempts {eventID : String}
    (deletes : Maintains spec invariant (ask (.deleteEvent userID token calendarID eventID))) :
    Maintains spec invariant (retry (deleteAttempt userID token calendarID eventID) 2) := by
  apply maintains_retry
  apply deletes.bind
  intro answer
  cases answer with
  | none => exact maintains_done _
  | some error => exact maintains_ite (fun _ => maintains_done _) (fun _ => maintains_done _)

theorem maintains_removeTracked {item : Tracked} (deletes : Maintains spec invariant
      (ask (.deleteEvent userID token calendarID item.googleEventID)))
    (forgets : Maintains spec invariant (ask (.deleteSynced userID item.contestID))) :
    Maintains spec invariant (removeTracked userID token calendarID item) :=
  (maintains_deleteAttempts deletes).bind (fun _ => forgets.map)

theorem maintains_cleanup {selected : List String} (items : Tracked → Prop)
    (tracks : Yields spec invariant
      (fun answer => ∀ rows, answer = some rows → ∀ row ∈ rows, items row)
      (ask (.selectTracked userID)))
    (removes : ∀ item, items item → item.platform ∉ selected →
      Maintains spec invariant (removeTracked userID token calendarID item)) :
    Maintains spec invariant (cleanup userID token calendarID selected) := by
  apply tracks.then
  intro answer known
  cases answer with
  | none => exact maintains_done _
  | some rows =>
    apply maintains_each
    intro item member
    obtain ⟨listed, unselected⟩ := List.mem_filter.mp member
    exact removes item (known rows rfl item listed) (of_decide_eq_true unselected)

theorem maintains_handleSyncError (error : GoogleError)
    (deletes : Maintains spec invariant (ask (.deleteUser userID (some token))))
    (forgets : Maintains spec invariant (ask (.deleteCachedUser userID))) :
    Maintains spec invariant (syncer.handleSyncError userID token error) := by
  apply maintains_ite
  · intro _
    apply deletes.bind
    intro _
    exact maintains_ite (fun _ => forgets.map) (fun _ => maintains_done _)
  · exact fun _ => maintains_done _

theorem maintains_giveUp (anySynced : Bool) {error : GoogleError}
    (drops : Maintains spec invariant (syncer.handleSyncError userID token error)) :
    Maintains spec invariant (syncer.giveUp userID token anySynced error) := by
  apply drops.bind
  intro deleted
  exact maintains_ite (fun _ => maintains_done _) (fun _ => maintains_done _)

/-- Every answer of a call about an event leads to a row, to another call, or to
the handling of the error. -/
theorem maintains_syncContest {contest : ContestRow} (eventIDs : String → Prop)
    (computed : eventIDs (contestEvent googleID timezone contest).id) (anySynced : Bool)
    (inserts : Yields spec invariant
      (fun answer => ∀ created, answer = .ok created → eventIDs created.id)
      (ask (.insertEvent userID token calendarID (contestEvent googleID timezone contest))))
    (updates : Maintains spec invariant
      (ask (.updateEvent userID token calendarID (contestEvent googleID timezone contest).id
        (contestEvent googleID timezone contest))))
    (records : ∀ eventID, eventIDs eventID → Maintains spec invariant
      (ask (.insertSynced ⟨userID, contest.id, eventID⟩)))
    (drops : ∀ error, Maintains spec invariant (syncer.handleSyncError userID token error)) :
    Maintains spec invariant
      (syncer.syncContest userID token calendarID timezone googleID anySynced contest) := by
  have recorded : ∀ eventID, eventIDs eventID → Maintains spec invariant
      (recordSynced userID anySynced contest.id eventID) :=
    fun eventID known => (records eventID known).map
  have attempts : Yields spec invariant
      (fun result => ∀ created, result = .ok (.created created) → eventIDs created.id)
      (retry (syncer.insertAttempt userID token calendarID
        (contestEvent googleID timezone contest)) 2) := by
    apply yields_retry
    apply inserts.bind
    intro answer known
    cases answer with
    | ok created =>
      refine yields_done ?_
      rintro _ ⟨⟩
      exact known created rfl
    | error error =>
      apply yields_ite
      · exact fun _ => yields_done nofun
      · intro _
        apply ((drops error).yields (fun _ => trivial)).bind
        intro deleted _
        exact yields_ite (fun _ => yields_done nofun) (fun _ => yields_done nofun)
  apply attempts.then
  intro result known
  cases result with
  | error error => exact maintains_giveUp anySynced (drops error)
  | ok exit =>
    cases exit with
    | deleted => exact maintains_done _
    | created event => exact recorded event.id (known event rfl)
    | conflict error =>
      apply Maintains.bind
      · apply maintains_retry
        apply updates.bind
        intro answer
        cases answer with
        | none => exact maintains_done _
        | some failure => exact maintains_done _
      · intro updated
        cases updated with
        | ok _ => exact recorded _ computed
        | error failure => exact maintains_giveUp anySynced (drops error)

theorem maintains_loadSynced (cached : Maintains spec invariant (ask (.getCachedSynced userID)))
    (selects : Maintains spec invariant (ask (.selectSynced userID)))
    (fills : ∀ contestIDs, Maintains spec invariant (ask (.setCachedSynced userID contestIDs))) :
    Maintains spec invariant (syncer.loadSynced userID) := by
  have missed : Maintains spec invariant (syncer.selectSyncedSet userID) := by
    apply selects.bind
    intro rows
    cases rows with
    | none => exact maintains_done _
    | some contestIDs =>
      exact maintains_ite (fun _ => (fills contestIDs).map) (fun _ => maintains_done _)
  apply maintains_ite
  · intro _
    apply cached.bind
    intro hit
    cases hit with
    | some contestIDs => exact maintains_done _
    | none => exact missed
  · exact fun _ => missed

variable {user : CachedUser}

section Contests

variable (contests : ContestRow → Prop)

theorem yields_cachedContests (selected : List String) (cached : ∀ platform, Yields spec invariant
      (fun answer => ∀ rows, answer = some rows → ∀ contest ∈ rows, contests contest)
      (ask (.getCachedContests platform))) :
    Yields spec invariant (fun answer => ∀ contest ∈ answer.1, contests contest)
      (cachedContests selected) := by
  induction selected with
  | nil => exact yields_done nofun
  | cons platform rest ih =>
    apply (cached platform).bind
    intro hit known
    apply ih.bind
    rintro ⟨found, missed⟩ knownRest
    cases hit with
    | some rows =>
      refine yields_done ?_
      intro contest member
      rcases List.mem_append.mp member with here | there
      · exact known rows rfl contest here
      · exact knownRest contest there
    | none => exact yields_done knownRest

theorem yields_fillContests {rows : List ContestRow} (listed : ∀ contest ∈ rows, contests contest)
    (missed : List String)
    (fills : ∀ platform rows, (∀ contest ∈ rows, contests contest) →
      Maintains spec invariant (ask (.setCachedContests platform rows))) :
    Yields spec invariant (fun answer => ∀ contest ∈ answer, contests contest)
      (fillContests rows missed) := by
  induction missed with
  | nil => exact yields_done nofun
  | cons platform rest ih =>
    have own : ∀ contest ∈ rows.filter (fun contest => contest.platform = platform),
        contests contest :=
      fun contest member => listed contest (List.mem_filter.mp member).1
    apply ((fills platform _ own).yields (fun _ => trivial)).bind
    intro _ _
    apply ih.bind
    intro others known
    refine yields_done ?_
    intro contest member
    rcases List.mem_append.mp member with here | there
    · exact own contest here
    · exact known contest there

theorem yields_loadContests {selected : List String}
    (cached : syncer.valkey = true → ∀ platform, Yields spec invariant
      (fun answer => ∀ rows, answer = some rows → ∀ contest ∈ rows, contests contest)
      (ask (.getCachedContests platform)))
    (selects : ∀ missed, Yields spec invariant
      (fun answer => ∀ rows, answer = some rows → ∀ contest ∈ rows, contests contest)
      (ask (.selectContests missed)))
    (fills : ∀ platform rows, (∀ contest ∈ rows, contests contest) →
      Maintains spec invariant (ask (.setCachedContests platform rows))) :
    Yields spec invariant
      (fun answer => ∀ rows, answer = some rows → ∀ contest ∈ rows, contests contest)
      (syncer.loadContests selected) := by
  apply yields_ite
  · intro configured
    apply (yields_cachedContests contests selected (cached configured)).bind
    rintro ⟨found, missed⟩ known
    apply yields_ite
    · intro _
      refine yields_done ?_
      rintro _ ⟨⟩
      exact known
    · intro _
      apply (selects missed).bind
      intro answer listed
      cases answer with
      | none => exact yields_done nofun
      | some rows =>
        apply (yields_fillContests contests (listed rows rfl) missed fills).bind
        intro filled knownFilled
        refine yields_done ?_
        rintro _ ⟨⟩ contest member
        rcases List.mem_append.mp member with here | there
        · exact known contest here
        · exact knownFilled contest there
  · intro _
    apply (selects selected).bind
    intro answer listed
    exact yields_done listed

theorem maintains_syncCalendar (cleans : Maintains spec invariant
      (cleanup userID token calendarID (user.platforms.getD [])))
    (loadsSynced : Maintains spec invariant (syncer.loadSynced userID))
    (loadsContests : Yields spec invariant
      (fun answer => ∀ rows, answer = some rows → ∀ contest ∈ rows, contests contest)
      (syncer.loadContests (user.platforms.getD [])))
    (inserts : ∀ anySynced contest, contests contest → Maintains spec invariant
      (syncer.syncContest userID token calendarID timezone user.googleID anySynced contest))
    (clears : Maintains spec invariant (ask (.deleteCachedSynced userID))) :
    Maintains spec invariant (syncer.syncCalendar userID token calendarID timezone user) := by
  apply cleans.bind
  intro _
  apply loadsSynced.bind
  intro synced
  apply maintains_ite
  · exact fun _ => maintains_done _
  · intro _
    apply loadsContests.then
    intro answer known
    cases answer with
    | none => exact maintains_done _
    | some rows =>
      apply Maintains.bind
      · apply maintains_traverse
        intro anySynced contest member
        apply maintains_ite
        · exact fun _ => maintains_done _
        · exact fun _ => inserts anySynced contest (known rows rfl contest member)
      · intro result
        cases result with
        | error left => exact maintains_done _
        | ok anySynced =>
          exact maintains_ite (fun _ => clears.map) (fun _ => maintains_done _)

end Contests

/-- When every request that is neither about the profile nor about the lock keeps
the invariant, nothing has to be known of the answers. -/
theorem maintains_syncCalendar_each
    (each : ∀ request, request.ofUser userID → request.profiled = false →
      request.locking = false → Maintains spec invariant (ask request))
    (drops : ∀ error, Maintains spec invariant (syncer.handleSyncError userID token error)) :
    Maintains spec invariant (syncer.syncCalendar userID token calendarID timezone user) := by
  apply maintains_syncCalendar (fun _ => True)
  · exact maintains_cleanup (fun _ => True)
      ((each (.selectTracked userID) rfl rfl rfl).yields (fun _ _ _ _ _ => trivial))
      (fun _ _ _ => maintains_removeTracked (each _ rfl rfl rfl) (each _ rfl rfl rfl))
  · exact maintains_loadSynced (each _ rfl rfl rfl) (each _ rfl rfl rfl)
      (fun _ => each _ rfl rfl rfl)
  · exact yields_loadContests (fun _ => True)
      (fun _ platform => (each (.getCachedContests platform) trivial rfl rfl).yields
        (fun _ _ _ _ _ => trivial))
      (fun missed => (each (.selectContests missed) trivial rfl rfl).yields
        (fun _ _ _ _ _ => trivial))
      (fun _ _ _ => each _ trivial rfl rfl)
  · exact fun anySynced contest _ => maintains_syncContest (fun _ => True) trivial anySynced
      ((each (.insertEvent userID token calendarID
        (contestEvent user.googleID timezone contest)) rfl rfl rfl).yields (fun _ _ _ => trivial))
      (each _ rfl rfl rfl) (fun _ _ => each _ rfl rfl rfl) drops
  · exact each _ rfl rfl rfl

theorem maintains_targetCalendar
    (creates : Maintains spec invariant (ask (.insertCalendar userID token timezone)))
    (adopts : ∀ calendarID, Maintains spec invariant (syncer.adoptCalendar userID calendarID))
    (drops : ∀ error, Maintains spec invariant (syncer.handleSyncError userID token error)) :
    Maintains spec invariant (syncer.targetCalendar userID token timezone user) := by
  apply maintains_ite
  · intro _
    apply maintains_ite
    · exact fun _ => maintains_done _
    · intro _
      apply creates.bind
      intro answer
      cases answer with
      | error error =>
        apply (drops error).bind
        intro deleted
        exact maintains_ite (fun _ => maintains_done _) (fun _ => maintains_done _)
      | ok calendarID => exact (adopts calendarID).map
  · exact fun _ => maintains_done _

theorem maintains_adoptCalendar
    (sets : Maintains spec invariant (ask (.setCalendarID userID calendarID)))
    (forgets : Maintains spec invariant (ask (.deleteCachedUser userID))) :
    Maintains spec invariant (syncer.adoptCalendar userID calendarID) :=
  sets.bind (fun _ => maintains_ite (fun _ => forgets) (fun _ => maintains_done _))

theorem maintains_syncProfile
    (primary : ∀ token, Maintains spec invariant (ask (.getPrimary userID token)))
    (targets : ∀ token timezone, syncer.decryptToken user.refreshToken = some token →
      Maintains spec invariant (syncer.targetCalendar userID token timezone user))
    (syncs : ∀ token calendarID timezone, syncer.decryptToken user.refreshToken = some token →
      Maintains spec invariant (syncer.syncCalendar userID token calendarID timezone user))
    (drops : ∀ token error, syncer.decryptToken user.refreshToken = some token →
      Maintains spec invariant (syncer.handleSyncError userID token error)) :
    Maintains spec invariant (syncer.syncProfile userID user) := by
  unfold syncProfile
  cases decrypts : syncer.decryptToken user.refreshToken with
  | none => exact maintains_done _
  | some token =>
    apply (primary token).bind
    intro answer
    cases answer with
    | error error =>
      apply (drops token error decrypts).bind
      intro deleted
      exact maintains_ite (fun _ => maintains_done _) (fun _ => maintains_done _)
    | ok timezone =>
      apply (targets token _ decrypts).bind
      intro target
      cases target with
      | none => exact maintains_done _
      | some calendarID => exact syncs token calendarID _ decrypts

variable {state : S} {before : S → Prop} {after : Except SyncError Unit → S → Prop}

theorem ensures_syncLoaded_result (marks : Maintains spec before (ask (.markSyncing userID)))
    (syncs : ∀ state, before state → Ensures spec after (syncer.syncProfile userID user) state)
    (finishes : ∀ result status, Maintains spec (after result) (ask (.markSynced userID status)))
    (stamps : ∀ result, Maintains spec (after result) (ask (.cacheLastSync userID)))
    (holds : before state) :
    Ensures spec after (syncer.syncLoaded userID user) state := by
  refine (marks state holds).then ?_
  intro _ marked ready
  refine (syncs marked ready).then ?_
  intro result synced reached
  refine (finishes result _ synced reached).then ?_
  intro _ finished kept
  apply ensures_ite
  · intro _
    refine (stamps result finished kept).then ?_
    exact fun _ _ stamped => stamped
  · exact fun _ => kept

theorem ensures_syncLoaded {after : S → Prop}
    (marks : Maintains spec before (ask (.markSyncing userID))) (syncs : ∀ state, before state →
      Ensures spec (fun _ => after) (syncer.syncProfile userID user) state)
    (finishes : ∀ status, Maintains spec after (ask (.markSynced userID status)))
    (stamps : Maintains spec after (ask (.cacheLastSync userID))) (holds : before state) :
    Ensures spec (fun _ => after) (syncer.syncLoaded userID user) state :=
  ensures_syncLoaded_result marks syncs (fun _ => finishes) (fun _ => stamps) holds

theorem maintains_syncLocked (each : ∀ request, request.ofUser userID → request.locking = false →
      Maintains spec invariant (ask request)) :
    Maintains spec invariant (syncer.syncLocked userID) := by
  have drops : ∀ token error, Maintains spec invariant
      (syncer.handleSyncError userID token error) :=
    fun token error => maintains_handleSyncError error (each _ rfl rfl) (each _ rfl rfl)
  have loads : Maintains spec invariant (loadSyncProfile syncer.valkey userID) :=
    maintains_loadSyncProfile (each _ rfl rfl) (each _ rfl rfl) (fun _ => each _ rfl rfl)
  apply Maintains.bind loads
  intro found
  cases found with
  | none => exact maintains_done _
  | some user =>
    intro state holds
    apply ensures_syncLoaded (each _ rfl rfl) ?_ (fun _ => each _ rfl rfl) (each _ rfl rfl) holds
    apply maintains_syncProfile
    · exact fun token => each _ rfl rfl
    · exact fun token timezone _ => maintains_targetCalendar (each _ rfl rfl)
        (fun _ => maintains_adoptCalendar (each _ rfl rfl) (each _ rfl rfl)) (drops token)
    · exact fun token calendarID timezone _ => maintains_syncCalendar_each
        (fun request own _ unlocked => each request own unlocked) (drops token)
    · exact fun token error _ => drops token error

theorem ensures_syncUser_result (idle : ∀ error state, before state → after (.error error) state)
    (locks : Maintains spec before (ask (.lockKey userID)))
    (unlocks : ∀ result, Maintains spec (after result) (ask (.unlockKey userID)))
    (locksProcess : Maintains spec before (ask (.lockUser syncer.process userID)))
    (unlocksProcess : ∀ result,
      Maintains spec (after result) (ask (.unlockUser syncer.process userID)))
    (runs : ∀ state, before state → Ensures spec after (syncer.syncLocked userID) state)
    (holds : before state) :
    Ensures spec after (syncer.syncUser userID) state := by
  apply ensures_ite
  · intro _
    refine (locks state holds).then ?_
    intro answer ready kept
    cases answer with
    | none => exact idle .valkey ready kept
    | some free =>
      cases free with
      | false => exact idle .alreadySyncing ready kept
      | true =>
        refine (runs ready kept).then ?_
        intro result ran reached
        refine (unlocks result ran reached).then ?_
        exact fun _ _ unlocked => unlocked
  · intro _
    refine (locksProcess state holds).then ?_
    intro free ready kept
    apply ensures_ite
    · intro _
      refine (runs ready kept).then ?_
      intro result ran reached
      refine (unlocksProcess result ran reached).then ?_
      exact fun _ _ unlocked => unlocked
    · exact fun _ => idle .alreadySyncing ready kept

theorem ensures_syncUser {after : S → Prop} (idle : ∀ state, before state → after state)
    (locks : Maintains spec before (ask (.lockKey userID)))
    (unlocks : Maintains spec after (ask (.unlockKey userID)))
    (locksProcess : Maintains spec before (ask (.lockUser syncer.process userID)))
    (unlocksProcess : Maintains spec after (ask (.unlockUser syncer.process userID)))
    (runs : ∀ state, before state →
      Ensures spec (fun _ => after) (syncer.syncLocked userID) state) (holds : before state) :
    Ensures spec (fun _ => after) (syncer.syncUser userID) state :=
  ensures_syncUser_result (fun _ => idle) locks (fun _ => unlocks) locksProcess
    (fun _ => unlocksProcess) runs holds

end Syncer

/-! ### The handlers and the background jobs -/

variable {handlers : Handlers}

theorem maintains_me (rows : UserRow → Prop)
    (cached : Maintains spec invariant (ask (.getCachedUser userID)))
    (selects : Yields spec invariant (fun answer => ∀ row, answer = some (some row) → rows row)
      (ask (.selectUser userID))) (fills : ∀ row, rows row →
      Maintains spec invariant (ask (.setCachedUser userID (Handlers.scanMe row)))) :
    Maintains spec invariant (handlers.me userID) := by
  have missed : Maintains spec invariant (handlers.selectMe userID) := by
    apply selects.then
    intro answer known
    cases answer with
    | none => exact maintains_done _
    | some stored =>
      cases stored with
      | none => exact maintains_done _
      | some row =>
        exact maintains_ite (fun _ => (fills row (known row rfl)).map) (fun _ => maintains_done _)
  apply maintains_ite
  · intro _
    apply cached.bind
    intro hit
    cases hit with
    | some user => exact maintains_done _
    | none => exact missed
  · exact fun _ => missed

theorem maintains_savePreferences {requested : Option (List String)} {useDedicated : Bool}
    (loads : Maintains spec invariant (loadSyncProfile handlers.valkey userID))
    (updates : Maintains spec invariant (ask (.updatePreferences userID requested useDedicated)))
    (forgets : Maintains spec invariant (ask (.deleteCachedUser userID))) :
    Maintains spec invariant (handlers.savePreferences userID requested useDedicated) := by
  apply maintains_ite
  · exact fun _ => maintains_done _
  · intro _
    apply loads.bind
    intro found
    cases found with
    | none => exact maintains_done _
    | some user =>
      apply maintains_ite
      · intro _
        apply updates.bind
        intro updated
        apply maintains_ite
        · intro _
          exact maintains_ite (fun _ => forgets.map) (fun _ => maintains_done _)
        · exact fun _ => maintains_done _
      · exact fun _ => maintains_done _

theorem maintains_googleCallback {login : Login}
    (upserts : Maintains spec invariant (ask (.upsertUser login)))
    (forgets : ∀ userID, Maintains spec invariant (ask (.deleteCachedUser userID)))
    (publishes : ∀ userID, Maintains spec invariant (ask (.publishSyncTask userID))) :
    Maintains spec invariant (handlers.googleCallback login) := by
  have ends : ∀ userID (chosen : Option (List String)), Maintains spec invariant (do
      if chosen.getD [] ≠ [] then
        let _ ← ask (.publishSyncTask userID)
      return Handlers.CallbackResponse.redirect) :=
    fun userID chosen => maintains_ite (fun _ => (publishes userID).map) (fun _ => maintains_done _)
  apply upserts.bind
  intro answer
  cases answer with
  | none => exact maintains_done _
  | some upserted =>
    exact maintains_ite (fun _ => (forgets upserted.1).bind (fun _ => ends upserted.1 upserted.2))
      (fun _ => ends upserted.1 upserted.2)

theorem maintains_deleteAccount_of_removes
    (selects : Maintains spec invariant (ask (.selectUser userID)))
    (removes : Maintains spec invariant (do
      if ← ask (.deleteUser userID none) then
        if handlers.valkey then
          ask (.deleteCachedUser userID)
        return Handlers.DeleteResponse.deleted
      else
        return .internalError)) :
    Maintains spec invariant (handlers.deleteAccount userID) := by
  apply selects.bind
  intro answer
  cases answer with
  | none => exact removes
  | some stored =>
    cases stored with
    | none => exact maintains_done _
    | some row => exact removes

theorem maintains_deleteAccount (selects : Maintains spec invariant (ask (.selectUser userID)))
    (deletes : Maintains spec invariant (ask (.deleteUser userID none)))
    (forgets : Maintains spec invariant (ask (.deleteCachedUser userID))) :
    Maintains spec invariant (handlers.deleteAccount userID) := by
  apply maintains_deleteAccount_of_removes selects
  apply deletes.bind
  intro deleted
  apply maintains_ite
  · intro _
    exact maintains_ite (fun _ => forgets.map) (fun _ => maintains_done _)
  · exact fun _ => maintains_done _

theorem maintains_pruneOldData (ended : Maintains spec invariant (ask .pruneEnded))
    (ungranted : Maintains spec invariant (ask .pruneUsers))
    (forgets : ∀ platform, Maintains spec invariant (ask (.deleteCachedContests platform))) :
    Maintains spec invariant (pruneOldData valkey) := by
  apply ended.bind
  intro _
  apply ungranted.bind
  intro _
  apply maintains_each
  intro platform _
  exact maintains_ite (fun _ => forgets platform) (fun _ => maintains_done _)

theorem maintains_handleExtraction {platform : String} {fetched : Option (List Contest)}
    (prunes : ∀ contestIDs, Maintains spec invariant (ask (.pruneObsolete platform contestIDs)))
    (saves : ∀ contests, fetched = some contests →
      Maintains spec invariant (ask (.upsertContests contests)))
    (forgets : Maintains spec invariant (ask (.deleteCachedContests platform))) :
    Maintains spec invariant (handleExtraction valkey platform fetched) := by
  apply maintains_ite
  · exact fun _ => maintains_done _
  · intro _
    cases fetched with
    | none => exact maintains_done _
    | some contests =>
      apply maintains_ite
      · exact fun _ => maintains_done _
      · intro _
        apply (prunes _).bind
        intro _
        apply (saves contests rfl).bind
        intro saved
        apply maintains_ite
        · intro _
          exact maintains_ite (fun _ => forgets.map) (fun _ => maintains_done _)
        · exact fun _ => maintains_done _

/-! ### Invariants of the operations for one user -/

/-- What is known of the answers that an operation for a user builds on: the
profile, the rows of the clean-up query, the contests, and the ids under which
Google has created an event. -/
structure Knowledge where
  profiles : CachedUser → Prop
  items : Tracked → Prop
  contests : ContestRow → Prop
  events : CachedUser → ContestRow → String → Prop

/-- The requests whose answer or whose content is a matter of knowledge. -/
def Request.informed : Request → Bool
  | .getCachedUser _ => true
  | .setCachedUser _ _ => true
  | .selectUser _ => true
  | .selectTracked _ => true
  | .deleteEvent _ _ _ _ => true
  | .getCachedContests _ => true
  | .setCachedContests _ _ => true
  | .selectContests _ => true
  | .insertEvent _ _ _ _ => true
  | .updateEvent _ _ _ _ _ => true
  | .insertSynced _ => true
  | _ => false

/-- Every request of an operation for the user keeps the invariant. -/
structure RunKeeps (spec : Specification service S) (invariant : S → Prop) (syncer : Syncer)
    (userID : Int) (known : Knowledge) : Prop where
  plain : ∀ request, request.ofUser userID → request.informed = false →
    Maintains spec invariant (ask request)
  cachedProfile : syncer.valkey = true → Yields spec invariant
    (fun answer => ∀ user, answer = some user → known.profiles user)
    (ask (.getCachedUser userID))
  storedProfile : Yields spec invariant
    (fun answer => ∀ row user, answer = some (some row) → scanSyncProfile row = some user →
      known.profiles user)
    (ask (.selectUser userID))
  fillProfile : ∀ user, known.profiles user →
    Maintains spec invariant (ask (.setCachedUser userID user))
  tracked : Yields spec invariant
    (fun answer => ∀ rows, answer = some rows → ∀ item ∈ rows, known.items item)
    (ask (.selectTracked userID))
  takeDown : ∀ token calendarID item, known.items item →
    Maintains spec invariant (ask (.deleteEvent userID token calendarID item.googleEventID))
  cachedContests : syncer.valkey = true → ∀ platform, Yields spec invariant
    (fun answer => ∀ rows, answer = some rows → ∀ contest ∈ rows, known.contests contest)
    (ask (.getCachedContests platform))
  storedContests : ∀ missed, Yields spec invariant
    (fun answer => ∀ rows, answer = some rows → ∀ contest ∈ rows, known.contests contest)
    (ask (.selectContests missed))
  fillContests : ∀ platform rows, (∀ contest ∈ rows, known.contests contest) →
    Maintains spec invariant (ask (.setCachedContests platform rows))
  computed : ∀ user contest,
    known.events user contest (generateDeterministicEventID user.googleID contest.id)
  insert : ∀ token calendarID timezone user contest, known.profiles user → known.contests contest →
    Yields spec invariant
      (fun answer => ∀ created, answer = .ok created → known.events user contest created.id)
      (ask (.insertEvent userID token calendarID (contestEvent user.googleID timezone contest)))
  update : ∀ token calendarID timezone user contest, known.profiles user → known.contests contest →
    Maintains spec invariant
      (ask (.updateEvent userID token calendarID (contestEvent user.googleID timezone contest).id
        (contestEvent user.googleID timezone contest)))
  record : ∀ user contest eventID, known.profiles user → known.contests contest →
    known.events user contest eventID →
    Maintains spec invariant (ask (.insertSynced ⟨userID, contest.id, eventID⟩))

namespace RunKeeps

variable {syncer : Syncer} {userID : Int} {known : Knowledge}
  (keeps : RunKeeps spec invariant syncer userID known)
include keeps

theorem loadSyncProfile :
    Yields spec invariant (fun found => ∀ user, found = some user → known.profiles user)
      (loadSyncProfile syncer.valkey userID) :=
  yields_loadSyncProfile known.profiles keeps.cachedProfile keeps.storedProfile keeps.fillProfile

theorem syncProfile {user : CachedUser} (loaded : known.profiles user) :
    Maintains spec invariant (syncer.syncProfile userID user) := by
  have drops : ∀ token error, Maintains spec invariant
      (syncer.handleSyncError userID token error) :=
    fun token error => Syncer.maintains_handleSyncError error (keeps.plain _ rfl rfl)
      (keeps.plain _ rfl rfl)
  apply Syncer.maintains_syncProfile
  · exact fun token => keeps.plain _ rfl rfl
  · exact fun token timezone _ => Syncer.maintains_targetCalendar (keeps.plain _ rfl rfl)
      (fun _ => Syncer.maintains_adoptCalendar (keeps.plain _ rfl rfl) (keeps.plain _ rfl rfl))
      (drops token)
  · intro token calendarID timezone _
    apply Syncer.maintains_syncCalendar known.contests
    · apply Syncer.maintains_cleanup known.items keeps.tracked
      exact fun item listed _ => Syncer.maintains_removeTracked
        (keeps.takeDown token calendarID item listed) (keeps.plain _ rfl rfl)
    · exact Syncer.maintains_loadSynced (keeps.plain _ rfl rfl) (keeps.plain _ rfl rfl)
        (fun _ => keeps.plain _ rfl rfl)
    · exact Syncer.yields_loadContests known.contests keeps.cachedContests keeps.storedContests
        keeps.fillContests
    · exact fun anySynced contest listed => Syncer.maintains_syncContest
        (known.events user contest) (keeps.computed user contest) anySynced
        (keeps.insert token calendarID timezone user contest loaded listed)
        (keeps.update token calendarID timezone user contest loaded listed)
        (fun eventID created => keeps.record user contest eventID loaded listed created)
        (drops token)
    · exact keeps.plain _ rfl rfl
  · exact fun token error _ => drops token error

theorem syncUser : Maintains spec invariant (syncer.syncUser userID) := by
  intro state holds
  refine Syncer.ensures_syncUser (fun _ kept => kept) (keeps.plain _ rfl rfl)
    (keeps.plain _ rfl rfl) (keeps.plain _ rfl rfl) (keeps.plain _ rfl rfl) ?_ holds
  apply keeps.loadSyncProfile.then
  intro found loaded
  cases found with
  | none => exact maintains_done _
  | some user =>
    intro ready kept
    exact Syncer.ensures_syncLoaded (keeps.plain _ rfl rfl)
      (keeps.syncProfile (loaded user rfl)) (fun _ => keeps.plain _ rfl rfl)
      (keeps.plain _ rfl rfl) kept

theorem savePreferences (requested : Option (List String)) (useDedicated : Bool) :
    Maintains spec invariant
      (Handlers.savePreferences ⟨syncer.valkey⟩ userID requested useDedicated) :=
  maintains_savePreferences keeps.loadSyncProfile.maintains (keeps.plain _ rfl rfl)
    (keeps.plain _ rfl rfl)

end RunKeeps

/-- When every request for the user keeps the invariant, nothing has to be known. -/
theorem RunKeeps.of_each {syncer : Syncer}
    (keeps : ∀ request, request.ofUser userID → Maintains spec invariant (ask request)) :
    RunKeeps spec invariant syncer userID
      ⟨fun _ => True, fun _ => True, fun _ => True, fun _ _ _ => True⟩ :=
  { plain := fun request own _ => keeps request own
    cachedProfile := fun _ =>
      (keeps (.getCachedUser userID) rfl).yields (fun _ _ _ => trivial)
    storedProfile := (keeps (.selectUser userID) rfl).yields (fun _ _ _ _ _ => trivial)
    fillProfile := fun _ _ => keeps _ rfl
    tracked := (keeps (.selectTracked userID) rfl).yields (fun _ _ _ _ _ => trivial)
    takeDown := fun _ _ _ _ => keeps _ rfl
    cachedContests := fun _ platform =>
      (keeps (.getCachedContests platform) trivial).yields (fun _ _ _ _ _ => trivial)
    storedContests := fun missed =>
      (keeps (.selectContests missed) trivial).yields (fun _ _ _ _ _ => trivial)
    fillContests := fun _ _ _ => keeps _ trivial
    computed := fun _ _ => trivial
    insert := fun token calendarID timezone user contest _ _ =>
      (keeps (.insertEvent userID token calendarID
        (contestEvent user.googleID timezone contest)) rfl).yields (fun _ _ _ => trivial)
    update := fun _ _ _ _ _ _ _ => keeps _ rfl
    record := fun _ _ _ _ _ _ => keeps _ rfl }

end ContestSync
