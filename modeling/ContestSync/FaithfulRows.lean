/-
The rows of `synced_events` name the events that are computed for their
contests, in every state that the service can reach. The id of an event is made
from the Google id of a user, and a user id never stands for two Google ids: a
row keeps its keys, ids are not reused, and a cached profile was read from the
row of its user.
-/

import ContestSync.Histories
import ContestSync.Footprints
import ContestSync.SyncSnapshot

namespace ContestSync

open Resumable Program Function

/-- `owner` gives the Google id that each user id stands for. -/
structure Identified (valkey : Bool) (owner : Int → String) (world : World) : Prop where
  stored : ∀ userID user, world.database.users.find userID = some user →
    user.googleID = owner userID
  cached : valkey = true → ∀ userID user, world.valkey.users userID = some user →
    user.googleID = owner userID
  tracked : ∀ row ∈ world.database.syncedEvents.rows,
    row.googleEventID = generateDeterministicEventID (owner row.userID) row.contestID

/-! ### Requests that introduce nothing -/

structure Inherits (before after : World) : Prop where
  stored : ∀ userID user, after.database.users.find userID = some user →
    ∃ old, before.database.users.find userID = some old ∧ user.googleID = old.googleID
  cached : ∀ userID, after.valkey.users userID = before.valkey.users userID ∨
    after.valkey.users userID = none
  tracked : ∀ row ∈ after.database.syncedEvents.rows, row ∈ before.database.syncedEvents.rows

variable {before after : World} {valkey : Bool} {owner : Int → String}

theorem Identified.inherits (identified : Identified valkey owner before)
    (inherits : Inherits before after) :
    Identified valkey owner after := by
  refine ⟨?_, ?_, fun row member => identified.tracked row (inherits.tracked row member)⟩
  · intro userID user found
    obtain ⟨old, foundOld, same⟩ := inherits.stored userID user found
    exact same.trans (identified.stored userID old foundOld)
  · intro configured userID user hit
    rcases inherits.cached userID with same | expired
    · rw [same] at hit
      exact identified.cached configured userID user hit
    · rw [expired] at hit
      cases hit

namespace Inherits

variable {world : World}

theorem setDatabase {database : Database}
    (stored : ∀ userID user, database.users.find userID = some user →
      ∃ old, world.database.users.find userID = some old ∧ user.googleID = old.googleID)
    (tracked : ∀ row ∈ database.syncedEvents.rows, row ∈ world.database.syncedEvents.rows) :
    Inherits world (world.setDatabase database) :=
  ⟨stored, fun _ => Or.inl rfl, tracked⟩

theorem updateUser (userID : Int) (change : Database.UserChange) :
    Inherits world (world.setDatabase (world.database.updateUser userID change)) := by
  refine .setDatabase ?_ (fun row member => member)
  intro other user found
  rw [Database.find_updateUser] at found
  split at found
  · obtain ⟨old, foundOld, rfl⟩ := Option.map_eq_some_iff.mp found
    exact ⟨old, foundOld, change.keepsGoogleID old⟩
  · exact ⟨user, found, rfl⟩

theorem deleteUsers (condition : UserRow → Bool) :
    Inherits world (world.setDatabase (world.database.deleteUsers condition)) := by
  refine .setDatabase ?_ (fun row member => (Keyed.Table.mem_delete.mp member).1)
  intro userID user found
  rw [Database.find_deleteUsers] at found
  exact ⟨user, (Option.filter_eq_some_iff.mp found).1, rfl⟩

theorem deleteContests (condition : ContestRow → Bool) :
    Inherits world (world.setDatabase (world.database.deleteContests condition)) :=
  .setDatabase (fun _ user found => ⟨user, found, rfl⟩)
    (fun _ member => (Database.mem_deleteContests_synced.mp member).1)

end Inherits

def Request.introduces : Request → Bool
  | .setCachedUser _ _ => true
  | .upsertUser _ => true
  | .insertSynced _ => true
  | _ => false

variable {request : Request}

theorem inherits_handle (world : World)
    (plain : request.introduces = false) : Inherits world (world.handle request).1 := by
  have frame := frame_handle world request
  cases request <;> cases plain
  case deleteCachedUser userID =>
    refine ⟨fun _ user found => ⟨user, found, rfl⟩, ?_, fun _ member => member⟩
    intro other
    by_cases same : other = userID
    · subst same
      exact Or.inr (update_self other _ _)
    · exact Or.inl (update_of_ne same _ _)
  case markSyncing userID => exact .updateUser userID _
  case markSynced userID status => exact .updateUser userID _
  case setCalendarID userID calendarID => exact .updateUser userID _
  case updatePreferences userID platforms useDedicated => exact .updateUser userID _
  case deleteUser userID rejected => exact .deleteUsers _
  case pruneUsers => exact .deleteUsers _
  case deleteSynced userID contestID =>
    exact .setDatabase (fun _ user found => ⟨user, found, rfl⟩)
      (fun _ member => (Database.mem_deleteSyncedEvent.mp member).1)
  case pruneObsolete platform contestIDs => exact .deleteContests _
  case pruneEnded => exact .deleteContests _
  all_goals
    refine ⟨?_, fun userID => Or.inl (congrFun (frame.profiles rfl) userID), ?_⟩
    · rw [frame.users rfl]
      exact fun _ user found => ⟨user, found, rfl⟩
    · rw [frame.syncedEvents rfl]
      exact fun _ member => member

/-! ### The requests that introduce a profile, a row or a user -/

variable {userID : Int}

section Requests

variable {valkey : Bool} {owner : Int → String} {world : World}

theorem Identified.setCachedUser (identified : Identified valkey owner world)
    {user : CachedUser} (fits : user.googleID = owner userID) :
    Identified valkey owner (world.handle (.setCachedUser userID user)).1 := by
  refine ⟨identified.stored, ?_, identified.tracked⟩
  intro configured other profile hit
  change update world.valkey.users userID (some user) other = _ at hit
  by_cases same : other = userID
  · subst same
    rw [update_self] at hit
    cases hit
    exact fits
  · rw [update_of_ne same] at hit
    exact identified.cached configured other profile hit

theorem Identified.insertSynced (identified : Identified valkey owner world) {row : SyncedEvent}
    (fits : row.googleEventID = generateDeterministicEventID (owner row.userID) row.contestID) :
    Identified valkey owner (world.handle (.insertSynced row)).1 := by
  have frame := frame_handle world (.insertSynced row)
  refine ⟨?_, ?_, ?_⟩
  · rw [frame.users rfl]
    exact identified.stored
  · rw [frame.profiles rfl]
    exact identified.cached
  · unfold World.handle
    simp only
    intro other member
    split at member
    · rename_i inserted
      rcases Database.insertSyncedEvent_cases inserted with ⟨_, _, _, rows⟩ | ⟨_, same⟩
      · rcases (rows other).mp member with present | rfl
        · exact identified.tracked other present
        · exact fits
      · subst same
        exact identified.tracked other member
    · exact identified.tracked other member

/-- A login either belongs to a user that is known by its Google id, or gets an
id that no row refers to. -/
theorem Identified.upsertUser (identified : Identified valkey owner world) (login : Login) :
    ∃ owner', (∀ userID, userID < world.database.serial → owner' userID = owner userID) ∧
      ∀ after : World, after.database = (world.handle (.upsertUser login)).1.database →
        (valkey = true → ∀ userID, after.valkey.users userID = none ∨
          after.valkey.users userID = world.valkey.users userID ∧
            userID ≠ (world.database.upsertUser login.googleID login.email login.refreshToken
              login.hasCalendarAccess world.now).2.1) →
        Identified valkey owner' after := by
  rcases world.database.upsertUser_cases login.googleID login.email login.refreshToken
    login.hasCalendarAccess world.now with ⟨user, _, _, called⟩ | ⟨next, unused, called⟩
  · refine ⟨owner, fun _ _ => rfl, ?_⟩
    intro after database dropped
    have updated := identified.inherits (Inherits.updateUser user.id
      (Database.loginChange login.email login.refreshToken login.hasCalendarAccess))
    have same : after.database = world.database.updateUser user.id
        (Database.loginChange login.email login.refreshToken login.hasCalendarAccess) :=
      database.trans (congrArg Prod.fst called)
    refine ⟨?_, ?_, ?_⟩
    · rw [same]
      exact updated.stored
    · intro configured userID profile hit
      rcases dropped configured userID with none | ⟨kept, _⟩
      · rw [none] at hit
        cases hit
      · rw [kept] at hit
        exact identified.cached configured userID profile hit
    · rw [same]
      exact updated.tracked
  · refine ⟨update owner world.database.serial login.googleID, ?_, ?_⟩
    · intro userID issued
      exact update_of_ne (Int.ne_of_lt issued) _ _
    · intro after database dropped
      have same : after.database = world.database.insertUser _ next unused :=
        database.trans (congrArg Prod.fst called)
      refine ⟨?_, ?_, ?_⟩
      · intro userID user found
        rw [same] at found
        by_cases new : userID = world.database.serial
        · subst new
          rw [update_self, Database.find_insertUser_self found]
          rfl
        · rw [update_of_ne new]
          exact identified.stored userID user
            ((Keyed.Table.find_insert (world.database.unissued next) new).symm.trans found)
      · intro configured userID profile hit
        rcases dropped configured userID with none | ⟨kept, different⟩
        · rw [none] at hit
          cases hit
        · rw [called] at different
          rw [kept] at hit
          rw [update_of_ne different]
          exact identified.cached configured userID profile hit
      · intro row member
        rw [same] at member
        obtain ⟨user, present, atID⟩ := world.database.userRef row member
        have earlier : row.userID ≠ world.database.serial := by
          rw [← atID]
          exact Int.ne_of_lt (world.database.issued user present)
        rw [update_of_ne earlier]
        exact identified.tracked row member

/-- A profile that is cached under the id of a login is dropped before anybody
can read it. -/
theorem ensures_identified_googleCallback {remote : Request → Outcome → Prop} (login : Login)
    (identified : Identified valkey owner world) :
    Ensures (alone remote) (fun _ later => ∃ owner', (∀ userID, userID < world.database.serial →
        owner' userID = owner userID) ∧ Identified valkey owner' later)
      (Handlers.googleCallback ⟨valkey⟩ login) world := by
  obtain ⟨owner', same, identifies⟩ := identified.upsertUser login
  have ends : ∀ userID (chosen : Option (List String)) ready, Identified valkey owner' ready →
      Ensures (alone remote) (fun _ later => ∃ owner', (∀ userID, userID < world.database.serial →
          owner' userID = owner userID) ∧ Identified valkey owner' later)
        (do
          if chosen.getD [] ≠ [] then
            let _ ← ask (.publishSyncTask userID)
          return Handlers.CallbackResponse.redirect) ready := by
    intro userID chosen ready fits
    have publishes : Maintains (alone remote) (Identified valkey owner')
        (ask (.publishSyncTask userID)) :=
      maintains_ask (fun world fits => fits.inherits (inherits_handle world rfl))
    refine Ensures.mono (fun _ later kept => ⟨owner', same, kept⟩) (maintains_ite
      (fun _ => publishes.map) (fun _ => maintains_done _) ready fits)
  apply ensures_local rfl
  rintro _ rfl
  apply ensures_ite
  · intro _
    apply ensures_local rfl
    intro _ _
    apply ends
    refine identifies _ rfl (fun _ userID => ?_)
    by_cases own : userID = (world.database.upsertUser login.googleID login.email
        login.refreshToken login.hasCalendarAccess world.now).2.1
    · rw [own]
      exact Or.inl (update_self _ _ _)
    · exact Or.inr ⟨update_of_ne own _ _, own⟩
  · intro unconfigured
    exact ends _ _ _ (identifies _ rfl (fun configured => absurd configured unconfigured))

end Requests

/-! ### Operations -/

section Operations

variable {remote : Request → Outcome → Prop} {syncer : Syncer} {owner : Int → String}
  {valkey : Bool}

theorem maintains_identified (plain : request.introduces = false) :
    Maintains (alone remote) (Identified valkey owner) (ask request) :=
  maintains_ask (fun world identified => identified.inherits (inherits_handle world plain))

theorem yields_identified_selectUser (userID : Int) :
    Yields (alone remote) (Identified valkey owner)
      (fun answer => ∀ row, answer = some (some row) → row.googleID = owner userID)
      (ask (.selectUser userID)) := by
  refine yields_ask ?_ (fun _ _ impossible => nomatch impossible)
  intro world identified
  refine ⟨identified, ?_⟩
  intro row answered
  exact identified.stored userID row (Option.some.inj answered)

theorem introduces_of_ofUser (own : request.ofUser userID)
    (uninformed : request.informed = false) : request.introduces = false := by
  cases request <;> first | rfl | (cases uninformed; done) | cases own

/-- What an operation knows of a user whose Google id is fixed. -/
def ownKnowledge (googleID : String) : Knowledge :=
  { profiles := fun user => user.googleID = googleID
    items := fun _ => True
    contests := fun _ => True
    events := fun user contest eventID =>
      eventID = generateDeterministicEventID user.googleID contest.id }

theorem runKeeps_identified (userID : Int) :
    RunKeeps (alone remote) (Identified syncer.valkey owner) syncer userID
      (ownKnowledge (owner userID)) := by
  have plain : ∀ request : Request, request.introduces = false →
      Maintains (alone remote) (Identified syncer.valkey owner) (ask request) :=
    fun _ plain => maintains_identified plain
  exact
    { plain := fun request own uninformed => plain request (introduces_of_ofUser own uninformed)
      cachedProfile := fun configured => yields_ask
        (fun world identified => ⟨identified, fun user hit =>
          identified.cached configured userID user hit⟩)
        nofun
      storedProfile := fun world identified =>
        (yields_identified_selectUser userID world identified).mono
          (fun answer later reached => ⟨reached.1, fun row user answered scanned =>
            (googleID_of_scanSyncProfile scanned).trans (reached.2 row answered)⟩)
      fillProfile := fun user fits =>
        maintains_ask (fun world identified => identified.setCachedUser fits)
      tracked := (plain (.selectTracked userID) rfl).yields (fun _ _ _ _ _ => trivial)
      takeDown := fun _ _ _ _ => plain _ rfl
      cachedContests := fun _ platform =>
        (plain (.getCachedContests platform) rfl).yields (fun _ _ _ _ _ => trivial)
      storedContests := fun missed =>
        (plain (.selectContests missed) rfl).yields (fun _ _ _ _ _ => trivial)
      fillContests := fun _ _ _ => plain _ rfl
      computed := fun _ _ => rfl
      insert := fun token calendarID timezone user contest _ _ => yields_ask
        (fun world identified => ⟨identified.inherits (inherits_handle world rfl),
          fun created answered => Account.id_of_insertEvent answered⟩)
        nofun
      update := fun _ _ _ _ _ _ _ => plain _ rfl
      record := fun user contest eventID fits _ created => maintains_ask
        (fun world identified => identified.insertSynced (by
          rw [created, fits])) }

theorem maintains_identified_me (userID : Int) :
    Maintains (alone remote) (Identified syncer.valkey owner)
      (Handlers.me ⟨syncer.valkey⟩ userID) :=
  maintains_me (fun row => row.googleID = owner userID) (maintains_identified rfl)
    (yields_identified_selectUser userID)
    (fun _ fits => maintains_ask (fun _ identified => identified.setCachedUser fits))

theorem identified_of_turn {operation : Operation}
    (run : Runs environment (Reliable remote) before (operation.program syncer) after ())
    (identified : Identified syncer.valkey owner before) :
    ∃ owner', (∀ userID, userID < before.database.serial → owner' userID = owner userID) ∧
      Identified syncer.valkey owner' after := by
  have same : ∀ {program : Program service Unit},
      Maintains (alone remote) (Identified syncer.valkey owner) program →
      Runs environment (Reliable remote) before program after () →
      ∃ owner', (∀ userID, userID < before.database.serial → owner' userID = owner userID) ∧
        Identified syncer.valkey owner' after :=
    fun maintains run => ⟨owner, fun _ _ => rfl, (maintains before identified).runs run⟩
  cases operation with
  | googleCallback login =>
    exact (ensures_discard (ensures_identified_googleCallback login identified)).runs run
  | me userID => exact same ((maintains_identified_me userID).map) run
  | savePreferences userID requested useDedicated =>
    exact same (((runKeeps_identified userID).savePreferences requested useDedicated).map) run
  | syncUser userID =>
    exact same ((runKeeps_identified userID).syncUser.map) run
  | deleteAccount userID _ =>
    exact same ((maintains_deleteAccount (maintains_identified rfl) (maintains_identified rfl)
      (maintains_identified rfl)).map) run
  | pruneOldData =>
    exact same (maintains_pruneOldData (maintains_identified rfl) (maintains_identified rfl)
      (fun _ => maintains_identified rfl)) run
  | handleExtraction platform fetched =>
    exact same ((maintains_handleExtraction (fun _ => maintains_identified rfl)
      (fun _ _ => maintains_identified rfl) (maintains_identified rfl)).map) run

end Operations

/-! ### Histories -/

theorem Identified.lapse (identified : Identified valkey owner before)
    (lapse : Lapse before after) : Identified valkey owner after := by
  refine identified.inherits ⟨?_, lapse.users, ?_⟩
  · rw [lapse.database]
    exact fun _ user found => ⟨user, found, rfl⟩
  · rw [lapse.database]
    exact fun _ member => member

theorem identified_after_history {syncer : Syncer} {permits : Permits} {first last : World}
    (untracked : first.database.syncedEvents.rows = [])
    (uncached : ∀ userID, first.valkey.users userID = none)
    (history : History syncer permits first last) :
    ∃ owner, Identified syncer.valkey owner last := by
  refine history.keeps (fun world => ∃ owner, Identified syncer.valkey owner world) ?_
    (fun _ _ _ _ _ _ ⟨owner, identified⟩ => ⟨owner, { identified with }⟩) ?_ ?_
  · rintro before after remote operation _ run ⟨owner, identified⟩
    obtain ⟨owner', _, after⟩ := identified_of_turn run identified
    exact ⟨owner', after⟩
  · rintro before after lapse ⟨owner, identified⟩
    exact ⟨owner, identified.lapse lapse⟩
  · refine ⟨fun userID => ((first.database.users.find userID).map UserRow.googleID).getD "",
      ?_, ?_, ?_⟩
    · intro userID user found
      simp [found]
    · intro _ userID user hit
      rw [uncached userID] at hit
      cases hit
    · rw [untracked]
      exact nofun

theorem Identified.faithful {world : World}
    (identified : Identified valkey owner world) {googleID : String}
    (own : googleID = owner userID) : world.Faithful userID googleID := by
  intro row member ofUser
  rw [own, ← ofUser]
  exact identified.tracked row member

/-- The hypothesis under which runs of `SyncUser` converge holds in every state
that the service can reach. -/
theorem faithful_after_history {syncer : Syncer} {permits : Permits} {first last : World}
    (untracked : first.database.syncedEvents.rows = [])
    (uncached : ∀ userID, first.valkey.users userID = none)
    (history : History syncer permits first last) {user : UserRow}
    (stored : user ∈ last.database.users.rows) : last.Faithful user.id user.googleID := by
  obtain ⟨owner, identified⟩ := identified_after_history untracked uncached history
  exact identified.faithful (identified.stored user.id user (Keyed.Table.find_of_mem stored))

/-- The service tracks a round for a user. -/
theorem faithful_after_synced_round :
    let last := replay cachingSyncer
      [.googleCallback sampleLogin, .savePreferences 1 (some ["codeforces"]) false,
        .handleExtraction "codeforces" (some [codeforcesRound 5000]), .syncUser 1] emptyWorld
    ∃ user ∈ last.database.users.rows, last.Faithful user.id user.googleID := by
  intro last
  have history : History cachingSyncer (fun _ _ _ => True) emptyWorld last :=
    history_replay _ ⟨trivial, trivial, trivial, trivial, trivial⟩
  exact ⟨_, List.mem_singleton.mpr rfl,
    faithful_after_history rfl (fun _ => rfl) history (List.mem_singleton.mpr rfl)⟩

end ContestSync
