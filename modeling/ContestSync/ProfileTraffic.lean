/-
The operations that share the profile of one user, as jobs of a pool of workers:
`Me`, `SavePreferences`, `SyncUser` in any process, `GoogleCallback` and
`DeleteAccount`. They meet in the user's row and in its cached copy, and this
module says what a single request does to the row.
-/

import ContestSync.Footprints
import ContestSync.Histories
import ContestSync.Resumable.Pool

namespace ContestSync

open Resumable Program

inductive Activity where
  | me
  | savePreferences (requested : Option (List String)) (useDedicated : Bool)
  | syncUser (process : Nat)
  | googleCallback (login : Login)
  | deleteAccount
deriving DecidableEq

inductive Response where
  | profile (answer : Option Handlers.UserResponse)
  | saved (answer : Handlers.SaveResponse)
  | synced (result : Except SyncError Unit)
  | called (answer : Handlers.CallbackResponse)
  | deleted (answer : Handlers.DeleteResponse)

/-- The handlers are configured like the synchronizer; a run may be started in
any process. -/
def Syncer.activity (syncer : Syncer) (userID : Int) : Activity → Program service Response
  | .me => do
      let answer ← Handlers.me ⟨syncer.valkey⟩ userID
      return .profile answer
  | .savePreferences requested useDedicated => do
      let answer ← Handlers.savePreferences ⟨syncer.valkey⟩ userID requested useDedicated
      return .saved answer
  | .syncUser process => do
      let result ← { syncer with process := process }.syncUser userID
      return .synced result
  | .googleCallback login => do
      let answer ← Handlers.googleCallback ⟨syncer.valkey⟩ login
      return .called answer
  | .deleteAccount => do
      let answer ← Handlers.deleteAccount ⟨syncer.valkey⟩ userID
      return .deleted answer

def Activity.isSync : Activity → Bool
  | .syncUser _ => true
  | _ => false

/-- Only `SyncUser` deletes an account for a rejected token. -/
def Request.rejects : Request → Bool
  | .deleteUser _ (some _) => true
  | _ => false

variable {userID : Int}

section Invariants

variable {S : Type} {spec : Specification service S} {invariant : S → Prop}

theorem maintains_discard {α β : Type} {program : Program service α} {result : α → β}
    (maintains : Maintains spec invariant program) :
    Maintains spec invariant (program >>= fun value => .done (result value)) :=
  maintains.map

theorem Syncer.maintains_activity {syncer : Syncer} {activity : Activity}
    (handler : activity.isSync = false)
    (keeps : ∀ request, request.rejects = false → request.locking = false →
      Maintains spec invariant (ask request)) :
    Maintains spec invariant (syncer.activity userID activity) := by
  have loads : Maintains spec invariant (loadSyncProfile syncer.valkey userID) :=
    maintains_loadSyncProfile (keeps _ rfl rfl) (keeps _ rfl rfl) (fun _ => keeps _ rfl rfl)
  cases activity with
  | me =>
    exact maintains_discard (maintains_me (fun _ => True) (keeps _ rfl rfl)
      ((keeps (.selectUser userID) rfl rfl).yields (fun _ _ _ => trivial))
      (fun _ _ => keeps _ rfl rfl))
  | savePreferences requested useDedicated =>
    exact maintains_discard (maintains_savePreferences loads (keeps _ rfl rfl) (keeps _ rfl rfl))
  | syncUser process => cases handler
  | googleCallback login =>
    exact maintains_discard (maintains_googleCallback (keeps _ rfl rfl) (fun _ => keeps _ rfl rfl)
      (fun _ => keeps _ rfl rfl))
  | deleteAccount =>
    exact maintains_discard (maintains_deleteAccount (keeps _ rfl rfl) (keeps _ rfl rfl)
      (keeps _ rfl rfl))

end Invariants

/-! ### What a request does to a row -/

/-- The row after the request, `none` when it is deleted. -/
def Request.effect (now : Timestamp) (row : UserRow) : Request → Option UserRow
  | .markSyncing owner => some (if row.id = owner then Database.markSyncing.apply row else row)
  | .markSynced owner status =>
    some (if row.id = owner then (Database.markSynced status now).apply row else row)
  | .setCalendarID owner calendarID =>
    some (if row.id = owner then (Database.setCalendarID calendarID).apply row else row)
  | .updatePreferences owner platforms useDedicated =>
    some (if row.id = owner then (Database.updatePreferences platforms useDedicated).apply row
      else row)
  | .upsertUser login =>
    some (if row.googleID = login.googleID then
      (Database.loginChange login.email login.refreshToken login.hasCalendarAccess).apply row
      else row)
  | .deleteUser owner _ => if row.id = owner then none else some row
  | .pruneUsers =>
    if row.refreshToken.getD "" = "" ∧ row.createdAt < now - Database.dayInterval then none
    else some row
  | _ => some row

variable {database : Database}

theorem Database.find_updateUser_bind {owner : Int} {change : Database.UserChange} :
    (database.updateUser owner change).users.find userID = (database.users.find userID).bind
        (fun row => some (if row.id = owner then change.apply row else row)) := by
  rw [find_updateUser]
  cases found : database.users.find userID with
  | none => split <;> rfl
  | some row =>
    obtain ⟨_, atID⟩ := Keyed.Table.find_eq_some_iff.mp found
    rw [Option.bind_some, atID]
    split <;> rfl

theorem Database.find_deleteUsers_bind {condition : UserRow → Prop} [DecidablePred condition] :
    (database.deleteUsers (fun row => condition row)).users.find userID =
      (database.users.find userID).bind (fun row => if condition row then none else some row) := by
  rw [find_deleteUsers]
  cases database.users.find userID with
  | none => rfl
  | some row =>
    rw [Option.bind_some, Option.filter]
    by_cases meets : condition row
    · simp [meets]
    · simp [meets]

theorem Database.find_upsertUser {login : Login} {now : Timestamp}
    (issued : userID < database.serial) :
    (database.upsertUser login.googleID login.email login.refreshToken login.hasCalendarAccess
        now).1.users.find userID =
      (database.users.find userID).bind (fun row => some (if row.googleID = login.googleID then
        (loginChange login.email login.refreshToken login.hasCalendarAccess).apply row
        else row)) := by
  rcases database.upsertUser_cases login.googleID login.email login.refreshToken
    login.hasCalendarAccess now with ⟨user, member, same, called⟩ | ⟨next, unused, called⟩
  · rw [called, find_updateUser]
    cases found : database.users.find userID with
    | none => split <;> rfl
    | some row =>
      obtain ⟨present, atID⟩ := Keyed.Table.find_eq_some_iff.mp found
      rw [Option.bind_some]
      by_cases own : row.googleID = login.googleID
      · have identical := database.user_eq_of_googleID present member (own.trans same.symm)
        rw [if_pos own, ← identical, if_pos atID.symm, Option.map_some]
      · have different : userID ≠ user.id := by
          intro equal
          have again : database.users.find user.id = some user :=
            Keyed.Table.find_of_mem member
          rw [← equal, found] at again
          cases again
          exact own same
        rw [if_neg own, if_neg different]
  · rw [called]
    have different : userID ≠ database.serial := Int.ne_of_lt issued
    have kept := Keyed.Table.find_insert (database.unissued next) different
    change (database.users.insert _ (database.unissued next)).find userID = _
    rw [kept]
    cases found : database.users.find userID with
    | none => rfl
    | some row =>
      obtain ⟨present, _⟩ := Keyed.Table.find_eq_some_iff.mp found
      have other : row.googleID ≠ login.googleID := unused row present
      rw [Option.bind_some, if_neg other]

theorem find_handle (world : World) (request : Request) (issued : userID < world.database.serial) :
    (world.handle request).1.database.users.find userID =
      (world.database.users.find userID).bind (fun row => request.effect world.now row) := by
  have frame := frame_handle world request
  cases request
  case markSyncing owner => exact Database.find_updateUser_bind
  case markSynced owner status => exact Database.find_updateUser_bind
  case setCalendarID owner calendarID => exact Database.find_updateUser_bind
  case updatePreferences owner platforms useDedicated => exact Database.find_updateUser_bind
  case upsertUser login => exact Database.find_upsertUser issued
  case deleteUser owner rejected => exact Database.find_deleteUsers_bind
  case pruneUsers => exact Database.find_deleteUsers_bind
  all_goals
    rw [frame.users rfl]
    exact (Option.bind_fun_some _).symm

variable {world : World} {request : Request}

/-- A request that fails has taken effect or has not. -/
theorem World.serve_keeps (holds : World → Prop)
    (outcome : Outcome) (unchanged : holds world) (handled : holds (world.handle request).1) :
    holds (world.serve request outcome).1 := by
  cases outcome with
  | served => exact handled
  | lost error => exact unchanged
  | late error => exact handled

theorem World.serve_effective {outcome : Outcome} (effective : ∀ error, outcome ≠ .lost error) :
    (world.serve request outcome).1 = (world.handle request).1 := by
  cases outcome with
  | served => rfl
  | lost error => exact absurd rfl (effective error)
  | late error => rfl

/-! ### The profile in an answer -/

/-- The profile of the user that an answer gives to `loadSyncProfile`. -/
def answeredProfile (userID : Int) : (request : Request) → request.Answer → Option CachedUser
  | .getCachedUser owner, some user => if owner = userID then some user else none
  | .selectUser owner, some (some row) => if owner = userID then scanSyncProfile row else none
  | _, _ => none

/-- A memory that follows the answers has the profile when `loadSyncProfile` has. -/
theorem ensures_loadSyncProfile_noted {A M R : Type} {work : Workforce service A M R}
    {allows : A → M → Request → Prop} {job : A} {valkey : Bool} (unread : M → Prop)
    (read : CachedUser → M → Prop)
    (notes : ∀ request : Request, request = .getCachedUser userID ∨ request = .selectUser userID →
      ∀ memory, unread memory → allows job memory request ∧ ∀ answer,
        (answeredProfile userID request answer = none →
          unread (work.record job memory request answer)) ∧
        ∀ user, answeredProfile userID request answer = some user →
          read user (work.record job memory request answer))
    (fills : ∀ user, Maintains (work.watch allows job) (read user)
      (ask (.setCachedUser userID user))) {memory : M} (holds : unread memory) :
    Ensures (work.watch allows job) (fun found later => ∀ user, found = some user → read user later)
      (loadSyncProfile valkey userID) memory := by
  refine ensures_loadSyncProfile_read unread read ?_ ?_ fills holds
  · intro memory fresh
    obtain ⟨allowed, noted⟩ := notes _ (.inl rfl) memory fresh
    refine ⟨allowed, fun answer => ⟨?_, ?_⟩⟩
    · rintro rfl
      exact (noted none).1 rfl
    · rintro user rfl
      exact (noted (some user)).2 user (if_pos rfl)
  · intro memory fresh
    obtain ⟨allowed, noted⟩ := notes _ (.inr rfl) memory fresh
    refine ⟨allowed, fun answer => ?_⟩
    rintro row user rfl scanned
    exact (noted _).2 user ((if_pos rfl).trans scanned)

theorem answeredProfile_serve {outcome : Outcome} {user : CachedUser}
    (answered : answeredProfile userID request (world.serve request outcome).2 = some user) :
    (request = .getCachedUser userID ∧ world.valkey.users userID = some user) ∨
      (request = .selectUser userID ∧
        ∃ row, world.database.users.find userID = some row ∧ scanSyncProfile row = some user) := by
  cases request
  case getCachedUser owner =>
    cases outcome with
    | lost error => cases answered
    | late error => cases answered
    | served =>
      change answeredProfile userID (.getCachedUser owner) (world.valkey.users owner) = _
        at answered
      cases hit : world.valkey.users owner with
      | none =>
        rw [hit] at answered
        cases answered
      | some cached =>
        rw [hit] at answered
        change (if owner = userID then some cached else none) = some user at answered
        split at answered
        · rename_i same
          subst same
          exact Or.inl ⟨rfl, hit.trans answered⟩
        · cases answered
  case selectUser owner =>
    cases outcome with
    | lost error => cases answered
    | late error => cases answered
    | served =>
      change answeredProfile userID (.selectUser owner)
        (some (world.database.users.find owner)) = _ at answered
      cases found : world.database.users.find owner with
      | none =>
        rw [found] at answered
        cases answered
      | some row =>
        rw [found] at answered
        change (if owner = userID then scanSyncProfile row else none) = some user at answered
        split at answered
        · rename_i same
          subst same
          exact Or.inr ⟨rfl, row, found, answered⟩
        · cases answered
  all_goals cases answered

/-! ### Pools -/

/-- Every request may be served with any outcome, and time passes. -/
def anyOutcome (ι M : Type) : Pool.Rules environment ι Activity M Response :=
  { permits := fun _ _ _ _ => True
    disturbs := Lapse }

def newPool {M : Type} (work : Workforce service Activity M Response) (world : World) :
    Pool environment Nat Activity M Response :=
  { state := world
    job := fun _ => .me
    rest := fun _ => .done (.profile none)
    memory := fun _ => work.fresh .me }

theorem newPool_idle {M : Type} (work : Workforce service Activity M Response) (world : World)
    (who : Nat) : (newPool work world).Idle who :=
  ⟨.profile none, rfl⟩

/-- A worker starts a job and makes its first requests, all of them served. -/
def servedMoves (who : Nat) (activity : Activity) (requests : Nat) :
    List (Pool.Move environment Nat Activity) :=
  .start who activity :: List.replicate requests (.serve who .served)

end ContestSync
