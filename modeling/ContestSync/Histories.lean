/-
Operations executed one after another, as in a single session with the service.
The database and Valkey answer every request; a call to Google or to the queue
may fail in any way, before or after it takes effect. Between two operations time
passes and keys of Valkey expire.
-/

import ContestSync.Handlers
import ContestSync.Resumable.RelyGuarantee

namespace ContestSync

open Resumable Program

inductive Operation where
  | googleCallback (login : Login)
  | me (userID : Int)
  | savePreferences (userID : Int) (requested : Option (List String)) (useDedicated : Bool)
  | syncUser (userID : Int)
  | deleteAccount (userID : Int) (deleteGoogleData : Bool)
  | pruneOldData
  | handleExtraction (platform : String) (fetched : Option (List Contest))
deriving DecidableEq

/-- The handlers and the synchronizer are configured alike. -/
def Operation.program (syncer : Syncer) : Operation → Program service Unit
  | .googleCallback login => do
      let _ ← Handlers.googleCallback ⟨syncer.valkey⟩ login
  | .me userID => do
      let _ ← Handlers.me ⟨syncer.valkey⟩ userID
  | .savePreferences userID requested useDedicated => do
      let _ ← Handlers.savePreferences ⟨syncer.valkey⟩ userID requested useDedicated
  | .syncUser userID => do
      let _ ← syncer.syncUser userID
  | .deleteAccount userID _ => do
      let _ ← Handlers.deleteAccount ⟨syncer.valkey⟩ userID
  | .pruneOldData => ContestSync.pruneOldData syncer.valkey
  | .handleExtraction platform fetched => do
      let _ ← ContestSync.handleExtraction syncer.valkey platform fetched

/-! ### Outcomes -/

def Request.remote : Request → Bool
  | .getPrimary _ _ => true
  | .insertCalendar _ _ _ => true
  | .insertEvent _ _ _ _ => true
  | .updateEvent _ _ _ _ _ => true
  | .deleteEvent _ _ _ _ => true
  | .publishSyncTask _ => true
  | _ => false

/-- The outcomes of one operation: `remote` says how remote calls may end. -/
def Reliable (remote : Request → Outcome → Prop) (request : Request) (outcome : Outcome) :
    Prop :=
  if request.remote then remote request outcome else outcome = .served

/-- The assertions about one operation that nothing else overlaps. -/
abbrev alone (remote : Request → Outcome → Prop) : Specification service World :=
  (solo environment (Reliable remote)).spec

section Rules

variable {α : Type} {post : α → World → Prop} {world : World} {remote : Request → Outcome → Prop}
  {request : Request} {invariant : World → Prop} {next : request.Answer → Program service α}

theorem ensures_local (onSite : request.remote = false)
    (follows : ∀ answer, answer = (world.handle request).2 →
      Ensures (alone remote) post (next answer) (world.handle request).1) :
    Ensures (alone remote) post (ask request >>= next) world := by
  intro outcome admitted
  refine ⟨trivial, ?_⟩
  rintro later rfl
  change Reliable remote request outcome at admitted
  rw [Reliable, onSite] at admitted
  cases admitted
  exact follows _ rfl

theorem ensures_selectUser {userID : Int} {next : Option (Option UserRow) → Program service α}
    (absent : world.database.users.find userID = none →
      Ensures (alone remote) post (next (some none)) world)
    (present : ∀ row, world.database.users.find userID = some row →
      Ensures (alone remote) post (next (some (some row))) world) :
    Ensures (alone remote) post (ask (.selectUser userID) >>= next) world := by
  apply ensures_local rfl
  intro answer selected
  cases found : world.database.users.find userID with
  | none =>
    cases selected.trans (congrArg some found)
    exact absent found
  | some row =>
    cases selected.trans (congrArg some found)
    exact present row found

theorem ensures_remote (distant : request.remote = true)
    (served : remote request .served → ∀ answer, answer = (world.handle request).2 →
      Ensures (alone remote) post (next answer) (world.handle request).1)
    (failed : ∀ error later, later = world ∨ later = (world.handle request).1 →
      Ensures (alone remote) post (next (request.failure error)) later) :
    Ensures (alone remote) post (ask request >>= next) world := by
  intro outcome admitted
  refine ⟨trivial, ?_⟩
  rintro later rfl
  change Reliable remote request outcome at admitted
  rw [Reliable, distant] at admitted
  cases outcome with
  | served => exact served admitted _ rfl
  | lost error => exact failed error _ (Or.inl rfl)
  | late error => exact failed error _ (Or.inr rfl)

/-- A failed request has taken effect or has not, so that an invariant only has
to be kept by the effect. -/
theorem maintains_ask (keeps : ∀ world, invariant world → invariant (world.handle request).1) :
    Maintains (alone remote) invariant (ask request) := by
  intro world holds outcome _admitted
  refine ⟨trivial, ?_⟩
  rintro later rfl
  cases outcome with
  | served => exact keeps world holds
  | lost error => exact holds
  | late error => exact keeps world holds

theorem yields_ask {known : request.Answer → Prop} (keeps : ∀ world, invariant world →
      invariant (world.handle request).1 ∧ known (world.handle request).2)
    (failed : ∀ error, known (request.failure error)) :
    Yields (alone remote) invariant known (ask request) := by
  intro world holds outcome _admitted
  obtain ⟨kept, answered⟩ := keeps world holds
  refine ⟨trivial, ?_⟩
  rintro later rfl
  cases outcome with
  | served => exact ⟨kept, answered⟩
  | lost error => exact ⟨holds, failed error⟩
  | late error => exact ⟨kept, failed error⟩

theorem ensures_discard {program : Program service α}
    (ensured : Ensures (alone remote) (fun _ => invariant) program world) :
    Ensures (alone remote) (fun _ => invariant) (program >>= fun _ => .done ()) world :=
  ensured.bind

end Rules

/-! ### Histories -/

structure Lapse (before after : World) : Prop where
  database : after.database = before.database
  accounts : after.accounts = before.accounts
  syncing : after.syncing = before.syncing
  now : before.now ≤ after.now
  users : ∀ userID, after.valkey.users userID = before.valkey.users userID ∨
    after.valkey.users userID = none
  syncedEvents : ∀ userID, after.valkey.syncedEvents userID = before.valkey.syncedEvents userID ∨
    after.valkey.syncedEvents userID = none
  contests : ∀ platform, after.valkey.contests platform = before.valkey.contests platform ∨
    after.valkey.contests platform = none
  locks : ∀ userID, after.valkey.locks userID = true → before.valkey.locks userID = true

/-- What may happen: an operation, the outcomes of its remote calls and the
world it starts in. -/
abbrev Permits : Type :=
  World → (Request → Outcome → Prop) → Operation → Prop

/-- What is left to the background: the clean-up of `DeleteAccount`. It may end
anywhere, so that nothing is assumed of the Google account that it leaves. -/
def Operation.Cleans (operation : Operation) (answered after : World) : Prop :=
  after = answered ∨ ∃ userID account, operation = .deleteAccount userID true ∧
    after = answered.setAccount userID account

/-- One operation that was permitted where it started, or a pause. -/
def Turn (syncer : Syncer) (permits : Permits) (before after : World) : Prop :=
  (∃ remote operation answered, permits before remote operation ∧
    Runs environment (Reliable remote) before (operation.program syncer) answered () ∧
    operation.Cleans answered after) ∨
  Lapse before after

abbrev History (syncer : Syncer) (permits : Permits) : World → World → Prop :=
  Relation.ReflTransGen (Turn syncer permits)

variable {syncer : Syncer} {permits : Permits}

/-- An invariant of every operation and every pause is one of every history. -/
theorem History.keeps {first last : World}
    (history : History syncer permits first last) (invariant : World → Prop)
    (operations : ∀ before after remote operation, permits before remote operation →
      Runs environment (Reliable remote) before (operation.program syncer) after () →
      invariant before → invariant after)
    (cleanups : ∀ before remote userID world account,
      permits before remote (.deleteAccount userID true) → invariant world →
      invariant (world.setAccount userID account))
    (pauses : ∀ before after, Lapse before after → invariant before → invariant after)
    (holds : invariant first) : invariant last := by
  induction history with
  | refl => exact holds
  | tail _ turn ih =>
    rcases turn with ⟨remote, operation, answered, permitted, run, cleans⟩ | lapse
    · have kept := operations _ _ remote operation permitted run ih
      rcases cleans with rfl | ⟨userID, account, rfl, rfl⟩
      · exact kept
      · exact cleanups _ _ _ _ account permitted kept
    · exact pauses _ _ lapse ih

/-! ### A fresh installation -/

def emptyAccount : Account :=
  { events := fun _ _ => none
    timezone := "UTC"
    calendars := []
    supply := fun index => "calendar" ++ toString index
    retains := fun _ => true }

def emptyWorld : World :=
  { database := .empty
    valkey := .empty
    accounts := fun _ => emptyAccount
    syncing := []
    tasks := []
    now := unixTime 1000 }

def cachingSyncer : Syncer :=
  { process := 0
    valkey := true
    decryptToken := some }

def sampleLogin : Login :=
  { googleID := "1080"
    email := "user@example.com"
    refreshToken := "token"
    hasCalendarAccess := true }

def codeforcesRound (startTime : Int) : Contest :=
  { id := generateContestID "codeforces" startTime
    name := "Codeforces Round"
    url := "https://codeforces.com/contestRegistration/1"
    startTime := startTime
    endTime := startTime + 7200
    duration := 7200
    platform := "codeforces" }

/-- Remote calls are served as well. -/
def servedRemote (_request : Request) (outcome : Outcome) : Prop :=
  outcome = .served

def replay (syncer : Syncer) (operations : List Operation) (world : World) : World :=
  operations.foldl (fun world operation =>
      (complete environment (fun _ _ => .served) (operation.program syncer) world).1)
    world

def PermittedAlong (syncer : Syncer) (permits : Permits) : List Operation → World → Prop
  | [], _ => True
  | operation :: rest, world => permits world servedRemote operation ∧
      PermittedAlong syncer permits rest (replay syncer [operation] world)

theorem runs_served {α : Type} (program : Program service α) (world : World) :
    Runs environment (Reliable servedRemote) world program
      (complete environment (fun _ _ => .served) program world).1
      (complete environment (fun _ _ => .served) program world).2 := by
  refine complete_steps environment _ _ _ ?_ _ world
  intro _ request
  unfold Reliable servedRemote
  split <;> rfl

theorem runs_replay (syncer : Syncer) (operation : Operation) (world : World) :
    Runs environment (Reliable servedRemote) world (operation.program syncer)
      (replay syncer [operation] world) () :=
  runs_served (operation.program syncer) world

/-- A user who has logged in and has not chosen any platforms. -/
def loggedIn : World :=
  replay cachingSyncer [.googleCallback sampleLogin] emptyWorld

/-- A round has been announced, and the user has selected its platform. -/
def announcedRound : World :=
  replay cachingSyncer [.googleCallback sampleLogin, .savePreferences 1 (some ["codeforces"]) false,
      .handleExtraction "codeforces" (some [codeforcesRound 5000])] emptyWorld

theorem history_replay (operations : List Operation)
    {world : World} (permitted : PermittedAlong syncer permits operations world) :
    History syncer permits world (replay syncer operations world) := by
  induction operations generalizing world with
  | nil => exact .refl
  | cons operation rest ih =>
    exact .head (Or.inl ⟨servedRemote, operation, _, permitted.1,
      runs_replay syncer operation world, .inl rfl⟩) (ih permitted.2)

end ContestSync
