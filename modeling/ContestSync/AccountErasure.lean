/-
`DeleteAccount` with `delete_google_data=true`. The handler reads the row of the
user and the tracked events, starts the clean-up of the Google account in the
background and deletes the row. What the clean-up removes is decided by the row
alone: the calendar that it names, or else the first two hundred tracked events of
the primary calendar. What `SyncUser` has left behind is the trace of a history.
-/

import ContestSync.Histories
import ContestSync.RequestFrames
import ContestSync.Resumable.Merge

namespace ContestSync

open Resumable Program Function

/-- `Calendars.Delete`. -/
def Account.deleteCalendar (account : Account) (calendarID : String) :
    Account × Option GoogleError :=
  if calendarID ∈ account.calendars then
    ({ account with
        events := update account.events calendarID (fun _ => none)
        calendars := account.calendars.filter (fun other => other ≠ calendarID) }, none)
  else (account, some .notFound)

namespace Erasure

/-! ### The service -/

/-- What `DeleteAccount` asks besides the requests that it shares with the others. -/
inductive Request where
  | shared (request : ContestSync.Request)
  | selectEventIDs (userID : Int)
  | deleteCalendar (userID : Int) (token calendarID : String)
  | revokeToken (token : String)

abbrev Request.Answer : Request → Type
  | .shared request => request.Answer
  | .selectEventIDs _ => Option (List String)
  | .deleteCalendar _ _ _ => Option GoogleError
  | .revokeToken _ => Bool

abbrev service : Interface :=
  { Request := Request
    Answer := Request.Answer }

abbrev ask (request : Request) : Program service request.Answer :=
  .call request .done

/-- `SELECT google_event_id FROM synced_events WHERE user_id = $1`. -/
def selectEventIDs (database : Database) (userID : Int) : List String :=
  (database.syncedEvents.rows.filter (fun row => row.userID = userID)).map SyncedEvent.googleEventID

def handle (world : World) : (request : Request) → World × request.Answer
  | .shared request => world.handle request
  | .selectEventIDs userID => (world, some (selectEventIDs world.database userID))
  | .deleteCalendar userID _ calendarID =>
    let called := (world.accounts userID).deleteCalendar calendarID
    (world.setAccount userID called.1, called.2)
  | .revokeToken _ => (world, true)

def failure (error : GoogleError) : (request : Request) → request.Answer
  | .shared request => request.failure error
  | .selectEventIDs _ => none
  | .deleteCalendar _ _ _ => some error
  | .revokeToken _ => false

def serve (world : World) (request : Request) : Outcome → World × request.Answer
  | .served => handle world request
  | .lost error => (world, failure error request)
  | .late error => ((handle world request).1, failure error request)

abbrev environment : Environment service :=
  { State := World
    Outcome := Outcome
    serve := serve }

def allServed (_request : Request) (outcome : Outcome) : Prop :=
  outcome = .served

/-! ### The handler and the clean-up -/

structure Cleanup where
  token : String
  deleteGoogleData : Bool
  calendarID : String
  eventIDs : List String
deriving DecidableEq

variable (decryptToken : String → Option String)

/-- Whether the clean-up is started: not without a token. -/
def startCleanup (encrypted calendarID : String)
    (deleteGoogleData : Bool) (eventIDs : List String) : Option Cleanup :=
  if encrypted = "" then none
  else
    match decryptToken encrypted with
    | none => none
    | some token =>
      if token = "" then none
      else
        some
          { token := token
            deleteGoogleData := deleteGoogleData
            calendarID := calendarID
            eventIDs := eventIDs }

/-- Up to the start of the clean-up; an error is the answer for a user that is not in
the table. A `NULL` token fails the `Scan`, which is only logged. -/
def readAccount (userID : Int) (deleteGoogleData : Bool) :
    Program service (Except Handlers.DeleteResponse (Option Cleanup)) := do
  match ← ask (.shared (.selectUser userID)) with
  | none => return .ok none
  | some none => return .error .deleted
  | some (some row) =>
    match row.refreshToken with
    | none => return .ok none
    | some encrypted =>
      let selected ← if deleteGoogleData then ask (.selectEventIDs userID) else pure none
      return .ok (startCleanup decryptToken encrypted (row.calendarID.getD "")
        deleteGoogleData (selected.getD []))

/-- What the handler goes on with; it does not wait for the clean-up. -/
def finishDeletion (valkey : Bool) (userID : Int) : Program service Handlers.DeleteResponse := do
  if ← ask (.shared (.deleteUser userID none)) then
    if valkey then
      ask (.shared (.deleteCachedUser userID))
    return .deleted
  else
    return .internalError

def calendarAttempt (userID : Int) (token calendarID : String) :
    Program service (Except GoogleError Unit) := do
  match ← ask (.deleteCalendar userID token calendarID) with
  | none => return .ok ()
  | some error =>
    if error.code = some 404 ∨ error.code = some 400 ∨ error.code = some 401 then
      return .ok ()
    else
      return .error error

/-- The result tells whether the token was found to be bad. -/
def eventAttempt (userID : Int) (token eventID : String) :
    Program service (Except GoogleError Bool) := do
  match ← ask (.shared (.deleteEvent userID token "primary" eventID)) with
  | none => return .ok false
  | some error =>
    if error.code = some 404 ∨ error.code = some 410 then
      return .ok false
    else if error.code = some 400 ∨ error.code = some 401 then
      return .ok true
    else
      return .error error

/-- The deletions are started one after another; a bad token ends the loop. -/
def removeEvents (userID : Int) (token : String) : List String → Program service Unit
  | [] => return ()
  | eventID :: rest => do
      match ← retry (eventAttempt userID token eventID) 2 with
      | .ok true => return ()
      | _ => removeEvents userID token rest

def googleCleanup (userID : Int) (cleanup : Cleanup) : Program service Unit := do
  if cleanup.deleteGoogleData then
    if cleanup.calendarID ≠ "" ∧ cleanup.calendarID ≠ "primary" then
      let _ ← retry (calendarAttempt userID cleanup.token cleanup.calendarID) 2
    else
      removeEvents userID cleanup.token (cleanup.eventIDs.take 200)
  let _ ← ask (.revokeToken cleanup.token)
  return ()

def deletion (valkey : Bool) (userID : Int) (cleanup : Option Cleanup) (background : Bool) :
    Program service Unit := do
  if background then
    match cleanup with
    | none => return ()
    | some cleanup => googleCleanup userID cleanup
  else
    let _ ← finishDeletion valkey userID
    return ()

/-- The request has been answered and the clean-up has ended, every call having
succeeded. -/
def Deletes (valkey : Bool) (decryptToken : String → Option String) (userID : Int)
    (before after : World) : Prop :=
  let read := complete environment (fun _ _ => .served)
    (readAccount decryptToken userID true) before
  match read.2 with
  | .error _ => after = read.1
  | .ok cleanup => ∃ residue, Interleaved environment allServed Lapse read.1
      (deletion valkey userID cleanup) after residue ∧ ∀ who, residue who = .done ()

/-! ### A clean-up in a history -/

/-- Each call of the clean-up leaves everything but the account as it is. -/
def clearing (userID : Int) : Contract environment :=
  { admits := fun _ _ => True
    rely := fun before after => after = before
    guarantee := fun before after => ∃ account, after = before.setAccount userID account }

theorem setAccount_self (world : World) (userID : Int) :
    world = world.setAccount userID (world.accounts userID) := by
  rw [World.setAccount, update_eq_self]

section Clearing

variable {userID : Int}

theorem maintains_clearing (request : Request)
    (clears : ∀ world, ∃ account, (handle world request).1 = world.setAccount userID account) :
    Maintains (clearing userID).spec (fun _ => True) (ask request) := by
  intro world _ outcome _
  refine ⟨?_, fun _ _ => trivial⟩
  cases outcome with
  | lost error => exact ⟨_, setAccount_self world userID⟩
  | served | late error => exact clears world

theorem maintains_googleCleanup (cleanup : Cleanup) :
    Maintains (clearing userID).spec (fun _ => True) (googleCleanup userID cleanup) := by
  have revoked := maintains_clearing (.revokeToken cleanup.token)
    (fun world => ⟨_, setAccount_self world userID⟩)
  unfold googleCleanup
  refine maintains_ite (fun _ => maintains_ite (fun _ => ?_) (fun _ => ?_)) (fun _ => revoked.map)
  · refine Maintains.bind (maintains_retry (Maintains.bind
      (maintains_clearing _ (fun _ => ⟨_, rfl⟩)) ?_) 2) (fun _ => revoked.map)
    rintro (_ | error)
    · exact maintains_done _
    · exact maintains_ite (fun _ => maintains_done _) (fun _ => maintains_done _)
  · refine Maintains.bind ?_ (fun _ => revoked.map)
    induction cleanup.eventIDs.take 200 with
    | nil => exact maintains_done ()
    | cons eventID rest ih =>
      refine Maintains.bind (maintains_retry (Maintains.bind
        (maintains_clearing _ (fun _ => ⟨_, rfl⟩)) ?_) 2) ?_
      · rintro (_ | error)
        · exact maintains_done _
        · exact maintains_ite (fun _ => maintains_done _)
            (fun _ => maintains_ite (fun _ => maintains_done _) (fun _ => maintains_done _))
      · rintro (_ | _ | _)
        · exact ih
        · exact ih
        · exact maintains_done ()

/-- Wherever the clean-up ends, a history allows for it. -/
theorem cleans_of_steps {cleanup : Cleanup} {answered after : World}
    {residue : Program service Unit}
    (ran : Steps environment (fun _ _ => True) (fun _ _ => False) answered
      (googleCleanup userID cleanup) after residue) :
    (Operation.deleteAccount userID true).Cleans answered after := by
  have steady : (clearing userID).Steady (fun _ _ => False) :=
    ⟨fun _ => rfl, fun _ _ _ left right => right.trans left, fun _ _ => False.elim⟩
  have path := (Stably.steps steady ran
    (fun later _ => maintains_googleCleanup cleanup later trivial)).1
  clear ran
  refine .inr ⟨userID, after.accounts userID, rfl, ?_⟩
  induction path with
  | refl => exact setAccount_self answered userID
  | tail _ step ih =>
    obtain ⟨account, rfl⟩ := step.resolve_right id
    rw [ih]
    simp [World.setAccount]

end Clearing

/-! ### What the clean-up reaches -/

inductive Target where
  | nothing
  | calendar (calendarID : String)
  | events (eventIDs : List String)
deriving DecidableEq

def Cleanup.target (cleanup : Cleanup) : Target :=
  if cleanup.calendarID ≠ "" ∧ cleanup.calendarID ≠ "primary" then .calendar cleanup.calendarID
  else .events (cleanup.eventIDs.take 200)

/-- As far as the row and the tracked events tell. -/
def deletionTarget (userID : Int) (database : Database) :
    Target :=
  match database.users.find userID with
  | none => .nothing
  | some row =>
    match row.refreshToken with
    | none => .nothing
    | some encrypted =>
      (startCleanup decryptToken encrypted (row.calendarID.getD "") true
        (selectEventIDs database userID)).elim .nothing Cleanup.target

def Target.actions : Target → List (Account → Account)
  | .nothing => []
  | .calendar calendarID => [fun account => (account.deleteCalendar calendarID).1]
  | .events eventIDs =>
    eventIDs.map (fun eventID account => (account.deleteEvent "primary" eventID).1)

def Target.remove (target : Target) (account : Account) : Account :=
  target.actions.foldl (fun account action => action account) account

/-- Whether an event of the account is removed. -/
def Target.Includes (target : Target) (account : Account) (calendarID eventID : String) : Prop :=
  match target with
  | .nothing => False
  | .calendar named => calendarID = named ∧ named ∈ account.calendars
  | .events eventIDs => calendarID = "primary" ∧ eventID ∈ eventIDs

/-- Nothing is left of what `SyncUser` creates: no calendar, and no event under the
id that it gives to the event of a contest. -/
structure Erased (googleID : String) (account : Account) : Prop where
  calendars : account.calendars = []
  events : ∀ calendarID contestID,
    account.shown calendarID (generateDeterministicEventID googleID contestID) = none

/-- Everything that `SyncUser` has created and that is still there is what the
clean-up removes. -/
structure Within (googleID : String) (target : Target) (account : Account) : Prop where
  calendars : ∀ calendarID ∈ account.calendars, target = .calendar calendarID
  events : ∀ calendarID contestID,
    account.shown calendarID (generateDeterministicEventID googleID contestID) ≠ none →
      target.Includes account calendarID (generateDeterministicEventID googleID contestID)

/-! ### The account after the clean-up -/

theorem remove_calendar (named : String) (account : Account) :
    ((Target.calendar named).remove account).calendars =
        account.calendars.filter (fun other => other ≠ named) ∧
      ∀ calendarID eventID,
        ((Target.calendar named).remove account).shown calendarID eventID = none ↔
          account.shown calendarID eventID = none ∨
            calendarID = named ∧ named ∈ account.calendars := by
  change (account.deleteCalendar named).1.calendars = _ ∧
    ∀ calendarID eventID, (account.deleteCalendar named).1.shown calendarID eventID = none ↔ _
  unfold Account.deleteCalendar
  by_cases known : named ∈ account.calendars
  · rw [if_pos known]
    refine ⟨rfl, ?_⟩
    intro calendarID eventID
    unfold Account.shown
    by_cases same : calendarID = named
    · simp [same, known]
    · simp only [update_of_ne same, same, false_and, or_false]
  · rw [if_neg known]
    refine ⟨?_, fun calendarID eventID => by simp [known]⟩
    rw [List.filter_eq_self.mpr]
    intro other member
    exact decide_eq_true (fun same => known (same ▸ member))

theorem remove_events (eventIDs : List String) (account : Account) :
    ((Target.events eventIDs).remove account).calendars = account.calendars ∧ ∀ calendarID eventID,
        ((Target.events eventIDs).remove account).shown calendarID eventID = none ↔
          account.shown calendarID eventID = none ∨
            calendarID = "primary" ∧ eventID ∈ eventIDs := by
  induction eventIDs generalizing account with
  | nil => exact ⟨rfl, fun calendarID eventID => by simp [Target.remove, Target.actions]⟩
  | cons first rest ih =>
    obtain ⟨calendars, shown⟩ := ih (account.deleteEvent "primary" first).1
    have same := Account.sameBut_deleteEvent account "primary" first
    refine ⟨calendars.trans same.known, ?_⟩
    intro calendarID eventID
    refine (shown calendarID eventID).trans ?_
    by_cases primary : calendarID = "primary"
    · subst primary
      rw [Account.shown_deleteEvent]
      by_cases here : eventID = first
      · simp [here]
      · simp [here]
    · simp only [primary, false_and, or_false]
      unfold Account.shown
      rw [same.calendars calendarID primary]

theorem calendars_remove (target : Target) (account : Account) :
    (target.remove account).calendars =
      account.calendars.filter (fun calendarID => target ≠ .calendar calendarID) := by
  cases target with
  | nothing => exact (List.filter_eq_self.mpr fun _ _ => rfl).symm
  | calendar named =>
    rw [(remove_calendar named account).1]
    refine List.filter_congr ?_
    intro calendarID _
    simp [eq_comm]
  | events eventIDs =>
    rw [(remove_events eventIDs account).1]
    exact (List.filter_eq_self.mpr fun _ _ => rfl).symm

theorem shown_remove (target : Target) (account : Account) (calendarID eventID : String) :
    (target.remove account).shown calendarID eventID = none ↔
      account.shown calendarID eventID = none ∨ target.Includes account calendarID eventID := by
  cases target with
  | nothing => exact (or_iff_left (fun impossible => impossible)).symm
  | calendar named => exact (remove_calendar named account).2 calendarID eventID
  | events eventIDs => exact (remove_events eventIDs account).2 calendarID eventID

/-- The clean-up leaves nothing exactly when it is aimed at all there is. -/
theorem erased_remove_iff (googleID : String) (target : Target) (account : Account) :
    Erased googleID (target.remove account) ↔ Within googleID target account := by
  constructor
  · rintro ⟨calendars, events⟩
    rw [calendars_remove, List.filter_eq_nil_iff] at calendars
    refine ⟨?_, ?_⟩
    · intro calendarID member
      simpa using calendars calendarID member
    · intro calendarID contestID visible
      exact ((shown_remove target account _ _).mp (events calendarID contestID)).resolve_left
        visible
  · rintro ⟨calendars, events⟩
    refine ⟨?_, ?_⟩
    · rw [calendars_remove, List.filter_eq_nil_iff]
      intro calendarID member
      simpa using calendars calendarID member
    · intro calendarID contestID
      rw [shown_remove]
      exact or_iff_not_imp_left.mpr (events calendarID contestID)

/-! ### The programs and the account -/

section Programs

variable {userID : Int}

def ViewsAccount (userID : Int) (world : World) (account : Account) : Prop :=
  world.accounts userID = account

abbrev PerformsOn {α : Type} (userID : Int) (program : Program service α)
    (actions : List (Account → Account)) : Prop :=
  Performs environment allServed (fun action account => action account) (ViewsAccount userID)
    program actions

theorem answer_deleteEvent (world : World) (token eventID : String) :
    ∃ answer, (environment.serve world (.shared (.deleteEvent userID token "primary" eventID))
      .served).2 = answer ∧ answer ∈ [none, some .notFound, some .gone] := by
  refine ⟨_, rfl, ?_⟩
  change ((world.accounts userID).deleteEvent "primary" eventID).2 ∈ _
  unfold Account.deleteEvent
  split
  · simp
  · split
    · simp
    · simp

theorem answer_deleteCalendar (world : World) (token calendarID : String) :
    ∃ answer, (environment.serve world (.deleteCalendar userID token calendarID) .served).2 =
      answer ∧ answer ∈ [none, some .notFound] := by
  refine ⟨_, rfl, ?_⟩
  change ((world.accounts userID).deleteCalendar calendarID).2 ∈ _
  unfold Account.deleteCalendar
  split
  · simp
  · simp

theorem accounts_setAccount (world : World) (account : Account) :
    (world.setAccount userID account).accounts userID = account :=
  update_self _ _ _

theorem performs_revokeToken (token : String) :
    PerformsOn userID (ask (.revokeToken token) >>= fun _ => .done ()) [] := by
  refine .inr ?_
  rintro world account outcome rfl viewed
  exact ⟨viewed, rfl⟩

variable {token calendarID : String} {later : List (Account → Account)}
  {decryptToken : String → Option String}

theorem performs_removeEvents {α : Type} {next : Unit → Program service α}
    (performs : PerformsOn userID (next ()) later) (eventIDs : List String) :
    PerformsOn userID (removeEvents userID token eventIDs >>= next)
      ((Target.events eventIDs).actions ++ later) := by
  induction eventIDs with
  | nil => exact performs
  | cons eventID rest ih =>
    refine .inl ⟨_, _, rfl, ?_⟩
    rintro world account outcome rfl rfl
    refine ⟨accounts_setAccount world _, ?_⟩
    obtain ⟨answer, answered, possible⟩ := answer_deleteEvent world token eventID
    rw [answered]
    simp only [List.mem_cons, List.not_mem_nil, or_false] at possible
    rcases possible with rfl | rfl | rfl
    · exact ih
    · exact ih
    · exact ih

theorem performs_deleteCalendar {α : Type} {next : Except GoogleError Unit → Program service α}
    (performs : ∀ result, PerformsOn userID (next result) later) :
    PerformsOn userID (retry (calendarAttempt userID token calendarID) 2 >>= next)
      ((Target.calendar calendarID).actions ++ later) := by
  refine .inl ⟨_, _, rfl, ?_⟩
  rintro world account outcome rfl rfl
  refine ⟨accounts_setAccount world _, ?_⟩
  obtain ⟨answer, answered, possible⟩ := answer_deleteCalendar world token calendarID
  rw [answered]
  simp only [List.mem_cons, List.not_mem_nil, or_false] at possible
  rcases possible with rfl | rfl
  · exact performs _
  · exact performs _

theorem performs_googleCleanup {cleanup : Cleanup} (wanted : cleanup.deleteGoogleData = true) :
    PerformsOn userID (googleCleanup userID cleanup) cleanup.target.actions := by
  have revoked : PerformsOn userID (ask (.revokeToken cleanup.token) >>= fun _ => .done ()) [] :=
    performs_revokeToken cleanup.token
  unfold googleCleanup Cleanup.target
  rw [wanted, if_pos rfl]
  by_cases dedicated : cleanup.calendarID ≠ "" ∧ cleanup.calendarID ≠ "primary"
  · rw [if_pos dedicated, if_pos dedicated]
    have performs : PerformsOn userID
        (retry (calendarAttempt userID cleanup.token cleanup.calendarID) 2 >>= fun _ =>
          ask (.revokeToken cleanup.token) >>= fun _ => .done ())
        ((Target.calendar cleanup.calendarID).actions ++ []) :=
      performs_deleteCalendar (fun _ => revoked)
    exact performs
  · rw [if_neg dedicated, if_neg dedicated]
    have performs : PerformsOn userID
        (removeEvents userID cleanup.token (cleanup.eventIDs.take 200) >>= fun _ =>
          ask (.revokeToken cleanup.token) >>= fun _ => .done ())
        ((Target.events (cleanup.eventIDs.take 200)).actions ++ []) :=
      performs_removeEvents revoked _
    rw [List.append_nil] at performs
    exact performs

theorem performs_finishDeletion (valkey : Bool) :
    PerformsOn userID (finishDeletion valkey userID >>= fun _ => .done ()) [] := by
  refine .inr ?_
  rintro world account outcome rfl viewed
  refine ⟨viewed, ?_⟩
  cases valkey with
  | false => exact rfl
  | true =>
    refine .inr ?_
    rintro later next outcome rfl viewedLater
    exact ⟨viewedLater, rfl⟩

theorem performs_deletion (valkey : Bool) {cleanup : Option Cleanup}
    (wanted : ∀ started, cleanup = some started → started.deleteGoogleData = true)
    (background : Bool) :
    PerformsOn userID (deletion valkey userID cleanup background)
      (if background then (cleanup.elim Target.nothing Cleanup.target).actions else []) := by
  cases background with
  | false => exact performs_finishDeletion valkey
  | true =>
    cases cleanup with
    | none => exact rfl
    | some started => exact performs_googleCleanup (wanted started rfl)

theorem deleteGoogleData_startCleanup {encrypted : String} {deleteGoogleData : Bool}
    {eventIDs : List String} {started : Cleanup}
    (starts : startCleanup decryptToken encrypted calendarID deleteGoogleData eventIDs =
      some started) : started.deleteGoogleData = deleteGoogleData := by
  unfold startCleanup at starts
  split at starts
  · cases starts
  · split at starts
    · cases starts
    · split at starts
      · cases starts
      · cases starts
        rfl

theorem complete_readAccount (decryptToken : String → Option String) (userID : Int)
    (before : World) :
    (deletionTarget decryptToken userID before.database = .nothing ∧
      complete environment (fun _ _ => .served) (readAccount decryptToken userID true) before =
        (before, .error .deleted)) ∨
    ∃ cleanup : Option Cleanup,
      (∀ started, cleanup = some started → started.deleteGoogleData = true) ∧
      cleanup.elim .nothing Cleanup.target = deletionTarget decryptToken userID before.database ∧
      complete environment (fun _ _ => .served) (readAccount decryptToken userID true) before =
        (before, .ok cleanup) := by
  have read : serve before (.shared (.selectUser userID)) .served =
      (before, some (before.database.users.find userID)) := rfl
  unfold readAccount deletionTarget
  simp only [call_bind, done_bind, complete]
  rw [read]
  cases before.database.users.find userID with
  | none => exact .inl ⟨rfl, rfl⟩
  | some row =>
    refine .inr ?_
    cases encrypted : row.refreshToken with
    | none =>
      simp only [encrypted]
      exact ⟨none, nofun, rfl, rfl⟩
    | some stored =>
      simp only [encrypted]
      exact ⟨_, fun _ starts => deleteGoogleData_startCleanup starts, rfl, rfl⟩

theorem accounts_of_deletes {valkey : Bool}
    {before after : World} (deletes : Deletes valkey decryptToken userID before after) :
    after.accounts userID =
      (deletionTarget decryptToken userID before.database).remove (before.accounts userID) := by
  unfold Deletes at deletes
  rcases complete_readAccount decryptToken userID before with
    ⟨untouched, read⟩ | ⟨cleanup, wanted, aimed, read⟩
  · rw [read] at deletes
    rw [untouched, deletes]
    rfl
  · rw [read] at deletes
    obtain ⟨residue, run, finished⟩ := deletes
    have undisturbed : ∀ first last account, Lapse first last →
        ViewsAccount userID first account → ViewsAccount userID last account :=
      fun _ _ _ lapse viewed => (congrFun lapse.accounts userID).trans viewed
    obtain ⟨merged, merge, viewed⟩ := run.merges undisturbed
      (fun who => ⟨(), finished who⟩) (performs_deletion valkey wanted) rfl
    rw [Merge.eq_of_nil merge] at viewed
    rw [← aimed]
    exact viewed

end Programs

/-- Exactly which accounts a deletion leaves without a trace of `SyncUser`. -/
theorem account_erased_iff {valkey : Bool} {decryptToken : String → Option String} {userID : Int}
    {before after : World} (deletes : Deletes valkey decryptToken userID before after)
    (googleID : String) :
    Erased googleID (after.accounts userID) ↔
      Within googleID (deletionTarget decryptToken userID before.database)
        (before.accounts userID) := by
  rw [accounts_of_deletes deletes]
  exact erased_remove_iff googleID _ _

theorem exists_deletes (valkey : Bool) (decryptToken : String → Option String) (userID : Int)
    (before : World) : ∃ after, Deletes valkey decryptToken userID before after := by
  unfold Deletes
  rcases complete_readAccount decryptToken userID before with
    ⟨_, read⟩ | ⟨cleanup, _, _, read⟩
  · rw [read]
    exact ⟨before, rfl⟩
  · rw [read]
    have admitted : ∀ (_ : World) request, allServed request .served := fun _ _ => rfl
    obtain ⟨after, residue, run, finished⟩ := exists_finished environment (fun _ _ => .served)
      admitted before (deletion valkey userID cleanup)
    exact ⟨after, residue, run, fun who => (finished who).choose_spec⟩

/-! ### A calendar that is given up -/

/-- Preferences, extractions and runs of `SyncUser`, every call served. -/
def SyncsOnly (_before : World) (remote : ContestSync.Request → Outcome → Prop)
    (operation : Operation) : Prop :=
  remote = servedRemote ∧
    match operation with
    | .savePreferences _ _ _ => True
    | .handleExtraction _ _ => True
    | .syncUser _ => True
    | _ => False

def toDedicated : List Operation :=
  [.handleExtraction "codeforces" (some [codeforcesRound 5000]),
    .savePreferences 1 (some ["codeforces"]) true, .syncUser 1]

def backToPrimary : List Operation :=
  toDedicated ++ [.savePreferences 1 (some ["codeforces"]) false, .syncUser 1]

def dedicatedWorld : World :=
  replay cachingSyncer toDedicated loggedIn

def primaryWorld : World :=
  replay cachingSyncer backToPrimary loggedIn

def sampleEventID : String :=
  generateDeterministicEventID "1080" (codeforcesRound 5000).id

theorem target_dedicatedWorld :
    deletionTarget some 1 dedicatedWorld.database = .calendar "calendar0" :=
  rfl

theorem account_dedicatedWorld : dedicatedWorld.accounts 1 =
    (emptyAccount.insertCalendar.1.insertEvent "calendar0"
      (contestEvent "1080" "UTC" (codeforcesRound 5000).row)).1 :=
  rfl

theorem within_dedicatedWorld :
    Within "1080" (.calendar "calendar0") (dedicatedWorld.accounts 1) := by
  rw [account_dedicatedWorld]
  refine ⟨?_, ?_⟩
  · intro calendarID member
    rw [List.mem_singleton.mp member]
    rfl
  · intro calendarID contestID visible
    refine ⟨?_, List.mem_singleton.mpr rfl⟩
    by_contra other
    have kept := (Account.sameBut_insertEvent emptyAccount.insertCalendar.1 "calendar0"
      (contestEvent "1080" "UTC" (codeforcesRound 5000).row)).calendars calendarID other
    apply visible
    unfold Account.shown
    rw [kept]
    change ((update emptyAccount.events "calendar0" (fun _ => none)) calendarID _).filter _ = none
    rw [update_of_ne other]
    rfl

/-- A dedicated calendar that was never given up is removed with all its events. -/
theorem account_erased_dedicated :
    ∃ after, Deletes true some 1 dedicatedWorld after ∧ Erased "1080" (after.accounts 1) := by
  obtain ⟨after, deletes⟩ := exists_deletes true some 1 dedicatedWorld
  refine ⟨after, deletes, (account_erased_iff deletes "1080").mpr ?_⟩
  rw [target_dedicatedWorld]
  exact within_dedicatedWorld

theorem shown_dedicatedWorld : (dedicatedWorld.accounts 1).shown "calendar0" sampleEventID =
    some (contestEvent "1080" "UTC" (codeforcesRound 5000).row) := by
  rw [account_dedicatedWorld]
  change (emptyAccount.insertCalendar.1.setEvent "calendar0" sampleEventID (some _)).shown
    "calendar0" sampleEventID = _
  rw [Account.shown_setEvent, update_self]
  rfl

theorem target_primaryWorld :
    deletionTarget some 1 primaryWorld.database = .events [sampleEventID] :=
  rfl

theorem history_primaryWorld : History cachingSyncer SyncsOnly loggedIn primaryWorld :=
  history_replay backToPrimary
    ⟨⟨rfl, trivial⟩, ⟨rfl, trivial⟩, ⟨rfl, trivial⟩, ⟨rfl, trivial⟩, ⟨rfl, trivial⟩, trivial⟩

/-- Switching back to the primary calendar clears `calendar_id`: the deletion looks
for the tracked event in the primary calendar, and the calendar stays. -/
theorem account_deletion_leaves_calendar :
    History cachingSyncer SyncsOnly loggedIn primaryWorld ∧
    ∃ after, Deletes true some 1 primaryWorld after ∧ (after.accounts 1).calendars = ["calendar0"] ∧
      (after.accounts 1).shown "calendar0" sampleEventID ≠ none ∧
      ¬Erased "1080" (after.accounts 1) := by
  obtain ⟨after, deletes⟩ := exists_deletes true some 1 primaryWorld
  have account := accounts_of_deletes deletes
  rw [target_primaryWorld] at account
  have calendars : (after.accounts 1).calendars = ["calendar0"] := by
    rw [account, (remove_events _ _).1]
    rfl
  have visible : (after.accounts 1).shown "calendar0" sampleEventID ≠ none := by
    rw [account, ne_eq, (remove_events _ _).2]
    rintro (hidden | ⟨primary, _⟩)
    · cases shown_dedicatedWorld.symm.trans hidden
    · exact absurd primary (by decide)
  refine ⟨history_primaryWorld, after, deletes, calendars, visible, ?_⟩
  intro erased
  exact visible (erased.events "calendar0" (codeforcesRound 5000).id)

end Erasure

end ContestSync
