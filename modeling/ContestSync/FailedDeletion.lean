/-
A deletion that the database refuses. `DeleteAccount` starts the clean-up of the
Google account before it deletes the row, and nothing stops the clean-up when the
statement fails: whether anything is deleted or revoked is decided by what the handler
has read before.
-/

import ContestSync.AccountErasure
import ContestSync.Resumable.Calls

namespace ContestSync.Erasure

open Resumable Program Function

/-- The calls that take something away from the Google account. -/
def Request.destroys : Request → Bool
  | .shared (.deleteEvent _ _ _ _) => true
  | .deleteCalendar _ _ _ => true
  | .revokeToken _ => true
  | _ => false

/-- The handler and the clean-up that it has started, from what it has read. -/
def threads (valkey : Bool) (userID : Int)
    (read : Except Handlers.DeleteResponse (Option Cleanup)) (background : Bool) :
    Program service (Option Handlers.DeleteResponse) :=
  if background then
    match read with
    | .ok (some cleanup) => googleCleanup userID cleanup >>= fun _ => .done none
    | _ => .done none
  else
    match read with
    | .ok _ => finishDeletion valkey userID >>= fun response => .done (some response)
    | .error response => .done (some response)

/-- A token that the clean-up can work with. -/
def Usable (decryptToken : String → Option String) (row : UserRow) : Prop :=
  ∃ encrypted token, row.refreshToken = some encrypted ∧ encrypted ≠ "" ∧
    decryptToken encrypted = some token ∧ token ≠ ""

/-- `DeleteAccount` from its first call to the end of the clean-up, with the calls up
to the start of the clean-up and all of them. -/
structure Handled (valkey : Bool) (decryptToken : String → Option String) (userID : Int)
    (deleteGoogleData : Bool) (world : World) (reading record : Calls service)
    (response : Handlers.DeleteResponse) where
  read : Except Handlers.DeleteResponse (Option Cleanup)
  middle : World
  last : World
  residue : Bool → Program service (Option Handlers.DeleteResponse)
  begins : Steps environment.recorded (fun _ _ => True) environment.Elsewhere (world, [])
    (readAccount decryptToken userID deleteGoogleData) (middle, reading) (.done read)
  continues : Interleaved environment.recorded (fun _ _ => True) environment.Elsewhere
    (middle, reading) (threads valkey userID read) (last, record) residue
  answered : residue false = .done (some response)
  ended : residue true = .done none

/-! ### The calls of the two -/

section Calls

variable {valkey : Bool} {decryptToken : String → Option String} {userID : Int}
  {deleteGoogleData : Bool}

def Harmless (made : Calls service) : Prop :=
  ∀ call ∈ made, call.1.destroys = false

theorem harmless_nil : Harmless [] :=
  fun _ member => nomatch member

variable {made : Calls service} {row : UserRow}
  {read : Except Handlers.DeleteResponse (Option Cleanup)}

theorem Harmless.cons (harmless : Harmless made)
    {request : Request} (spares : request.destroys = false) (answer : request.Answer) :
    Harmless (⟨request, answer⟩ :: made) := by
  intro call member
  rcases List.mem_cons.mp member with rfl | member
  · exact spares
  · exact harmless call member

theorem startCleanup_eq_none_iff {encrypted calendarID : String}
    {eventIDs : List String} (stored : row.refreshToken = some encrypted) :
    startCleanup decryptToken encrypted calendarID deleteGoogleData eventIDs = none ↔
      ¬Usable decryptToken row := by
  unfold startCleanup
  by_cases empty : encrypted = ""
  · simp [empty, Usable, stored]
  · cases decrypted : decryptToken encrypted with
    | none => simp [empty, Usable, stored, decrypted]
    | some token =>
      by_cases blank : token = ""
      · simp [empty, Usable, stored, decrypted, blank]
      · simp [empty, Usable, stored, decrypted, blank]

abbrev reads (userID : Int) (answer : Option (Option UserRow)) : Call service :=
  ⟨.shared (.selectUser userID), answer⟩

/-- A clean-up is started exactly when a usable token was read. -/
def Decided (decryptToken : String → Option String) (userID : Int)
    (read : Except Handlers.DeleteResponse (Option Cleanup)) (made : Calls service) : Prop :=
  (∃ cleanup, read = .ok (some cleanup)) ↔
    ∃ row, reads userID (some (some row)) ∈ made ∧ Usable decryptToken row

theorem decided_unread {answer : Option (Option UserRow)} (unread : ∀ row, answer ≠ some (some row))
    (unstarted : ∀ cleanup, read ≠ .ok (some cleanup)) :
    Decided decryptToken userID read [reads userID answer] := by
  constructor
  · rintro ⟨cleanup, started⟩
    exact absurd started (unstarted cleanup)
  · rintro ⟨row, member, _⟩
    cases List.mem_singleton.mp member
    exact absurd rfl (unread row)

theorem decided_read {cleanup : Option Cleanup}
    (rows : ∀ other, reads userID (some (some other)) ∈ made ↔ other = row)
    (started : cleanup = none ↔ ¬Usable decryptToken row) :
    Decided decryptToken userID (.ok cleanup) made := by
  have usable : (∃ other, reads userID (some (some other)) ∈ made ∧ Usable decryptToken other) ↔
      Usable decryptToken row := by
    constructor
    · rintro ⟨other, member, usable⟩
      rwa [← (rows other).mp member]
    · exact fun usable => ⟨row, (rows row).mpr rfl, usable⟩
  unfold Decided
  rw [usable]
  cases cleanup with
  | none =>
    constructor
    · rintro ⟨_, impossible⟩
      cases impossible
    · exact fun holds => absurd holds (started.mp rfl)
  | some cleanup =>
    constructor
    · intro _
      by_contra unusable
      cases started.mpr unusable
    · exact fun _ => ⟨cleanup, rfl⟩

theorem ensures_readAccount :
    Ensures (calls service) (fun read made => Harmless made ∧ Decided decryptToken userID read made)
      (readAccount decryptToken userID deleteGoogleData) [] := by
  intro answer
  have spares : (Request.shared (.selectUser userID)).destroys = false := rfl
  have first : Harmless [reads userID answer] := harmless_nil.cons spares answer
  match answer, first with
  | none, first => exact ⟨first, decided_unread (by simp) (by simp)⟩
  | some none, first => exact ⟨first, decided_unread (by simp) (by simp)⟩
  | some (some row), first =>
    have rows : ∀ other, reads userID (some (some other)) ∈ [reads userID (some (some row))] ↔
        other = row := by
      simp
    rcases row with ⟨id, googleID, email, refreshToken, calendarID, useDedicated, platforms,
      hasCalendarAccess, lastSyncAt, syncStatus, createdAt⟩
    cases refreshToken with
    | none =>
      refine ⟨first, decided_read rows ?_⟩
      simp [Usable]
    | some encrypted =>
      cases deleteGoogleData with
      | false => exact ⟨first, decided_read rows (startCleanup_eq_none_iff rfl)⟩
      | true =>
        intro eventIDs
        have later : ∀ other, reads userID (some (some other)) ∈
            (⟨.selectEventIDs userID, eventIDs⟩ : Call service) :: [_] ↔ _ :=
          fun other => (List.mem_cons.trans (or_iff_right (by simp))).trans (rows other)
        have second : (Request.selectEventIDs userID).destroys = false := rfl
        exact ⟨first.cons second eventIDs, decided_read later (startCleanup_eq_none_iff rfl)⟩

theorem ensures_finishDeletion :
    Ensures (calls service) (fun _ made => Harmless made) (finishDeletion valkey userID) [] := by
  intro deleted
  have first : (Request.shared (.deleteUser userID none)).destroys = false := rfl
  have second : (Request.shared (.deleteCachedUser userID)).destroys = false := rfl
  have statement := harmless_nil.cons first deleted
  cases deleted with
  | false => exact statement
  | true =>
    cases valkey with
    | false => exact statement
    | true => exact fun answer => statement.cons second answer

theorem ensures_googleCleanup (cleanup : Cleanup) (made : Calls service) :
    Ensures (calls service) (fun _ made => ∃ call ∈ made, call.1.destroys = true)
      (googleCleanup userID cleanup) made := by
  have revokes : ∀ made, Ensures (calls service)
      (fun (_ : Unit) made => ∃ call ∈ made, call.1.destroys = true)
      (ask (.revokeToken cleanup.token) >>= fun _ => .done ()) made :=
    fun made answer => ⟨_, List.mem_cons_self, rfl⟩
  unfold googleCleanup
  apply ensures_ite
  · intro _
    apply ensures_ite
    · exact fun _ => ensures_then (fun _ => revokes)
    · exact fun _ => ensures_then (fun _ => revokes)
  · exact fun _ => revokes made

theorem ensures_threads_unstarted (unstarted : ¬∃ cleanup, read = .ok (some cleanup)) (who : Bool) :
    Ensures (calls service) (fun _ made => Harmless made) (threads valkey userID read who) [] := by
  cases who with
  | true =>
    cases read with
    | error response => exact harmless_nil
    | ok cleanup =>
      cases cleanup with
      | none => exact harmless_nil
      | some cleanup => exact absurd ⟨cleanup, rfl⟩ unstarted
  | false =>
    cases read with
    | error response => exact harmless_nil
    | ok cleanup => exact ensures_finishDeletion.bind

end Calls

/-- When the database refuses the deletion, the request takes something away from the
Google account or tries to if it has read a usable token, and only then. -/
theorem failed_deletion_harmless_iff {valkey : Bool} {decryptToken : String → Option String}
    {userID : Int} {deleteGoogleData : Bool} {world : World} {reading record : Calls service}
    (handled : Handled valkey decryptToken userID deleteGoogleData world reading record
      .internalError) :
    Harmless record ↔
      ∀ row, reads userID (some (some row)) ∈ reading → ¬Usable decryptToken row := by
  obtain ⟨read, middle, last, residue, begins, continues, answered, ended⟩ := handled
  obtain ⟨harmless, decided⟩ := ensures_readAccount.steps begins
  have unread : (∀ row, reads userID (some (some row)) ∈ reading → ¬Usable decryptToken row) ↔
      ¬∃ cleanup, read = .ok (some cleanup) := by
    rw [iff_iff_eq.mp decided]
    simp only [not_exists, not_and]
  rw [unread]
  have shared : ∀ call, call ∈ (middle, reading).2 ↔
      call ∈ reading ∨ ∃ who : Bool, call ∈ (fun _ => [] : Bool → Calls service) who := by
    simp
  by_cases started : ∃ cleanup, read = .ok (some cleanup)
  · obtain ⟨cleanup, rfl⟩ := started
    let posts : Bool → Option Handlers.DeleteResponse → Calls service → Prop :=
      fun who _ made => who = true → ∃ call ∈ made, call.1.destroys = true
    have ensured : ∀ who, Ensures (calls service) (posts who)
        (threads valkey userID (.ok (some cleanup)) who) [] := by
      intro who
      cases who with
      | false => exact ensures_then (fun _ _ impossible => nomatch impossible)
      | true => exact ((ensures_googleCleanup cleanup []).mono (fun _ _ made _ => made)).bind
    obtain ⟨made, shares, record⟩ := continues.calls ensured shared
    have background := shares true
    rw [ended] at background
    obtain ⟨call, member, destroys⟩ := background rfl
    constructor
    · intro harmless
      have spared := harmless call ((record call).mpr (.inr ⟨true, member⟩))
      rw [destroys] at spared
      cases spared
    · exact fun unstarted => absurd ⟨cleanup, rfl⟩ unstarted
  · obtain ⟨made, shares, record⟩ := continues.calls (ensures_threads_unstarted started) shared
    have handler := shares false
    have background := shares true
    rw [answered] at handler
    rw [ended] at background
    constructor
    · exact fun _ => started
    · intro _ call member
      rcases (record call).mp member with early | ⟨who, own⟩
      · exact harmless call early
      · cases who with
        | false => exact handler call own
        | true => exact background call own

/-! ### A calendar that is lost -/

def refusing (_state : environment.recorded.State) : Request → Outcome
  | .shared (.deleteUser _ _) => .lost ⟨none, "context canceled"⟩
  | _ => .served

/-- The request as it is handled when the clean-up comes first. -/
def readFirst (world : World) :
    environment.recorded.State × Except Handlers.DeleteResponse (Option Cleanup) :=
  complete environment.recorded refusing (readAccount some 1 true) (world, [])

def cleanedFirst (world : World) :
    environment.recorded.State × Option Handlers.DeleteResponse :=
  complete environment.recorded refusing (threads true 1 (readFirst world).2 true)
    (readFirst world).1

def refusedLast (world : World) :
    environment.recorded.State × Option Handlers.DeleteResponse :=
  complete environment.recorded refusing (threads true 1 (readFirst world).2 false)
    (cleanedFirst world).1

/-- The handling ends with an error, if these two results are as they should be. -/
def handledRefused (world : World) (cleaned : (cleanedFirst world).2 = none)
    (refused : (refusedLast world).2 = some .internalError) :
    Handled true some 1 true world (readFirst world).1.2 (refusedLast world).1.2 .internalError :=
  { read := (readFirst world).2
    middle := (readFirst world).1.1
    last := (refusedLast world).1.1
    residue := update (update (threads true 1 (readFirst world).2) true
      (.done none)) false (.done (some .internalError))
    begins := complete_steps environment.recorded _ _ refusing (fun _ _ => trivial) _ _
    continues := by
      have completes := complete_steps environment.recorded (fun _ _ => True)
        environment.Elsewhere refusing (fun _ _ => trivial)
        (α := Option Handlers.DeleteResponse)
      have background := (completes (threads true 1 (readFirst world).2 true)
        (readFirst world).1).interleaved (threads true 1 (readFirst world).2) true rfl
      have handler := (completes (threads true 1 (readFirst world).2 false)
        (cleanedFirst world).1).interleaved
          (update (threads true 1 (readFirst world).2) true (.done none)) false rfl
      rw [show (complete environment.recorded refusing (threads true 1 (readFirst world).2 true)
        (readFirst world).1).2 = none from cleaned] at background
      rw [show (complete environment.recorded refusing (threads true 1 (readFirst world).2 false)
        (cleanedFirst world).1).2 = some .internalError from refused] at handler
      exact background.trans handler
    answered := update_self _ _ _
    ended := by rw [update_of_ne (by decide), update_self] }

/-- A user whose login gave no refresh token. -/
def tokenlessWorld : World :=
  replay cachingSyncer [.googleCallback { sampleLogin with refreshToken := "" }] emptyWorld

theorem failed_deletion_harmless_tokenless :
    Nonempty (Handled true some 1 true tokenlessWorld (readFirst tokenlessWorld).1.2
      (refusedLast tokenlessWorld).1.2 .internalError) ∧
    Harmless (refusedLast tokenlessWorld).1.2 := by
  have handled := handledRefused tokenlessWorld rfl rfl
  refine ⟨⟨handled⟩, (failed_deletion_harmless_iff handled).mpr ?_⟩
  rintro row member ⟨encrypted, token, stored, nonempty, _⟩
  have blank : row.refreshToken = some "" := by
    rcases List.mem_cons.mp member with same | member
    · cases same
    · cases List.mem_singleton.mp member
      rfl
  rw [blank] at stored
  exact nonempty (Option.some.inj stored).symm

/-- The row is still there, and the calendar and the token are not. -/
theorem failed_deletion_removes_calendar :
    Nonempty (Handled true some 1 true dedicatedWorld (readFirst dedicatedWorld).1.2
      (refusedLast dedicatedWorld).1.2 .internalError) ∧
    (dedicatedWorld.accounts 1).calendars = ["calendar0"] ∧
    ((refusedLast dedicatedWorld).1.1.accounts 1).calendars = [] ∧
    ((refusedLast dedicatedWorld).1.1.database.users.find 1).isSome = true ∧
    (⟨.revokeToken "token", true⟩ : Call service) ∈ (refusedLast dedicatedWorld).1.2 := by
  exact ⟨⟨handledRefused dedicatedWorld rfl rfl⟩, rfl, rfl, rfl, .tail _ (.head _)⟩

end ContestSync.Erasure
