/-
The removal of events in the clean-up of a deleted account, as it really runs: a goroutine for
each of at most two hundred events, twenty of them with a place, three attempts each, and the
token revoked after all of them. `AccountErasure` has the deletions one after another.
-/

import ContestSync.AccountErasure
import ContestSync.FanOut

namespace ContestSync.Erasure

open FanOut

/-- What a goroutine makes of the answer to `Events.Delete`. -/
def verdict : Option GoogleError → Verdict
  | none => .settled
  | some error =>
    if error.code = some 404 ∨ error.code = some 410 then .settled
    else if error.code = some 400 ∨ error.code = some 401 then .refused
    else .failed

def callDelete (account : Account) (eventID : String) : Outcome → Account × Verdict
  | .served =>
    let called := account.deleteEvent "primary" eventID
    (called.1, verdict called.2)
  | .lost error => (account, verdict (some error))
  | .late error => ((account.deleteEvent "primary" eventID).1, verdict (some error))

/-- The goroutines; the token is revoked once they are joined. -/
def deletions : Work String Account Outcome where
  capacity := 20
  attempts := 3
  call := callDelete
  roomy := by decide
  tries := by decide

/-- The clean-up of the primary calendar, up to some moment of it. -/
def Removal (eventIDs : List String) (account : Account) (events : List (FanOut.Event Outcome))
    (state : FanOut.State String Account) : Prop :=
  Run deletions (initial (eventIDs.take 200) account) events state

instance : Inhabited Outcome :=
  ⟨.served⟩

theorem sameBut_callDelete (account : Account) (eventID : String) (outcome : Outcome) :
    Account.SameBut "primary" eventID account (callDelete account eventID outcome).1 := by
  cases outcome with
  | served => exact account.sameBut_deleteEvent "primary" eventID
  | lost error => exact .refl "primary" eventID account
  | late error => exact account.sameBut_deleteEvent "primary" eventID

theorem hidden_deleteEvent {account : Account} {eventID other : String}
    (hidden : other = eventID ∨ account.shown "primary" other = none) :
    (account.deleteEvent "primary" eventID).1.shown "primary" other = none := by
  rw [Account.shown_deleteEvent]
  by_cases same : other = eventID
  · rw [same, Function.update_self]
  · rw [Function.update_of_ne same]
    exact hidden.resolve_left same

section Removals

variable {eventIDs : List String} {account : Account} {events : List (FanOut.Event Outcome)}
  {state : FanOut.State String Account} (ran : Removal eventIDs account events state)

include ran

/-- However the goroutines interleave and whatever Google answers, at most twenty of them are
deleting at a time, at most six hundred calls are made in all, and only the first two hundred
tracked events of the primary calendar are touched. The token is revoked when no goroutine is at
work any more, and no call is made after that. -/
theorem removal_bounds :
    state.holders ≤ 20 ∧ state.calls ≤ 600 ∧
      (state.phase = .joined → (∀ worker ∈ state.workers, worker.stage.idle = true) ∧
        ∀ later after, Run deletions state later after →
          after.store = state.store ∧ after.calls = state.calls) ∧
      ∀ calendarID eventID, ¬(calendarID = "primary" ∧ eventID ∈ eventIDs.take 200) →
        state.store.events calendarID eventID = account.events calendarID eventID := by
  have start := bounded_initial deletions (eventIDs.take 200) account
  have bounded := start.run ran
  refine ⟨bounded.places, ?_, ?_, ?_⟩
  · have most : (eventIDs.take 200).length ≤ 200 := List.length_take_le 200 eventIDs
    calc state.calls ≤ 3 * (eventIDs.take 200).length := bounded.calls_le
      _ ≤ 600 := by omega
  · intro joined
    exact ⟨bounded.joined joined, fun later after more => bounded.quiet joined more⟩
  · intro calendarID eventID outside
    refine start.store_keeps
      (fun store => store.events calendarID eventID = account.events calendarID eventID) ?_ ran rfl
    intro item listed before outcome same
    have others := sameBut_callDelete before item outcome
    by_cases primary : calendarID = "primary"
    · subst primary
      refine (others.events eventID ?_).trans same
      rintro rfl
      exact outside ⟨rfl, listed⟩
    · exact (congrFun (others.calendars calendarID primary) eventID).trans same

/-- The clean-up never gets stuck before the token can be revoked, and it takes a bounded number of
steps until then. -/
theorem removal_finishes :
    (state.phase = .joined ∨ Moves deletions state) ∧
      events.countP (fun event => !event.cancels) ≤ 7 * min 200 eventIDs.length + 2 := by
  constructor
  · by_cases joined : state.phase = .joined
    · exact .inl joined
    · exact .inr (moves_of_unjoined joined)
  · have steps := (bounded_initial deletions (eventIDs.take 200) account).steps_le ran
    change _ ≤ 2 + 7 * (eventIDs.take 200).length + 0 at steps
    rw [List.length_take] at steps
    omega

/-- An event is left over only when three calls have failed for it, a call was refused or the time
was up; a 404 or 410 is taken to come from the calendar itself. -/
theorem removal_leftovers
    (honest : ∀ error, .answered (.lost error) ∈ events → verdict (some error) ≠ .settled)
    (joined : state.phase = .joined) (accepted : state.refused = false)
    (inTime : state.cancelled = false) :
    ∀ eventID ∈ eventIDs.take 200, state.store.shown "primary" eventID = none ∨
      ∃ worker ∈ state.workers, worker.item = eventID ∧ 3 ≤ worker.stage.calls := by
  have accounted : Accounted deletions (fun eventID store => store.shown "primary" eventID = none)
      state := by
    refine ran.accounted ?_ ?_ accepted inTime
    · intro before item outcome other hidden
      cases outcome with
      | served | late => exact hidden_deleteEvent (.inr hidden)
      | lost => exact hidden
    · intro before item outcome answered settled
      cases outcome with
      | served | late => exact hidden_deleteEvent (.inl rfl)
      | lost error => exact absurd settled (honest error answered)
  exact fun eventID listed => ran.leftover accounted joined listed

end Removals

def trackedAccount : Account :=
  emptyAccount.setEvent "primary" "cf1"
    (some { contestEvent "1080" "UTC" (codeforcesRound 5000).row with id := "cf1" })

def overlapping : List (FanOut.Event Outcome) :=
  [.moved, .moved, .moved, .moved, .answered .served, .answered .served, .moved, .moved]

theorem removal_overlapping :
    ∃ state, Removal ["cf1", "cf2"] trackedAccount overlapping state ∧
      state.phase = .joined ∧ state.refused = false ∧ state.cancelled = false :=
  ⟨_, .step (.launch rfl rfl rfl) <| .step (.launch rfl rfl rfl) <|
    .step (.turn 1 rfl (.acquire rfl (by decide))) <|
    .step (.turn 0 rfl (.acquire rfl (by decide))) <|
    .step (.turn 0 rfl (.answer Outcome.served rfl)) <|
    .step (.turn 1 rfl (.answer Outcome.served rfl)) <|
    .step (.stop rfl (.inr rfl)) <| .step (.join rfl (by decide)) <| .refl _, rfl, rfl, rfl⟩

theorem removal_bounds_overlapping : ∃ state,
    Removal ["cf1", "cf2"] trackedAccount overlapping state ∧ state.calls ≤ 600 ∧
      ∀ worker ∈ state.workers, worker.stage.idle = true := by
  obtain ⟨state, ran, joined, _⟩ := removal_overlapping
  obtain ⟨_, calls, idle, _⟩ := removal_bounds ran
  exact ⟨state, ran, calls, (idle joined).1⟩

theorem removal_finishes_overlapping : ∃ state,
    Removal ["cf1", "cf2"] trackedAccount overlapping state ∧
      (state.phase = .joined ∨ Moves deletions state) := by
  obtain ⟨state, ran, _⟩ := removal_overlapping
  exact ⟨state, ran, (removal_finishes ran).1⟩

theorem removal_leftovers_overlapping : ∃ state,
    Removal ["cf1", "cf2"] trackedAccount overlapping state ∧
      (state.store.shown "primary" "cf1" = none ∨
        ∃ worker ∈ state.workers, worker.item = "cf1" ∧ 3 ≤ worker.stage.calls) := by
  obtain ⟨state, ran, joined, accepted, inTime⟩ := removal_overlapping
  refine ⟨state, ran, removal_leftovers ran ?_ joined accepted inTime "cf1" (by decide)⟩
  simp [overlapping]

end ContestSync.Erasure
