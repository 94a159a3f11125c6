/-
The part of the Google Calendar service that the synchronizer depends on, for
one account. An event id can be used once per calendar: a deleted event may
stay behind as a cancelled one, and inserting its id again answers 409 until an
update confirms it.
-/

import ContestSync.Models
import Mathlib.Logic.Function.Basic

namespace ContestSync

open Function

/-- An error of a Google call. `code` is present for a `*googleapi.Error`. -/
structure GoogleError where
  code : Option Nat
  message : String
deriving DecidableEq, Repr

namespace GoogleError

def conflict : GoogleError :=
  { code := some 409
    message := "googleapi: Error 409: The requested identifier already exists., duplicate" }

def notFound : GoogleError :=
  { code := some 404
    message := "googleapi: Error 404: Not Found, notFound" }

def gone : GoogleError :=
  { code := some 410
    message := "googleapi: Error 410: Resource has been deleted, deleted" }

def duplicateCalendar : GoogleError :=
  { code := some 400
    message := "googleapi: Error 400: Invalid Value, invalid" }

/-- The answer of the token endpoint to a refresh token that was revoked. -/
def invalidGrant : GoogleError :=
  { code := none
    message := "oauth2: \"invalid_grant\"" }

/-- The two texts `handleSyncError` looks for. -/
def revoked (error : GoogleError) : Bool :=
  decide ("invalid_grant".toList <:+: error.message.toList) ||
    decide ("Token has been expired or revoked".toList <:+: error.message.toList)

theorem conflict_not_revoked : conflict.revoked = false := by
  decide +kernel

end GoogleError

/-- `supply` lists the ids Google will give to new calendars, and `retains`
says of which deleted events it keeps a cancelled copy. Both are the choice
of the service and are never read by a program. -/
structure Account where
  events : String → String → Option Event
  timezone : String
  calendars : List String
  supply : Nat → String
  retains : String → Bool

namespace Account

variable (account : Account)

def setEvent (calendarID eventID : String) (event : Option Event) : Account :=
  { account with
    events := update account.events calendarID (update (account.events calendarID) eventID event) }

/-- The events a user sees: a cancelled event is not in the calendar. -/
def shown (calendarID eventID : String) : Option Event :=
  (account.events calendarID eventID).filter (fun event => event.status ≠ .cancelled)

def insertEvent (calendarID : String) (event : Event) :
    Account × Except GoogleError Event :=
  match account.events calendarID event.id with
  | some _ => (account, .error .conflict)
  | none => (account.setEvent calendarID event.id (some event), .ok event)

def updateEvent (calendarID eventID : String) (event : Event) :
    Account × Option GoogleError :=
  match account.events calendarID eventID with
  | some _ => (account.setEvent calendarID eventID (some event), none)
  | none => (account, some .notFound)

def deleteEvent (calendarID eventID : String) :
    Account × Option GoogleError :=
  match account.events calendarID eventID with
  | none => (account, some .notFound)
  | some event =>
    if event.status = .cancelled then (account, some .gone)
    else
      let left := if account.retains eventID then some { event with status := .cancelled } else none
      (account.setEvent calendarID eventID left, none)

def insertCalendar : Account × Except GoogleError String :=
  let id := account.supply account.calendars.length
  if id = "" ∨ id = "primary" ∨ id ∈ account.calendars then (account, .error .duplicateCalendar)
  else
    ({ account with
        events := update account.events id (fun _ => none)
        calendars := account.calendars ++ [id] },
      .ok id)

@[simp] theorem events_setEvent_self (calendarID eventID : String) (event : Option Event) :
    (account.setEvent calendarID eventID event).events calendarID eventID = event := by
  simp [setEvent]

variable {calendarID eventID other : String}

theorem events_setEvent_of_ne (event : Option Event) (different : other ≠ eventID) :
    (account.setEvent calendarID eventID event).events calendarID other =
      account.events calendarID other := by
  simp [setEvent, update_of_ne different]

theorem events_setEvent_other (event : Option Event) (different : other ≠ calendarID) :
    (account.setEvent calendarID eventID event).events other = account.events other := by
  simp [setEvent, update_of_ne different]

variable {event : Event}

theorem shown_eq_some {account : Account} :
    account.shown calendarID eventID = some event ↔
      account.events calendarID eventID = some event ∧ event.status ≠ .cancelled := by
  unfold shown
  rw [Option.filter_eq_some_iff]
  simp

theorem shown_setEvent (calendarID eventID : String) (event : Option Event) :
    (account.setEvent calendarID eventID event).shown calendarID =
      update (account.shown calendarID) eventID
        (event.filter (fun event => event.status ≠ .cancelled)) := by
  funext other
  by_cases same : other = eventID
  · subst same
    rw [update_self]
    unfold shown
    rw [events_setEvent_self]
  · rw [update_of_ne same]
    unfold shown
    rw [events_setEvent_of_ne account event same]

/-! ### What each call can do -/

theorem insertEvent_cases (calendarID : String) (event : Event) :
    (account.events calendarID event.id = none ∧ account.insertEvent calendarID event =
          (account.setEvent calendarID event.id (some event), .ok event)) ∨
      (account.events calendarID event.id ≠ none ∧
        account.insertEvent calendarID event = (account, .error .conflict)) := by
  unfold insertEvent
  cases present : account.events calendarID event.id with
  | none => exact Or.inl ⟨rfl, rfl⟩
  | some old => exact Or.inr ⟨Option.some_ne_none old, rfl⟩

theorem id_of_insertEvent {account : Account} {created : Event}
    (answered : (account.insertEvent calendarID event).2 = .ok created) :
    created.id = event.id := by
  rcases insertEvent_cases account calendarID event with ⟨_, called⟩ | ⟨_, called⟩
  · rw [called] at answered
    cases answered
    rfl
  · rw [called] at answered
    cases answered

theorem updateEvent_cases (calendarID eventID : String) (event : Event) :
    (account.events calendarID eventID ≠ none ∧ account.updateEvent calendarID eventID event =
          (account.setEvent calendarID eventID (some event), none)) ∨
      (account.events calendarID eventID = none ∧
        account.updateEvent calendarID eventID event = (account, some .notFound)) := by
  unfold updateEvent
  cases present : account.events calendarID eventID with
  | none => exact Or.inr ⟨rfl, rfl⟩
  | some old => exact Or.inl ⟨Option.some_ne_none old, rfl⟩

theorem deleteEvent_cases (calendarID eventID : String) :
    (account.shown calendarID eventID = none ∧
        (account.deleteEvent calendarID eventID).1 = account) ∨
      ∃ left : Option Event, left.filter (fun event => event.status ≠ .cancelled) = none ∧
        (account.deleteEvent calendarID eventID).1 = account.setEvent calendarID eventID left := by
  unfold deleteEvent shown
  cases present : account.events calendarID eventID with
  | none => exact Or.inl ⟨rfl, rfl⟩
  | some event =>
    by_cases cancelled : event.status = .cancelled
    · refine Or.inl ⟨?_, ?_⟩
      · simp [cancelled]
      · simp [cancelled]
    · simp only [if_neg cancelled]
      refine Or.inr ⟨_, ?_, rfl⟩
      cases account.retains eventID <;> rfl

theorem shown_deleteEvent (calendarID eventID : String) :
    (account.deleteEvent calendarID eventID).1.shown calendarID =
      update (account.shown calendarID) eventID none := by
  rcases deleteEvent_cases account calendarID eventID with ⟨hidden, same⟩ | ⟨left, gone, called⟩
  · rw [same]
    exact (Function.update_eq_self_iff.mpr hidden.symm).symm
  · rw [called, shown_setEvent, gone]

variable {otherCalendar otherEvent : String}

theorem shown_setEvent_ne_none (visible : event.status ≠ .cancelled)
    (shown : account.shown otherCalendar otherEvent ≠ none) :
    (account.setEvent calendarID eventID (some event)).shown otherCalendar otherEvent ≠ none := by
  by_cases same : otherCalendar = calendarID
  · subst same
    rw [shown_setEvent]
    by_cases sameEvent : otherEvent = eventID
    · subst sameEvent
      simp [visible]
    · rwa [update_of_ne sameEvent]
  · unfold Account.shown at shown ⊢
    rwa [events_setEvent_other account _ same]

theorem shown_insertEvent_ne_none (visible : event.status ≠ .cancelled)
    (shown : account.shown otherCalendar otherEvent ≠ none) :
    (account.insertEvent calendarID event).1.shown otherCalendar otherEvent ≠ none := by
  rcases insertEvent_cases account calendarID event with ⟨_, called⟩ | ⟨_, called⟩
  · rw [called]
    exact shown_setEvent_ne_none account visible shown
  · rwa [called]

theorem shown_updateEvent_ne_none (visible : event.status ≠ .cancelled)
    (shown : account.shown otherCalendar otherEvent ≠ none) :
    (account.updateEvent calendarID eventID event).1.shown otherCalendar otherEvent ≠ none := by
  rcases updateEvent_cases account calendarID eventID event with ⟨_, called⟩ | ⟨_, called⟩
  · rw [called]
    exact shown_setEvent_ne_none account visible shown
  · rwa [called]

theorem insertCalendar_cases :
    (∃ error, account.insertCalendar = (account, .error error)) ∨
      ∃ calendarID, calendarID ≠ "" ∧ calendarID ≠ "primary" ∧ calendarID ∉ account.calendars ∧
        account.insertCalendar = ({ account with
              events := update account.events calendarID (fun _ => none)
              calendars := account.calendars ++ [calendarID] },
            .ok calendarID) := by
  unfold insertCalendar
  by_cases taken : account.supply account.calendars.length = "" ∨
      account.supply account.calendars.length = "primary" ∨
      account.supply account.calendars.length ∈ account.calendars
  · simp only [if_pos taken]
    exact Or.inl ⟨_, rfl⟩
  · simp only [if_neg taken]
    rw [not_or, not_or] at taken
    exact Or.inr ⟨_, taken.1, taken.2.1, taken.2.2, rfl⟩

theorem shown_insertCalendar_primary :
    account.insertCalendar.1.shown "primary" = account.shown "primary" := by
  rcases insertCalendar_cases account with ⟨error, called⟩ | ⟨calendarID, _, other, _, called⟩
  · rw [called]
  · rw [called]
    funext eventID
    unfold Account.shown
    simp only [update_of_ne (Ne.symm other)]

/-- Accounts that differ at most in the named event of the calendar. -/
structure SameBut (calendarID eventID : String) (before after : Account) : Prop where
  timezone : after.timezone = before.timezone
  known : after.calendars = before.calendars
  calendars : ∀ other, other ≠ calendarID → after.events other = before.events other
  events : ∀ other, other ≠ eventID → after.events calendarID other = before.events calendarID other

theorem SameBut.refl (calendarID eventID : String) (account : Account) :
    SameBut calendarID eventID account account :=
  ⟨rfl, rfl, fun _ _ => rfl, fun _ _ => rfl⟩

theorem SameBut.shown {before after : Account}
    (same : SameBut calendarID eventID before after) (different : other ≠ eventID)
    (otherCalendar : String) :
    after.shown otherCalendar other = before.shown otherCalendar other := by
  unfold Account.shown
  by_cases here : otherCalendar = calendarID
  · rw [here, same.events other different]
  · rw [same.calendars otherCalendar here]

theorem sameBut_setEvent (calendarID eventID : String) (event : Option Event) :
    SameBut calendarID eventID account (account.setEvent calendarID eventID event) :=
  ⟨rfl, rfl, fun _ different => events_setEvent_other account event different,
    fun _ different => events_setEvent_of_ne account event different⟩

theorem sameBut_deleteEvent (calendarID eventID : String) :
    SameBut calendarID eventID account (account.deleteEvent calendarID eventID).1 := by
  rcases deleteEvent_cases account calendarID eventID with ⟨_, same⟩ | ⟨left, _, called⟩
  · rw [same]
    exact .refl calendarID eventID account
  · rw [called]
    exact sameBut_setEvent account calendarID eventID left

theorem sameBut_insertEvent (calendarID : String) (event : Event) :
    SameBut calendarID event.id account (account.insertEvent calendarID event).1 := by
  rcases insertEvent_cases account calendarID event with ⟨_, called⟩ | ⟨_, called⟩
  · rw [called]
    exact sameBut_setEvent account calendarID event.id _
  · rw [called]
    exact .refl calendarID event.id account

theorem sameBut_updateEvent (calendarID eventID : String) (event : Event) :
    SameBut calendarID eventID account (account.updateEvent calendarID eventID event).1 := by
  rcases updateEvent_cases account calendarID eventID event with ⟨_, called⟩ | ⟨_, called⟩
  · rw [called]
    exact sameBut_setEvent account calendarID eventID _
  · rw [called]
    exact .refl calendarID eventID account

end Account

end ContestSync
