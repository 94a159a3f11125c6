/-
The events that the clean-up forgets. `SyncUser` tries to delete the events of
platforms that are no longer selected, up to three times each, and then deletes the
row of the event whatever came of it: a row is deleted with good reason only when
Google has said that the event is gone.
-/

import ContestSync.Histories
import ContestSync.Resumable.Calls

namespace ContestSync.Forgetting

open Resumable Program

def Gone (answer : Option GoogleError) : Prop :=
  ∀ error ∈ answer, error.code = some 404 ∨ error.code = some 410

section Record

variable (userID : Int) (token calendarID : String)

abbrev attempt (eventID : String) (answer : Option GoogleError) : Call service :=
  ⟨.deleteEvent userID token calendarID eventID, answer⟩

abbrev forgetting (contestID : String) (answer : Bool) : Call service :=
  ⟨.deleteSynced userID contestID, answer⟩

abbrev listing (rows : List Tracked) : Call service :=
  ⟨.selectTracked userID, some rows⟩

def Listed (selected : List String) (record : Calls service) (item : Tracked) : Prop :=
  ∃ rows, listing userID rows ∈ record ∧ item ∈ rows ∧ item.platform ∉ selected

/-- One of the attempts succeeded or reported the event as gone. -/
def FoundGone (record : Calls service) (item : Tracked) : Prop :=
  ∃ answer, attempt userID token calendarID item.googleEventID answer ∈ record ∧ Gone answer

/-- The calls for the items, the last ones first: any number of attempts for each, and
the deletion of its row. -/
inductive Worked (earlier : Calls service) : List Tracked → Calls service → Prop where
  | start : Worked earlier [] earlier
  | next {items : List Tracked} {made : Calls service} (before : Worked earlier items made)
      (item : Tracked) (answers : List (Option GoogleError)) (deleted : Bool) :
      Worked earlier (items ++ [item]) (forgetting userID item.contestID deleted ::
          (answers.map (attempt userID token calendarID item.googleEventID) ++ made))

variable {userID token calendarID}

theorem ensures_deleteAttempts (eventID : String) (made : Calls service) :
    Ensures (calls service) (fun _ later => ∃ answers : List (Option GoogleError),
        later = answers.map (attempt userID token calendarID eventID) ++ made)
      (retry (Syncer.deleteAttempt userID token calendarID eventID) 2) made := by
  let invariant : Calls service → Prop := fun later =>
    ∃ answers : List (Option GoogleError),
      later = answers.map (attempt userID token calendarID eventID) ++ made
  have once : Maintains (calls service) invariant
      (Syncer.deleteAttempt userID token calendarID eventID) := by
    rintro later ⟨answers, rfl⟩ answer
    have further : invariant (attempt userID token calendarID eventID answer ::
        (answers.map (attempt userID token calendarID eventID) ++ made)) :=
      ⟨answer :: answers, rfl⟩
    cases answer with
    | none => exact further
    | some error => exact ensures_ite (fun _ => further) (fun _ => further)
  exact maintains_retry once 2 made ⟨[], rfl⟩

theorem ensures_removeTracked {earlier made : Calls service} {items : List Tracked}
    (worked : Worked userID token calendarID earlier items made) (item : Tracked) :
    Ensures (calls service)
      (fun _ later => Worked userID token calendarID earlier (items ++ [item]) later)
      (Syncer.removeTracked userID token calendarID item) made := by
  refine (ensures_deleteAttempts item.googleEventID made).then ?_
  rintro _ _ ⟨answers, rfl⟩ deleted
  exact worked.next item answers deleted

theorem ensures_cleanup (selected : List String) :
    Ensures (calls service) (fun _ made => made = [⟨.selectTracked userID, none⟩] ∨
        ∃ rows, Worked userID token calendarID [listing userID rows]
          (rows.filter (fun row => row.platform ∉ selected)) made)
      (Syncer.cleanup userID token calendarID selected) [] := by
  intro answer
  cases answer with
  | none => exact .inl rfl
  | some rows =>
    let items := rows.filter (fun row => row.platform ∉ selected)
    refine ensures_each (fun remaining made => ∃ handled, items = handled ++ remaining ∧
      Worked userID token calendarID [listing userID rows] handled made) ?_ ?_ items
      ⟨[], rfl, .start⟩
    · rintro item rest made ⟨handled, all, worked⟩
      refine Ensures.mono ?_ (ensures_removeTracked worked item)
      intro _ later further
      exact ⟨handled ++ [item], by rw [all, List.append_assoc]; rfl, further⟩
    · rintro made ⟨handled, all, worked⟩
      rw [List.append_nil] at all
      rw [← all] at worked
      exact .inr ⟨rows, worked⟩

/-! ### What the record says -/

variable {rows items : List Tracked} {made : Calls service}

theorem Worked.forgets {earlier : Calls service}
    (worked : Worked userID token calendarID earlier items made) {item : Tracked}
    (member : item ∈ items) : ∃ deleted, forgetting userID item.contestID deleted ∈ made := by
  induction worked with
  | start => cases member
  | next before last answers deleted ih =>
    rcases List.mem_append.mp member with old | new
    · obtain ⟨deleted, present⟩ := ih old
      exact ⟨deleted, List.mem_cons_of_mem _ (List.mem_append_right _ present)⟩
    · cases List.mem_singleton.mp new
      exact ⟨deleted, List.mem_cons_self⟩

theorem Worked.listing_mem
    (worked : Worked userID token calendarID [listing userID rows] items made)
    {other : List Tracked} : listing userID other ∈ made ↔ other = rows := by
  induction worked with
  | start => simp
  | next before last answers deleted ih => simp [ih]

theorem deletion_inside {eventID contestID : String} {answers : List (Option GoogleError)}
    {deleted : Bool} {rest before : Calls service}
    (split : answers.map (attempt userID token calendarID eventID) ++ made =
      rest ++ forgetting userID contestID deleted :: before) :
    ∃ later, made = later ++ forgetting userID contestID deleted :: before := by
  rcases List.append_eq_append_iff.mp split with ⟨later, _, inside⟩ | ⟨between, all, tail⟩
  · exact ⟨later, inside⟩
  · cases between with
    | nil => exact ⟨[], tail.symm⟩
    | cons call more =>
      have member : forgetting userID contestID deleted ∈
          answers.map (attempt userID token calendarID eventID) := by
        rw [all, (List.cons.inj tail).1]
        exact List.mem_append_right _ List.mem_cons_self
      obtain ⟨_, _, impossible⟩ := List.mem_map.mp member
      cases impossible

theorem Worked.attempts_before
    (worked : Worked userID token calendarID [listing userID rows] items made)
    (distinct : (items.map Tracked.googleEventID).Nodup) {later before : Calls service}
    {contestID : String} {deleted : Bool}
    (split : made = later ++ forgetting userID contestID deleted :: before) :
    ∃ item ∈ items, item.contestID = contestID ∧ ∀ answer,
      attempt userID token calendarID item.googleEventID answer ∈ made →
      attempt userID token calendarID item.googleEventID answer ∈ before := by
  induction worked generalizing later with
  | start =>
    exfalso
    have member : forgetting userID contestID deleted ∈ [listing userID rows] := by
      rw [split]
      exact List.mem_append_right _ List.mem_cons_self
    simp at member
  | @next items made worked last answers lastDeleted ih =>
    rw [List.map_append, List.nodup_append] at distinct
    obtain ⟨distinctBefore, _, fresh⟩ := distinct
    cases later with
    | nil =>
      obtain ⟨head, tail⟩ := List.cons.inj split
      cases head
      refine ⟨last, List.mem_append_right _ (List.mem_singleton.mpr rfl), rfl, ?_⟩
      intro answer member
      rw [← tail]
      exact (List.mem_cons.mp member).resolve_left (fun same => nomatch same)
    | cons head rest =>
      obtain ⟨inner, inside⟩ := deletion_inside (List.cons.inj split).2
      obtain ⟨item, member, atID, attempts⟩ := ih distinctBefore inside
      refine ⟨item, List.mem_append_left _ member, atID, ?_⟩
      intro answer present
      rcases List.mem_cons.mp present with impossible | present
      · cases impossible
      · rcases List.mem_append.mp present with new | old
        · obtain ⟨_, _, same⟩ := List.mem_map.mp new
          have sameID : last.googleEventID = item.googleEventID :=
            (Request.deleteEvent.inj (congrArg Sigma.fst same)).2.2.2
          exact absurd sameID.symm (fresh _ (List.mem_map_of_mem member) _
            (List.mem_singleton.mpr rfl))
        · exact attempts answer old

end Record

/-! ### What the database lists -/

def Distinct (rows : List Tracked) : Prop :=
  (rows.map Tracked.contestID).Nodup ∧ (rows.map Tracked.googleEventID).Nodup

theorem map_filterMap_sublist {α β γ : Type} {select : α → Option β} {key : β → γ}
    {original : α → γ} (same : ∀ row item, select row = some item → key item = original row)
    (rows : List α) : ((rows.filterMap select).map key).Sublist (rows.map original) := by
  induction rows with
  | nil => exact .slnil
  | cons row rest ih =>
    cases selected : select row with
    | none =>
      rw [List.filterMap_cons_none selected]
      exact ih.cons _
    | some item =>
      rw [List.filterMap_cons_some selected, List.map_cons, List.map_cons, same row item selected]
      exact ih.cons_cons _

theorem nodup_of_user {column : SyncedEvent → String} {rows : List SyncedEvent} (userID : Int)
    (distinct : (rows.map (fun row => (row.userID, column row))).Nodup) :
    ((rows.filter (fun row => row.userID = userID)).map column).Nodup := by
  have pairs : ((rows.filter (fun row => row.userID = userID)).map column).map
      (fun value => (userID, value)) =
      (rows.filter (fun row => row.userID = userID)).map (fun row => (row.userID, column row)) := by
    rw [List.map_map]
    apply List.map_congr_left
    intro row member
    have own := of_decide_eq_true (List.mem_filter.mp member).2
    simp only [Function.comp_apply, own]
  apply List.Nodup.of_map (fun value => (userID, value))
  rw [pairs]
  exact (List.filter_sublist.map _).nodup distinct

theorem distinct_selectTracked (database : Database) (userID : Int) :
    Distinct (database.selectTracked userID) := by
  unfold Database.selectTracked
  constructor
  · refine (map_filterMap_sublist ?_ _).nodup (nodup_of_user userID database.syncedEvents.distinct)
    intro row item selected
    obtain ⟨_, _, rfl⟩ := Option.map_eq_some_iff.mp selected
    rfl
  · refine (map_filterMap_sublist ?_ _).nodup (nodup_of_user userID database.eventIDs)
    intro row item selected
    obtain ⟨_, _, rfl⟩ := Option.map_eq_some_iff.mp selected
    rfl

theorem distinct_serve (world : World) (request : Request) (outcome : Outcome) {userID : Int}
    {rows : List Tracked}
    (listed : (⟨request, (world.serve request outcome).2⟩ : Call service) = listing userID rows) :
    Distinct rows := by
  have same : request = .selectTracked userID := congrArg Sigma.fst listed
  subst same
  have answer := eq_of_heq (Sigma.mk.inj listed).2
  cases outcome with
  | served =>
    rw [← Option.some.inj answer]
    exact distinct_selectTracked world.database userID
  | lost error => cases answer
  | late error => cases answer

/-! ### The clean-up as a whole -/

/-- Every row is deleted after its event was found gone exactly when every event that
had to go was found gone at some attempt. -/
theorem cleanup_forgets_gone_iff {userID : Int} {token calendarID : String}
    {selected : List String} {world last : World} {record : Calls service}
    (run : Steps environment.recorded (fun _ _ => True) environment.Elsewhere (world, [])
      (Syncer.cleanup userID token calendarID selected) (last, record) (.done ())) :
    (∀ later before contestID deleted,
      record = later ++ forgetting userID contestID deleted :: before →
      ∃ item, Listed userID selected record item ∧ item.contestID = contestID ∧
        FoundGone userID token calendarID before item) ↔
    ∀ item, Listed userID selected record item → FoundGone userID token calendarID record item := by
  have distinct : ∀ call ∈ record, ∀ rows, call = listing userID rows → Distinct rows :=
    run.answers (fun world request outcome _ listed => distinct_serve world request outcome listed)
      (fun _ impossible => nomatch impossible)
  rcases (ensures_cleanup selected).steps run with failed | ⟨rows, worked⟩
  · simp only at failed
    subst failed
    constructor
    · rintro _ item ⟨rows, listed, _⟩
      simp at listed
    · rintro _ later before contestID deleted split
      have member : forgetting userID contestID deleted ∈
          ([⟨.selectTracked userID, none⟩] : Calls service) := by
        rw [split]
        exact List.mem_append_right _ List.mem_cons_self
      simp at member
  · simp only at worked
    obtain ⟨contests, events⟩ := distinct _ (worked.listing_mem.mpr rfl) rows rfl
    have listed : ∀ item, Listed userID selected record item ↔
        item ∈ rows.filter (fun row => row.platform ∉ selected) := by
      intro item
      rw [List.mem_filter, decide_eq_true_iff]
      constructor
      · rintro ⟨other, member, present, unselected⟩
        rw [worked.listing_mem] at member
        exact ⟨member ▸ present, unselected⟩
      · rintro ⟨present, unselected⟩
        exact ⟨rows, worked.listing_mem.mpr rfl, present, unselected⟩
    constructor
    · intro justified item due
      obtain ⟨deleted, member⟩ := worked.forgets ((listed item).mp due)
      obtain ⟨later, before, split⟩ := List.append_of_mem member
      obtain ⟨other, otherDue, sameID, answer, present, gone⟩ :=
        justified later before item.contestID deleted split
      have same : other = item :=
        List.inj_on_of_nodup_map contests (List.mem_filter.mp ((listed other).mp otherDue)).1
          (List.mem_filter.mp ((listed item).mp due)).1 sameID
      subst same
      refine ⟨answer, ?_, gone⟩
      rw [split]
      exact List.mem_append_right _ (List.mem_cons_of_mem _ present)
    · intro found later before contestID deleted split
      obtain ⟨item, member, atID, attempts⟩ :=
        worked.attempts_before ((List.filter_sublist.map _).nodup events) split
      obtain ⟨answer, present, gone⟩ := found item ((listed item).mpr member)
      exact ⟨item, (listed item).mpr member, atID, answer, attempts answer present, gone⟩

/-! ### An event that nothing tracks any more -/

/-- The user has an event for a round and then gives up the platform. -/
def unselectedWorld : World :=
  replay cachingSyncer [.syncUser 1, .savePreferences 1 (some ["leetcode"]) false] announcedRound

def trackedRound : Tracked :=
  { contestID := (codeforcesRound 5000).id
    googleEventID := generateDeterministicEventID "1080" (codeforcesRound 5000).id
    platform := "codeforces" }

/-- The user has deleted the event by hand. -/
def alreadyDeleted (_state : environment.recorded.State) : Request → Outcome
  | .deleteEvent _ _ _ _ => .lost .notFound
  | _ => .served

def laterCleanup : environment.recorded.State × Unit :=
  complete environment.recorded alreadyDeleted
    (Syncer.cleanup 1 "token" "primary" ["leetcode"]) (unselectedWorld, [])

theorem record_laterCleanup : laterCleanup.1.2 = [forgetting 1 trackedRound.contestID true,
      attempt 1 "token" "primary" trackedRound.googleEventID (some .notFound),
      listing 1 [trackedRound]] :=
  rfl

/-- The row is deleted after the answer that the event is gone. -/
theorem cleanup_forgets_gone_deleted :
    ∃ item, Listed 1 ["leetcode"] laterCleanup.1.2 item ∧ item.contestID = trackedRound.contestID ∧
      FoundGone 1 "token" "primary"
        [attempt 1 "token" "primary" trackedRound.googleEventID (some .notFound),
          listing 1 [trackedRound]] item := by
  have run : Steps environment.recorded (fun _ _ => True) environment.Elsewhere
      (unselectedWorld, []) (Syncer.cleanup 1 "token" "primary" ["leetcode"])
      (laterCleanup.1.1, laterCleanup.1.2) (.done ()) :=
    complete_steps environment.recorded _ _ alreadyDeleted (fun _ _ => trivial) _ _
  have found : ∀ item, Listed 1 ["leetcode"] laterCleanup.1.2 item →
      FoundGone 1 "token" "primary" laterCleanup.1.2 item := by
    rintro item ⟨rows, listed, member, _⟩
    rw [record_laterCleanup] at listed ⊢
    have only : rows = [trackedRound] := by
      simpa using listed
    rw [only, List.mem_singleton] at member
    subst member
    refine ⟨some .notFound, List.mem_cons_of_mem _ List.mem_cons_self, ?_⟩
    intro error same
    cases same
    exact .inl rfl
  exact (cleanup_forgets_gone_iff run).mpr found [] _ trackedRound.contestID true
    record_laterCleanup

def unavailable : GoogleError :=
  { code := some 503
    message := "googleapi: Error 503: Backend Error, backendError" }

def keepsEvents (_world : World) : Request → Outcome
  | .deleteEvent _ _ _ _ => .lost unavailable
  | _ => .served

def afterFailures : World × Except SyncError Unit :=
  complete environment keepsEvents (cachingSyncer.syncUser 1) unselectedWorld

theorem account_unselectedWorld : unselectedWorld.accounts 1 = (emptyAccount.insertEvent "primary"
      (contestEvent "1080" "UTC" (codeforcesRound 5000).row)).1 :=
  rfl

/-- All attempts fail, the row is deleted, and the event is still in the calendar. -/
theorem cleanup_forgets_kept_event :
    afterFailures.2 = .ok () ∧
    unselectedWorld.database.syncedEvents.rows =
      [⟨1, trackedRound.contestID, trackedRound.googleEventID⟩] ∧
    afterFailures.1.database.syncedEvents.rows = [] ∧
    (afterFailures.1.accounts 1).shown "primary" trackedRound.googleEventID ≠ none := by
  refine ⟨rfl, rfl, rfl, ?_⟩
  have same : afterFailures.1.accounts 1 = unselectedWorld.accounts 1 := rfl
  rw [same, account_unselectedWorld]
  change (emptyAccount.setEvent "primary" trackedRound.googleEventID (some _)).shown
    "primary" trackedRound.googleEventID ≠ none
  rw [Account.shown_setEvent, Function.update_self]
  exact fun impossible => nomatch impossible

end ContestSync.Forgetting
