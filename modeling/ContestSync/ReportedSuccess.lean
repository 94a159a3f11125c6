/-
A run of `SyncUser` that returns no error. Most failures on the way are logged and passed
over, so that the result says little by itself; the calls of the run and their answers say
more. Without another user of the tables, the rows at the end are those of the start and
those that the run has stored; a loaded contest that has no row was passed over for one of
four reasons.
-/

import ContestSync.Footprints
import ContestSync.ReplicaReads
import ContestSync.Resumable.Calls

namespace ContestSync.Reported

open Resumable Program Database

/-! ### The rows -/

variable {contestID eventID : String} {request : Request} {world : World}

section Rows

variable (userID : Int) (start : World)

def Stored (record : Calls service) (contestID : String) : Prop :=
  ∃ eventID, (⟨.insertSynced ⟨userID, contestID, eventID⟩, true⟩ : Call service) ∈ record

/-- The user has a row with these ids at the start, or the run has tried to store one. -/
def Uses (record : Calls service) (contestID eventID : String) : Prop :=
  ⟨userID, contestID, eventID⟩ ∈ start.database.syncedEvents.rows ∨
    ∃ answer, (⟨.insertSynced ⟨userID, contestID, eventID⟩, answer⟩ : Call service) ∈ record

/-- No two contests have the same event. -/
def Unshared (record : Calls service) : Prop :=
  ∀ eventID first second, Uses userID start record first eventID →
    Uses userID start record second eventID → first = second

variable {userID start} {record : Calls service} {reading : Reading}
  {state last : replicated.recorded.State} {admits : replicated.recorded.Admits}

theorem Uses.cons (uses : Uses userID start record contestID eventID) (call : Call service) :
    Uses userID start (call :: record) contestID eventID := by
  rcases uses with stored | ⟨answer, member⟩
  · exact .inl stored
  · exact .inr ⟨answer, List.mem_cons_of_mem call member⟩

theorem Unshared.of_cons {call : Call service}
    (unshared : Unshared userID start (call :: record)) : Unshared userID start record :=
  fun eventID first second left right =>
    unshared eventID first second (left.cons call) (right.cons call)

theorem rows_handle (world : World) {row : SyncedEvent}
    (member : row ∈ (world.handle request).1.database.syncedEvents.rows) :
    row ∈ world.database.syncedEvents.rows ∨
      (⟨request, (world.handle request).2⟩ : Call service) = ⟨.insertSynced row, true⟩ := by
  have frame := frame_handle world request
  cases request
  case insertSynced inserted =>
    unfold World.handle at member ⊢
    simp only at member ⊢
    split at member
    · rename_i succeeded
      rcases insertSyncedEvent_cases succeeded with ⟨_, _, _, rows⟩ | ⟨_, same⟩
      · rcases (rows row).mp member with present | rfl
        · exact .inl present
        · exact .inr rfl
      · subst same
        exact .inl member
    · exact .inl member
  case deleteUser => exact .inl (Keyed.Table.mem_delete.mp member).1
  case pruneUsers => exact .inl (Keyed.Table.mem_delete.mp member).1
  case deleteSynced => exact .inl (mem_deleteSyncedEvent.mp member).1
  case pruneObsolete => exact .inl (mem_deleteContests_synced.mp member).1
  case pruneEnded => exact .inl (mem_deleteContests_synced.mp member).1
  all_goals
    rw [frame.syncedEvents rfl] at member
    exact .inl member

theorem row_kept (own : request.ofUser userID) (kept : request ≠ .deleteSynced userID contestID)
    (spares : ∀ rejected, request ≠ .deleteUser userID rejected)
    (member : ⟨userID, contestID, eventID⟩ ∈ world.database.syncedEvents.rows) :
    ⟨userID, contestID, eventID⟩ ∈ (world.handle request).1.database.syncedEvents.rows := by
  have frame := frame_handle world request
  cases request <;> cases own
  case insertSynced =>
    unfold World.handle
    simp only
    split
    · rename_i succeeded
      rcases insertSyncedEvent_cases succeeded with ⟨_, _, _, rows⟩ | ⟨_, same⟩
      · exact (rows _).mpr (.inl member)
      · subst same
        exact member
    · exact member
  case deleteSynced forgotten =>
    refine mem_deleteSyncedEvent.mpr ⟨member, ?_⟩
    rintro ⟨_, rfl⟩
    exact kept rfl
  case deleteUser rejected => exact absurd rfl (spares rejected)
  all_goals
    rw [frame.syncedEvents rfl]
    exact member

/-- An insert without an error leaves a row of the contest, unless the event belongs
to another one. -/
theorem held_of_insert {after : Database}
    (inserted : world.database.insertSyncedEvent ⟨userID, contestID, eventID⟩ = some after)
    (own : ∀ other, ⟨userID, other, eventID⟩ ∈ world.database.syncedEvents.rows →
      other = contestID) :
    contestID ∈ after.selectSynced userID := by
  rw [mem_selectSynced]
  rcases insertSyncedEvent_cases inserted with ⟨_, _, _, rows⟩ | ⟨conflict, same⟩
  · exact ⟨eventID, (rows _).mpr (.inr rfl)⟩
  · subst same
    by_contra missing
    push Not at missing
    refine conflict ⟨?_, ?_⟩
    · rintro ⟨oldUser, oldContest, oldEvent⟩ member sameKey
      obtain ⟨rfl, rfl⟩ := Prod.mk.inj sameKey
      exact missing oldEvent member
    · rintro ⟨oldUser, oldContest, oldEvent⟩ member sameKey
      obtain ⟨rfl, rfl⟩ := Prod.mk.inj sameKey
      cases own oldContest member
      exact missing _ member

theorem present_handle (own : request.ofUser userID)
    (spares : ∀ rejected, request ≠ .deleteUser userID rejected) :
    ((world.handle request).1.database.users.find userID).isSome =
      (world.database.users.find userID).isSome := by
  have frame := frame_handle world request
  have updated : ∀ change : Database.UserChange,
      ((world.database.updateUser userID change).users.find userID).isSome =
        (world.database.users.find userID).isSome := by
    intro change
    rw [find_updateUser, if_pos rfl, Option.isSome_map]
  cases request <;> cases own
  case markSyncing => exact updated _
  case markSynced => exact updated _
  case setCalendarID => exact updated _
  case updatePreferences => exact updated _
  case deleteUser rejected => exact absurd rfl (spares rejected)
  all_goals rw [frame.users rfl]

theorem absent_deleteUser (world : World) (rejected : Option String) :
    (world.handle (.deleteUser userID rejected)).1.database.users.find userID = none := by
  refine find_deleteUsers.trans ?_
  cases found : world.database.users.find userID with
  | none => rfl
  | some user => simp [(Keyed.Table.find_eq_some_iff.mp found).2]

theorem absent_handle (own : request.ofUser userID)
    (absent : world.database.users.find userID = none) :
    (world.handle request).1.database.users.find userID = none := by
  by_cases deletes : ∃ rejected, request = .deleteUser userID rejected
  · obtain ⟨rejected, rfl⟩ := deletes
    exact absent_deleteUser world rejected
  · rw [← Option.isNone_iff_eq_none, ← Option.not_isSome, present_handle own
      (fun rejected same => deletes ⟨rejected, same⟩), absent]
    rfl

structure Known (userID : Int) (start : World) (state : replicated.recorded.State) : Prop where
  tracks : ∀ contestID eventID, ⟨userID, contestID, eventID⟩ ∈ state.1.database.syncedEvents.rows →
      Uses userID start state.2 contestID eventID
  absent : ∀ rejected, (⟨.deleteUser userID rejected, true⟩ : Call service) ∈ state.2 →
    state.1.database.users.find userID = none
  -- An attempt to delete the account may take effect although it fails.
  rows : Unshared userID start state.2 → (state.1.database.users.find userID = none ∧
      ∃ rejected answer, (⟨.deleteUser userID rejected, answer⟩ : Call service) ∈ state.2) ∨
    ∀ contestID, (∀ answer, (⟨.deleteSynced userID contestID, answer⟩ : Call service) ∉ state.2) →
      contestID ∈ start.database.selectSynced userID ∨ Stored userID state.2 contestID →
        contestID ∈ state.1.database.selectSynced userID

theorem known_start : Known userID start (start, []) :=
  { tracks := fun _ _ member => .inl member
    absent := fun _ member => nomatch member
    rows := fun _ => .inr (fun _ _ held => held.resolve_right (fun ⟨_, member⟩ => nomatch member)) }

theorem read_cases (world : World) (request : Request) (reading : Reading) :
    (world.read request reading).1 = world ∨
      (world.read request reading).1 = (world.handle request).1 := by
  obtain ⟨outcome, replica⟩ := reading
  cases outcome with
  | served => exact .inr rfl
  | lost error => exact .inl rfl
  | late error => exact .inr rfl

theorem held_of_stored (tracks : ∀ contestID eventID,
      ⟨userID, contestID, eventID⟩ ∈ world.database.syncedEvents.rows →
        Uses userID start record contestID eventID)
    (unshared : Unshared userID start (⟨request, (world.read request reading).2⟩ :: record))
    (stored : (⟨request, (world.read request reading).2⟩ : Call service) =
      ⟨.insertSynced ⟨userID, contestID, eventID⟩, true⟩) :
    contestID ∈ (world.read request reading).1.database.selectSynced userID := by
  cases congrArg Sigma.fst stored
  have answered := eq_of_heq (Sigma.mk.inj stored).2
  obtain ⟨outcome, replica⟩ := reading
  cases outcome with
  | lost error => cases answered
  | late error => cases answered
  | served =>
    have own : ∀ other, ⟨userID, other, eventID⟩ ∈ world.database.syncedEvents.rows →
        other = contestID := by
      intro other member
      exact unshared eventID other contestID ((tracks other eventID member).cons _)
        (.inr ⟨_, List.mem_cons_self⟩)
    change (world.handle (.insertSynced ⟨userID, contestID, eventID⟩)).2 = true at answered
    change contestID ∈
      (world.handle (.insertSynced ⟨userID, contestID, eventID⟩)).1.database.selectSynced userID
    unfold World.handle at answered ⊢
    simp only at answered ⊢
    split
    · rename_i inserted
      exact held_of_insert inserted own
    · rename_i refused
      rw [refused] at answered
      cases answered

theorem Known.serve (known : Known userID start state)
    (own : request.ofUser userID) (reading : Reading) :
    Known userID start (replicated.recorded.serve state request reading).1 := by
  obtain ⟨world, record⟩ := state
  obtain ⟨tracks, absent, rows⟩ := known
  have effect := read_cases world request reading
  have stays : world.database.users.find userID = none →
      (world.read request reading).1.database.users.find userID = none := by
    intro gone
    rcases effect with unchanged | handled
    · rw [unchanged]
      exact gone
    · rw [handled]
      exact absent_handle own gone
  refine ⟨?_, ?_, ?_⟩
  · intro contestID eventID member
    change _ ∈ (world.read request reading).1.database.syncedEvents.rows at member
    rcases effect with unchanged | handled
    · rw [unchanged] at member
      exact (tracks contestID eventID member).cons _
    · rw [handled] at member
      rcases rows_handle world member with old | inserted
      · exact (tracks contestID eventID old).cons _
      · cases congrArg Sigma.fst inserted
        exact .inr ⟨_, List.mem_cons_self⟩
  · intro rejected member
    rcases List.mem_cons.mp member with same | old
    · cases congrArg Sigma.fst same
      have answered := eq_of_heq (Sigma.mk.inj same).2
      obtain ⟨outcome, replica⟩ := reading
      cases outcome with
      | served => exact absent_deleteUser world rejected
      | lost error => cases answered
      | late error => cases answered
    · exact stays (absent rejected old)
  · intro unshared
    rcases rows unshared.of_cons with ⟨gone, rejected, answer, member⟩ | held
    · exact .inl ⟨stays gone, rejected, answer, List.mem_cons_of_mem _ member⟩
    · by_cases deleted : ∃ rejected, request = .deleteUser userID rejected ∧
          (world.read request reading).1 = (world.handle request).1
      · obtain ⟨rejected, rfl, handled⟩ := deleted
        refine .inl ⟨?_, rejected, _, List.mem_cons_self⟩
        change (world.read _ reading).1.database.users.find userID = none
        rw [handled]
        exact absent_deleteUser world rejected
      · refine .inr ?_
        intro contestID unforgotten kept
        have earlier : contestID ∈ start.database.selectSynced userID ∨
            Stored userID record contestID → contestID ∈ world.database.selectSynced userID :=
          held contestID (fun answer member => unforgotten answer (List.mem_cons_of_mem _ member))
        have persists : contestID ∈ world.database.selectSynced userID →
            contestID ∈ (world.read request reading).1.database.selectSynced userID := by
          intro present
          rcases effect with unchanged | handled
          · rw [unchanged]
            exact present
          · rw [handled, mem_selectSynced]
            obtain ⟨eventID, member⟩ := mem_selectSynced.mp present
            refine ⟨eventID, row_kept own ?_ ?_ member⟩
            · rintro rfl
              exact unforgotten _ List.mem_cons_self
            · exact fun rejected same => deleted ⟨rejected, same, handled⟩
        rcases kept with atStart | ⟨eventID, member⟩
        · exact persists (earlier (.inl atStart))
        · rcases List.mem_cons.mp member with same | old
          · exact held_of_stored tracks unshared same.symm
          · exact persists (earlier (.inr ⟨eventID, old⟩))

/-- Between two calls of the run time passes and keys expire; nobody else is there. -/
def Idle (before after : replicated.recorded.State) : Prop :=
  Lapse before.1 after.1 ∧ after.2 = before.2

theorem known_of_run {α : Type} {program residue : Program service α}
    (run : Steps replicated.recorded admits Idle (start, []) program last residue)
    (own : ∀ call ∈ last.2, call.1.ofUser userID) : Known userID start last := by
  refine run.keeps (fun state => (∀ call ∈ state.2, call.1.ofUser userID) →
    Known userID start state) ?_ ?_ (fun _ => known_start) own
  · intro state request reading _ known own
    exact (known (fun call member => own call (List.mem_cons_of_mem _ member))).serve
      (own _ List.mem_cons_self) reading
  · rintro before after ⟨lapse, recorded⟩ known own
    rw [recorded] at own
    obtain ⟨tracks, absent, rows⟩ := known own
    refine ⟨?_, ?_, ?_⟩
    · rw [lapse.database, recorded]
      exact tracks
    · rw [lapse.database, recorded]
      exact absent
    · rw [lapse.database, recorded]
      exact rows

/-! ### Statements that fail without an effect -/

/-- A statement that stores a row or deletes an account and fails has no effect. -/
def Definite (admits : replicated.recorded.Admits) : Prop :=
  ∀ request reading error, admits request reading → reading.outcome = .late error →
    (∀ row, request ≠ .insertSynced row) ∧ ∀ userID rejected, request ≠ .deleteUser userID rejected

/-- The rows and the account are as the answers say. -/
structure Answered (userID : Int) (start : World) (state : replicated.recorded.State) : Prop where
  rows : ∀ contestID ∈ state.1.database.selectSynced userID,
    contestID ∈ start.database.selectSynced userID ∨ Stored userID state.2 contestID
  present : (start.database.users.find userID).isSome = true →
    (∀ rejected, (⟨.deleteUser userID rejected, true⟩ : Call service) ∉ state.2) →
      (state.1.database.users.find userID).isSome = true

theorem Stored.cons (stored : Stored userID record contestID) (call : Call service) :
    Stored userID (call :: record) contestID := by
  obtain ⟨eventID, member⟩ := stored
  exact ⟨eventID, List.mem_cons_of_mem call member⟩

theorem Answered.serve (definite : Definite admits) (answered : Answered userID start state)
    (own : request.ofUser userID) (admitted : admits request reading) :
    Answered userID start (replicated.recorded.serve state request reading).1 := by
  obtain ⟨world, record⟩ := state
  obtain ⟨rows, present⟩ := answered
  refine ⟨?_, ?_⟩
  · intro contestID member
    change contestID ∈ (world.read request reading).1.database.selectSynced userID at member
    have earlier : contestID ∈ world.database.selectSynced userID →
        contestID ∈ start.database.selectSynced userID ∨
          Stored userID (⟨request, (world.read request reading).2⟩ :: record) contestID :=
      fun held => (rows contestID held).imp_right (fun stored => stored.cons _)
    rcases read_cases world request reading with unchanged | handled
    · rw [unchanged] at member
      exact earlier member
    · rw [handled] at member
      obtain ⟨eventID, stored⟩ := mem_selectSynced.mp member
      rcases rows_handle world stored with old | inserted
      · exact earlier (mem_selectSynced.mpr ⟨eventID, old⟩)
      · cases congrArg Sigma.fst inserted
        obtain ⟨outcome, replica⟩ := reading
        cases outcome with
        | served => exact .inr ⟨eventID, List.mem_cons.mpr (.inl inserted.symm)⟩
        | lost error =>
          rw [← handled] at member
          exact earlier member
        | late error => exact absurd rfl ((definite _ _ error admitted rfl).1 _)
  · intro stored undeleted
    change ((world.read request reading).1.database.users.find userID).isSome = true
    have before := present stored
      (fun rejected member => undeleted rejected (List.mem_cons_of_mem _ member))
    by_cases deletes : ∃ rejected, request = .deleteUser userID rejected
    · obtain ⟨rejected, rfl⟩ := deletes
      obtain ⟨outcome, replica⟩ := reading
      cases outcome with
      | served => exact absurd List.mem_cons_self (undeleted rejected)
      | lost error => exact before
      | late error => exact absurd rfl ((definite _ _ error admitted rfl).2 userID rejected)
    · rcases read_cases world request reading with unchanged | handled
      · rw [unchanged]
        exact before
      · rw [handled, present_handle own (fun rejected same => deletes ⟨rejected, same⟩)]
        exact before

theorem answered_of_run {α : Type} {program residue : Program service α}
    (definite : Definite admits)
    (run : Steps replicated.recorded admits Idle (start, []) program last residue)
    (own : ∀ call ∈ last.2, call.1.ofUser userID) : Answered userID start last := by
  refine run.keeps (fun state => (∀ call ∈ state.2, call.1.ofUser userID) →
    Answered userID start state) ?_ ?_
    (fun _ => ⟨fun _ held => .inl held, fun stored _ => stored⟩) own
  · intro state request reading admitted answered own
    exact (answered (fun call member => own call (List.mem_cons_of_mem _ member))).serve definite
      (own _ List.mem_cons_self) admitted
  · rintro before after ⟨lapse, recorded⟩ answered own
    rw [recorded] at own
    obtain ⟨rows, present⟩ := answered own
    refine ⟨?_, ?_⟩
    · rw [lapse.database, recorded]
      exact rows
    · rw [lapse.database, recorded]
      exact present

end Rows

/-! ### What the run does -/

/-- The run has read the contest for the platform, from the cache or from the database. -/
def LoadedFor (record : Calls service) (platform : String) (contest : ContestRow) : Prop :=
  (∃ rows, (⟨.getCachedContests platform, some rows⟩ : Call service) ∈ record ∧ contest ∈ rows) ∨
  ∃ platforms rows, (⟨.selectContests platforms, some rows⟩ : Call service) ∈ record ∧
    contest ∈ rows ∧ contest.platform = platform ∧ platform ∈ platforms

def Loaded (record : Calls service) (contest : ContestRow) : Prop :=
  ∃ platform, LoadedFor record platform contest

def loading : Request → Bool
  | .getCachedContests _ => true
  | .selectContests _ => true
  | _ => false

def deleting : Request → Bool
  | .deleteUser _ _ => true
  | _ => false

def removing : Request → Bool
  | .deleteSynced _ _ => true
  | _ => false

def lasting (request : Request) : Bool :=
  !deleting request && !removing request

def neutral (request : Request) : Bool :=
  !loading request && !removing request

def quiet (request : Request) : Bool :=
  lasting request && !loading request

variable {contest : ContestRow} {platform : String} {user : CachedUser}

section Run

variable (userID : Int)

variable (record : Calls service)

/-- A call was answered with the error of a revoked token. -/
def Told : Prop :=
  ∃ (request : Request) (error : GoogleError), error.revoked = true ∧
    (⟨request, request.failure error⟩ : Call service) ∈ record

/-- A revoked token has made the run delete the account. -/
def Revoked : Prop :=
  Told record ∧ ∃ token answer, (⟨.deleteUser userID (some token), answer⟩ : Call service) ∈ record

def Undeleted : Prop :=
  ∀ call ∈ record, deleting call.1 = false

/-- The synced set, from the cache or from a query, lists the contest. -/
def Listed (contestID : String) : Prop :=
  ∃ listed, ((⟨.getCachedSynced userID, some listed⟩ : Call service) ∈ record ∨
    (⟨.selectSynced userID, some listed⟩ : Call service) ∈ record) ∧ contestID ∈ listed

abbrev failedInsert (token calendarID : String) (event : Event) (error : GoogleError) :
    Call service :=
  ⟨.insertEvent userID token calendarID event, .error error⟩

abbrev failedUpdate (token calendarID : String) (event : Event) (error : GoogleError) :
    Call service :=
  ⟨.updateEvent userID token calendarID event.id event, some error⟩

/-- An attempt to insert fails for another reason than a conflict or a revoked token. -/
def Harmless (error : GoogleError) : Prop :=
  error.code ≠ some 409 ∧ error.revoked = false

/-- All three attempts to insert the event of the contest failed, or after a conflict all
three to update it. -/
def Abandoned (contest : ContestRow) : Prop :=
  ∃ googleID timezone token calendarID, ∃ errors : List GoogleError, errors.length = 3 ∧
    ((∀ error ∈ errors, Harmless error) ∧
        errors.map (failedInsert userID token calendarID (contestEvent googleID timezone contest))
          <:+: record ∨
      ∃ conflict : GoogleError, conflict.revoked = false ∧
        errors.map (failedUpdate userID token calendarID
          (contestEvent googleID timezone contest)) ++
          [failedInsert userID token calendarID (contestEvent googleID timezone contest) conflict]
          <:+: record)

def Unstored (contestID : String) : Prop :=
  ∃ eventID, (⟨.insertSynced ⟨userID, contestID, eventID⟩, false⟩ : Call service) ∈ record

/-- What becomes of a contest that the run has loaded. -/
def Treated (contest : ContestRow) : Prop :=
  Listed userID record contest.id ∨ Stored userID record contest.id ∨
    Unstored userID record contest.id ∨ Abandoned userID record contest ∨ Revoked userID record

/-- The clean-up query has shown a row of the contest under a platform that is not selected. -/
def Unselected (selected : List String) (record : Calls service) (contestID : String) :
    Prop :=
  ∃ rows, (⟨.selectTracked userID, some rows⟩ : Call service) ∈ record ∧
    ∃ item ∈ rows, item.contestID = contestID ∧ item.platform ∉ selected

/-- Contests are loaded for the selected platforms, and rows are deleted for others. -/
structure Tidy (selected : List String) (record : Calls service) : Prop where
  chosen : ∀ platform contest, LoadedFor record platform contest → platform ∈ selected
  removed : ∀ contestID answer, (⟨.deleteSynced userID contestID, answer⟩ : Call service) ∈ record →
    Unselected userID selected record contestID

structure Settled (selected : List String) (record : Calls service) : Prop where
  tidy : Tidy userID selected record
  account : Undeleted record ∨ Revoked userID record
  contests : ∀ contest, Loaded record contest → Treated userID record contest

variable {userID}

/-! ### Longer records -/

section Longer

variable {made later : Calls service} {selected : List String}

theorem Revoked.suffix (revoked : Revoked userID made) (longer : made <:+ later) :
    Revoked userID later := by
  obtain ⟨⟨request, error, told, failed⟩, token, answer, member⟩ := revoked
  exact ⟨⟨request, error, told, longer.subset failed⟩, token, answer, longer.subset member⟩

theorem Listed.suffix (listed : Listed userID made contestID)
    (longer : made <:+ later) : Listed userID later contestID := by
  obtain ⟨contestIDs, answered, member⟩ := listed
  exact ⟨contestIDs, answered.imp (fun cached => longer.subset cached)
    (fun selected => longer.subset selected), member⟩

theorem Abandoned.suffix (abandoned : Abandoned userID made contest)
    (longer : made <:+ later) : Abandoned userID later contest := by
  obtain ⟨googleID, timezone, token, calendarID, errors, three, attempts⟩ := abandoned
  refine ⟨googleID, timezone, token, calendarID, errors, three, ?_⟩
  rcases attempts with ⟨harmless, inserts⟩ | ⟨conflict, unrevoked, updates⟩
  · exact .inl ⟨harmless, inserts.trans longer.isInfix⟩
  · exact .inr ⟨conflict, unrevoked, updates.trans longer.isInfix⟩

theorem Treated.suffix (treated : Treated userID made contest)
    (longer : made <:+ later) : Treated userID later contest := by
  rcases treated with listed | ⟨eventID, stored⟩ | ⟨eventID, unstored⟩ | abandoned | revoked
  · exact .inl (listed.suffix longer)
  · exact .inr (.inl ⟨eventID, longer.subset stored⟩)
  · exact .inr (.inr (.inl ⟨eventID, longer.subset unstored⟩))
  · exact .inr (.inr (.inr (.inl (abandoned.suffix longer))))
  · exact .inr (.inr (.inr (.inr (revoked.suffix longer))))

theorem Unselected.suffix (shown : Unselected userID selected made contestID)
    (longer : made <:+ later) : Unselected userID selected later contestID := by
  obtain ⟨rows, member, item⟩ := shown
  exact ⟨rows, longer.subset member, item⟩

theorem lasting_of_quiet (request : Request) (still : quiet request = true) :
    lasting request = true :=
  (Bool.and_eq_true_iff.mp still).1

theorem neutral_of_quiet (request : Request) (still : quiet request = true) :
    neutral request = true := by
  cases request <;> first | rfl | cases still

theorem Undeleted.cons (undeleted : Undeleted made)
    (spares : deleting request = false) (answer : request.Answer) :
    Undeleted (⟨request, answer⟩ :: made) := by
  intro call member
  rcases List.mem_cons.mp member with rfl | old
  · exact spares
  · exact undeleted call old

theorem Undeleted.extends (undeleted : Undeleted made) (grown : Extends lasting made later) :
    Undeleted later := by
  refine grown.keeps Undeleted (fun last _ lasts earlier => earlier.cons ?_ last.2) undeleted
  exact (Bool.not_eq_true' _).mp (Bool.and_eq_true_iff.mp lasts).1

theorem loadedFor_cons {last : Call service} (still : loading last.1 = false)
    (loaded : LoadedFor (last :: made) platform contest) :
    LoadedFor made platform contest := by
  rcases loaded with ⟨rows, member, inside⟩ | ⟨platforms, rows, member, inside⟩
  · rcases List.mem_cons.mp member with rfl | old
    · cases still
    · exact .inl ⟨rows, old, inside⟩
  · rcases List.mem_cons.mp member with rfl | old
    · cases still
    · exact .inr ⟨platforms, rows, old, inside⟩

theorem loadedFor_of_extends (grown : Extends neutral made later)
    (loaded : LoadedFor later platform contest) :
    LoadedFor made platform contest := by
  refine grown.keeps
    (fun record => LoadedFor record platform contest → LoadedFor made platform contest) ?_ id loaded
  intro call earlier still back loaded
  exact back (loadedFor_cons ((Bool.not_eq_true' _).mp (Bool.and_eq_true_iff.mp still).1) loaded)

theorem loaded_of_extends (grown : Extends neutral made later)
    (loaded : Loaded later contest) : Loaded made contest := by
  obtain ⟨platform, loaded⟩ := loaded
  exact ⟨platform, loadedFor_of_extends grown loaded⟩

theorem removed_of_extends {allowed : Request → Bool}
    (spares : ∀ request, allowed request = true → removing request = false)
    (grown : Extends allowed made later) {answer : Bool}
    (member : (⟨.deleteSynced userID contestID, answer⟩ : Call service) ∈ later) :
    (⟨.deleteSynced userID contestID, answer⟩ : Call service) ∈ made := by
  obtain ⟨new, rfl, all⟩ := grown
  rcases List.mem_append.mp member with late | early
  · cases spares _ (all _ late)
  · exact early

theorem removing_of_neutral (request : Request) (still : neutral request = true) :
    removing request = false :=
  (Bool.not_eq_true' _).mp (Bool.and_eq_true_iff.mp still).2

theorem removing_of_lasting (request : Request) (lasts : lasting request = true) :
    removing request = false :=
  (Bool.not_eq_true' _).mp (Bool.and_eq_true_iff.mp lasts).2

theorem Tidy.extends (tidy : Tidy userID selected made) (grown : Extends neutral made later) :
    Tidy userID selected later where
  chosen platform contest loaded := tidy.chosen platform contest (loadedFor_of_extends grown loaded)
  removed contestID answer member :=
    (tidy.removed contestID answer (removed_of_extends removing_of_neutral grown member)).suffix
      grown.suffix

theorem Settled.extends (settled : Settled userID selected made)
    (grown : Extends quiet made later) : Settled userID selected later where
  tidy := settled.tidy.extends (grown.mono neutral_of_quiet)
  account := settled.account.imp (fun undeleted => undeleted.extends (grown.mono lasting_of_quiet))
    (fun revoked => revoked.suffix grown.suffix)
  contests contest loaded :=
    (settled.contests contest (loaded_of_extends (grown.mono neutral_of_quiet) loaded)).suffix
      grown.suffix

/-- Nothing has been loaded or deleted yet. -/
def Blank (record : Calls service) : Prop :=
  ∀ call ∈ record, quiet call.1 = true

theorem maintains_blank (request : Request) (still : quiet request = true) :
    Maintains (calls service) Blank (ask request) := by
  refine maintains_call ?_
  intro made answer blank call member
  rcases List.mem_cons.mp member with rfl | old
  · exact still
  · exact blank call old

theorem Blank.extends (blank : Blank made) : Extends quiet [] made :=
  ⟨made, (List.append_nil made).symm, blank⟩

theorem tidy_nil : Tidy userID selected [] where
  chosen := by
    rintro platform contest (⟨_, impossible, _⟩ | ⟨_, _, impossible, _⟩)
    · cases impossible
    · cases impossible
  removed _ _ impossible := nomatch impossible

theorem unloaded_of_blank (grown : Extends neutral [] made) (contest : ContestRow) :
    ¬Loaded made contest := by
  intro loaded
  obtain ⟨platform, ⟨_, impossible, _⟩ | ⟨_, _, impossible, _⟩⟩ := loaded_of_extends grown loaded
  · cases impossible
  · cases impossible

theorem settled_of_revoked (grown : Extends neutral [] made) (revoked : Revoked userID made) :
    Settled userID selected made where
  tidy := tidy_nil.extends grown
  account := .inr revoked
  contests contest loaded := absurd loaded (unloaded_of_blank grown contest)

end Longer

/-! ### The insert loop -/

variable {syncer : Syncer} {token calendarID timezone googleID : String}

def Ended (userID : Int) (made later : Calls service) : Prop :=
  Extends neutral made later ∧ Revoked userID later

variable {error : GoogleError} {made middle : Calls service} {selected : List String}

theorem ensures_handleSyncError {β : Type} {post : β → Calls service → Prop}
    {rest : Bool → Program service β} (told : error.revoked = true → Told made)
    (removed : ∀ later, Ended userID made later → Ensures (calls service) post (rest true) later)
    (kept : error.revoked = false → Ensures (calls service) post (rest false) made) :
    Ensures (calls service) post (syncer.handleSyncError userID token error >>= rest) made := by
  apply Ensures.bind
  apply ensures_ite
  · intro revoked answer
    have deletes : neutral (.deleteUser userID (some token)) = true := rfl
    have forgets : neutral (.deleteCachedUser userID) = true := rfl
    have grown := (Extends.refl made).cons deletes answer
    have revoked : Revoked userID (⟨.deleteUser userID (some token), answer⟩ :: made) := by
      obtain ⟨request, error, revoked, failed⟩ := told revoked
      exact ⟨⟨request, error, revoked, List.mem_cons_of_mem _ failed⟩, token, answer,
        List.mem_cons_self⟩
    apply ensures_ite
    · intro _ forgotten
      have further := grown.cons forgets forgotten
      exact removed _ ⟨further, revoked.suffix (List.suffix_cons _ _)⟩
    · exact fun _ => removed _ ⟨grown, revoked⟩
  · exact fun harmless => kept (Bool.eq_false_iff.mpr harmless)

/-- An attempt to insert that is not followed by another one. -/
def Exited (userID : Int) (token calendarID : String) (event : Event)
    (exit : Syncer.InsertExit) (made later : Calls service) : Prop :=
  match exit with
  | .deleted => Ended userID made later
  | .created _ => Extends quiet made later
  | .conflict error => later = failedInsert userID token calendarID event error :: made

theorem ensures_insertAttempt (event : Event) (made : Calls service) :
    Ensures (calls service) (Attempted (failedInsert userID token calendarID event) Harmless
        (Exited userID token calendarID event) made)
      (syncer.insertAttempt userID token calendarID event) made := by
  intro answer
  have permitted : quiet (.insertEvent userID token calendarID event) = true := rfl
  have grown : Extends quiet made (_ :: made) := (Extends.refl made).cons permitted answer
  cases answer with
  | ok created => exact grown
  | error error =>
    have told : error.revoked = true →
        Told (failedInsert userID token calendarID event error :: made) :=
      fun revoked => ⟨_, error, revoked, List.mem_cons_self⟩
    apply ensures_ite
    · exact fun _ => rfl
    · intro different
      apply ensures_handleSyncError told
      · exact fun _ ended => ⟨(grown.mono neutral_of_quiet).trans ended.1, ended.2⟩
      · exact fun harmless => ⟨⟨different, harmless⟩, rfl⟩

theorem ensures_updateAttempt (event : Event) (made : Calls service) :
    Ensures (calls service) (Attempted (failedUpdate userID token calendarID event) (fun _ => True)
        (fun _ => Extends quiet) made)
      (Syncer.updateAttempt userID token calendarID event) made := by
  intro answer
  have permitted : quiet (.updateEvent userID token calendarID event.id event) = true := rfl
  cases answer with
  | none => exact (Extends.refl made).cons permitted none
  | some error => exact ⟨trivial, rfl⟩

theorem extends_failures {failed : GoogleError → Call service}
    (permitted : ∀ error, quiet (failed error).1 = true) (errors : List GoogleError)
    (made : Calls service) : Extends quiet made (errors.map failed ++ made) := by
  refine ⟨_, rfl, ?_⟩
  intro call member
  obtain ⟨error, _, rfl⟩ := List.mem_map.mp member
  exact permitted error

/-- The result of an iteration: the early return of a deleted account, or a row or a
failure for the contest. -/
def Handled (userID : Int) (contest : ContestRow) (made : Calls service)
    (result : Except Unit Bool) (later : Calls service) : Prop :=
  match result with
  | .error () => Ended userID made later
  | .ok _ => Extends quiet made later ∧ Treated userID later contest

theorem ensures_recordSynced (anySynced : Bool) (eventID : String)
    (grown : Extends quiet made middle) :
    Ensures (calls service) (Handled userID contest made)
      (Syncer.recordSynced userID anySynced contest.id eventID) middle := by
  intro saved
  have permitted : quiet (.insertSynced ⟨userID, contest.id, eventID⟩) = true := rfl
  refine ⟨grown.cons permitted saved, ?_⟩
  cases saved with
  | true => exact .inr (.inl ⟨eventID, List.mem_cons_self⟩)
  | false => exact .inr (.inr (.inl ⟨eventID, List.mem_cons_self⟩))

theorem ensures_giveUp (anySynced : Bool) (grown : Extends quiet made middle)
    (told : error.revoked = true → Told middle)
    (abandoned : error.revoked = false → Abandoned userID middle contest) :
    Ensures (calls service) (Handled userID contest made)
      (syncer.giveUp userID token anySynced error) middle := by
  apply ensures_handleSyncError told
  · exact fun _ ended => ⟨(grown.mono neutral_of_quiet).trans ended.1, ended.2⟩
  · exact fun harmless => ⟨grown, .inr (.inr (.inr (.inl (abandoned harmless))))⟩

theorem ensures_syncContest (anySynced : Bool) (contest : ContestRow) (made : Calls service) :
    Ensures (calls service) (Handled userID contest made)
      (syncer.syncContest userID token calendarID timezone googleID anySynced contest) made := by
  let event := contestEvent googleID timezone contest
  have inserts : ∀ errors : List GoogleError, Extends quiet made
      (errors.map (failedInsert userID token calendarID event) ++ made) :=
    fun errors => extends_failures (fun _ => rfl) errors made
  refine (ensures_retry_calls (ensures_insertAttempt event) 2 made).then ?_
  intro result middle reached
  cases result with
  | error error =>
    obtain ⟨errors, three, final, harmless, rfl⟩ := reached
    refine ensures_giveUp anySynced (inserts errors) ?_ (fun _ => ?_)
    · rw [(harmless error final).2]
      exact fun impossible => nomatch impossible
    · exact ⟨googleID, timezone, token, calendarID, errors, three,
        .inl ⟨harmless, (List.prefix_append _ made).isInfix⟩⟩
  | ok exit =>
    obtain ⟨errors, reached⟩ := reached
    cases exit with
    | deleted => exact ⟨((inserts errors).mono neutral_of_quiet).trans reached.1, reached.2⟩
    | created created =>
      exact ensures_recordSynced anySynced created.id ((inserts errors).trans reached)
    | conflict error =>
      have told : error.revoked = true → Told middle := by
        rw [reached]
        exact fun revoked => ⟨_, error, revoked, List.mem_cons_self⟩
      have permitted : quiet (failedInsert userID token calendarID event error).1 = true := rfl
      have before : Extends quiet made middle := by
        rw [reached]
        exact (inserts errors).cons permitted _
      have updates : ∀ failures : List GoogleError, Extends quiet middle
          (failures.map (failedUpdate userID token calendarID event) ++ middle) :=
        fun failures => extends_failures (fun _ => rfl) failures middle
      refine (ensures_retry_calls (ensures_updateAttempt event) 2 middle).then ?_
      intro result later updated
      cases result with
      | ok _ =>
        obtain ⟨failures, updated⟩ := updated
        exact ensures_recordSynced anySynced event.id
          (before.trans ((updates failures).trans updated))
      | error _ =>
        obtain ⟨failures, three, _, _, rfl⟩ := updated
        refine ensures_giveUp anySynced (before.trans (updates failures)) ?_ ?_
        · intro revoked
          obtain ⟨request, other, isRevoked, member⟩ := told revoked
          exact ⟨request, other, isRevoked, List.mem_append_right _ member⟩
        · intro harmless
          refine ⟨googleID, timezone, token, calendarID, failures, three,
            .inr ⟨error, harmless, ?_⟩⟩
          rw [reached]
          exact ⟨[], errors.map (failedInsert userID token calendarID event) ++ made,
            by simp [event]⟩

/-- The loop ends early for a deleted account, and otherwise when every contest has had its
turn. -/
theorem ensures_syncContests {synced : List String} {contests : List ContestRow}
    (tidy : Tidy userID selected made) (undeleted : Undeleted made)
    (known : ∀ contestID ∈ synced, Listed userID made contestID)
    (loads : ∀ contest, Loaded made contest → contest ∈ contests) :
    Ensures (calls service) (fun _ later => Settled userID selected later)
      (syncer.syncContests userID token calendarID timezone googleID synced contests) made := by
  refine ensures_traverse (fun _ rest later => Tidy userID selected later ∧ Undeleted later ∧
    (∀ contestID ∈ synced, Listed userID later contestID) ∧
      ∀ contest, Loaded later contest → contest ∈ rest ∨ Treated userID later contest) ?_ ?_
    contests ⟨tidy, undeleted, known, fun contest loaded => .inl (loads contest loaded)⟩
  · rintro anySynced contest rest middle ⟨tidy, undeleted, known, progress⟩
    apply ensures_ite
    · intro listed
      refine ⟨tidy, undeleted, known, ?_⟩
      intro other loaded
      rcases progress other loaded with remains | treated
      · rcases List.mem_cons.mp remains with rfl | later
        · exact .inr (.inl (known other.id listed))
        · exact .inl later
      · exact .inr treated
    · intro _
      refine Ensures.mono ?_ (ensures_syncContest anySynced contest middle)
      intro result later handled
      cases result with
      | error left =>
        obtain ⟨grown, revoked⟩ := handled
        exact ⟨tidy.extends grown, .inr revoked, fun _ _ => .inr (.inr (.inr (.inr revoked)))⟩
      | ok next =>
        obtain ⟨grown, reached⟩ := handled
        have neutrally := grown.mono neutral_of_quiet
        refine ⟨tidy.extends neutrally, undeleted.extends (grown.mono lasting_of_quiet),
          fun contestID listed => (known contestID listed).suffix grown.suffix, ?_⟩
        intro other loaded
        rcases progress other (loaded_of_extends neutrally loaded) with remains | treated
        · rcases List.mem_cons.mp remains with rfl | later
          · exact .inr reached
          · exact .inl later
        · exact .inr (treated.suffix grown.suffix)
  · rintro anySynced later ⟨tidy, undeleted, _, progress⟩
    exact ⟨tidy, .inl undeleted, fun contest loaded =>
      (progress contest loaded).resolve_left (fun impossible => nomatch impossible)⟩

/-! ### The synced set and the contests -/

theorem ensures_selectSyncedSet (made : Calls service) :
    Ensures (calls service) (fun synced later => Extends quiet made later ∧
        ∀ contestID ∈ synced, Listed userID later contestID)
      (syncer.selectSyncedSet userID) made := by
  intro answer
  have selects : quiet (.selectSynced userID) = true := rfl
  have grown := (Extends.refl made).cons selects answer
  cases answer with
  | none => exact ⟨grown, fun _ impossible => nomatch impossible⟩
  | some contestIDs =>
    have fills : quiet (.setCachedSynced userID contestIDs) = true := rfl
    apply ensures_ite
    · intro _ answer
      exact ⟨grown.cons fills answer, fun contestID member =>
        ⟨contestIDs, .inr (List.mem_cons_of_mem _ List.mem_cons_self), member⟩⟩
    · exact fun _ => ⟨grown, fun contestID member =>
        ⟨contestIDs, .inr List.mem_cons_self, member⟩⟩

theorem ensures_loadSynced (made : Calls service) :
    Ensures (calls service) (fun synced later => Extends quiet made later ∧
        ∀ contestID ∈ synced, Listed userID later contestID)
      (syncer.loadSynced userID) made := by
  apply ensures_ite
  · intro _ hit
    have gets : quiet (.getCachedSynced userID) = true := rfl
    have grown := (Extends.refl made).cons gets hit
    cases hit with
    | some contestIDs =>
      exact ⟨grown, fun contestID member => ⟨contestIDs, .inl List.mem_cons_self, member⟩⟩
    | none =>
      refine Ensures.mono ?_ (ensures_selectSyncedSet _)
      exact fun _ _ reached => ⟨grown.trans reached.1, reached.2⟩
  · exact fun _ => ensures_selectSyncedSet made

/-- What a part of the loading reads is for the selected platforms. -/
structure Reads (selected : List String) (found : List ContestRow)
    (made later : Calls service) : Prop where
  grown : Extends lasting made later
  loads : ∀ platform contest, LoadedFor later platform contest →
    LoadedFor made platform contest ∨ platform ∈ selected ∧ contest ∈ found

theorem ensures_cachedContests (selected : List String) (made : Calls service) :
    Ensures (calls service)
      (fun answer later => Reads selected answer.1 made later ∧ answer.2 ⊆ selected)
      (Syncer.cachedContests selected) made := by
  induction selected generalizing made with
  | nil => exact ⟨⟨.refl made, fun _ _ loaded => .inl loaded⟩, fun _ impossible => impossible⟩
  | cons platform rest ih =>
    refine ensures_call ?_
    intro hit
    have gets : lasting (.getCachedContests platform) = true := rfl
    have grown := (Extends.refl made).cons gets hit
    have here : ∀ other contest,
        LoadedFor (⟨.getCachedContests platform, hit⟩ :: made) other contest →
        LoadedFor made other contest ∨
          other = platform ∧ ∃ rows, hit = some rows ∧ contest ∈ rows := by
      rintro other contest (⟨rows, member, inside⟩ | ⟨platforms, rows, member, inside⟩)
      · rcases List.mem_cons.mp member with same | old
        · cases congrArg Sigma.fst same
          exact .inr ⟨rfl, rows, (eq_of_heq (Sigma.mk.inj same).2).symm, inside⟩
        · exact .inl (.inl ⟨rows, old, inside⟩)
      · rcases List.mem_cons.mp member with same | old
        · cases same
        · exact .inl (.inr ⟨platforms, rows, old, inside⟩)
    refine (ih _).then ?_
    rintro ⟨found, missed⟩ later ⟨⟨further, loads⟩, inside⟩
    have wider : ∀ other, other ∈ missed → other ∈ platform :: rest :=
      fun other member => List.mem_cons_of_mem _ (inside member)
    cases hit with
    | some rows =>
      refine ⟨⟨grown.trans further, ?_⟩, wider⟩
      intro other contest loaded
      rcases loads other contest loaded with early | ⟨chosen, inside⟩
      · refine (here other contest early).imp_right ?_
        rintro ⟨rfl, _, ⟨⟩, inside⟩
        exact ⟨List.mem_cons_self, List.mem_append_left _ inside⟩
      · exact .inr ⟨List.mem_cons_of_mem _ chosen, List.mem_append_right _ inside⟩
    | none =>
      refine ⟨⟨grown.trans further, ?_⟩, ?_⟩
      · intro other contest loaded
        rcases loads other contest loaded with early | ⟨chosen, inside⟩
        · refine (here other contest early).imp_right ?_
          rintro ⟨_, _, ⟨⟩, _⟩
        · exact .inr ⟨List.mem_cons_of_mem _ chosen, inside⟩
      · exact List.cons_subset.mpr ⟨List.mem_cons_self, wider⟩

theorem ensures_fillContests (rows : List ContestRow) (missed : List String)
    (made : Calls service) :
    Ensures (calls service) (fun filled later => Extends quiet made later ∧
        ∀ contest ∈ rows, contest.platform ∈ missed → contest ∈ filled)
      (Syncer.fillContests rows missed) made := by
  induction missed generalizing made with
  | nil => exact ⟨.refl made, fun _ _ impossible => nomatch impossible⟩
  | cons platform rest ih =>
    refine ensures_call ?_
    intro answer
    have fills : quiet (.setCachedContests platform
      (rows.filter (fun contest => contest.platform = platform))) = true := rfl
    have grown := (Extends.refl made).cons fills answer
    refine (ih _).then ?_
    rintro others later ⟨further, all⟩
    refine ⟨grown.trans further, ?_⟩
    intro contest listed wanted
    rcases List.mem_cons.mp wanted with here | there
    · exact List.mem_append_left _ (List.mem_filter.mpr ⟨listed, decide_eq_true here⟩)
    · exact List.mem_append_right _ (all contest listed there)

theorem loadedFor_selectContests {platforms : List String} {rows : List ContestRow}
    (loaded : LoadedFor (⟨.selectContests platforms, some rows⟩ :: made) platform contest) :
    LoadedFor made platform contest ∨
      contest ∈ rows ∧ contest.platform = platform ∧ platform ∈ platforms := by
  rcases loaded with ⟨others, member, inside⟩ | ⟨others, listed, member, inside⟩
  · rcases List.mem_cons.mp member with same | old
    · cases same
    · exact .inl (.inl ⟨others, old, inside⟩)
  · rcases List.mem_cons.mp member with same | old
    · cases same
      exact .inr inside
    · exact .inl (.inr ⟨others, listed, old, inside⟩)

theorem ensures_loadContests (selected : List String) (made : Calls service) :
    Ensures (calls service)
      (fun answer later => ∀ contests, answer = some contests → Reads selected contests made later)
      (syncer.loadContests selected) made := by
  apply ensures_ite
  · intro _
    refine (ensures_cachedContests selected made).then ?_
    rintro ⟨found, missed⟩ middle ⟨⟨grown, loads⟩, inside⟩
    apply ensures_ite
    · rintro _ _ ⟨⟩
      exact ⟨grown, loads⟩
    · intro _
      refine ensures_call ?_
      intro answer
      have selects : lasting (.selectContests missed) = true := rfl
      have further := grown.cons selects answer
      cases answer with
      | none => exact fun _ impossible => nomatch impossible
      | some rows =>
        refine (ensures_fillContests rows missed _).then ?_
        rintro filled later ⟨last, all⟩ _ ⟨⟩
        refine ⟨further.trans (last.mono lasting_of_quiet), ?_⟩
        intro platform contest loaded
        have earlier := loadedFor_of_extends (last.mono neutral_of_quiet) loaded
        rcases loadedFor_selectContests earlier with early | ⟨listed, rfl, wanted⟩
        · refine (loads platform contest early).imp_right ?_
          exact fun ⟨chosen, member⟩ => ⟨chosen, List.mem_append_left _ member⟩
        · exact .inr ⟨inside wanted, List.mem_append_right _ (all contest listed wanted)⟩
  · rintro _ answer _ ⟨⟩
    have selects : lasting (.selectContests selected) = true := rfl
    refine ⟨(Extends.refl made).cons selects _, ?_⟩
    intro platform contest loaded
    refine (loadedFor_selectContests loaded).imp_right ?_
    exact fun ⟨listed, _, wanted⟩ => ⟨wanted, listed⟩

/-! ### The run -/

/-- Up to the clean-up: no contest is loaded, and the account is there. -/
structure Fresh (userID : Int) (selected : List String) (record : Calls service) : Prop where
  tidy : Tidy userID selected record
  undeleted : Undeleted record
  unloaded : ∀ contest, ¬Loaded record contest

theorem Fresh.extends {later : Calls service}
    (fresh : Fresh userID selected made) (grown : Extends quiet made later) :
    Fresh userID selected later where
  tidy := fresh.tidy.extends (grown.mono neutral_of_quiet)
  undeleted := fresh.undeleted.extends (grown.mono lasting_of_quiet)
  unloaded contest loaded :=
    fresh.unloaded contest (loaded_of_extends (grown.mono neutral_of_quiet) loaded)

theorem fresh_nil : Fresh userID selected [] where
  tidy := tidy_nil
  undeleted _ impossible := nomatch impossible
  unloaded := unloaded_of_blank (.refl [])

theorem Fresh.remove (fresh : Fresh userID selected made)
    (shown : Unselected userID selected made contestID) (answer : Bool) :
    Fresh userID selected (⟨.deleteSynced userID contestID, answer⟩ :: made) := by
  have spares : deleting (.deleteSynced userID contestID) = false := rfl
  refine ⟨⟨?_, ?_⟩, fresh.undeleted.cons spares answer, ?_⟩
  · exact fun platform contest loaded =>
      fresh.tidy.chosen platform contest (loadedFor_cons rfl loaded)
  · intro other otherAnswer member
    refine Unselected.suffix ?_ (List.suffix_cons _ _)
    rcases List.mem_cons.mp member with same | old
    · cases same
      exact shown
    · exact fresh.tidy.removed other otherAnswer old
  · rintro contest ⟨platform, loaded⟩
    exact fresh.unloaded contest ⟨platform, loadedFor_cons rfl loaded⟩

theorem ensures_cleanup (fresh : Fresh userID selected made) :
    Ensures (calls service) (fun _ later => Fresh userID selected later)
      (Syncer.cleanup userID token calendarID selected) made := by
  intro answer
  have selects : quiet (.selectTracked userID) = true := rfl
  have shown := fresh.extends ((Extends.refl made).cons selects answer)
  cases answer with
  | none => exact shown
  | some rows =>
    have removes : Maintains (calls service) (fun later => Fresh userID selected later ∧
          (⟨.selectTracked userID, some rows⟩ : Call service) ∈ later)
        (each (Syncer.removeTracked userID token calendarID)
          (rows.filter (fun row => row.platform ∉ selected))) := by
      apply maintains_each
      intro item member
      obtain ⟨listed, unselected⟩ := List.mem_filter.mp member
      refine Syncer.maintains_removeTracked (maintains_call ?_) (maintains_call ?_)
      · rintro made answer ⟨fresh, member⟩
        have deletes :
            quiet (.deleteEvent userID token calendarID item.googleEventID) = true := rfl
        exact ⟨fresh.extends ((Extends.refl made).cons deletes answer),
          List.mem_cons_of_mem _ member⟩
      · rintro made answer ⟨fresh, member⟩
        refine ⟨fresh.remove ?_ answer, List.mem_cons_of_mem _ member⟩
        exact ⟨rows, member, item, listed, rfl, of_decide_eq_true unselected⟩
    exact Ensures.mono (fun _ _ reached => reached.1) (removes _ ⟨shown, List.mem_cons_self⟩)

def Justified (userID : Int) (result : Except SyncError Unit) (record : Calls service) :
    Prop :=
  result = .ok () → ∃ selected, Settled userID selected record

theorem ensures_syncCalendar (blank : Blank made) :
    Ensures (calls service) (Justified userID)
      (syncer.syncCalendar userID token calendarID timezone user) made := by
  let selected := user.platforms.getD []
  have fresh : Fresh userID selected made := fresh_nil.extends blank.extends
  refine (ensures_cleanup fresh).then ?_
  intro _ cleaned fresh
  refine (ensures_loadSynced cleaned).then ?_
  rintro synced middle ⟨grown, known⟩
  have still := fresh.extends grown
  apply ensures_ite
  · exact fun _ _ => ⟨selected, still.tidy, .inl still.undeleted,
      fun contest loaded => absurd loaded (still.unloaded contest)⟩
  · intro _
    refine (ensures_loadContests selected middle).then ?_
    intro answer later reads
    cases answer with
    | none => exact fun impossible => nomatch impossible
    | some contests =>
      obtain ⟨lasts, loads⟩ := reads contests rfl
      have found : ∀ platform contest, LoadedFor later platform contest →
          platform ∈ selected ∧ contest ∈ contests :=
        fun platform contest loaded => (loads platform contest loaded).resolve_left
          (fun early => still.unloaded contest ⟨platform, early⟩)
      have tidy : Tidy userID selected later := by
        refine ⟨fun platform contest loaded => (found platform contest loaded).1, ?_⟩
        intro contestID answer member
        exact (still.tidy.removed contestID answer
          (removed_of_extends removing_of_lasting lasts member)).suffix lasts.suffix
      refine (ensures_syncContests tidy (still.undeleted.extends lasts)
        (fun contestID listed => (known contestID listed).suffix lasts.suffix)
        (fun contest ⟨platform, loaded⟩ => (found platform contest loaded).2)).then ?_
      intro result finished settled
      cases result with
      | error left => exact fun _ => ⟨selected, settled⟩
      | ok anySynced =>
        apply ensures_ite
        · intro _ answer _
          have deletes : quiet (.deleteCachedSynced userID) = true := rfl
          exact ⟨selected, settled.extends ((Extends.refl finished).cons deletes answer)⟩
        · exact fun _ _ => ⟨selected, settled⟩

theorem ensures_targetCalendar (blank : Blank made) :
    Ensures (calls service) (fun target later => match target with
        | none => Extends neutral [] later ∧ Revoked userID later
        | some _ => Blank later)
      (syncer.targetCalendar userID token timezone user) made := by
  apply ensures_ite
  · intro _
    apply ensures_ite
    · exact fun _ => blank
    · intro _
      refine ensures_call ?_
      intro answer
      have created := maintains_blank (.insertCalendar userID token timezone) rfl made blank answer
      cases answer with
      | error error =>
        apply ensures_handleSyncError (fun revoked => ⟨_, error, revoked, List.mem_cons_self⟩)
        · exact fun _ ended =>
            ⟨(created.extends.mono neutral_of_quiet).trans ended.1, ended.2⟩
        · exact fun _ => created
      | ok calendarID =>
        have adopts : Maintains (calls service) Blank (syncer.adoptCalendar userID calendarID) :=
          Syncer.maintains_adoptCalendar (maintains_blank _ rfl) (maintains_blank _ rfl)
        refine (adopts _ created).then ?_
        exact fun _ _ adopted => adopted
  · exact fun _ => blank

theorem ensures_syncProfile (blank : Blank made) :
    Ensures (calls service) (Justified userID) (syncer.syncProfile userID user) made := by
  unfold Syncer.syncProfile
  cases decrypted : syncer.decryptToken user.refreshToken with
  | none => exact fun impossible => nomatch impossible
  | some token =>
    refine ensures_call ?_
    intro answer
    have primary := maintains_blank (.getPrimary userID token) rfl made blank answer
    cases answer with
    | error error =>
      apply ensures_handleSyncError (fun revoked => ⟨_, error, revoked, List.mem_cons_self⟩)
      · exact fun _ ended _ => ⟨[], settled_of_revoked
          ((primary.extends.mono neutral_of_quiet).trans ended.1) ended.2⟩
      · exact fun _ impossible => nomatch impossible
    | ok timezone =>
      refine (ensures_targetCalendar primary).then ?_
      intro target later reached
      cases target with
      | none => exact fun _ => ⟨[], settled_of_revoked reached.1 reached.2⟩
      | some calendarID => exact ensures_syncCalendar reached

theorem maintains_justified (silent : quiet request = true) (result : Except SyncError Unit) :
    Maintains (calls service) (Justified userID result) (ask request) := by
  refine maintains_call ?_
  intro made answer justified succeeded
  obtain ⟨selected, settled⟩ := justified succeeded
  exact ⟨selected, settled.extends ((Extends.refl made).cons silent answer)⟩

theorem ensures_syncLoaded (blank : Blank made) :
    Ensures (calls service) (Justified userID) (syncer.syncLoaded userID user) made :=
  Syncer.ensures_syncLoaded_result (maintains_blank (.markSyncing userID) rfl)
    (fun _ marked => ensures_syncProfile marked)
    (fun result _ => maintains_justified rfl result) (maintains_justified rfl) blank

theorem ensures_syncLocked (blank : Blank made) :
    Ensures (calls service) (Justified userID) (syncer.syncLocked userID) made := by
  have profile : Maintains (calls service) Blank (loadSyncProfile syncer.valkey userID) :=
    maintains_loadSyncProfile (maintains_blank _ rfl) (maintains_blank _ rfl)
      (fun _ => maintains_blank _ rfl)
  refine (profile made blank).then ?_
  intro found later blank
  cases found with
  | none => exact fun impossible => nomatch impossible
  | some user => exact ensures_syncLoaded blank

theorem ensures_syncUser :
    Ensures (calls service) (Justified userID) (syncer.syncUser userID) [] :=
  Syncer.ensures_syncUser_result (fun _ _ _ impossible => nomatch impossible)
    (maintains_blank _ rfl) (maintains_justified rfl) (maintains_blank _ rfl)
    (maintains_justified rfl) (fun _ blank => ensures_syncLocked blank)
    (fun _ impossible => nomatch impossible)

theorem ensures_own :
    Ensures (calls service) (fun _ made => ∀ call ∈ made, call.1.ofUser userID)
      (syncer.syncUser userID) [] := by
  have each : ∀ request : Request, request.ofUser userID → Maintains (calls service)
      (fun made => ∀ call ∈ made, call.1.ofUser userID) (ask request) := by
    intro request own
    refine maintains_call ?_
    intro made answer earlier call member
    rcases List.mem_cons.mp member with rfl | old
    · exact own
    · exact earlier call old
  exact Syncer.ensures_syncUser (fun _ holds => holds) (each _ rfl) (each _ rfl) (each _ rfl)
    (each _ rfl) (Syncer.maintains_syncLocked (fun request own _ => each request own))
    (fun _ impossible => nomatch impossible)

end Run

/-! ### A result without an error -/

section Results

variable (userID : Int)

/-- The run passes over the contest and leaves it without a row: the synced set lists it, its
event is given up, the `INSERT` of its row fails, or the run ends with an account that it
cannot delete. -/
def Passed (record : Calls service) (contest : ContestRow) : Prop :=
  ¬Stored userID record contest.id ∧
    (Listed userID record contest.id ∨ Abandoned userID record contest ∨
      Unstored userID record contest.id ∨
      ∃ rejected, (⟨.deleteUser userID rejected, false⟩ : Call service) ∈ record)

/-- The account is deleted, or no contest without a row at the start is passed over. -/
def Unpassed (start : World) (record : Calls service) : Prop :=
  (∃ rejected, (⟨.deleteUser userID rejected, true⟩ : Call service) ∈ record) ∨
    ∀ contest, Loaded record contest →
      contest.id ∈ start.database.selectSynced userID ∨ ¬Passed userID record contest

/-- The account was deleted for a revoked token, or every loaded contest has a row. -/
def Done (record : Calls service) (last : World) : Prop :=
  (Revoked userID record ∧ last.database.users.find userID = none) ∨
    ∀ contest, Loaded record contest → contest.id ∈ last.database.selectSynced userID

/-- The clean-up query and the lists of contests agree on the platform of a contest. -/
def Agreeing (record : Calls service) : Prop :=
  ∀ platform contest, LoadedFor record platform contest →
    ∀ rows, (⟨.selectTracked userID, some rows⟩ : Call service) ∈ record →
      ∀ item ∈ rows, item.contestID = contest.id → item.platform = platform

variable {userID}

theorem Tidy.spares {selected : List String} {record : Calls service}
    (tidy : Tidy userID selected record) (agreeing : Agreeing userID record)
    (loaded : Loaded record contest) (answer : Bool) :
    (⟨.deleteSynced userID contest.id, answer⟩ : Call service) ∉ record := by
  intro removed
  obtain ⟨platform, loaded⟩ := loaded
  obtain ⟨rows, shown, item, listed, same, unselected⟩ := tidy.removed contest.id answer removed
  rw [agreeing platform contest loaded rows shown item listed same] at unselected
  exact unselected (tidy.chosen platform contest loaded)

end Results

/-- A run that returns no error has done its work if no contest was passed over; and only
then, where a statement that fails has no effect. -/
theorem success_means_done {syncer : Syncer} {userID : Int} {start last : World}
    {admits : replicated.recorded.Admits} {record : Calls service}
    (run : Steps replicated.recorded admits Idle (start, [])
      (syncer.syncUser userID) (last, record) (.done (.ok ())))
    (present : (start.database.users.find userID).isSome = true)
    (unshared : Unshared userID start record) (agreeing : Agreeing userID record) :
    (Unpassed userID start record → Done userID record last) ∧
      (Definite admits → Done userID record last → Unpassed userID start record) := by
  have alone := run.mono (fun before after idle => idle.2)
  have own : ∀ call ∈ record, call.1.ofUser userID := ensures_own.steps alone
  obtain ⟨selected, tidy, account, contests⟩ := ensures_syncUser.steps alone rfl
  have known : Known userID start (last, record) := known_of_run run own
  constructor
  · intro unpassed
    -- An account that is gone was deleted for a revoked token.
    have ended : last.database.users.find userID = none →
        (∃ rejected answer, (⟨.deleteUser userID rejected, answer⟩ : Call service) ∈ record) →
        Done userID record last := by
      rintro gone ⟨rejected, answer, member⟩
      refine .inl ⟨account.resolve_left (fun undeleted => ?_), gone⟩
      cases undeleted _ member
    rcases known.rows unshared with ⟨gone, deleted⟩ | held
    · exact ended gone deleted
    · rcases unpassed with ⟨rejected, member⟩ | unpassed
      · exact ended (known.absent _ member) ⟨_, _, member⟩
      · by_cases deleted : ∃ rejected, (⟨.deleteUser userID rejected, true⟩ : Call service) ∈ record
        · obtain ⟨rejected, member⟩ := deleted
          exact ended (known.absent _ member) ⟨_, _, member⟩
        · refine .inr ?_
          intro contest loaded
          refine held contest.id (tidy.spares agreeing loaded) ?_
          refine (unpassed contest loaded).imp_right ?_
          intro notPassed
          by_contra unstored
          refine notPassed ⟨unstored, ?_⟩
          rcases contests contest loaded with listed | stored | failed | abandoned | revoked
          · exact .inl listed
          · exact absurd stored unstored
          · exact .inr (.inr (.inl failed))
          · exact .inr (.inl abandoned)
          · obtain ⟨_, token, answer, member⟩ := revoked
            cases answer with
            | true => exact absurd ⟨_, member⟩ deleted
            | false => exact .inr (.inr (.inr ⟨_, member⟩))
  · intro definite done
    have answered : Answered userID start (last, record) := answered_of_run definite run own
    rcases done with ⟨_, gone⟩ | held
    · left
      by_contra undeleted
      have still := answered.present present (fun rejected member => undeleted ⟨rejected, member⟩)
      rw [gone] at still
      cases still
    · refine .inr ?_
      intro contest loaded
      refine (answered.rows contest.id (held contest loaded)).imp_right ?_
      exact fun stored passed => passed.1 stored

/-! ### Runs with failures -/

def attemptFailed : Call service → Bool
  | ⟨.insertEvent _ _ _ _, .error _⟩ => true
  | ⟨.updateEvent _ _ _ _ _, some _⟩ => true
  | _ => false

variable {userID : Int} {record : Calls service}

theorem not_abandoned (few : record.countP attemptFailed < 3) (contest : ContestRow) :
    ¬Abandoned userID record contest := by
  have counted : ∀ (failed : GoogleError → Call service) (errors : List GoogleError),
      (∀ error, attemptFailed (failed error) = true) → errors.length = 3 →
      ¬errors.map failed <:+: record := by
    intro failed errors fails three inside
    have all : (errors.map failed).countP attemptFailed = (errors.map failed).length := by
      rw [List.countP_eq_length]
      intro call member
      obtain ⟨error, _, rfl⟩ := List.mem_map.mp member
      exact fails error
    have most : (errors.map failed).countP attemptFailed ≤ record.countP attemptFailed :=
      inside.sublist.countP_le
    rw [all, List.length_map, three] at most
    omega
  rintro ⟨googleID, timezone, token, calendarID, errors, three, ⟨_, inserts⟩ | ⟨_, _, updates⟩⟩
  · exact counted _ errors (fun _ => rfl) three inserts
  · exact counted _ errors (fun _ => rfl) three ((List.prefix_append _ _).isInfix.trans updates)

/-- A synced set or a row to clean up, or a statement that fails. -/
def suspicious : Call service → Bool
  | ⟨.insertSynced _, saved⟩ => !saved
  | ⟨.getCachedSynced _, listed⟩ => listed.isSome
  | ⟨.selectSynced _, listed⟩ => listed ≠ some []
  | ⟨.selectTracked _, rows⟩ => rows.any (fun rows => !rows.isEmpty)
  | ⟨.deleteUser _ _, _⟩ => true
  | _ => false

theorem unpassed_of_clean {start : World}
    (few : record.countP attemptFailed < 3) (clean : ∀ call ∈ record, suspicious call = false) :
    Unpassed userID start record := by
  refine .inr (fun contest _ => .inr ?_)
  rintro ⟨_, ⟨listed, cached | selected, member⟩ | abandoned | ⟨eventID, failed⟩ | ⟨rejected, kept⟩⟩
  · cases clean _ cached
  · have empty : some listed = some [] := by
      simpa [suspicious] using clean _ selected
    cases empty
    cases member
  · exact not_abandoned few contest abandoned
  · cases clean _ failed
  · cases clean _ kept

def backendError : GoogleError :=
  { code := some 503
    message := "googleapi: Error 503: Backend Error, backendError" }

/-- Only the first attempt to insert an event fails. -/
def failsOnce (state : replicated.recorded.State) : Request → Reading
  | .insertEvent _ _ _ _ =>
    ⟨if state.2.any attemptFailed then .served else .lost backendError, none⟩
  | _ => ⟨.served, none⟩

def retriedRun : replicated.recorded.State × Except SyncError Unit :=
  complete replicated.recorded failsOnce (cachingSyncer.syncUser 1) (announcedRound, [])

def stored : Call service → Option SyncedEvent
  | ⟨.insertSynced row, _⟩ => some row
  | _ => none

theorem stored_retriedRun : retriedRun.1.2.filterMap stored = [⟨1, (codeforcesRound 5000).id,
      generateDeterministicEventID "1080" (codeforcesRound 5000).id⟩] :=
  rfl

theorem unshared_retriedRun : Unshared 1 announcedRound retriedRun.1.2 := by
  have only : ∀ contestID eventID, Uses 1 announcedRound retriedRun.1.2 contestID eventID →
      contestID = (codeforcesRound 5000).id := by
    rintro contestID eventID (impossible | ⟨answer, member⟩)
    · cases impossible
    · have inside : (⟨1, contestID, eventID⟩ : SyncedEvent) ∈ retriedRun.1.2.filterMap stored :=
        List.mem_filterMap.mpr ⟨_, member, rfl⟩
      rw [stored_retriedRun, List.mem_singleton] at inside
      exact congrArg SyncedEvent.contestID inside
  intro eventID first second left right
  rw [only first eventID left, only second eventID right]

theorem success_means_done_retried : Done 1 retriedRun.1.2 retriedRun.1.1 := by
  have run : Steps replicated.recorded (fun _ _ => True) Idle (announcedRound, [])
      (cachingSyncer.syncUser 1) (retriedRun.1.1, retriedRun.1.2) (.done (.ok ())) :=
    complete_steps replicated.recorded _ _ failsOnce (fun _ _ => trivial) _ _
  have few : retriedRun.1.2.countP attemptFailed = 1 := rfl
  have all : retriedRun.1.2.all (fun call => !suspicious call) = true := rfl
  have clean : ∀ call ∈ retriedRun.1.2, suspicious call = false :=
    fun call member => (Bool.not_eq_true' _).mp (List.all_eq_true.mp all call member)
  have agreeing : Agreeing 1 retriedRun.1.2 := by
    intro platform contest _ rows shown item listed
    have empty : rows.isEmpty = true := by
      simpa [suspicious] using clean _ shown
    rw [List.isEmpty_iff.mp empty] at listed
    cases listed
  exact (success_means_done run (by decide) unshared_retriedRun agreeing).1
    (unpassed_of_clean (by omega) clean)

def refusesEvents (_state : replicated.recorded.State) : Request → Reading
  | .insertEvent _ _ _ _ => ⟨.lost backendError, none⟩
  | _ => ⟨.served, none⟩

def failedRun : replicated.recorded.State × Except SyncError Unit :=
  complete replicated.recorded refusesEvents (cachingSyncer.syncUser 1) (announcedRound, [])

/-- All attempts to insert the event of a contest fail, and the run is a success. -/
theorem success_without_row :
    failedRun.2 = .ok () ∧
    (failedRun.1.1.database.users.find 1).map UserRow.syncStatus = some .success ∧
    Loaded failedRun.1.2 (codeforcesRound 5000).row ∧
    failedRun.1.1.database.selectSynced 1 = [] := by
  refine ⟨rfl, rfl, ⟨"codeforces", .inr ?_⟩, rfl⟩
  have listed : failedRun.1.2[7]? =
      some ⟨.selectContests ["codeforces"], some [(codeforcesRound 5000).row]⟩ := rfl
  exact ⟨_, _, List.mem_of_getElem? listed, List.mem_singleton.mpr rfl, rfl,
    List.mem_singleton.mpr rfl⟩

end ContestSync.Reported
