/-
The PostgreSQL schema and the statements the service executes on it. The keys,
the unique constraints and the foreign keys of `001_init.sql` are fields of the
database, so no statement can leave a state the server would have refused.

The two `CHECK` constraints on platform names are not fields: every caller
validates the name before it writes it.
-/

import ContestSync.KeyedTable
import ContestSync.Models

namespace ContestSync

open Keyed

/-- `PRIMARY KEY (user_id, contest_id)`. -/
def SyncedEvent.key (row : SyncedEvent) : Int × String :=
  (row.userID, row.contestID)

/-- `UNIQUE (user_id, google_event_id)`. -/
def SyncedEvent.eventKey (row : SyncedEvent) : Int × String :=
  (row.userID, row.googleEventID)

structure Database where
  users : Table UserRow.id
  contests : Table ContestRow.id
  syncedEvents : Table SyncedEvent.key
  serial : Int
  googleIDs : (users.rows.map UserRow.googleID).Nodup
  eventIDs : (syncedEvents.rows.map SyncedEvent.eventKey).Nodup
  userRef : ∀ row ∈ syncedEvents.rows, ∃ user ∈ users.rows, user.id = row.userID
  contestRef : ∀ row ∈ syncedEvents.rows, ∃ contest ∈ contests.rows, contest.id = row.contestID
  issued : ∀ user ∈ users.rows, user.id < serial

namespace Database

def empty : Database :=
  { users := .empty
    contests := .empty
    syncedEvents := .empty
    serial := 1
    googleIDs := List.nodup_nil
    eventIDs := List.nodup_nil
    userRef := by intro row member; cases member
    contestRef := by intro row member; cases member
    issued := by intro user member; cases member }

theorem event_row_unique (database : Database) {first second : SyncedEvent}
    (inFirst : first ∈ database.syncedEvents.rows)
    (inSecond : second ∈ database.syncedEvents.rows)
    (sameUser : first.userID = second.userID)
    (sameEvent : first.googleEventID = second.googleEventID) : first = second :=
  List.inj_on_of_nodup_map database.eventIDs inFirst inSecond (Prod.ext sameUser sameEvent)

theorem user_eq_of_googleID (database : Database) {first second : UserRow}
    (inFirst : first ∈ database.users.rows) (inSecond : second ∈ database.users.rows)
    (same : first.googleID = second.googleID) : first = second :=
  List.inj_on_of_nodup_map database.googleIDs inFirst inSecond same

/-! ### synced_events -/

def deleteSyncedEvents (database : Database) (condition : SyncedEvent → Bool) : Database :=
  { database with
    syncedEvents := database.syncedEvents.delete condition
    eventIDs := (List.filter_sublist.map SyncedEvent.eventKey).nodup database.eventIDs
    userRef := by
      intro row member
      exact database.userRef row (Table.mem_delete.mp member).1
    contestRef := by
      intro row member
      exact database.contestRef row (Table.mem_delete.mp member).1 }

/-- `DELETE FROM synced_events WHERE user_id = $1 AND contest_id = $2`. -/
def deleteSyncedEvent (database : Database) (userID : Int) (contestID : String) : Database :=
  database.deleteSyncedEvents (fun row => row.userID = userID ∧ row.contestID = contestID)

variable {database : Database} {row : SyncedEvent} {userID sought other : Int}
  {condition : ContestRow → Bool} {user : UserRow} {googleID : String}

theorem mem_deleteSyncedEvent {contestID : String} :
    row ∈ (database.deleteSyncedEvent userID contestID).syncedEvents.rows ↔
      row ∈ database.syncedEvents.rows ∧ ¬(row.userID = userID ∧ row.contestID = contestID) := by
  unfold deleteSyncedEvent deleteSyncedEvents
  rw [Table.mem_delete, decide_eq_false_iff_not]

/-- A row that violates neither of the two unique constraints. -/
def Admissible (database : Database) (row : SyncedEvent) : Prop :=
  (∀ old ∈ database.syncedEvents.rows, old.key ≠ row.key) ∧
    ∀ old ∈ database.syncedEvents.rows, old.eventKey ≠ row.eventKey

instance (database : Database) (row : SyncedEvent) : Decidable (database.Admissible row) :=
  inferInstanceAs (Decidable (_ ∧ _))

/-- Both foreign keys of the row have their target. -/
def References (database : Database) (row : SyncedEvent) : Prop :=
  (∃ user ∈ database.users.rows, user.id = row.userID) ∧
    ∃ contest ∈ database.contests.rows, contest.id = row.contestID

instance (database : Database) (row : SyncedEvent) : Decidable (database.References row) :=
  inferInstanceAs (Decidable (_ ∧ _))

/-- `INSERT INTO synced_events ... ON CONFLICT DO NOTHING`. A conflict on
either constraint inserts nothing and is no error; a missing user or contest
is one. -/
def insertSyncedEvent (database : Database) (row : SyncedEvent) : Option Database :=
  if admissible : database.Admissible row then
    if references : database.References row then
      some
        { database with
          syncedEvents := database.syncedEvents.insert row admissible.1
          eventIDs := by
            rw [Table.insert, List.map_append, List.nodup_append]
            refine ⟨database.eventIDs, List.nodup_singleton _, ?_⟩
            intro left leftMember right rightMember same
            obtain ⟨old, oldMember, rfl⟩ := List.mem_map.mp leftMember
            rw [List.map_singleton, List.mem_singleton] at rightMember
            exact admissible.2 old oldMember (same.trans rightMember)
          userRef := by
            intro other member
            rcases (Table.mem_insert _).mp member with old | rfl
            · exact database.userRef other old
            · exact references.1
          contestRef := by
            intro other member
            rcases (Table.mem_insert _).mp member with old | rfl
            · exact database.contestRef other old
            · exact references.2 }
    else none
  else some database

theorem insertSyncedEvent_cases {after : Database}
    (inserted : database.insertSyncedEvent row = some after) :
    (database.Admissible row ∧ after.users = database.users ∧ after.contests = database.contests ∧
        ∀ other, other ∈ after.syncedEvents.rows ↔
          other ∈ database.syncedEvents.rows ∨ other = row) ∨
      (¬database.Admissible row ∧ after = database) := by
  unfold insertSyncedEvent at inserted
  split at inserted
  · rename_i admissible
    split at inserted
    · have same := Option.some.inj inserted
      subst same
      refine Or.inl ⟨admissible, rfl, rfl, ?_⟩
      intro other
      exact Table.mem_insert admissible.1
    · cases inserted
  · rename_i conflict
    exact Or.inr ⟨conflict, (Option.some.inj inserted).symm⟩

theorem insertSyncedEvent_some (references : database.References row) :
    ∃ after, database.insertSyncedEvent row = some after := by
  unfold insertSyncedEvent
  by_cases admissible : database.Admissible row
  · rw [dif_pos admissible, dif_pos references]
    exact ⟨_, rfl⟩
  · rw [dif_neg admissible]
    exact ⟨database, rfl⟩

/-! ### contests -/

/-- `DELETE FROM contests`, with `ON DELETE CASCADE` on `synced_events`. -/
def deleteContests (database : Database) (condition : ContestRow → Bool) : Database :=
  let kept := database.contests.delete condition
  { database with
    contests := kept
    syncedEvents := database.syncedEvents.delete
      (fun row => !kept.rows.any (fun contest => contest.id = row.contestID))
    eventIDs := (List.filter_sublist.map SyncedEvent.eventKey).nodup database.eventIDs
    userRef := by
      intro row member
      exact database.userRef row (Table.mem_delete.mp member).1
    contestRef := by
      intro row member
      have present := (Table.mem_delete.mp member).2
      simpa using present }

theorem mem_deleteContests {contest : ContestRow} :
    contest ∈ (database.deleteContests condition).contests.rows ↔
      contest ∈ database.contests.rows ∧ condition contest = false :=
  Table.mem_delete

theorem mem_deleteContests_synced :
    row ∈ (database.deleteContests condition).syncedEvents.rows ↔ row ∈ database.syncedEvents.rows ∧
        ∃ contest ∈ database.contests.rows, condition contest = false ∧
          contest.id = row.contestID := by
  unfold deleteContests
  rw [Table.mem_delete]
  simp [Table.delete]

/-- `INSERT INTO contests ... ON CONFLICT (id) DO UPDATE`; the platform of an
existing row is not among the columns that are set. -/
def upsertContest (database : Database) (row : ContestRow) : Database :=
  let merge : ContestRow → ContestRow := fun old =>
    { old with
      name := row.name
      url := row.url
      startTime := row.startTime
      endTime := row.endTime
      duration := row.duration }
  { database with
    contests := database.contests.upsert row merge (fun _ => rfl)
    contestRef := by
      intro synced member
      obtain ⟨contest, contestMember, atID⟩ := database.contestRef synced member
      have before : database.contests.find contest.id = some contest :=
        Table.find_of_mem contestMember
      have after := database.contests.find_upsert row merge (fun _ => rfl) contest.id
      split at after
      · obtain ⟨found, foundID⟩ := Table.find_eq_some_iff.mp after
        exact ⟨_, found, foundID.trans atID⟩
      · rw [before] at after
        obtain ⟨found, foundID⟩ := Table.find_eq_some_iff.mp after
        exact ⟨_, found, foundID.trans atID⟩ }

/-! ### users -/

/-- `DELETE FROM users`, with `ON DELETE CASCADE` on `synced_events`. -/
def deleteUsers (database : Database) (condition : UserRow → Bool) : Database :=
  let kept := database.users.delete condition
  { database with
    users := kept
    syncedEvents := database.syncedEvents.delete
      (fun row => !kept.rows.any (fun user => user.id = row.userID))
    googleIDs := (List.filter_sublist.map UserRow.googleID).nodup database.googleIDs
    eventIDs := (List.filter_sublist.map SyncedEvent.eventKey).nodup database.eventIDs
    userRef := by
      intro row member
      have present := (Table.mem_delete.mp member).2
      simpa using present
    contestRef := by
      intro row member
      exact database.contestRef row (Table.mem_delete.mp member).1
    issued := by
      intro user member
      exact database.issued user (Table.mem_delete.mp member).1 }

theorem find_deleteUsers {condition : UserRow → Bool} :
    (database.deleteUsers condition).users.find sought =
      (database.users.find sought).filter (fun user => !condition user) :=
  Table.find_delete

theorem find_deleteUser_other (different : other ≠ userID) :
    (database.deleteUsers (fun user => user.id = userID)).users.find other =
      database.users.find other := by
  rw [find_deleteUsers]
  cases found : database.users.find other with
  | none => rfl
  | some user =>
    have atID := (Table.find_eq_some_iff.mp found).2
    subst atID
    simp [different]

/-- A change to the columns of a user other than its two keys. -/
structure UserChange where
  apply : UserRow → UserRow
  keepsID : ∀ user, (apply user).id = user.id
  keepsGoogleID : ∀ user, (apply user).googleID = user.googleID

/-- `UPDATE users SET ... WHERE id = $1`. -/
def updateUser (database : Database) (id : Int) (change : UserChange) : Database :=
  let assign : UserRow → UserRow := fun user => if user.id = id then change.apply user else user
  have keepsID : ∀ user, (assign user).id = user.id := by
    intro user
    by_cases same : user.id = id
    · simp only [assign, if_pos same, change.keepsID]
    · simp only [assign, if_neg same]
  { database with
    users := database.users.revise assign keepsID
    googleIDs := by
      have sameIDs : (database.users.rows.map assign).map UserRow.googleID =
          database.users.rows.map UserRow.googleID := by
        rw [List.map_map]
        apply List.map_congr_left
        intro user _member
        by_cases same : user.id = id
        · simp only [Function.comp_apply, assign, if_pos same, change.keepsGoogleID]
        · simp only [Function.comp_apply, assign, if_neg same]
      change ((database.users.rows.map assign).map UserRow.googleID).Nodup
      rw [sameIDs]
      exact database.googleIDs
    userRef := by
      intro row member
      obtain ⟨user, userMember, atID⟩ := database.userRef row member
      exact ⟨assign user, Table.mem_revise.mpr ⟨user, userMember, rfl⟩, (keepsID user).trans atID⟩
    issued := by
      intro user member
      obtain ⟨old, oldMember, rfl⟩ := Table.mem_revise.mp member
      rw [keepsID]
      exact database.issued old oldMember }

theorem find_updateUser {id : Int} {change : UserChange} :
    (database.updateUser id change).users.find sought =
      if sought = id then (database.users.find sought).map change.apply
      else database.users.find sought := by
  unfold updateUser
  rw [Table.find_revise]
  cases found : database.users.find sought with
  | none => simp
  | some user =>
    have atID := (Table.find_eq_some_iff.mp found).2
    subst atID
    by_cases same : user.id = id
    · simp [same]
    · simp [same]

/-- The columns a login sets; an empty token does not replace the stored one. -/
def loginChange (email refreshToken : String) (hasCalendarAccess : Bool) : UserChange :=
  { apply := fun old =>
      { old with
        email := email
        refreshToken := if refreshToken ≠ "" then some refreshToken else old.refreshToken
        hasCalendarAccess := hasCalendarAccess }
    keepsID := fun _ => rfl
    keepsGoogleID := fun _ => rfl }

/-- A new row, with the defaults of the columns that a login does not set. -/
def newUser (id : Int) (googleID email refreshToken : String) (hasCalendarAccess : Bool)
    (now : Timestamp) : UserRow :=
  { id := id
    googleID := googleID
    email := email
    refreshToken := some refreshToken
    calendarID := none
    useDedicated := false
    platforms := some []
    hasCalendarAccess := hasCalendarAccess
    lastSyncAt := none
    syncStatus := .pending
    createdAt := now }

theorem unissued (database : Database) (next : user.id = database.serial) :
    ∀ old ∈ database.users.rows, old.id ≠ user.id := by
  intro old member
  rw [next]
  exact Int.ne_of_lt (database.issued old member)

def insertUser (database : Database) (user : UserRow) (next : user.id = database.serial)
    (unused : ∀ old ∈ database.users.rows, old.googleID ≠ user.googleID) : Database :=
  { database with
    users := database.users.insert user (database.unissued next)
    serial := database.serial + 1
    googleIDs := by
      rw [Table.insert, List.map_append, List.nodup_append]
      refine ⟨database.googleIDs, List.nodup_singleton _, ?_⟩
      intro left leftMember right rightMember same
      obtain ⟨old, oldMember, rfl⟩ := List.mem_map.mp leftMember
      rw [List.map_singleton, List.mem_singleton] at rightMember
      exact unused old oldMember (same.trans rightMember)
    userRef := by
      intro row member
      obtain ⟨old, oldMember, atID⟩ := database.userRef row member
      exact ⟨old, (Table.mem_insert _).mpr (Or.inl oldMember), atID⟩
    issued := by
      intro old member
      rcases (Table.mem_insert _).mp member with present | rfl
      · have earlier := database.issued old present
        omega
      · omega }

theorem unused_of_find? (database : Database)
    (found : database.users.rows.find? (fun user => user.googleID = googleID) = none) :
    ∀ old ∈ database.users.rows, old.googleID ≠ googleID := by
  intro old member same
  have absent := List.find?_eq_none.mp found old member
  exact absent (decide_eq_true same)

/-- `INSERT INTO users ... ON CONFLICT (google_id) DO UPDATE ... RETURNING id,
platforms`. -/
def upsertUser (database : Database) (googleID email refreshToken : String)
    (hasCalendarAccess : Bool) (now : Timestamp) :
    Database × Int × Option (List String) :=
  match found : database.users.rows.find? (fun user => user.googleID = googleID) with
  | some user =>
    (database.updateUser user.id (loginChange email refreshToken hasCalendarAccess),
      user.id, user.platforms)
  | none =>
    let user := newUser database.serial googleID email refreshToken hasCalendarAccess now
    (database.insertUser user rfl (database.unused_of_find? found), user.id, user.platforms)

theorem upsertUser_cases (database : Database) (googleID email refreshToken : String)
    (hasCalendarAccess : Bool) (now : Timestamp) :
    (∃ user ∈ database.users.rows, user.googleID = googleID ∧
        database.upsertUser googleID email refreshToken hasCalendarAccess now =
          (database.updateUser user.id (loginChange email refreshToken hasCalendarAccess),
            user.id, user.platforms)) ∨
      ∃ next unused, database.upsertUser googleID email refreshToken hasCalendarAccess now =
        (database.insertUser
            (newUser database.serial googleID email refreshToken hasCalendarAccess now)
            next unused,
          database.serial, some []) := by
  unfold upsertUser
  split
  · rename_i user found
    refine Or.inl ⟨user, List.mem_of_find?_eq_some found, ?_, rfl⟩
    simpa using List.find?_some found
  · rename_i found
    exact Or.inr ⟨rfl, database.unused_of_find? found, rfl⟩

theorem serial_upsertUser (database : Database) (googleID email refreshToken : String)
    (hasCalendarAccess : Bool) (now : Timestamp) :
    database.serial ≤
      (database.upsertUser googleID email refreshToken hasCalendarAccess now).1.serial := by
  rcases database.upsertUser_cases googleID email refreshToken hasCalendarAccess now with
    ⟨user, _, _, called⟩ | ⟨next, unused, called⟩
  · rw [called]
    exact Int.le_refl _
  · rw [called]
    exact Int.le_add_of_nonneg_right (by decide)

theorem find_insertUser_self {found : UserRow} {next : user.id = database.serial}
    {unused : ∀ old ∈ database.users.rows, old.googleID ≠ user.googleID}
    (stored : (database.insertUser user next unused).users.find database.serial = some found) :
    found = user := by
  obtain ⟨member, atID⟩ := Table.find_eq_some_iff.mp stored
  rcases (Table.mem_insert (database.unissued next)).mp member with old | new
  · exact absurd (atID.trans next.symm) (database.unissued next found old)
  · exact new

theorem find_upsertUser_other {email refreshToken : String}
    {hasCalendarAccess : Bool} {now : Timestamp}
    (different : other ≠ (database.upsertUser googleID email refreshToken hasCalendarAccess
      now).2.1) :
    (database.upsertUser googleID email refreshToken hasCalendarAccess now).1.users.find other =
      database.users.find other := by
  rcases database.upsertUser_cases googleID email refreshToken hasCalendarAccess now with
    ⟨user, _, _, called⟩ | ⟨next, unused, called⟩
  · rw [called] at different ⊢
    rw [find_updateUser, if_neg different]
  · rw [called] at different ⊢
    exact Table.find_insert (database.unissued next) different

end Database

end ContestSync
