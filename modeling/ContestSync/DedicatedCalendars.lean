/-
The dedicated calendar of a user. A run of `SyncUser` creates it in Google, then
writes its id into the row, and the next run decides from the id it reads. Between
the creation and the write the id exists only in the memory of the run; after it,
an older id may still be in the cache or in a replica. While both windows stay shut,
the one calendar that was created is the one the row names.
-/

import ContestSync.ReplicaReads

namespace ContestSync

open Resumable Program

/-! ### Jobs -/

/-- The operations of a user whose `use_dedicated` stays true. -/
def Activity.keepsDedicated : Activity → Bool
  | .me => true
  | .savePreferences _ useDedicated => useDedicated
  | .syncUser _ => true
  | .googleCallback _ => false
  | .deleteAccount => false

/-- Such an operation, and after how many requests it is cut off, if it is. -/
structure CalendarJob where
  activity : Activity
  keepsDedicated : activity.keepsDedicated = true
  cutOff : Option Nat

def CalendarJob.program (syncer : Syncer) (userID : Int) (job : CalendarJob) :
    Program service (Option Response) :=
  match job.cutOff with
  | none => syncer.activity userID job.activity >>= fun response => .done (some response)
  | some requests => (syncer.activity userID job.activity).cut requests

inductive Creation where
  | unread
  | loaded (user : CachedUser)
  | created (calendarID : String)
  | settled

def Creation.after (userID : Int) (creation : Creation) (request : Request)
    (answer : request.Answer) : Creation :=
  match request, answer with
  | .insertCalendar _ _ _, .ok calendarID => .created calendarID
  | .setCalendarID _ _, _ => .settled
  | .deleteUser _ _, _ => .settled
  | request, answer =>
    match answeredProfile userID request answer with
    | some user => .loaded user
    | none => creation

def calendarRuns (syncer : Syncer) (userID : Int) :
    Workforce service CalendarJob Creation (Option Response) :=
  { program := CalendarJob.program syncer userID
    fresh := fun _ => .unread
    record := fun job creation request answer =>
      if job.activity.isSync then creation.after userID request answer else creation }

def CachedUser.Undedicated (user : CachedUser) : Prop :=
  user.calendarID = "" ∨ user.calendarID = "primary"

/-- A calendar is created only by a run whose profile has none, and its id is
written by the next request of that run. -/
def CreatesOnce (userID : Int) (job : CalendarJob) (creation : Creation) : Request → Prop
  | .insertCalendar owner _ _ => job.activity.isSync = true ∧ owner = userID ∧
      ∃ user, creation = .loaded user ∧ user.Undedicated
  | .setCalendarID owner calendarID => job.activity.isSync = true ∧ owner = userID ∧
      creation = .created calendarID
  | .deleteUser _ _ => job.activity.isSync = true ∧ ∀ calendarID, creation ≠ .created calendarID
  | .updatePreferences _ _ useDedicated => useDedicated = true ∧
      ∀ calendarID, creation ≠ .created calendarID
  | .upsertUser _ => False
  | .pruneUsers => False
  | _ => ∀ calendarID, creation ≠ .created calendarID

abbrev creating (syncer : Syncer) (userID : Int) : CalendarJob → Specification service Creation :=
  (calendarRuns syncer userID).watch (CreatesOnce userID)

/-- A job that was not cut off has written the id of its calendar. -/
def Written (_job : CalendarJob) (response : Option Response) (creation : Creation) : Prop :=
  ∀ value, response = some value → ∀ calendarID, creation ≠ .created calendarID

/-! ### The order of the requests -/

def Creation.Clear (creation : Creation) : Prop :=
  ∀ calendarID, creation ≠ .created calendarID

theorem Creation.clear_unread : Creation.unread.Clear := by rintro _ ⟨⟩

theorem Creation.clear_loaded (user : CachedUser) : (Creation.loaded user).Clear := by
  rintro _ ⟨⟩

theorem Creation.clear_settled : Creation.settled.Clear := by rintro _ ⟨⟩

/-- The requests that neither create a calendar nor change the calendar of a row. -/
def Request.plain : Request → Bool
  | .insertCalendar _ _ _ => false
  | .setCalendarID _ _ => false
  | .deleteUser _ _ => false
  | .updatePreferences _ _ _ => false
  | .upsertUser _ => false
  | .pruneUsers => false
  | _ => true

variable {creation : Creation}

section Discipline

variable {syncer : Syncer} {userID : Int} {job : CalendarJob} {request : Request}

theorem createsOnce_plain (plain : request.plain = true)
    (clear : creation.Clear) : CreatesOnce userID job creation request := by
  cases request
  case insertCalendar => cases plain
  case setCalendarID => cases plain
  case deleteUser => cases plain
  case updatePreferences => cases plain
  case upsertUser => cases plain
  case pruneUsers => cases plain
  all_goals exact clear

theorem after_plain (plain : request.plain = true) (answer : request.Answer) :
    creation.after userID request answer = creation ∨
      ∃ user, answeredProfile userID request answer = some user ∧
        creation.after userID request answer = .loaded user := by
  unfold Creation.after
  split
  · cases plain
  · cases plain
  · cases plain
  · split
    · rename_i user answered
      exact Or.inr ⟨user, answered, rfl⟩
    · exact Or.inl rfl

theorem maintains_clear_plain (plain : request.plain = true) :
    Maintains (creating syncer userID job) Creation.Clear (ask request) := by
  apply Workforce.maintains_call
  · exact fun creation clear => createsOnce_plain plain clear
  · intro creation answer clear
    change Creation.Clear (if job.activity.isSync then creation.after userID request answer
      else creation)
    split
    · rcases after_plain plain answer with same | ⟨user, _, loaded⟩
      · rw [same]
        exact clear
      · rw [loaded]
        exact Creation.clear_loaded user
    · exact clear

theorem maintains_creation (plain : request.plain = true)
    (other : ∀ answer, answeredProfile userID request answer = none) (clear : creation.Clear) :
    Maintains (creating syncer userID job) (fun later => later = creation) (ask request) := by
  apply Workforce.maintains_call
  · rintro _ rfl
    exact createsOnce_plain plain clear
  · rintro _ answer rfl
    change (if job.activity.isSync then _ else _) = _
    split
    · refine (after_plain plain answer).resolve_right ?_
      rintro ⟨user, answered, _⟩
      rw [other answer] at answered
      cases answered
    · rfl

theorem maintains_clear_loadSyncProfile :
    Maintains (creating syncer userID job) Creation.Clear (loadSyncProfile syncer.valkey userID) :=
  maintains_loadSyncProfile (maintains_clear_plain rfl) (maintains_clear_plain rfl)
    (fun _ => maintains_clear_plain rfl)

section Sync

variable (sync : job.activity.isSync = true)
include sync

theorem maintains_clear_handleSyncError (token : String) (error : GoogleError) :
    Maintains (creating syncer userID job) Creation.Clear
      (syncer.handleSyncError userID token error) := by
  apply Syncer.maintains_handleSyncError
  · apply Workforce.maintains_call
    · exact fun creation clear => ⟨sync, clear⟩
    · intro creation answer clear
      change Creation.Clear (if job.activity.isSync then Creation.settled else creation)
      rw [if_pos sync]
      exact Creation.clear_settled
  · exact maintains_clear_plain rfl

theorem ensures_clear_failed {α : Type} (token : String) (error : GoogleError)
    (clear : creation.Clear) (deleted other : α) :
    Ensures (creating syncer userID job) (fun _ later => later.Clear)
      (syncer.handleSyncError userID token error >>= fun gone =>
        if gone then pure deleted else pure other) creation := by
  refine (maintains_clear_handleSyncError sync token error _ clear).then ?_
  intro gone later kept
  apply ensures_ite
  · exact fun _ => kept
  · exact fun _ => kept

theorem ensures_clear_adoptCalendar (calendarID : String) :
    Ensures (creating syncer userID job)
      (fun _ later => later.Clear) (syncer.adoptCalendar userID calendarID)
      (.created calendarID) := by
  refine ⟨⟨sync, rfl, rfl⟩, ?_⟩
  intro stored
  have settled : Creation.Clear ((calendarRuns syncer userID).record job (.created calendarID)
      (.setCalendarID userID calendarID) stored) := by
    change Creation.Clear (if job.activity.isSync then Creation.settled else _)
    rw [if_pos sync]
    exact Creation.clear_settled
  have forgets : Maintains (creating syncer userID job)
      Creation.Clear (ask (.deleteCachedUser userID)) := maintains_clear_plain rfl
  apply ensures_ite
  · exact fun _ => forgets _ settled
  · exact fun _ => settled

theorem ensures_clear_targetCalendar (token timezone : String) (user : CachedUser) :
    Ensures (creating syncer userID job)
      (fun _ later => later.Clear) (syncer.targetCalendar userID token timezone user)
      (.loaded user) := by
  have clear := Creation.clear_loaded user
  apply ensures_ite
  · intro _
    apply ensures_ite
    · exact fun _ => clear
    · intro undedicated
      have none : user.Undedicated := by
        by_contra dedicated
        unfold CachedUser.Undedicated at dedicated
        rw [not_or] at dedicated
        exact undedicated dedicated
      apply Ensures.bind
      refine ⟨⟨sync, rfl, user, rfl, none⟩, ?_⟩
      intro answer
      change Ensures _ _ _ (if job.activity.isSync then _ else _)
      rw [if_pos sync]
      cases answer with
      | error error => exact ensures_clear_failed sync token error clear _ _
      | ok calendarID =>
        apply Ensures.bind
        exact Ensures.mono (fun _ _ kept => kept) (ensures_clear_adoptCalendar sync calendarID)
  · exact fun _ => clear

theorem ensures_clear_syncProfile (user : CachedUser) :
    Ensures (creating syncer userID job)
      (fun _ later => later.Clear) (syncer.syncProfile userID user) (.loaded user) := by
  have clear := Creation.clear_loaded user
  unfold Syncer.syncProfile
  cases syncer.decryptToken user.refreshToken with
  | none => exact clear
  | some token =>
    have primary : Maintains (creating syncer userID job)
        (fun later => later = .loaded user) (ask (.getPrimary userID token)) :=
      maintains_creation rfl (fun _ => rfl) clear
    refine (primary _ rfl).then ?_
    rintro answer _ rfl
    cases answer with
    | error error => exact ensures_clear_failed sync token error clear _ _
    | ok timezone =>
      refine (ensures_clear_targetCalendar sync token _ user).then ?_
      intro target later kept
      cases target with
      | none => exact kept
      | some calendarID =>
        refine Syncer.maintains_syncCalendar_each ?_
          (maintains_clear_handleSyncError sync token) later kept
        intro request _ unprofiled _
        exact maintains_clear_plain (by cases request <;> first | rfl | cases unprofiled)

theorem ensures_loadSyncProfile_loaded :
    Ensures (creating syncer userID job)
      (fun found later => ∀ user, found = some user → later = .loaded user)
      (loadSyncProfile syncer.valkey userID) .unread := by
  refine ensures_loadSyncProfile_noted (fun creation => creation = Creation.unread)
    (fun user creation => creation = Creation.loaded user) ?_
    (fun user => maintains_creation rfl (fun _ => rfl) (Creation.clear_loaded user)) rfl
  rintro _ (rfl | rfl) _ rfl
  all_goals
    refine ⟨Creation.clear_unread, fun answer => ⟨fun unanswered => ?_, fun user noted => ?_⟩⟩
    · exact (if_pos sync).trans (by simp only [Creation.after, unanswered])
    · exact (if_pos sync).trans (by simp only [Creation.after, noted])

theorem ensures_clear_syncLocked :
    Ensures (creating syncer userID job)
      (fun _ later => later.Clear) (syncer.syncLocked userID) .unread := by
  refine (Workforce.ensures_and (ensures_loadSyncProfile_loaded sync)
    (maintains_clear_loadSyncProfile _ Creation.clear_unread)).then ?_
  rintro found later ⟨known, clear⟩
  cases found with
  | none => exact clear
  | some user =>
    cases known user rfl
    have before : Maintains (creating syncer userID job)
        (fun creation => creation = .loaded user) (ask (.markSyncing userID)) :=
      maintains_creation rfl (fun _ => rfl) clear
    refine Syncer.ensures_syncLoaded before ?_ (fun _ => maintains_clear_plain rfl)
      (maintains_clear_plain rfl) rfl
    rintro _ rfl
    exact ensures_clear_syncProfile sync user

theorem ensures_clear_syncUser :
    Ensures (creating syncer userID job)
      (fun _ later => later.Clear) (syncer.syncUser userID) .unread := by
  have unread := Creation.clear_unread
  have locks : ∀ request : Request, request.locking = true → Maintains (creating syncer userID job)
      (fun creation => creation = .unread) (ask request) :=
    fun request locking => maintains_creation (by cases request <;> first | rfl | cases locking)
      (fun _ => by cases request <;> first | rfl | cases locking) unread
  refine Syncer.ensures_syncUser ?_ (locks _ rfl) (maintains_clear_plain rfl) (locks _ rfl)
    (maintains_clear_plain rfl) ?_ rfl
  · rintro _ rfl
    exact unread
  · rintro _ rfl
    exact ensures_clear_syncLocked sync

end Sync

theorem ensures_clear_activity :
    Ensures (creating syncer userID job)
      (fun _ later => later.Clear) (syncer.activity userID job.activity) .unread := by
  have unread := Creation.clear_unread
  obtain ⟨activity, keeps, cutOff⟩ := job
  cases activity with
  | me =>
    refine maintains_discard (maintains_me (fun _ => True) (maintains_clear_plain rfl)
      (Maintains.yields (maintains_clear_plain rfl) (fun _ _ _ => trivial))
      (fun _ _ => maintains_clear_plain rfl)) _ unread
  | savePreferences requested useDedicated =>
    cases (keeps : useDedicated = true)
    refine maintains_discard (maintains_savePreferences maintains_clear_loadSyncProfile
      (Workforce.maintains_call ?_ ?_) (maintains_clear_plain rfl)) _ unread
    · exact fun _ clear => ⟨rfl, clear⟩
    · exact fun _ _ clear => clear
  | syncUser process =>
    -- What is remembered does not depend on the process.
    have run : Ensures ((calendarRuns syncer userID).watch (CreatesOnce userID)
        ⟨.syncUser process, keeps, cutOff⟩) (fun _ later => later.Clear)
        ({ syncer with process := process }.syncUser userID) .unread :=
      @ensures_clear_syncUser { syncer with process := process } userID _ rfl
    apply Ensures.bind
    exact Ensures.mono (fun _ _ kept => kept) run
  | googleCallback login => cases keeps
  | deleteAccount => cases keeps

theorem calendarRuns_disciplined :
    (calendarRuns syncer userID).Disciplined (CreatesOnce userID) Written := by
  intro job
  change Ensures _ _ (job.program syncer userID) Creation.unread
  unfold CalendarJob.program
  split
  · refine Ensures.then ensures_clear_activity ?_
    exact fun _ _ kept _ _ => kept
  · exact Ensures.mono (fun _ _ kept => kept) (ensures_clear_activity.cut _)

end Discipline

/-! ### Rows and calendars -/

def World.calendarOf (world : World) (userID : Int) : Option (Option String) :=
  (world.database.users.find userID).map UserRow.calendarID

def World.calendars (world : World) (userID : Int) : List String :=
  (world.accounts userID).calendars

variable {request : Request} {userID : Int}

theorem Request.effect_calendarID {now : Timestamp} {row : UserRow}
    (keeps : request.plain = true ∨ ∃ owner platforms,
      request = .updatePreferences owner platforms true) :
    (request.effect now row).map UserRow.calendarID = some row.calendarID := by
  rcases keeps with plain | ⟨owner, platforms, rfl⟩
  · cases request
    case markSyncing owner =>
      unfold Request.effect
      simp only
      split <;> rfl
    case markSynced owner status =>
      unfold Request.effect
      simp only
      split <;> rfl
    case setCalendarID => cases plain
    case updatePreferences => cases plain
    case upsertUser => cases plain
    case deleteUser => cases plain
    case pruneUsers => cases plain
    all_goals rfl
  · unfold Request.effect
    simp only
    split <;> rfl

variable {world : World}

theorem calendarOf_handle (issued : userID < world.database.serial)
    (keeps : request.plain = true ∨ ∃ owner platforms,
      request = .updatePreferences owner platforms true) :
    (world.handle request).1.calendarOf userID = world.calendarOf userID := by
  unfold World.calendarOf
  rw [find_handle world request issued]
  cases world.database.users.find userID with
  | none => rfl
  | some row => exact Request.effect_calendarID keeps

variable {calendarID : String}

theorem calendarOf_setCalendarID {before : Option String}
    (stored : world.calendarOf userID = some before) :
    (world.handle (.setCalendarID userID calendarID)).1.calendarOf userID =
      some (some calendarID) := by
  obtain ⟨row, found, _⟩ := Option.map_eq_some_iff.mp stored
  unfold World.calendarOf
  change ((world.database.updateUser userID _).users.find userID).map _ = _
  rw [Database.find_updateUser, if_pos rfl, found]
  rfl

theorem calendarOf_deleteUser {owner : Int} {rejected : Option String}
    (issued : userID < world.database.serial) {after : Option String}
    (kept : (world.handle (.deleteUser owner rejected)).1.calendarOf userID = some after) :
    world.calendarOf userID = some after := by
  unfold World.calendarOf at kept ⊢
  rw [find_handle world _ issued] at kept
  cases found : world.database.users.find userID with
  | none =>
    rw [found] at kept
    cases kept
  | some row =>
    rw [found] at kept
    change (if row.id = owner then none else some row).map UserRow.calendarID = some after at kept
    split at kept
    · cases kept
    · exact kept

theorem calendars_handle
    (other : ∀ owner token timezone, request ≠ .insertCalendar owner token timezone) :
    (world.handle request).1.calendars userID = world.calendars userID := by
  have kept : ∀ (owner : Int) (account : Account),
      account.calendars = (world.accounts owner).calendars →
      (world.setAccount owner account).calendars userID = world.calendars userID := by
    intro owner account same
    unfold World.calendars World.setAccount
    by_cases own : userID = owner
    · rw [own]
      simp only [Function.update_self]
      exact same
    · simp only [Function.update_of_ne own]
  cases request
  case insertCalendar owner token timezone => exact absurd rfl (other owner token timezone)
  case insertEvent owner token calendarID event =>
    exact kept owner _ (Account.sameBut_insertEvent _ calendarID event).known
  case updateEvent owner token calendarID eventID event =>
    exact kept owner _ (Account.sameBut_updateEvent _ calendarID eventID event).known
  case deleteEvent owner token calendarID eventID =>
    exact kept owner _ (Account.sameBut_deleteEvent _ calendarID eventID).known
  all_goals
    unfold World.calendars
    rw [(frame_handle world _).accounts rfl]

/-! ### Runs one after another -/

variable {user : CachedUser}

section Pools

variable {ι : Type}

/-- The conditions on a step of `SyncUser`: the creation of a calendar does not fail
after it has taken effect and the run goes on after it, the id is written, and a
profile from the cache or from the row that is read has the calendar of the primary's
row. -/
def CalendarPermits (userID : Int)
    (pool : Pool replicated ι CalendarJob Creation (Option Response)) (who : ι)
    (request : Request) (reading : Reading) : Prop :=
  (pool.job who).activity.isSync = true →
    match request with
    | .insertCalendar owner token timezone =>
      (∀ error, reading.outcome ≠ .late error) ∧
        ∀ next, pool.rest who = .call (.insertCalendar owner token timezone) next →
          ∀ calendarID response, next (.ok calendarID) ≠ .done response
    | .setCalendarID _ _ => ∀ error, reading.outcome ≠ .lost error
    | .getCachedUser _ => ∀ user, pool.state.valkey.users userID = some user →
        ∃ calendarID, pool.state.calendarOf userID = some calendarID ∧
          calendarID.getD "" = user.calendarID
    | .selectUser _ => ∀ row user, pool.state.readUser reading userID = some row →
        scanSyncProfile row = some user →
        ∃ calendarID, pool.state.calendarOf userID = some calendarID ∧
          calendarID.getD "" = user.calendarID
    | _ => True

/-- A run is started when the one before has ended or has been cut off. -/
def Sequential (pool : Pool replicated ι CalendarJob Creation (Option Response)) (_who : ι)
    (job : CalendarJob) : Prop :=
  job.activity.isSync = true → ∀ other, (pool.job other).activity.isSync = true → pool.Idle other

def calendarRules (userID : Int) (ι : Type) :
    Pool.Rules replicated ι CalendarJob Creation (Option Response) :=
  { starts := Sequential
    permits := CalendarPermits userID
    disturbs := Lapse }

def Running (pool : Pool replicated ι CalendarJob Creation (Option Response)) (who : ι) : Prop :=
  (pool.job who).activity.isSync = true ∧ ¬pool.Idle who

structure SingleCalendar (userID : Int)
    (pool : Pool replicated ι CalendarJob Creation (Option Response)) : Prop where
  issued : userID < pool.state.database.serial
  alone : ∀ who other, Running pool who → Running pool other → who = other
  pending : ∀ who calendarID, pool.memory who = .created calendarID →
    Running pool who ∧ pool.state.calendars userID = [calendarID] ∧
      ∃ before, pool.state.calendarOf userID = some before
  profile : ∀ who user, Running pool who → pool.memory who = .loaded user →
    ∃ calendarID, pool.state.calendarOf userID = some calendarID ∧
      calendarID.getD "" = user.calendarID
  single : pool.state.calendars userID = [] ∨
    ∃ calendarID, pool.state.calendars userID = [calendarID] ∧ calendarID ≠ "" ∧
      calendarID ≠ "primary" ∧
      ((∃ who, pool.memory who = .created calendarID) ∨
        ∀ stored, pool.state.calendarOf userID = some stored → stored = some calendarID)

section Steps

variable [DecidableEq ι] {syncer : Syncer} {userID : Int}
  {pool : Pool replicated ι CalendarJob Creation (Option Response)} {who : ι}
  {request : Request} {next : request.Answer → Program service (Option Response)}
  {reading : Reading}

omit [DecidableEq ι] in
theorem issued_serve (issued : userID < pool.state.database.serial) :
    userID < (pool.state.read request reading).1.database.serial :=
  World.serve_keeps (fun world => userID < world.database.serial) reading.outcome issued
    (Int.lt_of_lt_of_le issued (serial_handle pool.state request))

variable {other : ι} {token timezone : String}

theorem running_of_serve (ready : pool.rest who = .call request next)
    (running : Running (pool.serve (calendarRuns syncer userID) who request next reading) other) :
    Running pool other := by
  obtain ⟨sync, active⟩ := running
  refine ⟨sync, ?_⟩
  by_cases same : other = who
  · rw [same]
    exact Pool.not_idle_of_call ready
  · rwa [← Pool.idle_serve_of_ne same]

theorem running_serve (different : other ≠ who) (running : Running pool other) :
    Running (pool.serve (calendarRuns syncer userID) who request next reading) other :=
  ⟨running.1, fun idle => running.2 ((Pool.idle_serve_of_ne different).mp idle)⟩

theorem alone_serve (holds : SingleCalendar userID pool)
    (ready : pool.rest who = .call request next) (left right : ι)
    (first : Running (pool.serve (calendarRuns syncer userID) who request next reading) left)
    (second : Running (pool.serve (calendarRuns syncer userID) who request next reading) right) :
    left = right :=
  holds.alone left right (running_of_serve ready first) (running_of_serve ready second)

omit [DecidableEq ι] in
theorem SingleCalendar.pending_eq (holds : SingleCalendar userID pool) (running : Running pool who)
    (created : pool.memory other = .created calendarID) :
    other = who :=
  holds.alone other who (holds.pending other calendarID created).1 running

/-- The step of a worker that has no calendar to write, before and after. -/
theorem SingleCalendar.quiet (holds : SingleCalendar userID pool)
    (ready : pool.rest who = .call request next)
    (calendarOf : (pool.state.read request reading).1.calendarOf userID =
      pool.state.calendarOf userID)
    (calendars : (pool.state.read request reading).1.calendars userID =
      pool.state.calendars userID) (clear : (pool.memory who).Clear)
    (records : (calendarRuns syncer userID).record (pool.job who) (pool.memory who) request
      (pool.state.read request reading).2 = creation) (stillClear : creation.Clear)
    (known : Running pool who → ∀ user, creation = .loaded user →
      ∃ calendarID, pool.state.calendarOf userID = some calendarID ∧
        calendarID.getD "" = user.calendarID) :
    SingleCalendar userID (pool.serve (calendarRuns syncer userID) who request next reading) := by
  have memory : (pool.serve (calendarRuns syncer userID) who request next reading).memory who =
      creation := Pool.memory_serve_self.trans records
  have others : ∀ other calendarID,
      (pool.serve (calendarRuns syncer userID) who request next reading).memory other =
        .created calendarID → other ≠ who ∧ pool.memory other = .created calendarID := by
    intro other calendarID created
    have different : other ≠ who := by
      rintro rfl
      exact stillClear calendarID (memory.symm.trans created)
    rw [Pool.memory_serve_of_ne different] at created
    exact ⟨different, created⟩
  refine ⟨issued_serve holds.issued, alone_serve holds ready, ?_, ?_, ?_⟩
  · intro other calendarID created
    obtain ⟨different, before⟩ := others other calendarID created
    obtain ⟨running, listed, stored⟩ := holds.pending other calendarID before
    exact ⟨running_serve different running, calendars.trans listed, by
      change ∃ before, (pool.state.read request reading).1.calendarOf userID = some before
      rw [calendarOf]
      exact stored⟩
  · intro other user running loaded
    change ∃ calendarID, (pool.state.read request reading).1.calendarOf userID = _ ∧ _
    rw [calendarOf]
    by_cases same : other = who
    · subst same
      exact known (running_of_serve ready running) user (memory.symm.trans loaded)
    · rw [Pool.memory_serve_of_ne same] at loaded
      exact holds.profile other user (running_of_serve ready running) loaded
  · change (pool.state.read request reading).1.calendars userID = [] ∨ ∃ calendarID,
      (pool.state.read request reading).1.calendars userID = [calendarID] ∧ _ ∧ _ ∧ (_ ∨
        ∀ stored, (pool.state.read request reading).1.calendarOf userID = some stored → _)
    rw [calendars, calendarOf]
    refine holds.single.imp_right ?_
    rintro ⟨calendarID, listed, named, secondary, held⟩
    refine ⟨calendarID, listed, named, secondary, held.imp_left ?_⟩
    rintro ⟨other, created⟩
    have different : other ≠ who := by
      rintro rfl
      exact clear calendarID created
    exact ⟨other, (Pool.memory_serve_of_ne different).trans created⟩

omit [DecidableEq ι] in
theorem calendarOf_answered (sync : (pool.job who).activity.isSync = true)
    (permitted : CalendarPermits userID pool who request reading)
    (answered : answeredProfile userID request (pool.state.read request reading).2 = some user) :
    ∃ calendarID, pool.state.calendarOf userID = some calendarID ∧
      calendarID.getD "" = user.calendarID := by
  rcases answeredProfile_read answered with ⟨rfl, hit⟩ | ⟨rfl, row, found, scanned⟩
  · exact permitted sync user hit
  · exact permitted sync row user found scanned

theorem SingleCalendar.plain (holds : SingleCalendar userID pool)
    (ready : pool.rest who = .call request next)
    (keeps : request.plain = true ∨ ∃ owner platforms,
      request = .updatePreferences owner platforms true)
    (clear : (pool.memory who).Clear)
    (permitted : CalendarPermits userID pool who request reading) :
    SingleCalendar userID (pool.serve (calendarRuns syncer userID) who request next reading) := by
  have other : ∀ owner token timezone, request ≠ .insertCalendar owner token timezone := by
    rintro owner token timezone rfl
    rcases keeps with plain | ⟨_, _, impossible⟩
    · cases plain
    · cases impossible
  have calendarOf : (pool.state.read request reading).1.calendarOf userID =
      pool.state.calendarOf userID :=
    World.serve_keeps (fun world => world.calendarOf userID = pool.state.calendarOf userID)
      reading.outcome rfl (calendarOf_handle holds.issued keeps)
  have calendars : (pool.state.read request reading).1.calendars userID =
      pool.state.calendars userID :=
    World.serve_keeps (fun world => world.calendars userID = pool.state.calendars userID)
      reading.outcome rfl (calendars_handle other)
  have moves : (pool.memory who).after userID request (pool.state.read request reading).2 =
      pool.memory who ∨
      ∃ user, answeredProfile userID request (pool.state.read request reading).2 = some user ∧
        (pool.memory who).after userID request (pool.state.read request reading).2 =
          .loaded user := by
    rcases keeps with plain | ⟨_, _, rfl⟩
    · exact after_plain plain _
    · exact Or.inl rfl
  cases sync : (pool.job who).activity.isSync with
  | false =>
    refine holds.quiet ready calendarOf calendars clear (if_neg (by rw [sync]; decide)) clear ?_
    intro running
    have impossible := running.1
    rw [sync] at impossible
    cases impossible
  | true =>
    rcases moves with same | ⟨user, answered, loaded⟩
    · refine holds.quiet ready calendarOf calendars clear ((if_pos sync).trans same) clear
        (fun running user => holds.profile who user running)
    · refine holds.quiet ready calendarOf calendars clear ((if_pos sync).trans loaded)
        (Creation.clear_loaded user) ?_
      rintro _ _ ⟨⟩
      exact calendarOf_answered sync permitted answered

/-- A step of the run that is going on, after which it holds no profile. Nobody else
has a calendar to write, so only what the step itself leaves is to be shown. -/
theorem SingleCalendar.ownStep (holds : SingleCalendar userID pool) (running : Running pool who)
    (ready : pool.rest who = .call request next)
    (memory : (pool.serve (calendarRuns syncer userID) who request next reading).memory who =
      creation) (unloaded : ∀ user, creation ≠ .loaded user)
    (pending : ∀ calendarID, creation = .created calendarID →
      Running (pool.serve (calendarRuns syncer userID) who request next reading) who ∧
        (pool.state.read request reading).1.calendars userID = [calendarID] ∧
        ∃ before, (pool.state.read request reading).1.calendarOf userID = some before)
    (single : (pool.state.read request reading).1.calendars userID = [] ∨
      ∃ calendarID, (pool.state.read request reading).1.calendars userID = [calendarID] ∧
        calendarID ≠ "" ∧ calendarID ≠ "primary" ∧
        (creation = .created calendarID ∨
          ∀ stored, (pool.state.read request reading).1.calendarOf userID = some stored →
            stored = some calendarID)) :
    SingleCalendar userID (pool.serve (calendarRuns syncer userID) who request next reading) := by
  refine ⟨issued_serve holds.issued, alone_serve holds ready, ?_, ?_, ?_⟩
  · intro other calendarID created
    by_cases same : other = who
    · subst same
      exact pending calendarID (memory.symm.trans created)
    · rw [Pool.memory_serve_of_ne same] at created
      exact absurd (holds.pending_eq running created) same
  · intro other user active loaded
    have same := holds.alone other who (running_of_serve ready active) running
    rw [same, memory] at loaded
    exact absurd loaded (unloaded user)
  · refine single.imp_right ?_
    rintro ⟨calendarID, listed, named, secondary, held⟩
    refine ⟨calendarID, listed, named, secondary, held.imp_left ?_⟩
    exact fun created => ⟨who, memory.trans created⟩

theorem SingleCalendar.deleteUser (holds : SingleCalendar userID pool) {owner : Int}
    {rejected : Option String} {next : Bool → Program service (Option Response)}
    (ready : pool.rest who = .call (.deleteUser owner rejected) next)
    (sync : (pool.job who).activity.isSync = true) (clear : (pool.memory who).Clear) :
    SingleCalendar userID
      (pool.serve (calendarRuns syncer userID) who (.deleteUser owner rejected) next reading) := by
  have running : Running pool who := ⟨sync, Pool.not_idle_of_call ready⟩
  have settled : (pool.serve (calendarRuns syncer userID) who (.deleteUser owner rejected) next
      reading).memory who = .settled := Pool.memory_serve_self.trans (if_pos sync)
  have calendars : (pool.state.read (.deleteUser owner rejected) reading).1.calendars userID =
      pool.state.calendars userID :=
    World.serve_keeps (fun world => world.calendars userID = pool.state.calendars userID)
      reading.outcome rfl (calendars_handle (by rintro _ _ _ ⟨⟩))
  have fewer : ∀ stored,
      (pool.state.read (.deleteUser owner rejected) reading).1.calendarOf userID = some stored →
        pool.state.calendarOf userID = some stored :=
    World.serve_keeps (fun world => ∀ stored, world.calendarOf userID = some stored →
      pool.state.calendarOf userID = some stored) reading.outcome (fun _ same => same)
      (fun _ => calendarOf_deleteUser holds.issued)
  have nothing : ∀ other calendarID, pool.memory other ≠ .created calendarID := by
    intro other calendarID created
    have same := holds.pending_eq running created
    rw [same] at created
    exact clear calendarID created
  refine holds.ownStep running ready settled (by rintro _ ⟨⟩) (by rintro _ ⟨⟩) ?_
  rw [calendars]
  refine holds.single.imp_right ?_
  rintro ⟨calendarID, listed, named, secondary, held⟩
  refine ⟨calendarID, listed, named, secondary, Or.inr ?_⟩
  rcases held with ⟨other, created⟩ | stored
  · exact absurd created (nothing other calendarID)
  · exact fun kept found => stored kept (fewer kept found)

theorem SingleCalendar.setCalendarID (holds : SingleCalendar userID pool)
    {next : Bool → Program service (Option Response)}
    (ready : pool.rest who = .call (.setCalendarID userID calendarID) next)
    (sync : (pool.job who).activity.isSync = true) (created : pool.memory who = .created calendarID)
    (effective : ∀ error, reading.outcome ≠ .lost error) :
    SingleCalendar userID
      (pool.serve (calendarRuns syncer userID) who (.setCalendarID userID calendarID) next
        reading) := by
  obtain ⟨running, listed, before, stored⟩ := holds.pending who calendarID created
  have settled : (pool.serve (calendarRuns syncer userID) who (.setCalendarID userID calendarID)
      next reading).memory who = .settled := Pool.memory_serve_self.trans (if_pos sync)
  have effect : (pool.state.read (.setCalendarID userID calendarID) reading).1 =
      (pool.state.handle (.setCalendarID userID calendarID)).1 := World.serve_effective effective
  have written : (pool.state.read (.setCalendarID userID calendarID) reading).1.calendarOf
      userID = some (some calendarID) := by
    rw [effect]
    exact calendarOf_setCalendarID stored
  have calendars : (pool.state.read (.setCalendarID userID calendarID) reading).1.calendars
      userID = [calendarID] := by
    rw [effect, calendars_handle (by rintro _ _ _ ⟨⟩)]
    exact listed
  have proper : calendarID ≠ "" ∧ calendarID ≠ "primary" := by
    rcases holds.single with none | ⟨other, otherListed, named, secondary, _⟩
    · rw [listed] at none
      cases none
    · rw [listed] at otherListed
      cases otherListed
      exact ⟨named, secondary⟩
  refine holds.ownStep running ready settled (by rintro _ ⟨⟩) (by rintro _ ⟨⟩) ?_
  refine Or.inr ⟨calendarID, calendars, proper.1, proper.2, Or.inr ?_⟩
  intro kept found
  rw [written] at found
  exact (Option.some.inj found).symm

omit [DecidableEq ι] in
theorem SingleCalendar.none_created (holds : SingleCalendar userID pool)
    (running : Running pool who) (loaded : pool.memory who = .loaded user)
    (undedicated : user.Undedicated) : pool.state.calendars userID = [] := by
  refine holds.single.resolve_right ?_
  rintro ⟨calendarID, _, named, secondary, ⟨other, created⟩ | stored⟩
  · rw [holds.pending_eq running created, loaded] at created
    cases created
  · obtain ⟨kept, found, same⟩ := holds.profile who user running loaded
    rw [stored kept found, Option.getD_some] at same
    rcases undedicated with empty | primary
    · exact named (same.trans empty)
    · exact secondary (same.trans primary)

theorem SingleCalendar.created (holds : SingleCalendar userID pool)
    {next : Except GoogleError String → Program service (Option Response)}
    (ready : pool.rest who = .call (.insertCalendar userID token timezone) next)
    (sync : (pool.job who).activity.isSync = true)
    (loaded : pool.memory who = .loaded user) (undedicated : user.Undedicated)
    (continues : ∀ calendarID response, next (.ok calendarID) ≠ .done response)
    {account : Account} {replica : Option Database}
    (called : (pool.state.accounts userID).insertCalendar = (account, .ok calendarID))
    (named : calendarID ≠ "") (secondary : calendarID ≠ "primary")
    (listed : account.calendars = pool.state.calendars userID ++ [calendarID]) :
    SingleCalendar userID
      (pool.serve (calendarRuns syncer userID) who (.insertCalendar userID token timezone) next
        ⟨.served, replica⟩) := by
  have running : Running pool who := ⟨sync, Pool.not_idle_of_call ready⟩
  obtain ⟨stored, found, _⟩ := holds.profile who user running loaded
  have handled : pool.state.handle (.insertCalendar userID token timezone) =
      (pool.state.setAccount userID account, .ok calendarID) := by
    change (pool.state.setAccount userID (pool.state.accounts userID).insertCalendar.1,
      (pool.state.accounts userID).insertCalendar.2) = _
    rw [called]
  have memory : (pool.serve (calendarRuns syncer userID) who
      (.insertCalendar userID token timezone) next ⟨.served, replica⟩).memory who =
      .created calendarID := by
    rw [Pool.memory_serve_self]
    change (if (pool.job who).activity.isSync then (pool.memory who).after userID
      (.insertCalendar userID token timezone)
      (pool.state.handle (.insertCalendar userID token timezone)).2 else _) = _
    rw [if_pos sync, handled]
    rfl
  have rest : (pool.serve (calendarRuns syncer userID) who
      (.insertCalendar userID token timezone) next ⟨.served, replica⟩).rest who =
      next (.ok calendarID) := by
    rw [Pool.rest_serve_self]
    change next (pool.state.handle (.insertCalendar userID token timezone)).2 = _
    rw [handled]
  have stillRunning : Running (pool.serve (calendarRuns syncer userID) who
      (.insertCalendar userID token timezone) next ⟨.served, replica⟩) who := by
    refine ⟨sync, ?_⟩
    rintro ⟨response, ended⟩
    exact continues calendarID response (rest.symm.trans ended)
  have calendars : (pool.state.handle (.insertCalendar userID token timezone)).1.calendars
      userID = [calendarID] := by
    rw [handled]
    change (Function.update pool.state.accounts userID account userID).calendars = _
    rw [Function.update_self, listed, holds.none_created running loaded undedicated]
    rfl
  have calendarOf : (pool.state.handle (.insertCalendar userID token timezone)).1.calendarOf
      userID = some stored := by
    rw [handled]
    exact found
  refine holds.ownStep running ready memory (by rintro _ ⟨⟩) ?_ ?_
  · rintro _ ⟨⟩
    exact ⟨stillRunning, calendars, stored, calendarOf⟩
  · exact Or.inr ⟨calendarID, calendars, named, secondary, Or.inl rfl⟩

theorem SingleCalendar.insertCalendar (holds : SingleCalendar userID pool)
    {next : Except GoogleError String → Program service (Option Response)}
    (ready : pool.rest who = .call (.insertCalendar userID token timezone) next)
    (sync : (pool.job who).activity.isSync = true)
    (loaded : pool.memory who = .loaded user) (undedicated : user.Undedicated)
    (timely : ∀ error, reading.outcome ≠ .late error)
    (continues : ∀ calendarID response, next (.ok calendarID) ≠ .done response) :
    SingleCalendar userID
      (pool.serve (calendarRuns syncer userID) who (.insertCalendar userID token timezone) next
        reading) := by
  have running : Running pool who := ⟨sync, Pool.not_idle_of_call ready⟩
  have clear : (pool.memory who).Clear := by
    rw [loaded]
    exact Creation.clear_loaded user
  -- A failure leaves everything as it was.
  have fails : ∀ error, pool.state.read (.insertCalendar userID token timezone) reading =
      (pool.state, .error error) →
      SingleCalendar userID (pool.serve (calendarRuns syncer userID) who
        (.insertCalendar userID token timezone) next reading) := by
    intro error failed
    refine holds.quiet ready (by rw [failed]) (by rw [failed]) clear ?_ clear
      (fun running user => holds.profile who user running)
    rw [failed]
    exact if_pos sync
  obtain ⟨outcome, replica⟩ := reading
  cases outcome with
  | late error => exact absurd rfl (timely error)
  | lost error => exact fails error rfl
  | served =>
    rcases (pool.state.accounts userID).insertCalendar_cases with
      ⟨error, refused⟩ | ⟨calendarID, named, secondary, _, called⟩
    · apply fails error
      change (pool.state.setAccount userID (pool.state.accounts userID).insertCalendar.1,
        (pool.state.accounts userID).insertCalendar.2) = _
      rw [refused]
      unfold World.setAccount
      rw [Function.update_eq_self]
    · exact holds.created ready sync loaded undedicated continues called named secondary rfl

theorem SingleCalendar.serve (holds : SingleCalendar userID pool)
    (ready : pool.rest who = .call request next)
    (allowed : CreatesOnce userID (pool.job who) (pool.memory who) request)
    (permitted : CalendarPermits userID pool who request reading) :
    SingleCalendar userID (pool.serve (calendarRuns syncer userID) who request next reading) := by
  cases request
  case insertCalendar owner token timezone =>
    obtain ⟨sync, rfl, user, loaded, undedicated⟩ := allowed
    obtain ⟨timely, continues⟩ := permitted sync
    exact holds.insertCalendar ready sync loaded undedicated timely (continues next ready)
  case setCalendarID owner calendarID =>
    obtain ⟨sync, rfl, created⟩ := allowed
    exact holds.setCalendarID ready sync created (permitted sync)
  case deleteUser owner rejected => exact holds.deleteUser ready allowed.1 allowed.2
  case updatePreferences owner platforms useDedicated =>
    obtain ⟨rfl, clear⟩ := allowed
    exact holds.plain ready (Or.inr ⟨owner, platforms, rfl⟩) clear permitted
  case upsertUser login => exact absurd allowed id
  case pruneUsers => exact absurd allowed id
  all_goals exact holds.plain ready (Or.inl rfl) allowed permitted

theorem SingleCalendar.start (holds : SingleCalendar userID pool) (idle : pool.Idle who)
    (job : CalendarJob) (sequential : Sequential pool who job) :
    SingleCalendar userID (pool.start (calendarRuns syncer userID) who job) := by
  have fresh : (pool.start (calendarRuns syncer userID) who job).memory who = .unread :=
    Pool.memory_start_self
  have running : ∀ other, other ≠ who →
      (Running (pool.start (calendarRuns syncer userID) who job) other ↔ Running pool other) := by
    intro other different
    unfold Running
    rw [Pool.job_start_of_ne different, Pool.idle_start_of_ne different]
  have others : ∀ other, other ≠ who →
      Running (pool.start (calendarRuns syncer userID) who job) other →
      ¬Running (pool.start (calendarRuns syncer userID) who job) who := by
    intro other different active started
    have before := (running other different).mp active
    have own : (pool.start (calendarRuns syncer userID) who job).job who = job :=
      Pool.job_start_self
    have sync := started.1
    rw [own] at sync
    exact before.2 (sequential sync other before.1)
  refine ⟨holds.issued, ?_, ?_, ?_, ?_⟩
  · intro left right first second
    by_cases leftOwn : left = who
    · by_cases rightOwn : right = who
      · rw [leftOwn, rightOwn]
      · rw [leftOwn] at first
        exact absurd first (others right rightOwn second)
    · by_cases rightOwn : right = who
      · rw [rightOwn] at second
        exact absurd second (others left leftOwn first)
      · exact holds.alone left right ((running left leftOwn).mp first)
          ((running right rightOwn).mp second)
  · intro other calendarID created
    by_cases same : other = who
    · rw [same, fresh] at created
      cases created
    · rw [Pool.memory_start_of_ne same] at created
      obtain ⟨active, listed, stored⟩ := holds.pending other calendarID created
      exact ⟨(running other same).mpr active, listed, stored⟩
  · intro other user active loaded
    by_cases same : other = who
    · rw [same, fresh] at loaded
      cases loaded
    · rw [Pool.memory_start_of_ne same] at loaded
      exact holds.profile other user ((running other same).mp active) loaded
  · refine holds.single.imp_right ?_
    rintro ⟨calendarID, listed, named, secondary, held⟩
    refine ⟨calendarID, listed, named, secondary, held.imp_left ?_⟩
    rintro ⟨other, created⟩
    have different : other ≠ who := by
      rintro rfl
      exact (holds.pending other calendarID created).1.2 idle
    exact ⟨other, (Pool.memory_start_of_ne different).trans created⟩

omit [DecidableEq ι] in
theorem SingleCalendar.lapse (holds : SingleCalendar userID pool) {after : World}
    (lapse : Lapse pool.state after) :
    SingleCalendar userID { pool with state := after } := by
  have calendarOf : after.calendarOf userID = pool.state.calendarOf userID := by
    unfold World.calendarOf
    rw [lapse.database]
  have calendars : after.calendars userID = pool.state.calendars userID := by
    unfold World.calendars
    rw [lapse.accounts]
  refine ⟨?_, holds.alone, ?_, ?_, ?_⟩
  · change userID < after.database.serial
    rw [lapse.database]
    exact holds.issued
  · intro who calendarID created
    obtain ⟨running, listed, before, stored⟩ := holds.pending who calendarID created
    exact ⟨running, calendars.trans listed, before, calendarOf.trans stored⟩
  · intro who user running loaded
    obtain ⟨calendarID, found, same⟩ := holds.profile who user running loaded
    exact ⟨calendarID, calendarOf.trans found, same⟩
  · rcases holds.single with none | ⟨calendarID, listed, named, secondary, held⟩
    · exact Or.inl (calendars.trans none)
    · exact Or.inr ⟨calendarID, calendars.trans listed, named, secondary,
        held.imp_right (fun stored kept found => stored kept (calendarOf.symm.trans found))⟩

/-- At most one calendar is created for the user. -/
theorem single_dedicated_calendar
    {first last : Pool replicated ι CalendarJob Creation (Option Response)}
    (rested : ∀ who, first.Idle who ∧ first.memory who = .unread)
    (issued : userID < first.state.database.serial)
    (uncreated : (first.state.accounts userID).calendars = []) (execution : Relation.ReflTransGen
      (Pool.Step (calendarRuns syncer userID) (calendarRules userID ι)) first last) :
    (last.state.accounts userID).calendars.length ≤ 1 := by
  have watched : first.Watched (calendarRuns syncer userID) (CreatesOnce userID) Written := by
    intro who
    obtain ⟨⟨value, done⟩, unread⟩ := rested who
    rw [done, unread]
    rintro _ _ _ ⟨⟩
  have nobody : ∀ who, ¬Running first who := fun who running => running.2 (rested who).1
  have holds : SingleCalendar userID first := by
    refine ⟨issued, fun who _ running => absurd running (nobody who), ?_,
      fun who _ running => absurd running (nobody who), Or.inl uncreated⟩
    intro who calendarID created
    rw [(rested who).2] at created
    cases created
  obtain ⟨_, kept⟩ := Pool.keeps calendarRuns_disciplined execution (SingleCalendar userID)
    (fun pool who job _ idle sequential single => single.start idle job sequential)
    (fun pool who request next reading watched ready permitted single =>
      single.serve ready (watched.allowed ready) permitted)
    (fun pool after lapse single => single.lapse lapse) watched holds
  change (last.state.calendars userID).length ≤ 1
  rcases kept.single with none | ⟨calendarID, listed, _⟩
  · rw [none]
    exact Nat.zero_le _
  · rw [listed]
    exact Nat.le_refl _

end Steps

end Pools

section Runs

/-- A user who has chosen a dedicated calendar and no platforms. -/
def dedicatedUser : World :=
  replay sampleSyncer [.googleCallback sampleLogin, .savePreferences 1 (some []) true] emptyWorld

/-- The user has selected a platform since. -/
def newCalendarPool : Pool replicated Nat CalendarJob Creation (Option Response) :=
  { state := replay sampleSyncer [.savePreferences 1 (some ["codeforces"]) true] dedicatedUser
    job := fun _ => ⟨.me, rfl, none⟩
    rest := fun _ => .done none
    memory := fun _ => .unread }

/-- A run in a process, which makes its first requests; it reads from a replica or not. -/
def runMoves (process : Nat) (cutOff : Option Nat) (replica : Option Database) (requests : Nat) :
    List (Pool.Move replicated Nat CalendarJob) :=
  .start process ⟨.syncUser process, rfl, cutOff⟩ ::
    List.replicate requests (.serve process ⟨.served, replica⟩)

/-- The first run creates the calendar and writes its id; the replica it reads from has not seen
the new selection. -/
theorem single_dedicated_calendar_written :
    ((newCalendarPool.play (calendarRuns sampleSyncer 1)
      (runMoves 0 none (some dedicatedUser.database) 6)).state.accounts
        1).calendars.length ≤ 1 := by
  have execution : Relation.ReflTransGen
      (Pool.Step (calendarRuns sampleSyncer 1) (calendarRules 1 Nat)) newCalendarPool
      (newCalendarPool.play (calendarRuns sampleSyncer 1)
        (runMoves 0 none (some dedicatedUser.database) 6)) := by
    refine Pool.play_steps _ ⟨fun _ _ _ => ⟨_, rfl⟩, fun _ => trivial, fun _ => ?_,
      fun _ => trivial, fun _ => trivial, fun _ => ?_, fun _ => ?_, trivial⟩
    · rintro row user found scanned
      cases found
      cases scanned
      exact ⟨none, rfl, rfl⟩
    · refine ⟨by rintro error ⟨⟩, ?_⟩
      rintro next ⟨⟩ calendarID response ⟨⟩
    · rintro error ⟨⟩
  exact single_dedicated_calendar (fun _ => ⟨⟨_, rfl⟩, rfl⟩) (by decide) rfl execution

/-- Any step is allowed, but the runs still come one after another. -/
def sequentialRules : Pool.Rules replicated Nat CalendarJob Creation (Option Response) :=
  { starts := Sequential
    permits := fun _ _ _ _ => True
    disturbs := Lapse }

/-- A run is cut off when it has created the calendar, and the next one creates
another. -/
theorem dedicated_calendar_twice :
    let last := newCalendarPool.play (calendarRuns sampleSyncer 1)
      (runMoves 0 (some 5) none 5 ++ runMoves 1 none none 5)
    Relation.ReflTransGen (Pool.Step (calendarRuns sampleSyncer 1) sequentialRules)
        newCalendarPool last ∧
      (last.state.accounts 1).calendars.length = 2 := by
  intro last
  refine ⟨Pool.play_steps _ ⟨fun _ _ _ => ⟨_, rfl⟩, trivial, trivial, trivial, trivial, trivial,
    ?_, trivial, trivial, trivial, trivial, trivial, trivial⟩, rfl⟩
  intro _ other _
  match other with
  | 0 => exact ⟨_, rfl⟩
  | other + 1 => exact ⟨_, rfl⟩

end Runs

end ContestSync
