/-
The cached profile under concurrency. Readers fill the cache with what they have
read before, writers change the row and then delete the key, and nothing orders
the fill of one operation against the change of another. While no fill comes
late, a cached profile that has fallen behind its row is about to be deleted by
the writer that overtook it.
-/

import ContestSync.ProfileTraffic

namespace ContestSync

open Resumable Program Function

/-! ### Profiles and rows -/

/-- Platforms, `use_dedicated`, `calendar_id` and the refresh token. -/
abbrev Settings : Type :=
  Option (List String) × Bool × String × String

def CachedUser.settings (user : CachedUser) : Settings :=
  (user.platforms, user.useDedicated, user.calendarID, user.refreshToken)

/-- `NULL` is read as an empty text. -/
def UserRow.settings (row : UserRow) : Settings :=
  (row.platforms, row.useDedicated, row.calendarID.getD "", row.refreshToken.getD "")

namespace World

def Describes (world : World) (userID : Int) (user : CachedUser) : Prop :=
  ∃ row, world.database.users.find userID = some row ∧ user.settings = row.settings

/-- A cached profile has the settings of the row, and there is none without a row. -/
def ProfileCurrent (world : World) (userID : Int) : Prop :=
  ∀ user, world.valkey.users userID = some user → world.Describes userID user

end World

/-- The statements that change the settings of a row, or delete it. -/
def Request.overtakes : Request → Bool
  | .setCalendarID _ _ => true
  | .updatePreferences _ _ _ => true
  | .upsertUser _ => true
  | .deleteUser _ _ => true
  | .pruneUsers => true
  | _ => false

variable {request : Request}

theorem effect_settings {now : Timestamp} {row : UserRow} (keeps : request.overtakes = false) :
    ∃ after, request.effect now row = some after ∧ after.settings = row.settings := by
  cases request
  case setCalendarID => cases keeps
  case updatePreferences => cases keeps
  case upsertUser => cases keeps
  case deleteUser => cases keeps
  case pruneUsers => cases keeps
  case markSyncing owner =>
    refine ⟨_, rfl, ?_⟩
    split <;> rfl
  case markSynced owner status =>
    refine ⟨_, rfl, ?_⟩
    split <;> rfl
  all_goals exact ⟨row, rfl, rfl⟩

theorem World.Describes.handle {world : World} {userID : Int} {user : CachedUser}
    (describes : world.Describes userID user)
    (issued : userID < world.database.serial) (keeps : request.overtakes = false) :
    (world.handle request).1.Describes userID user := by
  obtain ⟨row, found, same⟩ := describes
  obtain ⟨after, changed, kept⟩ : ∃ after, request.effect world.now row = some after ∧
    after.settings = row.settings := effect_settings keeps
  refine ⟨after, ?_, same.trans kept.symm⟩
  rw [find_handle world request issued, found]
  exact changed

/-! ### The writers -/

/-- The user whose row was changed and whose cached profile is still to be deleted. -/
def overtaken (memory : Option Int) : (request : Request) → request.Answer → Option Int
  | .setCalendarID owner _, true => some owner
  | .updatePreferences owner _ _, true => some owner
  | .upsertUser _, some (owner, _) => some owner
  | .deleteUser owner _, true => some owner
  | .deleteCachedUser owner, _ => if memory = some owner then none else memory
  | _, _ => memory

def profileWrites (syncer : Syncer) (userID : Int) :
    Workforce service Activity (Option Int) Response :=
  { program := syncer.activity userID
    fresh := fun _ => none
    record := fun _ => overtaken }

/-- A row is changed only after the last change has been followed up. -/
def FollowsUp (_activity : Activity) (memory : Option Int) (request : Request) : Prop :=
  request ≠ .pruneUsers ∧ (request.overtakes = true → memory = none)

abbrev writing (syncer : Syncer) (userID : Int) : Activity → Specification service (Option Int) :=
  (profileWrites syncer userID).watch FollowsUp

def FollowedUp (_activity : Activity) (_response : Response) (memory : Option Int) : Prop :=
  memory = none

variable {owner : Int}

section Discipline

variable {syncer : Syncer} {userID : Int} {activity : Activity}

theorem maintains_followedUp (keeps : request.overtakes = false) :
    Maintains (writing syncer userID activity) (fun memory => memory = none) (ask request) := by
  apply Workforce.maintains_call
  · rintro _ rfl
    refine ⟨?_, fun _ => rfl⟩
    rintro rfl
    cases keeps
  · rintro _ answer rfl
    cases request
    case setCalendarID => cases keeps
    case updatePreferences => cases keeps
    case upsertUser => cases keeps
    case deleteUser => cases keeps
    all_goals rfl

theorem ensures_followUp {α : Type} {post : α → Option Int → Prop}
    {memory : Option Int} {rest : Unit → Program service α}
    (changed : memory = none ∨ memory = some owner)
    (follows : Ensures (writing syncer userID activity) post (rest ()) none) :
    Ensures (writing syncer userID activity) post
      (ask (.deleteCachedUser owner) >>= rest) memory := by
  refine ⟨⟨nofun, nofun⟩, ?_⟩
  intro _
  change Ensures _ post (rest ()) (if memory = some owner then none else memory)
  rcases changed with rfl | rfl
  · exact follows
  · rw [if_pos rfl]
    exact follows

theorem ensures_change {α : Type} {post : α → Option Int → Prop}
    {next : request.Answer → Program service α} (other : request ≠ .pruneUsers)
    (follows : ∀ answer, Ensures (writing syncer userID activity) post
      (next answer) (overtaken none request answer)) :
    Ensures (writing syncer userID activity) post (ask request >>= next) none :=
  ⟨⟨other, fun _ => rfl⟩, follows⟩

theorem ensures_forgets {α : Type} {response : α} (configured : syncer.valkey = true) :
    Ensures (writing syncer userID activity) (fun _ memory => memory = none)
      (do
        if syncer.valkey then
          ask (.deleteCachedUser userID)
        return response) (some userID) := by
  apply ensures_ite
  · exact fun _ => ensures_followUp (Or.inr rfl) rfl
  · exact fun unconfigured => absurd configured unconfigured

theorem maintains_followedUp_handleSyncError (configured : syncer.valkey = true) (process : Nat)
    (token : String) (error : GoogleError) :
    Maintains (writing syncer userID activity) (fun memory => memory = none)
      ({ syncer with process := process }.handleSyncError userID token error) := by
  rintro _ rfl
  apply ensures_ite
  · intro _
    refine ensures_change nofun ?_
    intro deleted
    apply ensures_ite
    · intro _
      refine ensures_followUp ?_ rfl
      cases deleted with
      | true => exact Or.inr rfl
      | false => exact Or.inl rfl
    · exact fun unconfigured => absurd configured unconfigured
  · exact fun _ => rfl

theorem maintains_followedUp_adoptCalendar (configured : syncer.valkey = true) (process : Nat)
    (calendarID : String) :
    Maintains (writing syncer userID activity) (fun memory => memory = none)
      ({ syncer with process := process }.adoptCalendar userID calendarID) := by
  rintro _ rfl
  refine ensures_change nofun ?_
  intro stored
  apply ensures_ite
  · intro _
    change Ensures _ _ (ask (.deleteCachedUser userID) >>= Program.done) _
    refine ensures_followUp ?_ rfl
    cases stored with
    | true => exact Or.inr rfl
    | false => exact Or.inl rfl
  · exact fun unconfigured => absurd configured unconfigured

theorem maintains_followedUp_loadSyncProfile :
    Maintains (writing syncer userID activity)
      (fun memory => memory = none) (loadSyncProfile syncer.valkey userID) :=
  maintains_loadSyncProfile (maintains_followedUp rfl) (maintains_followedUp rfl)
    (fun _ => maintains_followedUp rfl)

theorem overtakes_of_unprofiled (plain : request.profiled = false) :
    request.overtakes = false := by
  cases request <;> first | rfl | cases plain

variable (configured : syncer.valkey = true)
include configured

theorem maintains_followedUp_syncUser (process : Nat) :
    Maintains (writing syncer userID activity) (fun memory => memory = none)
      ({ syncer with process := process }.syncUser userID) := by
  have drops : ∀ token error, Maintains
      (writing syncer userID activity) (fun memory => memory = none)
      ({ syncer with process := process }.handleSyncError userID token error) :=
    maintains_followedUp_handleSyncError configured process
  have syncs : ∀ user, Maintains (writing syncer userID activity) (fun memory => memory = none)
      ({ syncer with process := process }.syncProfile userID user) := by
    intro user
    apply Syncer.maintains_syncProfile
    · exact fun token => maintains_followedUp rfl
    · exact fun token timezone _ => Syncer.maintains_targetCalendar (maintains_followedUp rfl)
        (maintains_followedUp_adoptCalendar configured process) (drops token)
    · exact fun token calendarID timezone _ => Syncer.maintains_syncCalendar_each
        (fun _ _ plain _ => maintains_followedUp (overtakes_of_unprofiled plain)) (drops token)
    · exact fun token error _ => drops token error
  intro memory clean
  refine Syncer.ensures_syncUser (fun _ kept => kept) (maintains_followedUp rfl)
    (maintains_followedUp rfl) (maintains_followedUp rfl) (maintains_followedUp rfl) ?_ clean
  apply Maintains.bind maintains_followedUp_loadSyncProfile
  intro found
  cases found with
  | none => exact maintains_done _
  | some user =>
    intro ready kept
    exact Syncer.ensures_syncLoaded (maintains_followedUp rfl) (syncs user)
      (fun _ => maintains_followedUp rfl) (maintains_followedUp rfl) kept

theorem maintains_followedUp_savePreferences
    (requested : Option (List String)) (useDedicated : Bool) :
    Maintains (writing syncer userID activity) (fun memory => memory = none)
      (Handlers.savePreferences ⟨syncer.valkey⟩ userID requested useDedicated) := by
  apply maintains_ite
  · exact fun _ => maintains_done _
  · intro _
    apply Maintains.bind maintains_followedUp_loadSyncProfile
    intro found
    cases found with
    | none => exact maintains_done _
    | some user =>
      apply maintains_ite
      · rintro _ _ rfl
        refine ensures_change nofun ?_
        intro updated
        cases updated with
        | false => exact rfl
        | true => exact ensures_forgets configured
      · exact fun _ => maintains_done _

theorem maintains_followedUp_googleCallback (login : Login) :
    Maintains (writing syncer userID activity)
      (fun memory => memory = none) (Handlers.googleCallback ⟨syncer.valkey⟩ login) := by
  rintro _ rfl
  refine ensures_change nofun ?_
  intro answer
  cases answer with
  | none => exact rfl
  | some upserted =>
    change Ensures _ _ (if syncer.valkey then _ else _) _
    apply ensures_ite
    · intro _
      refine ensures_followUp (Or.inr rfl) ?_
      exact maintains_ite
        (fun _ => Maintains.bind (maintains_followedUp rfl) (fun _ => maintains_done _))
        (fun _ => maintains_done _) none rfl
    · exact fun unconfigured => absurd configured unconfigured

theorem maintains_followedUp_deleteAccount :
    Maintains (writing syncer userID activity)
      (fun memory => memory = none) (Handlers.deleteAccount ⟨syncer.valkey⟩ userID) := by
  apply maintains_deleteAccount_of_removes (maintains_followedUp rfl)
  rintro _ rfl
  refine ensures_change nofun ?_
  intro deleted
  cases deleted with
  | false => exact rfl
  | true => exact ensures_forgets configured

theorem profileWrites_disciplined :
    (profileWrites syncer userID).Disciplined FollowsUp FollowedUp := by
  intro activity
  cases activity with
  | me =>
    exact maintains_discard (maintains_me (fun _ => True) (maintains_followedUp rfl)
      (Maintains.yields (maintains_followedUp rfl) (fun _ _ _ => trivial))
      (fun _ _ => maintains_followedUp rfl)) none rfl
  | savePreferences requested useDedicated =>
    exact maintains_discard
      (maintains_followedUp_savePreferences configured requested useDedicated) none rfl
  | syncUser process =>
    exact maintains_discard (maintains_followedUp_syncUser configured process) none rfl
  | googleCallback login =>
    exact maintains_discard (maintains_followedUp_googleCallback configured login) none rfl
  | deleteAccount =>
    exact maintains_discard (maintains_followedUp_deleteAccount configured) none rfl

end Discipline

/-! ### Interleavings -/

section Interleavings

variable {ι : Type}

/-- A fill is not late: the row has the settings of the profile, or the key is
about to be deleted by an operation that has changed the row. -/
def FillsInTime (userID : Int) (pool : Pool environment ι Activity (Option Int) Response)
    (request : Request) : Prop :=
  ∀ user, request = .setCachedUser userID user →
    pool.state.Describes userID user ∨ ∃ other, pool.memory other = some userID

/-- The database and Valkey answer; a call to Google or to the queue may fail. -/
def fillRules (userID : Int) (ι : Type) :
    Pool.Rules environment ι Activity (Option Int) Response :=
  { permits := fun pool _ request outcome =>
      Reliable (fun _ _ => True) request outcome ∧ FillsInTime userID pool request
    disturbs := Lapse }

/-- A cached profile that is not current is about to be deleted. -/
structure Followed (userID : Int) (pool : Pool environment ι Activity (Option Int) Response) :
    Prop where
  issued : userID < pool.state.database.serial
  current : pool.state.ProfileCurrent userID ∨ ∃ who, pool.memory who = some userID

variable {userID : Int} {pool : Pool environment ι Activity (Option Int) Response} {who : ι}
  {next : request.Answer → Program service Response} {outcome : Outcome}

theorem ProfileCurrent.handle {world : World}
    (current : world.ProfileCurrent userID) (issued : userID < world.database.serial)
    (keeps : request.overtakes = false) (quiet : request.writes .profiles = false) :
    (world.handle request).1.ProfileCurrent userID := by
  intro user cached
  rw [(frame_handle world request).profiles quiet] at cached
  exact (current user cached).handle issued keeps

theorem Followed.lapse {after : World} (followed : Followed userID pool)
    (lapse : Lapse pool.state after) :
    Followed userID { pool with state := after } := by
  refine ⟨?_, ?_⟩
  · change userID < after.database.serial
    rw [lapse.database]
    exact followed.issued
  · rcases followed.current with current | dirty
    · refine Or.inl ?_
      intro user hit
      change after.valkey.users userID = some user at hit
      rcases lapse.users userID with same | expired
      · rw [same] at hit
        obtain ⟨row, found, settings⟩ := current user hit
        refine ⟨row, ?_, settings⟩
        change after.database.users.find userID = some row
        rw [lapse.database]
        exact found
      · rw [expired] at hit
        cases hit
    · exact Or.inr dirty

variable [DecidableEq ι] {syncer : Syncer} {userID : Int}

section Following

variable (followed : Followed userID pool)
include followed

/-- A step of a worker that stays as it is, for a request that changes neither the
settings of a row nor a cached profile. -/
theorem Followed.quiet
    (keeps : request.overtakes = false) (quiet : request.writes .profiles = false)
    (same : ∀ memory answer, overtaken memory request answer = memory) :
    Followed userID (pool.serve (profileWrites syncer userID) who request next outcome) := by
  refine ⟨?_, ?_⟩
  · exact World.serve_keeps (fun world => userID < world.database.serial) outcome
      followed.issued (Int.lt_of_lt_of_le followed.issued (serial_handle pool.state request))
  · rcases followed.current with current | ⟨other, dirty⟩
    · exact Or.inl (World.serve_keeps (fun world => world.ProfileCurrent userID) outcome current
        (ProfileCurrent.handle current followed.issued keeps quiet))
    · exact Or.inr ⟨other, (Pool.memory_serve_of_unnoted (same _ _) other).trans dirty⟩

theorem Followed.overtake (clean : pool.memory who = none)
    (dirtied : overtaken none request (pool.state.handle request).2 = some owner)
    (others : owner ≠ userID → (pool.state.handle request).1.database.users.find userID =
      pool.state.database.users.find userID) (quiet : request.writes .profiles = false) :
    Followed userID (pool.serve (profileWrites syncer userID) who request next .served) := by
  refine ⟨Int.lt_of_lt_of_le followed.issued (serial_handle pool.state request), ?_⟩
  by_cases own : owner = userID
  · refine Or.inr ⟨who, ?_⟩
    rw [Pool.memory_serve_self, clean]
    exact dirtied.trans (congrArg some own)
  · rcases followed.current with current | ⟨other, dirty⟩
    · refine Or.inl ?_
      intro user cached
      change (pool.state.handle request).1.valkey.users userID = some user at cached
      rw [(frame_handle pool.state request).profiles quiet] at cached
      obtain ⟨row, found, settings⟩ := current user cached
      exact ⟨row, (others own).trans found, settings⟩
    · refine Or.inr ⟨other, ?_⟩
      have different : other ≠ who := by
        rintro rfl
        rw [clean] at dirty
        cases dirty
      rw [Pool.memory_serve_of_ne different]
      exact dirty

theorem Followed.deleteCachedUser
    {next : Unit → Program service Response} :
    Followed userID (pool.serve (profileWrites syncer userID) who (.deleteCachedUser owner)
      next .served) := by
  refine ⟨followed.issued, ?_⟩
  have cached : (pool.state.handle (.deleteCachedUser owner)).1.valkey.users =
      update pool.state.valkey.users owner none := rfl
  by_cases own : owner = userID
  · subst own
    refine Or.inl ?_
    intro user hit
    change (pool.state.handle (.deleteCachedUser owner)).1.valkey.users owner = some user at hit
    rw [cached, update_self] at hit
    cases hit
  · rcases followed.current with current | ⟨other, dirty⟩
    · refine Or.inl ?_
      intro user hit
      change (pool.state.handle (.deleteCachedUser owner)).1.valkey.users userID = some user at hit
      rw [cached, update_of_ne (Ne.symm own)] at hit
      exact current user hit
    · refine Or.inr ⟨other, ?_⟩
      by_cases same : other = who
      · subst same
        rw [Pool.memory_serve_self, dirty]
        exact if_neg (fun equal => own (Option.some.inj equal).symm)
      · rw [Pool.memory_serve_of_ne same]
        exact dirty

theorem Followed.setCachedUser {user : CachedUser}
    {next : Unit → Program service Response}
    (inTime : FillsInTime userID pool (.setCachedUser owner user)) :
    Followed userID (pool.serve (profileWrites syncer userID) who (.setCachedUser owner user)
      next .served) := by
  have kept : ∀ other, (pool.serve (profileWrites syncer userID) who
      (.setCachedUser owner user) next .served).memory other = pool.memory other :=
    Pool.memory_serve_of_unnoted rfl
  have cached : (pool.state.handle (.setCachedUser owner user)).1.valkey.users =
      update pool.state.valkey.users owner (some user) := rfl
  refine ⟨followed.issued, ?_⟩
  by_cases own : owner = userID
  · subst own
    rcases inTime user rfl with describes | ⟨other, dirty⟩
    · refine Or.inl ?_
      intro profile hit
      change (pool.state.handle (.setCachedUser owner user)).1.valkey.users owner =
        some profile at hit
      rw [cached, update_self] at hit
      cases hit
      exact describes
    · exact Or.inr ⟨other, (kept other).trans dirty⟩
  · rcases followed.current with current | ⟨other, dirty⟩
    · refine Or.inl ?_
      intro profile hit
      change (pool.state.handle (.setCachedUser owner user)).1.valkey.users userID =
        some profile at hit
      rw [cached, update_of_ne (Ne.symm own)] at hit
      exact current profile hit
    · exact Or.inr ⟨other, (kept other).trans dirty⟩

theorem Followed.serve (allowed : FollowsUp (pool.job who) (pool.memory who) request)
    (reliable : Reliable (fun _ _ => True) request outcome)
    (inTime : FillsInTime userID pool request) :
    Followed userID (pool.serve (profileWrites syncer userID) who request next outcome) := by
  have served : request.remote = false → outcome = .served := by
    intro onSite
    rw [Reliable, onSite] at reliable
    exact reliable
  have updated : ∀ owner (change : Database.UserChange), owner ≠ userID →
      (pool.state.database.updateUser owner change).users.find userID =
        pool.state.database.users.find userID := by
    intro owner change other
    rw [Database.find_updateUser, if_neg (Ne.symm other)]
  cases request
  case setCalendarID owner calendarID =>
    cases served rfl
    exact followed.overtake (allowed.2 rfl) rfl (updated owner _) rfl
  case updatePreferences owner platforms useDedicated =>
    cases served rfl
    exact followed.overtake (allowed.2 rfl) rfl (updated owner _) rfl
  case upsertUser login =>
    cases served rfl
    refine followed.overtake (allowed.2 rfl) rfl ?_ rfl
    exact fun other => Database.find_upsertUser_other (Ne.symm other)
  case deleteUser owner rejected =>
    cases served rfl
    exact followed.overtake (allowed.2 rfl) rfl
      (fun other => Database.find_deleteUser_other (Ne.symm other)) rfl
  case pruneUsers => exact absurd rfl allowed.1
  case deleteCachedUser owner =>
    cases served rfl
    exact followed.deleteCachedUser
  case setCachedUser owner user =>
    cases served rfl
    exact followed.setCachedUser inTime
  all_goals exact followed.quiet rfl rfl (fun _ _ => rfl)

theorem Followed.start (watched : pool.Watched (profileWrites syncer userID) FollowsUp FollowedUp)
    (idle : pool.Idle who) (activity : Activity) :
    Followed userID (pool.start (profileWrites syncer userID) who activity) := by
  refine ⟨followed.issued, ?_⟩
  rcases followed.current with current | ⟨other, dirty⟩
  · exact Or.inl current
  · have different : other ≠ who := by
      rintro rfl
      obtain ⟨value, done⟩ := idle
      have clean : pool.memory other = none := watched.ended done
      rw [clean] at dirty
      cases dirty
    exact Or.inr ⟨other, (Pool.memory_start_of_ne different).trans dirty⟩

end Following

/-- When no operation is in flight, a cached profile has the settings of its row. -/
theorem cached_profile_current (configured : syncer.valkey = true)
    {first last : Pool environment ι Activity (Option Int) Response}
    (rested : ∀ who, first.Idle who ∧ first.memory who = none)
    (issued : userID < first.state.database.serial)
    (current : first.state.ProfileCurrent userID)
    (execution : Relation.ReflTransGen
      (Pool.Step (profileWrites syncer userID) (fillRules userID ι)) first last)
    (idle : ∀ who, last.Idle who) : last.state.ProfileCurrent userID := by
  have watched : first.Watched (profileWrites syncer userID) FollowsUp FollowedUp := by
    intro who
    obtain ⟨⟨value, done⟩, clean⟩ := rested who
    rw [done, clean]
    exact rfl
  obtain ⟨watchedLast, followed⟩ := Pool.keeps (profileWrites_disciplined configured) execution
    (Followed userID)
    (fun pool who activity kept resting _ holds => holds.start kept resting activity)
    (fun pool who request next outcome kept ready permitted holds =>
      holds.serve (kept.allowed ready) permitted.1 permitted.2)
    (fun pool after lapse holds => holds.lapse lapse) watched ⟨issued, Or.inl current⟩
  rcases followed.current with reached | ⟨who, dirty⟩
  · exact reached
  · obtain ⟨value, done⟩ := idle who
    have clean : last.memory who = none := watchedLast.ended done
    rw [clean] at dirty
    cases dirty

end Interleavings

/-- `Me` reads the row, `SavePreferences` changes it, and `Me` fills the cache with what it has read
before the key is deleted. -/
def overlappingMoves : List (Pool.Move environment Nat Activity) :=
  servedMoves 0 .me 2 ++ servedMoves 1 (.savePreferences (some ["codeforces"]) false) 4 ++
    [.serve 0 .served, .serve 1 .served]

theorem cached_profile_current_after_overlap :
    let last := (newPool (profileWrites cachingSyncer 1) loggedIn).play
      (profileWrites cachingSyncer 1) overlappingMoves
    (∀ who, last.Idle who) ∧ last.state.ProfileCurrent 1 := by
  intro last
  have execution : Relation.ReflTransGen
      (Pool.Step (profileWrites cachingSyncer 1) (fillRules 1 Nat))
      (newPool (profileWrites cachingSyncer 1) loggedIn) last := by
    refine Pool.play_steps _ ⟨trivial, ⟨rfl, ?_⟩, ⟨rfl, ?_⟩, trivial, ⟨rfl, ?_⟩, ⟨rfl, ?_⟩,
      ⟨rfl, ?_⟩, ⟨rfl, ?_⟩, ⟨rfl, ?_⟩, ⟨rfl, ?_⟩, trivial⟩
    · rintro _ ⟨⟩
    · rintro _ ⟨⟩
    · rintro _ ⟨⟩
    · rintro _ ⟨⟩
    · rintro _ ⟨⟩
      exact Or.inl ⟨_, rfl, rfl⟩
    · rintro _ ⟨⟩
    · rintro _ ⟨⟩
      exact Or.inr ⟨1, rfl⟩
    · rintro _ ⟨⟩
  have idle : ∀ who, last.Idle who := by
    intro who
    match who with
    | 0 => exact ⟨_, rfl⟩
    | 1 => exact ⟨_, rfl⟩
    | other + 2 => exact ⟨_, rfl⟩
  refine ⟨idle, cached_profile_current rfl (fun who => ⟨newPool_idle _ _ who, rfl⟩) (by decide) ?_
    execution idle⟩
  rintro user ⟨⟩

/-- `Me` reads the row, `SavePreferences` changes it and deletes the key, and `Me`
fills the cache with what it has read. -/
theorem cached_profile_stale :
    let last := (newPool (profileWrites cachingSyncer 1) loggedIn).play
      (profileWrites cachingSyncer 1)
      (servedMoves 0 .me 2 ++ servedMoves 1 (.savePreferences (some ["codeforces"]) false) 5 ++
        [.serve 0 .served])
    Relation.ReflTransGen (Pool.Step (profileWrites cachingSyncer 1) (anyOutcome Nat _))
        (newPool (profileWrites cachingSyncer 1) loggedIn) last ∧
      (∀ who, last.Idle who) ∧ ¬last.state.ProfileCurrent 1 := by
  intro last
  refine ⟨Pool.play_steps _ ⟨trivial, trivial, trivial, trivial, trivial, trivial, trivial,
    trivial, trivial, trivial, trivial⟩, ?_, ?_⟩
  · intro who
    match who with
    | 0 => exact ⟨_, rfl⟩
    | 1 => exact ⟨_, rfl⟩
    | other + 2 => exact ⟨_, rfl⟩
  · intro current
    obtain ⟨row, found, settings⟩ := current _ rfl
    cases found
    cases settings

end ContestSync
