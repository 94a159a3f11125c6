/-
The token an account is deleted for. `SyncUser` keeps the token of the profile it
has loaded and deletes the account by its id when Google rejects that token; a
login may have stored another token in the meantime, and the profile may have
come from a cached copy or from a replica that was already out of date.
-/

import ContestSync.ReplicaReads

namespace ContestSync

open Resumable Program Relation

/-- Each run of `SyncUser` remembers the profile it has loaded. -/
def profileLoads (syncer : Syncer) (userID : Int) :
    Workforce service Activity (Option CachedUser) Response :=
  { program := syncer.activity userID
    fresh := fun _ => none
    record := fun activity memory request answer =>
      if activity.isSync then (answeredProfile userID request answer).or memory else memory }

/-- An account is deleted for a token only if the loaded profile has that token. -/
def RejectsLoaded (syncer : Syncer) (userID : Int) (_activity : Activity)
    (memory : Option CachedUser) : Request → Prop
  | .deleteUser owner (some token) => owner = userID ∧
      ∃ user, memory = some user ∧ syncer.decryptToken user.refreshToken = some token
  | _ => True

abbrev rejecting (syncer : Syncer) (userID : Int) :
    Activity → Specification service (Option CachedUser) :=
  (profileLoads syncer userID).watch (RejectsLoaded syncer userID)

variable {request : Request} {user : CachedUser}

section Discipline

variable {syncer : Syncer} {userID : Int} {activity : Activity}

theorem maintains_loaded (silent : ∀ answer, answeredProfile userID request answer = none)
    (allowed : RejectsLoaded syncer userID activity (some user) request) :
    Maintains (rejecting syncer userID activity)
      (fun memory => memory = some user) (ask request) := by
  apply Workforce.maintains_call
  · rintro _ rfl
    exact allowed
  · rintro _ answer rfl
    change (if activity.isSync then (answeredProfile userID request answer).or (some user)
      else some user) = some user
    rw [silent answer]
    split <;> rfl

theorem maintains_loaded_plain (plain : request.profiled = false) :
    Maintains (rejecting syncer userID activity)
      (fun memory => memory = some user) (ask request) := by
  cases request
  case getCachedUser => cases plain
  case selectUser => cases plain
  case deleteUser => cases plain
  all_goals exact maintains_loaded (fun _ => rfl) trivial

theorem maintains_unrestricted (other : request.rejects = false) :
    Maintains (rejecting syncer userID activity) (fun _ => True) (ask request) := by
  apply Workforce.maintains_call
  · intro memory _
    cases request
    case deleteUser owner rejected =>
      cases rejected with
      | none => trivial
      | some token => cases other
    all_goals trivial
  · exact fun _ _ _ => trivial

theorem maintains_loaded_syncProfile (process : Nat) (user : CachedUser) :
    Maintains (rejecting syncer userID activity) (fun memory => memory = some user)
      ({ syncer with process := process }.syncProfile userID user) := by
  have drops : ∀ token error, syncer.decryptToken user.refreshToken = some token →
      Maintains (rejecting syncer userID activity) (fun memory => memory = some user)
        ({ syncer with process := process }.handleSyncError userID token error) :=
    fun token error decrypts => Syncer.maintains_handleSyncError error
      (maintains_loaded (fun _ => rfl) ⟨rfl, user, rfl, decrypts⟩)
      (maintains_loaded (fun _ => rfl) trivial)
  apply Syncer.maintains_syncProfile
  · exact fun token => maintains_loaded (fun _ => rfl) trivial
  · exact fun token timezone decrypts => Syncer.maintains_targetCalendar
      (maintains_loaded (fun _ => rfl) trivial)
      (fun _ => Syncer.maintains_adoptCalendar (maintains_loaded (fun _ => rfl) trivial)
        (maintains_loaded (fun _ => rfl) trivial))
      (fun error => drops token error decrypts)
  · intro token calendarID timezone decrypts
    exact Syncer.maintains_syncCalendar_each (fun _ _ plain _ => maintains_loaded_plain plain)
      (fun error => drops token error decrypts)
  · exact drops

theorem ensures_rejectsLoaded_syncUser (process : Nat) (memory : Option CachedUser) :
    Ensures (rejecting syncer userID (.syncUser process)) (fun _ _ => True)
      ({ syncer with process := process }.syncUser userID) memory := by
  refine Syncer.ensures_syncUser (fun _ (_ : True) => trivial)
    (maintains_unrestricted rfl) (maintains_unrestricted rfl) (maintains_unrestricted rfl)
    (maintains_unrestricted rfl) ?_ trivial
  intro ready _
  apply Ensures.bind
  have loads : Ensures (rejecting syncer userID (.syncUser process))
      (fun found memory => ∀ user, found = some user → memory = some user)
      ({ syncer with process := process }.loadProfile userID) ready := by
    refine ensures_loadSyncProfile_noted (fun _ => True) (fun user memory => memory = some user) ?_
      (fun user => maintains_loaded (fun _ => rfl) trivial) trivial
    rintro _ (rfl | rfl) state _
    all_goals
      refine ⟨trivial, fun answer => ⟨fun _ => trivial, fun user noted => ?_⟩⟩
      change (answeredProfile userID _ answer).or state = some user
      rw [noted, Option.some_or]
  refine Ensures.mono ?_ loads
  intro found later known
  cases found with
  | none => trivial
  | some user =>
    have body : Ensures (rejecting syncer userID (.syncUser process))
        (fun _ memory => memory = some user)
        ({ syncer with process := process }.syncLoaded userID user) later :=
      Syncer.ensures_syncLoaded (maintains_loaded (fun _ => rfl) trivial)
        (maintains_loaded_syncProfile process user)
        (fun _ => maintains_loaded (fun _ => rfl) trivial)
        (maintains_loaded (fun _ => rfl) trivial) (known user rfl)
    exact body.mono (fun _ _ _ => trivial)

theorem profileLoads_disciplined (syncer : Syncer) (userID : Int) :
    (profileLoads syncer userID).Disciplined (RejectsLoaded syncer userID) (fun _ _ _ => True) := by
  intro activity
  cases sync : activity.isSync with
  | false =>
    exact Syncer.maintains_activity sync (fun _ other _ => maintains_unrestricted other) _ trivial
  | true =>
    cases activity
    case syncUser process =>
      apply Ensures.bind
      exact (ensures_rejectsLoaded_syncUser process none).mono (fun _ _ _ => trivial)
    all_goals cases sync

end Discipline

/-! ### The token in force -/

/-- The stored token, if there is a row, opens what the token of the profile does. -/
def World.InForce (world : World) (syncer : Syncer) (userID : Int) (user : CachedUser) : Prop :=
  ∀ row, world.database.users.find userID = some row →
    row.refreshToken.bind syncer.decryptToken = syncer.decryptToken user.refreshToken

theorem effect_refreshToken {now : Timestamp} {row after : UserRow}
    (changed : request.effect now row = some after) :
    after.refreshToken = row.refreshToken ∨
      ∃ login, request = .upsertUser login ∧ row.googleID = login.googleID ∧
        login.refreshToken ≠ "" ∧ after.refreshToken = some login.refreshToken := by
  cases request
  case upsertUser login =>
    have same := Option.some.inj changed
    subst same
    by_cases own : row.googleID = login.googleID
    · rw [if_pos own]
      by_cases empty : login.refreshToken = ""
      · exact Or.inl (if_neg (not_not.mpr empty))
      · exact Or.inr ⟨login, rfl, own, empty, if_pos empty⟩
    · rw [if_neg own]
      exact Or.inl rfl
  case updatePreferences owner platforms useDedicated =>
    have same := Option.some.inj changed
    subst same
    refine Or.inl ?_
    split
    · cases useDedicated <;> rfl
    · rfl
  case deleteUser owner rejected =>
    change (if row.id = owner then none else some row) = some after at changed
    split at changed
    · cases changed
    · cases changed
      exact Or.inl rfl
  case pruneUsers =>
    change (if _ then none else some row) = some after at changed
    split at changed
    · cases changed
    · cases changed
      exact Or.inl rfl
  all_goals
    have same := Option.some.inj changed
    subst same
    refine Or.inl ?_
    first | rfl | (split <;> rfl)

theorem World.InForce.handle {world : World} {syncer : Syncer} {userID : Int}
    (inForce : world.InForce syncer userID user) (issued : userID < world.database.serial)
    (logins : ∀ login row, request = .upsertUser login → login.refreshToken ≠ "" →
      world.database.users.find userID = some row → row.googleID = login.googleID →
      syncer.decryptToken login.refreshToken = syncer.decryptToken user.refreshToken) :
    (world.handle request).1.InForce syncer userID user := by
  intro after stored
  rw [find_handle world request issued] at stored
  obtain ⟨row, found, changed⟩ := Option.bind_eq_some_iff.mp stored
  rcases effect_refreshToken changed with same | ⟨login, called, own, present, token⟩
  · rw [same]
    exact inForce row found
  · rw [token]
    exact logins login row called present found own

/-! ### Interleavings -/

section Interleavings

variable {ι : Type}

/-- A run finds the stored token in the cache or in the row that it reads, and a login
replaces the token only by one that the runs in progress work with. -/
def TokenKept (syncer : Syncer) (userID : Int)
    (pool : Pool replicated ι Activity (Option CachedUser) Response) (who : ι)
    (reading : Reading) : Request → Prop
  | .getCachedUser _ => (pool.job who).isSync = true →
      ∀ user, pool.state.valkey.users userID = some user → pool.state.InForce syncer userID user
  | .selectUser _ => (pool.job who).isSync = true →
      ∀ row user, pool.state.readUser reading userID = some row →
        scanSyncProfile row = some user → pool.state.InForce syncer userID user
  | .upsertUser login => login.refreshToken ≠ "" →
      ∀ row, pool.state.database.users.find userID = some row → row.googleID = login.googleID →
      ∀ other user, ¬pool.Idle other → pool.memory other = some user →
        syncer.decryptToken login.refreshToken = syncer.decryptToken user.refreshToken
  | _ => True

def tokenRules (syncer : Syncer) (userID : Int) (ι : Type) :
    Pool.Rules replicated ι Activity (Option CachedUser) Response :=
  { permits := fun pool who request reading => TokenKept syncer userID pool who reading request
    disturbs := Lapse }

/-- Every run in progress works with the token in force. -/
structure TokensInForce (syncer : Syncer) (userID : Int)
    (pool : Pool replicated ι Activity (Option CachedUser) Response) : Prop where
  issued : userID < pool.state.database.serial
  loaded : ∀ who user, ¬pool.Idle who → pool.memory who = some user →
    pool.state.InForce syncer userID user

variable [DecidableEq ι] {syncer : Syncer} {userID : Int}
  {pool : Pool replicated ι Activity (Option CachedUser) Response}

theorem TokensInForce.start (inForce : TokensInForce syncer userID pool) (who : ι)
    (activity : Activity) :
    TokensInForce syncer userID (pool.start (profileLoads syncer userID) who activity) := by
  refine ⟨inForce.issued, ?_⟩
  intro other user active remembered
  by_cases same : other = who
  · subst same
    rw [Pool.memory_start_self] at remembered
    cases remembered
  · rw [Pool.memory_start_of_ne same] at remembered
    rw [Pool.idle_start_of_ne same] at active
    exact inForce.loaded other user active remembered

theorem TokensInForce.serve (inForce : TokensInForce syncer userID pool) {who : ι}
    {next : request.Answer → Program service Response} (ready : pool.rest who = .call request next)
    {reading : Reading} (permitted : TokenKept syncer userID pool who reading request) :
    TokensInForce syncer userID
      (pool.serve (profileLoads syncer userID) who request next reading) := by
  have active := Pool.not_idle_of_call ready
  -- A worker that had loaded a profile before.
  have carried : ∀ other user, ¬pool.Idle other → pool.memory other = some user →
      (pool.state.read request reading).1.InForce syncer userID user := by
    intro other user busy remembered
    have before := inForce.loaded other user busy remembered
    apply World.serve_keeps (fun world => world.InForce syncer userID user) reading.outcome before
    apply before.handle inForce.issued
    rintro login row rfl present found own
    exact permitted present row found own other user busy remembered
  refine ⟨?_, ?_⟩
  · exact World.serve_keeps (fun world => userID < world.database.serial) reading.outcome
      inForce.issued (Int.lt_of_lt_of_le inForce.issued (serial_handle pool.state request))
  · intro other user busy remembered
    by_cases same : other = who
    · subst same
      rw [Pool.memory_serve_self] at remembered
      change (if (pool.job other).isSync then (answeredProfile userID request
        (pool.state.read request reading).2).or (pool.memory other) else pool.memory other) =
          some user at remembered
      split at remembered
      · rename_i sync
        rcases Option.or_eq_some_iff.mp remembered with answered | ⟨_, kept⟩
        · have read : pool.state.InForce syncer userID user ∧ request.parts = [] := by
            rcases answeredProfile_read answered with ⟨rfl, hit⟩ | ⟨rfl, row, found, scanned⟩
            · exact ⟨permitted sync user hit, rfl⟩
            · exact ⟨permitted sync row user found scanned, rfl⟩
          apply World.serve_keeps (fun world => world.InForce syncer userID user) reading.outcome
            read.1
          intro row stored
          have frame := frame_handle pool.state request
          rw [frame.users (by rw [Request.writes, read.2]; rfl)] at stored
          exact read.1 row stored
        · exact carried other user active kept
      · exact carried other user active remembered
    · rw [Pool.memory_serve_of_ne same] at remembered
      rw [Pool.idle_serve_of_ne same] at busy
      exact carried other user busy remembered

/-- When an account is about to be deleted for a rejected token, the token is the
one stored in its row. -/
theorem rejected_token_in_force
    {first last : Pool replicated ι Activity (Option CachedUser) Response}
    (idle : ∀ who, first.Idle who) (issued : userID < first.state.database.serial)
    (execution : ReflTransGen
      (Pool.Step (profileLoads syncer userID) (tokenRules syncer userID ι)) first last) {who : ι}
    {owner : Int} {token : String} {next : Bool → Program service Response} {row : UserRow}
    (deleting : last.rest who = .call (.deleteUser owner (some token)) next)
    (stored : last.state.database.users.find owner = some row) :
    row.refreshToken.bind syncer.decryptToken = some token := by
  have initially : TokensInForce syncer userID first :=
    ⟨issued, fun worker _ active _ => absurd (idle worker) active⟩
  obtain ⟨watchedLast, inForce⟩ := Pool.keeps (profileLoads_disciplined syncer userID) execution
    (TokensInForce syncer userID)
    (fun pool worker activity _ _ _ holds => holds.start worker activity)
    (fun pool worker request next reading _ ready permitted holds => holds.serve ready permitted)
    (fun pool after lapse holds => by
      refine ⟨?_, ?_⟩
      · change userID < after.database.serial
        rw [lapse.database]
        exact holds.issued
      · intro worker user active remembered
        unfold World.InForce
        rw [lapse.database]
        exact holds.loaded worker user active remembered)
    (Pool.watched_of_idle idle) initially
  obtain ⟨rfl, user, remembered, decrypts⟩ := watchedLast.allowed deleting
  rw [inForce.loaded who user (Pool.not_idle_of_call deleting) remembered row stored, decrypts]

end Interleavings

def renewedLogin : Login :=
  { sampleLogin with refreshToken := "renewed" }

/-- The run loads the profile with the first token and waits for its first call
to Google; the replica has not seen that the user has selected a platform. -/
def untilPrimary : List (Pool.Move replicated Nat Activity) :=
  primaryMoves 0 (.syncUser 0) 2 ++
    [.serve 0 ⟨.served, some loggedIn.database⟩, .serve 0 ⟨.served, none⟩, .serve 0 ⟨.served, none⟩]

/-- Without another login in between, the rejected token is the stored one. -/
theorem rejected_token_in_force_first :
    ∃ last next row, ReflTransGen
        (Pool.Step (profileLoads cachingSyncer 1) (tokenRules cachingSyncer 1 Nat))
        (replicatedPool (profileLoads cachingSyncer 1) announcedRound) last ∧
      last.rest 0 = .call (.deleteUser 1 (some "token")) next ∧
      last.state.database.users.find 1 = some row ∧
      row.refreshToken.bind cachingSyncer.decryptToken = some "token" := by
  let last := (replicatedPool (profileLoads cachingSyncer 1) announcedRound).play
    (profileLoads cachingSyncer 1) (untilPrimary ++ [.serve 0 ⟨.lost .invalidGrant, none⟩])
  have execution : ReflTransGen
      (Pool.Step (profileLoads cachingSyncer 1) (tokenRules cachingSyncer 1 Nat))
      (replicatedPool (profileLoads cachingSyncer 1) announcedRound) last := by
    refine Pool.play_steps _ ?_
    refine ⟨trivial, trivial, ?_, ?_, trivial, trivial, trivial, trivial⟩
    · intro _ user cached
      cases cached
    · rintro _ row user found scanned stored kept
      cases found
      cases scanned
      cases kept
      rfl
  obtain ⟨next, deleting⟩ : ∃ next, last.rest 0 = .call (.deleteUser 1 (some "token")) next :=
    ⟨_, rfl⟩
  have present : (last.state.database.users.find 1).isSome = true := by decide +kernel
  obtain ⟨row, stored⟩ := Option.isSome_iff_exists.mp present
  exact ⟨last, next, row, execution, deleting, stored,
    rejected_token_in_force (replicatedPool_idle _ _) (by decide) execution deleting stored⟩

/-- The user logs in again while a run waits for Google, and the account with the
new token is deleted for the old one. -/
theorem rejected_token_replaced :
    ∃ last next row, ReflTransGen (Pool.Step (profileLoads cachingSyncer 1) (anyReading Nat _))
        (replicatedPool (profileLoads cachingSyncer 1) loggedIn) last ∧
      last.rest 0 = .call (.deleteUser 1 (some "token")) next ∧
      last.state.database.users.find 1 = some row ∧
      row.refreshToken.bind cachingSyncer.decryptToken = some "renewed" := by
  have execution : ReflTransGen (Pool.Step (profileLoads cachingSyncer 1) (anyReading Nat _))
      (replicatedPool (profileLoads cachingSyncer 1) loggedIn)
      ((replicatedPool (profileLoads cachingSyncer 1) loggedIn).play (profileLoads cachingSyncer 1)
        (primaryMoves 0 (.syncUser 0) 5 ++ primaryMoves 1 (.googleCallback renewedLogin) 2 ++
          [.serve 0 ⟨.lost .invalidGrant, none⟩])) :=
    Pool.play_steps _ ⟨trivial, trivial, trivial, trivial, trivial, trivial, trivial, trivial,
      trivial, trivial, trivial⟩
  exact ⟨_, _, _, execution, rfl, rfl, rfl⟩

end ContestSync
