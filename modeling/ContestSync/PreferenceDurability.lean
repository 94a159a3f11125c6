/-
Acknowledged preferences. `SavePreferences` compares the request with a profile
from the cache, from a replica or from the row, and writes only when they differ.
An answer is backed by the row as long as the profile that was compared has the
preferences of the row when it is read, and the row that is written exists.
-/

import ContestSync.ReplicaReads

namespace ContestSync

open Resumable Program

/-! ### The comparison -/

/-- The row has these preferences, the platforms in any order. -/
def UserRow.Prefers (row : UserRow) (platforms : Option (List String)) (useDedicated : Bool) :
    Prop :=
  row.useDedicated = useDedicated ∧ (row.platforms.getD []).Perm (platforms.getD [])

def World.Prefers (world : World) (userID : Int) (platforms : Option (List String))
    (useDedicated : Bool) : Prop :=
  ∃ row, world.database.users.find userID = some row ∧ row.Prefers platforms useDedicated

variable {requested : Option (List String)} {useDedicated : Bool} {user : CachedUser}

/-- The comparison is exact: it finds no change iff the flags are equal and the
lists are permutations of each other. -/
theorem preferencesChanged_eq_false :
    Handlers.preferencesChanged requested useDedicated user = false ↔
      user.useDedicated = useDedicated ∧ (user.platforms.getD []).Perm (requested.getD []) := by
  unfold Handlers.preferencesChanged
  simp only
  constructor
  · intro unchanged
    split at unchanged
    · cases unchanged
    · rename_i equal
      have sameFlag : useDedicated = user.useDedicated := by
        by_contra different
        exact equal (Or.inr different)
      refine ⟨sameFlag.symm, List.perm_iff_count.mpr ?_⟩
      intro platform
      by_cases listed : platform ∈ user.platforms.getD [] ++ requested.getD []
      · have balanced := List.any_eq_false.mp unchanged platform listed
        have zero : ((user.platforms.getD []).count platform : Int) -
            (requested.getD []).count platform = 0 := by
          simpa using balanced
        omega
      · rw [List.mem_append, not_or] at listed
        rw [List.count_eq_zero.mpr listed.1, List.count_eq_zero.mpr listed.2]
  · rintro ⟨sameFlag, permuted⟩
    rw [if_neg]
    · rw [List.any_eq_false]
      intro platform _
      rw [permuted.count_eq platform]
      simp
    · rintro (lengths | flags)
      · exact lengths permuted.length_eq.symm
      · exact flags sameFlag.symm

/-! ### The request -/

/-- What a request has done so far: nothing, loaded a profile, or updated the row. -/
inductive Saving where
  | unread
  | read (user : CachedUser)
  | updated

def savingAfter (userID : Int) (memory : Saving) (request : Request) (answer : request.Answer) :
    Saving :=
  match request, answer with
  | .updatePreferences _ _ _, true => .updated
  | request, answer =>
    match answeredProfile userID request answer with
    | some user => .read user
    | none => memory

def preferenceSaves (syncer : Syncer) (userID : Int) :
    Workforce service Activity Saving Response :=
  { program := syncer.activity userID
    fresh := fun _ => .unread
    record := fun _ => savingAfter userID }

/-- A request updates the row of its user with what was requested. -/
def SavesRequested (userID : Int) (activity : Activity) (_memory : Saving) : Request → Prop
  | .updatePreferences owner platforms useDedicated =>
    owner = userID ∧ activity = .savePreferences platforms useDedicated
  | _ => True

/-- The row was updated, or the loaded profile had the requested preferences. -/
def Saving.backs (memory : Saving) (requested : Option (List String)) (useDedicated : Bool) :
    Prop :=
  memory = .updated ∨ ∃ user, memory = .read user ∧
    Handlers.preferencesChanged requested useDedicated user = false

def AnswersBacked (requested : Option (List String)) (useDedicated : Bool)
    (response : Response) (memory : Saving) : Prop :=
  ∀ changed, response = .saved (.ok changed) → memory.backs requested useDedicated

variable {request : Request}

abbrev saving (syncer : Syncer) (userID : Int) : Activity → Specification service Saving :=
  (preferenceSaves syncer userID).watch (SavesRequested userID)

section Discipline

variable {syncer : Syncer} {userID : Int} {activity : Activity}

theorem maintains_saving {invariant : Saving → Prop}
    (allowed : ∀ memory, SavesRequested userID activity memory request)
    (kept : ∀ memory answer, invariant memory →
      invariant (savingAfter userID memory request answer)) :
    Maintains (saving syncer userID activity) invariant (ask request) :=
  Workforce.maintains_call (fun memory _ => allowed memory) kept

theorem ensures_answersBacked (requested : Option (List String)) (useDedicated : Bool) :
    Ensures (saving syncer userID (.savePreferences requested useDedicated))
      (AnswersBacked requested useDedicated)
      (syncer.activity userID (.savePreferences requested useDedicated)) .unread := by
  apply Ensures.bind
  apply ensures_ite
  · rintro _ _ ⟨⟩
  · intro _
    apply Ensures.bind
    have loads : Ensures (saving syncer userID (.savePreferences requested useDedicated))
        (fun found memory => ∀ user, found = some user → memory = .read user)
        (loadSyncProfile syncer.valkey userID) .unread := by
      refine ensures_loadSyncProfile_noted (fun _ => True)
        (fun user memory => memory = Saving.read user) ?_
        (fun user => maintains_saving (fun _ => trivial) (fun _ _ kept => kept)) trivial
      rintro _ (rfl | rfl) memory _
      all_goals
        refine ⟨trivial, fun answer => ⟨fun _ => trivial, fun user noted => ?_⟩⟩
        change (match answeredProfile userID _ answer with
          | some user => Saving.read user
          | none => memory) = .read user
        rw [noted]
    refine Ensures.mono ?_ loads
    intro found memory known
    cases found with
    | none => rintro _ ⟨⟩
    | some user =>
      have read := known user rfl
      apply ensures_ite
      · intro _
        refine ⟨⟨rfl, rfl⟩, ?_⟩
        intro updated
        cases updated with
        | false => rintro _ ⟨⟩
        | true =>
          change Ensures _ _ (if syncer.valkey then _ else _) _
          apply ensures_ite
          · exact fun _ => ⟨trivial, fun _ _ _ => Or.inl rfl⟩
          · exact fun _ _ _ => Or.inl rfl
      · intro unchanged changed _
        exact Or.inr ⟨user, read, eq_false_of_ne_true unchanged⟩

end Discipline

/-! ### Interleavings -/

section Interleavings

variable {ι : Type}

/-- The profile that a request finds in the cache or in the row that it reads has the
preferences of the primary's row, and the row that a request updates exists. -/
def PreferencesCurrent (userID : Int) (pool : Pool replicated ι Activity Saving Response)
    (reading : Reading) : Request → Prop
  | .getCachedUser _ => ∀ user, pool.state.valkey.users userID = some user →
      pool.state.Prefers userID user.platforms user.useDedicated
  | .selectUser _ => ∀ row user, pool.state.readUser reading userID = some row →
      scanSyncProfile row = some user → pool.state.Prefers userID user.platforms user.useDedicated
  | .updatePreferences _ _ _ => ∃ row, pool.state.database.users.find userID = some row
  | _ => True

def Activity.isSave : Activity → Bool
  | .savePreferences _ _ => true
  | _ => false

/-- The condition is one on the steps of `SavePreferences` only. -/
def saveRules (userID : Int) (ι : Type) :
    Pool.Rules replicated ι Activity Saving Response :=
  { permits := fun pool who request reading =>
      (pool.job who).isSave = true → PreferencesCurrent userID pool reading request
    disturbs := Lapse }

variable {world : World} {userID : Int} {pool : Pool replicated ι Activity Saving Response}
  {reading : Reading} {who : ι}

theorem prefers_updatePreferences {row : UserRow}
    (stored : world.database.users.find userID = some row) (platforms : Option (List String))
    (useDedicated : Bool) :
    (world.handle (.updatePreferences userID platforms useDedicated)).1.Prefers userID platforms
      useDedicated := by
  refine ⟨(Database.updatePreferences platforms useDedicated).apply row, ?_, ?_⟩
  · change (world.database.updateUser userID _).users.find userID = _
    rw [Database.find_updateUser, if_pos rfl, stored]
    rfl
  · cases useDedicated with
    | true => exact ⟨rfl, List.Perm.refl _⟩
    | false => exact ⟨rfl, List.Perm.refl _⟩

theorem prefers_of_answered (current : PreferencesCurrent userID pool reading request)
    (answered : answeredProfile userID request (pool.state.read request reading).2 = some user) :
    pool.state.Prefers userID user.platforms user.useDedicated := by
  rcases answeredProfile_read answered with ⟨rfl, hit⟩ | ⟨rfl, row, found, scanned⟩
  · exact current user hit
  · exact current row user found scanned

theorem World.Prefers.unchanged (prefers : world.Prefers userID user.platforms user.useDedicated)
    (unchanged : Handlers.preferencesChanged requested useDedicated user = false) :
    world.Prefers userID requested useDedicated := by
  obtain ⟨sameFlag, permuted⟩ := preferencesChanged_eq_false.mp unchanged
  obtain ⟨row, found, flag, platforms⟩ := prefers
  exact ⟨row, found, flag.trans sameFlag, platforms.trans permuted⟩

variable [DecidableEq ι] {syncer : Syncer} {userID : Int}

/-- What a step of the request adds to its memory is backed by the row before the
step or after it. -/
theorem backs_serve {next : request.Answer → Program service Response}
    (assigned : pool.job who = .savePreferences requested useDedicated)
    (allowed : SavesRequested userID (pool.job who) (pool.memory who) request)
    (current : PreferencesCurrent userID pool reading request)
    (backed : ((pool.serve (preferenceSaves syncer userID) who request next reading).memory
      who).backs requested useDedicated) :
    (pool.memory who).backs requested useDedicated ∨
      pool.state.Prefers userID requested useDedicated ∨
      (pool.serve (preferenceSaves syncer userID) who request next reading).state.Prefers userID
        requested useDedicated := by
  rw [Pool.memory_serve_self] at backed
  change (savingAfter userID (pool.memory who) request
    (pool.state.read request reading).2).backs requested useDedicated at backed
  have loads : savingAfter userID (pool.memory who) request (pool.state.read request reading).2 =
      (match answeredProfile userID request (pool.state.read request reading).2 with
        | some user => Saving.read user
        | none => pool.memory who) →
      (pool.memory who).backs requested useDedicated ∨
        pool.state.Prefers userID requested useDedicated := by
    intro loaded
    rw [loaded] at backed
    cases answered : answeredProfile userID request (pool.state.read request reading).2 with
    | none =>
      rw [answered] at backed
      exact Or.inl backed
    | some user =>
      rw [answered] at backed
      rcases backed with impossible | ⟨other, same, unchanged⟩
      · cases impossible
      · cases same
        exact Or.inr ((prefers_of_answered current answered).unchanged unchanged)
  cases request
  case updatePreferences owner platforms dedicated =>
    obtain ⟨rfl, same⟩ := allowed
    rw [assigned] at same
    cases same
    obtain ⟨row, stored⟩ := current
    obtain ⟨outcome, replica⟩ := reading
    cases outcome with
    | served =>
      exact Or.inr (Or.inr (prefers_updatePreferences stored requested useDedicated))
    | lost error => exact Or.inl backed
    | late error => exact Or.inl backed
  all_goals exact (loads rfl).imp_right Or.inl

/-- Along the rest of the request: what backs its answer was the case in some state
of the run. -/
theorem prefers_along {last : Pool replicated ι Activity Saving Response}
    {states : List (Pool replicated ι Activity Saving Response)}
    {changed : Bool} {earlier : Prop} (trace : Trace (fun before after =>
      Pool.Step (preferenceSaves syncer userID) (saveRules userID ι) before after ∧
        ¬before.Idle who) pool states last)
    (assigned : pool.job who = .savePreferences requested useDedicated)
    (watched : Ensures (saving syncer userID (.savePreferences requested useDedicated))
      (AnswersBacked requested useDedicated)
      (pool.rest who) (pool.memory who))
    (backed : (pool.memory who).backs requested useDedicated → earlier)
    (answered : last.rest who = .done (.saved (.ok changed))) :
    earlier ∨ ∃ middle ∈ states, middle.state.Prefers userID requested useDedicated := by
  induction trace generalizing earlier with
  | stay state =>
    rw [answered] at watched
    exact Or.inl (backed (watched changed rfl))
  | @move pool next last states moved rest ih =>
    obtain ⟨step, active⟩ := moved
    -- Nothing that others do changes what the request has seen.
    have others : next.job who = pool.job who → next.rest who = pool.rest who →
        next.memory who = pool.memory who →
        earlier ∨ ∃ middle ∈ pool :: states,
          middle.state.Prefers userID requested useDedicated := by
      intro sameJob sameRest sameMemory
      have later := ih (sameJob.trans assigned) (by rw [sameRest, sameMemory]; exact watched)
        (by rw [sameMemory]; exact backed) answered
      rcases later with found | ⟨middle, member, prefers⟩
      · exact Or.inl found
      · exact Or.inr ⟨middle, List.mem_cons_of_mem _ member, prefers⟩
    cases step with
    | start other activity idle _ =>
      have different : who ≠ other := by
        rintro rfl
        exact active idle
      exact others (Pool.job_start_of_ne different) (Pool.rest_start_of_ne different)
        (Pool.memory_start_of_ne different)
    | disturbed after _ => exact others rfl rfl rfl
    | serve other request resume reading ready permitted =>
      by_cases same : who = other
      · subst same
        rw [ready] at watched
        have allowed : SavesRequested userID (pool.job who) (pool.memory who) request := by
          rw [assigned]
          exact watched.1
        have current := permitted (by rw [assigned]; rfl)
        have continued : Ensures (saving syncer userID (.savePreferences requested useDedicated))
            (AnswersBacked requested useDedicated)
            ((pool.serve (preferenceSaves syncer userID) who request resume reading).rest who)
            ((pool.serve (preferenceSaves syncer userID) who request resume
              reading).memory who) := by
          rw [Pool.memory_serve_self, Pool.rest_serve_self, assigned]
          exact watched.2 _
        have later := ih assigned continued
          (fun backedLater => (backs_serve assigned allowed current backedLater).imp_left
            backed) answered
        rcases later with (found | before | after) | ⟨middle, member, prefers⟩
        · exact Or.inl found
        · exact Or.inr ⟨pool, List.mem_cons_self, before⟩
        · exact Or.inr ⟨_, List.mem_cons_of_mem _ rest.first_mem, after⟩
        · exact Or.inr ⟨middle, List.mem_cons_of_mem _ member, prefers⟩
      · exact others rfl (Pool.rest_serve_of_ne same) (Pool.memory_serve_of_ne same)

/-- Between the start of a request and its answer ok, the row held what was
requested. -/
theorem saved_preferences_held {pool last : Pool replicated ι Activity Saving Response}
    {states : List (Pool replicated ι Activity Saving Response)} {who : ι}
    {requested : Option (List String)} {useDedicated changed : Bool}
    (trace : Trace (fun before after =>
      Pool.Step (preferenceSaves syncer userID) (saveRules userID ι) before after ∧
        ¬before.Idle who)
      (pool.start (preferenceSaves syncer userID) who (.savePreferences requested useDedicated))
      states last)
    (answered : last.rest who = .done (.saved (.ok changed))) :
    ∃ middle ∈ states, middle.state.Prefers userID requested useDedicated := by
  have watched : Ensures (saving syncer userID (.savePreferences requested useDedicated))
      (AnswersBacked requested useDedicated)
      ((pool.start (preferenceSaves syncer userID) who
        (.savePreferences requested useDedicated)).rest who)
      ((pool.start (preferenceSaves syncer userID) who
        (.savePreferences requested useDedicated)).memory who) := by
    rw [Pool.memory_start_self, Pool.rest_start_self]
    exact ensures_answersBacked requested useDedicated
  have unbacked : ((pool.start (preferenceSaves syncer userID) who
      (.savePreferences requested useDedicated)).memory who).backs requested useDedicated →
      False := by
    rw [Pool.memory_start_self]
    rintro (impossible | ⟨user, impossible, _⟩)
    · cases impossible
    · cases impossible
  exact (prefers_along trace Pool.job_start_self watched unbacked answered).resolve_left id

end Interleavings

/-- A request for the preferences that the row already has; the replica that it asks has not
seen the last synchronization. -/
theorem saved_preferences_held_unchanged :
    let saves := preferenceSaves cachingSyncer 1
    let world := replay cachingSyncer [.syncUser 1] loggedIn
    let started := (replicatedPool saves { world with valkey := .empty }).start saves 0
      (.savePreferences (some []) false)
    let missed := started.advance saves (.serve 0 ⟨.served, none⟩)
    let selected := missed.advance saves (.serve 0 ⟨.served, some loggedIn.database⟩)
    let last := selected.advance saves (.serve 0 ⟨.served, none⟩)
    last.rest 0 = .done (.saved (.ok false)) ∧
      ∃ middle ∈ [started, missed, selected, last], middle.state.Prefers 1 (some []) false := by
  intro saves world started missed selected last
  have first : Pool.Step saves (saveRules 1 Nat) started missed := by
    refine Pool.step_advance_serve rfl ?_
    rintro _ user ⟨⟩
  have second : Pool.Step saves (saveRules 1 Nat) missed selected := by
    refine Pool.step_advance_serve rfl ?_
    rintro _ row user ⟨⟩ ⟨⟩
    exact ⟨_, rfl, rfl, List.Perm.refl _⟩
  have third : Pool.Step saves (saveRules 1 Nat) selected last :=
    Pool.step_advance_serve rfl (fun _ => trivial)
  have answered : last.rest 0 = .done (.saved (.ok false)) := rfl
  exact ⟨answered, saved_preferences_held (.move ⟨first, Pool.not_idle_of_call rfl⟩
    (.move ⟨second, Pool.not_idle_of_call rfl⟩ (.move ⟨third, Pool.not_idle_of_call rfl⟩
      (.stay _)))) answered⟩

/-- `Me` has put the preferences back into the cache that another request has just
replaced. -/
def racedPool : Pool replicated Nat Activity Saving Response :=
  (replicatedPool (preferenceSaves cachingSyncer 1) loggedIn).play (preferenceSaves cachingSyncer 1)
    (primaryMoves 0 .me 2 ++ primaryMoves 1 (.savePreferences (some ["codeforces"]) false) 5 ++
      [.serve 0 ⟨.served, none⟩])

def unneededSave : Pool replicated Nat Activity Saving Response :=
  racedPool.start (preferenceSaves cachingSyncer 1) 2 (.savePreferences (some []) false)

def unneededSaved : Pool replicated Nat Activity Saving Response :=
  unneededSave.advance (preferenceSaves cachingSyncer 1) (.serve 2 ⟨.served, none⟩)

/-- A request for the old preferences finds nothing to do. -/
theorem acknowledged_preferences_lost :
    Relation.ReflTransGen (Pool.Step (preferenceSaves cachingSyncer 1) (anyReading Nat _))
        (replicatedPool (preferenceSaves cachingSyncer 1) loggedIn) racedPool ∧
      Trace (fun before after =>
          Pool.Step (preferenceSaves cachingSyncer 1) (anyReading Nat _) before after ∧
            ¬before.Idle 2)
        unneededSave [unneededSave, unneededSaved] unneededSaved ∧
      unneededSaved.rest 2 = .done (.saved (.ok false)) ∧
      ∀ middle ∈ [unneededSave, unneededSaved], ¬middle.state.Prefers 1 (some []) false := by
  refine ⟨Pool.play_steps _ ⟨trivial, trivial, trivial, trivial, trivial, trivial, trivial,
    trivial, trivial, trivial, trivial⟩, ?_, rfl, ?_⟩
  · exact .move ⟨Pool.step_advance_serve rfl trivial, Pool.not_idle_of_call rfl⟩ (.stay _)
  · have chosen : ∀ pool ∈ [unneededSave, unneededSaved],
        (pool.state.database.users.find 1).map UserRow.platforms = some (some ["codeforces"]) := by
      intro pool member
      rcases List.mem_pair.mp member with same | same
      · rw [same]
        rfl
      · rw [same]
        rfl
    rintro middle member ⟨row, found, _, platforms⟩
    have named := chosen middle member
    rw [found, Option.map_some, Option.some.injEq] at named
    rw [named] at platforms
    exact absurd platforms.length_eq (by decide)

end ContestSync
