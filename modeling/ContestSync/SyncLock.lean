/-
The lock of `SyncUser` in Valkey: `SETNX lock:sync:<id>` with an expiry of five
minutes before a run, an unconditional `DEL` after it. The value of the key names
nobody, so a run that outlives its key deletes whatever key it finds. While every
run ends before its own key has expired, the key that is there is the one of the
run that is inside.
-/

import ContestSync.ProfileTraffic

namespace ContestSync

open Resumable Program Function Relation

/-! ### Keys and runs -/

/-- The keys are told apart by a number that the program never sees. -/
structure LockKey where
  number : Nat
  setAt : Timestamp
deriving DecidableEq, Repr

/-- `5*time.Minute`. -/
def lockTTL : Timestamp := 5 * 60 * 1000000

def LockKey.Expired (key : LockKey) (now : Timestamp) : Prop :=
  key.setAt + lockTTL ≤ now

instance (key : LockKey) (now : Timestamp) : Decidable (key.Expired now) :=
  inferInstanceAs (Decidable (_ ≤ _))

theorem LockKey.not_expired_new (number : Nat) (now : Timestamp) :
    ¬LockKey.Expired ⟨number, now⟩ now :=
  Int.not_le.mpr (Int.lt_add_of_pos_right now (by decide))

/-- Whether a run is inside: its `SETNX` has succeeded and its `DEL` has not been
sent yet. -/
def insideAfter (inside : Bool) (request : Request) (answer : request.Answer) : Bool :=
  match request, answer with
  | .lockKey _, some true => true
  | .unlockKey _, _ => false
  | _, _ => inside

def lockRuns (syncer : Syncer) (userID : Int) : Workforce service Activity Bool Response :=
  { program := syncer.activity userID
    fresh := fun _ => false
    record := fun _ => insideAfter }

/-- The key is taken from outside and released from inside. -/
def LocksInTurn (userID : Int) (_activity : Activity) (inside : Bool) : Request → Prop
  | .lockKey owner => owner = userID ∧ inside = false
  | .unlockKey owner => owner = userID ∧ inside = true
  | _ => True

def EndsOutside (_activity : Activity) (_response : Response) (inside : Bool) : Prop :=
  inside = false

section Discipline

variable {syncer : Syncer} {userID : Int} {activity : Activity} {inside : Bool} {request : Request}

theorem insideAfter_other (answer : request.Answer)
    (other : request.locking = false) : insideAfter inside request answer = inside := by
  cases request <;> first | rfl | cases other

theorem maintains_inside (other : request.locking = false) :
    Maintains ((lockRuns syncer userID).watch (LocksInTurn userID) activity)
      (fun memory => memory = inside) (ask request) := by
  apply Workforce.maintains_call
  · intro _ _
    cases request
    case lockKey => cases other
    case unlockKey => cases other
    all_goals trivial
  · rintro _ answer rfl
    exact insideAfter_other answer other

theorem ensures_endsOutside_syncUser (process : Nat) :
    Ensures ((lockRuns syncer userID).watch (LocksInTurn userID) activity)
      (fun _ inside => inside = false)
      ({ syncer with process := process }.syncUser userID) false := by
  have locked : ∀ inside, Maintains ((lockRuns syncer userID).watch (LocksInTurn userID) activity)
      (fun memory => memory = inside) ({ syncer with process := process }.syncLocked userID) :=
    fun inside => Syncer.maintains_syncLocked (fun _ _ other => maintains_inside other)
  apply ensures_ite
  · intro _
    apply Ensures.bind
    refine ⟨⟨rfl, rfl⟩, ?_⟩
    intro answer
    match answer with
    | none => exact rfl
    | some false => exact rfl
    | some true =>
      change Ensures _ _ ({ syncer with process := process }.syncLocked userID >>= _) true
      refine (locked true true rfl).then ?_
      rintro result _ rfl
      exact ⟨⟨rfl, rfl⟩, fun _ => rfl⟩
  · intro _
    apply Ensures.bind
    refine ⟨trivial, ?_⟩
    intro free
    apply ensures_ite
    · intro _
      refine (locked false _ rfl).then ?_
      rintro result _ rfl
      exact ⟨trivial, fun _ => rfl⟩
    · exact fun _ => rfl

theorem lockRuns_disciplined :
    (lockRuns syncer userID).Disciplined (LocksInTurn userID) EndsOutside := by
  intro activity
  cases sync : activity.isSync with
  | false =>
    exact Syncer.maintains_activity sync (fun _ _ other => maintains_inside other) _ rfl
  | true =>
    cases activity
    case syncUser process =>
      refine (ensures_endsOutside_syncUser process).then ?_
      exact fun _ _ outside => outside
    all_goals cases sync

end Discipline

/-! ### The key over time -/

/-- `present` is the key that Valkey holds now, `held` the key that was set by the
run of a worker, as long as that run goes on. -/
structure LockState (ι : Type) where
  pool : Pool environment ι Activity Bool Response
  present : Option LockKey
  held : ι → Option LockKey
  keys : Nat

namespace LockState

variable {ι : Type}

abbrev world (state : LockState ι) : World :=
  state.pool.state

/-- The key after the world has become this one: the same key, a new one, or none. -/
def presentIn (state : LockState ι) (userID : Int) (after : World) : Option LockKey :=
  if after.valkey.locks userID then some (state.present.getD ⟨state.keys, state.world.now⟩)
  else none

variable [DecidableEq ι] (syncer : Syncer) (userID : Int)

def heldAfter (held : ι → Option LockKey) (who : ι) (present : Option LockKey)
    (request : Request) (answer : request.Answer) : ι → Option LockKey :=
  match request, answer with
  | .lockKey _, some true => update held who present
  | .unlockKey _, _ => update held who none
  | _, _ => held

variable {present : Option LockKey} {request : Request} {held : ι → Option LockKey} {who other : ι}
  {answer : request.Answer}

theorem heldAfter_of_ne (different : other ≠ who) :
    heldAfter held who present request answer other = held other := by
  unfold heldAfter
  split
  · exact update_of_ne different _ _
  · exact update_of_ne different _ _
  · rfl

theorem isSome_heldAfter_self
    (entered : insideAfter false request answer = true → present.isSome = true) :
    (heldAfter held who present request answer who).isSome =
      insideAfter (held who).isSome request answer := by
  unfold heldAfter insideAfter
  split
  · rw [update_self]
    exact entered rfl
  · rw [update_self]
    rfl
  · rfl

theorem held_of_heldAfter {key : LockKey}
    (own : heldAfter held who present request answer other = some key) :
    held other = some key ∨
      insideAfter false request answer = true ∧ other = who ∧ present = some key := by
  by_cases same : other = who
  · subst same
    unfold heldAfter at own
    split at own
    · rw [update_self] at own
      exact Or.inr ⟨rfl, rfl, own⟩
    · rw [update_self] at own
      cases own
    · exact Or.inl own
  · rw [heldAfter_of_ne same] at own
    exact Or.inl own

def start (state : LockState ι) (who : ι) (activity : Activity) : LockState ι :=
  { state with pool := state.pool.start (lockRuns syncer userID) who activity }

def serve (state : LockState ι) (who : ι) (request : Request)
    (next : request.Answer → Program service Response) (outcome : Outcome) : LockState ι :=
  let served := state.world.serve request outcome
  let present := state.presentIn userID served.1
  { pool := state.pool.serve (lockRuns syncer userID) who request next outcome
    present := present
    held := heldAfter state.held who present request served.2
    keys := state.keys + 1 }

/-- Time passes, and a key that has reached its five minutes is gone. -/
def wait (state : LockState ι) (after : World) : LockState ι :=
  { state with
    pool := { state.pool with state := after }
    present := state.present.filter (fun key => ¬key.Expired after.now) }

/-- `permits` restricts the steps of the workers. -/
inductive Step (permits : LockState ι → ι → Request → Prop) : LockState ι → LockState ι → Prop where
  | start {state : LockState ι} (who : ι) (activity : Activity) (idle : state.pool.Idle who) :
      Step permits state (state.start syncer userID who activity)
  | serve {state : LockState ι} (who : ι) (request : Request)
      (next : request.Answer → Program service Response) (outcome : Outcome)
      (ready : state.pool.rest who = .call request next)
      (permitted : permits state who request) :
      Step permits state (state.serve syncer userID who request next outcome)
  | wait {state : LockState ι} (after : World) (lapse : Lapse state.world after)
      (expiry : after.valkey.locks userID =
        (state.present.filter (fun key => ¬key.Expired after.now)).isSome) :
      Step permits state (state.wait after)

/-- A run that releases does so before its own key has expired. -/
def InTime (state : LockState ι) (who : ι) (request : Request) : Prop :=
  request = .unlockKey userID → ∀ key, state.held who = some key → ¬key.Expired state.world.now

variable {syncer userID}

/-- The key of a run that is inside is the key that is there, until it expires;
and no two runs hold the same key. -/
structure Held (userID : Int) (state : LockState ι) : Prop where
  locked : state.world.valkey.locks userID = state.present.isSome
  inside : ∀ who, state.pool.memory who = (state.held who).isSome
  known : ∀ who key, state.held who = some key → key.number < state.keys
  there : ∀ who key, state.held who = some key → ¬key.Expired state.world.now →
    state.present = some key
  single : ∀ who other key, state.held who = some key → state.held other = some key → who = other
  valid : ∀ key, state.present = some key → key.number < state.keys ∧ ¬key.Expired state.world.now

variable {outcome : Outcome}

section Steps

variable {state after : LockState ι}

omit [DecidableEq ι] in
theorem Held.quiet (holds : Held userID state) (present : after.present = state.present)
    (locks : after.world.valkey.locks userID = state.world.valkey.locks userID)
    (now : after.world.now = state.world.now) (keys : state.keys ≤ after.keys)
    (inside : ∀ who, after.pool.memory who = (after.held who).isSome)
    (fewer : ∀ who key, after.held who = some key → state.held who = some key) :
    Held userID after :=
  { locked := by rw [locks, present, holds.locked]
    inside := inside
    known := fun who key own => (holds.known who key (fewer who key own)).trans_le keys
    there := by
      intro who key own valid
      rw [now] at valid
      exact present.trans (holds.there who key (fewer who key own) valid)
    single := fun who other key own others =>
      holds.single who other key (fewer who key own) (fewer other key others)
    valid := by
      intro key found
      rw [present] at found
      rw [now]
      exact ⟨(holds.valid key found).1.trans_le keys, (holds.valid key found).2⟩ }

omit [DecidableEq ι] in
theorem Held.set (holds : Held userID state) (free : state.present = none)
    (present : after.present = some ⟨state.keys, state.world.now⟩)
    (locks : after.world.valkey.locks userID = true)
    (now : after.world.now = state.world.now) (keys : after.keys = state.keys + 1)
    (inside : ∀ who, after.pool.memory who = (after.held who).isSome) (setter : ι)
    (others : ∀ who key, after.held who = some key →
      state.held who = some key ∨ who = setter ∧ key = ⟨state.keys, state.world.now⟩) :
    Held userID after := by
  -- Nobody else is inside with a valid key, and the number of the key is new.
  have old : ∀ who key, state.held who = some key → key.Expired state.world.now := by
    intro who key own
    by_contra valid
    rw [holds.there who key own valid] at free
    cases free
  have unlike : ∀ who, state.held who ≠ some ⟨state.keys, state.world.now⟩ :=
    fun who own => absurd (holds.known who _ own) (Nat.lt_irrefl _)
  refine ⟨by rw [locks, present]; rfl, inside, ?_, ?_, ?_, ?_⟩
  · intro who key own
    rw [keys]
    rcases others who key own with own | ⟨_, rfl⟩
    · exact (holds.known who key own).trans (Nat.lt_succ_self _)
    · exact Nat.lt_succ_self _
  · intro who key own valid
    rw [now] at valid
    rcases others who key own with own | ⟨_, rfl⟩
    · exact absurd (old who key own) valid
    · exact present
  · intro who other key own same
    rcases others who key own with held | ⟨here, rfl⟩
    · rcases others other key same with held' | ⟨_, rfl⟩
      · exact holds.single who other key held held'
      · exact absurd held (unlike who)
    · rcases others other _ same with held' | ⟨there, _⟩
      · exact absurd held' (unlike other)
      · exact here.trans there.symm
  · intro key found
    rw [present] at found
    cases found
    rw [keys, now]
    exact ⟨Nat.lt_succ_self _, LockKey.not_expired_new _ _⟩

variable {who : ι} {next : request.Answer → Program service Response}

theorem Held.cleared (holds : Held userID state) {key : LockKey}
    (own : state.held who = some key) (inTime : ¬key.Expired state.world.now)
    (present : after.present = none) (locks : after.world.valkey.locks userID = false)
    (now : after.world.now = state.world.now) (keys : state.keys ≤ after.keys)
    (inside : ∀ who, after.pool.memory who = (after.held who).isSome)
    (held : after.held = update state.held who none) : Held userID after := by
  have others : ∀ other key, after.held other = some key →
      other ≠ who ∧ state.held other = some key := by
    intro other key found
    rw [held] at found
    by_cases same : other = who
    · rw [same, update_self] at found
      cases found
    · rw [update_of_ne same] at found
      exact ⟨same, found⟩
  refine ⟨by rw [locks, present]; rfl, inside, ?_, ?_, ?_, ?_⟩
  · exact fun other key found => (holds.known other key (others other key found).2).trans_le keys
  · intro other key' found valid
    obtain ⟨different, heldBefore⟩ := others other key' found
    rw [now] at valid
    have same :=
      (holds.there who key own inTime).symm.trans (holds.there other key' heldBefore valid)
    cases same
    exact absurd (holds.single other who key heldBefore own) different
  · exact fun left right key found same =>
      holds.single left right key (others left key found).2 (others right key same).2
  · intro key found
    rw [present] at found
    cases found

omit [DecidableEq ι] in
theorem locks_serve (world : World) (outcome : Outcome)
    (unlocking : ∀ owner, request ≠ .unlockKey owner)
    (locking : ∀ owner, request ≠ .lockKey owner) :
    (world.serve request outcome).1.valkey.locks = world.valkey.locks := by
  have handled : (world.handle request).1.valkey.locks = world.valkey.locks := by
    cases request
    case lockKey owner => exact absurd rfl (locking owner)
    case unlockKey owner => exact absurd rfl (unlocking owner)
    case lockUser process owner =>
      unfold World.handle
      simp only
      split <;> rfl
    case insertSynced row =>
      unfold World.handle
      simp only
      split <;> rfl
    all_goals rfl
  exact World.serve_keeps (fun after => after.valkey.locks = world.valkey.locks) outcome rfl handled

omit [DecidableEq ι] in
theorem Held.presentIn_same (holds : Held userID state) {world : World}
    (same : world.valkey.locks userID = state.world.valkey.locks userID) :
    state.presentIn userID world = state.present := by
  unfold presentIn
  rw [same, holds.locked]
  cases state.present with
  | none => rfl
  | some key => rfl

theorem Held.inside_serve (holds : Held userID state)
    (entered : insideAfter false request (state.world.serve request outcome).2 = true →
      (state.presentIn userID (state.world.serve request outcome).1).isSome = true) (other : ι) :
    (state.serve syncer userID who request next outcome).pool.memory other =
      ((state.serve syncer userID who request next outcome).held other).isSome := by
  change (state.pool.serve (lockRuns syncer userID) who request next outcome).memory other =
    (heldAfter state.held who (state.presentIn userID (state.world.serve request outcome).1)
      request (state.world.serve request outcome).2 other).isSome
  by_cases same : other = who
  · rw [same, Pool.memory_serve_self, isSome_heldAfter_self entered, ← holds.inside who]
    rfl
  · rw [Pool.memory_serve_of_ne same, heldAfter_of_ne same, holds.inside other]

theorem now_serve (world : World) (request : Request) (outcome : Outcome) :
    (world.serve request outcome).1.now = world.now :=
  World.serve_keeps (fun after => after.now = world.now) outcome rfl
    (frame_handle world request).now

section Holding

variable (holds : Held userID state)
include holds

theorem Held.serve_other (locks : (state.world.serve request outcome).1.valkey.locks userID =
      state.world.valkey.locks userID)
    (outside : insideAfter false request (state.world.serve request outcome).2 = false) :
    Held userID (state.serve syncer userID who request next outcome) := by
  refine holds.quiet (holds.presentIn_same locks) locks (now_serve _ _ _) (Nat.le_succ _)
    (holds.inside_serve (fun entered => absurd entered (by rw [outside]; decide))) ?_
  intro other key own
  refine (held_of_heldAfter own).resolve_right ?_
  rintro ⟨entered, _⟩
  rw [outside] at entered
  cases entered

theorem Held.lock_contended
    {next : Option Bool → Program service Response} (outcome : Outcome)
    (taken : state.world.valkey.locks userID = true) :
    Held userID (state.serve syncer userID who (.lockKey userID) next outcome) := by
  have contended : state.world.handle (.lockKey userID) = (state.world, some false) :=
    if_pos taken
  apply holds.serve_other
  · exact World.serve_keeps (fun after => after.valkey.locks userID =
      state.world.valkey.locks userID) outcome rfl (by rw [contended])
  · cases outcome with
    | served =>
      change insideAfter false _ (state.world.handle (.lockKey userID)).2 = false
      rw [contended]
      rfl
    | lost error => rfl
    | late error => rfl

theorem Held.lock_free {next : Option Bool → Program service Response}
    (untaken : ¬state.world.valkey.locks userID = true)
    (effective : ∀ error, outcome ≠ .lost error) :
    Held userID (state.serve syncer userID who (.lockKey userID) next outcome) := by
  have free : state.present = none := by
    rw [holds.locked, Option.isSome_iff_ne_none, not_not] at untaken
    exact untaken
  have locks : (state.world.serve (.lockKey userID) outcome).1.valkey.locks userID = true := by
    rw [World.serve_effective effective]
    unfold World.handle
    simp only [untaken]
    exact update_self _ _ _
  have present : state.presentIn userID (state.world.serve (.lockKey userID) outcome).1 =
      some ⟨state.keys, state.world.now⟩ := by
    unfold presentIn
    rw [locks, free]
    rfl
  refine holds.set free present locks (now_serve _ _ _) rfl
    (holds.inside_serve (fun _ => by rw [present]; rfl)) who ?_
  intro other key own
  refine (held_of_heldAfter own).imp_right ?_
  rintro ⟨_, same, new⟩
  exact ⟨same, (Option.some.inj (present.symm.trans new)).symm⟩

theorem Held.lock
    {next : Option Bool → Program service Response} (outcome : Outcome) :
    Held userID (state.serve syncer userID who (.lockKey userID) next outcome) := by
  by_cases taken : state.world.valkey.locks userID = true
  · exact holds.lock_contended outcome taken
  · by_cases lost : ∃ error, outcome = .lost error
    · obtain ⟨error, rfl⟩ := lost
      exact holds.serve_other rfl rfl
    · exact holds.lock_free taken (not_exists.mp lost)

theorem Held.unlock
    {next : Unit → Program service Response} (outcome : Outcome)
    (inside : state.pool.memory who = true) (inTime : state.InTime userID who (.unlockKey userID)) :
    Held userID (state.serve syncer userID who (.unlockKey userID) next outcome) := by
  rw [holds.inside who, Option.isSome_iff_exists] at inside
  obtain ⟨key, own⟩ := inside
  by_cases lost : ∃ error, outcome = .lost error
  · obtain ⟨error, rfl⟩ := lost
    exact holds.serve_other rfl rfl
  · have locks : (state.world.serve (.unlockKey userID) outcome).1.valkey.locks userID = false := by
      rw [World.serve_effective (not_exists.mp lost)]
      exact update_self _ _ _
    have present : state.presentIn userID (state.world.serve (.unlockKey userID) outcome).1 =
        none := by
      unfold presentIn
      rw [locks]
      rfl
    exact holds.cleared own (inTime rfl key own) present locks (now_serve _ _ _) (Nat.le_succ _)
      (holds.inside_serve nofun) rfl

theorem Held.serve (outcome : Outcome)
    (allowed : LocksInTurn userID (state.pool.job who) (state.pool.memory who) request)
    (inTime : state.InTime userID who request) :
    Held userID (state.serve syncer userID who request next outcome) := by
  cases request
  case lockKey owner =>
    obtain ⟨rfl, _⟩ := allowed
    exact holds.lock outcome
  case unlockKey owner =>
    obtain ⟨rfl, inside⟩ := allowed
    exact holds.unlock outcome inside inTime
  all_goals
    refine holds.serve_other (congrFun (locks_serve _ outcome ?_ ?_) userID) rfl
    · rintro owner ⟨⟩
    · rintro owner ⟨⟩

end Holding

omit [DecidableEq ι] in
theorem Held.wait (holds : Held userID state) {world : World} (lapse : Lapse state.world world)
    (expiry : world.valkey.locks userID =
      (state.present.filter (fun key => ¬key.Expired world.now)).isSome) :
    Held userID (state.wait world) := by
  have later : ∀ key : LockKey, ¬key.Expired world.now → ¬key.Expired state.world.now :=
    fun key valid expired => valid (Int.le_trans expired lapse.now)
  refine ⟨expiry, holds.inside, holds.known, ?_, holds.single, ?_⟩
  · intro who key own valid
    change state.present.filter _ = some key
    rw [holds.there who key own (later key valid), Option.filter_some, if_pos]
    exact decide_eq_true valid
  · intro key found
    change state.present.filter _ = some key at found
    obtain ⟨present, valid⟩ := Option.filter_eq_some_iff.mp found
    exact ⟨(holds.valid key present).1, of_decide_eq_true valid⟩

theorem Held.start (holds : Held userID state) (activity : Activity)
    (outside : state.pool.memory who = false) :
    Held userID (state.start syncer userID who activity) := by
  refine holds.quiet rfl rfl rfl (Nat.le_refl _) ?_ (fun _ _ own => own)
  intro other
  change (state.pool.start (lockRuns syncer userID) who activity).memory other =
    (state.held other).isSome
  by_cases same : other = who
  · rw [same, Pool.memory_start_self, ← holds.inside who, outside]
    rfl
  · rw [Pool.memory_start_of_ne same, holds.inside other]

theorem Held.run {first last : LockState ι}
    (execution : ReflTransGen (Step syncer userID (InTime userID)) first last)
    (watched : first.pool.Watched (lockRuns syncer userID) (LocksInTurn userID) EndsOutside)
    (holds : Held userID first) :
    last.pool.Watched (lockRuns syncer userID) (LocksInTurn userID) EndsOutside ∧
      Held userID last := by
  induction execution with
  | refl => exact ⟨watched, holds⟩
  | tail _ step ih =>
    obtain ⟨kept, held⟩ := ih
    cases step with
    | start who activity idle =>
      obtain ⟨value, done⟩ := idle
      exact ⟨kept.start lockRuns_disciplined who activity, held.start activity (kept.ended done)⟩
    | serve who request next outcome ready permitted =>
      exact ⟨kept.serve ready outcome, held.serve outcome (kept.allowed ready) permitted⟩
    | wait after lapse expiry => exact ⟨kept, held.wait lapse expiry⟩

end Steps

def advance (syncer : Syncer) (userID : Int) (state : LockState ι) (who : ι)
    (outcome : Outcome) : LockState ι :=
  match state.pool.rest who with
  | .done _ => state
  | .call request next => state.serve syncer userID who request next outcome

theorem step_advance {permits : LockState ι → ι → Request → Prop} {state : LockState ι}
    {next : request.Answer → Program service Response}
    (ready : state.pool.rest who = .call request next) (permitted : permits state who request) :
    Step syncer userID permits state (state.advance syncer userID who outcome) := by
  have served : state.advance syncer userID who outcome =
      state.serve syncer userID who request next outcome := by
    simp only [advance, ready]
  rw [served]
  exact .serve who request next outcome ready permitted

def AnyTime (_state : LockState ι) (_who : ι) (_request : Request) : Prop :=
  True

def new (syncer : Syncer) (userID : Int) (world : World) : LockState Nat :=
  { pool := newPool (lockRuns syncer userID) world
    present := none
    held := fun _ => none
    keys := 0 }

end LockState

/-- A run that releases in time removes no key but its own, and a run enters only
when the keys of all runs that are inside have expired. -/
theorem lock_released_by_holder {ι : Type} [DecidableEq ι] {syncer : Syncer} {userID : Int}
    {first last : LockState ι}
    (rested : ∀ who, first.pool.Idle who ∧ first.pool.memory who = false ∧ first.held who = none)
    (free : first.present = none) (unlocked : first.world.valkey.locks userID = false)
    (execution : ReflTransGen (LockState.Step syncer userID (LockState.InTime userID)) first last) :
    (∀ who next key, last.pool.rest who = .call (.unlockKey userID) next →
      last.InTime userID who (.unlockKey userID) → last.present = some key →
      last.held who = some key) ∧
    (∀ who next, last.pool.rest who = .call (.lockKey userID) next →
      last.world.valkey.locks userID = false →
      ∀ other key, last.held other = some key → key.Expired last.world.now) := by
  have watched : first.pool.Watched (lockRuns syncer userID) (LocksInTurn userID)
      EndsOutside := by
    intro who
    obtain ⟨⟨value, done⟩, outside, _⟩ := rested who
    rw [done]
    exact outside
  have nothing : ∀ who key, first.held who ≠ some key := by
    intro who key own
    rw [(rested who).2.2] at own
    cases own
  have holds : LockState.Held userID first :=
    { locked := by rw [unlocked, free]; rfl
      inside := by
        intro who
        rw [(rested who).2.1, (rested who).2.2]
        rfl
      known := fun who key own => absurd own (nothing who key)
      there := fun who key own => absurd own (nothing who key)
      single := fun who _ key own => absurd own (nothing who key)
      valid := by
        intro key found
        rw [free] at found
        cases found }
  obtain ⟨kept, held⟩ := LockState.Held.run execution watched holds
  constructor
  · intro who next key ready inTime present
    have inside := (kept.allowed ready).2
    rw [held.inside who, Option.isSome_iff_exists] at inside
    obtain ⟨ownKey, own⟩ := inside
    rw [← present, held.there who ownKey own (inTime rfl ownKey own), own]
  · intro who next _ absent other key own
    by_contra valid
    rw [held.locked, held.there other key own valid] at absent
    cases absent

section Runs

/-- A run has entered and waits for its profile. -/
def waitingRun : LockState Nat :=
  (((LockState.new cachingSyncer 1 loggedIn).start cachingSyncer 1 0 (.syncUser 0)).advance
    cachingSyncer 1 0 .served).advance cachingSyncer 1 0 .served

theorem steps_waitingRun {permits : LockState Nat → Nat → Request → Prop}
    (locks : ∀ state who, permits state who (.lockKey 1))
    (gets : ∀ state who, permits state who (.getCachedUser 1)) :
    ReflTransGen (LockState.Step cachingSyncer 1 permits)
      (LockState.new cachingSyncer 1 loggedIn) waitingRun :=
  ((ReflTransGen.single (.start 0 (.syncUser 0) (newPool_idle _ _ 0))).tail
    (LockState.step_advance rfl (locks _ _))).tail (LockState.step_advance rfl (gets _ _))

/-- A run whose profile cannot be read goes straight to its release, while a second run waits to
enter. -/
theorem lock_released_by_holder_in_time :
    let last := (waitingRun.start cachingSyncer 1 1 (.syncUser 1)).advance cachingSyncer 1 0
      (.lost ⟨none, "connection refused"⟩)
    last.present = some ⟨0, loggedIn.now⟩ ∧ last.held 0 = some ⟨0, loggedIn.now⟩ ∧
      (∃ next, last.pool.rest 1 = .call (.lockKey 1) next) ∧
      last.world.valkey.locks 1 = true := by
  intro last
  have waits : LockState.Step cachingSyncer 1 (LockState.InTime 1) waitingRun
      (waitingRun.start cachingSyncer 1 1 (.syncUser 1)) :=
    .start 1 (.syncUser 1) ⟨_, rfl⟩
  have failed : LockState.Step cachingSyncer 1 (LockState.InTime 1)
      (waitingRun.start cachingSyncer 1 1 (.syncUser 1)) last :=
    LockState.step_advance rfl (by rintro ⟨⟩)
  have execution :=
    ((steps_waitingRun (by rintro _ _ ⟨⟩) (by rintro _ _ ⟨⟩)).tail waits).tail failed
  obtain ⟨released, enters⟩ := lock_released_by_holder
    (fun who => ⟨newPool_idle _ _ who, rfl, rfl⟩) rfl rfl execution
  have own : last.held 0 = some ⟨0, loggedIn.now⟩ := by
    refine released 0 _ _ rfl ?_ rfl
    rintro _ _ ⟨⟩
    exact LockKey.not_expired_new _ _
  refine ⟨rfl, own, ⟨_, rfl⟩, ?_⟩
  by_contra absent
  exact LockKey.not_expired_new _ _ (enters 1 _ rfl (Bool.not_eq_true _ |>.mp absent) 0 _ own)

def fiveMinutesLater (world : World) : World :=
  { world with
    valkey := { world.valkey with locks := fun _ => false }
    now := world.now + lockTTL }

/-- The first run waits longer than five minutes. A second run enters when the key
has expired, the first run ends and deletes the key of the second, and a third run
enters while the second is still inside. -/
theorem lock_released_by_other :
    let expired := waitingRun.wait (fiveMinutesLater waitingRun.world)
    let second := (expired.start cachingSyncer 1 1 (.syncUser 1)).advance cachingSyncer 1 1 .served
    let failed := second.advance cachingSyncer 1 0 (.lost ⟨none, "connection refused"⟩)
    let released := failed.advance cachingSyncer 1 0 .served
    let third := released.start cachingSyncer 1 2 (.syncUser 2)
    ReflTransGen (LockState.Step cachingSyncer 1 LockState.AnyTime)
        (LockState.new cachingSyncer 1 loggedIn) third ∧
      (∃ next, failed.pool.rest 0 = .call (.unlockKey 1) next) ∧
      failed.present.isSome = true ∧ failed.present = failed.held 1 ∧ released.present = none ∧
      (∃ next, third.pool.rest 2 = .call (.lockKey 1) next) ∧
      third.world.valkey.locks 1 = false ∧
      ∃ key, third.held 1 = some key ∧ ¬key.Expired third.world.now := by
  intro expired second failed released third
  have lapse : Lapse waitingRun.world (fiveMinutesLater waitingRun.world) :=
    { database := rfl
      accounts := rfl
      syncing := rfl
      now := Int.le_add_of_nonneg_right (by decide)
      users := fun _ => Or.inl rfl
      syncedEvents := fun _ => Or.inl rfl
      contests := fun _ => Or.inl rfl
      locks := nofun }
  have waits : LockState.Step cachingSyncer 1 LockState.AnyTime waitingRun expired :=
    .wait _ lapse rfl
  have enters : LockState.Step cachingSyncer 1 LockState.AnyTime
      (expired.start cachingSyncer 1 1 (.syncUser 1)) second :=
    LockState.step_advance rfl trivial
  have fails : LockState.Step cachingSyncer 1 LockState.AnyTime second failed :=
    LockState.step_advance rfl trivial
  have releases : LockState.Step cachingSyncer 1 LockState.AnyTime failed released :=
    LockState.step_advance rfl trivial
  refine ⟨?_, ⟨_, rfl⟩, rfl, rfl, rfl, ⟨_, rfl⟩, rfl, _, rfl, LockKey.not_expired_new _ _⟩
  exact (((((steps_waitingRun (fun _ _ => trivial) (fun _ _ => trivial)).tail waits).tail
    (.start 1 (.syncUser 1) ⟨_, rfl⟩)).tail enters).tail fails).tail releases |>.tail
    (.start 2 (.syncUser 2) ⟨_, rfl⟩)

end Runs

end ContestSync
