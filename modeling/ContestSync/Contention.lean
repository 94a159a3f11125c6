/-
Sync tasks and the lock of `SyncUser`. A delivery whose user is being synced fails
at once, and its failure is counted like any other: after three contended
deliveries the task is acknowledged, while the run that held the lock may have read
the profile before the task was published. Only the last attempt matters. If the
lock is free then, the attempt itself is a run that loads the profile after the
publication.
-/

import ContestSync.Delivery
import ContestSync.ProfileTraffic

namespace ContestSync

open Resumable Program Function Relation

/-! ### Single deliveries -/

namespace TaskSystem

inductive Progress (tag : Nat) (body : Option Message) : QueueEvent → Stage → Stage → Prop where
  | handled : Progress tag body (.handle tag) .received .handling
  | succeeded : Progress tag body (.finish tag true) .handling .settling
  | failed : Progress tag body (.finish tag false) .handling .failed
  | retried (retrying : Retrying) (next : Stage) {message : Message}
      (decoded : body = some message) (fewer : message.retryCount < 2)
      (ends : next = .settling ∨ next = .rejecting) :
      Progress tag body (.retry tag retrying) .failed next
  | exhausted (retrying : Retrying) {message : Message}
      (decoded : body = some message) (spent : ¬message.retryCount < 2) :
      Progress tag body (.retry tag retrying) .failed .settling
  | closed (event : QueueEvent) (stage : Stage) : Progress tag body event stage .finished

/-- A delivery after an event is new, or it was there and has made progress or not. -/
def Follows (system : TaskSystem) (event : QueueEvent) (after : TaskSystem) : Prop :=
  ∀ (tag : Nat) (delivery : Broker.Delivery (Option Message) Work),
    after.broker.deliveries[tag]? = some delivery →
    (system.broker.deliveries[tag]? = none ∧ delivery.message ∈ system.broker.queued ∧
      delivery.stage.stage = .received) ∨
    ∃ before, system.broker.deliveries[tag]? = some before ∧ delivery.message = before.message ∧
      (delivery.stage = before.stage ∨ delivery.stage.process = before.stage.process ∧
          Progress tag before.message event before.stage.stage delivery.stage.stage)

section Follows

variable {system after : TaskSystem} {event : QueueEvent}

theorem Follows.of_sameWork (same : Broker.State.SameWork system.broker after.broker) :
    Follows system event after := by
  intro tag delivery found
  obtain ⟨before, atTag, message, stage⟩ := same tag delivery found
  exact Or.inr ⟨before, atTag, message, Or.inl stage⟩

theorem Follows.of_deliveries (same : after.broker.deliveries = system.broker.deliveries) :
    Follows system event after :=
  .of_sameWork (fun _ delivery found => ⟨delivery, same ▸ found, rfl, rfl⟩)

/-- The goroutine of one delivery moves on; the broker may have changed before in a
way that concerns no goroutine. -/
theorem Follows.advance {broker : Broker.State (Option Message) Work} {tag process : Nat}
    {stage next : Stage} {body : Option Message} {unacked : Bool}
    (same : Broker.State.SameWork system.broker broker)
    (found : system.broker.deliveries[tag]? = some ⟨body, ⟨process, stage⟩, unacked⟩)
    (progress : Progress tag body event stage next)
    (advanced : after.broker = broker.advance tag ⟨process, next⟩) :
    Follows system event after := by
  intro other delivery atOther
  rw [advanced] at atOther
  obtain ⟨middle, atMiddle, message, moved⟩ := Broker.State.delivery_advance atOther
  obtain ⟨before, atBefore, sameMessage, sameStage⟩ := same other middle atMiddle
  refine Or.inr ⟨before, atBefore, message.trans sameMessage, ?_⟩
  by_cases own : other = tag
  · subst own
    rw [if_pos rfl] at moved
    rw [found] at atBefore
    cases atBefore
    rw [moved]
    exact Or.inr ⟨rfl, progress⟩
  · rw [if_neg own] at moved
    exact Or.inl (moved.trans sameStage)

theorem sameWork_self (broker : Broker.State (Option Message) Work) :
    Broker.State.SameWork broker broker :=
  fun _ delivery found => ⟨delivery, found, rfl, rfl⟩

theorem Advance.progress {tag : Nat} {message : Message} {stage next : Stage}
    {occurrences : List Occurrence} (allowed : Advance tag message event stage next occurrences) :
    Progress tag (some message) event stage next := by
  cases allowed with
  | start => exact .handled
  | succeed => exact .succeeded
  | fail => exact .failed
  | exhaust retrying spent => exact .exhausted retrying rfl spent
  | reject retrying fewer => exact .retried retrying _ rfl fewer (Or.inr rfl)
  | ackLost => exact .closed _ _
  | nackLost => exact .closed _ _

theorem Change.follows (change : Change system event after) : Follows system event after := by
  cases change with
  | same => exact .of_deliveries rfl
  | aside _ broker => exact .of_deliveries (by rw [broker])
  | accept _ _ _ _ broker =>
    refine .of_deliveries ?_
    rw [broker]
    rfl
  | intrude => exact .of_deliveries rfl
  | deliver =>
    intro tag delivery found
    rcases Broker.State.delivery_deliver found with old | ⟨absent, queued, fresh⟩
    · exact Or.inr ⟨delivery, old, rfl, Or.inl rfl⟩
    · refine Or.inl ⟨absent, queued, ?_⟩
      rw [fresh]
  | advance _ _ found allowed => exact .advance (sameWork_self _) found allowed.progress rfl
  | retry retrying next found fewer ends =>
    refine .advance ?_ found (.retried retrying next rfl fewer ends) rfl
    exact fun _ delivery atTag => ⟨delivery, atTag, rfl, rfl⟩
  | ack _ found => exact .advance (Broker.State.sameWork_acknowledge _) found (.closed _ _) rfl
  | nack _ found => exact .advance (Broker.State.sameWork_requeue _) found (.closed _ _) rfl
  | redeliver => exact .of_sameWork (Broker.State.sameWork_requeue _)
  | malformed _ found changed =>
    rcases changed with rfl | rfl | rfl
    · exact .advance (sameWork_self _) found (.closed _ _) rfl
    · exact .advance (Broker.State.sameWork_acknowledge _) found (.closed _ _) rfl
    · exact .of_sameWork (Broker.State.sameWork_requeue _)

end Follows

/-! ### Numbers -/

def Numbered (system : TaskSystem) : Prop :=
  system.broker.Every (fun body => ∀ message, body = some message →
    message.number ∈ system.accepted)

theorem Numbered.change {system after : TaskSystem} {event : QueueEvent}
    (numbered : system.Numbered) (change : Change system event after) : after.Numbered := by
  cases change with
  | same => exact numbered
  | aside _ broker accepted =>
    unfold Numbered
    rw [broker, accepted]
    exact numbered
  | accept _ number task _ broker accepted =>
    have wider : system.broker.Every (fun body => ∀ message, body = some message →
        message.number ∈ number :: system.accepted) :=
      numbered.mono (fun _ known message decoded => List.mem_cons_of_mem _ (known message decoded))
    unfold Numbered
    rw [broker, accepted]
    refine wider.publish ?_
    rintro _ ⟨⟩
    exact List.mem_cons_self
  | intrude => exact numbered.publish nofun
  | deliver _ process index => exact numbered.deliver index _
  | advance next occurrences found => exact numbered.advance _ _
  | @retry tag process message unacked _ next found fewer ends =>
    have known : message.number ∈ system.accepted :=
      numbered.2 _ (List.mem_of_getElem? found) message rfl
    refine (numbered.publish ?_).advance _ _
    rintro _ ⟨⟩
    exact known
  | ack => exact (numbered.acknowledge _).advance _ _
  | nack => exact (numbered.requeue _).advance _ _
  | redeliver => exact numbered.requeue _
  | malformed _ _ changed =>
    rcases changed with rfl | rfl | rfl
    · exact numbered.advance _ _
    · exact (numbered.acknowledge _).advance _ _
    · exact numbered.requeue _

end TaskSystem

/-! ### Attempts -/

/-- Whether a run was turned away by the lock, and whether it has loaded a profile. -/
structure Attempt where
  contended : Bool
  loaded : Bool

def attemptAfter (userID : Int) (attempt : Attempt) (request : Request)
    (answer : request.Answer) : Attempt :=
  match request, answer with
  | .lockKey _, some false => { attempt with contended := true }
  | .lockUser _ _, false => { attempt with contended := true }
  | request, answer =>
    if (answeredProfile userID request answer).isSome then { attempt with loaded := true }
    else attempt

def syncAttempts (syncer : Syncer) (userID : Int) :
    Workforce service Activity Attempt Response :=
  { program := syncer.activity userID
    fresh := fun _ => ⟨false, false⟩
    record := fun _ => attemptAfter userID }

/-- The result of a run tells what it has been through. -/
def TellsApart (_activity : Activity) (response : Response) (attempt : Attempt) : Prop :=
  (response = .synced (.ok ()) → attempt.loaded = true) ∧
    (response = .synced (.error .alreadySyncing) → attempt.contended = true)

section Discipline

variable {syncer : Syncer} {userID : Int} {activity : Activity}

def Unrestricted (_activity : Activity) (_attempt : Attempt) (_request : Request) : Prop :=
  True

variable {user : CachedUser}

theorem returns_syncCalendar {token calendarID timezone : String} :
    Returns (fun result => result ≠ .error .alreadySyncing)
      (syncer.syncCalendar userID token calendarID timezone user) := by
  refine returns_then fun _ => returns_then fun synced => returns_ite (by rintro ⟨⟩) ?_
  refine returns_then fun rows => ?_
  cases rows with
  | none => rintro ⟨⟩
  | some contests =>
    refine returns_then fun result => ?_
    cases result with
    | error left => rintro ⟨⟩
    | ok anySynced => exact returns_ite (returns_then fun _ => by rintro ⟨⟩) (by rintro ⟨⟩)

theorem returns_syncProfile :
    Returns (fun result => result ≠ .error .alreadySyncing) (syncer.syncProfile userID user) := by
  unfold Syncer.syncProfile
  split
  · rintro ⟨⟩
  · refine returns_then fun answer => ?_
    cases answer with
    | error error =>
      exact returns_then fun deleted => returns_ite (by rintro ⟨⟩) (by rintro ⟨⟩)
    | ok timezone =>
      refine returns_then fun target => ?_
      cases target with
      | none => rintro ⟨⟩
      | some calendarID => exact returns_syncCalendar

theorem returns_syncLoaded (user : CachedUser) :
    Returns (fun result => result ≠ .error .alreadySyncing) (syncer.syncLoaded userID user) := by
  refine returns_then fun _ => returns_syncProfile.bind fun result known => ?_
  exact returns_then fun _ => returns_ite (returns_then fun _ => known) known

theorem attemptAfter_loaded {attempt : Attempt} (request : Request) (answer : request.Answer)
    (loaded : attempt.loaded = true) :
    (attemptAfter userID attempt request answer).loaded = true := by
  unfold attemptAfter
  split
  · exact loaded
  · exact loaded
  · split
    · rfl
    · exact loaded

theorem maintains_loaded_attempt (request : Request) :
    Maintains ((syncAttempts syncer userID).watch Unrestricted activity)
      (fun attempt => attempt.loaded = true) (ask request) :=
  Workforce.maintains_call (fun _ _ => trivial)
    (fun _ answer loaded => attemptAfter_loaded request answer loaded)

theorem ensures_syncLocked_attempt (attempt : Attempt) :
    Ensures ((syncAttempts syncer userID).watch Unrestricted activity)
      (fun result later => result ≠ .error .alreadySyncing ∧
        (result = .ok () → later.loaded = true)) (syncer.syncLocked userID) attempt := by
  apply Ensures.bind
  refine Ensures.mono ?_ (ensures_loadSyncProfile_noted (fun _ => True)
    (fun _ later => later.loaded = true) ?_ (fun _ => maintains_loaded_attempt _) trivial)
  · intro found later known
    cases found with
    | none => exact ⟨(by rintro ⟨⟩), (by rintro ⟨⟩)⟩
    | some user =>
      have loaded := known user rfl
      have runs : RunKeeps ((syncAttempts syncer userID).watch Unrestricted activity)
          (fun attempt => attempt.loaded = true) syncer userID _ :=
        .of_each (fun request _ => maintains_loaded_attempt request)
      have ends := (Syncer.ensures_syncLoaded (maintains_loaded_attempt _)
        (runs.syncProfile trivial) (fun _ => maintains_loaded_attempt _)
        (maintains_loaded_attempt _) loaded).returning (returns_syncLoaded user)
      exact ends.mono (fun result last reached => ⟨reached.1, fun _ => reached.2⟩)
  · rintro _ (rfl | rfl) before _
    all_goals
      refine ⟨trivial, fun answer => ⟨fun _ => trivial, fun user noted => ?_⟩⟩
      change (if (answeredProfile userID _ answer).isSome then { before with loaded := true }
        else before).loaded = true
      rw [noted]
      rfl

theorem ensures_tellsApart_syncUser (process : Nat) :
    Ensures ((syncAttempts syncer userID).watch Unrestricted activity)
      (fun result later => (result = .ok () → later.loaded = true) ∧
        (result = .error .alreadySyncing → later.contended = true))
      ({ syncer with process := process }.syncUser userID) ⟨false, false⟩ := by
  -- The release is the last request; it changes nothing that was noted.
  have released : ∀ (request : Request) (result : Except SyncError Unit) (attempt : Attempt),
      (∀ answer, attemptAfter userID attempt request answer = attempt) →
      (result ≠ .error .alreadySyncing ∧ (result = .ok () → attempt.loaded = true)) →
      Ensures ((syncAttempts syncer userID).watch Unrestricted activity)
        (fun result later => (result = .ok () → later.loaded = true) ∧
          (result = .error .alreadySyncing → later.contended = true))
        (ask request >>= fun _ => .done result) attempt := by
    rintro request result attempt silent ⟨uncontended, loaded⟩
    refine ⟨trivial, ?_⟩
    intro answer
    change (result = .ok () → (attemptAfter userID attempt request answer).loaded = true) ∧ _
    rw [silent answer]
    exact ⟨loaded, fun contended => absurd contended uncontended⟩
  apply ensures_ite
  · intro _
    apply Ensures.bind
    refine ⟨trivial, ?_⟩
    intro answer
    match answer with
    | none => exact ⟨(by rintro ⟨⟩), (by rintro ⟨⟩)⟩
    | some false => exact ⟨(by rintro ⟨⟩), fun _ => rfl⟩
    | some true =>
      change Ensures _ _ ({ syncer with process := process }.syncLocked userID >>= _) _
      refine (ensures_syncLocked_attempt _).then ?_
      exact fun result later => released (.unlockKey userID) result later (fun _ => rfl)
  · intro _
    apply Ensures.bind
    refine ⟨trivial, ?_⟩
    intro free
    cases free with
    | true =>
      change Ensures _ _ ({ syncer with process := process }.syncLocked userID >>= _) _
      refine (ensures_syncLocked_attempt _).then ?_
      exact fun result later => released (.unlockUser process userID) result later (fun _ => rfl)
    | false => exact ⟨(by rintro ⟨⟩), fun _ => rfl⟩

theorem syncAttempts_disciplined :
    (syncAttempts syncer userID).Disciplined Unrestricted TellsApart := by
  intro activity
  cases sync : activity.isSync with
  | false =>
    have unsynced : Returns (fun response => ∀ result, response ≠ .synced result)
        (syncer.activity userID activity) := by
      cases activity
      case syncUser => cases sync
      all_goals exact returns_then fun _ => by rintro _ ⟨⟩
    have runs : Maintains ((syncAttempts syncer userID).watch Unrestricted activity)
        (fun _ => True) (syncer.activity userID activity) :=
      Syncer.maintains_activity sync (fun _ _ _ => Workforce.maintains_call
        (fun _ _ => trivial) (fun _ _ _ => trivial))
    refine ((runs _ trivial).returning unsynced).mono ?_
    exact fun response _ reached => ⟨fun ended => absurd ended (reached.1 _),
      fun ended => absurd ended (reached.1 _)⟩
  | true =>
    cases activity
    case syncUser process =>
      refine (ensures_tellsApart_syncUser process).then ?_
      rintro result later ⟨loaded, contended⟩
      refine ⟨fun ended => loaded ?_, fun ended => contended ?_⟩
      · exact Response.synced.inj ended
      · exact Response.synced.inj ended
    all_goals cases sync

end Discipline

/-! ### Tasks and runs together -/

/-- The goroutine of a delivery, or anything else that works on the user. -/
inductive Runner where
  | consumer (tag : Nat)
  | other (index : Nat)
deriving DecidableEq

/-- `loaded` are the tasks that had been published when a run loaded its profile,
`served` those for which a run that loaded it later has returned nil, `failed` those
of which a delivery failed for another reason than the lock. `retried` are the
deliveries that failed with attempts left. -/
structure SyncTraffic where
  tasks : TaskSystem
  pool : Pool environment Runner Activity Attempt Response
  loaded : Runner → List Nat
  served : List Nat
  failed : List Nat
  retried : List Nat

namespace SyncTraffic

variable (syncer : Syncer) (userID : Int) (state : SyncTraffic)

def Carries (tag : Nat) (message : Message) (work : Work) : Prop :=
  message.task = .sync userID ∧
    ∃ unacked, state.tasks.broker.deliveries[tag]? = some ⟨some message, work, unacked⟩

/-- The beginning and the end of a handler belong to a run of `SyncUser`. -/
def Concerns : QueueEvent → Prop
  | .handle tag => ∃ message work, state.Carries userID tag message work
  | .finish tag _ => ∃ message work, state.Carries userID tag message work
  | _ => False

def retriedBy : QueueEvent → List Nat
  | .retry tag _ =>
    match state.tasks.broker.deliveries[tag]? with
    | some ⟨some message, ⟨_, .failed⟩, _⟩ => if message.retryCount < 2 then [tag] else []
    | _ => []
  | _ => []

def event (event : QueueEvent) : SyncTraffic :=
  { state with
    tasks := state.tasks.step event
    retried := state.retriedBy event ++ state.retried }

def start (who : Runner) (activity : Activity) : SyncTraffic :=
  { state with
    pool := state.pool.start (syncAttempts syncer userID) who activity
    loaded := update state.loaded who [] }

def handle (tag process : Nat) : SyncTraffic :=
  (state.event (.handle tag)).start syncer userID (.consumer tag) (.syncUser process)

def failedAfter (number : Nat) (failed : List Nat) : Except SyncError Unit → List Nat
  | .ok () => failed
  | .error .alreadySyncing => failed
  | .error _ => number :: failed

def finish (tag number : Nat) (result : Except SyncError Unit) : SyncTraffic :=
  { state.event (.finish tag result.isOk) with
    failed := failedAfter number state.failed result }

def serve (who : Runner) (request : Request) (next : request.Answer → Program service Response)
    (outcome : Outcome) : SyncTraffic :=
  let answer := (state.pool.state.serve request outcome).2
  let loaded :=
    if (answeredProfile userID request answer).isSome then
      update state.loaded who state.tasks.accepted
    else state.loaded
  { state with
    pool := state.pool.serve (syncAttempts syncer userID) who request next outcome
    loaded := loaded
    served :=
      match next answer with
      | .done (.synced (.ok _)) => loaded who ++ state.served
      | _ => state.served }

def pass (after : World) : SyncTraffic :=
  { state with pool := { state.pool with state := after } }

end SyncTraffic

inductive TrafficStep (syncer : Syncer) (userID : Int)
    (permits : SyncTraffic → Runner → Request → Prop) : SyncTraffic → SyncTraffic → Prop where
  | event {state : SyncTraffic} (event : QueueEvent) (apart : ¬state.Concerns userID event) :
      TrafficStep syncer userID permits state (state.event event)
  | handle {state : SyncTraffic} (tag process : Nat) (message : Message)
      (received : state.Carries userID tag message ⟨process, .received⟩) :
      TrafficStep syncer userID permits state (state.handle syncer userID tag process)
  | finish {state : SyncTraffic} (tag process : Nat) (message : Message)
      (result : Except SyncError Unit)
      (handling : state.Carries userID tag message ⟨process, .handling⟩)
      (ended : state.pool.rest (.consumer tag) = .done (.synced result)) :
      TrafficStep syncer userID permits state (state.finish tag message.number result)
  | start {state : SyncTraffic} (index : Nat) (activity : Activity)
      (idle : state.pool.Idle (.other index)) :
      TrafficStep syncer userID permits state (state.start syncer userID (.other index) activity)
  | serve {state : SyncTraffic} (who : Runner) (request : Request)
      (next : request.Answer → Program service Response) (outcome : Outcome)
      (ready : state.pool.rest who = .call request next)
      (sound : request.locksProcess = true → outcome = .served)
      (permitted : permits state who request) :
      TrafficStep syncer userID permits state (state.serve syncer userID who request next outcome)
  | pass {state : SyncTraffic} (after : World) (lapse : Lapse state.pool.state after) :
      TrafficStep syncer userID permits state (state.pass after)

namespace SyncTraffic

variable {syncer : Syncer} {userID : Int} {state : SyncTraffic}

/-- The last attempt of a task finds the lock free. -/
def LastAttemptFree (userID : Int) (state : SyncTraffic) (who : Runner) (request : Request) :
    Prop :=
  ∀ tag message work, who = .consumer tag → state.Carries userID tag message work →
    ¬message.retryCount < 2 →
    (∀ owner, request = .lockKey owner → state.pool.state.valkey.locks owner = false) ∧
    (∀ process owner, request = .lockUser process owner →
      (process, owner) ∉ state.pool.state.syncing)

/-- A run that loaded the profile after the publication has returned nil, or a
delivery has failed for another reason. -/
def Answered (state : SyncTraffic) (number : Nat) : Prop :=
  number ∈ state.served ∨ number ∈ state.failed

/-- What is known of a delivery of the user's tasks. -/
def Accounted (state : SyncTraffic) (tag : Nat) (message : Message) : Stage → Prop
  | .handling =>
    ((state.pool.memory (.consumer tag)).loaded = true →
      message.number ∈ state.loaded (.consumer tag)) ∧
    (¬message.retryCount < 2 → (state.pool.memory (.consumer tag)).contended = false) ∧
    (state.pool.rest (.consumer tag) = .done (.synced (.ok ())) → message.number ∈ state.served)
  | .failed => ¬message.retryCount < 2 → message.number ∈ state.failed
  | .settling => tag ∈ state.retried ∨ state.Answered message.number
  | _ => True

structure Accounts (userID : Int) (state : SyncTraffic) : Prop where
  numbered : state.tasks.Numbered
  deliveries : ∀ tag message work, state.Carries userID tag message work →
    state.Accounted tag message work.stage

variable {tag process : Nat} {message : Message} {work : Work}

section Steps

variable {after : SyncTraffic}

/-- The run of a delivery is where it was, and the lists have only grown. -/
structure Extends (state after : SyncTraffic) (tag : Nat) : Prop where
  memory : after.pool.memory (.consumer tag) = state.pool.memory (.consumer tag)
  rest : after.pool.rest (.consumer tag) = state.pool.rest (.consumer tag)
  loaded : after.loaded (.consumer tag) = state.loaded (.consumer tag)
  served : ∀ number ∈ state.served, number ∈ after.served
  failed : ∀ number ∈ state.failed, number ∈ after.failed
  retried : ∀ number ∈ state.retried, number ∈ after.retried

theorem Answered.mono {number : Nat} (answered : state.Answered number)
    (served : ∀ number ∈ state.served, number ∈ after.served)
    (failed : ∀ number ∈ state.failed, number ∈ after.failed) : after.Answered number :=
  answered.imp (served number) (failed number)

theorem Accounted.mono {stage : Stage}
    (accounted : state.Accounted tag message stage) (grown : Extends state after tag) :
    after.Accounted tag message stage := by
  cases stage with
  | handling =>
    obtain ⟨loaded, free, ended⟩ := accounted
    refine ⟨?_, ?_, ?_⟩
    · rw [grown.memory, grown.loaded]
      exact loaded
    · rw [grown.memory]
      exact free
    · rw [grown.rest]
      exact fun done => grown.served _ (ended done)
  | failed => exact fun spent => grown.failed _ (accounted spent)
  | settling =>
    exact accounted.imp (grown.retried tag)
      (fun answered => answered.mono grown.served grown.failed)
  | received => trivial
  | rejecting => trivial
  | finished => trivial

theorem carried_event {event : QueueEvent}
    (carries : (state.event event).Carries userID tag message work) :
    work.stage = .received ∨ ∃ before, state.Carries userID tag message before ∧ (work = before ∨
          TaskSystem.Progress tag (some message) event before.stage work.stage) := by
  obtain ⟨task, unacked, found⟩ := carries
  rcases (TaskSystem.change_step event).follows tag _ found with
    ⟨_, _, received⟩ | ⟨⟨body, before, unackedBefore⟩, foundBefore, sameMessage, moved⟩
  · exact Or.inl received
  · cases sameMessage
    exact Or.inr ⟨before, ⟨task, unackedBefore, foundBefore⟩, moved.imp_right And.right⟩

theorem retriedBy_mem {retrying : Retrying}
    (failed : state.Carries userID tag message ⟨process, .failed⟩)
    (fewer : message.retryCount < 2) : tag ∈ state.retriedBy (.retry tag retrying) := by
  obtain ⟨_, unacked, found⟩ := failed
  unfold retriedBy
  simp only [found, fewer, if_true]
  exact List.mem_singleton.mpr rfl

theorem Accounts.progress (accounts : Accounts userID state) {event : QueueEvent} {before : Work}
    (carried : state.Carries userID tag message before)
    (moved : TaskSystem.Progress tag (some message) event before.stage work.stage)
    (unhandled : event ≠ .handle tag) (unfinished : ∀ succeeded, event ≠ .finish tag succeeded) :
    (state.event event).Accounted tag message work.stage := by
  obtain ⟨process, stage⟩ := before
  obtain ⟨processAfter, stageAfter⟩ := work
  have accounted := accounts.deliveries tag message _ carried
  cases moved with
  | handled => exact absurd rfl unhandled
  | succeeded => exact absurd rfl (unfinished true)
  | failed => exact absurd rfl (unfinished false)
  | retried retrying _ decoded fewer ends =>
    cases decoded
    rcases ends with same | same
    · cases same
      exact Or.inl (List.mem_append_left _ (retriedBy_mem carried fewer))
    · cases same
      trivial
  | exhausted retrying decoded spent =>
    cases decoded
    exact Or.inr (Or.inr (accounted spent))
  | closed => trivial

theorem extends_event (event : QueueEvent) (tag : Nat) : Extends state (state.event event) tag :=
  ⟨rfl, rfl, rfl, fun _ member => member, fun _ member => member,
    fun _ member => List.mem_append_right _ member⟩

theorem Accounts.event (accounts : Accounts userID state) {event : QueueEvent}
    (apart : ¬state.Concerns userID event) : Accounts userID (state.event event) := by
  refine ⟨accounts.numbered.change (TaskSystem.change_step event), ?_⟩
  intro tag message work carries
  rcases carried_event carries with received | ⟨before, carried, same | moved⟩
  · rw [received]
    trivial
  · rw [same]
    exact (accounts.deliveries tag message before carried).mono (extends_event event tag)
  · apply accounts.progress carried moved
    · rintro rfl
      exact apart ⟨message, before, carried⟩
    · rintro succeeded rfl
      exact apart ⟨message, before, carried⟩

theorem Carries.unique {other : Message} {otherWork : Work}
    (carries : state.Carries userID tag message work)
    (again : state.Carries userID tag other otherWork) : message = other ∧ work = otherWork := by
  obtain ⟨_, unacked, found⟩ := carries
  obtain ⟨_, unackedAgain, foundAgain⟩ := again
  rw [found] at foundAgain
  cases foundAgain
  exact ⟨rfl, rfl⟩

variable {who : Runner}

theorem extends_start {activity : Activity} (different : .consumer tag ≠ who) :
    Extends state (state.start syncer userID who activity) tag :=
  ⟨Pool.memory_start_of_ne different, Pool.rest_start_of_ne different,
    update_of_ne different _ _, fun _ member => member, fun _ member => member,
    fun _ member => member⟩

theorem Accounts.start (accounts : Accounts userID state) (index : Nat) (activity : Activity) :
    Accounts userID (state.start syncer userID (.other index) activity) :=
  ⟨accounts.numbered, fun tag message work carries =>
    (accounts.deliveries tag message work carries).mono (extends_start nofun)⟩

theorem Extends.trans {middle : SyncTraffic} (first : Extends state middle tag)
    (second : Extends middle after tag) : Extends state after tag :=
  { memory := second.memory.trans first.memory
    rest := second.rest.trans first.rest
    loaded := second.loaded.trans first.loaded
    served := fun number member => second.served number (first.served number member)
    failed := fun number member => second.failed number (first.failed number member)
    retried := fun number member => second.retried number (first.retried number member) }

theorem Accounts.handle (accounts : Accounts userID state)
    (watched : state.pool.Watched (syncAttempts syncer userID) Unrestricted TellsApart)
    (received : state.Carries userID tag message ⟨process, .received⟩) :
    Accounts userID (state.handle syncer userID tag process) := by
  refine ⟨accounts.numbered.change (TaskSystem.change_step (.handle tag)), ?_⟩
  intro other otherMessage work carries
  have started : (state.event (.handle tag)).Carries userID other otherMessage work := carries
  rcases carried_event started with fresh | ⟨before, carried, same | moved⟩
  · rw [fresh]
    trivial
  · by_cases own : other = tag
    · subst own
      rw [same, (carried.unique received).2]
      trivial
    · rw [same]
      exact (accounts.deliveries other otherMessage before carried).mono
        ((extends_event _ other).trans
          (extends_start (fun equal => own (Runner.consumer.inj equal))))
  · by_cases own : other = tag
    · subst own
      -- The run has just begun, so it has not ended.
      have fresh := watched.start syncAttempts_disciplined (.consumer other) (.syncUser process)
      obtain ⟨processBefore, stageBefore⟩ := before
      obtain ⟨processAfter, stageAfter⟩ := work
      cases moved with
      | handled =>
        have unloaded : ((state.handle syncer userID other process).pool.memory
            (.consumer other)) = ⟨false, false⟩ := Pool.memory_start_self
        refine ⟨?_, ?_, ?_⟩
        · rw [unloaded]
          rintro ⟨⟩
        · rw [unloaded]
          exact fun _ => rfl
        · intro ended
          have loaded := (fresh.ended ended).1 rfl
          rw [Pool.memory_start_self] at loaded
          cases loaded
      | closed => trivial
    · refine (accounts.progress carried moved ?_ ?_).mono
        (extends_start (fun equal => own (Runner.consumer.inj equal)))
      · rintro ⟨⟩
        exact own rfl
      · rintro succeeded ⟨⟩

theorem extends_finish (tag number : Nat) (result : Except SyncError Unit) (other : Nat) :
    Extends (state.event (.finish tag result.isOk)) (state.finish tag number result) other := by
  refine ⟨rfl, rfl, rfl, fun _ member => member, ?_, fun _ member => member⟩
  intro failed member
  change failed ∈ failedAfter number state.failed result
  unfold failedAfter
  split
  · exact member
  · exact member
  · exact List.mem_cons_of_mem _ member

theorem Accounts.finish (accounts : Accounts userID state)
    (watched : state.pool.Watched (syncAttempts syncer userID) Unrestricted TellsApart)
    {result : Except SyncError Unit}
    (handling : state.Carries userID tag message ⟨process, .handling⟩)
    (ended : state.pool.rest (.consumer tag) = .done (.synced result)) :
    Accounts userID (state.finish tag message.number result) := by
  refine ⟨accounts.numbered.change (TaskSystem.change_step (.finish tag result.isOk)), ?_⟩
  intro other otherMessage work carries
  have stepped : (state.event (.finish tag result.isOk)).Carries userID other otherMessage work :=
    carries
  rcases carried_event stepped with fresh | ⟨before, carried, same | moved⟩
  · rw [fresh]
    trivial
  · rw [same]
    exact (accounts.deliveries other otherMessage before carried).mono
      ((extends_event _ other).trans (extends_finish tag message.number result other))
  · by_cases own : other = tag
    · subst own
      obtain ⟨rfl, rfl⟩ := carried.unique handling
      obtain ⟨loaded, free, served⟩ := accounts.deliveries other otherMessage _ carried
      have told := watched.ended ended
      obtain ⟨processAfter, stageAfter⟩ := work
      cases result with
      | ok nothing =>
        cases moved with
        | succeeded => exact Or.inr (Or.inl (served ended))
        | closed => trivial
      | error error =>
        cases moved with
        | failed =>
          intro spent
          change otherMessage.number ∈ failedAfter otherMessage.number state.failed (.error error)
          cases error with
          | alreadySyncing =>
            have contended := told.2 rfl
            rw [free spent] at contended
            cases contended
          | _ => exact List.mem_cons_self
        | closed => trivial
    · refine (accounts.progress carried moved ?_ ?_).mono (extends_finish tag _ result other)
      · rintro ⟨⟩
      · rintro succeeded ⟨⟩
        exact own rfl

theorem attemptAfter_loaded_eq (attempt : Attempt) (request : Request) (answer : request.Answer) :
    (attemptAfter userID attempt request answer).loaded =
      ((answeredProfile userID request answer).isSome || attempt.loaded) := by
  unfold attemptAfter
  split
  · rfl
  · rfl
  · split
    · rename_i answered
      rw [answered]
      rfl
    · rename_i unanswered
      rw [Bool.not_eq_true] at unanswered
      rw [unanswered]
      rfl

theorem contended_lastAttempt {attempt : Attempt} {request : Request} {outcome : Outcome}
    (own : who = .consumer tag) (carries : state.Carries userID tag message work)
    (spent : ¬message.retryCount < 2) (permitted : state.LastAttemptFree userID who request)
    (sound : request.locksProcess = true → outcome = .served) (free : attempt.contended = false) :
    (attemptAfter userID attempt request (state.pool.state.serve request outcome).2).contended =
      false := by
  obtain ⟨keyFree, processFree⟩ := permitted tag message work own carries spent
  cases request
  case lockKey owner =>
    cases outcome with
    | served =>
      have taken : state.pool.state.handle (.lockKey owner) = (_, some true) :=
        if_neg (by rw [keyFree owner rfl]; decide)
      change (attemptAfter userID attempt (.lockKey owner)
        (state.pool.state.handle (.lockKey owner)).2).contended = false
      rw [taken]
      exact free
    | lost error => exact free
    | late error => exact free
  case lockUser process owner =>
    cases sound rfl
    have taken : state.pool.state.handle (.lockUser process owner) = (_, true) :=
      if_neg (processFree process owner rfl)
    change (attemptAfter userID attempt (.lockUser process owner)
      (state.pool.state.handle (.lockUser process owner)).2).contended = false
    rw [taken]
    exact free
  all_goals
    unfold attemptAfter
    simp only
    split <;> exact free

section Serve

variable {who : Runner} {request : Request} {next : request.Answer → Program service Response}
  {outcome : Outcome}

theorem served_serve : ∀ number ∈ state.served,
    number ∈ (state.serve syncer userID who request next outcome).served := by
  intro number member
  unfold serve
  simp only
  split
  · exact List.mem_append_right _ member
  · exact member

theorem extends_serve (different : .consumer tag ≠ who) :
    Extends state (state.serve syncer userID who request next outcome) tag := by
  refine ⟨Pool.memory_serve_of_ne different, Pool.rest_serve_of_ne different, ?_, served_serve,
    fun _ member => member, fun _ member => member⟩
  unfold serve
  simp only
  split
  · exact update_of_ne different _ _
  · rfl

theorem Accounts.serve_own (accounts : Accounts userID state)
    (watched : (state.pool.serve (syncAttempts syncer userID) who request next outcome).Watched
      (syncAttempts syncer userID) Unrestricted TellsApart)
    (sound : request.locksProcess = true → outcome = .served)
    (permitted : state.LastAttemptFree userID who request) (own : who = .consumer tag)
    (carries : state.Carries userID tag message ⟨process, .handling⟩) :
    (state.serve syncer userID who request next outcome).Accounted tag message .handling := by
  subst own
  obtain ⟨loaded, free, ended⟩ := accounts.deliveries tag message _ carries
  have published : message.number ∈ state.tasks.accepted := by
    obtain ⟨_, unacked, found⟩ := carries
    exact accounts.numbered.2 _ (List.mem_of_getElem? found) message rfl
  have memory : (state.serve syncer userID (.consumer tag) request next outcome).pool.memory
      (.consumer tag) = attemptAfter userID (state.pool.memory (.consumer tag)) request
        (state.pool.state.serve request outcome).2 := Pool.memory_serve_self
  have known : ((state.serve syncer userID (.consumer tag) request next outcome).pool.memory
      (.consumer tag)).loaded = true → message.number ∈
        (state.serve syncer userID (.consumer tag) request next outcome).loaded
          (.consumer tag) := by
    rw [memory, attemptAfter_loaded_eq]
    intro loadedNow
    unfold serve
    simp only
    split
    · rw [update_self]
      exact published
    · rename_i unanswered
      rw [Bool.not_eq_true] at unanswered
      rw [unanswered] at loadedNow
      exact loaded loadedNow
  refine ⟨known, ?_, ?_⟩
  · intro spent
    rw [memory]
    exact contended_lastAttempt rfl carries spent permitted sound (free spent)
  · intro done
    have loadedNow := known ((watched.ended done).1 rfl)
    have answered : next (state.pool.state.serve request outcome).2 =
        .done (.synced (.ok ())) := Pool.rest_serve_self.symm.trans done
    change message.number ∈ (match next (state.pool.state.serve request outcome).2 with
      | .done (.synced (.ok _)) =>
        (state.serve syncer userID (.consumer tag) request next outcome).loaded
          (.consumer tag) ++ state.served
      | _ => state.served)
    rw [answered]
    exact List.mem_append_left _ loadedNow

theorem Accounts.serve (accounts : Accounts userID state)
    (watched : (state.pool.serve (syncAttempts syncer userID) who request next outcome).Watched
      (syncAttempts syncer userID) Unrestricted TellsApart)
    (sound : request.locksProcess = true → outcome = .served)
    (permitted : state.LastAttemptFree userID who request) :
    Accounts userID (state.serve syncer userID who request next outcome) := by
  refine ⟨accounts.numbered, ?_⟩
  rintro tag message ⟨process, stage⟩ carries
  have before : state.Carries userID tag message ⟨process, stage⟩ := carries
  have accounted := accounts.deliveries tag message _ before
  by_cases own : who = .consumer tag
  · cases stage with
    | handling => exact accounts.serve_own watched sound permitted own before
    | failed => exact accounted
    | settling =>
      refine Or.imp_right ?_ accounted
      exact fun answered => answered.mono served_serve (fun _ member => member)
    | received => trivial
    | rejecting => trivial
    | finished => trivial
  · exact accounted.mono (extends_serve (Ne.symm own))

end Serve

theorem Accounts.run {first last : SyncTraffic} (execution : ReflTransGen
      (TrafficStep syncer userID (LastAttemptFree userID)) first last)
    (watched : first.pool.Watched (syncAttempts syncer userID) Unrestricted TellsApart)
    (accounts : Accounts userID first) : Accounts userID last := by
  have both : last.pool.Watched (syncAttempts syncer userID) Unrestricted TellsApart ∧
      Accounts userID last := by
    induction execution with
    | refl => exact ⟨watched, accounts⟩
    | tail _ step ih =>
      obtain ⟨kept, holds⟩ := ih
      cases step with
      | event event apart => exact ⟨kept, holds.event apart⟩
      | handle tag process message received =>
        exact ⟨kept.start syncAttempts_disciplined _ _, holds.handle kept received⟩
      | finish tag process message result handling ended =>
        exact ⟨kept, holds.finish kept handling ended⟩
      | start index activity idle =>
        exact ⟨kept.start syncAttempts_disciplined _ _, holds.start index activity⟩
      | serve who request next outcome ready sound permitted =>
        have served := kept.serve ready outcome
        exact ⟨served, holds.serve served sound permitted⟩
      | pass after lapse => exact ⟨kept, holds.numbered, holds.deliveries⟩
  exact both.2

end Steps

/-! ### Schedules -/

def proceed (syncer : Syncer) (userID : Int) (who : Runner) (requests : Nat)
    (state : SyncTraffic) : SyncTraffic :=
  match requests, state.pool.rest who with
  | 0, _ => state
  | _ + 1, .done _ => state
  | requests + 1, .call request next =>
    (state.serve syncer userID who request next .served).proceed syncer userID who requests

def Allowed (syncer : Syncer) (userID : Int) (permits : SyncTraffic → Runner → Request → Prop)
    (who : Runner) (requests : Nat) (state : SyncTraffic) : Prop :=
  match requests, state.pool.rest who with
  | 0, _ => True
  | _ + 1, .done _ => True
  | requests + 1, .call request next =>
    permits state who request ∧
      (state.serve syncer userID who request next .served).Allowed syncer userID permits who
        requests

variable {permits : SyncTraffic → Runner → Request → Prop} {who : Runner}

theorem steps_proceed (requests : Nat)
    (allowed : state.Allowed syncer userID permits who requests) :
    ReflTransGen (TrafficStep syncer userID permits) state
      (state.proceed syncer userID who requests) := by
  induction requests generalizing state with
  | zero =>
    unfold proceed
    exact .refl
  | succ requests ih =>
    unfold proceed
    unfold Allowed at allowed
    cases ready : state.pool.rest who with
    | done value => exact .refl
    | call request next =>
      rw [ready] at allowed
      exact .head (.serve who request next .served ready (fun _ => rfl) allowed.1) (ih allowed.2)

theorem allowed_of_tasks (requests : Nat)
    (permitted : ∀ (later : SyncTraffic) request, later.tasks = state.tasks →
      permits later who request) :
    state.Allowed syncer userID permits who requests := by
  induction requests generalizing state with
  | zero =>
    unfold Allowed
    trivial
  | succ requests ih =>
    unfold Allowed
    cases state.pool.rest who with
    | done value => trivial
    | call request next => exact ⟨permitted state request rfl, ih permitted⟩

def new (world : World) : SyncTraffic :=
  { tasks := .new (fun _ => "amqp://localhost") (fun _ => true)
    pool :=
      { state := world
        job := fun _ => .me
        rest := fun _ => .done (.profile none)
        memory := fun _ => ⟨false, false⟩ }
    loaded := fun _ => []
    served := []
    failed := []
    retried := [] }

/-- A task of the first user is published, and the consumers are running. -/
def published (state : SyncTraffic) : SyncTraffic :=
  ((state.event (.publish 0 7 (.sync 1))).event (.send 7 .confirmed)).event (.startConsumers 0)

theorem steps_published (state : SyncTraffic) :
    ReflTransGen (TrafficStep syncer userID permits) state state.published :=
  ((ReflTransGen.single (.event (.publish 0 7 (.sync 1)) not_false)).tail
    (.event (.send 7 .confirmed) not_false)).tail (.event (.startConsumers 0) not_false)

/-- No task has been published and nobody is at work. -/
structure Unused (state : SyncTraffic) : Prop where
  queued : state.tasks.broker.queued = []
  deliveries : state.tasks.broker.deliveries = []
  idle : ∀ who, ∃ answer, state.pool.rest who = .done (.profile answer)

end SyncTraffic

/-- When the consumer is about to acknowledge a task of the user that it has not
published again, a run that loaded the profile after the publication has returned
nil, or a delivery of the task has failed for another reason than the lock. -/
theorem contended_task_answered {syncer : Syncer} {userID : Int} {first last : SyncTraffic}
    (unused : first.Unused)
    (execution : ReflTransGen
      (TrafficStep syncer userID (SyncTraffic.LastAttemptFree userID)) first last)
    {tag process : Nat} {message : Message}
    (settling : last.Carries userID tag message ⟨process, .settling⟩)
    (unpublished : tag ∉ last.retried) :
    message.number ∈ last.served ∨ message.number ∈ last.failed := by
  have watched : first.pool.Watched (syncAttempts syncer userID) Unrestricted TellsApart := by
    intro who
    obtain ⟨answer, done⟩ := unused.idle who
    rw [done]
    exact ⟨(by rintro ⟨⟩), (by rintro ⟨⟩)⟩
  have accounts : SyncTraffic.Accounts userID first := by
    refine ⟨⟨?_, ?_⟩, ?_⟩
    · rw [unused.queued]
      exact nofun
    · rw [unused.deliveries]
      exact nofun
    · rintro other otherMessage work ⟨_, unacked, found⟩
      rw [unused.deliveries] at found
      cases found
  have accounted := (SyncTraffic.Accounts.run execution watched accounts).deliveries tag message _
    settling
  exact accounted.resolve_left unpublished

namespace SyncTraffic

def AnyAttempt (_state : SyncTraffic) (_who : Runner) (_request : Request) : Prop :=
  True

/-- A run has loaded the profile and holds the lock when a task is published. -/
def blocked : SyncTraffic :=
  (((new loggedIn).start cachingSyncer 1 (.other 0) (.syncUser 0)).proceed cachingSyncer 1
    (.other 0) 3).published

/-- A delivery that finds the lock taken, up to the decision about its retry. -/
def attempt (state : SyncTraffic) (tag : Nat) : SyncTraffic :=
  ((((state.event (.deliver 0 0)).handle cachingSyncer 1 tag 0).proceed cachingSyncer 1
    (.consumer tag) 1).finish tag 7 (.error .alreadySyncing)).event (.retry tag (.sent .confirmed))

variable {permits : SyncTraffic → Runner → Request → Prop} {state : SyncTraffic}

theorem steps_attempt {tag : Nat} {retryCount : Int} (permitted : ∀ (later : SyncTraffic) request,
      later.tasks = ((state.event (.deliver 0 0)).handle cachingSyncer 1 tag 0).tasks →
      permits later (.consumer tag) request)
    (received : (state.event (.deliver 0 0)).Carries 1 tag ⟨7, .sync 1, retryCount⟩ ⟨0, .received⟩)
    (handling : (((state.event (.deliver 0 0)).handle cachingSyncer 1 tag 0).proceed cachingSyncer 1
      (.consumer tag) 1).Carries 1 tag ⟨7, .sync 1, retryCount⟩ ⟨0, .handling⟩)
    (contended : (((state.event (.deliver 0 0)).handle cachingSyncer 1 tag 0).proceed
      cachingSyncer 1 (.consumer tag) 1).pool.rest (.consumer tag) =
        .done (.synced (.error .alreadySyncing))) :
    ReflTransGen (TrafficStep cachingSyncer 1 permits) state (state.attempt tag) := by
  have begun : ReflTransGen (TrafficStep cachingSyncer 1 permits) state
      ((state.event (.deliver 0 0)).handle cachingSyncer 1 tag 0) :=
    (ReflTransGen.single (.event (.deliver 0 0) not_false)).tail (.handle tag 0 _ received)
  exact ((begun.trans (steps_proceed 1 (allowed_of_tasks 1 permitted))).tail
    (.finish tag 0 _ _ handling contended)).tail (.event (.retry tag (.sent .confirmed)) not_false)

def contended : SyncTraffic :=
  (blocked.attempt 0).attempt 1

theorem steps_contended (unspent : ∀ (state : SyncTraffic) who request,
      (∀ tag message work, who = .consumer tag → state.Carries 1 tag message work →
        message.retryCount < 2) → permits state who request) :
    ReflTransGen (TrafficStep cachingSyncer 1 permits) (new loggedIn) contended := by
  have loaded : ReflTransGen (TrafficStep cachingSyncer 1 permits) (new loggedIn)
      (((new loggedIn).start cachingSyncer 1 (.other 0) (.syncUser 0)).proceed cachingSyncer 1
        (.other 0) 3) := by
    refine .head (.start 0 (.syncUser 0) ⟨_, rfl⟩) (steps_proceed 3 (allowed_of_tasks 3 ?_))
    exact fun later request _ => unspent later _ request (by rintro _ _ _ ⟨⟩)
  have first : ReflTransGen (TrafficStep cachingSyncer 1 permits) blocked (blocked.attempt 0) := by
    refine steps_attempt ?_ ⟨rfl, true, rfl⟩ ⟨rfl, true, rfl⟩ rfl
    intro later request same
    refine unspent later _ request ?_
    rintro tag message work ⟨⟩ ⟨_, unacked, found⟩
    rw [same] at found
    cases found
    decide
  have second : ReflTransGen (TrafficStep cachingSyncer 1 permits) (blocked.attempt 0)
      contended := by
    refine steps_attempt ?_ ⟨rfl, true, rfl⟩ ⟨rfl, true, rfl⟩ rfl
    intro later request same
    refine unspent later _ request ?_
    rintro tag message work ⟨⟩ ⟨_, unacked, found⟩
    rw [same] at found
    cases found
    decide
  exact ((loaded.trans (steps_published _)).trans first).trans second

/-- The run that held the lock has ended, and the third delivery is handed to another. -/
def handled : SyncTraffic :=
  ((contended.proceed cachingSyncer 1 (.other 0) 20).event (.deliver 0 0)).handle
    cachingSyncer 1 2 0

theorem lastAttemptFree_of_unlocking {userID : Int} {who : Runner}
    {request : Request} (key : ∀ owner, request ≠ .lockKey owner)
    (process : ∀ process owner, request ≠ .lockUser process owner) :
    state.LastAttemptFree userID who request :=
  fun _ _ _ _ _ _ => ⟨fun owner same => absurd same (key owner),
    fun number owner same => absurd same (process number owner)⟩

end SyncTraffic

/-- Two deliveries find the lock taken, and the third finds it free. -/
theorem contended_task_answered_third :
    let last := (SyncTraffic.handled.proceed cachingSyncer 1 (.consumer 2) 20).finish 2 7 (.ok ())
    7 ∈ last.served ∨ 7 ∈ last.failed := by
  intro last
  have twice : ReflTransGen
      (TrafficStep cachingSyncer 1 (SyncTraffic.LastAttemptFree 1)) (SyncTraffic.new loggedIn)
      SyncTraffic.contended :=
    SyncTraffic.steps_contended fun state who request few tag message work same carries spent =>
      absurd (few tag message work same carries) spent
  have released : ReflTransGen
      (TrafficStep cachingSyncer 1 (SyncTraffic.LastAttemptFree 1)) SyncTraffic.contended
      SyncTraffic.handled := by
    refine ((SyncTraffic.steps_proceed 20 (SyncTraffic.allowed_of_tasks 20 ?_)).tail
      (.event (.deliver 0 0) not_false)).tail (.handle 2 0 ⟨7, .sync 1, 2⟩ ⟨rfl, true, rfl⟩)
    rintro later request _ tag message work ⟨⟩
  have allowed : SyncTraffic.handled.Allowed cachingSyncer 1 (SyncTraffic.LastAttemptFree 1)
      (.consumer 2) 20 := by
    refine ⟨?_, ?_⟩
    · rintro tag message work _ _ _
      refine ⟨?_, ?_⟩
      · rintro owner ⟨⟩
        rfl
      · rintro process owner ⟨⟩
    · -- Past the lock a run takes no other.
      iterate 8
        refine ⟨SyncTraffic.lastAttemptFree_of_unlocking (by rintro _ ⟨⟩) (by rintro _ _ ⟨⟩), ?_⟩
      trivial
  have finished : TrafficStep cachingSyncer 1 (SyncTraffic.LastAttemptFree 1)
      (SyncTraffic.handled.proceed cachingSyncer 1 (.consumer 2) 20) last :=
    .finish 2 0 ⟨7, .sync 1, 2⟩ (.ok ()) ⟨rfl, true, rfl⟩ rfl
  have settling : last.Carries 1 2 ⟨7, .sync 1, 2⟩ ⟨0, .settling⟩ := ⟨rfl, true, rfl⟩
  exact contended_task_answered ⟨rfl, rfl, fun _ => ⟨_, rfl⟩⟩
    (((twice.trans released).trans (SyncTraffic.steps_proceed 20 allowed)).tail finished) settling
    (by decide)

/-- Three deliveries of one task find the lock taken by a run that has loaded the
profile before the task was published. The third is acknowledged, and nothing has
answered the task. -/
theorem contended_task_lost :
    let last := ((SyncTraffic.blocked.attempt 0).attempt 1).attempt 2
    ReflTransGen (TrafficStep cachingSyncer 1 SyncTraffic.AnyAttempt)
        (SyncTraffic.new loggedIn) last ∧
      last.Carries 1 2 ⟨7, .sync 1, 2⟩ ⟨0, .settling⟩ ∧ 2 ∉ last.retried ∧
      7 ∉ last.served ∧ 7 ∉ last.failed := by
  intro last
  have third : ReflTransGen (TrafficStep cachingSyncer 1 SyncTraffic.AnyAttempt)
      SyncTraffic.contended last :=
    SyncTraffic.steps_attempt (fun _ _ _ => trivial) ⟨rfl, true, rfl⟩ ⟨rfl, true, rfl⟩ rfl
  exact ⟨(SyncTraffic.steps_contended fun _ _ _ _ => trivial).trans third,
    ⟨rfl, true, rfl⟩, by decide, by decide, by decide⟩

end ContestSync
