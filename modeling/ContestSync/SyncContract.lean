/-
The contract of a run of `SyncUser` without a cache. Whatever a run does for its
user and calendar has to advance one plan; the lock of the process is its own.
The rules below are the ones all proofs about such runs are made of.
-/

import ContestSync.SyncSnapshot
import ContestSync.Resumable.RelyGuarantee

namespace ContestSync

open Reconciliation Resumable

/-! ### Outcomes -/

namespace Request

/-- The calls that write an event or record it: a run goes on when one fails. -/
def fragile : Request → Bool
  | .insertEvent _ _ _ _ => true
  | .updateEvent _ _ _ _ _ => true
  | .insertSynced _ => true
  | _ => false

end Request

def Outcome.revoked : Outcome → Bool
  | .served => false
  | .lost error => error.revoked
  | .late error => error.revoked

/-- A fragile call may fail, before or after it took effect, with any error
that does not tell of a revoked token. -/
def Tolerable (request : Request) (outcome : Outcome) : Prop :=
  outcome = .served ∨ request.fragile = true ∧ outcome.revoked = false

/-- Every request is served. -/
def Faultless (admits : environment.Admits) : Prop :=
  ∀ request outcome, admits request outcome → outcome = .served

variable {request : Request}

theorem World.syncing_handle (world : World) (unlocked : request.locksProcess = false) :
    (world.handle request).1.syncing = world.syncing := by
  cases request <;> first | rfl | cases unlocked
  all_goals
    unfold World.handle
    simp only
    split <;> rfl

theorem World.syncing_serve (world : World)
    (unlocked : request.locksProcess = false) (outcome : Outcome) :
    (world.serve request outcome).1.syncing = world.syncing := by
  cases outcome with
  | served => exact world.syncing_handle unlocked
  | lost error => rfl
  | late error => exact world.syncing_handle unlocked

def served (_request : Request) (outcome : Outcome) : Prop :=
  outcome = .served

theorem served_tolerable (request : Request) (outcome : Outcome)
    (admitted : served request outcome) : Tolerable request outcome :=
  Or.inl admitted

theorem served_faultless : Faultless served :=
  fun _ _ admitted => admitted

theorem complete_served {α : Type} (program : Program service α) (start : World) :
    Steps environment served World.Tick start program
      (complete environment (fun _ _ => .served) program start).1
      (.done (complete environment (fun _ _ => .served) program start).2) :=
  complete_steps environment served World.Tick (fun _ _ => .served) (fun _ _ => rfl) program start

/-! ### The contract -/

def runContract (userID : Int) (calendarID : String) {initial : Snapshot String String Event}
    (plan : Plan initial) (admits : environment.Admits) (process : Nat) : Contract environment :=
  { admits := admits
    rely := fun before after => Advances userID calendarID plan before after ∧
      ((process, userID) ∈ after.syncing ↔ (process, userID) ∈ before.syncing)
    guarantee := fun before after => Advances userID calendarID plan before after ∧
      ∀ other, other ≠ process →
        ((other, userID) ∈ after.syncing ↔ (other, userID) ∈ before.syncing) }

/-- A contract under which a run can carry out the plan. -/
structure Hosts (userID : Int) (calendarID : String) {initial : Snapshot String String Event}
    (plan : Plan initial) (process : Nat) (contract : Contract environment) : Prop where
  tolerable : ∀ request outcome, contract.admits request outcome → Tolerable request outcome
  advances : ∀ before after, contract.rely before after →
    Advances userID calendarID plan before after
  lock : ∀ before after, contract.rely before after →
    ((process, userID) ∈ after.syncing ↔ (process, userID) ∈ before.syncing)
  guarantee : ∀ before after, Advances userID calendarID plan before after →
    (∀ other, other ≠ process →
      ((other, userID) ∈ after.syncing ↔ (other, userID) ∈ before.syncing)) →
    contract.guarantee before after

variable {syncer : Syncer}

section Rules

variable {userID : Int} {calendarID : String} {initial : Snapshot String String Event}
  {plan : Plan initial} {admits : environment.Admits} {process : Nat}

theorem runContract_hosts
    (tolerable : ∀ request outcome, admits request outcome → Tolerable request outcome) :
    Hosts userID calendarID plan process (runContract userID calendarID plan admits process) :=
  { tolerable := tolerable
    advances := fun _ _ allowed => allowed.1
    lock := fun _ _ allowed => allowed.2
    guarantee := fun _ _ advances others => ⟨advances, others⟩ }

theorem runContract_steady :
    (runContract userID calendarID plan admits process).Steady World.Tick :=
  { reflexive := fun state => ⟨.refl state, Iff.rfl⟩
    transitive := fun _ _ _ left right =>
      ⟨left.1.trans right.1, right.2.trans left.2⟩
    absorbs := by
      intro first last tick
      refine ⟨.of_tick tick, ?_⟩
      obtain ⟨now, rfl, _⟩ := tick
      exact Iff.rfl }

variable {contract : Contract environment} (hosts : Hosts userID calendarID plan process contract)
  {α : Type} {post : α → World → Prop} {world : World}
include hosts

variable {next : request.Answer → Program service α} {answers : Except SyncError Unit → Prop}

theorem ensures_ask (unlocked : request.locksProcess = false)
    (effect : ∀ outcome, contract.admits request outcome →
      Advances userID calendarID plan world (world.serve request outcome).1 ∧
        ∀ answer, answer = (world.serve request outcome).2 →
          ∀ later, Advances userID calendarID plan (world.serve request outcome).1 later →
            Ensures contract.spec post (next answer) later) :
    Ensures contract.spec post (ask request >>= next) world := by
  intro outcome admitted
  obtain ⟨advances, follows⟩ := effect outcome admitted
  refine ⟨hosts.guarantee _ _ advances ?_,
    fun later allowed => follows _ rfl later (hosts.advances _ _ allowed)⟩
  intro other _different
  change (other, userID) ∈ (world.serve request outcome).1.syncing ↔ _
  rw [world.syncing_serve unlocked]

theorem ensures_served (unlocked : request.locksProcess = false) (sturdy : request.fragile = false)
    (advances : Advances userID calendarID plan world (world.handle request).1)
    (follows : ∀ answer, answer = (world.handle request).2 →
      ∀ later, Advances userID calendarID plan (world.handle request).1 later →
        Ensures contract.spec post (next answer) later) :
    Ensures contract.spec post (ask request >>= next) world := by
  apply ensures_ask hosts unlocked
  intro outcome admitted
  rcases hosts.tolerable request outcome admitted with rfl | ⟨fragile, _⟩
  · exact ⟨advances, follows⟩
  · rw [sturdy] at fragile
    cases fragile

/-- A fragile request has taken effect or not when it fails; the plan has
advanced in both cases. -/
theorem ensures_fragile (unlocked : request.locksProcess = false)
    (advances : Advances userID calendarID plan world (world.handle request).1)
    (served : ∀ answer, answer = (world.handle request).2 →
      ∀ later, Advances userID calendarID plan (world.handle request).1 later →
        Ensures contract.spec post (next answer) later)
    (failed : ∀ error, error.revoked = false → ¬Faultless contract.admits →
      ∀ later, Advances userID calendarID plan world later →
        Ensures contract.spec post (next (request.failure error)) later) :
    Ensures contract.spec post (ask request >>= next) world := by
  apply ensures_ask hosts unlocked
  intro outcome admitted
  have faulty : outcome ≠ .served → ¬Faultless contract.admits :=
    fun unserved faultless => unserved (faultless _ _ admitted)
  have harmless : outcome.revoked = false := by
    rcases hosts.tolerable request outcome admitted with rfl | ⟨_, harmless⟩
    · rfl
    · exact harmless
  cases outcome with
  | served => exact ⟨advances, served⟩
  | lost error =>
    refine ⟨.refl world, ?_⟩
    rintro _ rfl later further
    exact failed error harmless (faulty Outcome.noConfusion) later further
  | late error =>
    refine ⟨advances, ?_⟩
    rintro _ rfl later further
    exact failed error harmless (faulty Outcome.noConfusion) later (advances.trans further)

/-! ### The status and the lock -/

omit hosts in
theorem advances_updateUser (id : Int) (change : Database.UserChange)
    (keepsProfile : ∀ row, scanSyncProfile (change.apply row) = scanSyncProfile row) :
    Advances userID calendarID plan world
      (world.setDatabase (world.database.updateUser id change)) := by
  refine ⟨.of_unchanged (Unchanged.setDatabase rfl ?_ (fun _ _ => Iff.rfl)) rfl rfl, rfl⟩
  intro row found
  rw [Database.find_updateUser]
  split
  · rw [found]
    exact ⟨_, rfl, keepsProfile row⟩
  · exact ⟨row, found, rfl⟩

theorem ensures_loadProfile (uncached : syncer.valkey = false)
    {start : World} {row : UserRow} (stored : start.database.users.find userID = some row)
    (started : Reaches userID calendarID plan start world) :
    Ensures contract.spec (fun found later => Advances userID calendarID plan world later ∧
        found = scanSyncProfile row)
      (syncer.loadProfile userID) world := by
  unfold Syncer.loadProfile
  rw [uncached]
  apply ensures_served hosts rfl rfl (.refl world)
  intro answer answered later further
  obtain ⟨next, found, same⟩ := started.unchanged.profile row stored
  cases answered.trans (congrArg some found)
  change Ensures _ _ (fillProfile false userID (scanSyncProfile next)) _
  rw [same]
  cases scanSyncProfile row with
  | none => exact ⟨further, rfl⟩
  | some user => exact ⟨further, rfl⟩

theorem ensures_syncLoaded (uncached : syncer.valkey = false) {user : CachedUser}
    (body : ∀ ready, Advances userID calendarID plan world ready → Ensures contract.spec
        (fun result later => answers result ∧
          (Faultless contract.admits → plan.Complete (later.snapshot userID calendarID)))
        (syncer.syncProfile userID user) ready) :
    Ensures contract.spec (fun result later => answers result ∧
        (Faultless contract.admits → plan.Complete (later.snapshot userID calendarID)))
      (syncer.syncLoaded userID user) world := by
  have marks : Advances userID calendarID plan world (world.handle (.markSyncing userID)).1 :=
    advances_updateUser userID Database.markSyncing (fun _ => rfl)
  apply ensures_served hosts rfl rfl marks
  rintro _ _ marked marking
  refine (body marked (marks.trans marking)).then ?_
  rintro result synced ⟨answered, complete⟩
  have finishes : ∀ status, Advances userID calendarID plan synced
      (synced.handle (.markSynced userID status)).1 :=
    fun status => advances_updateUser userID (Database.markSynced status synced.now) (fun _ => rfl)
  apply ensures_served hosts rfl rfl (finishes _)
  rintro _ _ last finishing
  apply ensures_ite
  · intro cached
    rw [uncached] at cached
    cases cached
  · intro _
    exact ⟨answered, fun faultless =>
      (complete faultless).later ((finishes _).trans finishing).lasts⟩

omit hosts in
theorem advances_syncing (held : List (Nat × Int)) :
    Advances userID calendarID plan world { world with syncing := held } :=
  ⟨.of_unchanged (.of_same rfl rfl rfl) rfl rfl, rfl⟩

/-- What is known at the end of a run: its answer, that the lock is free again,
and that the plan is complete unless something failed. -/
def Finished (userID : Int) (calendarID : String) (plan : Plan initial)
    (admits : environment.Admits) (process : Nat) (answers : Except SyncError Unit → Prop)
    (result : Except SyncError Unit) (later : World) : Prop :=
  answers result ∧ (process, userID) ∉ later.syncing ∧
    (Faultless admits → plan.Complete (later.snapshot userID calendarID))

theorem ensures_unlockUser {result : Except SyncError Unit} (answered : answers result)
    (complete : Faultless contract.admits → plan.Complete (world.snapshot userID calendarID)) :
    Ensures contract.spec (Finished userID calendarID plan contract.admits process answers)
      (do
        ask (.unlockUser process userID)
        return result) world := by
  intro outcome admitted
  rcases hosts.tolerable _ _ admitted with rfl | ⟨fragile, _⟩
  · have unlocks : Advances userID calendarID plan world
        (world.handle (.unlockUser process userID)).1 := advances_syncing _
    refine ⟨hosts.guarantee _ _ unlocks ?_, ?_⟩
    · intro other different
      simp [World.serve, World.handle, different]
    · intro later allowed
      refine ⟨answered, ?_, fun faultless => (complete faultless).later
        (unlocks.lasts.trans (hosts.advances _ _ allowed).lasts)⟩
      intro held
      have kept := (hosts.lock _ _ allowed).mp held
      simp [World.serve, World.handle] at kept
  · cases fragile

omit hosts in
theorem stably_syncUser (hosts : Hosts userID calendarID plan syncer.process contract)
    (uncached : syncer.valkey = false) (free : (syncer.process, userID) ∉ world.syncing)
    (body : ∀ ready, Advances userID calendarID plan world ready → Ensures contract.spec
        (fun result later => answers result ∧
          (Faultless contract.admits → plan.Complete (later.snapshot userID calendarID)))
        (syncer.syncLocked userID) ready) :
    Stably contract (Finished userID calendarID plan contract.admits syncer.process answers)
      (syncer.syncUser userID) world := by
  intro ready allowed
  have onward := hosts.advances _ _ allowed
  have stillFree : (syncer.process, userID) ∉ ready.syncing :=
    fun held => free ((hosts.lock _ _ allowed).mp held)
  have locked : ready.handle (.lockUser syncer.process userID) =
      ({ ready with syncing := (syncer.process, userID) :: ready.syncing }, true) := by
    simp only [World.handle, if_neg stillFree]
  have locks : Advances userID calendarID plan ready
      (ready.handle (.lockUser syncer.process userID)).1 := by
    rw [locked]
    exact advances_syncing _
  unfold Syncer.syncUser
  rw [uncached]
  intro outcome admitted
  rcases hosts.tolerable _ _ admitted with rfl | ⟨fragile, _⟩
  · refine ⟨hosts.guarantee _ _ locks ?_, ?_⟩
    · intro other different
      change (other, userID) ∈ (World.handle ready _).1.syncing ↔ _
      rw [locked]
      simp [different]
    · intro later relied
      apply ensures_ite
      · intro _granted
        refine (body later (onward.trans (locks.trans (hosts.advances _ _ relied)))).then ?_
        rintro result last ⟨answered, complete⟩
        exact ensures_unlockUser hosts answered complete
      · intro refused
        exact absurd (congrArg Prod.snd locked) refused
  · cases fragile

end Rules

end ContestSync
