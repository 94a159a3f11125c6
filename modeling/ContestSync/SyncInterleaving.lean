/-
Concurrent runs of `SyncUser` for one user in separate processes, without the
lock that Valkey provides. The runs overtake each other at every request. All of
them carry out the same plan, so each may rely on what the others guarantee.
-/

import ContestSync.SyncRecovery

namespace ContestSync

open Reconciliation Resumable

variable {ι : Type} [DecidableEq ι]

/-- Whatever point an interleaving has reached, it is one of the plan; and once
a run has finished, it is the plan's end. -/
theorem reaches_of_interleaved {userID : Int} {calendarID : String} {start last : World}
    {plan : Plan (start.snapshot userID calendarID)} {syncers : ι → Syncer}
    {decryptToken : String → Option String}
    (carried : CarriedOut decryptToken userID calendarID start plan)
    (uncached : ∀ who, (syncers who).valkey = false)
    (sameKey : ∀ who, (syncers who).decryptToken = decryptToken)
    (separate : ∀ first second, (syncers first).process = (syncers second).process → first = second)
    (free : ∀ who, ((syncers who).process, userID) ∉ start.syncing)
    {residue : ι → Program service (Except SyncError Unit)}
    (run : Interleaved environment served World.Tick start
      (fun who => (syncers who).syncUser userID) last residue) :
    Reaches userID calendarID plan start last ∧ ∀ who result, residue who = .done result →
        plan.Settled (last.snapshot userID calendarID) := by
  have stably : ∀ who, Stably (runContract userID calendarID plan served (syncers who).process)
      (Finished userID calendarID plan served (syncers who).process (fun _ => True))
      ((syncers who).syncUser userID) start :=
    fun who => carried.stably (syncers who) (uncached who) (sameKey who) served
      served_tolerable start (.refl start) (free who)
  obtain ⟨path, left⟩ := Stably.interleaved
    (fun who => runContract userID calendarID plan served (syncers who).process)
    (fun _ _ _ admitted => admitted) (fun _ => runContract_steady)
    (by
      intro actor other first last different kept
      refine ⟨kept.1, kept.2 _ ?_⟩
      intro same
      exact different (separate _ _ same).symm)
    run stably
  have advances : Advances userID calendarID plan start last := by
    refine .of_path (Relation.ReflTransGen.mono ?_ _ _ path)
    rintro before after (⟨who, kept⟩ | tick)
    · exact kept.1
    · exact .of_tick tick
  refine ⟨advances.toReaches, ?_⟩
  intro who result finished
  have ended := left who
  rw [finished] at ended
  obtain ⟨_, _, complete⟩ := ended.now runContract_steady
  exact (plan.between_start.moves advances.moves).settled (complete served_faultless)

/-- Concurrent runs end as a single run does, and on the way a contest has
neither two rows nor two events: a new event stands under the id of its
contest. -/
theorem syncUser_interleaved (syncers : ι → Syncer) (userID : Int) (start : World)
    (row : UserRow) (calendarID : String) (decryptToken : String → Option String)
    (uncached : ∀ who, (syncers who).valkey = false)
    (sameKey : ∀ who, (syncers who).decryptToken = decryptToken)
    (separate : ∀ first second, (syncers first).process = (syncers second).process → first = second)
    (free : ∀ who, ((syncers who).process, userID) ∉ start.syncing)
    (stored : start.database.users.find userID = some row)
    (determined : ∀ user, scanSyncProfile row = some user →
      determinedCalendar user = some calendarID)
    (faithful : start.Faithful userID row.googleID)
    (apart : start.EventIDsApart row.googleID)
    {last : World} {residue : ι → Program service (Except SyncError Unit)}
    (run : Interleaved environment served World.Tick start
      (fun who => (syncers who).syncUser userID) last residue) :
    (∀ contestID first second, ⟨userID, contestID, first⟩ ∈ last.database.syncedEvents.rows →
        ⟨userID, contestID, second⟩ ∈ last.database.syncedEvents.rows → first = second) ∧
      (∀ eventID event, (last.accounts userID).shown calendarID eventID = some event →
        (start.accounts userID).shown calendarID eventID = some event ∨
          ∃ contest ∈ start.database.contests.rows,
            eventID = generateDeterministicEventID row.googleID contest.id ∧
              ∃ timezone, event = contestEvent row.googleID timezone contest) ∧
      ((∀ who, ∃ result, residue who = .done result) → ∀ who single singleResult,
          Steps environment served World.Tick start ((syncers who).syncUser userID) single
            (.done singleResult) →
          (∀ row, row ∈ last.database.syncedEvents.rows ↔ row ∈ single.database.syncedEvents.rows) ∧
          ∀ calendarID eventID, (last.accounts userID).shown calendarID eventID =
            (single.accounts userID).shown calendarID eventID) := by
  obtain ⟨plan, carried⟩ := exists_carriedOut decryptToken stored determined faithful apart
  obtain ⟨toLast, lastSettled⟩ := reaches_of_interleaved carried uncached sameKey separate free run
  refine ⟨?_, ?_, ?_⟩
  · intro contestID first second inFirst inSecond
    have same := Keyed.Table.row_eq_of_key inFirst inSecond rfl
    exact congrArg SyncedEvent.googleEventID same
  · intro eventID event shown
    have between := plan.between_start.moves toLast.moves
    rcases between.origin shown with already | ⟨contestID, wanted, rfl⟩
    · exact Or.inl already
    · obtain ⟨other, contest, timezone, found, known, rfl, named, built⟩ :=
        carried.wanted contestID event wanted
      cases stored.symm.trans found
      exact Or.inr ⟨contest, known, named, timezone, built⟩
  · intro finished who single singleResult singleRun
    obtain ⟨result, ended⟩ := finished who
    obtain ⟨toSingle, singleEnds⟩ := reaches_of_steps
      (carried.stably (syncers who) (uncached who) (sameKey who) served served_tolerable start
        (.refl start) (free who)) (.refl start) singleRun
    exact same_of_settled toLast toSingle (lastSettled who result ended)
      ((singleEnds _ rfl).2.2 served_faultless)

def sampleProcesses (worker : Bool) : Syncer :=
  { sampleSyncer with process := if worker then 1 else 0 }

/-- What the server still has to do, next to the worker. -/
def sampleRuns (server : Program service (Except SyncError Unit)) (worker : Bool) :
    Program service (Except SyncError Unit) :=
  if worker then (sampleProcesses true).syncUser 1 else server

/-- The server has entered and read the profile of the user when the worker makes a whole run, and
then goes on. -/
theorem syncUser_worker_within_server :
    ∃ begun request next last residue, Interleaved environment served World.Tick sampleWorld
        (sampleRuns ((sampleProcesses false).syncUser 1)) begun (sampleRuns (.call request next)) ∧
      (0, 1) ∈ begun.syncing ∧
      Interleaved environment served World.Tick begun (sampleRuns (.call request next)) last
        residue ∧
      (∀ worker, ∃ result, residue worker = .done result) ∧
      ∀ single singleResult,
        Steps environment served World.Tick sampleWorld ((sampleProcesses false).syncUser 1)
          single (.done singleResult) →
        ∀ row, row ∈ last.database.syncedEvents.rows ↔ row ∈ single.database.syncedEvents.rows := by
  have both : (fun worker => (sampleProcesses worker).syncUser 1) =
      sampleRuns ((sampleProcesses false).syncUser 1) := by
    funext worker
    cases worker <;> rfl
  obtain ⟨begun, request, next, begins, inside⟩ : ∃ begun request next,
      Steps environment served World.Tick sampleWorld ((sampleProcesses false).syncUser 1) begun
        (.call request next) ∧ (0, 1) ∈ begun.syncing :=
    ⟨_, _, _, .call .served rfl (.call .served rfl (.refl _ _)), by decide⟩
  obtain ⟨middle, second, within⟩ : ∃ middle second, Steps environment served World.Tick begun
      ((sampleProcesses true).syncUser 1) middle (.done second) :=
    ⟨_, _, complete_served _ _⟩
  obtain ⟨last, first, ends⟩ : ∃ last first, Steps environment served World.Tick middle
      (.call request next) last (.done first) :=
    ⟨_, _, complete_served _ _⟩
  have entered := begins.interleaved (sampleRuns ((sampleProcesses false).syncUser 1)) false rfl
  have waiting : Function.update (sampleRuns ((sampleProcesses false).syncUser 1)) false
      (.call request next) = sampleRuns (.call request next) := by
    funext worker
    cases worker <;> rfl
  rw [waiting] at entered
  have continued := (within.interleaved (sampleRuns (.call request next)) true rfl).trans
    (ends.interleaved _ false rfl)
  have finished : ∀ worker, ∃ result, Function.update (Function.update
      (sampleRuns (.call request next)) true (.done second)) false (.done first) worker =
        .done result := by
    intro worker
    cases worker with
    | false => exact ⟨first, rfl⟩
    | true => exact ⟨second, rfl⟩
  have run := entered.trans continued
  rw [← both] at run
  obtain ⟨_, _, same⟩ := syncUser_interleaved sampleProcesses 1 sampleWorld sampleRow "primary"
    some (fun _ => rfl) (fun _ => rfl) (by decide) (by decide) (by decide)
    (by
      intro user scanned
      cases scanned
      rfl)
    sampleWorld_faithful sampleWorld_apart run
  refine ⟨begun, request, next, last, _, entered, inside, continued, finished, ?_⟩
  intro single singleResult singleRun
  exact (same finished false single singleResult singleRun).1

end ContestSync
