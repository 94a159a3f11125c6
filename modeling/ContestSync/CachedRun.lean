/-
The body of a run of `SyncUser` with Valkey. When the cached lists of contests are
what the query would answer, and the cached list of synced contests has every row
of the user and no contest the run would have to put up, the run carries out the
same plan as one without a cache, and it leaves the caches in such a state.
-/

import ContestSync.SyncConvergence
import ContestSync.ContestLoading

namespace ContestSync

open Reconciliation Resumable Program

/-! ### Runs in which everything is served -/

variable {request : Request}

theorem served_of_reliable {outcome : Outcome}
    (admitted : Reliable servedRemote request outcome) : outcome = .served := by
  unfold Reliable servedRemote at admitted
  split at admitted
  · exact admitted
  · exact admitted

theorem ensures_handled {α : Type} {post : α → World → Prop} {world : World}
    {next : request.Answer → Program service α}
    (follows : ∀ answer, answer = (world.handle request).2 →
      Ensures (alone servedRemote) post (next answer) (world.handle request).1) :
    Ensures (alone servedRemote) post (ask request >>= next) world := by
  intro outcome admitted
  cases served_of_reliable admitted
  refine ⟨trivial, ?_⟩
  rintro later rfl
  exact follows _ rfl

theorem faultless_alone : Faultless (Reliable servedRemote) :=
  fun _ _ admitted => served_of_reliable admitted

theorem hosts_alone {userID : Int} {calendarID : String} {initial : Snapshot String String Event}
    {plan : Plan initial} (process : Nat) :
    Hosts userID calendarID plan process (solo environment (Reliable servedRemote)) :=
  { tolerable := fun _ _ admitted => Or.inl (served_of_reliable admitted)
    advances := by
      intro before after same
      cases same
      exact .refl _
    lock := by
      intro before after same
      cases same
      exact Iff.rfl
    guarantee := fun _ _ _ _ => trivial }

/-! ### The cached contests -/

namespace World

/-- Each cached list of contests is what the query would answer. -/
def ContestsCached (world : World) : Prop :=
  ∀ platform rows, world.valkey.contests platform = some rows → ∀ contest,
    contest ∈ rows ↔ world.Announces contest ∧ contest.platform = platform

/-- The cached list of synced contests has every row of the user. -/
def SyncedCached (world : World) (userID : Int) : Prop :=
  ∀ listed, world.valkey.syncedEvents userID = some listed →
    ∀ row ∈ world.database.syncedEvents.rows, row.userID = userID → row.contestID ∈ listed

def setSyncedCache (world : World) (userID : Int) (listed : Option (List String)) : World :=
  { world with valkey :=
      { world.valkey with
        syncedEvents := Function.update world.valkey.syncedEvents userID listed } }

def readSynced (world : World) (valkey : Bool) (userID : Int) : List String :=
  (if valkey then world.valkey.syncedEvents userID else none).getD
    (world.database.selectSynced userID)

theorem setSyncedCache_self {world : World} {userID : Int} {listed : Option (List String)}
    (hit : world.valkey.syncedEvents userID = listed) :
    world.setSyncedCache userID listed = world := by
  unfold setSyncedCache
  rw [Function.update_eq_self_iff.mpr hit.symm]

end World

section Contests

variable {remote : Request → Outcome → Prop} {world : World}

theorem contestsCached_refilled (cached : world.ContestsCached)
    {lists : String → Option (List ContestRow)} (refilled : world.Refilled lists) :
    (world.setCachedContests lists).ContestsCached := by
  intro platform rows hit
  change lists platform = some rows at hit
  rcases refilled platform with same | ⟨filled, listed, announced⟩
  · exact cached platform rows (same.symm.trans hit)
  · cases listed.symm.trans hit
    exact announced

/-- With such lists it does not matter which platforms have one. -/
theorem loads_iff_of_cached (cached : world.ContestsCached) (selected : List String)
    (contest : ContestRow) :
    world.Loads true selected contest ↔ world.Announces contest ∧ contest.platform ∈ selected := by
  constructor
  · rintro (⟨platform, chosen, rows, hit, member⟩ | ⟨announced, chosen, _⟩)
    · obtain ⟨announced, rfl⟩ := (cached platform rows hit contest).mp member
      exact ⟨announced, chosen⟩
    · exact ⟨announced, chosen⟩
  · rintro ⟨announced, chosen⟩
    cases hit : world.list true contest.platform with
    | none => exact .inr ⟨announced, chosen, hit⟩
    | some rows =>
      exact .inl ⟨contest.platform, chosen, rows, hit,
        (cached contest.platform rows hit contest).mpr ⟨announced, rfl⟩⟩

theorem ensures_loadContests_cached {syncer : Syncer} (configured : syncer.valkey = true)
    (cached : world.ContestsCached) (selected : List String) :
    Ensures (alone remote)
      (fun found later => (∃ contests, later = world.setCachedContests contests) ∧
        later.ContestsCached ∧ ∃ rows, found = some rows ∧
          ∀ contest, contest ∈ rows ↔ world.Announces contest ∧ contest.platform ∈ selected)
      (syncer.loadContests selected) world := by
  refine Ensures.mono ?_ (ensures_loadContests_lists syncer selected)
  rintro found _ ⟨⟨lists, rfl, refilled⟩, rows, answered, members⟩
  refine ⟨⟨lists, rfl⟩, contestsCached_refilled cached refilled, rows, answered, ?_⟩
  intro contest
  rw [members contest, configured]
  exact loads_iff_of_cached cached selected contest

theorem ensures_loadSynced_read (syncer : Syncer) (userID : Int) :
    Ensures (alone remote) (fun synced later => synced = world.readSynced syncer.valkey userID ∧
        if syncer.valkey then later = world.setSyncedCache userID (some synced)
        else later = world)
      (syncer.loadSynced userID) world := by
  unfold Syncer.loadSynced Syncer.selectSyncedSet World.readSynced
  cases configured : syncer.valkey with
  | false =>
    apply ensures_local rfl
    rintro _ rfl
    exact ⟨rfl, rfl⟩
  | true =>
    apply ensures_local rfl
    intro hit answered
    change hit = world.valkey.syncedEvents userID at answered
    rw [if_pos rfl, ← answered]
    cases hit with
    | some listed => exact ⟨rfl, (World.setSyncedCache_self answered.symm).symm⟩
    | none =>
      apply ensures_local rfl
      rintro _ rfl
      apply ensures_local rfl
      intro _ _
      exact ⟨rfl, rfl⟩

end Contests

/-! ### The body of a run -/

namespace Setting

variable {setting : Setting} {world : World}

theorem announces_of_reached (reached : setting.Reached world) {contest : ContestRow} :
    world.Announces contest ∧ contest.platform ∈ setting.selected ↔ setting.Upcoming contest := by
  rw [← mem_selectContests_iff]
  exact selectContests_of_reached reached

theorem contestsCached_of_reached {before : World}
    (unchanged : Unchanged setting.userID setting.calendarID before world)
    (valkey : world.valkey.contests = before.valkey.contests)
    (cached : before.ContestsCached) : world.ContestsCached := by
  intro platform rows hit contest
  rw [valkey] at hit
  refine (cached platform rows hit contest).trans (and_congr_left fun _ => ?_)
  unfold World.Announces
  rw [unchanged.contests]
  exact and_congr_right (fun member => (unchanged.future contest member).symm)

variable {syncer : Syncer} {listed : List String}

theorem ensures_loadSynced_cached {remote : Request → Outcome → Prop}
    (configured : syncer.valkey = true) (reached : setting.Reached world)
    (hits : ∀ listed, world.valkey.syncedEvents setting.userID = some listed →
      (∀ contestID eventID, setting.initial.tracked contestID = some eventID →
        contestID ∉ setting.plan.stale → contestID ∈ listed) ∧
      ∀ contestID ∈ listed, setting.plan.wanted contestID = none) :
    Ensures (alone remote)
      (fun synced later => later = world.setSyncedCache setting.userID (some synced) ∧
        (∀ contestID eventID, setting.initial.tracked contestID = some eventID →
          contestID ∉ setting.plan.stale → contestID ∈ synced) ∧
        ∀ contestID ∈ synced, ∀ event, setting.plan.wanted contestID = some event →
          (setting.view world).tracked contestID = some (setting.plan.name contestID))
      (syncer.loadSynced setting.userID) world := by
  refine Ensures.mono ?_ (ensures_loadSynced_read syncer setting.userID)
  rintro synced later ⟨rfl, stored⟩
  rw [if_pos configured] at stored
  refine ⟨stored, ?_⟩
  unfold World.readSynced
  rw [configured, if_pos rfl]
  cases hit : world.valkey.syncedEvents setting.userID with
  | some listed =>
    obtain ⟨known, unwanted⟩ := hits listed hit
    refine ⟨known, ?_⟩
    intro contestID member event wanted
    rw [unwanted contestID member] at wanted
    cases wanted
  | none => exact selectSynced_of_reached reached

/-- The rows a settled run leaves are in the list it worked with, unless it has
put something up. -/
theorem listed_of_settled {synced : List String}
    (settled : setting.plan.Settled (setting.view world))
    (known : ∀ contestID eventID, setting.initial.tracked contestID = some eventID →
      contestID ∉ setting.plan.stale → contestID ∈ synced)
    (upcoming : ∀ contest, setting.Upcoming contest → contest.id ∈ synced)
    {row : SyncedEvent} (member : row ∈ world.database.syncedEvents.rows)
    (own : row.userID = setting.userID) : row.contestID ∈ synced := by
  obtain ⟨userID, contestID, eventID⟩ := row
  cases own
  rcases (tracked_of_settled settled contestID eventID).mp (World.tracked_eq_some.mpr member) with
    ⟨tracked, contest, inTable, atID, chosen⟩ | ⟨_, contest, inTable, rfl, chosen, future⟩
  · apply known contestID eventID tracked
    rintro ⟨_, other, otherInTable, sameID, unselected⟩
    rw [Keyed.Table.row_eq_of_key otherInTable inTable (sameID.trans atID.symm)] at unselected
    exact unselected chosen
  · exact upcoming contest ⟨inTable, chosen, future⟩

/-- What a run with Valkey leaves: the plan is carried out, and the caches fit. -/
structure Refreshed (setting : Setting) (later : World) : Prop where
  reached : setting.Reached later
  settled : setting.plan.Settled (setting.view later)
  contests : later.ContestsCached
  synced : later.SyncedCached setting.userID
  profiles : later.valkey.users = setting.start.valkey.users

theorem hits_of_cached (synced : setting.start.SyncedCached setting.userID)
    (upToDate : ∀ listed, setting.start.valkey.syncedEvents setting.userID = some listed →
      ∀ contest, setting.Upcoming contest → contest.id ∈ listed →
        setting.initial.tracked contest.id ≠ none)
    (hit : setting.start.valkey.syncedEvents setting.userID = some listed) :
    (∀ contestID eventID, setting.initial.tracked contestID = some eventID →
      contestID ∉ setting.plan.stale → contestID ∈ listed) ∧
    ∀ contestID ∈ listed, setting.plan.wanted contestID = none := by
  refine ⟨fun contestID eventID tracked _ =>
    synced listed hit _ (World.tracked_eq_some.mp tracked) rfl, ?_⟩
  intro contestID member
  cases wanted : setting.plan.wanted contestID with
  | none => rfl
  | some event =>
    obtain ⟨untracked, contest, upcoming, rfl, _⟩ := setting.wanted_eq_some.mp wanted
    exact absurd untracked (upToDate listed hit contest upcoming member)

theorem refreshed_of_complete {last : World}
    (known : ∀ contestID eventID, setting.initial.tracked contestID = some eventID →
      contestID ∉ setting.plan.stale → contestID ∈ listed) (reached : setting.Reached last)
    (complete : setting.plan.Complete (setting.view last))
    (cached : last.ContestsCached) (profiles : last.valkey.users = setting.start.valkey.users)
    (list : last.valkey.syncedEvents setting.userID = none ∨
      last.valkey.syncedEvents setting.userID = some listed ∧
        ∀ contest, setting.Upcoming contest → contest.id ∈ listed) :
    setting.Refreshed last := by
  have settled := (between_of_reached reached).settled complete
  refine ⟨reached, settled, cached, ?_, profiles⟩
  intro other hit row member own
  rcases list with none | ⟨same, upcoming⟩
  · rw [none] at hit
    cases hit
  · rw [same] at hit
    cases hit
    exact listed_of_settled settled known upcoming member own

theorem ensures_syncCalendar_cached (configured : syncer.valkey = true)
    (token : String) (contests : setting.start.ContestsCached)
    (synced : setting.start.SyncedCached setting.userID)
    (upToDate : ∀ listed, setting.start.valkey.syncedEvents setting.userID = some listed →
      ∀ contest, setting.Upcoming contest → contest.id ∈ listed →
        setting.initial.tracked contest.id ≠ none) :
    Ensures (alone servedRemote) (fun _ => setting.Refreshed)
      (syncer.syncCalendar setting.userID token setting.calendarID setting.timezone
        setting.user) setting.start := by
  have hosts : Hosts setting.userID setting.calendarID setting.plan syncer.process
      (solo environment (Reliable servedRemote)) := hosts_alone syncer.process
  refine (ensures_cleanup hosts token (.refl setting.start)).then ?_
  rintro _ cleaned ⟨cleaning, forgotten⟩
  have fromStart : setting.Reached cleaned := cleaning.toReaches
  have sameSynced : cleaned.valkey.syncedEvents = setting.start.valkey.syncedEvents :=
    congrArg Valkey.syncedEvents cleaning.valkey
  refine (ensures_loadSynced_cached configured fromStart (fun listed hit =>
    hits_of_cached synced upToDate ((congrFun sameSynced setting.userID).symm.trans hit))).then ?_
  rintro listed _ ⟨rfl, known, skipped⟩
  have loading : Reaches setting.userID setting.calendarID setting.plan cleaned
      (cleaned.setSyncedCache setting.userID (some listed)) := .of_valkey _
  have loaded : setting.Reached (cleaned.setSyncedCache setting.userID (some listed)) :=
    fromStart.trans loading
  have sameLists : cleaned.valkey.contests = setting.start.valkey.contests :=
    congrArg Valkey.contests cleaning.valkey
  have stillCached : (cleaned.setSyncedCache setting.userID (some listed)).ContestsCached :=
    contestsCached_of_reached loaded.unchanged sameLists contests
  have profiles : cleaned.valkey.users = setting.start.valkey.users :=
    congrArg Valkey.users cleaning.valkey
  apply ensures_ite
  · intro nothing
    have none : ∀ contest, ¬setting.Upcoming contest := by
      intro contest upcoming
      have selected : contest.platform ∈ ([] : List String) := nothing ▸ upcoming.2.1
      exact List.not_mem_nil selected
    refine refreshed_of_complete known loaded ⟨forgotten, ?_⟩ stillCached profiles (Or.inr ⟨?_, ?_⟩)
    · intro contestID event wanted
      obtain ⟨_, contest, upcoming, _⟩ := setting.wanted_eq_some.mp wanted
      exact absurd upcoming (none contest)
    · exact Function.update_self _ _ _
    · exact fun contest upcoming => absurd upcoming (none contest)
  · intro _something
    refine (ensures_loadContests_cached configured stillCached setting.selected).then ?_
    rintro _ _ ⟨⟨lists, rfl⟩, cached, rows, rfl, members⟩
    have choosing : setting.Reached
        ((cleaned.setSyncedCache setting.userID (some listed)).setCachedContests lists) :=
      loaded.trans (.of_valkey _)
    refine (ensures_syncContests hosts token choosing
      (fun contest => (members contest).trans (announces_of_reached loaded)) known skipped).then ?_
    rintro result last ⟨inserting, isOk, done⟩
    obtain ⟨recorded, allListed⟩ := done faultless_alone
    have reached := choosing.onward inserting
    have complete : setting.plan.Complete (setting.view last) :=
      ⟨fun contestID stale => inserting.lasts.forgotten contestID stale
        (forgotten contestID stale), recorded⟩
    have lastCached := contestsCached_of_reached inserting.unchanged
      (congrArg Valkey.contests inserting.valkey) cached
    have lastProfiles : last.valkey.users = setting.start.valkey.users :=
      (congrArg Valkey.users inserting.valkey).trans profiles
    cases result with
    | error left => cases isOk
    | ok anySynced =>
      rw [configured]
      cases anySynced with
      | true =>
        apply ensures_local rfl
        intro _ _
        exact refreshed_of_complete known (reached.trans (.of_valkey _)) complete lastCached
          lastProfiles (Or.inl (Function.update_self _ _ _))
      | false =>
        refine refreshed_of_complete known reached complete lastCached lastProfiles
          (Or.inr ⟨?_, allListed rfl⟩)
        rw [inserting.valkey]
        exact Function.update_self _ _ _

end Setting

end ContestSync
