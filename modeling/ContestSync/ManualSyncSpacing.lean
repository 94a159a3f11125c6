/-
The minute between two manual syncs of one user. `ManualSync` compares the clock with the time
at which the last run of `SyncUser` ended: the column `last_sync_at`, or the copy of it in
Valkey, which has no fractions of a second. A request that is queued writes neither. A request
that does not find the key reads the row and copies it, and what it copies may be older by then
than what a run has stored. So two requests are a minute apart when a run has ended and was
recorded between them and nothing older was on its way to the key, and otherwise they can be as
close as one likes.
-/

import ContestSync.CalendarValidation
import ContestSync.GuardedRuns
import Mathlib.Algebra.Order.Ring.Int

namespace ContestSync.ManualSync

open CalendarValidation

open CalendarValidation (Check Cached Response Setup SyncRequest minute tooSoon)

/-! ### The record of the last sync -/

def second : Int :=
  1000000000

def hour : Int :=
  3600 * second

variable (valkey : Bool)

/-- The unit in which the last sync is kept where a request looks first: seconds in the text of
`time.RFC3339`, microseconds in a column. -/
def precision : Int :=
  if valkey then second else 1000

def truncate (unit time : Int) : Int :=
  time / unit * unit

theorem precision_pos : 0 < precision valkey := by
  cases valkey <;> decide

theorem truncate_mono {unit earlier later : Int} (positive : 0 < unit) (before : earlier ≤ later) :
    truncate unit earlier ≤ truncate unit later :=
  Int.mul_le_mul_of_nonneg_right (Int.ediv_le_ediv positive before) positive.le

theorem truncate_le {unit : Int} (positive : 0 < unit) (time : Int) :
    truncate unit time ≤ time :=
  Int.ediv_mul_le time positive.ne'

theorem truncate_row (time : Int) :
    truncate (precision valkey) (truncate 1000 time) = truncate (precision valkey) time := by
  cases valkey with
  | false =>
    change time / 1000 * 1000 / 1000 * 1000 = time / 1000 * 1000
    omega
  | true =>
    change time / 1000 * 1000 / 1000000000 * 1000000000 = time / 1000000000 * 1000000000
    omega

/-- The value of `user:last_sync_at`, and when Valkey drops it. -/
structure Stamp where
  time : Int
  expiry : Int
deriving DecidableEq

/-- How far a request has come: it has not looked for the key yet, has not found it, has read the
row and not yet copied it, knows the last sync, or has been answered. -/
inductive Progress where
  | asked
  | missed
  | copying (lastSyncAt : Int)
  | checking (lastSyncAt : Option Int)
  | answered (response : Response)
deriving DecidableEq

/-- What there is of one user: the clock, the row, the key in Valkey, the requests, the tasks that
wait in the queue, the runs of `SyncUser`, the runs that have updated the row, and the times that
runs have taken for the key and not yet stored. -/
structure World where
  now : Int
  lastSyncAt : Option Int
  cached : Option Stamp
  requests : Nat → Progress
  tasks : Nat
  running : Nat
  ending : Nat
  stamps : List Int

def World.advance (world : World) (request : Nat) (progress : Progress) : World :=
  { world with requests := Function.update world.requests request progress }

/-- `Valkey.Set` of the key, with the text of `time.RFC3339`. -/
def World.store (world : World) (time : Int) : World :=
  { world with cached := some ⟨truncate second time, world.now + hour⟩ }

/-- `Valkey.Get` of the key, where there is a Valkey. -/
def World.get (world : World) (valkey : Bool) : Option Int :=
  if valkey then (world.cached.filter (fun stamp => world.now < stamp.expiry)).map Stamp.time
  else none

/-! ### Requests and runs -/

/-- What a request is told besides the last sync. -/
structure Incoming where
  verdict : Option Cached
  check : Check
  published : Bool
  duration : Nat
deriving DecidableEq

/-- The answer of a request that makes its check now. -/
def World.answer (world : World) (setup : Setup) (valkey : Bool) (incoming : Incoming)
    (lastSyncAt : Option Int) : Response :=
  manualSync setup ⟨world.now, incoming.verdict⟩
    ⟨none, some lastSyncAt, valkey, incoming.check, incoming.published, incoming.duration⟩

def syncQueued : Response :=
  ⟨200, [("status", "sync queued")]⟩

def afterGet : Option Int → Progress
  | some time => .checking (some time)
  | none => .missed

def afterSelect : Option Int → Progress
  | some time => if valkey then .copying time else .checking (some time)
  | none => .checking none

/-- A request makes its steps one by one, and the query may go to a replica that has another row.
A task that is consumed starts a run, or is turned away before the deferred update is set up,
since another run holds the lock, and may be published again. The end of a run is the `UPDATE`, a
look at the clock and the `Set`. -/
inductive Event where
  | passing (duration : Nat)
  | get (request : Nat)
  | select (request : Nat) (replica : Option (Option Int))
  | copy (request : Nat)
  | answer (request : Nat) (incoming : Incoming)
  | start
  | turnedAway (again : Bool)
  | update
  | clock
  | set (index : Nat)
deriving DecidableEq

def step (setup : Setup) (valkey : Bool) (world : World) : Event → Option World
  | .passing duration => some { world with now := world.now + duration }
  | .get request =>
    match world.requests request with
    | .asked => some (world.advance request (afterGet (world.get valkey)))
    | _ => none
  | .select request replica =>
    match world.requests request with
    | .missed =>
      some (world.advance request (afterSelect valkey (replica.getD world.lastSyncAt)))
    | _ => none
  | .copy request =>
    match world.requests request with
    | .copying time => some ((world.advance request (.checking (some time))).store time)
    | _ => none
  | .answer request incoming =>
    match world.requests request with
    | .checking lastSyncAt =>
      let response := world.answer setup valkey incoming lastSyncAt
      some { world.advance request (.answered response) with
        tasks := if response = syncQueued then world.tasks + 1 else world.tasks }
    | _ => none
  | .start =>
    if 0 < world.tasks then
      some { world with tasks := world.tasks - 1, running := world.running + 1 }
    else none
  | .turnedAway again =>
    if 0 < world.tasks then
      some { world with tasks := if again then world.tasks else world.tasks - 1 }
    else none
  | .update =>
    if 0 < world.running then
      some { world with
        lastSyncAt := some (truncate 1000 world.now)
        running := world.running - 1
        ending := if valkey then world.ending + 1 else world.ending }
    else none
  | .clock =>
    if 0 < world.ending then
      some { world with ending := world.ending - 1, stamps := world.now :: world.stamps }
    else none
  | .set index =>
    match world.stamps[index]? with
    | some time => some { world.store time with stamps := world.stamps.eraseIdx index }
    | none => none

def run (setup : Setup) (valkey : Bool) (world : World) (events : List Event) : Option World :=
  events.foldlM (step setup valkey) world

/-! ### Nothing older is left -/

/-- A time that is no older than the limit, to the precision of the record. -/
def Recent (limit : Int) : Option Int → Prop
  | some time => limit ≤ truncate (precision valkey) time
  | none => False

def Progress.copied : Progress → Option Int
  | .copying lastSyncAt => some lastSyncAt
  | _ => none

/-- No time that is taken from now on is older, and with Valkey none that requests and runs are
about to store. -/
structure Prepared (valkey : Bool) (limit : Int) (world : World) : Prop where
  past : limit ≤ truncate (precision valkey) world.now
  copies : valkey = true → ∀ request, ∀ time ∈ (world.requests request).copied,
    limit ≤ truncate second time
  stamps : valkey = true → ∀ time ∈ world.stamps, limit ≤ truncate second time

/-- Nor is what is stored. -/
structure Settled (valkey : Bool) (limit : Int) (world : World) : Prop
    extends Prepared valkey limit world where
  row : Recent valkey limit world.lastSyncAt
  key : valkey = true → ∀ stamp ∈ world.cached, limit ≤ stamp.time

/-- The end of a run is recorded where requests look first. -/
def Records (limit : Int) (world : World) : Event → Prop
  | .update => valkey = false ∧ Prepared false limit world
  | .set _ => valkey = true ∧ Prepared true limit world ∧ Recent true limit world.lastSyncAt
  | _ => False

/-- A query does not go to a replica with an older row. -/
def Event.Current (limit : Int) : Event → Prop
  | .select _ (some row) => Recent valkey limit row
  | _ => True

/-- What the request knows of the last sync is no older. -/
def Informed (limit : Int) : Progress → Prop
  | .copying time => limit ≤ time
  | .checking (some time) => limit ≤ time
  | .checking none => False
  | _ => True

section Steps

variable {setup : Setup} {valkey} {world next : World} {event : Event} {limit : Int}
  {request : Nat} {progress : Progress}

theorem now_le_step (stepped : step setup valkey world event = some next) :
    world.now ≤ next.now := by
  cases event with
  | passing duration =>
    cases stepped
    change world.now ≤ world.now + duration
    omega
  | get | select | copy | answer | set =>
    simp only [step] at stepped
    split at stepped
    all_goals cases stepped
    exact le_refl _
  | start | turnedAway | update | clock =>
    obtain ⟨_, same⟩ := Option.ite_none_right_eq_some.mp stepped
    cases same
    exact le_refl _

theorem Prepared.advance (prepared : Prepared valkey limit world)
    (copied : valkey = true → ∀ time ∈ progress.copied, limit ≤ truncate second time) :
    Prepared valkey limit (world.advance request progress) := by
  refine ⟨prepared.past, ?_, prepared.stamps⟩
  intro used other time member
  simp only [World.advance, Function.update_apply] at member
  split at member
  · exact copied used time member
  · exact prepared.copies used other time member

theorem Settled.advance (settled : Settled valkey limit world)
    (copied : valkey = true → ∀ time ∈ progress.copied, limit ≤ truncate second time) :
    Settled valkey limit (world.advance request progress) :=
  ⟨settled.toPrepared.advance copied, settled.row, settled.key⟩

theorem Settled.store {time : Int} (settled : Settled valkey limit world)
    (recent : valkey = true → limit ≤ truncate second time) :
    Settled valkey limit (world.store time) := by
  refine ⟨⟨settled.past, settled.copies, settled.stamps⟩, settled.row, ?_⟩
  intro used stamp member
  cases member
  exact recent used

theorem recent_select {replica : Option (Option Int)} (settled : Settled valkey limit world)
    (current : (Event.select request replica).Current valkey limit) :
    Recent valkey limit (replica.getD world.lastSyncAt) := by
  cases replica with
  | none => exact settled.row
  | some row => exact current

theorem copied_afterGet (found : Option Int) : (afterGet found).copied = none := by
  cases found <;> rfl

theorem Settled.step (settled : Settled valkey limit world)
    (stepped : step setup valkey world event = some next) (current : event.Current valkey limit) :
    Settled valkey limit next := by
  have past : limit ≤ truncate (precision valkey) next.now :=
    le_trans settled.past (truncate_mono (precision_pos valkey) (now_le_step stepped))
  cases event with
  | passing duration =>
    cases stepped
    exact ⟨⟨past, settled.copies, settled.stamps⟩, settled.row, settled.key⟩
  | get request =>
    simp only [ManualSync.step] at stepped
    split at stepped
    all_goals cases stepped
    refine settled.advance (fun _ time member => ?_)
    rw [copied_afterGet] at member
    cases member
  | select request replica =>
    simp only [ManualSync.step] at stepped
    split at stepped
    all_goals cases stepped
    refine settled.advance (fun used time member => ?_)
    subst used
    have recent := recent_select settled current
    cases row : replica.getD world.lastSyncAt with
    | none =>
      rw [row] at member
      cases member
    | some lastSyncAt =>
      rw [row] at member recent
      cases member
      exact recent
  | copy request =>
    simp only [ManualSync.step] at stepped
    split at stepped
    all_goals cases stepped
    rename_i time copying
    have copied : time ∈ (world.requests request).copied := by
      rw [copying]
      rfl
    refine (settled.advance (fun _ other member => ?_)).store ?_
    · cases member
    · exact fun used => settled.copies used request time copied
  | answer request incoming =>
    simp only [ManualSync.step] at stepped
    split at stepped
    all_goals cases stepped
    rename_i lastSyncAt checking
    have answered : Settled valkey limit (world.advance request
        (.answered (world.answer setup valkey incoming lastSyncAt))) :=
      settled.advance (fun _ time member => by cases member)
    exact ⟨⟨past, answered.copies, answered.stamps⟩, answered.row, answered.key⟩
  | start | turnedAway =>
    obtain ⟨_, same⟩ := Option.ite_none_right_eq_some.mp stepped
    cases same
    exact ⟨⟨past, settled.copies, settled.stamps⟩, settled.row, settled.key⟩
  | update =>
    obtain ⟨_, same⟩ := Option.ite_none_right_eq_some.mp stepped
    cases same
    refine ⟨⟨past, settled.copies, settled.stamps⟩, ?_, settled.key⟩
    exact settled.past.trans_eq (truncate_row valkey world.now).symm
  | clock =>
    obtain ⟨_, same⟩ := Option.ite_none_right_eq_some.mp stepped
    cases same
    refine ⟨⟨past, settled.copies, ?_⟩, settled.row, settled.key⟩
    rintro rfl time member
    rcases List.mem_cons.mp member with rfl | earlier
    · exact settled.past
    · exact settled.stamps rfl time earlier
  | set index =>
    simp only [ManualSync.step] at stepped
    split at stepped
    all_goals cases stepped
    rename_i time found
    have stored : Settled valkey limit (world.store time) :=
      settled.store (fun used => settled.stamps used time (List.mem_of_getElem? found))
    refine ⟨⟨past, stored.copies, ?_⟩, stored.row, stored.key⟩
    exact fun used other member => stored.stamps used other (List.mem_of_mem_eraseIdx member)

theorem settled_of_records (records : Records valkey limit world event)
    (stepped : step setup valkey world event = some next) : Settled valkey limit next := by
  cases event with
  | update =>
    obtain ⟨rfl, prepared⟩ := records
    obtain ⟨_, same⟩ := Option.ite_none_right_eq_some.mp stepped
    cases same
    refine ⟨⟨prepared.past, nofun, nofun⟩, ?_, nofun⟩
    exact prepared.past.trans_eq (truncate_row false world.now).symm
  | set index =>
    obtain ⟨rfl, prepared, row⟩ := records
    simp only [step] at stepped
    split at stepped
    all_goals cases stepped
    rename_i time found
    refine ⟨⟨prepared.past, prepared.copies, ?_⟩, row, ?_⟩
    · exact fun used other member => prepared.stamps used other (List.mem_of_mem_eraseIdx member)
    · intro used stamp member
      cases member
      exact prepared.stamps rfl time (List.mem_of_getElem? found)
  | _ => exact records.elim

theorem Informed.advance {other : Nat} (informed : Informed limit (world.requests request))
    (known : Informed limit progress) :
    Informed limit ((world.advance other progress).requests request) := by
  simp only [World.advance, Function.update_apply]
  split
  · exact known
  · exact informed

theorem informed_afterGet (settled : Settled valkey limit world) :
    Informed limit (afterGet (world.get valkey)) := by
  cases found : world.get valkey with
  | none => trivial
  | some time =>
    obtain ⟨used, hit⟩ := Option.ite_none_right_eq_some.mp found
    obtain ⟨stamp, live, rfl⟩ := Option.map_eq_some_iff.mp hit
    exact settled.key used stamp (Option.filter_eq_some_iff.mp live).1

theorem informed_afterSelect {row : Option Int} (recent : Recent valkey limit row) :
    Informed limit (afterSelect valkey row) := by
  cases row with
  | none => exact recent.elim
  | some time =>
    have known : limit ≤ time := le_trans recent (truncate_le (precision_pos valkey) time)
    cases valkey
    all_goals exact known

theorem Informed.step (settled : Settled valkey limit world)
    (stepped : step setup valkey world event = some next) (current : event.Current valkey limit)
    (informed : Informed limit (world.requests request)) :
    Informed limit (next.requests request) := by
  cases event with
  | passing =>
    cases stepped
    exact informed
  | get =>
    simp only [ManualSync.step] at stepped
    split at stepped
    all_goals cases stepped
    exact informed.advance (informed_afterGet settled)
  | select =>
    simp only [ManualSync.step] at stepped
    split at stepped
    all_goals cases stepped
    exact informed.advance (informed_afterSelect (recent_select settled current))
  | copy other =>
    simp only [ManualSync.step] at stepped
    split at stepped
    all_goals cases stepped
    rename_i time copying
    by_cases same : other = request
    · subst same
      rw [copying] at informed
      exact Informed.advance (by rw [copying]; exact informed) informed
    · change Informed limit (Function.update world.requests other _ request)
      rw [Function.update_of_ne (Ne.symm same)]
      exact informed
  | answer =>
    simp only [ManualSync.step] at stepped
    split at stepped
    all_goals cases stepped
    exact informed.advance trivial
  | start | turnedAway | update | clock =>
    obtain ⟨_, same⟩ := Option.ite_none_right_eq_some.mp stepped
    cases same
    exact informed
  | set =>
    simp only [ManualSync.step] at stepped
    split at stepped
    all_goals cases stepped
    exact informed

theorem settled_run {events : List Event} (ran : run setup valkey world events = some next)
    (current : ∀ event ∈ events, event.Current valkey limit) (settled : Settled valkey limit world)
    (informed : Informed limit (world.requests request)) :
    Settled valkey limit next ∧ Informed limit (next.requests request) := by
  refine GuardedRuns.keeps_allowed (Event.Current valkey limit)
    (fun later => Settled valkey limit later ∧ Informed limit (later.requests request)) ?_ ran
    current ⟨settled, informed⟩
  rintro before after event stepped allowed ⟨known, informed⟩
  exact ⟨known.step stepped allowed, informed.step known stepped allowed⟩

/-! ### Requests that are queued -/

theorem minute_le_of_queued {incoming : Incoming} {lastSyncAt : Option Int}
    (queued : world.answer setup valkey incoming lastSyncAt = syncQueued)
    (informed : Informed limit (.checking lastSyncAt)) : limit + minute ≤ world.now := by
  cases lastSyncAt with
  | none => exact informed.elim
  | some time =>
    have known : limit ≤ time := informed
    by_contra early
    have soon : tooSoon world.now (some time) = true := by
      simp only [tooSoon, decide_eq_true_eq]
      omega
    have limited : world.answer setup valkey incoming (some time) =
        ⟨200, [("status", "rate_limited"),
          ("message", "Please wait 1 minute between manual syncs.")]⟩ := by
      simp only [World.answer, manualSync, SyncRequest.lastSyncAt, soon, if_true]
    rw [limited] at queued
    exact absurd queued (by decide)

end Steps

/-- The request makes its check now, and is queued. -/
def Queues (setup : Setup) (valkey : Bool) (world : World) (request : Nat) (incoming : Incoming) :
    Prop :=
  ∃ lastSyncAt, world.requests request = .checking lastSyncAt ∧
    world.answer setup valkey incoming lastSyncAt = syncQueued

/-- Between the check of the first request and the first look of the later one the end of a run is
recorded, by the record not before that check, when nothing older is on its way to the key; and
from then on no query goes to a replica with an older row. -/
inductive Separated (setup : Setup) (valkey : Bool) (asking ready : World) (first later : Nat) :
    Prop
  | intro {asked ended recorded : World} {incoming : Incoming} {event : Event}
      {before after : List Event}
      (answered : step setup valkey asking (.answer first incoming) = some asked)
      (runs : run setup valkey asked before = some ended)
      (records : Records valkey asking.now ended event)
      (ends : step setup valkey ended event = some recorded)
      (unread : recorded.requests later = .asked)
      (continues : run setup valkey recorded after = some ready)
      (current : ∀ event ∈ after, event.Current valkey asking.now) :
      Separated setup valkey asking ready first later

/-- Whatever else happens to a user, and from whatever state. -/
theorem recorded_syncs_spaced {setup : Setup} {valkey : Bool} {asking ready : World}
    {first later : Nat} {incoming : Incoming}
    (separated : Separated setup valkey asking ready first later)
    (queued : Queues setup valkey ready later incoming) : asking.now + minute ≤ ready.now := by
  obtain ⟨-, -, records, ends, unread, continues, current⟩ := separated
  obtain ⟨lastSyncAt, checking, passed⟩ := queued
  have informed := settled_run continues current (settled_of_records records ends)
    (by rw [unread]; trivial)
  rw [checking] at informed
  exact minute_le_of_queued passed informed.2

/-! ### Some requests and a run -/

def succeeding : Incoming :=
  ⟨none, accepted, true, 0⟩

def lastSynced (now : Int) (lastSyncAt : Option Int) (cached : Option Stamp) : World :=
  ⟨now, lastSyncAt, cached, fun _ => .asked, 0, 0, 0, []⟩

/-- A request is queued, and a run ends two seconds later. A second request has looked for the key
before that and reads the row after it, and it is turned down; a third one comes after a minute. -/
theorem separated_minute :
    ∃ asking ready, Queues plainSetup true asking 0 succeeding ∧
      Queues plainSetup true ready 2 succeeding ∧
      Separated plainSetup true asking ready 0 2 ∧
      run plainSetup true (lastSynced 0 none none) [.get 0, .select 0 none] = some asking := by
  refine ⟨_, _, ⟨_, rfl, ?_⟩, ⟨_, rfl, ?_⟩, @Separated.intro _ _ _ _ _ _ _ _ _ succeeding (.set 0)
    [.start, .get 1, .passing 2000000000, .update, .select 1 none, .clock]
    [.copy 1, .answer 1 succeeding, .passing 60000000000, .get 2]
    rfl rfl ⟨rfl, ⟨?_, ?_, ?_⟩, ?_⟩ rfl rfl rfl ?_, rfl⟩
  · decide
  · decide
  · decide
  · intro _ request time member
    match request with
    | 0 => cases member
    | 1 =>
      cases member
      decide
    | _ + 2 => cases member
  · decide
  · change (0 : Int) ≤ truncate second 2000000000
    decide
  · simp [Event.Current]

theorem recorded_syncs_spaced_minute :
    ∃ asking ready, Queues plainSetup true asking 0 succeeding ∧
      Queues plainSetup true ready 2 succeeding ∧
      asking.now + minute ≤ ready.now := by
  obtain ⟨asking, ready, first, later, separated, _⟩ := separated_minute
  exact ⟨asking, ready, first, later, recorded_syncs_spaced separated later⟩

/-- Two requests at one moment are both queued, with Valkey and without, since no run has
ended. With Valkey a run that ends within the second of the request is recorded as if it had
ended before, and 59.5 seconds are enough. With Valkey twenty seconds are enough, also with a
recorded run, if another request puts back what it has read before. -/
theorem close_syncs_queued :
    (∀ valkey : Bool, ∃ asking ready, run plainSetup valkey (lastSynced 0 none none)
        [.get 0, .get 1, .select 0 none, .select 1 none] = some asking ∧
      Queues plainSetup valkey asking 0 succeeding ∧
      run plainSetup valkey asking [.answer 0 succeeding] = some ready ∧
      Queues plainSetup valkey ready 1 succeeding ∧
      ready.now = asking.now) ∧
    (∃ asking ready, run plainSetup true (lastSynced 500000000 none none)
        [.get 0, .select 0 none] = some asking ∧
      Queues plainSetup true asking 0 succeeding ∧
      run plainSetup true asking
        [.answer 0 succeeding, .start, .passing 400000000, .update, .clock, .set 0,
          .passing 59100000000, .get 1] = some ready ∧
      Queues plainSetup true ready 1 succeeding ∧
      ready.now < asking.now + minute) ∧
    ∃ asking ready, run plainSetup true
        (lastSynced 3600000000000 (some 0) (some ⟨0, 3601000000000⟩)) [.get 0] = some asking ∧
      Queues plainSetup true asking 0 succeeding ∧
      run plainSetup true asking
        [.answer 0 succeeding, .passing 1000000000, .get 1, .select 1 none, .start,
          .passing 1000000000, .update, .clock, .set 0, .copy 1, .passing 18000000000, .get 2] =
        some ready ∧
      Queues plainSetup true ready 2 succeeding ∧
      ready.now = asking.now + 20 * second := by
  refine ⟨?_, ?_, ?_⟩
  · intro valkey
    cases valkey
    all_goals exact ⟨_, _, rfl, ⟨_, rfl, by decide⟩, rfl, ⟨_, rfl, by decide⟩, rfl⟩
  · exact ⟨_, _, rfl, ⟨_, rfl, by decide⟩, rfl, ⟨_, rfl, by decide⟩, by decide⟩
  · exact ⟨_, _, rfl, ⟨_, rfl, by decide⟩, rfl, ⟨_, rfl, by decide⟩, by decide⟩

end ContestSync.ManualSync
