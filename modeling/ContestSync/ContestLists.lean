/-
The cached lists of contests over time. A list is filled with the contests that have
not started when it is read, and then it stands by itself: time passes, contests are
pruned, and an extraction that fails after its prune leaves the list alone. No announced
contest is ever missing from a list, so that a run with Valkey processes other contests
than the query answers exactly when an entry has started or is no longer stored.
-/

import ContestSync.ContestLoading
import ContestSync.ExtractionFrame
import ContestSync.Footprints

namespace ContestSync

open Resumable Program Function

/-! ### What the operations do to the lists -/

/-- Nothing has happened to the contests but that lists were filled. -/
structure Filled (before after : World) : Prop where
  contests : after.database.contests = before.database.contests
  now : after.now = before.now
  lists : before.Refilled after.valkey.contests

namespace Filled

variable {first before after world : World}

theorem refl (world : World) : Filled world world :=
  ⟨rfl, rfl, fun _ => .inl rfl⟩

theorem announces (filled : Filled before after) (contest : ContestRow) :
    after.Announces contest ↔ before.Announces contest := by
  unfold World.Announces
  rw [filled.contests, filled.now]

theorem trans (left : Filled first before) (right : Filled before after) : Filled first after := by
  refine ⟨right.contests.trans left.contests, right.now.trans left.now, ?_⟩
  intro platform
  rcases right.lists platform with same | ⟨rows, listed, announced⟩
  · rw [same]
    exact left.lists platform
  · refine .inr ⟨rows, listed, ?_⟩
    intro contest
    rw [announced contest, left.announces]

theorem quiet (filled : Filled before world) {request : Request}
    (contests : request.writes .contests = false)
    (contestsCache : request.writes .contestsCache = false) :
    Filled before (world.handle request).1 := by
  have frame := frame_handle world request
  refine filled.trans ⟨frame.contests contests, frame.now, ?_⟩
  intro platform
  exact .inl (congrFun (frame.contestsCache contestsCache) platform)

end Filled

inductive Relisted (before after : World) : Prop where
  | filled (filled : Filled before after)
  | passed (lapse : Lapse before after)
  | ended (contests : after.database.contests = (before.database.pruneEnded before.now).contests)
      (now : after.now = before.now)
      (lists : ∀ platform, after.valkey.contests platform = before.valkey.contests platform ∨
        after.valkey.contests platform = none)
      (dropped : ∀ platform ∈ platforms, after.valkey.contests platform = none)
  | extracted (pruned : Database) {platform : String} {contests : List Contest}
      (supported : platform ∈ platforms) (built : Built platform contests)
      (removed : pruned = before.database ∨ pruned =
        before.database.pruneObsolete before.now platform (contests.map Contest.id))
      (table : after.database.contests = (pruned.upsertContests contests).contests)
      (now : after.now = before.now)
      (lists : after.valkey.contests = update before.valkey.contests platform none)

/-- An extraction has failed: contests may be gone, and the lists are as before. -/
structure Cut (before after : World) : Prop where
  removed : ∀ contest ∈ after.database.contests.rows, contest ∈ before.database.contests.rows
  now : after.now = before.now
  lists : after.valkey.contests = before.valkey.contests

section Operations

variable {remote : Request → Outcome → Prop} {syncer : Syncer} {before after : World}

end Operations

/-! ### Nothing is missing from a list -/

/-- Every entry of a list is one of its platform, and no announced contest of the
platform is missing. -/
structure Shelved (world : World) : Prop where
  schemed : world.database.Schemed
  own : ∀ platform rows, world.valkey.contests platform = some rows →
    ∀ contest ∈ rows, contest.platform = platform
  complete : ∀ platform rows, world.valkey.contests platform = some rows →
    ∀ contest, world.Announces contest → contest.platform = platform → contest ∈ rows

namespace Shelved

variable {before after : World}

theorem kept (shelved : Shelved before) (schemed : after.database.Schemed)
    (lists : ∀ platform, after.valkey.contests platform = none ∨
      after.valkey.contests platform = before.valkey.contests platform ∧
        ∀ contest, after.Announces contest → contest.platform = platform →
          before.Announces contest) : Shelved after := by
  refine ⟨schemed, ?_, ?_⟩
  · intro platform rows hit
    rcases lists platform with dropped | ⟨same, _⟩
    · cases dropped.symm.trans hit
    · exact shelved.own platform rows (same.symm.trans hit)
  · intro platform rows hit contest announced ofPlatform
    rcases lists platform with dropped | ⟨same, earlier⟩
    · cases dropped.symm.trans hit
    · exact shelved.complete platform rows (same.symm.trans hit) contest
        (earlier contest announced ofPlatform) ofPlatform

theorem schemed_of_contests (schemed : before.database.Schemed)
    (removed : ∀ contest ∈ after.database.contests.rows,
      contest ∈ before.database.contests.rows) : after.database.Schemed :=
  fun contest member => schemed contest (removed contest member)

theorem schemed_of_removed {pruned : Database} {platform : String} {contestIDs : List String}
    (schemed : before.database.Schemed)
    (removed : pruned = before.database ∨ pruned =
      before.database.pruneObsolete before.now platform contestIDs) : pruned.Schemed := by
  rcases removed with same | deleted
  · rw [same]
    exact schemed
  · rw [deleted]
    exact schemed.delete _

theorem filled (shelved : Shelved before) (filled : Filled before after) : Shelved after := by
  have same : ∀ contest ∈ after.database.contests.rows,
      contest ∈ before.database.contests.rows := by
    rw [filled.contests]
    exact fun _ member => member
  refine ⟨schemed_of_contests shelved.schemed same, ?_, ?_⟩
  · intro platform rows hit contest member
    rcases filled.lists platform with kept | ⟨filledRows, listed, announced⟩
    · exact shelved.own platform rows (kept.symm.trans hit) contest member
    · cases listed.symm.trans hit
      exact ((announced contest).mp member).2
  · intro platform rows hit contest announcedAfter ofPlatform
    have announcedBefore := (filled.announces contest).mp announcedAfter
    rcases filled.lists platform with kept | ⟨filledRows, listed, announced⟩
    · exact shelved.complete platform rows (kept.symm.trans hit) contest announcedBefore ofPlatform
    · cases listed.symm.trans hit
      exact (announced contest).mpr ⟨announcedBefore, ofPlatform⟩

theorem shrunk (shelved : Shelved before)
    (removed : ∀ contest ∈ after.database.contests.rows, contest ∈ before.database.contests.rows)
    (now : before.now ≤ after.now)
    (lists : ∀ platform, after.valkey.contests platform = before.valkey.contests platform ∨
      after.valkey.contests platform = none) : Shelved after := by
  refine shelved.kept (schemed_of_contests shelved.schemed removed) ?_
  intro platform
  rcases lists platform with same | dropped
  · exact .inr ⟨same, fun contest announced _ =>
      ⟨removed contest announced.1, Int.lt_of_le_of_lt now announced.2⟩⟩
  · exact .inl dropped

theorem relisted (shelved : Shelved before) (relisted : Relisted before after) :
    Shelved after := by
  cases relisted with
  | filled filled => exact shelved.filled filled
  | passed lapse =>
    refine shelved.shrunk ?_ lapse.now lapse.contests
    rw [lapse.database]
    exact fun _ member => member
  | ended contests now lists dropped =>
    refine shelved.shrunk ?_ (Int.le_of_eq now.symm) lists
    rw [contests]
    exact fun _ member => (Database.mem_deleteContests.mp member).1
  | @extracted pruned platform contests supported built removed table now lists =>
    have schemed := schemed_of_removed shelved.schemed removed
    have earlier : ∀ contest ∈ pruned.contests.rows, contest ∈ before.database.contests.rows := by
      rcases removed with same | deleted
      · rw [same]
        exact fun _ member => member
      · rw [deleted]
        exact fun _ member => (Database.mem_deleteContests.mp member).1
    refine shelved.kept ?_ ?_
    · unfold Database.Schemed
      rw [table]
      exact schemed.upsertContests built
    · intro other
      rw [lists]
      by_cases same : other = platform
      · rw [same, update_self]
        exact .inl rfl
      · rw [update_of_ne same]
        refine .inr ⟨rfl, ?_⟩
        rintro contest ⟨stored, future⟩ rfl
        rw [table, Database.mem_upsertContests_other schemed built same] at stored
        rw [now] at future
        exact ⟨earlier contest stored, future⟩

theorem cut (shelved : Shelved before) (cut : Cut before after) : Shelved after :=
  shelved.shrunk cut.removed (Int.le_of_eq cut.now.symm)
    (fun platform => .inl (congrFun cut.lists platform))

theorem loads {world : World} (shelved : Shelved world) {selected : List String}
    {contest : ContestRow} (announced : world.Announces contest)
    (chosen : contest.platform ∈ selected) : world.Loads true selected contest := by
  cases hit : world.list true contest.platform with
  | none => exact .inr ⟨announced, chosen, hit⟩
  | some rows =>
    exact .inl ⟨contest.platform, chosen, rows, hit,
      shelved.complete contest.platform rows hit contest announced rfl⟩

end Shelved

end ContestSync
