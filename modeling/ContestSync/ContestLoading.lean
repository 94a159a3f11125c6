/-
The contests that `SyncUser` processes: the cached lists of the platforms that have one,
and for the other platforms the contests that have not started, from the database.
What was read from the database is put into the lists.
-/

import ContestSync.Histories

namespace ContestSync

open Resumable Program

namespace World

variable (world : World)

def Announces (contest : ContestRow) : Prop :=
  contest ∈ world.database.contests.rows ∧ world.now < contest.startTime

def setCachedContests (contests : String → Option (List ContestRow)) : World :=
  { world with valkey := { world.valkey with contests := contests } }

def Announced (platform : String) (rows : List ContestRow) : Prop :=
  ∀ contest, contest ∈ rows ↔ world.Announces contest ∧ contest.platform = platform

def list (valkey : Bool) (platform : String) : Option (List ContestRow) :=
  if valkey then world.valkey.contests platform else none

def Loads (valkey : Bool) (selected : List String) (contest : ContestRow) :
    Prop :=
  (∃ platform ∈ selected, ∃ rows, world.list valkey platform = some rows ∧ contest ∈ rows) ∨
    world.Announces contest ∧ contest.platform ∈ selected ∧
      world.list valkey contest.platform = none

/-- Some lists were filled with the announced contests, the others are as before. -/
def Refilled (lists : String → Option (List ContestRow)) : Prop :=
  ∀ platform, lists platform = world.valkey.contests platform ∨
    ∃ rows, lists platform = some rows ∧ world.Announced platform rows

theorem Refilled.set {world : World} {lists : String → Option (List ContestRow)}
    (refilled : world.Refilled lists) {platform : String} {rows : List ContestRow}
    (announced : world.Announced platform rows) :
    world.Refilled (Function.update lists platform (some rows)) := by
  intro other
  by_cases same : other = platform
  · subst same
    exact .inr ⟨rows, Function.update_self other _ _, announced⟩
  · rw [Function.update_of_ne same]
    exact refilled other

end World

theorem mem_selectContests_iff {world : World} {selected : List String} {contest : ContestRow} :
    contest ∈ world.database.selectContests world.now selected ↔
      world.Announces contest ∧ contest.platform ∈ selected := by
  rw [Database.mem_selectContests, World.Announces]
  exact ⟨fun ⟨member, chosen, future⟩ => ⟨⟨member, future⟩, chosen⟩,
    fun ⟨⟨member, future⟩, chosen⟩ => ⟨member, chosen, future⟩⟩

section Loading

variable {remote : Request → Outcome → Prop} {world : World}

theorem ensures_cachedContests (selected : List String) :
    Ensures (alone remote) (fun answer later => later = world ∧
        answer.2 = selected.filter (fun platform => (world.valkey.contests platform).isNone) ∧
        ∀ contest, contest ∈ answer.1 ↔
          ∃ platform ∈ selected, ∃ rows, world.valkey.contests platform = some rows ∧
            contest ∈ rows)
      (Syncer.cachedContests selected) world := by
  induction selected with
  | nil =>
    refine ⟨rfl, rfl, ?_⟩
    intro contest
    simp
  | cons platform rest ih =>
    apply ensures_local rfl
    intro hit answered
    refine Ensures.then ih ?_
    rintro ⟨found, missed⟩ later ⟨rfl, unlisted, members⟩
    change hit = later.valkey.contests platform at answered
    change missed = _ at unlisted
    change ∀ contest, contest ∈ found ↔ _ at members
    cases hit with
    | none =>
      refine ⟨rfl, ?_, ?_⟩
      · change platform :: missed = _
        rw [List.filter_cons_of_pos (by rw [← answered]; rfl), unlisted]
      · intro contest
        rw [List.exists_mem_cons_iff, ← answered]
        simp only [reduceCtorEq, false_and, exists_false, false_or]
        exact members contest
    | some rows =>
      refine ⟨rfl, ?_, ?_⟩
      · change missed = _
        rw [List.filter_cons_of_neg (by rw [← answered]; exact Bool.false_ne_true), unlisted]
      · intro contest
        change contest ∈ rows ++ found ↔ _
        rw [List.mem_append, List.exists_mem_cons_iff, ← answered, members contest]
        simp

theorem ensures_fillContests {rows : List ContestRow} {wanted : List String}
    (queried : ∀ contest, contest ∈ rows ↔ world.Announces contest ∧ contest.platform ∈ wanted)
    {lists : String → Option (List ContestRow)} (refilled : world.Refilled lists)
    (missed : List String) (within : ∀ platform ∈ missed, platform ∈ wanted) :
    Ensures (alone remote) (fun answer later => (∃ lists, later = world.setCachedContests lists ∧
          world.Refilled lists) ∧
        ∀ contest, contest ∈ answer ↔ world.Announces contest ∧ contest.platform ∈ missed)
      (Syncer.fillContests rows missed) (world.setCachedContests lists) := by
  induction missed generalizing lists with
  | nil =>
    refine ⟨⟨lists, rfl, refilled⟩, ?_⟩
    intro contest
    simp
  | cons platform rest ih =>
    have own : world.Announced platform
        (rows.filter (fun contest => contest.platform = platform)) := by
      intro contest
      rw [List.mem_filter, queried, decide_eq_true_iff]
      constructor
      · exact fun ⟨⟨announced, _⟩, same⟩ => ⟨announced, same⟩
      · rintro ⟨announced, same⟩
        refine ⟨⟨announced, ?_⟩, same⟩
        rw [same]
        exact within platform List.mem_cons_self
    apply ensures_local rfl
    intro _ _
    refine (ih (refilled.set own)
      (fun other member => within other (List.mem_cons_of_mem _ member))).then ?_
    rintro others later ⟨reached, members⟩
    refine ⟨reached, ?_⟩
    intro contest
    rw [List.mem_append, own contest, members, List.mem_cons, and_or_left]

theorem ensures_loadContests_lists (syncer : Syncer) (selected : List String) :
    Ensures (alone remote) (fun found later => (∃ lists, later = world.setCachedContests lists ∧
          world.Refilled lists) ∧ ∃ rows, found = some rows ∧
        ∀ contest, contest ∈ rows ↔ world.Loads syncer.valkey selected contest)
      (syncer.loadContests selected) world := by
  have unfilled : world.Refilled world.valkey.contests := fun _ => .inl rfl
  have asBefore : ∃ lists, world = world.setCachedContests lists ∧ world.Refilled lists :=
    ⟨world.valkey.contests, rfl, unfilled⟩
  unfold Syncer.loadContests World.Loads World.list
  cases configured : syncer.valkey with
  | false =>
    apply ensures_local rfl
    rintro _ rfl
    refine ⟨asBefore, _, rfl, ?_⟩
    intro contest
    rw [mem_selectContests_iff]
    simp
  | true =>
    simp only [if_true]
    refine (ensures_cachedContests selected).then ?_
    rintro ⟨found, missed⟩ later ⟨rfl, unlisted, members⟩
    change missed = _ at unlisted
    have listed : ∀ platform, platform ∈ missed ↔
        platform ∈ selected ∧ later.valkey.contests platform = none := by
      intro platform
      rw [unlisted, List.mem_filter, Option.isNone_iff_eq_none]
    apply ensures_ite
    · intro nothing
      refine ⟨asBefore, found, rfl, ?_⟩
      intro contest
      refine (members contest).trans (or_iff_left ?_).symm
      rintro ⟨_, chosen, unlisted⟩
      have member := (listed contest.platform).mpr ⟨chosen, unlisted⟩
      change missed = [] at nothing
      rw [nothing] at member
      cases member
    · intro _
      apply ensures_local rfl
      rintro _ rfl
      refine (ensures_fillContests (fun contest => mem_selectContests_iff)
        unfilled missed (fun _ member => member)).then ?_
      rintro filled last ⟨reached, added⟩
      refine ⟨reached, found ++ filled, rfl, ?_⟩
      intro contest
      rw [List.mem_append, members contest, added contest, listed]

end Loading

end ContestSync
