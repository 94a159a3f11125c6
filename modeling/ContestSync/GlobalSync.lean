/-
The synchronisation of all users. The scheduler reads the eligible users page by page,
by limit and offset, while users come and go. A user is left out when deletions carry the
user back over the end of the pages that were read, and is queued twice when others come to
stand before: an id is drawn from the sequence when an insert begins, and is seen when it
commits, so that a new user need not stand after the old ones.
-/

import ContestSync.GuardedRuns
import ContestSync.OffsetPaging
import ContestSync.Service
import Mathlib.Data.List.Sort

namespace ContestSync.GlobalSync

open OffsetPaging (rank page visited Ascending Full Complete Beyond forwards backwards)

/-- The table of the users, as a statement sees it. -/
abbrev Users : Type :=
  Keyed.Table UserRow.id

/-- `has_calendar_access = TRUE AND refresh_token IS NOT NULL AND refresh_token != ''`. -/
def eligible (user : UserRow) : Bool :=
  user.hasCalendarAccess ∧ user.refreshToken.getD "" ≠ ""

/-- The rows of the query without its limit, `ORDER BY id`. -/
def eligibleIDs (users : Users) : List Int :=
  ((users.rows.filter eligible).map UserRow.id).mergeSort (fun first second => first ≤ second)

def limit : Nat :=
  500

inductive Change where
  -- A new row is seen, under whatever id was drawn for it.
  | insert (user : UserRow)
  | delete (condition : UserRow → Bool)
  | update (userID : Int) (change : Database.UserChange)

theorem id_assign (userID : Int) (change : Database.UserChange) (user : UserRow) :
    (if user.id = userID then change.apply user else user).id = user.id := by
  split <;> simp [change.keepsID]

def Change.apply (users : Users) : Change → Users
  | .insert user =>
    if fresh : ∀ old ∈ users.rows, old.id ≠ user.id then users.insert user fresh else users
  | .delete condition => users.delete condition
  | .update userID change =>
    users.revise (fun user => if user.id = userID then change.apply user else user)
      (id_assign userID change)

inductive Stage where
  | querying (offset : Nat)
  | reading (offset count : Nat) (rows : List Int)
  | ended
  | failed
deriving DecidableEq

/-- `published` are the users that `PublishSyncTask` was called with. `snapshots` are the
eligible users that each query has seen; nobody reads them. -/
structure State where
  users : Users
  stage : Stage
  published : List Int
  snapshots : List (List Int)
  broken : Bool

inductive Event where
  | change (change : Change)
  -- The query goes to a replica that lags behind, or to none.
  | query (replica : Option Users)
  | queryFailed
  -- The next row; whether the task could be published makes no difference.
  | next
  | close
  -- The connection is lost with rows left to read, which nobody asks for.
  | lost

def Stage.after (offset count : Nat) : Stage :=
  if count < limit then .ended else .querying (offset + limit)

/-- `none` when the scheduler is not there. -/
def step (state : State) : Event → Option State
  | .change change => some { state with users := change.apply state.users }
  | .query replica =>
    match state.stage with
    | .querying offset =>
      let ids := eligibleIDs (replica.getD state.users)
      some { state with
        stage := .reading offset 0 ((ids.drop offset).take limit)
        snapshots := state.snapshots ++ [ids] }
    | _ => none
  | .queryFailed =>
    match state.stage with
    | .querying _ => some { state with stage := .failed }
    | _ => none
  | .next =>
    match state.stage with
    | .reading offset count (userID :: rows) =>
      some { state with
        stage := .reading offset (count + 1) rows
        published := state.published ++ [userID] }
    | _ => none
  | .close =>
    match state.stage with
    | .reading offset count [] => some { state with stage := .after offset count }
    | _ => none
  | .lost =>
    match state.stage with
    | .reading offset count (_ :: _) =>
      some { state with
        stage := .after offset count
        broken := true }
    | _ => none

def run (state : State) (events : List Event) : Option State :=
  events.foldlM step state

def State.initial (users : Users) : State :=
  { users := users
    stage := .querying 0
    published := []
    snapshots := []
    broken := false }

/-! ### The eligible users -/

section Eligible

variable {users : Users} {userID : Int}

theorem ascending_eligibleIDs (users : Users) : Ascending (eligibleIDs users) := by
  have sorted : (eligibleIDs users).Pairwise (fun first second => first ≤ second) := by
    have made := @List.pairwise_mergeSort Int (fun first second => decide (first ≤ second))
      (fun first second third => by simpa using Int.le_trans)
      (fun first second => by simpa using Int.le_total first second)
      ((users.rows.filter eligible).map UserRow.id)
    exact made.imp of_decide_eq_true
  have distinct : (eligibleIDs users).Nodup := by
    apply (List.mergeSort_perm _ _).nodup_iff.mpr
    exact (List.filter_sublist.map UserRow.id).nodup users.distinct
  exact (sorted.and distinct).imp (fun both => lt_of_le_of_ne both.1 both.2)

end Eligible

/-- What the requests of the service do to the table: `handleSyncError` sends the first of
them, the scheduler the second and a login the third. -/
theorem handle_changes (world : World) (userID : Int) (rejected : Option String) (login : Login) :
    (world.handle (.deleteUser userID rejected)).1.database.users =
        Change.apply world.database.users (.delete (fun user => user.id = userID)) ∧
      (∃ condition, (world.handle .pruneUsers).1.database.users =
        Change.apply world.database.users (.delete condition)) ∧
      ∃ change : Change, (world.handle (.upsertUser login)).1.database.users =
        change.apply world.database.users := by
  refine ⟨rfl, ⟨_, rfl⟩, ?_⟩
  rcases world.database.upsertUser_cases login.googleID login.email login.refreshToken
    login.hasCalendarAccess world.now with ⟨user, _, _, updated⟩ | ⟨next, unused, inserted⟩
  · refine ⟨.update user.id (Database.loginChange login.email login.refreshToken
      login.hasCalendarAccess), ?_⟩
    exact congrArg (fun result => result.1.users) updated
  · refine ⟨.insert (Database.newUser world.database.serial login.googleID login.email
      login.refreshToken login.hasCalendarAccess world.now), ?_⟩
    rw [Change.apply, dif_pos (world.database.unissued next)]
    exact congrArg (fun result => result.1.users) inserted

/-! ### The pages that were read -/

def Sorted (state : State) : Prop :=
  ∀ items ∈ state.snapshots, Ascending items

def Progress (state : State) : Prop :=
  match state.stage with
  | .querying offset =>
    offset = limit * state.snapshots.length ∧ Full limit 0 state.snapshots ∧
      state.published = visited limit 0 state.snapshots
  | .reading offset count rows =>
    ∃ earlier items, state.snapshots = earlier ++ [items] ∧
      offset = limit * earlier.length ∧ Full limit 0 earlier ∧
      state.published ++ rows = visited limit 0 state.snapshots ∧
      count + rows.length = (page limit earlier.length items).length
  | .ended =>
    state.broken = false →
      Complete limit 0 state.snapshots ∧ state.published = visited limit 0 state.snapshots
  | .failed => True

section Steps

variable {state after : State} {event : Event}

theorem Sorted.step (sorted : Sorted state) (made : step state event = some after) :
    Sorted after := by
  cases event with
  | change change =>
    cases made
    exact sorted
  | query replica =>
    simp only [GlobalSync.step] at made
    split at made
    · cases made
      rw [Sorted, List.forall_mem_append, List.forall_mem_singleton]
      exact ⟨sorted, ascending_eligibleIDs _⟩
    · cases made
  | queryFailed | next | close | lost =>
    simp only [GlobalSync.step] at made
    split at made
    · cases made
      exact sorted
    · cases made

theorem Progress.step (progress : Progress state) (made : step state event = some after) :
    Progress after := by
  cases event with
  | change change =>
    cases made
    exact progress
  | query replica =>
    simp only [GlobalSync.step] at made
    split at made
    · rename_i offset stage
      cases made
      simp only [Progress, stage] at progress ⊢
      obtain ⟨position, full, published⟩ := progress
      refine ⟨state.snapshots, _, rfl, position, full, ?_, ?_⟩
      · rw [OffsetPaging.visited_append, published, Nat.zero_add, position]
        exact congrArg _ (List.append_nil _).symm
      · rw [Nat.zero_add, page, position]
    · cases made
  | queryFailed =>
    simp only [GlobalSync.step] at made
    split at made
    · cases made
      trivial
    · cases made
  | next =>
    simp only [GlobalSync.step] at made
    split at made
    · rename_i offset count userID rows stage
      cases made
      simp only [Progress, stage] at progress ⊢
      obtain ⟨earlier, items, snapshots, position, full, published, length⟩ := progress
      refine ⟨earlier, items, snapshots, position, full, ?_, ?_⟩
      · rw [List.append_assoc]
        exact published
      · rw [List.length_cons] at length
        omega
    · cases made
  | close =>
    simp only [GlobalSync.step] at made
    split at made
    · rename_i offset count stage
      cases made
      simp only [Progress, stage] at progress
      obtain ⟨earlier, items, snapshots, position, full, published, length⟩ := progress
      rw [List.append_nil] at published
      rw [List.length_nil, Nat.add_zero] at length
      have bound : (page limit earlier.length items).length ≤ limit := List.length_take_le _ _
      rw [Stage.after]
      split
      · rename_i short
        intro _
        refine ⟨?_, published⟩
        rw [snapshots]
        apply OffsetPaging.complete_concat full
        rw [Nat.zero_add, ← length]
        exact short
      · rename_i whole
        refine ⟨?_, ?_, published⟩
        · simp only [snapshots, List.length_append, List.length_singleton, Nat.mul_succ, position]
        · simp only [snapshots]
          apply OffsetPaging.full_concat full
          rw [Nat.zero_add]
          omega
    · cases made
  | lost =>
    simp only [GlobalSync.step] at made
    split at made
    · rename_i offset count userID rows stage
      cases made
      simp only [Progress, stage] at progress
      obtain ⟨earlier, items, _, _, _, _, length⟩ := progress
      have bound : (page limit earlier.length items).length ≤ limit := List.length_take_le _ _
      rw [List.length_cons] at length
      rw [Stage.after, if_pos (by omega)]
      intro impossible
      cases impossible
    · cases made

theorem progress_initial (users : Users) : Progress (State.initial users) :=
  ⟨rfl, trivial, rfl⟩

theorem progress_run {events : List Event} (sorted : Sorted state) (progress : Progress state)
    (ran : run state events = some after) : Sorted after ∧ Progress after := by
  refine GuardedRuns.keeps (fun later => Sorted later ∧ Progress later) ?_ ran ⟨sorted, progress⟩
  rintro before next event made ⟨stillSorted, advanced⟩
  exact ⟨stillSorted.step made, advanced.step made⟩

end Steps

/-- A user who is eligible at every query is queued once, once more for each time that the user
is carried forward over the end of the pages read, and once less for each time back. -/
theorem published_once_iff {users : Users} {events : List Event} {state : State}
    {userID : Int} (ran : run (.initial users) events = some state)
    (ended : state.stage = .ended) (whole : state.broken = false)
    (throughout : ∀ items ∈ state.snapshots, userID ∈ items) :
    Complete limit 0 state.snapshots ∧
      state.published.count userID + backwards limit userID 0 state.snapshots =
        forwards limit userID 0 state.snapshots + 1 ∧
      (state.published.count userID = 1 ↔
        forwards limit userID 0 state.snapshots = backwards limit userID 0 state.snapshots) := by
  have unread : Sorted (.initial users) := nofun
  obtain ⟨sorted, progress⟩ := progress_run unread (progress_initial users) ran
  rw [Progress, ended] at progress
  obtain ⟨complete, published⟩ := progress whole
  have balance : state.published.count userID + backwards limit userID 0 state.snapshots =
      forwards limit userID 0 state.snapshots + 1 := by
    rw [published]
    cases snapshots : state.snapshots with
    | nil =>
      rw [snapshots] at complete
      exact complete.elim
    | cons items later =>
      rw [Sorted, snapshots] at sorted
      rw [snapshots] at throughout complete
      rw [OffsetPaging.count_visited sorted throughout complete, if_pos]
      rw [Beyond, Nat.mul_zero]
      exact Nat.zero_le _
  exact ⟨complete, balance, by omega⟩

/-! ### A deletion between two pages -/

section Pages

variable {state : State} {offset count : Nat} {rows : List Int}

theorem run_append (state : State) (first second : List Event) :
    run state (first ++ second) = (run state first).bind (fun middle => run middle second) :=
  List.foldlM_append

theorem run_next (stage : state.stage = .reading offset count rows) :
    run state (List.replicate rows.length .next) = some { state with
        stage := .reading offset (count + rows.length) []
        published := state.published ++ rows } := by
  induction rows generalizing state count with
  | nil =>
    rw [List.length_nil, Nat.add_zero, List.append_nil, ← stage]
    rfl
  | cons userID rows ih =>
    rw [List.length_cons, List.replicate_succ, run, List.foldlM_cons]
    have made : step state .next = some { state with
        stage := .reading offset (count + 1) rows
        published := state.published ++ [userID] } := by
      simp only [step, stage]
    rw [made]
    refine (ih rfl).trans ?_
    simp only [List.append_assoc, List.singleton_append, Nat.add_assoc, Nat.add_comm 1]

theorem run_page {users : Users} {published : List Int} {snapshots : List (List Int)}
    (ids : ((eligibleIDs users).drop offset).take limit = rows) :
    run ⟨users, .querying offset, published, snapshots, false⟩
        (.query none :: (List.replicate rows.length .next ++ [.close])) =
      some ⟨users, .after offset rows.length, published ++ rows,
        snapshots ++ [eligibleIDs users], false⟩ := by
  have made : step ⟨users, .querying offset, published, snapshots, false⟩ (.query none) =
      some ⟨users, .reading offset 0 rows, published, snapshots ++ [eligibleIDs users], false⟩ := by
    simp only [step, Option.getD_none, ids]
  rw [run, List.foldlM_cons, made]
  refine (run_append _ _ _).trans ?_
  rw [run_next rfl, Nat.zero_add]
  rfl

theorem run_change (state : State) (change : Change) (events : List Event) :
    run state (.change change :: events) =
      run { state with users := change.apply state.users } events :=
  rfl

end Pages

def member (index : Nat) : UserRow :=
  Database.newUser (index + 1) (String.ofList (List.replicate index 'g')) "" "token" true 0

def crowd (count : Nat) : Users :=
  { rows := (List.range count).map member
    distinct := by
      rw [List.map_map]
      refine List.nodup_range.map ?_
      intro first second same
      simp only [Function.comp_apply, member, Database.newUser] at same
      omega }

def deleteFirst : Change :=
  .delete (fun user => user.id = 1)

def idsFrom (first count : Nat) : List Int :=
  (List.range count).map (fun index : Nat => ((first + index : Nat) : Int))

theorem mem_idsFrom {first count : Nat} {userID : Int} :
    userID ∈ idsFrom first count ↔ (first : Int) ≤ userID ∧ userID < first + count := by
  simp only [idsFrom, List.mem_map, List.mem_range]
  constructor
  · rintro ⟨index, small, rfl⟩
    omega
  · rintro ⟨least, most⟩
    exact ⟨(userID - first).toNat, by omega, by omega⟩

theorem length_idsFrom (first count : Nat) : (idsFrom first count).length = count := by
  rw [idsFrom, List.length_map, List.length_range]

theorem page_idsFrom (first offset count : Nat) :
    ((idsFrom first (offset + count)).drop offset).take limit =
      idsFrom (first + offset) (min limit count) := by
  apply List.ext_getElem
  · simp only [idsFrom, List.length_take, List.length_drop, List.length_map, List.length_range]
    omega
  · intro index _ _
    simp only [idsFrom, List.getElem_take, List.getElem_drop, List.getElem_map,
      List.getElem_range, Nat.add_assoc]

theorem eligibleIDs_of_members {users : Users} {first count : Nat}
    (rows : users.rows = (List.range count).map (fun index => member (first + index))) :
    eligibleIDs users = idsFrom (first + 1) count := by
  have all : users.rows.filter eligible = users.rows := by
    rw [List.filter_eq_self, rows]
    intro user present
    obtain ⟨index, _, made⟩ := List.mem_map.mp present
    rw [← made]
    rfl
  have ids : users.rows.map UserRow.id = idsFrom (first + 1) count := by
    rw [rows, List.map_map, idsFrom]
    refine List.map_congr_left ?_
    intro index _
    simp only [Function.comp_apply, member, Database.newUser]
    omega
  rw [eligibleIDs, all, ids]
  apply List.mergeSort_of_pairwise
  rw [idsFrom, List.pairwise_map]
  refine List.pairwise_lt_range.imp ?_
  intro first second less
  rw [decide_eq_true_eq]
  omega

theorem eligibleIDs_crowd (count : Nat) : eligibleIDs (crowd count) = idsFrom 1 count := by
  refine @eligibleIDs_of_members (crowd count) 0 count ?_
  simp only [crowd, Nat.zero_add]

theorem eligibleIDs_deleteFirst (count : Nat) :
    eligibleIDs (deleteFirst.apply (crowd (count + 1))) = idsFrom 2 count := by
  refine @eligibleIDs_of_members (deleteFirst.apply (crowd (count + 1))) 1 count ?_
  have others : ∀ user ∈ (List.range count).map (fun index => member (1 + index)),
      (!decide (user.id = 1)) = true := by
    intro user present
    obtain ⟨index, _, made⟩ := List.mem_map.mp present
    have later : ¬((1 + index : Nat) : Int) + 1 = 1 := by omega
    rw [← made]
    exact (Bool.not_eq_true' _).mpr (decide_eq_false later)
  have successors : (List.range count).map (member ∘ Nat.succ) =
      (List.range count).map (fun index => member (1 + index)) :=
    List.map_congr_left (fun index _ => congrArg member (Nat.add_comm index 1))
  change ((List.range (count + 1)).map member).filter (fun user => !decide (user.id = 1)) = _
  rw [List.range_succ_eq_map, List.map_cons, List.filter_cons_of_neg (by decide), List.map_map,
    successors, List.filter_eq_self.mpr others]

/-- A page of 500 users, the deletion, and a page with the last users. -/
def deletingRun (count : Nat) : List Event :=
  (.query none :: (List.replicate 500 .next ++ [.close])) ++
    .change deleteFirst :: (.query none :: (List.replicate count .next ++ [.close]))

def deletedState (count : Nat) : State :=
  { users := deleteFirst.apply (crowd (501 + count))
    stage := .ended
    published := idsFrom 1 500 ++ idsFrom 502 count
    snapshots := [idsFrom 1 (501 + count), idsFrom 2 (500 + count)]
    broken := false }

theorem run_deletingRun {count : Nat} (few : count < 500) :
    run (.initial (crowd (501 + count))) (deletingRun count) = some (deletedState count) := by
  have first : ((eligibleIDs (crowd (501 + count))).drop 0).take limit = idsFrom 1 500 := by
    rw [eligibleIDs_crowd, ← Nat.zero_add (501 + count), page_idsFrom, limit,
      Nat.min_eq_left (by omega)]
  have second : ((eligibleIDs (deleteFirst.apply (crowd (501 + count)))).drop 500).take limit =
      idsFrom 502 count := by
    rw [show 501 + count = 500 + count + 1 by omega, eligibleIDs_deleteFirst, page_idsFrom, limit,
      Nat.min_eq_right (by omega)]
  have read : run (.initial (crowd (501 + count)))
      (.query none :: (List.replicate 500 .next ++ [.close])) =
        some ⟨crowd (501 + count), .querying 500, idsFrom 1 500, [idsFrom 1 (501 + count)],
          false⟩ := by
    have made := @run_page 0 (idsFrom 1 500) (crowd (501 + count)) [] [] first
    rw [length_idsFrom, eligibleIDs_crowd, List.nil_append, List.nil_append] at made
    exact made
  have closed := @run_page 500 (idsFrom 502 count) (deleteFirst.apply (crowd (501 + count)))
    (idsFrom 1 500) [idsFrom 1 (501 + count)] second
  rw [length_idsFrom, Stage.after, if_pos (show count < limit from few)] at closed
  rw [deletingRun, run_append, read, Option.bind_some, run_change, closed, deletedState,
    show 501 + count = 500 + count + 1 by omega, eligibleIDs_deleteFirst, List.singleton_append]

theorem throughout_deletedState {count : Nat} {userID : Int} (least : 2 ≤ userID)
    (most : userID < 502 + count) : ∀ items ∈ (deletedState count).snapshots, userID ∈ items := by
  rw [deletedState, List.forall_mem_cons, List.forall_mem_singleton, mem_idsFrom, mem_idsFrom]
  omega

/-- The last of 501 users is on no page. -/
theorem deletion_skips_user :
    run (.initial (crowd 501)) (deletingRun 0) = some (deletedState 0) ∧
      (deletedState 0).stage = .ended ∧ (deletedState 0).broken = false ∧
      (∀ items ∈ (deletedState 0).snapshots, 501 ∈ items) ∧ 501 ∉ (deletedState 0).published := by
  refine ⟨@run_deletingRun 0 (by decide), rfl, rfl,
    throughout_deletedState (by decide) (by decide), ?_⟩
  change 501 ∉ idsFrom 1 500 ++ idsFrom 502 0
  rw [List.mem_append, mem_idsFrom, mem_idsFrom]
  omega

/-- The last of 502 users stays beyond the first page. -/
theorem last_user_published_once :
    run (.initial (crowd 502)) (deletingRun 1) = some (deletedState 1) ∧
      (deletedState 1).published.count 502 = 1 := by
  have ran := @run_deletingRun 1 (by decide)
  refine ⟨ran, ((published_once_iff ran rfl rfl ?_).2.2).mpr ?_⟩
  · exact throughout_deletedState (by decide) (by decide)
  · decide +kernel

end ContestSync.GlobalSync
