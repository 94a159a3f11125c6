/-
Refreshing a set from a listing in two statements: what the listing does not know
is pruned, then what it knows is stored. A refresh by itself leaves what is upcoming
in the listing. Two of them that overlap leave the union of both, except for what
the later one knows not to be upcoming any more.
-/

import Mathlib.Order.BooleanAlgebra.Set
import Mathlib.Tactic.Tauto
import ContestSync.Resumable.Merge

namespace Refresh

open Resumable

variable {α : Type}

/-- What a listing knows, and what of it is upcoming. -/
structure Listing (α : Type) where
  known : Set α
  upcoming : Set α
  listed : upcoming ⊆ known

inductive Statement (α : Type) where
  | prune (listing : Listing α)
  | store (listing : Listing α)

def Statement.apply : Statement α → Set α → Set α
  | .prune listing, stored => stored ∩ listing.known
  | .store listing, stored => (stored \ listing.known) ∪ listing.upcoming

def execute (statements : List (Statement α)) (stored : Set α) : Set α :=
  statements.foldl (fun stored statement => statement.apply stored) stored

def overlapped (earlier later : Listing α) : Set α :=
  (earlier.upcoming \ later.known) ∪ later.upcoming

theorem execute_serial (first second : Listing α) (stored : Set α) :
    execute [.prune first, .store first, .prune second, .store second] stored =
      second.upcoming := by
  ext item
  simp only [execute, List.foldl, Statement.apply, Set.mem_union, Set.mem_sdiff, Set.mem_inter_iff]
  tauto

theorem execute_overlapped (listings : Bool → Listing α) (stored : Set α) (which other : Bool) :
    execute [.prune (listings !other), .prune (listings other), .store (listings !which),
        .store (listings which)] stored =
      overlapped (listings !which) (listings which) := by
  ext item
  have pruned : ∀ item ∈ stored ∩ (listings !other).known ∩ (listings other).known,
      item ∈ (listings which).known := by
    rintro item ⟨⟨_, one⟩, two⟩
    cases other <;> cases which <;> assumption
  have spared := pruned item
  simp only [execute, overlapped, List.foldl, Statement.apply, Set.mem_union, Set.mem_sdiff,
    Set.mem_inter_iff] at spared ⊢
  tauto

theorem execute_merge (listings : Bool → Listing α) {merged : List (Statement α)}
    (merge : Merge [.prune (listings false), .store (listings false)]
      [.prune (listings true), .store (listings true)] merged) (stored : Set α) :
    ∃ which, execute merged stored = (listings which).upcoming ∨
      execute merged stored = overlapped (listings !which) (listings which) := by
  obtain ⟨which, rfl | ⟨other, rfl⟩⟩ := Merge.of_pairs
    (fun which => Statement.prune (listings which))
    (fun which => Statement.store (listings which)) merge
  · exact ⟨which, .inl (execute_serial _ _ stored)⟩
  · exact ⟨which, .inr (execute_overlapped listings stored which other)⟩

theorem overlapped_eq_later {earlier later : Listing α} :
    overlapped earlier later = later.upcoming ↔ earlier.upcoming ⊆ later.known := by
  rw [overlapped, Set.union_eq_right]
  constructor
  · intro covered item upcoming
    by_contra unknown
    exact unknown (later.listed (covered ⟨upcoming, unknown⟩))
  · intro known item upcoming
    exact absurd (known upcoming.1) upcoming.2

theorem overlapped_eq_earlier {earlier later : Listing α} :
    overlapped earlier later = earlier.upcoming ↔
      later.upcoming = earlier.upcoming ∩ later.known := by
  constructor
  · intro same
    ext item
    have atItem := Set.ext_iff.mp same item
    have listed : item ∈ later.upcoming → item ∈ later.known := fun member => later.listed member
    simp only [overlapped, Set.mem_union, Set.mem_sdiff, Set.mem_inter_iff] at atItem ⊢
    tauto
  · intro same
    rw [overlapped, same]
    exact Set.sdiff_union_inter earlier.upcoming later.known

end Refresh
