/-
Counting with a map. A key that is not in the map counts as zero, and an entry stays when its
count comes back to zero. Going over the entries in whatever order, and stopping at the first
that is not zero, finds out whether two lists have the same items equally often.
-/

import ContestSync.KeyedTable
import Mathlib.Data.Int.Basic

namespace Tally

variable {κ : Type}

/-- The entries of a map have different keys. -/
abbrev Counts (κ : Type) := Keyed.Table (Prod.fst : κ × Int → κ)

/-- An order in which the entries of a map can be visited. -/
structure Order (α : Type) where
  visit : List α → List α
  perm : ∀ items, (visit items).Perm items

/-- The loop that stops at a count other than zero. -/
def unbalanced : (entries : List (κ × Int)) → Bool
  | [] => false
  | entry :: rest => if entry.2 ≠ 0 then true else unbalanced rest

theorem unbalanced_eq_true_iff {entries : List (κ × Int)} :
    unbalanced entries = true ↔ ∃ entry ∈ entries, entry.2 ≠ 0 := by
  induction entries with
  | nil => simp [unbalanced]
  | cons entry rest ih =>
    rw [unbalanced]
    by_cases zero : entry.2 = 0
    · simp [zero, ih]
    · simp [zero]

variable [DecidableEq κ]

/-- `counts[key] += amount`. -/
def add (amount : Int) (counts : Counts κ) (key : κ) : Counts κ :=
  counts.upsert (key, amount) (fun entry => (entry.1, entry.2 + amount)) (fun _ => rfl)

def addAll (amount : Int) (counts : Counts κ) (keys : List κ) : Counts κ :=
  keys.foldl (add amount) counts

/-- `counts[key]`. -/
def value (counts : Counts κ) (key : κ) : Int :=
  ((counts.find key).map Prod.snd).getD 0

@[simp] theorem value_empty (key : κ) : value Keyed.Table.empty key = 0 :=
  rfl

theorem value_add (amount : Int) (counts : Counts κ) (key other : κ) :
    value (add amount counts key) other =
      value counts other + if other = key then amount else 0 := by
  rw [value, add, Keyed.Table.find_upsert]
  by_cases same : other = key
  · subst same
    rw [if_pos rfl, if_pos rfl, value]
    cases counts.find other with
    | none => exact (Int.zero_add amount).symm
    | some entry => rfl
  · rw [if_neg same, if_neg same, Int.add_zero, value]

theorem value_addAll (amount : Int) (counts : Counts κ) (keys : List κ) (key : κ) :
    value (addAll amount counts keys) key = value counts key + amount * keys.count key := by
  induction keys generalizing counts with
  | nil => simp [addAll]
  | cons first keys ih =>
    have rest := ih (add amount counts first)
    rw [addAll, List.foldl_cons]
    rw [addAll] at rest
    rw [rest, value_add]
    by_cases same : key = first
    · subst same
      rw [if_pos rfl, List.count_cons_self, Int.natCast_succ, Int.mul_add, Int.mul_one]
      omega
    · rw [if_neg same, Int.add_zero, List.count_cons_of_ne (Ne.symm same)]

theorem exists_entry_iff (counts : Counts κ) :
    (∃ entry ∈ counts.rows, entry.2 ≠ 0) ↔ ∃ key, value counts key ≠ 0 := by
  constructor
  · rintro ⟨entry, member, nonzero⟩
    refine ⟨entry.1, ?_⟩
    rw [value, Keyed.Table.find_of_mem member]
    exact nonzero
  · rintro ⟨key, nonzero⟩
    cases found : counts.find key with
    | none =>
      rw [value, found] at nonzero
      exact absurd rfl nonzero
    | some entry =>
      rw [value, found] at nonzero
      exact ⟨entry, (Keyed.Table.find_eq_some_iff.mp found).1, nonzero⟩

/-- One list counted up and another one down. -/
def difference (up down : List κ) : Counts κ :=
  addAll (-1) (addAll 1 Keyed.Table.empty up) down

theorem value_difference (up down : List κ) (key : κ) :
    value (difference up down) key = up.count key - down.count key := by
  rw [difference, value_addAll, value_addAll, value_empty]
  omega

theorem unbalanced_difference_iff (order : Order (κ × Int)) (up down : List κ) :
    unbalanced (order.visit (difference up down).rows) = true ↔
      ∃ key, (up.count key : Int) - down.count key ≠ 0 := by
  rw [unbalanced_eq_true_iff]
  simp only [(order.perm _).mem_iff, exists_entry_iff, value_difference]

theorem unbalanced_difference_eq_false (order : Order (κ × Int)) (up down : List κ) :
    unbalanced (order.visit (difference up down).rows) = false ↔ up.Perm down := by
  rw [Bool.eq_false_iff, Ne, unbalanced_difference_iff, List.perm_iff_count]
  constructor
  · intro balanced key
    by_contra different
    exact balanced ⟨key, by omega⟩
  · rintro counted ⟨key, different⟩
    have same := counted key
    omega

end Tally
