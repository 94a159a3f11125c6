/-
Tables with a unique key. A table is a list of rows in which no key occurs
twice, so that looking a key up and being in the table are the same thing.
The statements of a store are compositions of the operations below.
-/

import Mathlib.Data.List.Nodup

namespace Keyed

variable {α κ : Type}

structure Table (key : α → κ) where
  rows : List α
  distinct : (rows.map key).Nodup

namespace Table

variable {key : α → κ}

def empty : Table key :=
  { rows := []
    distinct := List.nodup_nil }

variable {table : Table key} {condition : α → Bool} {row : α} {change : α → α} {sought : κ}

theorem row_eq_of_key {first second : α}
    (inFirst : first ∈ table.rows) (inSecond : second ∈ table.rows)
    (same : key first = key second) : first = second :=
  List.inj_on_of_nodup_map table.distinct inFirst inSecond same

def delete (table : Table key) (condition : α → Bool) : Table key :=
  { rows := table.rows.filter (fun row => !condition row)
    distinct := (List.filter_sublist.map key).nodup table.distinct }

@[simp] theorem mem_delete :
    row ∈ (table.delete condition).rows ↔ row ∈ table.rows ∧ condition row = false := by
  simp [delete]

theorem delete_eq_self (spared : ∀ row ∈ table.rows, condition row = false) :
    table.delete condition = table := by
  cases table with
  | mk rows unique =>
    have kept : rows.filter (fun row => !condition row) = rows :=
      List.filter_eq_self.mpr (fun row member => by simp [spared row member])
    unfold delete
    congr

/-- Rewrite rows in place; the key of a row is never rewritten. -/
def revise (table : Table key) (change : α → α)
    (keeps : ∀ row, key (change row) = key row) : Table key :=
  { rows := table.rows.map change
    distinct := by
      have sameKeys : (table.rows.map change).map key = table.rows.map key := by
        rw [List.map_map]
        exact List.map_congr_left (fun row _ => keeps row)
      rw [sameKeys]
      exact table.distinct }

@[simp] theorem mem_revise {keeps : ∀ row, key (change row) = key row} :
    row ∈ (table.revise change keeps).rows ↔ ∃ old ∈ table.rows, change old = row := by
  simp [revise]

def insert (table : Table key) (row : α) (fresh : ∀ old ∈ table.rows, key old ≠ key row) :
    Table key :=
  { rows := table.rows ++ [row]
    distinct := by
      rw [List.map_append, List.nodup_append]
      refine ⟨table.distinct, List.nodup_singleton _, ?_⟩
      intro left leftMember right rightMember same
      obtain ⟨old, oldMember, rfl⟩ := List.mem_map.mp leftMember
      rw [List.map_singleton, List.mem_singleton] at rightMember
      exact fresh old oldMember (same.trans rightMember) }

@[simp] theorem mem_insert {other : α} (fresh : ∀ old ∈ table.rows, key old ≠ key row) :
    other ∈ (table.insert row fresh).rows ↔ other ∈ table.rows ∨ other = row := by
  simp [insert]

/-! ### Looking a key up -/

variable [DecidableEq κ]

def find (table : Table key) (sought : κ) : Option α :=
  table.rows.find? (fun row => key row = sought)

theorem find_eq_some_iff :
    table.find sought = some row ↔ row ∈ table.rows ∧ key row = sought := by
  constructor
  · intro found
    refine ⟨List.mem_of_find?_eq_some found, ?_⟩
    simpa using List.find?_some found
  · rintro ⟨member, atKey⟩
    cases found : table.find sought with
    | none =>
      have absent := List.find?_eq_none.mp found row member
      simp [atKey] at absent
    | some other =>
      have otherMember := List.mem_of_find?_eq_some found
      have otherKey : key other = sought := by
        simpa using List.find?_some found
      rw [row_eq_of_key otherMember member (otherKey.trans atKey.symm)]

theorem find_eq_none_iff :
    table.find sought = none ↔ ∀ row ∈ table.rows, key row ≠ sought := by
  unfold find
  rw [List.find?_eq_none]
  simp

theorem find_of_mem (member : row ∈ table.rows) :
    table.find (key row) = some row :=
  find_eq_some_iff.mpr ⟨member, rfl⟩

theorem find_delete :
    (table.delete condition).find sought =
      (table.find sought).filter (fun row => !condition row) := by
  apply Option.ext
  intro row
  rw [find_eq_some_iff, mem_delete, Option.filter_eq_some_iff, find_eq_some_iff]
  simp only [Bool.not_eq_true']
  exact and_right_comm

theorem find_insert (fresh : ∀ old ∈ table.rows, key old ≠ key row) (different : sought ≠ key row) :
    (table.insert row fresh).find sought = table.find sought := by
  apply Option.ext
  intro found
  rw [find_eq_some_iff, find_eq_some_iff, mem_insert]
  constructor
  · rintro ⟨member | rfl, atKey⟩
    · exact ⟨member, atKey⟩
    · exact absurd atKey.symm different
  · rintro ⟨member, atKey⟩
    exact ⟨Or.inl member, atKey⟩

theorem find_revise {keeps : ∀ row, key (change row) = key row} :
    (table.revise change keeps).find sought = (table.find sought).map change := by
  cases found : table.find sought with
  | none =>
    rw [Option.map_none, find_eq_none_iff]
    intro row member
    obtain ⟨old, oldMember, rfl⟩ := mem_revise.mp member
    rw [keeps]
    exact find_eq_none_iff.mp found old oldMember
  | some row =>
    obtain ⟨member, atKey⟩ := find_eq_some_iff.mp found
    rw [Option.map_some, find_eq_some_iff]
    exact ⟨mem_revise.mpr ⟨row, member, rfl⟩, (keeps row).trans atKey⟩

/-- Insert a row, or on a conflict merge it into the row that holds its key. -/
def upsert (table : Table key) (row : α) (merge : α → α)
    (keeps : ∀ old, key (merge old) = key old) : Table key :=
  if fresh : ∀ old ∈ table.rows, key old ≠ key row then table.insert row fresh
  else
    table.revise (fun old => if key old = key row then merge old else old) (by
      intro old
      split
      · exact keeps old
      · rfl)

theorem find_upsert (table : Table key) (row : α) (merge : α → α)
    (keeps : ∀ old, key (merge old) = key old) (sought : κ) :
    (table.upsert row merge keeps).find sought =
      if sought = key row then some (((table.find (key row)).map merge).getD row)
      else table.find sought := by
  unfold upsert
  split
  · rename_i fresh
    have absent : table.find (key row) = none := find_eq_none_iff.mpr fresh
    by_cases same : sought = key row
    · rw [if_pos same, absent, Option.map_none, Option.getD_none, find_eq_some_iff]
      exact ⟨(mem_insert _).mpr (Or.inr rfl), same.symm⟩
    · rw [if_neg same]
      exact find_insert fresh same
  · rename_i conflict
    rw [find_revise]
    by_cases same : sought = key row
    · rw [if_pos same, same]
      cases found : table.find (key row) with
      | none => exact absurd (find_eq_none_iff.mp found) conflict
      | some old =>
        have atKey := (find_eq_some_iff.mp found).2
        rw [Option.map_some, Option.map_some, Option.getD_some, if_pos atKey]
    · rw [if_neg same]
      cases found : table.find sought with
      | none => rfl
      | some old =>
        have atKey := (find_eq_some_iff.mp found).2
        rw [Option.map_some, if_neg (fun equal => same (atKey.symm.trans equal))]

end Table

end Keyed
