/-
Counters that expire. Every hit adds one and puts the end of the counter off, so that
the count goes back to the last pause in which the counter has expired, however long
ago that was.
-/

import Mathlib.Order.Basic
import Mathlib.Data.List.Basic

namespace ExpiringCounter

structure Counter where
  count : Nat
  expiry : Int
deriving DecidableEq

/-- A hit puts the end of the counter at `duration` from its own time. -/
structure Hit where
  time : Int
  duration : Int
deriving DecidableEq

def value (now : Int) : Option Counter → Nat
  | none => 0
  | some counter => if now < counter.expiry then counter.count else 0

def increment (counter : Option Counter) (hit : Hit) : Counter :=
  ⟨value hit.time counter + 1, hit.time + hit.duration⟩

def counterAfter : List Hit → Option Counter
  | [] => none
  | last :: earlier => some (increment (counterAfter earlier) last)

/-- The hits up to the last one before which the counter had expired. -/
def stretch : List Hit → List Hit
  | [] => []
  | [only] => [only]
  | last :: before :: earlier =>
    if last.time < before.time + before.duration then last :: stretch (before :: earlier)
    else [last]

def Ordered (hits : List Hit) : Prop :=
  hits.Pairwise (fun last earlier => earlier.time ≤ last.time)

section Stretch

variable {last before hit : Hit} {earlier hits : List Hit}

theorem stretch_initial (hits : List Hit) : stretch hits <+: hits := by
  induction hits with
  | nil => exact List.prefix_rfl
  | cons last earlier ih =>
    cases earlier with
    | nil => exact List.prefix_rfl
    | cons before earlier =>
      rw [stretch]
      split
      · exact (List.prefix_cons_inj last).mpr ih
      · exact ⟨before :: earlier, rfl⟩

theorem counterAfter_count (last : Hit) (earlier : List Hit) :
    (increment (counterAfter earlier) last).count = (stretch (last :: earlier)).length := by
  induction earlier generalizing last with
  | nil => rfl
  | cons before earlier ih =>
    have counted := ih before
    simp only [counterAfter, stretch, increment, value] at counted ⊢
    split
    · rw [List.length_cons, ← counted]
    · rfl

theorem since_le_stretch {start duration : Int} (ordered : Ordered (last :: earlier))
    (uniform : ∀ hit ∈ last :: earlier, hit.duration = duration)
    (recent : last.time < start + duration) (inside : start ≤ last.time) :
    (last :: earlier).countP (fun hit => start ≤ hit.time) ≤
      (stretch (last :: earlier)).length := by
  induction earlier generalizing last with
  | nil => simp [stretch, inside]
  | cons before earlier ih =>
    obtain ⟨past, ordered⟩ := List.pairwise_cons.mp ordered
    have late := past before List.mem_cons_self
    have lasts := uniform before (List.mem_cons_of_mem _ List.mem_cons_self)
    by_cases reached : start ≤ before.time
    · have counted := ih ordered (fun hit member => uniform hit (List.mem_cons_of_mem _ member))
        (by omega) reached
      rw [stretch, if_pos (by omega), List.countP_cons_of_pos (by simpa using inside),
        List.length_cons]
      omega
    · -- No hit before this one is inside.
      have none : (before :: earlier).countP (fun hit => start ≤ hit.time) = 0 := by
        rw [List.countP_eq_zero]
        intro hit member
        have older : hit.time ≤ before.time := by
          rcases List.mem_cons.mp member with same | member
          · exact Int.le_of_eq (congrArg Hit.time same)
          · exact List.rel_of_pairwise_cons ordered member
        simp only [decide_eq_true_eq]
        omega
      rw [List.countP_cons_of_pos (by simpa using inside), none]
      rw [stretch]
      split <;> simp

end Stretch

/-! ### A limit on the count -/

def passes (max : Int) (last : Hit) (earlier : List Hit) : Bool :=
  ((increment (counterAfter earlier) last).count : Int) ≤ max

def passing (max : Int) : List Hit → List Hit
  | [] => []
  | last :: earlier =>
    if passes max last earlier then last :: passing max earlier else passing max earlier

theorem passing_sublist (max : Int) (hits : List Hit) : (passing max hits).Sublist hits := by
  induction hits with
  | nil => exact List.Sublist.slnil
  | cons last earlier ih =>
    rw [passing]
    split
    · exact ih.cons_cons last
    · exact ih.cons last

theorem passing_in_window {max duration start : Int} {hits : List Hit} (ordered : Ordered hits)
    (uniform : ∀ hit ∈ hits, hit.duration = duration) :
    (passing max hits).countP (fun hit => start ≤ hit.time ∧ hit.time < start + duration) ≤
      max.toNat := by
  induction hits with
  | nil => exact Nat.zero_le _
  | cons last earlier ih =>
    have rest := ih ordered.of_cons (fun hit member => uniform hit (List.mem_cons_of_mem _ member))
    rw [passing]
    split
    · rename_i through
      by_cases inside : start ≤ last.time ∧ last.time < start + duration
      · have counted := since_le_stretch ordered uniform inside.2 inside.1
        rw [← counterAfter_count] at counted
        have selected : (last :: passing max earlier).countP
            (fun hit => start ≤ hit.time ∧ hit.time < start + duration) ≤
              (last :: earlier).countP (fun hit => start ≤ hit.time) :=
          calc _ ≤ (last :: earlier).countP
                  (fun hit => start ≤ hit.time ∧ hit.time < start + duration) :=
                ((passing_sublist max earlier).cons_cons last).countP_le
            _ ≤ _ := List.countP_mono_left (fun hit _ both => by
                rw [decide_eq_true_eq] at both ⊢
                exact both.1)
        simp only [passes, decide_eq_true_eq] at through
        omega
      · rw [List.countP_cons_of_neg (by simpa using inside)]
        exact rest
    · exact rest

end ExpiringCounter
