/-
How `SavePreferences` finds out whether the preferences have changed: it compares the lengths
of the two lists of platforms and the flag, and then counts one list up and the other down in a
map. Go visits the entries of a map in an order of its own, and the loop stops at the first
count that is not zero.
-/

import ContestSync.PreferenceDurability
import ContestSync.Tally

namespace ContestSync

variable {Platform : Type} [DecidableEq Platform]

/-- The test of `SavePreferences`, for an order in which the map is visited. -/
def changeDetected (order : Tally.Order (Platform × Int)) (requested current : List Platform)
    (useDedicated currentUseDedicated : Bool) : Bool :=
  if requested.length ≠ current.length ∨ useDedicated ≠ currentUseDedicated then true
  else
    let counts := current.foldl (Tally.add 1) Keyed.Table.empty
    let counts := requested.foldl (Tally.add (-1)) counts
    Tally.unbalanced (order.visit counts.rows)

theorem changeDetected_of_equal {order : Tally.Order (Platform × Int)}
    {requested current : List Platform} {useDedicated : Bool}
    (lengths : requested.length = current.length) :
    changeDetected order requested current useDedicated useDedicated =
      Tally.unbalanced (order.visit (Tally.difference current requested).rows) := by
  unfold changeDetected
  rw [if_neg]
  · rfl
  · rintro (different | different)
    · exact different lengths
    · exact different rfl

/-- No change is found exactly when the flags are equal and the lists are permutations of each
other, in whatever order the map is visited. -/
theorem unchanged_iff_perm (order : Tally.Order (Platform × Int))
    (requested current : List Platform) (useDedicated currentUseDedicated : Bool) :
    changeDetected order requested current useDedicated currentUseDedicated = false ↔
      useDedicated = currentUseDedicated ∧ requested.Perm current := by
  constructor
  · intro unchanged
    by_cases differs : requested.length ≠ current.length ∨ useDedicated ≠ currentUseDedicated
    · rw [changeDetected, if_pos differs] at unchanged
      cases unchanged
    · rw [not_or, not_not, not_not] at differs
      obtain ⟨lengths, rfl⟩ := differs
      rw [changeDetected_of_equal lengths, Tally.unbalanced_difference_eq_false] at unchanged
      exact ⟨rfl, unchanged.symm⟩
  · rintro ⟨rfl, permuted⟩
    rw [changeDetected_of_equal permuted.length_eq, Tally.unbalanced_difference_eq_false]
    exact permuted.symm

/-- The comparison by the numbers of occurrences is this test, for every order. -/
theorem preferencesChanged_eq_changeDetected (order : Tally.Order (String × Int))
    (requested : Option (List String)) (useDedicated : Bool) (user : CachedUser) :
    Handlers.preferencesChanged requested useDedicated user =
      changeDetected order (requested.getD []) (user.platforms.getD []) useDedicated
        user.useDedicated := by
  unfold Handlers.preferencesChanged changeDetected
  simp only
  split
  · rfl
  · apply Bool.eq_iff_iff.mpr
    rw [List.any_eq_true]
    refine Iff.trans ?_ (Tally.unbalanced_difference_iff order _ _).symm
    simp only [decide_eq_true_eq]
    constructor
    · rintro ⟨platform, _, different⟩
      exact ⟨platform, different⟩
    · rintro ⟨platform, different⟩
      refine ⟨platform, ?_, different⟩
      by_contra absent
      rw [List.mem_append, not_or] at absent
      rw [List.count_eq_zero.mpr absent.1, List.count_eq_zero.mpr absent.2] at different
      exact different rfl

end ContestSync
