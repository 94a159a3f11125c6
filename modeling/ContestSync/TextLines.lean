/-
Lines that end with a pair of symbols. A text is split at the pair; the lines of a
text that was put together from lines come back exactly when none of them holds
the pair itself.
-/

import Mathlib.Data.List.Infix

namespace Lines

variable {α : Type} [DecidableEq α]

/-- What stands after the last pair is a line as well, possibly an empty one. -/
def split (carriage feed : α) : List α → List (List α)
  | [] => [[]]
  | [symbol] => [[symbol]]
  | symbol :: next :: rest =>
    if symbol = carriage ∧ next = feed then
      [] :: split carriage feed rest
    else
      (split carriage feed (next :: rest)).modifyHead (symbol :: ·)

def terminated (carriage feed : α) (lines : List (List α)) : List α :=
  lines.flatMap (fun line => line ++ [carriage, feed])

def Unbroken (carriage feed : α) (line : List α) : Prop :=
  ¬[carriage, feed] <:+: line

instance (carriage feed : α) (line : List α) : Decidable (Unbroken carriage feed line) :=
  inferInstanceAs (Decidable (¬_))

variable {carriage feed : α}

theorem split_ne_nil (text : List α) : split carriage feed text ≠ [] := by
  induction text using split.induct carriage feed with
  | case1 => simp [split]
  | case2 symbol => simp [split]
  | case3 symbol next rest ends ih => simp [split, if_pos ends]
  | case4 symbol next rest continues ih =>
    rw [split, if_neg continues]
    simpa using ih

theorem one_le_length_split (carriage feed : α) (text : List α) :
    1 ≤ (split carriage feed text).length :=
  List.length_pos_iff.mpr (split_ne_nil text)

theorem modifyHead_append {β : Type} (update : β → β) {left : List β} (right : List β)
    (nonempty : left ≠ []) :
    (left ++ right).modifyHead update = left.modifyHead update ++ right := by
  cases left with
  | nil => contradiction
  | cons first rest => rfl

/-- A pair ends a line wherever it stands: it cannot overlap another one. -/
theorem split_pair (different : carriage ≠ feed) (text rest : List α) :
    split carriage feed (text ++ carriage :: feed :: rest) =
      split carriage feed text ++ split carriage feed rest := by
  induction text using split.induct carriage feed with
  | case1 => simp [split]
  | case2 symbol =>
    have continues : ¬(symbol = carriage ∧ carriage = feed) := fun pair => different pair.2
    simp [split, if_neg continues]
  | case3 symbol next tail ends ih =>
    simp only [List.cons_append, split, if_pos ends, ih]
  | case4 symbol next tail continues ih =>
    simp only [List.cons_append, split, if_neg continues] at ih ⊢
    rw [ih, modifyHead_append _ _ (split_ne_nil _)]

variable {line : List α} {lines : List (List α)}

theorem split_unbroken (unbroken : Unbroken carriage feed line) :
    split carriage feed line = [line] := by
  induction line using split.induct carriage feed with
  | case1 => rfl
  | case2 symbol => rfl
  | case3 symbol next rest ends ih =>
    obtain ⟨rfl, rfl⟩ := ends
    exact absurd ⟨[], rest, rfl⟩ unbroken
  | case4 symbol next rest continues ih =>
    have tail : Unbroken carriage feed (next :: rest) :=
      fun inside => unbroken (inside.trans (List.suffix_cons _ _).isInfix)
    rw [split, if_neg continues, ih tail]
    rfl

theorem split_length_eq_one_iff (different : carriage ≠ feed) :
    (split carriage feed line).length = 1 ↔ Unbroken carriage feed line := by
  constructor
  · rintro single ⟨before, after, rfl⟩
    rw [List.append_assoc, List.cons_append, List.cons_append, List.nil_append,
      split_pair different, List.length_append] at single
    have := one_le_length_split carriage feed before
    have := one_le_length_split carriage feed after
    omega
  · intro unbroken
    rw [split_unbroken unbroken]
    rfl

theorem split_terminated (different : carriage ≠ feed) (lines : List (List α)) :
    split carriage feed (terminated carriage feed lines) =
      lines.flatMap (split carriage feed) ++ [[]] := by
  induction lines with
  | nil => rfl
  | cons line rest ih =>
    rw [terminated, List.flatMap_cons, List.append_assoc, List.cons_append, List.cons_append,
      List.nil_append, split_pair different]
    rw [terminated] at ih
    rw [ih, List.flatMap_cons, List.append_assoc]

theorem flatMap_split_unbroken (unbroken : ∀ line ∈ lines, Unbroken carriage feed line) :
    lines.flatMap (split carriage feed) = lines := by
  induction lines with
  | nil => rfl
  | cons line rest ih =>
    rw [List.flatMap_cons, split_unbroken (unbroken line List.mem_cons_self),
      ih (fun other member => unbroken other (List.mem_cons_of_mem _ member))]
    rfl

theorem length_le_flatMap_split (carriage feed : α) (lines : List (List α)) :
    lines.length ≤ (lines.flatMap (split carriage feed)).length := by
  induction lines with
  | nil => exact Nat.le_refl 0
  | cons line rest ih =>
    rw [List.flatMap_cons, List.length_append, List.length_cons]
    have := one_le_length_split carriage feed line
    omega

theorem unbroken_of_length (different : carriage ≠ feed)
    (length : (lines.flatMap (split carriage feed)).length = lines.length) :
    ∀ line ∈ lines, Unbroken carriage feed line := by
  induction lines with
  | nil => exact nofun
  | cons line rest ih =>
    rw [List.flatMap_cons, List.length_append, List.length_cons] at length
    have here := one_le_length_split carriage feed line
    have later := length_le_flatMap_split carriage feed rest
    intro other member
    rcases List.mem_cons.mp member with rfl | member
    · exact (split_length_eq_one_iff different).mp (by omega)
    · exact ih (by omega) other member

omit [DecidableEq α] in
theorem unbroken_of_notMem (absent : carriage ∉ line) :
    Unbroken carriage feed line :=
  fun inside => absent (inside.subset List.mem_cons_self)

omit [DecidableEq α] in
/-- A pair in two texts lies in one of them, unless it arises where they meet. -/
theorem unbroken_append_iff {left right : List α}
    (apart : left.getLast? ≠ some carriage ∨ right.head? ≠ some feed) :
    Unbroken carriage feed (left ++ right) ↔
      Unbroken carriage feed left ∧ Unbroken carriage feed right := by
  constructor
  · intro unbroken
    exact ⟨fun inside => unbroken (inside.trans (List.prefix_append _ _).isInfix),
      fun inside => unbroken (inside.trans (List.suffix_append _ _).isInfix)⟩
  · rintro ⟨unbrokenLeft, unbrokenRight⟩ inside
    rcases List.infix_append_iff.mp inside with
      inside | inside | ⟨before, after, pair, ends, starts⟩
    · exact unbrokenLeft inside
    · exact unbrokenRight inside
    · match before, pair with
      | [], pair =>
        rw [List.nil_append] at pair
        rw [← pair] at starts
        exact unbrokenRight starts.isInfix
      | [symbol], pair =>
        obtain ⟨rfl, rfl⟩ := List.cons.inj pair
        obtain ⟨initial, rfl⟩ := ends
        obtain ⟨rest, rfl⟩ := starts
        simp at apart
      | [_, _], pair =>
        simp only [List.cons_append, List.nil_append, List.cons.injEq] at pair
        obtain ⟨rfl, rfl, _⟩ := pair
        exact unbrokenLeft ends.isInfix
      | _ :: _ :: _ :: _, pair => simp at pair

end Lines
