/-
Pages by limit and offset over a list that changes between them. An item is on a page
when the number of items before it is. Between two pages the item may be carried over the
end of the pages that were already read, forward by items that come to stand before it, and
back by items that disappear there; how often it is read depends on these crossings alone.
-/

import Mathlib.Order.Lattice
import Mathlib.Data.List.Basic
import Mathlib.Data.List.Nodup

namespace OffsetPaging

variable {α : Type} [LinearOrder α]

/-- How many items stand before this one. -/
def rank (item : α) (items : List α) : Nat :=
  items.countP (fun other => other < item)

def page (limit index : Nat) (items : List α) : List α :=
  (items.drop (limit * index)).take limit

/-- The items of consecutive pages, each page taken from the list as it was then. -/
def visited (limit : Nat) : (index : Nat) → (snapshots : List (List α)) → List α
  | _, [] => []
  | index, items :: later => page limit index items ++ visited limit (index + 1) later

def Ascending (items : List α) : Prop :=
  items.Pairwise (· < ·)

def Full (limit : Nat) : (index : Nat) → (snapshots : List (List α)) → Prop
  | _, [] => True
  | index, items :: later => (page limit index items).length = limit ∧ Full limit (index + 1) later

def Complete (limit : Nat) : (index : Nat) → (snapshots : List (List α)) → Prop
  | _, [] => False
  | index, [last] => (page limit index last).length < limit
  | index, items :: next :: later =>
    (page limit index items).length = limit ∧ Complete limit (index + 1) (next :: later)

def Beyond (limit pages : Nat) (item : α) (items : List α) : Prop :=
  limit * pages ≤ rank item items

instance (limit pages : Nat) (item : α) (items : List α) :
    Decidable (Beyond limit pages item items) :=
  inferInstanceAs (Decidable (_ ≤ _))

/-- How often the item is carried from behind the end of the pages read to beyond it. -/
def forwards (limit : Nat) (item : α) : (index : Nat) → (snapshots : List (List α)) → Nat
  | index, items :: next :: later =>
    (if ¬Beyond limit (index + 1) item items ∧ Beyond limit (index + 1) item next then 1 else 0) +
      forwards limit item (index + 1) (next :: later)
  | _, _ => 0

/-- How often it is carried the other way. -/
def backwards (limit : Nat) (item : α) : (index : Nat) → (snapshots : List (List α)) → Nat
  | index, items :: next :: later =>
    (if Beyond limit (index + 1) item items ∧ ¬Beyond limit (index + 1) item next then 1 else 0) +
      backwards limit item (index + 1) (next :: later)
  | _, _ => 0

section Pages

variable {limit index : Nat} {item : α} {items : List α} {snapshots : List (List α)}

theorem Ascending.nodup (ascending : Ascending items) : items.Nodup :=
  ascending.imp (fun less => ne_of_lt less)

theorem split_at_rank (ascending : Ascending items) (member : item ∈ items) :
    ∃ before after, items = before ++ item :: after ∧ before.length = rank item items := by
  obtain ⟨before, after, parts⟩ := List.append_of_mem member
  refine ⟨before, after, parts, ?_⟩
  rw [parts, Ascending, List.pairwise_append, List.pairwise_cons] at ascending
  obtain ⟨_, ⟨above, _⟩, across⟩ := ascending
  have below : before.countP (fun other => other < item) = before.length :=
    List.countP_eq_length.mpr
      (fun other present => decide_eq_true (across other present item List.mem_cons_self))
  have rest : (item :: after).countP (fun other => other < item) = 0 := by
    rw [List.countP_eq_zero]
    intro other present
    rcases List.mem_cons.mp present with same | present
    · simp [same]
    · simpa using le_of_lt (above other present)
  rw [rank, parts, List.countP_append, below, rest, Nat.add_zero]

theorem mem_page_iff (ascending : Ascending items) (member : item ∈ items) :
    item ∈ page limit index items ↔
      limit * index ≤ rank item items ∧ rank item items < limit * (index + 1) := by
  obtain ⟨before, after, parts, length⟩ := split_at_rank ascending member
  have nodup := ascending.nodup
  rw [parts, List.nodup_append] at nodup
  have notBefore : item ∉ before :=
    fun present => nodup.2.2 item present item List.mem_cons_self rfl
  have notAfter : item ∉ after := (List.nodup_cons.mp nodup.2.1).1
  rw [page, ← length, Nat.mul_succ, parts]
  by_cases reached : limit * index ≤ before.length
  · rw [List.drop_append_of_le_length reached]
    by_cases inside : (before.drop (limit * index)).length < limit
    · have present : item ∈ (before.drop (limit * index) ++ item :: after).take limit := by
        rw [List.take_append]
        have more : limit - (before.drop (limit * index)).length =
            limit - (before.drop (limit * index)).length - 1 + 1 := by omega
        rw [more, List.take_succ_cons]
        exact List.mem_append_right _ List.mem_cons_self
      rw [List.length_drop] at inside
      exact ⟨fun _ => ⟨reached, by omega⟩, fun _ => present⟩
    · rw [List.take_append_of_le_length (Nat.le_of_not_lt inside)]
      rw [List.length_drop] at inside
      constructor
      · intro present
        exact absurd (List.mem_of_mem_drop (List.mem_of_mem_take present)) notBefore
      · intro bounds
        omega
  · constructor
    · intro present
      have dropped := List.mem_of_mem_take present
      rw [List.drop_append, List.drop_of_length_le (by omega), List.nil_append] at dropped
      have more : limit * index - before.length = limit * index - before.length - 1 + 1 := by
        omega
      rw [more, List.drop_succ_cons] at dropped
      exact absurd (List.mem_of_mem_drop dropped) notAfter
    · intro bounds
      omega

theorem count_page (ascending : Ascending items) (member : item ∈ items) :
    (page limit index items).count item =
      if limit * index ≤ rank item items ∧ rank item items < limit * (index + 1) then 1 else 0 := by
  have sublist : (page limit index items).Sublist items :=
    (List.take_sublist _ _).trans (List.drop_sublist _ _)
  rw [(sublist.nodup ascending.nodup).count]
  simp only [mem_page_iff ascending member]

theorem rank_lt_length (ascending : Ascending items) (member : item ∈ items) :
    rank item items < items.length := by
  obtain ⟨before, after, parts, length⟩ := split_at_rank ascending member
  rw [← length, parts, List.length_append, List.length_cons]
  omega

theorem rank_lt_of_short (ascending : Ascending items) (member : item ∈ items)
    (short : (page limit index items).length < limit) :
    rank item items < limit * (index + 1) := by
  have bound := rank_lt_length ascending member
  rw [page, List.length_take, List.length_drop] at short
  rw [Nat.mul_succ]
  omega

theorem count_page_beyond (ascending : Ascending items) (member : item ∈ items) :
    (page limit index items).count item + (if Beyond limit (index + 1) item items then 1 else 0) =
      if Beyond limit index item items then 1 else 0 := by
  have further : limit * index ≤ limit * (index + 1) := Nat.mul_le_mul_left _ (Nat.le_succ _)
  rw [count_page ascending member]
  by_cases start : Beyond limit index item items
  · by_cases beyond : Beyond limit (index + 1) item items
    · rw [if_pos start, if_pos beyond, if_neg (fun bounds => Nat.not_le_of_lt bounds.2 beyond)]
    · rw [if_pos start, if_neg beyond, if_pos ⟨start, Nat.lt_of_not_le beyond⟩]
  · have behind : ¬Beyond limit (index + 1) item items :=
      fun beyond => start (further.trans beyond)
    rw [if_neg start, if_neg behind, if_neg (fun bounds => start bounds.1)]

/-- An item that is on the list throughout and ahead of the pages is read once, once more for
each time that it is carried forward, and once less for each time that it is carried back. -/
theorem count_visited {later : List (List α)}
    (ascending : ∀ snapshot ∈ items :: later, Ascending snapshot)
    (present : ∀ snapshot ∈ items :: later, item ∈ snapshot)
    (complete : Complete limit index (items :: later)) :
    (visited limit index (items :: later)).count item +
        backwards limit item index (items :: later) =
      forwards limit item index (items :: later) +
        if Beyond limit index item items then 1 else 0 := by
  have own := ascending items List.mem_cons_self
  have member := present items List.mem_cons_self
  have here := @count_page_beyond _ _ limit index item items own member
  rw [visited, List.count_append]
  induction later generalizing index items with
  | nil =>
    have last : ¬Beyond limit (index + 1) item items :=
      Nat.not_le_of_lt (rank_lt_of_short own member complete)
    rw [if_neg last] at here
    rw [visited, backwards, forwards, List.count_nil]
    · omega
    · nofun
    · nofun
  | cons next later ih =>
    have laterOwn := ascending next (List.mem_cons_of_mem _ List.mem_cons_self)
    have laterMember := present next (List.mem_cons_of_mem _ List.mem_cons_self)
    have rest := ih (fun _ inside => ascending _ (List.mem_cons_of_mem _ inside))
      (fun _ inside => present _ (List.mem_cons_of_mem _ inside)) complete.2 laterOwn laterMember
      (count_page_beyond laterOwn laterMember)
    rw [visited, List.count_append, backwards, forwards]
    by_cases before : Beyond limit (index + 1) item items
    · by_cases after : Beyond limit (index + 1) item next
      · rw [if_pos before] at here
        rw [if_pos after] at rest
        rw [if_neg (fun both => both.2 after), if_neg (fun both => both.1 before)]
        omega
      · rw [if_pos before] at here
        rw [if_neg after] at rest
        rw [if_pos ⟨before, after⟩, if_neg (fun both => both.1 before)]
        omega
    · by_cases after : Beyond limit (index + 1) item next
      · rw [if_neg before] at here
        rw [if_pos after] at rest
        rw [if_neg (fun both => before both.1), if_pos ⟨before, after⟩]
        omega
      · rw [if_neg before] at here
        rw [if_neg after] at rest
        rw [if_neg (fun both => before both.1), if_neg (fun both => after both.2)]
        omega

omit [LinearOrder α] in
theorem visited_append (earlier later : List (List α)) :
    visited limit index (earlier ++ later) =
      visited limit index earlier ++ visited limit (index + earlier.length) later := by
  induction earlier generalizing index with
  | nil => rfl
  | cons items earlier ih =>
    rw [List.cons_append, visited, visited, ih, List.append_assoc, List.length_cons,
      Nat.add_assoc, Nat.add_comm 1]

omit [LinearOrder α] in
theorem full_concat {earlier : List (List α)} (full : Full limit index earlier)
    (last : (page limit (index + earlier.length) items).length = limit) :
    Full limit index (earlier ++ [items]) := by
  induction earlier generalizing index with
  | nil => exact ⟨last, trivial⟩
  | cons first earlier ih =>
    refine ⟨full.1, ih full.2 ?_⟩
    rw [Nat.add_right_comm]
    exact last

omit [LinearOrder α] in
theorem complete_concat {earlier : List (List α)} (full : Full limit index earlier)
    (last : (page limit (index + earlier.length) items).length < limit) :
    Complete limit index (earlier ++ [items]) := by
  induction earlier generalizing index with
  | nil => exact last
  | cons first earlier ih =>
    have rest : Complete limit (index + 1) (earlier ++ [items]) := by
      apply ih full.2
      rw [Nat.add_right_comm]
      exact last
    cases earlier with
    | nil => exact ⟨full.1, rest⟩
    | cons next earlier => exact ⟨full.1, rest⟩

end Pages

end OffsetPaging
