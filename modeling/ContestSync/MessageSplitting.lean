/-
How a long text is cut for Telegram. A chunk ends before the last line break among the
bytes that fit, after the line break when that is the first byte, or where the limit
is when no line break is among them.
-/

import ContestSync.Scanning
import Mathlib.Data.List.Basic

namespace ContestSync.Telegram

open Scan (lastIndex lastIndex_some lastIndex_none lastIndex_append)

abbrev Bytes := List UInt8

def newline : UInt8 :=
  10

def cutIndex (text : Bytes) (limit : Nat) : Nat :=
  match lastIndex newline (text.take limit) with
  | some 0 => 1
  | some index => index
  | none => limit

/-- The loop of `SplitMessage`; `none` when it has not ended after that many rounds. -/
def splitLoop (limit : Nat) : (fuel : Nat) → (text : Bytes) → Option (List Bytes)
  | 0, _ => none
  | fuel + 1, text =>
    if limit < text.length then
      let idx := cutIndex text limit
      (splitLoop limit fuel (text.drop idx)).map (text.take idx :: ·)
    else some [text]

section Cut

variable {text : Bytes} {limit : Nat}

theorem cutIndex_cases (long : limit < text.length) :
    (∃ before after, text = before ++ newline :: after ∧ before.length = cutIndex text limit ∧
      0 < before.length ∧ before.length < limit) ∨
    (∃ after, text = newline :: after ∧ cutIndex text limit = 1 ∧ 1 ≤ limit) ∨
    cutIndex text limit = limit := by
  unfold cutIndex
  cases found : lastIndex newline (text.take limit) with
  | none => exact .inr (.inr rfl)
  | some index =>
    obtain ⟨before, after, window, length⟩ := lastIndex_some found
    have whole : text = before ++ newline :: (after ++ text.drop limit) := by
      have parts := List.take_append_drop limit text
      rw [window, List.append_assoc] at parts
      exact parts.symm
    have inside : before.length < limit := by
      have size := congrArg List.length window
      simp only [List.length_take, List.length_append, List.length_cons] at size
      omega
    cases index with
    | zero =>
      rw [List.length_eq_zero_iff] at length
      rw [length] at whole inside
      exact .inr (.inl ⟨after ++ text.drop limit, whole, rfl, inside⟩)
    | succ index =>
      exact .inl ⟨before, after ++ text.drop limit, whole, length, by omega, inside⟩

theorem cutIndex_pos (positive : 1 ≤ limit) (long : limit < text.length) :
    1 ≤ cutIndex text limit := by
  rcases cutIndex_cases long with ⟨before, _, _, length, more, _⟩ | ⟨_, _, one, _⟩ | atLimit
  · omega
  · omega
  · omega

theorem cutIndex_le (long : limit < text.length) : cutIndex text limit ≤ limit := by
  rcases cutIndex_cases long with ⟨before, _, _, length, _, less⟩ | ⟨_, _, one, _⟩ | atLimit
  · omega
  · omega
  · omega

theorem cutIndex_newline {before after : Bytes} (parts : text = before ++ newline :: after)
    (inside : before.length < limit) (absent : newline ∉ after.take (limit - before.length - 1)) :
    cutIndex text limit = if before.length = 0 then 1 else before.length := by
  have window : text.take limit = before ++ newline :: after.take (limit - before.length - 1) := by
    rw [parts, List.take_append, List.take_of_length_le (Nat.le_of_lt inside)]
    have more : limit - before.length = limit - before.length - 1 + 1 := by omega
    rw [more, List.take_succ_cons, ← more]
  rw [cutIndex, window, lastIndex_append before absent]
  cases before.length with
  | zero => rfl
  | succ length => rfl

theorem cutIndex_limit (absent : newline ∉ text.take limit) : cutIndex text limit = limit := by
  rw [cutIndex, lastIndex_none absent]

end Cut

/-! ### The chunks -/

section Chunks

variable {text : Bytes} {limit fuel : Nat} {chunks : List Bytes}

theorem splitLoop_long (long : limit < text.length) :
    splitLoop limit (fuel + 1) text = (splitLoop limit fuel (text.drop (cutIndex text limit))).map
        (text.take (cutIndex text limit) :: ·) :=
  if_pos long

theorem splitLoop_short (short : ¬limit < text.length) :
    splitLoop limit (fuel + 1) text = some [text] :=
  if_neg short

/-- Every round takes a byte away, so that a loop with a round for each byte and one
more has ended. -/
theorem splitLoop_ends (positive : 1 ≤ limit) (text : Bytes) :
    ∃ chunks, ∀ fuel, text.length < fuel → splitLoop limit fuel text = some chunks := by
  induction size : text.length using Nat.strongRecOn generalizing text with
  | _ length ih =>
    subst size
    by_cases long : limit < text.length
    · have more := cutIndex_pos positive long
      have shorter : (text.drop (cutIndex text limit)).length < text.length := by
        rw [List.length_drop]
        omega
      obtain ⟨chunks, rest⟩ := ih _ shorter (text.drop (cutIndex text limit)) rfl
      refine ⟨text.take (cutIndex text limit) :: chunks, ?_⟩
      intro fuel enough
      cases fuel with
      | zero => omega
      | succ fuel =>
        rw [splitLoop_long long, rest fuel (by omega)]
        rfl
    · refine ⟨[text], ?_⟩
      intro fuel enough
      cases fuel with
      | zero => omega
      | succ fuel => exact splitLoop_short long

/-- What holds of a text that fits and is kept by a cut holds of every text and its
chunks. -/
theorem splitLoop_induction {motive : Bytes → List Bytes → Prop}
    (short : ∀ text, text.length ≤ limit → motive text [text])
    (cut : ∀ text fuel rest, limit < text.length →
      splitLoop limit fuel (text.drop (cutIndex text limit)) = some rest →
      motive (text.drop (cutIndex text limit)) rest →
      motive text (text.take (cutIndex text limit) :: rest))
    (split : splitLoop limit fuel text = some chunks) : motive text chunks := by
  induction fuel generalizing text chunks with
  | zero => cases split
  | succ fuel ih =>
    by_cases long : limit < text.length
    · rw [splitLoop_long long, Option.map_eq_some_iff] at split
      obtain ⟨rest, found, made⟩ := split
      rw [← made]
      exact cut text fuel rest long found (ih found)
    · rw [splitLoop_short long] at split
      cases split
      exact short text (Nat.le_of_not_lt long)

theorem flatten_splitLoop (split : splitLoop limit fuel text = some chunks) :
    chunks.flatten = text := by
  apply splitLoop_induction (motive := fun text chunks => chunks.flatten = text) _ _ split
  · intro text _
    simp
  · intro text _ rest _ _ ih
    rw [List.flatten_cons, ih, List.take_append_drop]

theorem length_le_of_splitLoop (split : splitLoop limit fuel text = some chunks) :
    ∀ chunk ∈ chunks, chunk.length ≤ limit := by
  apply splitLoop_induction
    (motive := fun _ chunks => ∀ chunk ∈ chunks, chunk.length ≤ limit) _ _ split
  · intro text fits
    simpa using fits
  · intro text _ rest long _ ih
    rw [List.forall_mem_cons]
    constructor
    · rw [List.length_take]
      exact Nat.le_trans (Nat.min_le_left _ _) (cutIndex_le long)
    · exact ih

theorem ne_nil_of_splitLoop (positive : 1 ≤ limit)
    (split : splitLoop limit fuel text = some chunks) :
    text ≠ [] → ∀ chunk ∈ chunks, chunk ≠ [] := by
  apply splitLoop_induction
    (motive := fun text chunks => text ≠ [] → ∀ chunk ∈ chunks, chunk ≠ []) _ _ split
  · intro text _
    simp
  · intro text _ rest long _ ih _
    have more := cutIndex_pos positive long
    have within := cutIndex_le long
    rw [List.forall_mem_cons]
    constructor
    · intro empty
      have size := congrArg List.length empty
      rw [List.length_take, List.length_nil] at size
      omega
    · apply ih
      intro empty
      have size := congrArg List.length empty
      rw [List.length_drop, List.length_nil] at size
      omega

/-- A chunk that is not the last one ends before a line break, is a line break, or is as
long as the limit. -/
theorem chunk_ends (split : splitLoop limit fuel text = some chunks) :
    ∀ before chunk rest, chunks = before ++ chunk :: rest → rest ≠ [] →
      (∃ after, rest.flatten = newline :: after) ∨ chunk = [newline] ∨ chunk.length = limit := by
  apply splitLoop_induction (motive := fun _ chunks => ∀ before chunk rest,
    chunks = before ++ chunk :: rest → rest ≠ [] →
      (∃ after, rest.flatten = newline :: after) ∨ chunk = [newline] ∨
        chunk.length = limit) _ _ split
  · intro text _ before chunk rest position more
    have size := congrArg List.length position
    have nonempty := List.length_pos_iff.mpr more
    simp only [List.length_append, List.length_cons, List.length_nil] at size
    omega
  · intro text fuel chunks long found ends before chunk rest position more
    cases before with
    | cons first before =>
      rw [List.cons_append, List.cons.injEq] at position
      exact ends before chunk rest position.2 more
    | nil =>
      rw [List.nil_append, List.cons.injEq] at position
      obtain ⟨head, tail⟩ := position
      rw [← head, ← tail, flatten_splitLoop found]
      rcases cutIndex_cases long with ⟨left, right, parts, length, _⟩ |
        ⟨right, parts, one, _⟩ | atLimit
      · left
        refine ⟨right, ?_⟩
        rw [← length, parts, List.drop_left]
      · right
        left
        rw [one, parts]
        rfl
      · right
        right
        rw [atLimit, List.length_take]
        omega

end Chunks

theorem splitMessage_chunks {limit : Nat} (positive : 1 ≤ limit) (text : Bytes) :
    ∃ chunks, (∀ fuel, text.length < fuel → splitLoop limit fuel text = some chunks) ∧
      chunks.flatten = text ∧
      (∀ chunk ∈ chunks, chunk.length ≤ limit) ∧
      (text ≠ [] → ∀ chunk ∈ chunks, chunk ≠ []) := by
  obtain ⟨chunks, ends⟩ := splitLoop_ends positive text
  have split := ends (text.length + 1) (Nat.lt_succ_self _)
  exact ⟨chunks, ends, flatten_splitLoop split, length_le_of_splitLoop split,
    ne_nil_of_splitLoop positive split⟩

/-- A text that starts with line breaks and holds a line of the length of the limit. -/
theorem lines_splitMessage_chunks :
    ∃ chunks, (∀ fuel, 9 < fuel →
        splitLoop 3 fuel [10, 10, 97, 98, 99, 100, 10, 101, 10] = some chunks) ∧
      chunks.flatten = [10, 10, 97, 98, 99, 100, 10, 101, 10] ∧
      (∀ chunk ∈ chunks, chunk.length ≤ 3) ∧
      (([10, 10, 97, 98, 99, 100, 10, 101, 10] : Bytes) ≠ [] → ∀ chunk ∈ chunks, chunk ≠ []) :=
  splitMessage_chunks (by decide) [10, 10, 97, 98, 99, 100, 10, 101, 10]

end ContestSync.Telegram
