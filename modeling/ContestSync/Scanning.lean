/-
Searching a text for the first occurrence of a pattern, and cutting it there. A pattern
whose first symbol does not come again in it cannot overlap itself, so that it is found
where it was put unless the text before has it. What follows a text never changes where
a pattern is first found in it. A loop that cuts one part after another off a text ends
when every round leaves less of it.
-/

import Mathlib.Data.List.Infix

namespace Scan

variable {α : Type}

/-! ### Parts of a text -/

/-- The part from `start` to `stop`; `none` when they are not positions of the text. -/
def slice (start stop : Nat) (text : List α) : Option (List α) :=
  if start ≤ stop ∧ stop ≤ text.length then some ((text.take stop).drop start) else none

def sliceFrom (start : Nat) (text : List α) : Option (List α) :=
  slice start text.length text

def sliceTo (stop : Nat) (text : List α) : Option (List α) :=
  slice 0 stop text

variable {start stop : Nat}

theorem slice_middle (before middle after : List α)
    (first : start = before.length) (last : stop = before.length + middle.length) :
    slice start stop (before ++ (middle ++ after)) = some middle := by
  subst first last
  rw [slice, if_pos, ← List.append_assoc, ← List.length_append, List.take_left, List.drop_left]
  simp only [List.length_append]
  omega

theorem sliceFrom_append (before after : List α) (first : start = before.length) :
    sliceFrom start (before ++ after) = some after := by
  have whole := slice_middle before after [] first List.length_append
  rw [List.append_nil] at whole
  exact whole

theorem sliceTo_append (before after : List α) (last : stop = before.length) :
    sliceTo stop (before ++ after) = some before := by
  apply slice_middle [] before after rfl
  rw [last, List.length_nil, Nat.zero_add]

variable {text : List α} {mark : α}

theorem slice_eq (ordered : start ≤ stop)
    (inside : stop ≤ text.length) : slice start stop text = some ((text.take stop).drop start) :=
  if_pos ⟨ordered, inside⟩

theorem sliceFrom_eq (inside : start ≤ text.length) :
    sliceFrom start text = some (text.drop start) := by
  rw [sliceFrom, slice_eq inside (Nat.le_refl _), List.take_length]

theorem sliceTo_eq (inside : stop ≤ text.length) :
    sliceTo stop text = some (text.take stop) :=
  slice_eq (Nat.zero_le _) inside

/-! ### Loops that consume a text -/

section Rounds

variable {β : Type}

/-- How a loop goes on after a round. A round gives `none` when it leaves the text, and else
the end of the loop, or a part and what it has left of the text. -/
def proceed {γ : Type} (outcome : Option (Option (β × List α))) (found : γ)
    (next : β → List α → Option γ) : Option γ :=
  match outcome with
  | none => none
  | some none => some found
  | some (some (part, rest)) => next part rest

/-- The parts that a loop cuts off. -/
def rounds (round : List α → Option (Option (β × List α))) :
    (fuel : Nat) → (text : List α) → Option (List β)
  | 0, _ => none
  | fuel + 1, text =>
    proceed (round text) [] (fun part rest => (rounds round fuel rest).map (part :: ·))

/-- No round leaves the text, and each that does not end the loop has less of it left. -/
def Consumes (round : List α → Option (Option (β × List α))) : Prop :=
  ∀ text, round text = some none ∨
    ∃ part rest, round text = some (some (part, rest)) ∧ rest.length < text.length

variable {round : List α → Option (Option (β × List α))} {text : List α}

theorem rounds_of_end (ends : round text = some none) (fuel : Nat) :
    rounds round (fuel + 1) text = some [] := by
  rw [rounds, ends]
  rfl

theorem rounds_of_part {rest : List α} {part : β}
    (cuts : round text = some (some (part, rest))) (fuel : Nat) :
    rounds round (fuel + 1) text = (rounds round fuel rest).map (part :: ·) := by
  rw [rounds, cuts]
  rfl

theorem rounds_bind_foldlM {γ : Type}
    (round : List α → Option (Option (β × List α))) (loop : Nat → List α → γ → Option γ)
    (use : γ → β → Option γ) (exhausted : ∀ text found, loop 0 text found = none)
    (next : ∀ fuel text found, loop (fuel + 1) text found =
      proceed (round text) found (fun part rest => (use found part).bind (loop fuel rest)))
    (fuel : Nat) (text : List α) (found : γ) :
    loop fuel text found = (rounds round fuel text).bind (fun parts => parts.foldlM use found) := by
  induction fuel generalizing text found with
  | zero => exact exhausted text found
  | succ fuel ih =>
    rw [next, rounds]
    match round text with
    | none => rfl
    | some none => rfl
    | some (some (part, rest)) =>
      have later : loop fuel rest = fun found =>
          (rounds round fuel rest).bind (fun parts => parts.foldlM use found) :=
        funext (fun found => ih rest found)
      simp only [proceed, later]
      cases rounds round fuel rest with
      | none => cases use found part <;> rfl
      | some parts => rfl

theorem Consumes.rounds_total (consumes : Consumes round) {fuel other : Nat}
    (enough : text.length < fuel) (alsoEnough : text.length < other) :
    ∃ parts, rounds round fuel text = some parts ∧ rounds round other text = some parts := by
  induction fuel generalizing other text with
  | zero => exact absurd enough (Nat.not_lt_zero _)
  | succ fuel ih =>
    cases other with
    | zero => exact absurd alsoEnough (Nat.not_lt_zero _)
    | succ other =>
      rcases consumes text with ends | ⟨part, rest, cuts, less⟩
      · exact ⟨[], rounds_of_end ends fuel, rounds_of_end ends other⟩
      · have first : rest.length < fuel := by omega
        have second : rest.length < other := by omega
        obtain ⟨parts, ended, again⟩ := ih first second
        rw [rounds_of_part cuts, rounds_of_part cuts, ended, again]
        exact ⟨part :: parts, rfl, rfl⟩

end Rounds

/-! ### Patterns that cannot overlap themselves -/

/-- The first symbol does not come again, so that the pattern cannot overlap itself. -/
def Single : (pattern : List α) → Prop
  | [] => False
  | first :: tail => first ∉ tail

instance [DecidableEq α] : (pattern : List α) → Decidable (Single pattern)
  | [] => inferInstanceAs (Decidable False)
  | first :: tail => inferInstanceAs (Decidable (first ∉ tail))

section Single

variable {pattern : List α}

theorem Single.ne_nil (single : Single pattern) : pattern ≠ [] := by
  rintro rfl
  exact single

variable {left right : List α}

/-- No later part of the pattern starts as the pattern does. -/
theorem Single.head_ne (single : Single pattern)
    (parts : pattern = left ++ right) (proper : left ≠ []) (more : right ≠ []) :
    right.head? ≠ pattern.head? := by
  subst parts
  cases left with
  | nil => exact absurd rfl proper
  | cons first tail =>
    cases right with
    | nil => exact absurd rfl more
    | cons symbol right =>
      intro same
      cases same
      exact single (List.mem_append_right tail List.mem_cons_self)

/-- The pattern does not arise where a text that starts like it is put behind another. -/
theorem Single.infix_append (single : Single pattern)
    (starts : right.head? = pattern.head?) (found : pattern <:+: left ++ right) :
    pattern <:+: left ∨ pattern <:+: right := by
  rcases List.infix_append_iff.mp found with inLeft | inRight | ⟨first, second, parts, ends, begins⟩
  · exact Or.inl inLeft
  · exact Or.inr inRight
  · by_cases none : first = []
    · right
      rw [none, List.nil_append] at parts
      rw [parts]
      exact begins.isInfix
    by_cases all : second = []
    · left
      rw [all, List.append_nil] at parts
      rw [parts]
      exact ends.isInfix
    · exfalso
      apply single.head_ne parts none all
      obtain ⟨rest, rfl⟩ := begins
      rw [← starts]
      cases second with
      | nil => exact absurd rfl all
      | cons symbol second => rfl

theorem Single.not_infix_append_flatMap {β : Type} {text : β → List α} {items : List β}
    (single : Single pattern)
    (starts : ∀ item ∈ items, (text item).head? = pattern.head?) (clean : ¬pattern <:+: left)
    (absent : ∀ item ∈ items, ¬pattern <:+: text item) :
    ¬pattern <:+: left ++ items.flatMap text := by
  induction items generalizing left with
  | nil =>
    rw [List.flatMap_nil, List.append_nil]
    exact clean
  | cons item items ih =>
    rw [List.forall_mem_cons] at starts absent
    have head : (text item ++ items.flatMap text).head? = pattern.head? := by
      rw [List.head?_append, starts.1]
      cases pattern with
      | nil => exact absurd rfl single.ne_nil
      | cons first tail => rfl
    intro found
    rw [List.flatMap_cons] at found
    rcases single.infix_append head found with here | later
    · exact clean here
    · exact ih starts.2 absent.1 absent.2 later

end Single

/-! ### First occurrences -/

variable [DecidableEq α]

/-- The number of symbols before the first occurrence; `none` when there is none. -/
def index (pattern : List α) : (text : List α) → Option Nat
  | [] => if pattern = [] then some 0 else none
  | symbol :: rest =>
    if pattern <+: symbol :: rest then some 0
    else (index pattern rest).map (· + 1)

/-- What stands before the first `mark` and what stands after it. -/
def cut (mark : α) (text : List α) : List α × List α :=
  (text.takeWhile (· ≠ mark), (text.dropWhile (· ≠ mark)).drop 1)

section Occurrences

variable {pattern text before after : List α} {position : Nat} {symbol : α} {rest : List α}

theorem index_cons_of_match (starts : pattern <+: symbol :: rest) :
    index pattern (symbol :: rest) = some 0 :=
  if_pos starts

theorem index_cons_of_mismatch (later : ¬pattern <+: symbol :: rest) :
    index pattern (symbol :: rest) = (index pattern rest).map (· + 1) :=
  if_neg later

theorem index_eq_some (found : index pattern text = some position) :
    ∃ before after, text = before ++ (pattern ++ after) ∧ before.length = position := by
  induction text generalizing position with
  | nil =>
    rw [index] at found
    split at found
    · rename_i empty
      cases found
      exact ⟨[], [], by rw [empty]; rfl, rfl⟩
    · cases found
  | cons symbol rest ih =>
    by_cases starts : pattern <+: symbol :: rest
    · rw [index_cons_of_match starts] at found
      cases found
      obtain ⟨after, whole⟩ := starts
      exact ⟨[], after, whole.symm, rfl⟩
    · rw [index_cons_of_mismatch starts] at found
      obtain ⟨earlier, foundLater, rfl⟩ := Option.map_eq_some_iff.mp found
      obtain ⟨before, after, parts, length⟩ := ih foundLater
      exact ⟨symbol :: before, after, by rw [parts, List.cons_append],
        by rw [List.length_cons, length]⟩

theorem index_le (found : index pattern text = some position) :
    position + pattern.length ≤ text.length := by
  obtain ⟨before, after, rfl, rfl⟩ := index_eq_some found
  simp only [List.length_append]
  omega

theorem index_eq_none_iff : index pattern text = none ↔ ¬pattern <:+: text := by
  induction text with
  | nil =>
    rw [index]
    by_cases empty : pattern = []
    · simp [empty]
    · simp [empty]
  | cons symbol rest ih =>
    rw [List.infix_cons_iff, not_or]
    by_cases starts : pattern <+: symbol :: rest
    · rw [index_cons_of_match starts]
      simp [starts]
    · rw [index_cons_of_mismatch starts, Option.map_eq_none_iff, ih]
      simp [starts]

theorem index_append (found : index pattern text = some position) (more : List α) :
    index pattern (text ++ more) = some position := by
  induction text generalizing position with
  | nil =>
    rw [index] at found
    split at found
    · rename_i empty
      cases found
      subst empty
      cases more with
      | nil => rfl
      | cons symbol more => exact index_cons_of_match List.nil_prefix
    · cases found
  | cons symbol rest ih =>
    by_cases starts : pattern <+: symbol :: rest
    · rw [index_cons_of_match starts] at found
      cases found
      exact index_cons_of_match (starts.trans (List.prefix_append _ _))
    · rw [index_cons_of_mismatch starts] at found
      obtain ⟨earlier, foundLater, rfl⟩ := Option.map_eq_some_iff.mp found
      have bound := index_le foundLater
      -- The pattern fits into the text, so it does not start here because of what follows.
      have still : ¬pattern <+: symbol :: (rest ++ more) := by
        intro longer
        apply starts
        apply List.prefix_of_prefix_length_le longer (List.prefix_append (symbol :: rest) more)
        rw [List.length_cons]
        omega
      rw [List.cons_append, index_cons_of_mismatch still, ih foundLater]
      rfl

theorem index_single (single : Single pattern) (absent : ¬pattern <:+: before)
    (after : List α) : index pattern (before ++ (pattern ++ after)) = some before.length := by
  induction before with
  | nil =>
    cases pattern with
    | nil => exact absurd rfl single.ne_nil
    | cons first tail => exact index_cons_of_match (List.prefix_append _ _)
  | cons symbol rest ih =>
    rw [List.infix_cons_iff, not_or] at absent
    have later : ¬pattern <+: symbol :: (rest ++ (pattern ++ after)) := by
      rintro ⟨more, whole⟩
      rcases List.append_eq_append_iff.mp
          (show pattern ++ more = (symbol :: rest) ++ (pattern ++ after) from whole) with
        ⟨tail, parts, _⟩ | ⟨tail, parts, follows⟩
      · exact absent.1 ⟨tail, parts.symm⟩
      · by_cases none : tail = []
        · rw [none, List.append_nil] at parts
          apply absent.1
          rw [parts]
        · apply single.head_ne parts (List.cons_ne_nil _ _) none
          have heads := congrArg List.head? follows
          rw [List.head?_append_of_ne_nil _ single.ne_nil,
            List.head?_append_of_ne_nil _ none] at heads
          exact heads.symm
    rw [List.cons_append, index_cons_of_mismatch later, ih absent.2]
    rfl

end Occurrences

/-! ### Last occurrences -/

/-- The number of symbols before the last `mark`. -/
def lastIndex (mark : α) : List α → Option Nat
  | [] => none
  | head :: rest =>
    match lastIndex mark rest with
    | some position => some (position + 1)
    | none => if head = mark then some 0 else none

theorem lastIndex_some {position : Nat} (found : lastIndex mark text = some position) :
    ∃ before after, text = before ++ mark :: after ∧ before.length = position := by
  induction text generalizing position with
  | nil => cases found
  | cons head rest ih =>
    rw [lastIndex] at found
    cases inRest : lastIndex mark rest with
    | some later =>
      rw [inRest] at found
      cases found
      obtain ⟨before, after, parts, length⟩ := ih inRest
      exact ⟨head :: before, after, by rw [parts]; rfl, by rw [List.length_cons, length]⟩
    | none =>
      rw [inRest] at found
      by_cases same : head = mark
      · simp only [if_pos same] at found
        cases found
        exact ⟨[], rest, by rw [same]; rfl, rfl⟩
      · simp only [if_neg same] at found
        cases found

theorem lastIndex_none (absent : mark ∉ text) :
    lastIndex mark text = none := by
  induction text with
  | nil => rfl
  | cons head rest ih =>
    rw [List.mem_cons, not_or] at absent
    rw [lastIndex, ih absent.2]
    exact if_neg (Ne.symm absent.1)

theorem lastIndex_append (before : List α) {after : List α} (absent : mark ∉ after) :
    lastIndex mark (before ++ mark :: after) = some before.length := by
  induction before with
  | nil =>
    rw [List.nil_append, lastIndex, lastIndex_none absent]
    exact if_pos rfl
  | cons head before ih => rw [List.cons_append, lastIndex, ih, List.length_cons]

end Scan
