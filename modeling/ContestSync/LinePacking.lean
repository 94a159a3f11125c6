/-
The chunks of a message, line by line. A first line that is too long is cut after every
4000 bytes. After it, chunks are filled with whole lines as long as the next one fits, and a
line that fits into no chunk leaves the line break before it as a chunk by itself.
-/

import ContestSync.TelegramMessages

namespace ContestSync.Telegram

def lines : Bytes → Bytes × List Bytes
  | [] => ([], [])
  | byte :: text =>
    if byte = newline then ([], (lines text).1 :: (lines text).2)
    else (byte :: (lines text).1, (lines text).2)

/-- Lines that each follow a line break. -/
def broken (rest : List Bytes) : Bytes :=
  rest.flatMap (newline :: ·)

/-- How long a chunk may be that these lines follow: the line break after it is looked for among
the first 4000 bytes. -/
def room (rest : List Bytes) : Nat :=
  if rest = [] then 4000 else 3999

/-- Every line fits into a chunk, with the line break before it. -/
def Short : List Bytes → Prop
  | [] => True
  | line :: rest => 1 + line.length ≤ room rest ∧ Short rest

/-- Chunks of whole lines, each as long as the next line does not fit. -/
def pack (chunk : Bytes) : List Bytes → List Bytes
  | [] => [chunk]
  | line :: rest =>
    if chunk.length + 1 + line.length ≤ room rest then pack (chunk ++ newline :: line) rest
    else chunk :: pack (newline :: line) rest

def stretches (first : Bytes) (rest : List Bytes) : Nat :=
  (first.length + 3999 - room rest) / 4000

def stretch (first : Bytes) (index : Nat) : Bytes :=
  (first.drop (4000 * index)).take 4000

theorem lines_append (text : Bytes) : (lines text).1 ++ broken (lines text).2 = text := by
  induction text with
  | nil => rfl
  | cons byte text ih =>
    rw [lines]
    split
    · rename_i same
      rw [same]
      exact congrArg (newline :: ·) ih
    · exact congrArg (byte :: ·) ih

theorem lines_unbroken (text : Bytes) :
    newline ∉ (lines text).1 ∧ ∀ line ∈ (lines text).2, newline ∉ line := by
  induction text with
  | nil => exact ⟨List.not_mem_nil, nofun⟩
  | cons byte text ih =>
    rw [lines]
    split
    · exact ⟨List.not_mem_nil, List.forall_mem_cons.mpr ih⟩
    · rename_i different
      refine ⟨?_, ih.2⟩
      rw [List.mem_cons, not_or]
      exact ⟨Ne.symm different, ih.1⟩

theorem room_cons (line : Bytes) (rest : List Bytes) : room (line :: rest) = 3999 :=
  if_neg (List.cons_ne_nil line rest)

theorem room_le (rest : List Bytes) : 3999 ≤ room rest ∧ room rest ≤ 4000 := by
  unfold room
  split <;> omega

theorem length_broken_ge (rest : List Bytes) : 4000 ≤ room rest + (broken rest).length := by
  cases rest with
  | nil => exact Nat.le_refl 4000
  | cons line rest =>
    rw [room_cons, broken, List.flatMap_cons, List.cons_append, List.length_cons]
    omega

/-! ### The first line -/

variable {first : Bytes} {rest : List Bytes}

theorem messageChunks_stretch (unbroken : newline ∉ first) (long : room rest < first.length) :
    messageChunks (first ++ broken rest) =
      first.take 4000 :: messageChunks (first.drop 4000 ++ broken rest) := by
  have rooms := room_le rest
  have more := length_broken_ge rest
  have total : 4000 < (first ++ broken rest).length := by
    rw [List.length_append]
    omega
  have window : (first ++ broken rest).take 4000 = first.take 4000 :=
    List.take_append_of_le_length (by omega)
  have cut : cutIndex (first ++ broken rest) 4000 = 4000 := by
    apply cutIndex_limit
    rw [window]
    exact fun member => unbroken (List.mem_of_mem_take member)
  rw [messageChunks_long total, cut, window, List.drop_append_of_le_length (by omega)]

theorem stretches_short (short : first.length ≤ room rest) :
    stretches first rest = 0 :=
  Nat.div_eq_of_lt (by omega)

theorem stretches_long (long : room rest < first.length) :
    stretches first rest = stretches (first.drop 4000) rest + 1 := by
  have rooms := room_le rest
  rw [stretches, stretches, List.length_drop]
  omega

theorem length_le_room (first : Bytes) (rest : List Bytes) :
    (first.drop (4000 * stretches first rest)).length ≤ room rest := by
  have rooms := room_le rest
  rw [List.length_drop, stretches]
  omega

theorem messageChunks_stretches (unbroken : newline ∉ first) :
    messageChunks (first ++ broken rest) =
      (List.range (stretches first rest)).map (stretch first) ++
        messageChunks (first.drop (4000 * stretches first rest) ++ broken rest) := by
  induction count : stretches first rest generalizing first with
  | zero => rw [List.range_zero, List.map_nil, List.nil_append, Nat.mul_zero, List.drop_zero]
  | succ cuts ih =>
    have long : room rest < first.length := by
      by_contra short
      rw [stretches_short (Nat.le_of_not_lt short)] at count
      cases count
    have remaining : stretches (first.drop 4000) rest = cuts := by
      have counted := stretches_long long
      omega
    have later : ∀ index, stretch (first.drop 4000) index = stretch first (index + 1) := by
      intro index
      rw [stretch, stretch, List.drop_drop, Nat.mul_succ, Nat.add_comm]
    rw [messageChunks_stretch unbroken long,
      ih (fun member => unbroken (List.mem_of_mem_drop member)) remaining,
      List.range_succ_eq_map, List.map_cons, List.map_map, List.drop_drop, Nat.mul_succ,
      Nat.add_comm 4000, List.cons_append]
    congr 2
    exact List.map_congr_left (fun index _ => later index)

/-! ### The other lines -/

section Lines

variable {chunk line : Bytes} {rest : List Bytes}

theorem broken_cons (chunk line : Bytes) (rest : List Bytes) :
    chunk ++ broken (line :: rest) = chunk ++ newline :: (line ++ broken rest) := rfl

theorem cutIndex_full (unbroken : newline ∉ line) (small : chunk.length ≤ 3999)
    (full : room rest < chunk.length + 1 + line.length) :
    4000 < (chunk ++ broken (line :: rest)).length ∧
      cutIndex (chunk ++ broken (line :: rest)) 4000 =
        if chunk.length = 0 then 1 else chunk.length := by
  have rooms := room_le rest
  have more := length_broken_ge rest
  constructor
  · rw [broken_cons, List.length_append, List.length_cons, List.length_append]
    omega
  · apply cutIndex_newline (broken_cons chunk line rest) (by omega)
    rw [List.take_append_of_le_length (by omega)]
    exact fun member => unbroken (List.mem_of_mem_take member)

theorem messageChunks_full (unbroken : newline ∉ line) (small : chunk.length ≤ 3999)
    (full : room rest < chunk.length + 1 + line.length) (nonempty : chunk ≠ []) :
    messageChunks (chunk ++ broken (line :: rest)) =
      chunk :: messageChunks (newline :: line ++ broken rest) := by
  obtain ⟨long, cut⟩ := cutIndex_full unbroken small full
  rw [if_neg (fun empty => nonempty (List.length_eq_zero_iff.mp empty))] at cut
  rw [messageChunks_long long, cut, List.take_left, List.drop_left]
  rfl

theorem break_mem_messageChunks (unbroken : newline ∉ line) (long : room rest < 1 + line.length) :
    [newline] ∈ messageChunks (newline :: line ++ broken rest) := by
  obtain ⟨total, cut⟩ := @cutIndex_full [] line rest unbroken (by decide)
    (by rw [List.length_nil]; omega)
  rw [if_pos List.length_nil] at cut
  change [newline] ∈ messageChunks ([] ++ broken (line :: rest))
  rw [messageChunks_long total, cut]
  exact List.mem_cons_self

theorem messageChunks_pack (unbroken : ∀ line ∈ rest, newline ∉ line) (short : Short rest)
    (small : chunk.length ≤ room rest) :
    messageChunks (chunk ++ broken rest) = pack chunk rest := by
  induction rest generalizing chunk with
  | nil =>
    rw [broken, List.flatMap_nil, List.append_nil]
    exact messageChunks_short small
  | cons line rest ih =>
    rw [List.forall_mem_cons] at unbroken
    rw [room_cons] at small
    rw [pack]
    split
    · rename_i fits
      rw [← ih unbroken.2 short.2 (by rw [List.length_append, List.length_cons]; omega),
        List.append_assoc]
      rfl
    · rename_i full
      have nonempty : chunk ≠ [] := by
        rintro rfl
        have alone := short.1
        rw [List.length_nil] at full
        omega
      rw [messageChunks_full unbroken.1 small (Nat.lt_of_not_le full) nonempty,
        ih unbroken.2 short.2 (by rw [List.length_cons, Nat.add_comm]; exact short.1)]

theorem break_mem_of_long (unbroken : ∀ line ∈ rest, newline ∉ line) (long : ¬Short rest)
    (small : chunk.length ≤ room rest) : [newline] ∈ messageChunks (chunk ++ broken rest) := by
  induction rest generalizing chunk with
  | nil => exact absurd trivial long
  | cons line rest ih =>
    rw [List.forall_mem_cons] at unbroken
    rw [room_cons] at small
    by_cases fits : chunk.length + 1 + line.length ≤ room rest
    · have later : ¬Short rest := fun short => long ⟨by omega, short⟩
      have found := @ih (chunk ++ newline :: line) unbroken.2 later
        (by rw [List.length_append, List.length_cons]; omega)
      rw [List.append_assoc] at found
      exact found
    · by_cases alone : 1 + line.length ≤ room rest
      · have later : ¬Short rest := fun short => long ⟨alone, short⟩
        have nonempty : chunk ≠ [] := by
          rintro rfl
          rw [List.length_nil] at fits
          omega
        rw [messageChunks_full unbroken.1 small (Nat.lt_of_not_le fits) nonempty]
        exact List.mem_cons_of_mem _ (ih unbroken.2 later
          (by rw [List.length_cons, Nat.add_comm]; exact alone))
      · have found := @break_mem_messageChunks line rest unbroken.1 (Nat.lt_of_not_le alone)
        by_cases empty : chunk = []
        · rw [empty]
          exact found
        · rw [messageChunks_full unbroken.1 small (Nat.lt_of_not_le fits) empty]
          exact List.mem_cons_of_mem _ found

theorem pack_ne_nil (chunk : Bytes) (rest : List Bytes) : pack chunk rest ≠ [] := by
  induction rest generalizing chunk with
  | nil => exact List.cons_ne_nil _ _
  | cons line rest ih =>
    rw [pack]
    split
    · exact ih _
    · exact List.cons_ne_nil _ _

theorem length_of_pack (short : Short rest) (small : chunk.length ≤ room rest) :
    ∀ before part after, pack chunk rest = before ++ part :: after → after ≠ [] →
      part.length < 4000 := by
  induction rest generalizing chunk with
  | nil =>
    intro before part after parts more
    have size := congrArg List.length parts
    have nonempty := List.length_pos_iff.mpr more
    simp only [pack, List.length_append, List.length_cons, List.length_nil] at size
    omega
  | cons line rest ih =>
    rw [room_cons] at small
    rw [pack]
    split
    · exact ih short.2 (by rw [List.length_append, List.length_cons]; omega)
    · intro before part after parts more
      cases before with
      | nil =>
        rw [List.nil_append, List.cons.injEq] at parts
        rw [← parts.1]
        omega
      | cons first before =>
        rw [List.cons_append, List.cons.injEq] at parts
        exact ih short.2 (by rw [List.length_cons, Nat.add_comm]; exact short.1)
          before part after parts.2 more

end Lines

end ContestSync.Telegram
