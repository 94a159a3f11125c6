/-
Whether the chunks of a message can be sent by themselves. A cut at a line break falls
between two pieces of the message. A cut at the limit falls where it does, inside of a
character or of an entity, and a chunk can be left with line breaks only. The lines of the
message decide about all of it.
-/

import ContestSync.LinePacking

namespace ContestSync.Telegram

/-- `unicode.IsSpace`. -/
def isSpace (char : Char) : Bool :=
  char ∈ ['\t', '\n', '\x0b', '\x0c', '\r', ' ', '\u0085', '\u00a0', '\u1680', '\u2028',
    '\u2029', '\u202f', '\u205f', '\u3000'] ∨ ('\u2000' ≤ char ∧ char ≤ '\u200a')

def Blank (chunk : Bytes) : Prop :=
  ∃ chars, Utf8.encode chars = chunk ∧ ∀ char ∈ chars, isSpace char

/-- A number of bytes that ends between two pieces. -/
def Between (pieces : List Piece) (offset : Nat) : Prop :=
  ∃ before after, pieces = before ++ after ∧ (bytesOf before).length = offset

def CutsEntity (pieces : List Piece) (offset : Nat) : Prop :=
  ∃ before entity after, pieces = before ++ .escaped entity :: after ∧
    (bytesOf before).length < offset ∧
    offset < (bytesOf before).length + entity.bytes.length

/-- A chunk of a message, `offset` bytes from its start. -/
structure Sendable (pieces : List Piece) (offset : Nat) (chunk : Bytes) : Prop where
  valid : Utf8.Valid chunk
  visible : ¬Blank chunk
  whole : ¬CutsEntity pieces offset ∧ ¬CutsEntity pieces (offset + chunk.length)

/-! ### Between two pieces -/

section Between

variable {pieces : List Piece} {piece : Piece} {offset : Nat}

theorem between_zero (pieces : List Piece) : Between pieces 0 :=
  ⟨[], pieces, rfl, rfl⟩

theorem between_length (pieces : List Piece) : Between pieces (bytesOf pieces).length :=
  ⟨pieces, [], (List.append_nil pieces).symm, rfl⟩

theorem Between.cons (between : Between pieces offset) :
    Between (piece :: pieces) (piece.bytes.length + offset) := by
  obtain ⟨before, after, parts, length⟩ := between
  refine ⟨piece :: before, after, by rw [parts, List.cons_append], ?_⟩
  rw [bytesOf_cons, List.length_append, length]

theorem Entity.valid_bytes (entity : Entity) : Utf8.Valid entity.bytes := by
  cases entity <;> exact Utf8.valid_encode _

theorem Piece.valid_bytes (piece : Piece) : Utf8.Valid piece.bytes := by
  cases piece with
  | plain char => exact ⟨[char], List.append_nil _⟩
  | escaped entity => exact entity.valid_bytes

theorem valid_bytesOf (pieces : List Piece) : Utf8.Valid (bytesOf pieces) := by
  induction pieces with
  | nil => exact ⟨[], rfl⟩
  | cons piece pieces ih => exact piece.valid_bytes.append ih

theorem Between.valid_take (between : Between pieces offset) :
    Utf8.Valid ((bytesOf pieces).take offset) := by
  obtain ⟨before, after, parts, length⟩ := between
  rw [parts, bytesOf_append, ← length, List.take_left]
  exact valid_bytesOf before

theorem length_bytesOf_le {first second : List Piece} (initial : first <+: second) :
    (bytesOf first).length ≤ (bytesOf second).length := by
  obtain ⟨rest, parts⟩ := initial
  rw [← parts, bytesOf_append, List.length_append]
  exact Nat.le_add_right _ _

theorem Between.not_cutsEntity (between : Between pieces offset) :
    ¬CutsEntity pieces offset := by
  obtain ⟨before, after, parts, length⟩ := between
  rintro ⟨left, entity, right, split, start, stop⟩
  have initial : before <+: pieces := ⟨after, parts.symm⟩
  have upTo : left <+: pieces := ⟨.escaped entity :: right, split.symm⟩
  have past : left ++ [.escaped entity] <+: pieces :=
    ⟨right, by rw [split, List.append_assoc, List.singleton_append]⟩
  rcases Nat.lt_or_ge left.length before.length with longer | shorter
  · have bound := length_bytesOf_le
      (List.prefix_of_prefix_length_le past initial (by simpa [Nat.succ_le_iff] using longer))
    have size : (bytesOf (left ++ [.escaped entity])).length =
        (bytesOf left).length + entity.bytes.length := by
      simp [bytesOf, Piece.bytes]
    omega
  · have bound := length_bytesOf_le (List.prefix_of_prefix_length_le initial upTo shorter)
    omega

/-- The start of a piece, unless it is the whole piece, is not valid or cuts an entity. -/
theorem between_of_valid (valid : Utf8.Valid ((bytesOf pieces).take offset))
    (uncut : ¬CutsEntity pieces offset) (inside : offset ≤ (bytesOf pieces).length) :
    Between pieces offset := by
  induction pieces generalizing offset with
  | nil =>
    have zero : offset = 0 := by simpa [bytesOf] using inside
    rw [zero]
    exact between_zero []
  | cons piece pieces ih =>
    rw [bytesOf_cons] at valid inside
    rw [List.length_append] at inside
    rcases Nat.lt_or_ge offset piece.bytes.length with short | long
    · rcases Nat.eq_zero_or_pos offset with zero | positive
      · rw [zero]
        exact between_zero _
      rw [List.take_append_of_le_length (Nat.le_of_lt short)] at valid
      cases piece with
      | escaped entity =>
        refine absurd ⟨[], entity, pieces, rfl, positive, ?_⟩ uncut
        simpa [bytesOf, Piece.bytes] using short
      | plain char =>
        have start : ((Piece.plain char).bytes.take offset).length = offset :=
          List.length_take_of_le (Nat.le_of_lt short)
        have stop : 0 < ((Piece.plain char).bytes.drop offset).length := by
          rw [List.length_drop]
          omega
        refine absurd valid (Utf8.not_valid_inside ?_ (List.take_append_drop offset _)
          (List.ne_nil_of_length_pos stop))
        exact List.ne_nil_of_length_pos (by rw [start]; exact positive)
    · obtain ⟨rest, total⟩ := Nat.exists_eq_add_of_le long
      rw [total, List.take_length_add_append] at valid
      rw [total]
      refine (ih (piece.valid_bytes.right valid) ?_ (by omega)).cons
      rintro ⟨before, entity, after, parts, start, stop⟩
      refine uncut ⟨piece :: before, entity, after, by rw [parts, List.cons_append], ?_, ?_⟩
      · rw [bytesOf_cons, List.length_append]
        omega
      · rw [bytesOf_cons, List.length_append]
        omega

theorem Piece.bytes_of_newline (member : newline ∈ piece.bytes) : piece.bytes = [newline] := by
  cases piece with
  | plain char => exact Utf8.encodeChar_of_ascii member (by decide)
  | escaped entity =>
    exfalso
    cases entity <;> revert member <;> decide +kernel

theorem between_newline {before after : Bytes}
    (whole : bytesOf pieces = before ++ newline :: after) :
    Between pieces before.length ∧ Between pieces (before.length + 1) := by
  induction pieces generalizing before with
  | nil =>
    have size := congrArg List.length whole
    simp [bytesOf] at size
  | cons piece pieces ih =>
    rw [bytesOf_cons] at whole
    rcases List.append_eq_append_iff.mp whole with ⟨rest, parts, tail⟩ | ⟨rest, parts, tail⟩
    · -- The line break comes after this piece.
      obtain ⟨start, stop⟩ := ih tail
      rw [parts, List.length_append, Nat.add_assoc]
      exact ⟨start.cons, stop.cons⟩
    · cases rest with
      | nil =>
        rw [List.append_nil] at parts
        obtain ⟨start, stop⟩ := @ih [] tail.symm
        rw [← parts]
        exact ⟨start.cons, stop.cons⟩
      | cons byte rest =>
        -- It is in this piece, and the piece is nothing else.
        rw [List.cons_append, List.cons.injEq] at tail
        obtain ⟨same, _⟩ := tail
        have only : piece.bytes = [newline] := by
          apply Piece.bytes_of_newline
          rw [parts, same]
          exact List.mem_append_right _ List.mem_cons_self
        have first : before = [] := by
          have size := congrArg List.length (parts.symm.trans only)
          simp only [List.length_append, List.length_cons, List.length_nil] at size
          exact List.length_eq_zero_iff.mp (by omega)
        rw [first]
        have stop : Between (piece :: pieces) (piece.bytes.length + 0) :=
          (between_zero pieces).cons
        rw [only] at stop
        exact ⟨between_zero _, stop⟩

end Between

/-! ### The cuts of a message -/

variable {before after : List Bytes} {chunk : Bytes}

section Cuts

variable {pieces : List Piece} {chunks : List Bytes}

/-- The chunks that are as long as the limit and not the last one end between two
pieces. -/
def ForcedBetween (pieces : List Piece) (chunks : List Bytes) : Prop :=
  ∀ before chunk after, chunks = before ++ chunk :: after → after ≠ [] →
    chunk.length = 4000 → Between pieces (before.flatten.length + 4000)

theorem between_cuts (split : messageChunks (bytesOf pieces) = chunks)
    (forced : ForcedBetween pieces chunks)
    (parts : chunks = before ++ after) : Between pieces before.flatten.length := by
  have found := splitLoop_messageChunks (bytesOf pieces)
  rw [split] at found
  have whole := flatten_splitLoop found
  rw [parts, List.flatten_append] at whole
  rcases List.eq_nil_or_concat before with first | ⟨initial, chunk, last⟩
  · rw [first]
    exact between_zero pieces
  rw [List.concat_eq_append] at last
  by_cases rest : after = []
  · rw [rest, List.flatten_nil, List.append_nil] at whole
    rw [whole]
    exact between_length pieces
  have position : chunks = initial ++ chunk :: after := by
    rw [parts, last, List.append_assoc, List.singleton_append]
  rcases chunk_ends found initial chunk after position rest with
    ⟨later, lineBreak⟩ | lineBreak | full
  · rw [lineBreak] at whole
    exact (between_newline whole.symm).1
  · rw [last, lineBreak, List.flatten_append] at whole ⊢
    simp only [List.flatten_cons, List.flatten_nil, List.append_nil, List.append_assoc,
      List.singleton_append, List.length_append, List.length_singleton] at whole ⊢
    exact (between_newline whole.symm).2
  · rw [last, List.flatten_append, List.length_append]
    have between := forced initial chunk after position rest full
    simpa [full] using between

theorem chunks_sendable (split : messageChunks (bytesOf pieces) = chunks)
    (forced : ForcedBetween pieces chunks) (visible : ∀ chunk ∈ chunks, ¬Blank chunk)
    (parts : chunks = before ++ chunk :: after) :
    Sendable pieces before.flatten.length chunk := by
  have whole := flatten_splitLoop (splitLoop_messageChunks (bytesOf pieces))
  rw [split, parts, List.flatten_append, List.flatten_cons] at whole
  have start : Between pieces before.flatten.length := between_cuts split forced parts
  have stop : Between pieces (before.flatten.length + chunk.length) := by
    have next : chunks = (before ++ [chunk]) ++ after := by
      rw [parts, List.append_assoc, List.singleton_append]
    have between := between_cuts split forced next
    simpa [List.length_flatten] using between
  have valid : Utf8.Valid (before.flatten ++ chunk) := by
    have upTo := stop.valid_take
    rw [← whole, ← List.append_assoc, ← List.length_append, List.take_left] at upTo
    exact upTo
  constructor
  · have upTo := start.valid_take
    rw [← whole, List.take_left] at upTo
    exact upTo.right valid
  · exact visible chunk (by rw [parts]; exact List.mem_append_right _ List.mem_cons_self)
  · exact ⟨start.not_cutsEntity, stop.not_cutsEntity⟩

theorem forcedBetween_of_sendable (split : messageChunks (bytesOf pieces) = chunks)
    (sendable : ∀ before chunk after, chunks = before ++ chunk :: after →
      Sendable pieces before.flatten.length chunk) : ForcedBetween pieces chunks := by
  intro before chunk after parts _ full
  have whole := flatten_splitLoop (splitLoop_messageChunks (bytesOf pieces))
  rw [split, parts, List.flatten_append, List.flatten_cons, ← List.append_assoc] at whole
  have length : (before.flatten ++ chunk).length = before.flatten.length + 4000 := by
    rw [List.length_append, full]
  have each : ∀ part ∈ before, Utf8.Valid part := by
    intro part member
    obtain ⟨left, right, position⟩ := List.append_of_mem member
    exact (sendable left part (right ++ chunk :: after) (by rw [parts, position]; simp)).valid
  have valid : Utf8.Valid (before.flatten ++ chunk) :=
    (Utf8.Valid.flatten each).append (sendable before chunk after parts).valid
  apply between_of_valid
  · rw [← whole, ← length, List.take_left]
    exact valid
  · have uncut := (sendable before chunk after parts).whole.2
    rw [full] at uncut
    exact uncut
  · rw [← whole, List.length_append, length]
    exact Nat.le_add_right _ _

theorem not_blank_of_ascii {char : Char} {byte : UInt8}
    (encoded : String.utf8EncodeChar char = [byte]) (small : byte.toNat < 128)
    (seen : isSpace char = false) (member : byte ∈ chunk) : ¬Blank chunk := by
  rintro ⟨chars, whole, spaces⟩
  have absent : char ∉ chars := by
    intro present
    have space := spaces char present
    rw [seen] at space
    cases space
  rw [← whole] at member
  exact Utf8.notMem_encode encoded small absent member

theorem tag_mem_sentText (source : Bytes) (notice : Notice) :
    60 ∈ sentText source notice.text := by
  unfold sentText
  split
  · cases notice with
    | logged record =>
      have tag : 60 ∈ literal "<b>[" := by decide +kernel
      simp only [Notice.text, Record.text, literal_append, List.mem_append]
      exact .inl (.inl (.inl (.inl (.inl tag))))
    | triggered event details =>
      have tag : 60 ∈ literal "<b>[SYSTEM EVENT - " := by decide +kernel
      simp only [Notice.text, systemEventText, List.mem_append]
      exact .inl (.inl (.inl tag))
  · have tag : 60 ∈ literal "<b>[Instance: " := by decide +kernel
    simp only [List.mem_append]
    exact .inl (.inl (.inl tag))

end Cuts

/-! ### The lines of a message -/

/-- The lines of a message with these pieces: every line but the first fits into a chunk, a first
line that is too long can be cut after every 4000 bytes, and neither a stretch of it nor a chunk
filled with whole lines is blank. -/
structure Cuttable (pieces : List Piece) (first : Bytes) (rest : List Bytes) : Prop where
  short : Short rest
  between : ∀ index < stretches first rest, Between pieces (4000 * (index + 1))
  seen : ∀ index < stretches first rest, ¬Blank (stretch first index)
  visible : ∀ chunk ∈ pack (first.drop (4000 * stretches first rest)) rest, ¬Blank chunk

section Lines

variable {pieces : List Piece} {first : Bytes} {rest : List Bytes}

theorem length_stretch {index : Nat} (inside : index < stretches first rest) :
    (stretch first index).length = 4000 := by
  have rooms := room_le rest
  rw [stretches] at inside
  rw [stretch, List.length_take, List.length_drop]
  omega

theorem length_flatten_stretches {count : Nat} (inside : count ≤ stretches first rest) :
    ((List.range count).map (stretch first)).flatten.length = 4000 * count := by
  induction count with
  | zero => rfl
  | succ count ih =>
    rw [List.range_succ, List.map_append, List.flatten_append, List.length_append, ih (by omega),
      List.map_singleton, List.flatten_singleton, @length_stretch first rest count (by omega)]
    rfl

theorem stretches_split
    (parts : (List.range (stretches first rest)).map (stretch first) = before ++ chunk :: after) :
    before.length < stretches first rest ∧ before.flatten.length = 4000 * before.length := by
  have size := congrArg List.length parts
  simp only [List.length_map, List.length_range, List.length_append, List.length_cons] at size
  have initial : before = (List.range before.length).map (stretch first) := by
    have taken := congrArg (List.take before.length) parts
    rw [List.take_left, ← List.map_take, List.take_range, Nat.min_eq_left (by omega)] at taken
    exact taken.symm
  refine ⟨by omega, ?_⟩
  have flat := @length_flatten_stretches first rest before.length (by omega)
  rw [← initial] at flat
  exact flat

theorem cuttable_iff (unbroken : newline ∉ first) (lines : ∀ line ∈ rest, newline ∉ line) :
    (ForcedBetween pieces (messageChunks (first ++ broken rest)) ∧
      ∀ chunk ∈ messageChunks (first ++ broken rest), ¬Blank chunk) ↔
      Cuttable pieces first rest := by
  have fits := length_le_room first rest
  have blankBreak : Blank [newline] := ⟨['\n'], rfl, by simp [isSpace]⟩
  rw [messageChunks_stretches unbroken]
  constructor
  · rintro ⟨forced, visible⟩
    have short : Short rest := by
      by_contra long
      exact visible _ (List.mem_append_right _ (break_mem_of_long lines long fits)) blankBreak
    rw [messageChunks_pack lines short fits] at forced visible
    refine ⟨short, ?_, ?_, ?_⟩
    · intro index inside
      obtain ⟨later, total⟩ := Nat.exists_eq_add_of_lt inside
      have parts : (List.range (stretches first rest)).map (stretch first) =
          (List.range index).map (stretch first) ++ stretch first index ::
            (List.range later).map (fun next => stretch first (index + (next + 1))) := by
        rw [total, Nat.add_assoc, List.range_add, List.map_append, List.range_succ_eq_map]
        simp only [List.map_cons, List.map_map, Nat.add_zero]
        rfl
      rw [parts, List.append_assoc, List.cons_append] at forced
      have between := forced _ _ _ rfl
        (List.append_ne_nil_of_right_ne_nil _ (pack_ne_nil _ _)) (length_stretch inside)
      rw [length_flatten_stretches (Nat.le_of_lt inside)] at between
      exact between
    · intro index inside
      exact visible _ (List.mem_append_left _ (List.mem_map_of_mem (List.mem_range.mpr inside)))
    · exact fun chunk member => visible chunk (List.mem_append_right _ member)
  · intro cuttable
    rw [messageChunks_pack lines cuttable.short fits]
    constructor
    · intro before chunk after parts more full
      have less := length_of_pack cuttable.short fits
      rcases List.append_eq_append_iff.mp parts with ⟨middle, whole, tail⟩ | ⟨middle, whole, tail⟩
      · -- The chunk is among those of whole lines.
        have bound := less middle chunk after tail more
        omega
      · cases middle with
        | nil =>
          have bound := less [] chunk after tail.symm more
          omega
        | cons head middle =>
          rw [List.cons_append, List.cons.injEq] at tail
          rw [← tail.1] at whole
          obtain ⟨inside, length⟩ := stretches_split whole
          rw [length, ← Nat.mul_succ]
          exact cuttable.between _ inside
    · intro chunk member
      rcases List.mem_append.mp member with inFirst | inRest
      · obtain ⟨index, inside, rfl⟩ := List.mem_map.mp inFirst
        exact cuttable.seen index (List.mem_range.mp inside)
      · exact cuttable.visible chunk inRest

end Lines

/-- The chunks of a message are sendable if and only if its lines allow it; those of a message
that fits are. -/
theorem chunks_sendable_iff (source : Bytes) (notice : Notice) :
    ((∀ before chunk after, messageChunks (sentText source notice.text) = before ++ chunk :: after →
        Sendable (sentPieces source notice) before.flatten.length chunk) ↔
      Cuttable (sentPieces source notice) (lines (sentText source notice.text)).1
        (lines (sentText source notice.text)).2) ∧
    ((sentText source notice.text).length ≤ 4000 → ∀ before chunk after,
        messageChunks (sentText source notice.text) = before ++ chunk :: after →
        Sendable (sentPieces source notice) before.flatten.length chunk) := by
  have tagged := tag_mem_sentText source notice
  obtain ⟨unbroken, others⟩ := lines_unbroken (sentText source notice.text)
  have cuttable := @cuttable_iff (sentPieces source notice) _ _ unbroken others
  rw [lines_append] at cuttable
  rw [← cuttable]
  clear cuttable unbroken others
  rw [sentText_eq] at tagged ⊢
  constructor
  · constructor
    · intro sendable
      refine ⟨forcedBetween_of_sendable rfl sendable, ?_⟩
      intro chunk member
      obtain ⟨before, after, parts⟩ := List.append_of_mem member
      exact (sendable before chunk after parts).visible
    · rintro ⟨forced, visible⟩ before chunk after parts
      exact chunks_sendable rfl forced visible parts
  · intro short
    have only := messageChunks_short short
    have forced : ForcedBetween (sentPieces source notice)
        (messageChunks (bytesOf (sentPieces source notice))) := by
      intro before chunk after parts more
      have size := congrArg List.length parts
      have nonempty := List.length_pos_iff.mpr more
      rw [only] at size
      simp only [List.length_append, List.length_cons, List.length_nil] at size
      omega
    have visible : ∀ chunk ∈ messageChunks (bytesOf (sentPieces source notice)), ¬Blank chunk := by
      intro chunk member
      rw [only, List.mem_singleton] at member
      rw [member]
      exact not_blank_of_ascii (by decide : String.utf8EncodeChar '<' = [60]) (by decide)
        (by decide) tagged
    intro before chunk after parts
    exact chunks_sendable rfl forced visible parts

/-! ### An event with long details -/

theorem messageChunks_event {event details : Bytes}
    (fits : (literal "<b>[SYSTEM EVENT - " ++ escapeHTML event ++ literal "]</b>").length < 3999)
    (oneLine : newline ∉ escapeHTML details) (long : 4000 < (escapeHTML details).length) :
    ∃ rest, messageChunks (systemEventText event details) =
      (literal "<b>[SYSTEM EVENT - " ++ escapeHTML event ++ literal "]</b>" ++ [newline]) ::
        [newline] :: (escapeHTML details).take 4000 :: rest := by
  generalize header : literal "<b>[SYSTEM EVENT - " ++ escapeHTML event ++ literal "]</b>" = head
    at fits
  have text : systemEventText event details =
      (head ++ [newline]) ++ newline :: escapeHTML details := by
    have breaks : literal "]</b>\n\n" = literal "]</b>" ++ [newline, newline] := by
      decide +kernel
    rw [systemEventText, breaks, ← header]
    simp
  have size : (systemEventText event details).length =
      head.length + 2 + (escapeHTML details).length := by
    rw [text]
    simp only [List.length_append, List.length_cons, List.length_nil]
    omega
  have first : cutIndex (systemEventText event details) 4000 = (head ++ [newline]).length := by
    rw [cutIndex_newline text (by rw [List.length_append, List.length_singleton]; omega)
      (fun member => oneLine (List.mem_of_mem_take member))]
    exact if_neg (by simp)
  have second : cutIndex (newline :: escapeHTML details) 4000 = 1 := by
    rw [cutIndex_newline (List.nil_append _).symm (by decide)
      (fun member => oneLine (List.mem_of_mem_take member))]
    exact if_pos rfl
  refine ⟨messageChunks ((escapeHTML details).drop 4000), ?_⟩
  rw [messageChunks_long (by omega), first, text, List.take_left, List.drop_left,
    messageChunks_long (by rw [List.length_cons]; omega), second, List.take_succ_cons,
    List.take_zero, List.drop_succ_cons, List.drop_zero, messageChunks_long long,
    cutIndex_limit (fun member => oneLine (List.mem_of_mem_take member))]

theorem length_bytesOf_replicate (count : Nat) (piece : Piece) :
    (bytesOf (List.replicate count piece)).length = count * piece.bytes.length := by
  induction count with
  | zero => rw [Nat.zero_mul]; rfl
  | succ count ih =>
    rw [List.replicate_succ, bytesOf_cons, List.length_append, ih, Nat.succ_mul, Nat.add_comm]

theorem notMem_bytesOf_replicate {byte : UInt8} {piece : Piece} (absent : byte ∉ piece.bytes)
    (count : Nat) : byte ∉ bytesOf (List.replicate count piece) := by
  intro member
  obtain ⟨other, present, inside⟩ := List.mem_flatMap.mp member
  rw [List.eq_of_mem_replicate present] at inside
  exact absent inside

theorem flatMap_escapedPieces_replicate {char : Char} {piece : Piece}
    (escaped : escapedPieces char = [piece]) (count : Nat) :
    (List.replicate count char).flatMap escapedPieces = List.replicate count piece := by
  induction count with
  | zero => rfl
  | succ count ih => rw [List.replicate_succ, List.flatMap_cons, escaped, ih]; rfl

/-- Characters of three bytes. -/
def euroDetails : Bytes :=
  Utf8.encode (List.replicate 1400 '€')

def ampersandDetails : Bytes :=
  Utf8.encode ('x' :: List.replicate 1400 '&')

theorem htmlPieces_euroDetails :
    htmlPieces euroDetails = List.replicate 1400 (.plain '€') := by
  rw [htmlPieces, euroDetails, Utf8.decode_encode]
  exact flatMap_escapedPieces_replicate (by decide) 1400

theorem htmlPieces_ampersandDetails :
    htmlPieces ampersandDetails = .plain 'x' :: List.replicate 1400 (.escaped .amp) := by
  rw [htmlPieces, ampersandDetails, Utf8.decode_encode, List.flatMap_cons,
    flatMap_escapedPieces_replicate (by decide : escapedPieces '&' = [.escaped .amp]) 1400]
  rfl

theorem messageChunks_triggered {details : Bytes} (oneLine : newline ∉ escapeHTML details)
    (long : 4000 < (escapeHTML details).length) :
    ∃ rest, messageChunks (sentText [] (Notice.triggered [] details).text) =
      literal "<b>[SYSTEM EVENT - ]</b>\n" :: [newline] ::
        (escapeHTML details).take 4000 :: rest := by
  have header : literal "<b>[SYSTEM EVENT - " ++ escapeHTML [] ++ literal "]</b>" ++ [newline] =
      literal "<b>[SYSTEM EVENT - ]</b>\n" := by decide +kernel
  have chunks := @messageChunks_event [] details (by decide +kernel) oneLine long
  rw [header] at chunks
  exact chunks

theorem euro_chunk_not_valid :
    ¬Utf8.Valid ((bytesOf (List.replicate 1400 (.plain '€'))).take 4000) := by
  have parts : bytesOf (List.replicate 1400 (.plain '€')) =
      (bytesOf (List.replicate 1333 (.plain '€')) ++ [0xE2]) ++
        ([0x82, 0xAC] ++ bytesOf (List.replicate 66 (.plain '€'))) := by
    have pieces : List.replicate 1400 (Piece.plain '€') =
        List.replicate 1333 (.plain '€') ++ .plain '€' :: List.replicate 66 (.plain '€') := by
      rw [← List.replicate_succ, ← List.replicate_add]
    rw [pieces, bytesOf_append, bytesOf_cons]
    simp only [List.append_assoc]
    rfl
  have size : (bytesOf (List.replicate 1333 (.plain '€')) ++ [0xE2]).length = 4000 := by
    rw [List.length_append, length_bytesOf_replicate]
    rfl
  rw [parts, ← size, List.take_left]
  intro valid
  have rest := (valid_bytesOf _).right valid
  exact @Utf8.not_valid_inside '€' [0xE2] [0x82, 0xAC] (by decide) (by decide) (by decide) rest

theorem event_chunks_not_sendable :
    (∃ first second chunk rest, messageChunks (sentText [] (Notice.triggered [] euroDetails).text) =
        first :: second :: chunk :: rest ∧ Blank second ∧ ¬Utf8.Valid chunk) ∧
    ∃ first second chunk rest,
      messageChunks (sentText [] (Notice.triggered [] ampersandDetails).text) =
        first :: second :: chunk :: rest ∧
      CutsEntity (sentPieces [] (.triggered [] ampersandDetails))
        ([first, second].flatten.length + chunk.length) := by
  constructor
  · have details : escapeHTML euroDetails = bytesOf (List.replicate 1400 (.plain '€')) := by
      rw [escapeHTML_eq, htmlPieces_euroDetails]
    have oneLine : newline ∉ escapeHTML euroDetails := by
      rw [details]
      exact notMem_bytesOf_replicate (by decide) 1400
    have long : 4000 < (escapeHTML euroDetails).length := by
      rw [details, length_bytesOf_replicate]
      decide
    obtain ⟨rest, chunks⟩ := messageChunks_triggered oneLine long
    refine ⟨_, _, _, rest, chunks, ⟨['\n'], rfl, by simp [isSpace]⟩, ?_⟩
    rw [details]
    exact euro_chunk_not_valid
  · have details : escapeHTML ampersandDetails =
        bytesOf (.plain 'x' :: List.replicate 1400 (.escaped .amp)) := by
      rw [escapeHTML_eq, htmlPieces_ampersandDetails]
    have oneLine : newline ∉ escapeHTML ampersandDetails := by
      rw [details, bytesOf_cons, List.mem_append, not_or]
      exact ⟨by decide, notMem_bytesOf_replicate (by decide +kernel) 1400⟩
    have long : 4000 < (escapeHTML ampersandDetails).length := by
      rw [details, bytesOf_cons, List.length_append, length_bytesOf_replicate]
      decide +kernel
    obtain ⟨rest, chunks⟩ := messageChunks_triggered oneLine long
    have size : ((escapeHTML ampersandDetails).take 4000).length = 4000 :=
      List.length_take_of_le (Nat.le_of_lt long)
    have pieces : sentPieces [] (.triggered [] ampersandDetails) =
        (plainPieces "<b>[SYSTEM EVENT - ]</b>\n\n" ++
          .plain 'x' :: List.replicate 799 (.escaped .amp)) ++
        .escaped .amp :: List.replicate 600 (.escaped .amp) := by
      have header : plainPieces "<b>[SYSTEM EVENT - " ++ htmlPieces [] ++
          plainPieces "]</b>\n\n" = plainPieces "<b>[SYSTEM EVENT - ]</b>\n\n" := by
        decide +kernel
      have entities : List.replicate 1400 (Piece.escaped .amp) =
          List.replicate 799 (.escaped .amp) ++
            .escaped .amp :: List.replicate 600 (.escaped .amp) := by
        rw [← List.replicate_succ, ← List.replicate_add]
      rw [sentPieces, if_pos rfl, Notice.pieces, header, htmlPieces_ampersandDetails, entities,
        List.append_assoc, List.cons_append]
    refine ⟨_, _, _, rest, chunks, _, .amp, _, pieces, ?_, ?_⟩
    · rw [size, bytesOf_append, List.length_append, bytesOf_cons, List.length_append,
        length_bytesOf_replicate, bytesOf_plainPieces]
      decide +kernel
    · rw [size, bytesOf_append, List.length_append, bytesOf_cons, List.length_append,
        length_bytesOf_replicate, bytesOf_plainPieces]
      decide +kernel

end ContestSync.Telegram
