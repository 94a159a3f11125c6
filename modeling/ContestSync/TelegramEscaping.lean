/-
Escaping for Telegram, read back. There are two copies of it: `EscapeHTML` for the log
messages, which first drops what is not UTF-8 and every NUL, and `EscapeTelegramHTML` for the
messages about a sync, which does not. Replacing the entities from left to right undoes the
replacements, also where the text had entities before.
-/

import ContestSync.TelegramMessages

namespace ContestSync.Telegram

/-- `sync.EscapeTelegramHTML`. -/
def escapeTelegramHTML (text : Bytes) : Bytes :=
  let text := replaceByte 38 (literal "&amp;") text
  let text := replaceByte 60 (literal "&lt;") text
  replaceByte 62 (literal "&gt;") text

/-! ### Reading entities -/

def Entity.byte : Entity → UInt8
  | .amp => 38
  | .lt => 60
  | .gt => 62

def entityAt (text : Bytes) : Option Entity :=
  [Entity.amp, .lt, .gt].find? (fun entity => entity.bytes.isPrefixOf text)

/-- The text after `skip` bytes, with each entity replaced by its byte. -/
def unescapeFrom (skip : Nat) : Bytes → Bytes
  | [] => []
  | byte :: rest =>
    match skip with
    | skip + 1 => unescapeFrom skip rest
    | 0 =>
      match entityAt (byte :: rest) with
      | some entity => entity.byte :: unescapeFrom (entity.bytes.length - 1) rest
      | none => byte :: unescapeFrom 0 rest

def unescapeHTML (text : Bytes) : Bytes :=
  unescapeFrom 0 text

theorem Entity.bytes_eq (entity : Entity) : ∃ name, entity.bytes = 38 :: name ∧ 38 ∉ name := by
  cases entity with
  | amp => exact ⟨[97, 109, 112, 59], by decide, by decide⟩
  | lt => exact ⟨[108, 116, 59], by decide, by decide⟩
  | gt => exact ⟨[103, 116, 59], by decide, by decide⟩

/-- The ampersand, the semicolon and the letters of the names. -/
def entityBytes : Bytes :=
  literal "&;ampltg"

variable {byte : UInt8} {text : Bytes}

theorem Entity.notMem_bytes (other : byte ∉ entityBytes) (entity : Entity) :
    byte ∉ entity.bytes := by
  have inside : entity.bytes.all (fun byte => entityBytes.contains byte) = true := by
    cases entity <;> decide
  intro member
  have listed := List.all_eq_true.mp inside byte member
  exact other (List.contains_iff_mem.mp listed)

theorem entityAt_bytes (entity : Entity) (rest : Bytes) :
    entityAt (entity.bytes ++ rest) = some entity := by
  cases entity <;> rfl

theorem entityAt_of_ne (different : byte ≠ 38) (rest : Bytes) :
    entityAt (byte :: rest) = none := by
  rw [entityAt, List.find?_eq_none]
  intro entity _
  obtain ⟨name, bytes, _⟩ := entity.bytes_eq
  rw [bytes, List.isPrefixOf_cons_cons]
  simp [Ne.symm different]

theorem unescapeFrom_append (skipped rest : Bytes) :
    unescapeFrom skipped.length (skipped ++ rest) = unescapeHTML rest := by
  induction skipped with
  | nil => rfl
  | cons byte skipped ih => exact ih

theorem unescapeHTML_entity (entity : Entity) (rest : Bytes) :
    unescapeHTML (entity.bytes ++ rest) = entity.byte :: unescapeHTML rest := by
  have found := entityAt_bytes entity rest
  obtain ⟨name, bytes, _⟩ := entity.bytes_eq
  have size : entity.bytes.length - 1 = name.length := by
    rw [bytes]
    rfl
  rw [bytes, List.cons_append] at found ⊢
  rw [unescapeHTML, unescapeFrom, found]
  simp only
  rw [size, unescapeFrom_append]

theorem unescapeHTML_plain (plain : 38 ∉ text) (rest : Bytes) :
    unescapeHTML (text ++ rest) = text ++ unescapeHTML rest := by
  induction text with
  | nil => rfl
  | cons byte text ih =>
    rw [List.mem_cons, not_or] at plain
    have none := entityAt_of_ne (Ne.symm plain.1) (text ++ rest)
    rw [List.cons_append, unescapeHTML, unescapeFrom, none]
    simp only
    rw [List.cons_append, ← ih plain.2]
    rfl

/-! ### Pieces without special characters -/

def special : List Char :=
  ['\x00', '&', '<', '>']

/-- A piece that `EscapeHTML` makes: no special character is left as it is. -/
def Piece.Clean : Piece → Prop
  | .plain char => char ∉ special
  | .escaped _ => True

def Piece.meaning : Piece → Bytes
  | .plain char => String.utf8EncodeChar char
  | .escaped entity => [entity.byte]

theorem clean_of_mem_htmlPieces {piece : Piece} (member : piece ∈ htmlPieces text) :
    piece.Clean := by
  obtain ⟨char, _, made⟩ := List.mem_flatMap.mp member
  unfold escapedPieces at made
  split at made
  · cases made
  split at made
  · rw [List.mem_singleton.mp made]
    trivial
  split at made
  · rw [List.mem_singleton.mp made]
    trivial
  split at made
  · rw [List.mem_singleton.mp made]
    trivial
  · rename_i zero amp lt gt
    rw [List.mem_singleton.mp made]
    change char ∉ special
    simp [special, zero, amp, lt, gt]

theorem meaning_escapedPieces (char : Char) :
    (escapedPieces char).flatMap Piece.meaning =
      if char = '\x00' then [] else String.utf8EncodeChar char := by
  unfold escapedPieces
  split
  · rfl
  split
  · rename_i amp
    rw [amp]
    decide
  split
  · rename_i lt
    rw [lt]
    decide
  split
  · rename_i gt
    rw [gt]
    decide
  · exact List.append_nil _

theorem Piece.Clean.notMem_plain {char ascii : Char}
    (clean : (Piece.plain char).Clean) (isSpecial : ascii ∈ special)
    (encoded : String.utf8EncodeChar ascii = [byte]) (small : byte.toNat < 128) :
    byte ∉ String.utf8EncodeChar char := by
  apply Utf8.notMem_encodeChar encoded small
  intro same
  rw [same] at clean
  exact clean isSpecial

section Clean

variable {piece : Piece} (clean : piece.Clean)

include clean

theorem Piece.Clean.notMem {char : Char} {byte : UInt8} (isSpecial : char ∈ special)
    (encoded : String.utf8EncodeChar char = [byte]) (small : byte.toNat < 128)
    (other : byte ∉ entityBytes) : byte ∉ piece.bytes := by
  cases piece with
  | plain plain => exact clean.notMem_plain isSpecial encoded small
  | escaped entity => exact entity.notMem_bytes other

theorem Piece.Clean.unescapeHTML (rest : Bytes) :
    unescapeHTML (piece.bytes ++ rest) = piece.meaning ++ unescapeHTML rest := by
  cases piece with
  | plain char =>
    have ampersand : '&' ∈ special := by decide
    exact unescapeHTML_plain (clean.notMem_plain ampersand (by decide) (by decide)) rest
  | escaped entity => exact unescapeHTML_entity entity rest

theorem Piece.Clean.ampersand {before after : Bytes} (split : piece.bytes = before ++ 38 :: after) :
    before = [] ∧ ∃ entity : Entity, piece = .escaped entity := by
  cases piece with
  | plain char =>
    exfalso
    have member : (38 : UInt8) ∈ String.utf8EncodeChar char := by
      change String.utf8EncodeChar char = before ++ 38 :: after at split
      rw [split]
      exact List.mem_append_right before List.mem_cons_self
    have ampersand : '&' ∈ special := by decide
    exact clean.notMem_plain ampersand (by decide) (by decide) member
  | escaped entity =>
    refine ⟨?_, entity, rfl⟩
    obtain ⟨name, bytes, once⟩ := entity.bytes_eq
    change entity.bytes = before ++ 38 :: after at split
    rw [bytes] at split
    cases before with
    | nil => rfl
    | cons byte before =>
      exfalso
      apply once
      rw [(List.cons.inj split).2]
      exact List.mem_append_right before List.mem_cons_self

end Clean

section Pieces

variable {pieces : List Piece}

theorem unescapeHTML_bytesOf (clean : ∀ piece ∈ pieces, piece.Clean) :
    unescapeHTML (bytesOf pieces) = pieces.flatMap Piece.meaning := by
  induction pieces with
  | nil => rfl
  | cons piece pieces ih =>
    rw [List.forall_mem_cons] at clean
    rw [bytesOf_cons, clean.1.unescapeHTML, ih clean.2, List.flatMap_cons]

theorem ampersand_bytesOf (clean : ∀ piece ∈ pieces, piece.Clean) {before after : Bytes}
    (split : bytesOf pieces = before ++ 38 :: after) :
    ∃ entity : Entity, entity.bytes <+: 38 :: after := by
  induction pieces generalizing before with
  | nil =>
    have empty := List.append_eq_nil_iff.mp split.symm
    cases empty.2
  | cons piece pieces ih =>
    rw [List.forall_mem_cons] at clean
    rw [bytesOf_cons] at split
    rcases List.append_eq_append_iff.mp split with ⟨inside, _, later⟩ | ⟨inside, own, rest⟩
    · exact ih clean.2 later
    · cases inside with
      | nil =>
        have later : bytesOf pieces = [] ++ 38 :: after := rest.symm
        exact ih clean.2 later
      | cons byte inside =>
        obtain ⟨same, tail⟩ := List.cons.inj rest
        subst same
        obtain ⟨first, entity, escaped⟩ := clean.1.ampersand own
        subst escaped first
        refine ⟨entity, bytesOf pieces, ?_⟩
        change entity.bytes = 38 :: inside at own
        rw [own, tail]
        rfl

end Pieces

/-! ### Both escapes -/

theorem notMem_escapeHTML (char : Char) (isSpecial : char ∈ special)
    (encoded : String.utf8EncodeChar char = [byte]) (small : byte.toNat < 128)
    (other : byte ∉ entityBytes) : byte ∉ escapeHTML text := by
  rw [escapeHTML_eq]
  intro member
  obtain ⟨piece, made, inside⟩ := List.mem_flatMap.mp member
  exact (clean_of_mem_htmlPieces made).notMem isSpecial encoded small other inside

theorem unescapeHTML_escapeHTML (text : Bytes) :
    unescapeHTML (escapeHTML text) =
      Utf8.encode ((Utf8.decode text).filter (fun char => char ≠ '\x00')) := by
  rw [escapeHTML_eq, unescapeHTML_bytesOf (fun _ => clean_of_mem_htmlPieces), htmlPieces,
    List.flatMap_assoc]
  simp only [meaning_escapedPieces]
  induction Utf8.decode text with
  | nil => rfl
  | cons char chars ih =>
    rw [List.flatMap_cons, ih]
    by_cases zero : char = '\x00'
    · rw [if_pos zero, List.filter_cons_of_neg (by simp [zero])]
      rfl
    · rw [if_neg zero, List.filter_cons_of_pos (by simp [zero]), Utf8.encode_cons]

theorem escapeTelegramHTML_eq (valid : Utf8.Valid text) (noZero : 0 ∉ text) :
    escapeTelegramHTML text = escapeHTML text := by
  obtain ⟨chars, rfl⟩ := valid
  rw [escapeHTML, Utf8.decode_encode, replaceByte_of_notMem noZero]
  rfl

/-- The escaped text has no special bytes but the ampersands of entities, and reading the
entities gives the text without stray bytes and NULs. The second copy agrees where there is
nothing to drop. -/
theorem escapeHTML_invertible (text : Bytes) :
    (60 ∉ escapeHTML text ∧ 62 ∉ escapeHTML text ∧ 0 ∉ escapeHTML text) ∧
    (∀ before after, escapeHTML text = before ++ 38 :: after →
      ∃ entity : Entity, entity.bytes <+: 38 :: after) ∧
    (∃ chars, Utf8.Reads text chars) ∧
    (∀ chars, Utf8.Reads text chars → unescapeHTML (escapeHTML text) =
        Utf8.encode (chars.filter (fun char => char ≠ '\x00'))) ∧
    (Utf8.Valid text → 0 ∉ text → escapeTelegramHTML text = escapeHTML text) := by
  refine ⟨⟨?_, ?_, ?_⟩, ?_, ?_, ?_, escapeTelegramHTML_eq⟩
  · exact notMem_escapeHTML '<' (by decide) (by decide) (by decide) (by decide)
  · exact notMem_escapeHTML '>' (by decide) (by decide) (by decide) (by decide)
  · exact notMem_escapeHTML '\x00' (by decide) (by decide) (by decide) (by decide)
  · intro before after split
    rw [escapeHTML_eq] at split
    exact ampersand_bytesOf (fun _ => clean_of_mem_htmlPieces) split
  · exact ⟨_, Utf8.reads_iff.mpr rfl⟩
  · intro chars read
    rw [unescapeHTML_escapeHTML, Utf8.reads_iff.mp read]

/-- A text that has an entity before it is escaped. -/
theorem escapeHTML_invertible_entity :
    escapeTelegramHTML (literal "1 &lt; 2 < é") = escapeHTML (literal "1 &lt; 2 < é") ∧
      escapeHTML (literal "1 &lt; 2 < é") = literal "1 &amp;lt; 2 &lt; é" := by
  obtain ⟨_, _, _, _, same⟩ := escapeHTML_invertible (literal "1 &lt; 2 < é")
  have agree := same (Utf8.valid_encode _) (by decide)
  refine ⟨agree, ?_⟩
  rw [← agree]
  decide

end ContestSync.Telegram
