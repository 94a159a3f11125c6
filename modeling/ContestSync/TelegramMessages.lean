/-
The messages for Telegram. Every text from outside goes through `EscapeHTML`, which
drops what is not UTF-8 and writes three characters as entities. A message is therefore
a sequence of pieces, each a character as it is or an entity.
-/

import ContestSync.Utf8
import ContestSync.MessageSplitting
import Mathlib.Data.List.Infix

namespace ContestSync.Telegram

def literal (text : String) : Bytes :=
  Utf8.encode text.toList

theorem literal_append (first second : String) :
    literal (first ++ second) = literal first ++ literal second := by
  rw [literal, String.toList_append, Utf8.encode_append]
  rfl

/-- `strings.ReplaceAll` with a pattern of one byte. -/
def replaceByte (old : UInt8) (new : Bytes) (text : Bytes) : Bytes :=
  text.flatMap (fun byte => if byte = old then new else [byte])

def escapeHTML (text : Bytes) : Bytes :=
  -- `strings.ToValidUTF8(text, "")`
  let text := Utf8.encode (Utf8.decode text)
  let text := replaceByte 0 [] text
  let text := replaceByte 38 (literal "&amp;") text
  let text := replaceByte 60 (literal "&lt;") text
  replaceByte 62 (literal "&gt;") text

/-! ### The handler and the events -/

/-- `Level.String` of `log/slog`. -/
def levelText (level : Int) : String :=
  let named (base : String) (offset : Int) : String :=
    if offset = 0 then base
    else if 0 < offset then base ++ "+" ++ toString offset
    else base ++ toString offset
  if level < 0 then named "DEBUG" (level + 4)
  else if level < 4 then named "INFO" level
  else if level < 8 then named "WARN" (level - 4)
  else named "ERROR" (level - 8)

/-- `value` is the attribute's value as `%v` prints it. -/
structure Attr where
  key : Bytes
  value : Bytes

structure Record where
  level : Int
  message : Bytes
  attrs : List Attr

def Attr.line (attr : Attr) : Bytes :=
  literal "<code>" ++ escapeHTML attr.key ++ literal ": " ++ escapeHTML attr.value ++
    literal "</code>\n"

def Record.text (record : Record) : Bytes :=
  literal ("<b>[" ++ levelText record.level ++ "]</b> ") ++ escapeHTML record.message ++
    literal "\n\n" ++ record.attrs.flatMap Attr.line

/-- The message that a handler with a queue offers to it, once the next handler has
taken the record. -/
def handle (toLower : Bytes → Bytes) (record : Record) : Option Bytes :=
  if 4 ≤ record.level then
    let msgLower := toLower record.message
    if literal "telegram" <:+: msgLower ∨ literal "dropped system event" <:+: msgLower then none
    else some record.text
  else none

/-- The message of `TriggerSystemEvent`. -/
def systemEventText (event details : Bytes) : Bytes :=
  literal "<b>[SYSTEM EVENT - " ++ escapeHTML event ++ literal "]</b>\n\n" ++ escapeHTML details

/-- The text that `Send` splits; `source` is the client's `From`. -/
def sentText (source message : Bytes) : Bytes :=
  if source = [] then message
  else literal "<b>[Instance: " ++ escapeHTML source ++ literal "]</b>\n" ++ message

/-- `SplitMessage(message, 4000)`. -/
def messageChunks (text : Bytes) : List Bytes :=
  (splitLoop 4000 (text.length + 1) text).getD []

theorem splitLoop_eq_messageChunks {text : Bytes} {fuel : Nat} (enough : text.length < fuel) :
    splitLoop 4000 fuel text = some (messageChunks text) := by
  obtain ⟨chunks, ends⟩ := splitLoop_ends (by decide : 1 ≤ 4000) text
  rw [messageChunks, ends _ (Nat.lt_succ_self _), ends fuel enough]
  rfl

theorem splitLoop_messageChunks (text : Bytes) :
    splitLoop 4000 (text.length + 1) text = some (messageChunks text) :=
  splitLoop_eq_messageChunks (Nat.lt_succ_self _)

theorem messageChunks_short {text : Bytes} (short : text.length ≤ 4000) :
    messageChunks text = [text] := by
  rw [messageChunks, splitLoop_short (Nat.not_lt.mpr short)]
  rfl

theorem messageChunks_long {text : Bytes} (long : 4000 < text.length) :
    messageChunks text =
      text.take (cutIndex text 4000) :: messageChunks (text.drop (cutIndex text 4000)) := by
  have more := cutIndex_pos (by decide : 1 ≤ 4000) long
  rw [messageChunks, splitLoop_long long, splitLoop_eq_messageChunks]
  · rfl
  · rw [List.length_drop]
    omega

/-! ### Pieces -/

inductive Entity where
  | amp
  | lt
  | gt
deriving DecidableEq

def Entity.bytes : Entity → Bytes
  | .amp => literal "&amp;"
  | .lt => literal "&lt;"
  | .gt => literal "&gt;"

inductive Piece where
  | plain (char : Char)
  | escaped (entity : Entity)
deriving DecidableEq

def Piece.bytes : Piece → Bytes
  | .plain char => String.utf8EncodeChar char
  | .escaped entity => entity.bytes

def bytesOf (pieces : List Piece) : Bytes :=
  pieces.flatMap Piece.bytes

def plainPieces (text : String) : List Piece :=
  text.toList.map .plain

/-- What `EscapeHTML` makes of a character. -/
def escapedPieces (char : Char) : List Piece :=
  if char = '\x00' then []
  else if char = '&' then [.escaped .amp]
  else if char = '<' then [.escaped .lt]
  else if char = '>' then [.escaped .gt]
  else [.plain char]

def htmlPieces (text : Bytes) : List Piece :=
  (Utf8.decode text).flatMap escapedPieces

@[simp] theorem bytesOf_append (first second : List Piece) :
    bytesOf (first ++ second) = bytesOf first ++ bytesOf second :=
  List.flatMap_append

@[simp] theorem bytesOf_cons (piece : Piece) (pieces : List Piece) :
    bytesOf (piece :: pieces) = piece.bytes ++ bytesOf pieces :=
  rfl

@[simp] theorem bytesOf_flatMap {α : Type} (items : List α) (pieces : α → List Piece) :
    bytesOf (items.flatMap pieces) = items.flatMap (fun item => bytesOf (pieces item)) :=
  List.flatMap_assoc

@[simp] theorem bytesOf_plainPieces (text : String) :
    bytesOf (plainPieces text) = literal text :=
  List.flatMap_map _ _ _

theorem replaceByte_append (old : UInt8) (new first second : Bytes) :
    replaceByte old new (first ++ second) =
      replaceByte old new first ++ replaceByte old new second :=
  List.flatMap_append

theorem replaceByte_of_notMem {old : UInt8} {new text : Bytes} (absent : old ∉ text) :
    replaceByte old new text = text := by
  induction text with
  | nil => rfl
  | cons byte text ih =>
    rw [List.mem_cons, not_or] at absent
    have rest := ih absent.2
    rw [replaceByte] at rest ⊢
    rw [List.flatMap_cons, if_neg (Ne.symm absent.1), rest]
    rfl

/-- The four replacements, one after the other. -/
def replaceHTML (text : Bytes) : Bytes :=
  replaceByte 62 (literal "&gt;") (replaceByte 60 (literal "&lt;")
    (replaceByte 38 (literal "&amp;") (replaceByte 0 [] text)))

theorem replaceHTML_append (first second : Bytes) :
    replaceHTML (first ++ second) = replaceHTML first ++ replaceHTML second := by
  simp only [replaceHTML, replaceByte_append]

theorem replaceHTML_special {char : Char} (special : char ∈ ['\x00', '&', '<', '>']) :
    replaceHTML (String.utf8EncodeChar char) = bytesOf (escapedPieces char) := by
  simp only [List.mem_cons, List.not_mem_nil, or_false] at special
  rcases special with rfl | rfl | rfl | rfl <;> decide +kernel

theorem replaceHTML_encodeChar (char : Char) :
    replaceHTML (String.utf8EncodeChar char) = bytesOf (escapedPieces char) := by
  by_cases special : char ∈ ['\x00', '&', '<', '>']
  · exact replaceHTML_special special
  · simp only [List.mem_cons, List.not_mem_nil, or_false, not_or] at special
    obtain ⟨zero, amp, lt, gt⟩ := special
    rw [escapedPieces, if_neg zero, if_neg amp, if_neg lt, if_neg gt, replaceHTML,
      replaceByte_of_notMem (Utf8.notMem_encodeChar (by decide) (by decide) zero),
      replaceByte_of_notMem (Utf8.notMem_encodeChar (by decide) (by decide) amp),
      replaceByte_of_notMem (Utf8.notMem_encodeChar (by decide) (by decide) lt),
      replaceByte_of_notMem (Utf8.notMem_encodeChar (by decide) (by decide) gt)]
    exact (List.append_nil _).symm

theorem escapeHTML_eq (text : Bytes) : escapeHTML text = bytesOf (htmlPieces text) := by
  have chars : ∀ chars, replaceHTML (Utf8.encode chars) =
      bytesOf (chars.flatMap escapedPieces) := by
    intro chars
    induction chars with
    | nil => rfl
    | cons char chars ih =>
      rw [Utf8.encode_cons, replaceHTML_append, replaceHTML_encodeChar, ih,
        List.flatMap_cons, bytesOf_append]
  exact chars (Utf8.decode text)

/-! ### The pieces of a message -/

/-- What is put in the queue. -/
inductive Notice where
  | logged (record : Record)
  | triggered (event details : Bytes)

def Notice.text : Notice → Bytes
  | .logged record => record.text
  | .triggered event details => systemEventText event details

theorem handle_notice {toLower : Bytes → Bytes} {record : Record} {text : Bytes}
    (handled : handle toLower record = some text) :
    4 ≤ record.level ∧ text = (Notice.logged record).text := by
  unfold handle at handled
  split at handled
  · rename_i severe
    simp only at handled
    split at handled
    · cases handled
    · cases handled
      exact ⟨severe, rfl⟩
  · cases handled

def Attr.pieces (attr : Attr) : List Piece :=
  plainPieces "<code>" ++ htmlPieces attr.key ++ plainPieces ": " ++ htmlPieces attr.value ++
    plainPieces "</code>\n"

def Notice.pieces : Notice → List Piece
  | .logged record =>
    plainPieces ("<b>[" ++ levelText record.level ++ "]</b> ") ++ htmlPieces record.message ++
      plainPieces "\n\n" ++ record.attrs.flatMap Attr.pieces
  | .triggered event details =>
    plainPieces "<b>[SYSTEM EVENT - " ++ htmlPieces event ++ plainPieces "]</b>\n\n" ++
      htmlPieces details

def sentPieces (source : Bytes) (notice : Notice) : List Piece :=
  if source = [] then notice.pieces
  else
    plainPieces "<b>[Instance: " ++ htmlPieces source ++ plainPieces "]</b>\n" ++ notice.pieces

theorem Attr.line_eq (attr : Attr) : attr.line = bytesOf attr.pieces := by
  simp only [Attr.line, Attr.pieces, bytesOf_append, bytesOf_plainPieces, escapeHTML_eq]

theorem Notice.text_eq (notice : Notice) : notice.text = bytesOf notice.pieces := by
  cases notice with
  | logged record =>
    simp only [Notice.text, Record.text, Notice.pieces, bytesOf_append, bytesOf_plainPieces,
      bytesOf_flatMap, escapeHTML_eq, ← Attr.line_eq]
  | triggered event details =>
    simp only [Notice.text, systemEventText, Notice.pieces, bytesOf_append,
      bytesOf_plainPieces, escapeHTML_eq]

theorem sentText_eq (source : Bytes) (notice : Notice) :
    sentText source notice.text = bytesOf (sentPieces source notice) := by
  unfold sentText sentPieces
  split
  · exact notice.text_eq
  · simp only [bytesOf_append, bytesOf_plainPieces, escapeHTML_eq, notice.text_eq]

end ContestSync.Telegram
