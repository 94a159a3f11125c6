/-
Characters as bytes. The encoding of a character is never the start of the encoding of
another one, so that a part of a valid text is valid exactly when it starts and ends
between two characters. A byte below 128 stands for itself.
-/

import Mathlib.Data.List.Basic

namespace Utf8

def encode (chars : List Char) : List UInt8 :=
  chars.flatMap String.utf8EncodeChar

def Valid (bytes : List UInt8) : Prop :=
  ∃ chars, encode chars = bytes

section Encoding

variable {char other : Char} {chars first whole : List Char} {bytes rest : List UInt8}

@[simp] theorem encode_nil : encode [] = [] :=
  rfl

@[simp] theorem encode_cons (char : Char) (chars : List Char) :
    encode (char :: chars) = String.utf8EncodeChar char ++ encode chars :=
  rfl

@[simp] theorem encode_append (first second : List Char) :
    encode (first ++ second) = encode first ++ encode second :=
  List.flatMap_append

theorem valid_encode (chars : List Char) : Valid (encode chars) :=
  ⟨chars, rfl⟩

theorem encodeChar_length_pos (char : Char) : 0 < (String.utf8EncodeChar char).length := by
  rw [String.length_utf8EncodeChar]
  exact char.utf8Size_pos

theorem encodeChar_cancel {others : List UInt8}
    (same : String.utf8EncodeChar char ++ rest = String.utf8EncodeChar other ++ others) :
    char = other ∧ rest = others := by
  have decoded := congrArg (fun bytes => bytes.toByteArray.utf8DecodeChar? 0) same
  simp only [List.toByteArray_append, ByteArray.utf8DecodeChar?_utf8EncodeChar_append,
    Option.some.injEq] at decoded
  subst decoded
  exact ⟨rfl, List.append_cancel_left same⟩

theorem encode_cancel (same : encode first ++ rest = encode whole) :
    ∃ after, whole = first ++ after ∧ rest = encode after := by
  induction first generalizing whole with
  | nil => exact ⟨whole, rfl, same⟩
  | cons char first ih =>
    cases whole with
    | nil =>
      have size := congrArg List.length same
      have positive := encodeChar_length_pos char
      simp only [encode_cons, encode_nil, List.length_append, List.length_nil] at size
      omega
    | cons other whole =>
      rw [encode_cons, encode_cons, List.append_assoc] at same
      obtain ⟨head, tail⟩ := encodeChar_cancel same
      obtain ⟨after, parts, encoded⟩ := ih tail
      exact ⟨after, by rw [head, parts, List.cons_append], encoded⟩

variable {left : List UInt8} {byte : UInt8} {ascii : Char}

theorem Valid.append {right : List UInt8} (first : Valid left) (second : Valid right) :
    Valid (left ++ right) := by
  obtain ⟨before, encoded⟩ := first
  obtain ⟨after, encodedAfter⟩ := second
  exact ⟨before ++ after, by rw [encode_append, encoded, encodedAfter]⟩

theorem Valid.right {right : List UInt8} (first : Valid left)
    (both : Valid (left ++ right)) : Valid right := by
  obtain ⟨before, encoded⟩ := first
  obtain ⟨chars, whole⟩ := both
  rw [← encoded] at whole
  obtain ⟨after, _, rest⟩ := encode_cancel whole.symm
  exact ⟨after, rest.symm⟩

theorem Valid.flatten {parts : List (List UInt8)} (valid : ∀ part ∈ parts, Valid part) :
    Valid parts.flatten := by
  induction parts with
  | nil => exact ⟨[], rfl⟩
  | cons part parts ih =>
    rw [List.forall_mem_cons] at valid
    exact valid.1.append (ih valid.2)

theorem not_valid_inside (start : bytes ≠ []) (inside : bytes ++ rest = String.utf8EncodeChar char)
    (more : rest ≠ []) : ¬Valid bytes := by
  intro valid
  obtain ⟨chars, encoded⟩ := valid
  cases chars with
  | nil => exact start encoded.symm
  | cons other chars =>
    rw [← encoded, encode_cons, List.append_assoc] at inside
    have same : String.utf8EncodeChar other ++ (encode chars ++ rest) =
        String.utf8EncodeChar char ++ [] := by
      rw [inside, List.append_nil]
    have empty := (encodeChar_cancel same).2
    exact more (List.append_eq_nil_iff.mp empty).2

theorem not_ascii {value : Nat} (large : 128 ≤ value) (byteSized : value < 256) :
    ¬(UInt8.ofNat value).toNat < 128 := by
  rw [UInt8.toNat_ofNat']
  omega

theorem encodeChar_of_ascii (member : byte ∈ String.utf8EncodeChar char)
    (small : byte.toNat < 128) : String.utf8EncodeChar char = [byte] := by
  refine String.utf8EncodeChar.fun_cases_unfolding char
    (fun bytes => byte ∈ bytes → bytes = [byte]) ?_ ?_ ?_ ?_ member
  · intro value _ own
    rw [List.mem_singleton.mp own]
  -- The bytes of a longer encoding are all above.
  all_goals
    intros
    rename_i own
    simp only [List.mem_cons, List.not_mem_nil, or_false] at own
    exfalso
    rcases own with same | own
    · rw [same] at small
      exact not_ascii (by omega) (by omega) small
  · rw [own] at small
    exact not_ascii (by omega) (by omega) small
  · rcases own with same | same
    all_goals
      rw [same] at small
      exact not_ascii (by omega) (by omega) small
  · rcases own with same | same | same
    all_goals
      rw [same] at small
      exact not_ascii (by omega) (by omega) small

theorem notMem_encodeChar
    (encoded : String.utf8EncodeChar ascii = [byte]) (small : byte.toNat < 128)
    (different : char ≠ ascii) : byte ∉ String.utf8EncodeChar char := by
  intro member
  have same := encodeChar_of_ascii member small
  rw [← encoded] at same
  have equal : String.utf8EncodeChar char ++ [] = String.utf8EncodeChar ascii ++ [] := by
    rw [same]
  exact different (encodeChar_cancel equal).1

theorem notMem_encode (encoded : String.utf8EncodeChar ascii = [byte]) (small : byte.toNat < 128)
    (absent : ascii ∉ chars) : byte ∉ encode chars := by
  intro member
  obtain ⟨char, present, inside⟩ := List.mem_flatMap.mp member
  by_cases same : char = ascii
  · rw [same] at present
    exact absent present
  · exact notMem_encodeChar encoded small same inside

end Encoding

/-! ### Reading bytes that may not be valid -/

def decodeFirst (bytes : List UInt8) : Option Char :=
  bytes.toByteArray.utf8DecodeChar? 0

/-- The characters of a text after `skip` bytes, without the bytes that start none. -/
def decodeFrom (skip : Nat) : List UInt8 → List Char
  | [] => []
  | byte :: rest =>
    match skip with
    | skip + 1 => decodeFrom skip rest
    | 0 =>
      match decodeFirst (byte :: rest) with
      | some char => char :: decodeFrom (char.utf8Size - 1) rest
      | none => decodeFrom 0 rest

def decode (bytes : List UInt8) : List Char :=
  decodeFrom 0 bytes

/-- The characters of a text after `skip` bytes, with the replacement for each byte that
starts none. -/
def runesFrom (replacement : List Char) (skip : Nat) : List UInt8 → List Char
  | [] => []
  | byte :: rest =>
    match skip with
    | skip + 1 => runesFrom replacement skip rest
    | 0 =>
      match decodeFirst (byte :: rest) with
      | some char => char :: runesFrom replacement (char.utf8Size - 1) rest
      | none => replacement ++ runesFrom replacement 0 rest

/-- A Go loop over the runes of a string. -/
def runes (bytes : List UInt8) : List Char :=
  runesFrom ['\uFFFD'] 0 bytes

theorem decodeFrom_eq (skip : Nat) (bytes : List UInt8) :
    decodeFrom skip bytes = runesFrom [] skip bytes := by
  induction bytes generalizing skip with
  | nil => rfl
  | cons byte rest ih =>
    cases skip with
    | succ skip => exact ih skip
    | zero =>
      rw [decodeFrom, runesFrom]
      cases decodeFirst (byte :: rest) with
      | some char => simp only [ih]
      | none => simp only [ih, List.nil_append]

theorem runesFrom_append (replacement : List Char) (skipped rest : List UInt8) :
    runesFrom replacement skipped.length (skipped ++ rest) = runesFrom replacement 0 rest := by
  induction skipped with
  | nil => rfl
  | cons byte skipped ih => exact ih

theorem decodeFirst_encodeChar (char : Char) (rest : List UInt8) :
    decodeFirst (String.utf8EncodeChar char ++ rest) = some char := by
  rw [decodeFirst, List.toByteArray_append]
  exact ByteArray.utf8DecodeChar?_utf8EncodeChar_append

theorem runesFrom_encodeChar (replacement : List Char) (char : Char) (rest : List UInt8) :
    runesFrom replacement 0 (String.utf8EncodeChar char ++ rest) =
      char :: runesFrom replacement 0 rest := by
  have first := decodeFirst_encodeChar char rest
  have size := String.length_utf8EncodeChar char
  cases bytes : String.utf8EncodeChar char with
  | nil =>
    have positive := encodeChar_length_pos char
    rw [bytes] at positive
    exact absurd positive (Nat.lt_irrefl 0)
  | cons byte others =>
    rw [bytes] at first size
    rw [List.length_cons] at size
    have more : char.utf8Size - 1 = others.length := by omega
    rw [List.cons_append] at first ⊢
    rw [runesFrom, first]
    simp only
    rw [more, runesFrom_append]

theorem runesFrom_encode (replacement chars : List Char) :
    runesFrom replacement 0 (encode chars) = chars := by
  induction chars with
  | nil => rfl
  | cons char chars ih => rw [encode_cons, runesFrom_encodeChar, ih]

theorem runes_encode (chars : List Char) : runes (encode chars) = chars :=
  runesFrom_encode ['\uFFFD'] chars

theorem decode_encode (chars : List Char) : decode (encode chars) = chars := by
  rw [decode, decodeFrom_eq]
  exact runesFrom_encode [] chars

theorem decode_encodeChar (char : Char) (rest : List UInt8) :
    decode (String.utf8EncodeChar char ++ rest) = char :: decode rest := by
  rw [decode, decodeFrom_eq, runesFrom_encodeChar, decode, decodeFrom_eq]

/-- A text read from left to right: characters, and single bytes with which none starts. -/
inductive Reads : List UInt8 → List Char → Prop where
  | done : Reads [] []
  | char {rest : List UInt8} {chars : List Char} (char : Char) (read : Reads rest chars) :
      Reads (String.utf8EncodeChar char ++ rest) (char :: chars)
  | stray {byte : UInt8} {rest : List UInt8} {chars : List Char}
      (starts : ∀ char more, byte :: rest ≠ String.utf8EncodeChar char ++ more)
      (read : Reads rest chars) : Reads (byte :: rest) chars

variable {bytes : List UInt8}

theorem decodeFirst_eq_some {char : Char} (found : decodeFirst bytes = some char) :
    ∃ rest, bytes = String.utf8EncodeChar char ++ rest := by
  obtain ⟨rest, parts⟩ := ByteArray.exists_of_utf8DecodeChar?_eq_some found
  refine ⟨rest.data.toList, ?_⟩
  have arrays : bytes.toByteArray =
      (String.utf8EncodeChar char ++ rest.data.toList).toByteArray := by
    rw [parts, List.toByteArray_append]
    congr 1
    apply ByteArray.ext
    rw [List.data_toByteArray, Array.toArray_toList]
  exact List.toByteArray_inj.mp arrays

theorem decodeFirst_eq_none (starts : ∀ char more, bytes ≠ String.utf8EncodeChar char ++ more) :
    decodeFirst bytes = none := by
  cases found : decodeFirst bytes with
  | none => rfl
  | some char =>
    obtain ⟨more, parts⟩ := decodeFirst_eq_some found
    exact absurd parts (starts char more)

theorem decode_cons_of_none {byte : UInt8} {rest : List UInt8}
    (none : decodeFirst (byte :: rest) = none) : decode (byte :: rest) = decode rest := by
  rw [decode, decodeFrom, none]
  rfl

theorem reads_iff {chars : List Char} :
    Reads bytes chars ↔ decode bytes = chars := by
  constructor
  · intro read
    induction read with
    | done => rfl
    | char char _ ih => rw [decode_encodeChar, ih]
    | stray starts _ ih => rw [decode_cons_of_none (decodeFirst_eq_none starts), ih]
  · -- each round leaves a shorter text, after a character by the bytes of that character
    rintro rfl
    generalize size : bytes.length = length
    induction length using Nat.strongRecOn generalizing bytes with
    | ind length ih =>
      cases bytes with
      | nil => exact .done
      | cons byte rest =>
        cases found : decodeFirst (byte :: rest) with
        | some char =>
          obtain ⟨more, parts⟩ := decodeFirst_eq_some found
          have positive := encodeChar_length_pos char
          have shorter : more.length < length := by
            rw [parts, List.length_append] at size
            omega
          rw [parts, decode_encodeChar]
          exact .char char (ih more.length shorter rfl)
        | none =>
          rw [decode_cons_of_none found]
          refine .stray ?_ (ih rest.length (by rw [← size]; exact Nat.lt_succ_self _) rfl)
          intro char more parts
          rw [parts, decodeFirst_encodeChar] at found
          cases found

end Utf8
