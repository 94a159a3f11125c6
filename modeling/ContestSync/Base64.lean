/-
The standard base64 encoding with padding, on bytes. Three bytes are four symbols; a last
group of one or two bytes is filled up with `=`. Reading drops line ends anywhere, and the
bits that padding cuts off may have any value, so that many texts stand for the same bytes.
-/

import Mathlib.Data.Nat.Notation

namespace Base64

abbrev Bytes := List UInt8

/-! ### The alphabet -/

def symbol (value : Nat) : UInt8 :=
  UInt8.ofNat
    (if value < 26 then 65 + value
    else if value < 52 then 71 + value
    else if value < 62 then value - 4
    else if value = 62 then 43
    else 47)

def value (byte : UInt8) : Option Nat :=
  let code := byte.toNat
  if 65 ≤ code ∧ code ≤ 90 then some (code - 65)
  else if 97 ≤ code ∧ code ≤ 122 then some (code - 71)
  else if 48 ≤ code ∧ code ≤ 57 then some (code + 4)
  else if code = 43 then some 62
  else if code = 47 then some 63
  else none

variable {number : Nat}

theorem value_symbol (small : number < 64) :
    value (symbol number) = some number := by
  revert number
  decide

theorem value_padding : value 61 = none := by
  decide

theorem symbol_ne (small : number < 64) :
    symbol number ≠ 10 ∧ symbol number ≠ 13 := by
  revert number
  decide

/-! ### Groups -/

def encode : Bytes → Bytes
  | [] => []
  | [first] =>
    let bits := first.toNat * 16
    [symbol (bits / 64), symbol (bits % 64), 61, 61]
  | [first, second] =>
    let bits := (first.toNat * 256 + second.toNat) * 4
    [symbol (bits / 4096), symbol (bits / 64 % 64), symbol (bits % 64), 61]
  | first :: second :: third :: rest =>
    let bits := (first.toNat * 256 + second.toNat) * 256 + third.toNat
    symbol (bits / 262144) :: symbol (bits / 4096 % 64) :: symbol (bits / 64 % 64) ::
      symbol (bits % 64) :: encode rest

/-- A group with padding has to be the last one. -/
def decodeGroups : Bytes → Option Bytes
  | [] => some []
  | first :: second :: third :: fourth :: rest =>
    match value first, value second, value third, value fourth with
    | some a, some b, some c, some d =>
      let bits := ((a * 64 + b) * 64 + c) * 64 + d
      (decodeGroups rest).map fun more =>
        UInt8.ofNat (bits / 65536) :: UInt8.ofNat (bits / 256) :: UInt8.ofNat bits :: more
    | some a, some b, some c, none =>
      let bits := (a * 64 + b) * 64 + c
      if fourth = 61 ∧ rest = [] then
        some [UInt8.ofNat (bits / 1024), UInt8.ofNat (bits / 4)]
      else none
    | some a, some b, none, _ =>
      let bits := a * 64 + b
      if third = 61 ∧ fourth = 61 ∧ rest = [] then some [UInt8.ofNat (bits / 16)] else none
    | _, _, _, _ => none
  | _ => none

def isLineEnd (byte : UInt8) : Bool :=
  byte = 10 ∨ byte = 13

def decode (text : Bytes) : Option Bytes :=
  decodeGroups (text.filter fun byte => !isLineEnd byte)

/-! ### Reading back -/

theorem isLineEnd_symbol (small : number < 64) :
    isLineEnd (symbol number) = false := by
  obtain ⟨noFeed, noReturn⟩ := symbol_ne small
  simp [isLineEnd, noFeed, noReturn]

theorem ofNat_of_mod (byte : UInt8) (same : number % 256 = byte.toNat) :
    UInt8.ofNat number = byte := by
  apply UInt8.toNat_inj.mp
  rw [UInt8.toNat_ofNat', ← same]

theorem isLineEnd_of_mem_encode {bytes : Bytes} {byte : UInt8} (member : byte ∈ encode bytes) :
    isLineEnd byte = false := by
  have padding : isLineEnd 61 = false := by decide
  induction bytes using encode.induct with
  | case1 => cases member
  | case2 first =>
    have bound := first.toNat_lt
    simp only [encode, List.mem_cons, List.not_mem_nil, or_false] at member
    rcases member with rfl | rfl | rfl | rfl
    · exact isLineEnd_symbol (by omega)
    · exact isLineEnd_symbol (by omega)
    · exact padding
    · exact padding
  | case3 first second =>
    have firstBound := first.toNat_lt
    have secondBound := second.toNat_lt
    simp only [encode, List.mem_cons, List.not_mem_nil, or_false] at member
    rcases member with rfl | rfl | rfl | rfl
    · exact isLineEnd_symbol (by omega)
    · exact isLineEnd_symbol (by omega)
    · exact isLineEnd_symbol (by omega)
    · exact padding
  | case4 first second third rest ih =>
    have firstBound := first.toNat_lt
    have secondBound := second.toNat_lt
    have thirdBound := third.toNat_lt
    simp only [encode, List.mem_cons] at member
    rcases member with rfl | rfl | rfl | rfl | later
    · exact isLineEnd_symbol (by omega)
    · exact isLineEnd_symbol (by omega)
    · exact isLineEnd_symbol (by omega)
    · exact isLineEnd_symbol (by omega)
    · exact ih later

theorem decodeGroups_encode (bytes : Bytes) : decodeGroups (encode bytes) = some bytes := by
  induction bytes using encode.induct with
  | case1 => rfl
  | case2 first =>
    have bound := first.toNat_lt
    have joined : first.toNat * 16 / 64 * 64 + first.toNat * 16 % 64 = first.toNat * 16 := by
      omega
    simp only [encode, decodeGroups, value_padding,
      value_symbol (show first.toNat * 16 / 64 < 64 by omega),
      value_symbol (show first.toNat * 16 % 64 < 64 by omega), and_self, if_true, joined]
    rw [ofNat_of_mod first (by omega)]
  | case3 first second =>
    have firstBound := first.toNat_lt
    have secondBound := second.toNat_lt
    generalize shape : (first.toNat * 256 + second.toNat) * 4 = bits
    have joined : (bits / 4096 * 64 + bits / 64 % 64) * 64 + bits % 64 = bits := by
      omega
    simp only [encode, decodeGroups, shape, value_padding,
      value_symbol (show bits / 4096 < 64 by omega),
      value_symbol (show bits / 64 % 64 < 64 by omega),
      value_symbol (show bits % 64 < 64 by omega), and_self, if_true, joined]
    rw [ofNat_of_mod first (by omega), ofNat_of_mod second (by omega)]
  | case4 first second third rest ih =>
    have firstBound := first.toNat_lt
    have secondBound := second.toNat_lt
    have thirdBound := third.toNat_lt
    generalize shape : (first.toNat * 256 + second.toNat) * 256 + third.toNat = bits
    have joined : ((bits / 262144 * 64 + bits / 4096 % 64) * 64 + bits / 64 % 64) * 64 +
        bits % 64 = bits := by
      omega
    simp only [encode, decodeGroups, shape, value_symbol (show bits / 262144 < 64 by omega),
      value_symbol (show bits / 4096 % 64 < 64 by omega),
      value_symbol (show bits / 64 % 64 < 64 by omega),
      value_symbol (show bits % 64 < 64 by omega), joined, ih, Option.map_some]
    rw [ofNat_of_mod first (by omega), ofNat_of_mod second (by omega),
      ofNat_of_mod third (by omega)]

theorem decode_encode (bytes : Bytes) : decode (encode bytes) = some bytes := by
  have kept : (encode bytes).filter (fun byte => !isLineEnd byte) = encode bytes := by
    rw [List.filter_eq_self]
    intro byte member
    rw [isLineEnd_of_mem_encode member]
    rfl
  rw [decode, kept, decodeGroups_encode]

end Base64
