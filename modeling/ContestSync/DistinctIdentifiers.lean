/-
Different pairs have different identifiers. Strings are bytes here: a platform, a Google
id and a contest id may be any, valid text or not, and may hold the separator.

The digits of an event id are read back to the bits of the digest, so that nothing is
lost after MD5. What MD5 itself may lose is named: the two messages of the pairs.
-/

import Mathlib
import ContestSync.Identifiers
import ContestSync.Utf8

namespace ContestSync

open Base32Hex

/-! ### Reading digits back -/

namespace Base32Hex

def lowerAlphabet : List Char :=
  "0123456789abcdefghijklmnopqrstuv".toList

def bitsOfDigit (char : Char) : List Bool :=
  (List.range 5).map fun index => lowerAlphabet.idxOf char / 2 ^ (4 - index) % 2 == 1

/-- The alphabet has each letter in one case, so that lower case keeps the digits apart. -/
theorem lower_digit (first second third fourth fifth : Bool) :
    (digit [first, second, third, fourth, fifth]).toLower ∈ lowerAlphabet ∧
      bitsOfDigit (digit [first, second, third, fourth, fifth]).toLower =
        [first, second, third, fourth, fifth] := by
  revert first second third fourth fifth
  decide +kernel

/-- The zeros that fill up the last group. -/
def filling (bits : List Bool) : List Bool :=
  List.replicate ((5 - bits.length % 5) % 5) false

theorem groups_short {short : List Bool} (some : short ≠ []) (few : short.length < 5) :
    ∃ first second third fourth fifth,
      groups short = [digit [first, second, third, fourth, fifth]] ∧
        short ++ filling short = [first, second, third, fourth, fifth] := by
  match short with
  | [] => exact absurd rfl some
  | [_] => exact ⟨_, _, _, _, _, rfl, rfl⟩
  | [_, _] => exact ⟨_, _, _, _, _, rfl, rfl⟩
  | [_, _, _] => exact ⟨_, _, _, _, _, rfl, rfl⟩
  | [_, _, _, _] => exact ⟨_, _, _, _, _, rfl, rfl⟩
  | _ :: _ :: _ :: _ :: _ :: rest =>
    simp only [List.length_cons] at few
    omega

variable {bits : List Bool}

theorem length_lt_five (long : ∀ first second third fourth fifth rest,
      bits = first :: second :: third :: fourth :: fifth :: rest → False) :
    bits.length < 5 := by
  match bits with
  | [] | [_] | [_, _] | [_, _, _] | [_, _, _, _] => simp
  | _ :: _ :: _ :: _ :: _ :: _ => exact absurd rfl (long _ _ _ _ _ _)

theorem lower_groups (bits : List Bool) :
    (∀ char ∈ (groups bits).map Char.toLower, char ∈ lowerAlphabet) ∧
      ((groups bits).map Char.toLower).flatMap bitsOfDigit = bits ++ filling bits := by
  induction bits using groups.induct with
  | case1 first second third fourth fifth rest ih =>
    obtain ⟨listed, back⟩ := lower_digit first second third fourth fifth
    have same : filling (first :: second :: third :: fourth :: fifth :: rest) = filling rest := by
      simp only [filling, List.length_cons, Nat.add_assoc, Nat.reduceAdd, Nat.add_mod_right]
    rw [groups, List.map_cons, List.forall_mem_cons, List.flatMap_cons, back, ih.2, same]
    exact ⟨⟨listed, ih.1⟩, rfl⟩
  | case2 => exact ⟨fun _ none => absurd none List.not_mem_nil, rfl⟩
  | case3 short long some =>
    obtain ⟨first, second, third, fourth, fifth, group, filled⟩ :=
      groups_short some (length_lt_five long)
    obtain ⟨listed, back⟩ := lower_digit first second third fourth fifth
    rw [group, List.map_cons, List.forall_mem_cons, List.flatMap_cons, back, filled]
    exact ⟨⟨listed, fun _ none => absurd none List.not_mem_nil⟩, rfl⟩

theorem length_groups (bits : List Bool) : (groups bits).length = (bits.length + 4) / 5 := by
  induction bits using groups.induct with
  | case1 first second third fourth fifth rest ih =>
    rw [groups, List.length_cons, ih]
    simp only [List.length_cons]
    omega
  | case2 => rfl
  | case3 short long some =>
    have few := length_lt_five long
    have positive := List.length_pos_iff.mpr some
    obtain ⟨first, second, third, fourth, fifth, group, _⟩ := groups_short some few
    rw [group, List.length_singleton]
    omega

theorem groups_lower_inj {others : List Bool} (length : bits.length = others.length)
    (same : (groups bits).map Char.toLower = (groups others).map Char.toLower) :
    bits = others := by
  have back := congrArg (List.flatMap bitsOfDigit) same
  rw [(lower_groups bits).2, (lower_groups others).2] at back
  exact List.append_inj_left back length

theorem length_bitsOf (byte : UInt8) : (bitsOf byte).length = 8 := by
  rw [bitsOf, List.length_map, List.length_range]

theorem value_bitsOf (byte : UInt8) :
    (bitsOf byte).foldl (fun value bit => 2 * value + bit.toNat) 0 = byte.toNat := by
  have all : ∀ value < 256, ((List.range 8).map fun index => value / 2 ^ (7 - index) % 2 == 1).foldl
      (fun value bit => 2 * value + bit.toNat) 0 = value := by
    decide +kernel
  exact all byte.toNat byte.toNat_lt

theorem bitsOf_inj {byte other : UInt8} (same : bitsOf byte = bitsOf other) : byte = other := by
  have values := value_bitsOf byte
  rw [same, value_bitsOf] at values
  exact UInt8.toNat_inj.mp values.symm

theorem length_flatMap_bitsOf (bytes : List UInt8) :
    (bytes.flatMap bitsOf).length = 8 * bytes.length := by
  induction bytes with
  | nil => rfl
  | cons byte bytes ih =>
    rw [List.flatMap_cons, List.length_append, length_bitsOf, ih, List.length_cons]
    omega

theorem flatMap_bitsOf_inj {bytes others : List UInt8} (length : bytes.length = others.length)
    (same : bytes.flatMap bitsOf = others.flatMap bitsOf) : bytes = others := by
  induction bytes generalizing others with
  | nil => exact (List.length_eq_zero_iff.mp length.symm).symm
  | cons byte bytes ih =>
    cases others with
    | nil => cases length
    | cons other others =>
      rw [List.flatMap_cons, List.flatMap_cons] at same
      obtain ⟨head, tail⟩ := List.append_inj same (by rw [length_bitsOf, length_bitsOf])
      rw [bitsOf_inj head, ih (Nat.succ.inj length) tail]

theorem lower_encode (bytes : List UInt8) :
    (encode bytes).toLower.toList = (groups (bytes.flatMap bitsOf)).map Char.toLower := by
  rw [encode, String.toLower, String.toList_map, String.toList_ofList]

end Base32Hex

theorem MD5.length_sum (message : List UInt8) : (MD5.sum message).length = 16 := by
  simp only [MD5.sum, MD5.littleEndian, List.length_append, List.length_map, List.length_range]

/-! ### The two functions on bytes -/

/-- `generateContestID` of a platform of any bytes. -/
def contestIDBytes (platform : List UInt8) (startTime : Int) : List UInt8 :=
  platform ++ 95 :: Utf8.encode (toString startTime).toList

/-- `fmt.Appendf(nil, "%s_%s", googleID, contestID)`. -/
def eventMessage (googleID contestID : List UInt8) : List UInt8 :=
  googleID ++ 95 :: contestID

/-- `generateDeterministicEventID` of ids of any bytes. -/
def eventIDOfBytes (googleID contestID : List UInt8) : String :=
  (encode (MD5.sum (eventMessage googleID contestID))).toLower

/-- What the loop has taken is the part before its index, the last byte first. -/
theorem toList_loop (bytes : ByteArray) (index : Nat) (taken : List UInt8)
    (before : taken = (bytes.data.toList.take index).reverse) :
    ByteArray.toList.loop bytes index taken = bytes.data.toList := by
  induction index, taken using ByteArray.toList.loop.induct bytes with
  | case1 index taken inside ih =>
    rw [ByteArray.toList.loop, if_pos inside]
    apply ih
    rw [List.take_succ_eq_append_getElem inside, List.reverse_append, before]
    congr 1
    exact getElem!_pos bytes.data index inside
  | case2 index taken outside =>
    rw [ByteArray.toList.loop, if_neg outside, before, List.reverse_reverse]
    exact List.take_of_length_le (Nat.le_of_not_lt outside)

theorem toUTF8_toList (text : String) : text.toUTF8.toList = Utf8.encode text.toList := by
  rw [ByteArray.toList, toList_loop text.toUTF8 0 [] rfl, String.toUTF8_eq_toByteArray,
    ← String.utf8Encode_toList, List.utf8Encode, List.data_toByteArray]
  rfl

theorem generateContestID_bytes (platform : String) (startTime : Int) :
    (generateContestID platform startTime).toUTF8.toList =
      contestIDBytes platform.toUTF8.toList startTime := by
  rw [toUTF8_toList, toUTF8_toList, generateContestID, String.toList_append, String.toList_append,
    Utf8.encode_append, Utf8.encode_append, List.append_assoc]
  rfl

theorem generateDeterministicEventID_bytes (googleID contestID : String) :
    generateDeterministicEventID googleID contestID =
      eventIDOfBytes googleID.toUTF8.toList contestID.toUTF8.toList := by
  rw [generateDeterministicEventID, eventIDOfBytes, eventMessage, toUTF8_toList, toUTF8_toList,
    toUTF8_toList, String.toList_append, String.toList_append, Utf8.encode_append,
    Utf8.encode_append, List.append_assoc]
  rfl

/-! ### Different pairs -/

variable {other googleID contestID otherContest : List UInt8}

theorem contestIDBytes_inj {platform : List UInt8} {startTime otherTime : Int}
    (same : contestIDBytes platform startTime = contestIDBytes other otherTime) :
    platform = other ∧ startTime = otherTime := by
  have digits (time : Int) : (95 : UInt8) ∉ Utf8.encode (toString time).toList :=
    Utf8.notMem_encode (by decide) (by decide) (underscore_notMem_toString time)
  obtain ⟨platforms, times⟩ := append_cons_inj_right (digits startTime) (digits otherTime) same
  have texts := congrArg Utf8.decode times
  rw [Utf8.decode_encode, Utf8.decode_encode] at texts
  exact ⟨platforms, Int.repr_inj.mp (String.toList_inj.mp texts)⟩

/-- The Google id of a message is what stands before its first underscore. -/
theorem eventMessage_inj (plain : 95 ∉ googleID) (otherPlain : 95 ∉ other)
    (same : eventMessage googleID contestID = eventMessage other otherContest) :
    googleID = other ∧ contestID = otherContest := by
  have mirrored := congrArg List.reverse same
  simp only [eventMessage, List.reverse_append, List.reverse_cons, List.append_assoc,
    List.singleton_append] at mirrored
  obtain ⟨contests, googleIDs⟩ := append_cons_inj_right (mt List.mem_reverse.mp plain)
    (mt List.mem_reverse.mp otherPlain) mirrored
  exact ⟨List.reverse_injective googleIDs, List.reverse_injective contests⟩

theorem sum_eq_of_eventID
    (same : eventIDOfBytes googleID contestID = eventIDOfBytes other otherContest) :
    MD5.sum (eventMessage googleID contestID) = MD5.sum (eventMessage other otherContest) := by
  have digits := congrArg String.toList same
  rw [eventIDOfBytes, eventIDOfBytes, lower_encode, lower_encode] at digits
  have length : (MD5.sum (eventMessage googleID contestID)).length =
      (MD5.sum (eventMessage other otherContest)).length := by
    rw [MD5.length_sum, MD5.length_sum]
  apply flatMap_bitsOf_inj length
  apply groups_lower_inj _ digits
  rw [length_flatMap_bitsOf, length_flatMap_bitsOf, length]

theorem eventID_form (googleID contestID : List UInt8) :
    (eventIDOfBytes googleID contestID).toList.length = 26 ∧
      ∀ char ∈ (eventIDOfBytes googleID contestID).toList, char ∈ lowerAlphabet := by
  rw [eventIDOfBytes, lower_encode]
  constructor
  · rw [List.length_map, length_groups, length_flatMap_bitsOf, MD5.length_sum]
  · exact (lower_groups _).1

theorem identifiers_keep_apart :
    (∀ (platform other : List UInt8) (startTime otherTime : Int),
      contestIDBytes platform startTime = contestIDBytes other otherTime →
        platform = other ∧ startTime = otherTime) ∧
    ∀ googleID contestID : List UInt8, 95 ∉ googleID →
      ((eventIDOfBytes googleID contestID).toList.length = 26 ∧
        ∀ char ∈ (eventIDOfBytes googleID contestID).toList, char ∈ lowerAlphabet) ∧
      ∀ other otherContest : List UInt8, 95 ∉ other →
        eventIDOfBytes googleID contestID = eventIDOfBytes other otherContest →
          (googleID = other ∧ contestID = otherContest) ∨
          (eventMessage googleID contestID ≠ eventMessage other otherContest ∧
            MD5.sum (eventMessage googleID contestID) =
              MD5.sum (eventMessage other otherContest)) := by
  refine ⟨fun _ _ _ _ same => contestIDBytes_inj same, ?_⟩
  intro googleID contestID plain
  refine ⟨eventID_form googleID contestID, ?_⟩
  intro other otherContest otherPlain same
  by_cases message : eventMessage googleID contestID = eventMessage other otherContest
  · exact .inl (eventMessage_inj plain otherPlain message)
  · exact .inr ⟨message, sum_eq_of_eventID same⟩

/-- The separator inside a platform, and two pairs whose digests do not collide. -/
theorem identifiers_keep_apart_separator :
    contestIDBytes [97, 95] 1 ≠ contestIDBytes [97] (-1) ∧
      (eventIDOfBytes [49] [50]).toList.length = 26 ∧
      eventIDOfBytes [49] [50] ≠ eventIDOfBytes [50] [49] := by
  have first := identifiers_keep_apart.2 [49] [50] (by decide)
  refine ⟨?_, first.1.1, ?_⟩
  · intro same
    exact absurd (identifiers_keep_apart.1 _ _ _ _ same).1 (by decide)
  · intro same
    rcases first.2 [50] [49] (by decide) same with equal | collision
    · exact absurd equal.1 (by decide)
    · exact absurd collision.2 (by decide +kernel)

end ContestSync
