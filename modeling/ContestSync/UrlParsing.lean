/-
Reading the scheme and the host off a URL, as `url.Parse` does: the fragment and the query
are cut off, the scheme is what stands before the first colon, and the host is what the
authority has behind its last `@`. The other parts are read only as far as they can be
malformed. Whether the text between brackets is an IPv6 address is left open.
-/

import ContestSync.Scanning
import Mathlib.Data.List.Infix

namespace Url

open Scan (cut lastIndex)

abbrev Bytes := List UInt8

/-! ### Bytes -/

variable (byte : UInt8)

def isLower : Bool :=
  97 ≤ byte.toNat ∧ byte.toNat ≤ 122

def isUpper : Bool :=
  65 ≤ byte.toNat ∧ byte.toNat ≤ 90

def isDigit : Bool :=
  48 ≤ byte.toNat ∧ byte.toNat ≤ 57

def isHex : Bool :=
  isDigit byte ∨ 97 ≤ byte.toNat ∧ byte.toNat ≤ 102 ∨ 65 ≤ byte.toNat ∧ byte.toNat ≤ 70

def unhex : Nat :=
  if isDigit byte then byte.toNat - 48
  else if 97 ≤ byte.toNat then byte.toNat - 87
  else byte.toNat - 55

def toLower : UInt8 :=
  if isUpper byte then byte + 32 else byte

def isAlphanumeric : Bool :=
  isLower byte || isUpper byte || isDigit byte

/-! ### Escapes -/

inductive Mode where
  | path
  | fragment
  | userPassword
  | host
  | zone
deriving DecidableEq

/-- The bytes `!$&'()*+,;=:[]<>"` and `-_.~`. -/
def hostMarks : Bytes :=
  [33, 36, 38, 39, 40, 41, 42, 43, 44, 59, 61, 58, 91, 93, 60, 62, 34, 45, 95, 46, 126]

/-- `shouldEscape(byte, encodeHost)`. -/
def shouldEscapeInHost : Bool :=
  !(isAlphanumeric byte || byte ∈ hostMarks)

/-- An escape that is not allowed in the mode although it is well-formed. -/
def refusedEscape (mode : Mode) (high low : UInt8) : Bool :=
  match mode with
  | .host => unhex high < 8 ∧ ¬(high = 50 ∧ low = 53)
  | .zone =>
    let value := UInt8.ofNat (16 * unhex high + unhex low)
    ¬(high = 50 ∧ low = 53) ∧ value ≠ 32 ∧ shouldEscapeInHost value
  | _ => false

def refusedByte (mode : Mode) (byte : UInt8) : Bool :=
  (mode = .host ∨ mode = .zone) ∧ byte.toNat < 128 ∧ shouldEscapeInHost byte

def unescape (mode : Mode) : Bytes → Option Bytes
  | [] => some []
  | byte :: rest =>
    if byte = 37 then
      match rest with
      | high :: low :: rest =>
        if isHex high ∧ isHex low ∧ ¬refusedEscape mode high low then
          (unescape mode rest).map (UInt8.ofNat (16 * unhex high + unhex low) :: ·)
        else none
      | _ => none
    else if refusedByte mode byte then none
    else (unescape mode rest).map (byte :: ·)

/-! ### Hosts -/

def validOptionalPort : Bytes → Bool
  | [] => true
  | byte :: rest => byte == 58 && rest.all isDigit

/-- A zone begins at `%25`. -/
def unescapeAddress (text : Bytes) : Option Bytes :=
  match Scan.index [37, 50, 53] text with
  | none => unescape .host text
  | some zone => do
      let hostPart ← unescape .host (text.take zone)
      let zonePart ← unescape .zone (text.drop zone)
      some (hostPart ++ zonePart)

section Parsing

variable (isAddress : Bytes → Bool)

def parseBracketed (host : Bytes) : Option Bytes :=
  match lastIndex 93 host with
  | none => none
  | some close =>
    let colonPort := host.drop (close + 1)
    if validOptionalPort colonPort then do
      let port ← unescape .host colonPort
      let address ← unescapeAddress ((host.take close).drop 1)
      if isAddress address then some (91 :: (address ++ (93 :: port))) else none
    else none

/-- Where the port begins; only `http` and `https` refuse a second colon. -/
def portIndex (scheme host : Bytes) : Option Nat :=
  if scheme = [104, 116, 116, 112] ∨ scheme = [104, 116, 116, 112, 115] then
    Scan.index [58] host
  else lastIndex 58 host

def parseHost (scheme host : Bytes) : Option Bytes :=
  match lastIndex 91 host with
  | some (_ + 1) => none
  | some 0 => parseBracketed isAddress host
  | none =>
    match portIndex scheme host with
    | none => unescape .host host
    | some position =>
      if validOptionalPort (host.drop position) then unescape .host host else none

/-- Letters, digits and `-._:~!$&'()*+,;=%@`. -/
def validUserinfo (text : Bytes) : Bool :=
  text.all fun byte => isAlphanumeric byte ||
    [45, 46, 95, 58, 126, 33, 36, 38, 39, 40, 41, 42, 43, 44, 59, 61, 37, 64].contains byte

def userinfoAccepted (text : Bytes) : Bool :=
  validUserinfo text ∧ (unescape .userPassword (cut 58 text).1).isSome ∧
    (unescape .userPassword (cut 58 text).2).isSome

def parseAuthority (scheme authority : Bytes) : Option Bytes :=
  match lastIndex 64 authority with
  | none => parseHost isAddress scheme authority
  | some position => do
      let host ← parseHost isAddress scheme (authority.drop (position + 1))
      if userinfoAccepted (authority.take position) then some host else none

/-! ### URLs -/

/-- What the scan has `seen` of a scheme; no scheme is no error. -/
def getScheme (raw : Bytes) : (seen rest : Bytes) → Option (Bytes × Bytes)
  | _, [] => some ([], raw)
  | seen, byte :: rest =>
    if isLower byte ∨ isUpper byte then getScheme raw (seen ++ [byte]) rest
    else if isDigit byte ∨ byte = 43 ∨ byte = 45 ∨ byte = 46 then
      if seen = [] then some ([], raw) else getScheme raw (seen ++ [byte]) rest
    else if byte = 58 then if seen = [] then none else some (seen, rest)
    else some ([], raw)

structure Parsed where
  scheme : Bytes
  host : Bytes
deriving DecidableEq

/-- The part of `parse` behind the scheme and before the query. -/
def parseHierarchy (scheme rest : Bytes) : Option Parsed :=
  if ¬[47] <+: rest ∧ scheme ≠ [] then some ⟨scheme, []⟩
  else if ¬[47] <+: rest ∧ 58 ∈ (cut 47 rest).1 then none
  else if (scheme ≠ [] ∨ ¬[47, 47, 47] <+: rest) ∧ [47, 47] <+: rest then do
    let authority := rest.drop 2
    let host ← parseAuthority isAddress scheme (authority.takeWhile (· ≠ 47))
    let _ ← unescape .path (authority.dropWhile (· ≠ 47))
    some ⟨scheme, host⟩
  else (unescape .path rest).map fun _ => ⟨scheme, []⟩

/-- The URL without its fragment. -/
def parseWithoutFragment (raw : Bytes) : Option Parsed :=
  if ∃ byte ∈ raw, byte.toNat < 32 ∨ byte.toNat = 127 then none
  else if raw = [42] then some ⟨[], []⟩
  else do
    let (scheme, rest) ← getScheme raw [] raw
    parseHierarchy isAddress (scheme.map toLower) (cut 63 rest).1

/-- `url.Parse(raw)`. -/
def parse (raw : Bytes) : Option Parsed := do
  let parsed ← parseWithoutFragment isAddress (cut 35 raw).1
  let _ ← unescape .fragment (cut 35 raw).2
  some parsed

end Parsing

/-! ### A host with a colon -/

/-- The text ends in a bracket, a colon or a digit. -/
def EndsPort (text : Bytes) : Prop :=
  ∃ body last, text = body ++ [last] ∧ (last = 93 ∨ last = 58 ∨ isDigit last = true)

variable {text : Bytes}

theorem EndsPort.append (ends : EndsPort text) (more : Bytes) :
    EndsPort (more ++ text) := by
  obtain ⟨body, last, rfl, kind⟩ := ends
  exact ⟨more ++ body, last, (List.append_assoc _ _ _).symm, kind⟩

variable {digits : Bytes}

theorem endsPort_colon (valid : ∀ digit ∈ digits, isDigit digit = true) :
    EndsPort (58 :: digits) := by
  rcases List.eq_nil_or_concat digits with rfl | ⟨front, last, rfl⟩
  · exact ⟨[], 58, rfl, Or.inr (Or.inl rfl)⟩
  · refine ⟨58 :: front, last, by simp, Or.inr (Or.inr ?_)⟩
    apply valid
    simp

variable {rest : Bytes} {mode : Mode} {byte : UInt8} {decoded : Bytes} {isAddress : Bytes → Bool}
  {parsed : Parsed}

theorem unescape_cons (plain : byte ≠ 37) (allowed : refusedByte mode byte = false) :
    unescape mode (byte :: rest) = (unescape mode rest).map (byte :: ·) := by
  rw [unescape.eq_def]
  simp only [if_neg plain, allowed, if_neg Bool.false_ne_true]

theorem unescape_refused (plain : byte ≠ 37)
    (refused : refusedByte mode byte = true) : unescape mode (byte :: rest) = none := by
  rw [unescape.eq_def]
  simp only [if_neg plain, if_pos refused]

theorem ne_of_isDigit {other : UInt8} (digit : isDigit byte = true)
    (different : isDigit other = false) : byte ≠ other := by
  intro same
  rw [same, different] at digit
  cases digit

theorem unescape_digits (valid : ∀ digit ∈ digits, isDigit digit = true) :
    unescape .host digits = some digits := by
  induction digits with
  | nil => rfl
  | cons digit digits ih =>
    rw [List.forall_mem_cons] at valid
    have allowed : refusedByte .host digit = false := by
      simp [refusedByte, shouldEscapeInHost, isAlphanumeric, valid.1]
    rw [unescape_cons (ne_of_isDigit valid.1 (by decide)) allowed, ih valid.2, Option.map_some]

theorem validOptionalPort_cons_iff :
    validOptionalPort (byte :: digits) = true ↔
      byte = 58 ∧ ∀ digit ∈ digits, isDigit digit = true := by
  rw [validOptionalPort, Bool.and_eq_true, beq_iff_eq, List.all_eq_true]

theorem unescape_port {port : Bytes} (valid : validOptionalPort port = true) :
    unescape .host port = some port := by
  cases port with
  | nil => rfl
  | cons byte digits =>
    obtain ⟨rfl, decimal⟩ := validOptionalPort_cons_iff.mp valid
    rw [unescape_cons (by decide) (by decide), unescape_digits decimal, Option.map_some]

/-- A colon is no part of an escape, so that a port is decoded by itself. -/
theorem unescape_append_port (valid : ∀ digit ∈ digits, isDigit digit = true)
    (read : unescape .host (text ++ 58 :: digits) = some decoded) :
    ∃ front, decoded = front ++ 58 :: digits := by
  induction text using unescape.induct .host generalizing decoded with
  | case1 =>
    have port : validOptionalPort (58 :: digits) = true :=
      validOptionalPort_cons_iff.mpr ⟨rfl, valid⟩
    rw [List.nil_append, unescape_port port] at read
    exact ⟨[], (Option.some.inj read).symm⟩
  | case2 high low rest escape ih =>
    simp only [List.cons_append, unescape, if_pos escape, if_true, Option.map_eq_some_iff] at read
    obtain ⟨tail, inner, rfl⟩ := read
    obtain ⟨front, rfl⟩ := ih inner
    exact ⟨_ :: front, rfl⟩
  | case3 high low rest bad =>
    simp only [List.cons_append, unescape, if_neg bad, if_true] at read
    cases read
  | case4 rest short =>
    have colon : isHex 58 = false := by decide
    cases rest with
    | nil =>
      cases digits with
      | nil => cases read
      | cons digit digits => simp [unescape, colon] at read
    | cons high rest =>
      cases rest with
      | nil => simp [unescape, colon] at read
      | cons low rest => exact absurd rfl (short high low rest)
  | case5 byte rest plain refused =>
    rw [List.cons_append, unescape_refused plain refused] at read
    cases read
  | case6 byte rest plain allowed ih =>
    rw [Bool.not_eq_true] at allowed
    rw [List.cons_append, unescape_cons plain allowed, Option.map_eq_some_iff] at read
    obtain ⟨tail, inner, rfl⟩ := read
    obtain ⟨front, rfl⟩ := ih inner
    exact ⟨byte :: front, rfl⟩

theorem unhex_lt (hex : isHex byte = true) : unhex byte < 16 := by
  simp only [isHex, isDigit, decide_eq_true_eq] at hex
  simp only [unhex, isDigit, decide_eq_true_eq]
  split_ifs <;> omega

theorem escaped_ne_colon {high low : UInt8} (first : isHex high = true) (second : isHex low = true)
    (allowed : ¬refusedEscape .host high low = true) :
    UInt8.ofNat (16 * unhex high + unhex low) ≠ 58 := by
  have highBound := unhex_lt first
  have lowBound := unhex_lt second
  rw [refusedEscape, decide_eq_true_eq] at allowed
  by_cases percent : high = 50 ∧ low = 53
  · obtain ⟨rfl, rfl⟩ := percent
    decide
  · have large : ¬unhex high < 8 := by
      intro small
      exact allowed ⟨small, percent⟩
    have fits : 16 * unhex high + unhex low < UInt8.size := by
      change _ < 256
      omega
    intro same
    have value := congrArg UInt8.toNat same
    rw [UInt8.toNat_ofNat_of_lt' fits] at value
    have colon : (58 : UInt8).toNat = 58 := rfl
    omega

theorem mem_of_mem_unescape (read : unescape .host text = some decoded)
    (colon : 58 ∈ decoded) : 58 ∈ text := by
  induction text using unescape.induct .host generalizing decoded with
  | case1 =>
    cases read
    exact colon
  | case2 high low rest escape ih =>
    simp only [unescape, if_pos escape, if_true, Option.map_eq_some_iff] at read
    obtain ⟨tail, inner, rfl⟩ := read
    rcases List.mem_cons.mp colon with here | later
    · exact absurd here.symm (escaped_ne_colon escape.1 escape.2.1 escape.2.2)
    · simp [ih inner later]
  | case3 high low rest bad =>
    simp only [unescape, if_neg bad, if_true] at read
    cases read
  | case4 rest short =>
    unfold unescape at read
    rw [if_pos rfl] at read
    split at read
    · exact absurd rfl (short _ _ _)
    · cases read
  | case5 byte rest plain refused =>
    rw [unescape_refused plain refused] at read
    cases read
  | case6 byte rest plain allowed ih =>
    rw [Bool.not_eq_true] at allowed
    rw [unescape_cons plain allowed, Option.map_eq_some_iff] at read
    obtain ⟨tail, inner, rfl⟩ := read
    rcases List.mem_cons.mp colon with here | later
    · simp [here]
    · simp [ih inner later]

variable {host : Bytes}

theorem parseBracketed_endsPort (read : parseBracketed isAddress text = some host) :
    EndsPort host := by
  unfold parseBracketed at read
  split at read
  · cases read
  · rename_i close _
    simp only at read
    split at read
    · rename_i valid
      rw [unescape_port valid] at read
      simp only [Option.bind_eq_bind, Option.bind_some, Option.bind_eq_some_iff] at read
      obtain ⟨address, _, read⟩ := read
      split at read
      · have port : EndsPort (93 :: text.drop (close + 1)) := by
          cases behind : text.drop (close + 1) with
          | nil => exact ⟨[], 93, rfl, Or.inl rfl⟩
          | cons byte digits =>
            rw [behind, validOptionalPort_cons_iff] at valid
            obtain ⟨rfl, digits⟩ := valid
            exact (endsPort_colon digits).append [93]
        rw [← Option.some.inj read]
        exact (port.append address).append [91]
      · cases read
    · cases read

variable {scheme : Bytes}

/-- A host of an `http` or `https` URL that has a colon ends in its port. -/
theorem parseHost_endsPort
    (web : scheme = [104, 116, 116, 112] ∨ scheme = [104, 116, 116, 112, 115])
    (read : parseHost isAddress scheme text = some host) (colon : 58 ∈ host) :
    EndsPort host := by
  unfold parseHost at read
  split at read
  · cases read
  · exact parseBracketed_endsPort read
  · rw [portIndex, if_pos web] at read
    split at read
    · rename_i absent
      have present := mem_of_mem_unescape read colon
      rw [Scan.index_eq_none_iff, List.singleton_infix_iff] at absent
      exact absurd present absent
    · rename_i position found
      split at read
      · rename_i valid
        obtain ⟨before, digits, rfl, rfl⟩ := Scan.index_eq_some found
        rw [List.drop_left, List.singleton_append, validOptionalPort_cons_iff] at valid
        rw [List.singleton_append] at read
        obtain ⟨front, rfl⟩ := unescape_append_port valid.2 read
        exact (endsPort_colon valid.2).append front
      · cases read

theorem parseAuthority_endsPort
    (web : scheme = [104, 116, 116, 112] ∨ scheme = [104, 116, 116, 112, 115])
    (read : parseAuthority isAddress scheme text = some host) (colon : 58 ∈ host) :
    EndsPort host := by
  unfold parseAuthority at read
  split at read
  · exact parseHost_endsPort web read colon
  · simp only [Option.bind_eq_bind, Option.bind_eq_some_iff] at read
    obtain ⟨inner, host, accepted⟩ := read
    split at accepted
    · cases accepted
      exact parseHost_endsPort web host colon
    · cases accepted

theorem parseHierarchy_endsPort
    (web : parsed.scheme = [104, 116, 116, 112] ∨ parsed.scheme = [104, 116, 116, 112, 115])
    (read : parseHierarchy isAddress scheme rest = some parsed) (colon : 58 ∈ parsed.host) :
    EndsPort parsed.host := by
  unfold parseHierarchy at read
  split_ifs at read
  · cases read
    cases colon
  · simp only [Option.bind_eq_bind, Option.bind_eq_some_iff] at read
    obtain ⟨host, authority, _, _, same⟩ := read
    cases same
    exact parseAuthority_endsPort web authority colon
  · obtain ⟨_, _, same⟩ := Option.map_eq_some_iff.mp read
    cases same
    cases colon

theorem parse_endsPort {raw : Bytes}
    (web : parsed.scheme = [104, 116, 116, 112] ∨ parsed.scheme = [104, 116, 116, 112, 115])
    (read : parse isAddress raw = some parsed) (colon : 58 ∈ parsed.host) :
    EndsPort parsed.host := by
  simp only [parse, Option.bind_eq_bind, Option.bind_eq_some_iff] at read
  obtain ⟨inner, read, _, _, same⟩ := read
  cases same
  unfold parseWithoutFragment at read
  split_ifs at read
  · cases read
    cases colon
  · simp only [Option.bind_eq_bind, Option.bind_eq_some_iff] at read
    obtain ⟨_, _, hierarchy⟩ := read
    exact parseHierarchy_endsPort web hierarchy colon

end Url
