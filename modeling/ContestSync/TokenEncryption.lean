/-
Refresh tokens are stored encrypted. What is stored is the base64 text of a nonce of twelve
bytes followed by the sealed token, and reading it splits the bytes again at that length. Of
AES-GCM only its contract is used: a text is opened exactly when it was sealed. Plaintexts
and stored texts are strings of any bytes.
-/

import ContestSync.Base64
import ContestSync.Scanning

namespace ContestSync.Tokens

abbrev Bytes := List UInt8

/-- `gcm.Seal` and `gcm.Open` under a key and without additional data. -/
structure Gcm where
  sealText : (key nonce plaintext : Bytes) → Bytes
  openText : (key nonce ciphertext : Bytes) → Option Bytes
  openText_eq_some_iff : ∀ key nonce ciphertext plaintext,
    openText key nonce ciphertext = some plaintext ↔ ciphertext = sealText key nonce plaintext

/-- `gcm.NonceSize()`. -/
def nonceSize : Nat :=
  12

inductive TokenError where
  | corruptInput
  | keySize (length : Nat)
  | noRandomness
  -- "ciphertext too short"
  | tooShort
  | authentication
deriving DecidableEq

/-- `aes.NewCipher(key)`. -/
def newCipher (key : Bytes) : Except TokenError Unit :=
  if key.length = 16 ∨ key.length = 24 ∨ key.length = 32 then .ok ()
  else .error (.keySize key.length)

/-- `gcm.Seal(target, nonce, plaintext, nil)` appends to its target, and panics when the nonce
has another length. -/
def appendSealed (gcm : Gcm) (key target nonce plaintext : Bytes) : Option Bytes :=
  if nonce.length = nonceSize then some (target ++ gcm.sealText key nonce plaintext) else none

/-- `gcm.Open(nil, nonce, ciphertext, nil)`; the outer `none` is a panic. -/
def openSealed (gcm : Gcm) (key nonce ciphertext : Bytes) : Option (Except TokenError Bytes) :=
  if nonce.length = nonceSize then
    match gcm.openText key nonce ciphertext with
    | none => some (.error .authentication)
    | some plaintext => some (.ok plaintext)
  else none

/-- `EncryptToken`, where `random` is what `rand.Reader` fills the nonce with; `none` is its
error. -/
def encryptToken (gcm : Gcm) (random : Option { nonce : Bytes // nonce.length = nonceSize })
    (plaintext key : Bytes) : Option (Except TokenError Bytes) :=
  match newCipher key with
  | .error failed => some (.error failed)
  | .ok () =>
    match random with
    | none => some (.error .noRandomness)
    | some nonce => do
        let ciphertext ← appendSealed gcm key nonce.val nonce.val plaintext
        some (.ok (Base64.encode ciphertext))

def decryptToken (gcm : Gcm) (encoded key : Bytes) : Option (Except TokenError Bytes) :=
  match Base64.decode encoded with
  | none => some (.error .corruptInput)
  | some data =>
    match newCipher key with
    | .error failed => some (.error failed)
    | .ok () =>
      if data.length < nonceSize then some (.error .tooShort)
      else do
        let nonce ← Scan.sliceTo nonceSize data
        let ciphertext ← Scan.sliceFrom nonceSize data
        openSealed gcm key nonce ciphertext

/-! ### Reading what was stored -/

section Reading

variable (gcm : Gcm) {key : Bytes}

theorem openSealed_eq {nonce : Bytes} (sized : nonce.length = nonceSize) (ciphertext : Bytes) :
    openSealed gcm key nonce ciphertext =
      some ((gcm.openText key nonce ciphertext).elim (.error .authentication) .ok) := by
  rw [openSealed, if_pos sized]
  cases gcm.openText key nonce ciphertext with
  | none => rfl
  | some plaintext => rfl

theorem decryptToken_split {encoded nonce ciphertext : Bytes} (accepted : newCipher key = .ok ())
    (decoded : Base64.decode encoded = some (nonce ++ ciphertext))
    (sized : nonce.length = nonceSize) :
    decryptToken gcm encoded key =
      some ((gcm.openText key nonce ciphertext).elim (.error .authentication) .ok) := by
  have long : ¬(nonce ++ ciphertext).length < nonceSize := by
    rw [List.length_append, sized]
    omega
  simp only [decryptToken, decoded, accepted, if_neg long, Scan.sliceTo_append _ _ sized.symm,
    Scan.sliceFrom_append _ _ sized.symm, Option.bind_eq_bind, Option.bind_some]
  exact openSealed_eq gcm sized ciphertext

theorem decryptToken_cases (encoded : Bytes) (accepted : newCipher key = .ok ()) :
    (∃ failed, decryptToken gcm encoded key = some (.error failed)) ∨
      ∃ nonce ciphertext, nonce.length = nonceSize ∧
        Base64.decode encoded = some (nonce ++ ciphertext) := by
  cases decoded : Base64.decode encoded with
  | none =>
    left
    exact ⟨.corruptInput, by rw [decryptToken, decoded]⟩
  | some data =>
    by_cases short : data.length < nonceSize
    · left
      exact ⟨.tooShort, by simp only [decryptToken, decoded, accepted, if_pos short]⟩
    · right
      refine ⟨data.take nonceSize, data.drop nonceSize, ?_, ?_⟩
      · rw [List.length_take]
        omega
      · rw [List.take_append_drop]

theorem decryptToken_eq_ok_iff (encoded plaintext : Bytes) (accepted : newCipher key = .ok ()) :
    decryptToken gcm encoded key = some (.ok plaintext) ↔ ∃ nonce : Bytes, nonce.length = 12 ∧
        Base64.decode encoded = some (nonce ++ gcm.sealText key nonce plaintext) := by
  constructor
  · intro read
    rcases decryptToken_cases gcm encoded accepted with
      ⟨failed, refused⟩ | ⟨nonce, ciphertext, sized, decoded⟩
    · rw [refused] at read
      cases read
    · rw [decryptToken_split gcm accepted decoded sized] at read
      cases opened : gcm.openText key nonce ciphertext with
      | none =>
        rw [opened] at read
        cases read
      | some found =>
        rw [opened] at read
        cases read
        rw [gcm.openText_eq_some_iff] at opened
        rw [opened] at decoded
        exact ⟨nonce, sized, decoded⟩
  · rintro ⟨nonce, sized, decoded⟩
    have opened := (gcm.openText_eq_some_iff key nonce _ plaintext).mpr rfl
    rw [decryptToken_split gcm accepted decoded sized, opened]
    rfl

theorem encryptToken_eq (nonce : { nonce : Bytes // nonce.length = nonceSize })
    (plaintext : Bytes) (accepted : newCipher key = .ok ()) :
    encryptToken gcm (some nonce) plaintext key =
      some (.ok (Base64.encode (nonce.val ++ gcm.sealText key nonce.val plaintext))) := by
  simp only [encryptToken, accepted, appendSealed, if_pos nonce.property, Option.bind_eq_bind,
    Option.bind_some]

theorem decryptToken_ne_none (encoded key : Bytes) : decryptToken gcm encoded key ≠ none := by
  cases accepted : newCipher key with
  | error failed =>
    rw [decryptToken]
    split
    · exact Option.some_ne_none _
    · rw [accepted]
      exact Option.some_ne_none _
  | ok _ =>
    rcases decryptToken_cases gcm encoded accepted with
      ⟨failed, refused⟩ | ⟨nonce, ciphertext, sized, decoded⟩
    · rw [refused]
      exact Option.some_ne_none _
    · rw [decryptToken_split gcm accepted decoded sized]
      exact Option.some_ne_none _

end Reading

/-- An encrypted token is read back, and what is read without an error is a nonce of twelve
bytes followed by the sealed token. -/
theorem token_round_trip (gcm : Gcm) {key : Bytes} (accepted : newCipher key = .ok ()) :
    (∀ (nonce : { nonce : Bytes // nonce.length = nonceSize }) (plaintext : Bytes),
      ∃ encoded, encryptToken gcm (some nonce) plaintext key = some (.ok encoded) ∧
        decryptToken gcm encoded key = some (.ok plaintext)) ∧
    (∀ encoded plaintext, decryptToken gcm encoded key = some (.ok plaintext) ↔
      ∃ nonce : Bytes, nonce.length = 12 ∧
        Base64.decode encoded = some (nonce ++ gcm.sealText key nonce plaintext)) ∧
    ∀ encoded, decryptToken gcm encoded key ≠ none := by
  refine ⟨?_, ?_, ?_⟩
  · intro nonce plaintext
    refine ⟨_, encryptToken_eq gcm nonce plaintext accepted, ?_⟩
    rw [decryptToken_eq_ok_iff gcm _ _ accepted]
    exact ⟨nonce.val, nonce.property, Base64.decode_encode _⟩
  · intro encoded plaintext
    exact decryptToken_eq_ok_iff gcm encoded plaintext accepted
  · intro encoded
    exact decryptToken_ne_none gcm encoded key

/-- A sealing that puts the key and the nonce in front of the text. -/
def framed : Gcm where
  sealText key nonce plaintext := (key ++ nonce) ++ plaintext
  openText key nonce ciphertext :=
    if key ++ nonce <+: ciphertext then some (ciphertext.drop (key ++ nonce).length) else none
  openText_eq_some_iff := by
    intro key nonce ciphertext plaintext
    constructor
    · intro opened
      split at opened
      · rename_i framedText
        obtain ⟨rest, rfl⟩ := framedText
        rw [List.drop_left] at opened
        rw [Option.some.inj opened]
      · cases opened
    · rintro rfl
      rw [if_pos (List.prefix_append _ _), List.drop_left]

theorem token_round_trip_framed :
    newCipher (List.replicate 32 7) = .ok () ∧
      ∃ encoded, encryptToken framed (some ⟨List.replicate 12 1, rfl⟩) [49, 47, 47, 48]
          (List.replicate 32 7) = some (.ok encoded) ∧
        decryptToken framed encoded (List.replicate 32 7) = some (.ok [49, 47, 47, 48]) :=
  ⟨rfl, (token_round_trip framed rfl).1 ⟨List.replicate 12 1, rfl⟩ [49, 47, 47, 48]⟩

end ContestSync.Tokens
