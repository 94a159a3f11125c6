/-
Reading signed 64-bit numbers from text. A text that is not a number gives zero, and a
number that is too large the nearest one that is not, each with an error that the caller
may ignore. A printed number is read back.
-/

import Mathlib.Algebra.Order.Ring.Int

namespace Numerals

inductive ParseError where
  | malformed
  | outOfRange
deriving DecidableEq

def maxInt64 : Int :=
  9223372036854775807

def minInt64 : Int :=
  -9223372036854775808

/-- The loop of `strconv.ParseUint`. It stops at the digit that makes the number too
large, whatever stands after it. -/
def parseDigits (value : Nat) : (text : List Char) → Except ParseError Nat
  | [] => .ok value
  | char :: rest =>
    if char.isDigit then
      let next := 10 * value + (char.toNat - '0'.toNat)
      if 2 ^ 64 ≤ next then .error .outOfRange else parseDigits next rest
    else .error .malformed

def parseUint (text : List Char) : Except ParseError Nat :=
  if text = [] then .error .malformed else parseDigits 0 text

/-- The number with its sign; the value beside an error is what Go returns with it. -/
def signed (negative : Bool) (magnitude : Except ParseError Nat) : Int × Option ParseError :=
  match magnitude with
  | .error .malformed => (0, some .malformed)
  | .error .outOfRange => (if negative then minInt64 else maxInt64, some .outOfRange)
  | .ok value =>
    if negative then
      if 2 ^ 63 < value then (minInt64, some .outOfRange) else (-value, none)
    else if 2 ^ 63 ≤ value then (maxInt64, some .outOfRange)
    else (value, none)

/-- `strconv.ParseInt(text, 10, 64)`, which is also `strconv.Atoi`. -/
def parseInt : (text : List Char) → Int × Option ParseError
  | '+' :: rest => signed false (parseUint rest)
  | '-' :: rest => signed true (parseUint rest)
  | text => signed false (parseUint text)

/-- The value of `strconv.Atoi` when its error is ignored. -/
def atoi (text : List Char) : Int :=
  (parseInt text).1

section Digits

variable {text : List Char} {value : Nat}

theorem le_ofDigitChars (text : List Char) (value : Nat) :
    value ≤ Nat.ofDigitChars 10 text value := by
  induction text generalizing value with
  | nil => exact Nat.le_refl value
  | cons char rest ih =>
    rw [Nat.ofDigitChars_cons]
    have bound := ih (10 * value + (char.toNat - '0'.toNat))
    omega

theorem parseDigits_digits (digits : ∀ char ∈ text, char.isDigit = true)
    (small : Nat.ofDigitChars 10 text value < 2 ^ 64) :
    parseDigits value text = .ok (Nat.ofDigitChars 10 text value) := by
  induction text generalizing value with
  | nil => rfl
  | cons char rest ih =>
    rw [List.forall_mem_cons] at digits
    rw [Nat.ofDigitChars_cons] at small ⊢
    have bound := le_ofDigitChars rest (10 * value + (char.toNat - '0'.toNat))
    rw [parseDigits, if_pos digits.1]
    simp only
    rw [if_neg (by omega)]
    exact ih digits.2 small

theorem parseUint_digits (digits : ∀ char ∈ text, char.isDigit = true) (nonempty : text ≠ [])
    (small : Nat.ofDigitChars 10 text 0 < 2 ^ 64) :
    parseUint text = .ok (Nat.ofDigitChars 10 text 0) := by
  rw [parseUint, if_neg nonempty]
  exact parseDigits_digits digits small

theorem parseInt_unsigned (digits : ∀ char ∈ text, char.isDigit = true) :
    parseInt text = signed false (parseUint text) := by
  unfold parseInt
  split
  · exact absurd (digits '+' List.mem_cons_self) (by decide)
  · exact absurd (digits '-' List.mem_cons_self) (by decide)
  · rfl

theorem parseInt_digits (digits : ∀ char ∈ text, char.isDigit = true) (nonempty : text ≠ [])
    (small : Nat.ofDigitChars 10 text 0 < 2 ^ 63) :
    parseInt text = (((Nat.ofDigitChars 10 text 0 : Nat) : Int), none) := by
  rw [parseInt_unsigned digits, parseUint_digits digits nonempty (by omega), signed]
  simp only [Bool.false_eq_true, if_false]
  rw [if_neg (by omega)]

theorem isDigit_of_mem_repr (value : Nat) : ∀ char ∈ value.repr.toList, char.isDigit = true := by
  intro char member
  rw [Nat.toList_repr] at member
  exact Nat.isDigit_of_mem_toDigits (by decide) (by decide) member

theorem parseUint_repr (value : Nat) (small : value < 2 ^ 64) :
    parseUint value.repr.toList = .ok value := by
  have same : Nat.ofDigitChars 10 value.repr.toList 0 = value := by
    rw [Nat.toList_repr]
    exact Nat.ofDigitChars_toDigits (by decide) (by decide)
  have nonempty : value.repr.toList ≠ [] := by
    rw [Nat.toList_repr]
    exact Nat.toDigits_ne_nil
  rw [parseUint_digits (isDigit_of_mem_repr value) nonempty (by rw [same]; exact small), same]

theorem parseInt_toString {number : Int} (lower : minInt64 ≤ number)
    (upper : number ≤ maxInt64) : parseInt (toString number).toList = (number, none) := by
  rw [minInt64] at lower
  rw [maxInt64] at upper
  cases number with
  | ofNat value =>
    change (value : Int) ≤ _ at upper
    have printed : (toString (Int.ofNat value)).toList = value.repr.toList := rfl
    have read := parseUint_repr value (by omega)
    rw [printed, parseInt_unsigned (isDigit_of_mem_repr value), read, signed]
    simp only [Bool.false_eq_true, if_false]
    rw [if_neg (by omega)]
    rfl
  | negSucc value =>
    have printed : (toString (Int.negSucc value)).toList = '-' :: (value + 1).repr.toList := by
      change ("-" ++ (value + 1).repr).toList = _
      rw [String.toList_append]
      rfl
    have read := parseUint_repr (value + 1) (by omega)
    rw [printed, parseInt, read, signed]
    simp only [if_true]
    rw [if_neg (by omega)]
    rfl

end Digits

end Numerals
