/-
Reading an instant from text along a layout, as `time.Parse` does: a layout is a list of
chunks, each of which takes the digits it stands for. The result is in seconds since the
epoch; a fraction of a second is read and dropped.
-/

import ContestSync.Utf8
import Mathlib.Data.Int.Basic

namespace TimeLayout

abbrev Bytes := List UInt8

inductive Chunk where
  | longYear
  | zeroMonth
  | zeroDay
  | hour
  | zeroMinute
  | zeroSecond
  -- `Z07:00`
  | colonZone
  | literal (byte : UInt8)
deriving DecidableEq

structure Fields where
  year : Nat
  month : Nat
  day : Nat
  hour : Nat
  minute : Nat
  second : Nat
  offset : Int
deriving DecidableEq

def Fields.initial : Fields :=
  ⟨0, 1, 1, 0, 0, 0, 0⟩

/-! ### Digits -/

def isDigit (byte : UInt8) : Bool :=
  48 ≤ byte.toNat ∧ byte.toNat ≤ 57

def digitValue (byte : UInt8) : Nat :=
  byte.toNat - 48

/-- One or two digits, two if `fixed`. -/
def getnum (fixed : Bool) : Bytes → Option (Nat × Bytes)
  | [] => none
  | [only] => if isDigit only ∧ fixed = false then some (digitValue only, []) else none
  | first :: second :: rest =>
    if isDigit first then
      if isDigit second then some (10 * digitValue first + digitValue second, rest)
      else if fixed then none
      else some (digitValue first, second :: rest)
    else none

def getYear : Bytes → Option (Nat × Bytes)
  | first :: second :: third :: fourth :: rest =>
    if isDigit first ∧ isDigit second ∧ isDigit third ∧ isDigit fourth then
      some (1000 * digitValue first + 100 * digitValue second + 10 * digitValue third +
        digitValue fourth, rest)
    else none
  | _ => none

/-- What is left after a fraction of a second, which needs a digit. -/
def skipFraction : Bytes → Bytes
  | separator :: digit :: rest =>
    if (separator = 46 ∨ separator = 44) ∧ isDigit digit then rest.dropWhile isDigit
    else separator :: digit :: rest
  | text => text

/-- `Z`, or a sign, two digits, a colon and two digits. -/
def getZone : Bytes → Option (Int × Bytes)
  | 90 :: rest => some (0, rest)
  | sign :: hour :: hour' :: 58 :: minute :: minute' :: rest =>
    match getnum true [hour, hour'], getnum true [minute, minute'] with
    | some (hours, _), some (minutes, _) =>
      if 24 < hours ∨ 60 < minutes then none
      else
        let seconds : Int := (hours * 60 + minutes) * 60
        if sign = 43 then some (seconds, rest)
        else if sign = 45 then some (-seconds, rest)
        else none
    | _, _ => none
  | _ => none

/-! ### Layouts -/

def Chunk.read (chunk : Chunk) (fields : Fields) (text : Bytes) : Option (Fields × Bytes) :=
  match chunk with
  | .longYear => (getYear text).map fun (year, rest) => ({ fields with year := year }, rest)
  | .zeroMonth =>
    (getnum true text).bind fun (month, rest) =>
      if month = 0 ∨ 12 < month then none else some ({ fields with month := month }, rest)
  | .zeroDay => (getnum true text).map fun (day, rest) => ({ fields with day := day }, rest)
  | .hour =>
    (getnum false text).bind fun (number, rest) =>
      if 24 ≤ number then none else some ({ fields with hour := number }, rest)
  | .zeroMinute =>
    (getnum true text).bind fun (minute, rest) =>
      if 60 ≤ minute then none else some ({ fields with minute := minute }, rest)
  | .zeroSecond =>
    (getnum true text).bind fun (second, rest) =>
      if 60 ≤ second then none
      else some ({ fields with second := second }, skipFraction rest)
  | .colonZone => (getZone text).map fun (offset, rest) => ({ fields with offset := offset }, rest)
  | .literal byte =>
    match text with
    | first :: rest => if first = byte then some (fields, rest) else none
    | [] => none

def readChunks : (layout : List Chunk) → Fields → Bytes → Option (Fields × Bytes)
  | [], fields, text => some (fields, text)
  | chunk :: layout, fields, text =>
    (chunk.read fields text).bind fun (fields, rest) => readChunks layout fields rest

/-! ### Dates -/

def isLeap (year : Nat) : Bool :=
  year % 4 = 0 ∧ (year % 100 ≠ 0 ∨ year % 400 = 0)

def daysIn (year month : Nat) : Nat :=
  if month = 2 then if isLeap year then 29 else 28
  else if month = 4 ∨ month = 6 ∨ month = 9 ∨ month = 11 then 30
  else 31

/-- The days from the epoch to a date. Years are counted from March, so that a leap day
ends its year. -/
def daysFromCivil (year month day : Nat) : Int :=
  let marchYear : Int := if month ≤ 2 then (year : Int) - 1 else year
  let era := marchYear / 400
  let yearOfEra := marchYear % 400
  let monthFromMarch := (month + 9) % 12
  let dayOfYear : Nat := (153 * monthFromMarch + 2) / 5 + day - 1
  era * 146097 + (yearOfEra * 365 + yearOfEra / 4 - yearOfEra / 100 + dayOfYear) - 719468

def Fields.unix (fields : Fields) : Int :=
  daysFromCivil fields.year fields.month fields.day * 86400 + fields.hour * 3600 +
    fields.minute * 60 + fields.second - fields.offset

/-- `time.Parse(layout, text)` and `Unix()`. -/
def parse (layout : List Chunk) (text : Bytes) : Option Int :=
  match readChunks layout .initial text with
  | some (fields, []) =>
    if fields.day = 0 ∨ daysIn fields.year fields.month < fields.day then none
    else some fields.unix
  | _ => none

/-- `2006-01-02T15:04:05`. -/
def dateTime : List Chunk :=
  [.longYear, .literal 45, .zeroMonth, .literal 45, .zeroDay, .literal 84, .hour, .literal 58,
    .zeroMinute, .literal 58, .zeroSecond]

/-- `2006-01-02T15:04:05Z07:00`. -/
def rfc3339 : List Chunk :=
  dateTime ++ [.colonZone]

example : parse rfc3339 (Utf8.encode "2024-02-29T12:34:56.789+05:30".toList) = some 1709190296 := by
  decide +kernel

/-! ### Written digits are read back -/

def digitByte (digit : Nat) : UInt8 :=
  UInt8.ofNat (48 + digit)

def twoDigits (number : Nat) : Bytes :=
  [digitByte (number / 10), digitByte (number % 10)]

def fourDigits (number : Nat) : Bytes :=
  [digitByte (number / 1000), digitByte (number / 100 % 10), digitByte (number / 10 % 10),
    digitByte (number % 10)]

variable {digit number : Nat}

theorem toNat_digitByte (small : digit < 10) :
    (digitByte digit).toNat = 48 + digit := by
  rw [digitByte, UInt8.toNat_ofNat']
  omega

theorem isDigit_digitByte (small : digit < 10) :
    isDigit (digitByte digit) = true := by
  rw [isDigit, toNat_digitByte small, decide_eq_true_eq]
  omega

theorem digitValue_digitByte (small : digit < 10) :
    digitValue (digitByte digit) = digit := by
  rw [digitValue, toNat_digitByte small]
  omega

theorem getnum_twoDigits (fixed : Bool) (small : number < 100) (rest : Bytes) :
    getnum fixed (twoDigits number ++ rest) = some (number, rest) := by
  have tens : number / 10 < 10 := by omega
  have ones : number % 10 < 10 := by omega
  simp only [twoDigits, List.cons_append, List.nil_append, getnum, isDigit_digitByte tens,
    isDigit_digitByte ones, digitValue_digitByte tens, digitValue_digitByte ones, if_true,
    Option.some.injEq, Prod.mk.injEq, and_true]
  omega

theorem getYear_fourDigits (small : number < 10000) (rest : Bytes) :
    getYear (fourDigits number ++ rest) = some (number, rest) := by
  have thousands : number / 1000 < 10 := by omega
  have hundreds : number / 100 % 10 < 10 := by omega
  have tens : number / 10 % 10 < 10 := by omega
  have ones : number % 10 < 10 := by omega
  simp only [fourDigits, List.cons_append, List.nil_append, getYear,
    isDigit_digitByte thousands, isDigit_digitByte hundreds, isDigit_digitByte tens,
    isDigit_digitByte ones, digitValue_digitByte thousands, digitValue_digitByte hundreds,
    digitValue_digitByte tens, digitValue_digitByte ones, and_self, if_true,
    Option.some.injEq, Prod.mk.injEq, and_true]
  omega

end TimeLayout
