/-
The three times of a fetched contest agree when the end is not before the start and the
duration is what lies between them. A fetcher checks neither. What an answer has to satisfy
is different for each platform: two instants have to be in order, what is cut off from numbers
that are truncated separately must not add up to a second, and sums and nanoseconds have to fit
into 64 bits.
-/

import ContestSync.AtcoderScraper
import ContestSync.Fetchers
import Mathlib.Data.Rat.Floor
import Mathlib.Tactic.Linarith
import Mathlib.Tactic.SplitIfs

namespace ContestSync

structure Span where
  startTime : Int
  endTime : Int
  duration : Int
deriving DecidableEq

def Span.Consistent (span : Span) : Prop :=
  span.startTime ≤ span.endTime ∧ span.duration = span.endTime - span.startTime

instance (span : Span) : Decidable span.Consistent :=
  inferInstanceAs (Decidable (_ ∧ _))

def Contest.span (contest : Contest) : Span :=
  ⟨contest.startTime, contest.endTime, contest.duration⟩

def Atcoder.AtcoderContest.span (contest : Atcoder.AtcoderContest) : Span :=
  ⟨contest.startTime, contest.endTime, contest.duration⟩

/-! ### Answers -/

variable (isAddress : Url.Bytes → Bool) (listing : Atcoder.Listing) (now : Int)

/-- What is cut off from a number is less than a second, and has the sign of what is left. -/
def CutOff (whole : Int) (rest : Rat) : Prop :=
  |rest| < 1 ∧ (0 < whole → 0 ≤ rest) ∧ (whole < 0 → rest ≤ 0)

variable {number first last : Rat}

theorem truncate_eq_floor (positive : 0 ≤ number) : truncate number = ⌊number⌋ := by
  rw [truncate, Rat.floor_def', Int.tdiv_eq_ediv_of_nonneg (Rat.num_nonneg.mpr positive)]

theorem truncate_eq_ceil (negative : number ≤ 0) : truncate number = ⌈number⌉ := by
  have opposite : 0 ≤ -number.num := neg_nonneg.mpr (Rat.num_nonpos.mpr negative)
  rw [truncate, Rat.ceil_def', ← Int.tdiv_eq_ediv_of_nonneg opposite, Int.neg_tdiv, neg_neg]

theorem truncate_eq_iff {whole : Int} :
    truncate number = whole ↔ CutOff whole (number - whole) := by
  rw [CutOff, abs_lt, sub_nonneg, sub_nonpos]
  rcases le_total 0 number with positive | negative
  · rw [truncate_eq_floor positive, Int.floor_eq_iff]
    constructor
    · rintro ⟨below, above⟩
      refine ⟨⟨by linarith, by linarith⟩, fun _ => below, fun impossible => ?_⟩
      have small : (whole : Rat) + 1 ≤ 0 := by exact_mod_cast impossible
      linarith
    · rintro ⟨⟨_, above⟩, below, impossible⟩
      refine ⟨?_, by linarith⟩
      rcases lt_trichotomy whole 0 with minus | rfl | plus
      · have small : (whole : Rat) < 0 := by exact_mod_cast minus
        linarith [impossible minus]
      · simpa using positive
      · exact below plus
  · rw [truncate_eq_ceil negative, Int.ceil_eq_iff]
    constructor
    · rintro ⟨below, above⟩
      refine ⟨⟨by linarith, by linarith⟩, fun impossible => ?_, fun _ => above⟩
      have large : (1 : Rat) ≤ whole := by exact_mod_cast impossible
      linarith
    · rintro ⟨⟨below, _⟩, impossible, above⟩
      refine ⟨by linarith, ?_⟩
      rcases lt_trichotomy whole 0 with minus | rfl | plus
      · exact above minus
      · simpa using negative
      · have large : (0 : Rat) < whole := by exact_mod_cast plus
        linarith [impossible plus]

theorem truncate_nonneg_iff : 0 ≤ truncate number ↔ -1 < number := by
  obtain ⟨small, _, negative⟩ := truncate_eq_iff.mp (rfl : truncate number = truncate number)
  rw [abs_lt] at small
  constructor
  · intro whole
    have positive : (0 : Rat) ≤ truncate number := by exact_mod_cast whole
    linarith
  · intro large
    by_contra below
    have whole : (truncate number : Rat) + 1 ≤ 0 := by exact_mod_cast not_le.mp below
    linarith [negative (not_le.mp below)]

theorem truncate_mono (ordered : first ≤ last) :
    truncate first ≤ truncate last := by
  rcases le_total 0 first with positive | negative
  · rw [truncate_eq_floor positive, truncate_eq_floor (positive.trans ordered)]
    exact Int.floor_le_floor ordered
  · rcases le_total 0 last with later | earlier
    · calc truncate first = ⌈first⌉ := truncate_eq_ceil negative
        _ ≤ 0 := Int.ceil_nonpos.mpr negative
        _ ≤ truncate last := truncate_nonneg_iff.mpr (by linarith)
    · rw [truncate_eq_ceil negative, truncate_eq_ceil earlier]
      exact Int.ceil_le_ceil ordered

def InOrder (startTime endTime : Option Int) : Prop :=
  ∀ first ∈ startTime, ∀ last ∈ endTime, first ≤ last

def Sound (contest : Option Contest) : Prop :=
  ∀ made ∈ contest, made.span.Consistent

end ContestSync
