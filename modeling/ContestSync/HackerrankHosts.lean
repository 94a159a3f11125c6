/-
The HackerRank fetcher takes over an event whose URL has the scheme https and a host that
ends in `hackerrank.com`. That is weaker than the host being `hackerrank.com` or a subdomain:
the name of another site may end in the same letters. It is also stronger, since the host of
a URL with a port ends in the port.
-/

import ContestSync.Fetchers
import Mathlib.Data.List.TakeWhile

namespace ContestSync

def dottedName : Url.Bytes :=
  urlBytes ".hackerrank.com"

/-- `hackerrank.com` or a subdomain of it. -/
def TrustedHost (host : Url.Bytes) : Prop :=
  host = trustedName ∨ dottedName <:+ host

instance (host : Url.Bytes) : Decidable (TrustedHost host) :=
  inferInstanceAs (Decidable (_ ∨ _))

/-- The host without its port. -/
def hostname (host : Url.Bytes) : Url.Bytes :=
  host.takeWhile (· ≠ 58)

section Hosts

variable {isAddress : Url.Bytes → Bool} {parsed : Url.Parsed}

theorem TrustedHost.suffix {host : Url.Bytes} (trusted : TrustedHost host) :
    trustedName <:+ host := by
  rcases trusted with same | subdomain
  · rw [same]
  · have inside : trustedName <:+ dottedName := by decide
    exact inside.trans subdomain

theorem hostname_of_notMem {host : Url.Bytes} (absent : 58 ∉ host) : hostname host = host := by
  rw [hostname, List.takeWhile_eq_self_iff]
  intro byte member
  rw [decide_eq_true_eq]
  intro same
  rw [same] at member
  exact absent member

theorem notMem_of_suffix {raw : Url.Bytes} (read : Url.parse isAddress raw = some parsed)
    (secure : parsed.scheme = https) (named : trustedName <:+ parsed.host) :
    58 ∉ parsed.host := by
  intro colon
  have web : parsed.scheme = [104, 116, 116, 112, 115] := secure.trans (by decide)
  obtain ⟨body, last, ends, kind⟩ := Url.parse_endsPort (Or.inr web) read colon
  obtain ⟨front, whole⟩ := named
  have split : trustedName = trustedName.dropLast ++ [109] := by decide
  rw [ends, split, ← List.append_assoc] at whole
  have final : (109 : UInt8) = last := by
    have tails := (List.append_inj' whole rfl).2
    exact List.head_eq_of_cons_eq tails
  rw [← final] at kind
  revert kind
  decide

theorem acceptedURL_iff {url : String} (read : Url.parse isAddress (urlBytes url) = some parsed) :
    acceptedURL isAddress url = true ↔ parsed.scheme = https ∧ trustedName <:+ parsed.host := by
  rw [acceptedURL, read]
  exact decide_eq_true_iff

end Hosts

/-! ### Events -/

section Events

variable (isAddress : Url.Bytes → Bool)

def TrustedURL (url : String) : Prop :=
  ∃ parsed, Url.parse isAddress (urlBytes url) = some parsed ∧ parsed.scheme = https ∧
    TrustedHost parsed.host

namespace HackerrankEntry

def Complete (entry : HackerrankEntry) : Prop :=
  ¬(entry.name = "" ∨ entry.url = "" ∨ entry.startTime = "" ∨ entry.endTime = "")

/-- The contest of the event, if its times can be read. -/
def listed (entry : HackerrankEntry) : Option Contest :=
  contestBetween "hackerrank" entry.name entry.url (parseISO entry.startTime)
    (parseISO entry.endTime)

theorem contest_eq_some_iff (entry : HackerrankEntry) (contest : Contest) :
    entry.contest isAddress = some contest ↔
      entry.Complete ∧ acceptedURL isAddress entry.url = true ∧ entry.listed = some contest := by
  rw [HackerrankEntry.contest, Complete, listed]
  split_ifs with incomplete accepted
  · simp [incomplete]
  · simp [incomplete, accepted]
  · simp [accepted]

theorem url_of_listed {entry : HackerrankEntry} {contest : Contest}
    (listed : entry.listed = some contest) : contest.url = entry.url := by
  simp only [HackerrankEntry.listed, contestBetween, Option.bind_eq_bind,
    Option.bind_eq_some_iff] at listed
  obtain ⟨_, _, _, _, same⟩ := listed
  cases same
  rfl

end HackerrankEntry

def returnedEvents (entries : List HackerrankEntry) : List Contest :=
  entries.filterMap (HackerrankEntry.contest isAddress)

theorem mem_returnedEvents {entries : List HackerrankEntry} {contest : Contest} :
    contest ∈ returnedEvents isAddress entries ↔
      ∃ entry ∈ entries, entry.Complete ∧ acceptedURL isAddress entry.url = true ∧
        entry.listed = some contest := by
  simp only [returnedEvents, List.mem_filterMap, HackerrankEntry.contest_eq_some_iff]

variable {isAddress} {entries : List HackerrankEntry} {entry : HackerrankEntry}
  {contest : Contest} {parsed : Url.Parsed}

theorem mem_returnedEvents_of_suffix (member : entry ∈ entries) (complete : entry.Complete)
    (listed : entry.listed = some contest)
    (read : Url.parse isAddress (urlBytes entry.url) = some parsed)
    (secure : parsed.scheme = https) (named : trustedName <:+ parsed.host) :
    contest ∈ returnedEvents isAddress entries := by
  rw [mem_returnedEvents]
  exact ⟨entry, member, complete, (acceptedURL_iff read).mpr ⟨secure, named⟩, listed⟩

theorem forall_returned_trusted_iff :
    (∀ contest ∈ returnedEvents isAddress entries, TrustedURL isAddress contest.url) ↔
      ∀ entry ∈ entries, entry.Complete → entry.listed.isSome = true → ∀ parsed,
        Url.parse isAddress (urlBytes entry.url) = some parsed → parsed.scheme = https →
          trustedName <:+ parsed.host → TrustedHost parsed.host := by
  constructor
  · intro safe entry member complete timed parsed read secure named
    obtain ⟨contest, listed⟩ := Option.isSome_iff_exists.mp timed
    have returned := mem_returnedEvents_of_suffix member complete listed read secure named
    obtain ⟨other, again, _, trusted⟩ := safe contest returned
    rw [HackerrankEntry.url_of_listed listed, read] at again
    rw [Option.some.inj again]
    exact trusted
  · intro genuine contest returned
    rw [mem_returnedEvents] at returned
    obtain ⟨entry, member, complete, accepted, listed⟩ := returned
    rw [HackerrankEntry.url_of_listed listed]
    cases read : Url.parse isAddress (urlBytes entry.url) with
    | none =>
      rw [acceptedURL, read] at accepted
      cases accepted
    | some parsed =>
      obtain ⟨secure, named⟩ := (acceptedURL_iff read).mp accepted
      have timed : entry.listed.isSome = true := by
        rw [listed]
        rfl
      exact ⟨parsed, read, secure, genuine entry member complete timed parsed read secure named⟩

theorem notMem_of_returned (listed : entry.listed = some contest)
    (read : Url.parse isAddress (urlBytes entry.url) = some parsed)
    (secure : parsed.scheme = https) (returned : contest ∈ returnedEvents isAddress entries) :
    58 ∉ parsed.host := by
  rw [mem_returnedEvents] at returned
  obtain ⟨source, _, _, accepted, same⟩ := returned
  rw [← HackerrankEntry.url_of_listed same, HackerrankEntry.url_of_listed listed,
    acceptedURL_iff read] at accepted
  exact notMem_of_suffix read secure accepted.2

end Events

/-- The returned URLs are all trusted exactly when no event has the host of a look-alike, and
of the events on trusted hosts exactly those without a port are returned. -/
theorem returned_hosts (isAddress : Url.Bytes → Bool) (entries : List HackerrankEntry) :
    fetchHackerrankContests isAddress (.ok entries) = .ok (returnedEvents isAddress entries) ∧
    ((∀ contest ∈ returnedEvents isAddress entries, TrustedURL isAddress contest.url) ↔
      ∀ entry ∈ entries, entry.Complete → entry.listed.isSome = true → ∀ parsed,
        Url.parse isAddress (urlBytes entry.url) = some parsed → parsed.scheme = https →
          trustedName <:+ parsed.host → TrustedHost parsed.host) ∧
    ∀ entry ∈ entries, entry.Complete → ∀ contest, entry.listed = some contest → ∀ parsed,
      Url.parse isAddress (urlBytes entry.url) = some parsed → parsed.scheme = https →
        (TrustedHost parsed.host → contest ∈ returnedEvents isAddress entries) ∧
        (TrustedHost (hostname parsed.host) →
          (contest ∈ returnedEvents isAddress entries ↔ 58 ∉ parsed.host)) := by
  refine ⟨rfl, forall_returned_trusted_iff, ?_⟩
  intro entry member complete contest listed parsed read secure
  have taken : TrustedHost parsed.host → contest ∈ returnedEvents isAddress entries := by
    intro trusted
    exact mem_returnedEvents_of_suffix member complete listed read secure trusted.suffix
  refine ⟨taken, ?_⟩
  intro trusted
  constructor
  · exact notMem_of_returned listed read secure
  · intro absent
    rw [hostname_of_notMem absent] at trusted
    exact taken trusted

/-- Another site is returned, and a trusted host with a port is dropped. -/
theorem lookalike_returned :
    (returnedEvents (fun _ => false)
        [⟨"A", "https://evilhackerrank.com/a", "2026-05-25T14:00:00Z", "2026-05-25T16:00:00Z"⟩,
          ⟨"B", "https://www.hackerrank.com:443/b", "2026-05-25T14:00:00Z",
            "2026-05-25T16:00:00Z"⟩]).map Contest.url = ["https://evilhackerrank.com/a"] ∧
      ¬TrustedURL (fun _ => false) "https://evilhackerrank.com/a" := by
  have read : Url.parse (fun _ => false) (urlBytes "https://evilhackerrank.com/a") =
      some ⟨https, urlBytes "evilhackerrank.com"⟩ := by
    decide +kernel
  constructor
  · decide +kernel
  · rintro ⟨parsed, again, _, trusted⟩
    rw [read] at again
    rw [← Option.some.inj again] at trusted
    revert trusted
    decide +kernel

end ContestSync
