/-
How a message is sent to Telegram, chunk by chunk. Each chunk has three attempts. An
attempt that the service wants repeated later leaves no error behind, so that a chunk
with three such attempts is given up without one.
-/

import ContestSync.TelegramMessages

namespace ContestSync.Telegram

/-- What `client.Do` returns for one request. `retryAfter` is `none` when the body
cannot be decoded, and zero when it has no such parameter. -/
inductive Outcome where
  | failed (error : String)
  | response (status : Int) (retryAfter : Option Int)
deriving DecidableEq

def Outcome.delivered : Outcome → Bool
  | .failed _ => false
  | .response status _ => 200 ≤ status ∧ status < 300

def Outcome.retryDelay : Outcome → Option Int
  | .failed _ => none
  | .response _ none => none
  | .response _ (some seconds) => if 0 < seconds then some seconds else none

inductive SendError where
  | coolingDown
  | proxy (status : Int)
  | transport (error : String)
deriving DecidableEq

def SendError.text : SendError → String
  | .coolingDown => "telegram client is in cooldown mode due to consecutive failures"
  | .proxy status => "telegram proxy error: status " ++ toString status
  | .transport error => error

def Outcome.error : Outcome → SendError
  | .failed error => .transport error
  | .response status _ => .proxy status

/-- The client, the clock, and how many requests have been made. -/
structure Client where
  failures : Int
  coolDownUntil : Int
  clock : Int
  requests : Nat
deriving DecidableEq

def millisecond : Int :=
  1000000

def Client.wait (client : Client) (duration : Int) : Client :=
  { client with clock := client.clock + duration }

def Client.recordFailure (client : Client) : Client :=
  { client with
    failures := client.failures + 1
    coolDownUntil :=
      if 3 ≤ client.failures + 1 then client.clock + 300000 * millisecond
      else client.coolDownUntil }

def Client.recordSuccess (client : Client) : Client :=
  { client with failures := 0 }

/-- What the network does with each request, and how long that takes. -/
abbrev Network := Nat → Outcome × Nat

structure Delivery where
  outcomes : List Outcome
  error : Option SendError
  client : Client
deriving DecidableEq

/-- The loop of `sendChunk`. -/
def attempts (network : Network) :
    (remaining : Nat) → (delay : Int) → (lastErr : Option SendError) → Client → Delivery
  | 0, _, lastErr, client => ⟨[], lastErr, client.recordFailure⟩
  | remaining + 1, delay, lastErr, client =>
    let (outcome, elapsed) := network client.requests
    let client := { client.wait elapsed with requests := client.requests + 1 }
    if outcome.delivered then ⟨[outcome], none, client.recordSuccess⟩
    else
      let rest :=
        match outcome.retryDelay with
        -- `continue`: neither `lastErr` nor `delay` changes.
        | some seconds =>
          attempts network remaining delay lastErr (client.wait (seconds * (1000 * millisecond)))
        | none =>
          attempts network remaining (delay * 2) (some outcome.error) (client.wait delay)
      { rest with outcomes := outcome :: rest.outcomes }

def sendChunk (network : Network) (client : Client) : Delivery :=
  attempts network 3 (500 * millisecond) none client

/-- The chunks that were tried, with what became of each. -/
structure Report where
  tried : List (Bytes × List Outcome)
  error : Option SendError
  client : Client
deriving DecidableEq

def sendChunks (network : Network) : List Bytes → Client → Report
  | [], client => ⟨[], none, client⟩
  | chunk :: rest, client =>
    let delivery := sendChunk network client
    match delivery.error with
    | some error => ⟨[(chunk, delivery.outcomes)], some error, delivery.client⟩
    | none =>
      let report := sendChunks network rest delivery.client
      { report with tried := (chunk, delivery.outcomes) :: report.tried }

def send (network : Network) (source message : Bytes) (client : Client) : Report :=
  if client.clock < client.coolDownUntil then ⟨[], some .coolingDown, client⟩
  else sendChunks network (messageChunks (sentText source message)) client

/-! ### What a missing error means -/

def Outcome.RateLimited (outcome : Outcome) : Prop :=
  outcome.delivered = false ∧ outcome.retryDelay ≠ none

def Answered (outcomes : List Outcome) : Prop :=
  ∃ outcome ∈ outcomes, outcome.delivered = true

instance : DecidablePred Answered := fun outcomes =>
  inferInstanceAs (Decidable (∃ outcome ∈ outcomes, outcome.delivered = true))

instance : DecidablePred Outcome.RateLimited := fun outcome =>
  inferInstanceAs (Decidable (outcome.delivered = false ∧ outcome.retryDelay ≠ none))

def GivenUp (outcomes : List Outcome) : Prop :=
  outcomes.length = 3 ∧ ∀ outcome ∈ outcomes, outcome.RateLimited

instance : DecidablePred GivenUp := fun outcomes =>
  inferInstanceAs (Decidable (outcomes.length = 3 ∧ ∀ outcome ∈ outcomes, outcome.RateLimited))

theorem not_answered_of_rateLimited {outcomes : List Outcome}
    (limited : ∀ outcome ∈ outcomes, outcome.RateLimited) : ¬Answered outcomes := by
  rintro ⟨outcome, member, delivered⟩
  have undelivered := (limited outcome member).1
  rw [delivered] at undelivered
  cases undelivered

section Attempts

variable {network : Network}

/-- Without an error the chunk was answered, or there was none before and every attempt
was to be repeated. -/
theorem attempts_without_error {remaining : Nat} {delay : Int} {lastErr : Option SendError}
    {client : Client} (nil : (attempts network remaining delay lastErr client).error = none) :
    Answered (attempts network remaining delay lastErr client).outcomes ∨ (lastErr = none ∧
        (attempts network remaining delay lastErr client).outcomes.length = remaining ∧
        ∀ outcome ∈ (attempts network remaining delay lastErr client).outcomes,
          outcome.RateLimited) := by
  induction remaining generalizing delay lastErr client with
  | zero => exact .inr ⟨nil, rfl, nofun⟩
  | succ remaining ih =>
    rw [attempts] at nil ⊢
    generalize network client.requests = answer at nil ⊢
    obtain ⟨outcome, elapsed⟩ := answer
    simp only at nil ⊢
    by_cases delivered : outcome.delivered = true
    · rw [if_pos delivered]
      exact .inl ⟨outcome, List.mem_singleton_self _, delivered⟩
    · rw [if_neg delivered] at nil ⊢
      cases limited : outcome.retryDelay with
      | some seconds =>
        simp only [limited] at nil ⊢
        rcases ih nil with ⟨later, member, answered⟩ | ⟨none, length, all⟩
        · exact .inl ⟨later, List.mem_cons_of_mem _ member, answered⟩
        · right
          refine ⟨none, by rw [List.length_cons, length], ?_⟩
          rw [List.forall_mem_cons]
          refine ⟨⟨Bool.not_eq_true _ ▸ delivered, ?_⟩, all⟩
          rw [limited]
          exact nofun
      | none =>
        simp only [limited] at nil ⊢
        rcases ih nil with ⟨later, member, answered⟩ | ⟨impossible, _⟩
        · exact .inl ⟨later, List.mem_cons_of_mem _ member, answered⟩
        · cases impossible

theorem sendChunk_without_error {client : Client} (nil : (sendChunk network client).error = none) :
    Answered (sendChunk network client).outcomes ∨ GivenUp (sendChunk network client).outcomes := by
  rcases attempts_without_error nil with answered | ⟨_, length, limited⟩
  · exact .inl answered
  · exact .inr ⟨length, limited⟩

theorem sendChunks_without_error {chunks : List Bytes} {client : Client}
    (nil : (sendChunks network chunks client).error = none) :
    (sendChunks network chunks client).tried.map Prod.fst = chunks ∧
      ∀ entry ∈ (sendChunks network chunks client).tried, Answered entry.2 ∨ GivenUp entry.2 := by
  induction chunks generalizing client with
  | nil => exact ⟨rfl, nofun⟩
  | cons chunk rest ih =>
    rw [sendChunks] at nil ⊢
    cases failed : (sendChunk network client).error with
    | some error => simp [failed] at nil
    | none =>
      simp only [failed] at nil ⊢
      obtain ⟨chunks, others⟩ := ih nil
      rw [List.map_cons, chunks, List.forall_mem_cons]
      exact ⟨rfl, sendChunk_without_error failed, others⟩

end Attempts

theorem send_nil_answered_iff {network : Network} {source message : Bytes} {client : Client}
    (nil : (send network source message client).error = none) :
    (send network source message client).tried.map Prod.fst =
        messageChunks (sentText source message) ∧
      ((∀ entry ∈ (send network source message client).tried, Answered entry.2) ↔
        ∀ entry ∈ (send network source message client).tried, ¬GivenUp entry.2) := by
  unfold send at nil ⊢
  split at nil
  · cases nil
  · rename_i ready
    rw [if_neg ready]
    obtain ⟨chunks, each⟩ := sendChunks_without_error nil
    refine ⟨chunks, ?_⟩
    constructor
    · intro answered entry member givenUp
      exact not_answered_of_rateLimited givenUp.2 (answered entry member)
    · intro kept entry member
      exact (each entry member).resolve_right (kept entry member)

/-- The first request is limited, the second one accepted. -/
def recoveringNetwork : Network := fun request =>
  if request = 0 then (.response 429 (some 1), 0) else (.response 200 none, 0)

theorem recovering_send_answered :
    (send recoveringNetwork [] (literal "disk full") ⟨0, 0, 0, 0⟩).error = none ∧
      ∀ entry ∈ (send recoveringNetwork [] (literal "disk full") ⟨0, 0, 0, 0⟩).tried,
        Answered entry.2 := by
  have nil : (send recoveringNetwork [] (literal "disk full") ⟨0, 0, 0, 0⟩).error = none := by
    decide +kernel
  exact ⟨nil, (send_nil_answered_iff nil).2.mpr (by decide +kernel)⟩

/-- All three requests are limited: the message is lost, the failure is counted, and no
error is returned. -/
theorem limited_send_reports_success :
    (send (fun _ => (.response 429 (some 1), 0)) [] (literal "disk full") ⟨0, 0, 0, 0⟩).error =
        none ∧
      (send (fun _ => (.response 429 (some 1), 0)) [] (literal "disk full") ⟨0, 0, 0, 0⟩).tried =
        [(literal "disk full", List.replicate 3 (.response 429 (some 1)))] ∧
      ¬Answered (List.replicate 3 (.response 429 (some 1))) ∧
      (send (fun _ => (.response 429 (some 1), 0)) [] (literal "disk full")
        ⟨0, 0, 0, 0⟩).client.failures = 1 := by
  decide +kernel

end ContestSync.Telegram
