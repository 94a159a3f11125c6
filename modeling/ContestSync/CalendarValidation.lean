/-
The two handlers that ask Google whether a user's token still opens the calendar. One keeps
its verdict in Valkey for a while, the other starts a sync unless that verdict or Google
says no. The verdicts are compared with what the answers of Google establish.
-/

import Mathlib.Data.List.Basic
import Mathlib.Data.List.Infix

namespace ContestSync.CalendarValidation

/-! ### What the handlers are told -/

/-- What `SELECT refresh_token` gives. A user without a row has no token either. -/
inductive TokenRead where
  | failed
  | found (refreshToken : Option String)
deriving DecidableEq

/-- What a request to Google comes to, a timeout among the unreachable. The body is `none`
when it cannot be decoded. -/
inductive Reply (Body : Type) where
  | unreachable
  | response (status : Int) (body : Option Body)
deriving DecidableEq

/-- The decoded body of a token exchange. One that has neither a token nor an error counts
as not decodable. -/
inductive TokenBody where
  | granted (accessToken : String)
  | refused (errorCode : String)
deriving DecidableEq

/-- Everything one check of a user's token is told, the later answers only if it asks. -/
structure Check where
  token : TokenRead
  exchange : Reply TokenBody
  tokeninfo : Reply String
deriving DecidableEq

/-- `DecryptToken` with the key of the handlers, and whether the address of the tokeninfo
request can be parsed with an access token at its end. -/
structure Setup where
  decrypt : String → Option String
  builds : String → Bool

/-! ### The steps of both handlers -/

/-- The test `err != nil || encryptedRefreshToken == ""`. -/
def readToken : TokenRead → Option String
  | .failed => none
  | .found none => none
  | .found (some text) => if text = "" then none else some text

variable (setup : Setup)

/-- The test `err != nil || refreshToken == ""`. -/
def Setup.decryptToken (text : String) : Option String :=
  (setup.decrypt text).filter (fun plain => plain ≠ "")

/-- `tokenSource.Token()`, which fails on every answer that is no access token. -/
def exchangeToken : Reply TokenBody → Option String
  | .response status (some (.granted accessToken)) =>
    if 200 ≤ status ∧ status ≤ 299 then some accessToken else none
  | _ => none

def calendarScope : String :=
  "https://www.googleapis.com/auth/calendar"

/-- The function `strings.Contains(info.Scope, …)`. -/
def CoversCalendar (scope : String) : Prop :=
  calendarScope.toList <:+: scope.toList

instance (scope : String) : Decidable (CoversCalendar scope) :=
  inferInstanceAs (Decidable (_ <:+: _))

/-! ### ValidateCalendarAccess -/

def minute : Int :=
  60000000000

structure Payload where
  valid : Bool
  code : String
  errorType : Option String
deriving DecidableEq

def credentialFailure (errorType : String) : Payload :=
  ⟨false, "credential_failure", some errorType⟩

def operationalFailure (errorType : String) : Payload :=
  ⟨false, "operational_failure", some errorType⟩

/-- The part of a validation that asks Google: its answer, and how long that is kept. -/
def validateWithGoogle (check : Check) : Payload × Int :=
  match exchangeToken check.exchange with
  | none => (credentialFailure "invalid_grant", 15 * minute)
  | some accessToken =>
    if setup.builds accessToken then
      match check.tokeninfo with
      | .unreachable => (operationalFailure "tokeninfo_network_error", minute)
      | .response status body =>
        if status ≠ 200 then (credentialFailure "token_invalid", 15 * minute)
        else
          match body with
          | none => (credentialFailure "missing_calendar_scope", 15 * minute)
          | some scope =>
            if CoversCalendar scope then (⟨true, "success", none⟩, 15 * minute)
            else (credentialFailure "missing_calendar_scope", 15 * minute)
    else (operationalFailure "request_creation_failed", minute)

def validation (check : Check) : Payload × Int :=
  match readToken check.token with
  | none => (credentialFailure "missing_refresh_token", 5 * minute)
  | some encrypted =>
    match setup.decryptToken encrypted with
    | none => (credentialFailure "invalid_refresh_token", 5 * minute)
    | some _ => validateWithGoogle setup check

/-- The value under the user's key. The check it came from is not part of the value. -/
structure Cached where
  payload : Payload
  expiry : Int
  origin : Check
deriving DecidableEq

structure State where
  clock : Int
  cached : Option Cached
deriving DecidableEq

/-- `Valkey.Get`, which fails while Valkey does not answer. -/
def State.get (state : State) (answers : Bool) : Option Cached :=
  if answers then state.cached.filter (fun cached => state.clock < cached.expiry) else none

structure ValidationRequest where
  answers : Bool
  check : Check
  duration : Nat
  stored : Bool
deriving DecidableEq

/-- The cached answer if there is one, else a validation and `writeJSONAndCache`. -/
def validateCalendarAccess (state : State) (request : ValidationRequest) :
    Payload × State :=
  match state.get request.answers with
  | some cached => (cached.payload, state)
  | none =>
    let (payload, ttl) := validation setup request.check
    let finished := state.clock + request.duration
    (payload, ⟨finished, if request.stored then some ⟨payload, finished + ttl, request.check⟩
        else state.cached⟩)

/-! ### ManualSync -/

structure Response where
  status : Int
  body : List (String × String)
deriving DecidableEq

def errorResponse (status : Int) (text : String) : Response :=
  ⟨status, [("error", text)]⟩

/-- The last sync as Valkey has it, and as the table has it: `none` when the query fails. -/
structure SyncRequest where
  lastSyncCached : Option Int
  lastSyncRow : Option (Option Int)
  answers : Bool
  check : Check
  published : Bool
  duration : Nat
deriving DecidableEq

def SyncRequest.lastSyncAt (request : SyncRequest) : Option (Option Int) :=
  match request.lastSyncCached with
  | some time => some (some time)
  | none => request.lastSyncRow

def tooSoon (clock : Int) : Option Int → Bool
  | none => false
  | some time => clock - time < minute

/-- The cached verdict that makes a sync answer 403 before it asks Google. -/
def State.refusal (state : State) (answers : Bool) : Option Cached :=
  (state.get answers).filter (fun cached => !cached.payload.valid)

/-- The part of `ManualSync` that asks Google. -/
def verifyAndPublish (request : SyncRequest) : Response :=
  match exchangeToken request.check.exchange with
  | none => errorResponse 403 "google calendar permission revoked"
  | some accessToken =>
    if setup.builds accessToken then
      match request.check.tokeninfo with
      | .unreachable =>
        errorResponse 503 "unable to verify calendar permissions, please try again"
      | .response status body =>
        if status ≠ 200 then
          if status = 429 ∨ 500 ≤ status then
            errorResponse 503
              "calendar validation service temporarily unavailable, please try again"
          else errorResponse 403 "google calendar permission validation failed"
        else
          match body with
          | none =>
            errorResponse 503 "unable to parse validation response, please try again"
          | some scope =>
            if CoversCalendar scope then
              if request.published then ⟨200, [("status", "sync queued")]⟩
              else errorResponse 500 "sync failed to queue"
            else errorResponse 403 "google calendar permission scope missing"
    else errorResponse 500 "failed to create validation request"

def manualSync (state : State) (request : SyncRequest) : Response :=
  match request.lastSyncAt with
  | none => errorResponse 500 "internal server error"
  | some lastSyncAt =>
    if tooSoon state.clock lastSyncAt then
      ⟨200, [("status", "rate_limited"), ("message", "Please wait 1 minute between manual syncs.")]⟩
    else
      match readToken request.check.token with
      | none => errorResponse 403 "calendar access permission missing"
      | some encrypted =>
        match setup.decryptToken encrypted with
        | none => errorResponse 403 "invalid refresh token"
        | some _ =>
          match state.refusal request.answers with
          | some _ => errorResponse 403 "calendar access permission missing"
          | none => verifyAndPublish setup request

/-! ### Runs -/

/-- What happens to a user: a request, a login that deletes the key if Valkey answers, or
time that passes between them. -/
inductive Event where
  | passing (duration : Nat)
  | login (deleted : Bool)
  | validate (request : ValidationRequest)
  | sync (request : SyncRequest)
deriving DecidableEq

def step (state : State) : Event → State
  | .passing duration => { state with clock := state.clock + duration }
  | .login deleted => if deleted then { state with cached := none } else state
  | .validate request => (validateCalendarAccess setup state request).2
  | .sync request => { state with clock := state.clock + request.duration }

def run (start : Int) (events : List Event) : State :=
  events.foldl (step setup) ⟨start, none⟩

theorem run_concat (start : Int) (events : List Event) (event : Event) :
    run setup start (events ++ [event]) = step setup (run setup start events) event := by
  simp only [run, List.foldl_append, List.foldl_cons, List.foldl_nil]

/-! ### What the answers establish -/

inductive Judgement (Value : Type) where
  | unclear
  | rejected
  | granted (value : Value)
deriving DecidableEq

/-- Google has not decided in an answer that says to come back, or that cannot be read. -/
def judgeExchange : Reply TokenBody → Judgement String
  | .unreachable => .unclear
  | .response status body =>
    if status = 429 ∨ 500 ≤ status then .unclear
    else if status < 200 ∨ 299 < status then .rejected
    else
      match body with
      | none => .unclear
      | some (.refused _) => .rejected
      | some (.granted accessToken) => .granted accessToken

def judgeTokeninfo : Reply String → Judgement String
  | .unreachable => .unclear
  | .response status body =>
    if status = 429 ∨ 500 ≤ status then .unclear
    else if status ≠ 200 then .rejected
    else
      match body with
      | none => .unclear
      | some scope => if CoversCalendar scope then .granted scope else .rejected

inductive Finding where
  | unread
  | missing
  | undecryptable
  | exchangeUnclear
  | exchangeRejected
  | unbuilt
  | tokeninfoUnclear
  | tokeninfoRejected
  | granted
deriving DecidableEq

def googleFinding (check : Check) : Finding :=
  match judgeExchange check.exchange with
  | .unclear => .exchangeUnclear
  | .rejected => .exchangeRejected
  | .granted accessToken =>
    if setup.builds accessToken then
      match judgeTokeninfo check.tokeninfo with
      | .unclear => .tokeninfoUnclear
      | .rejected => .tokeninfoRejected
      | .granted _ => .granted
    else .unbuilt

/-- How far a check gets and what it ends with. -/
def finding (check : Check) : Finding :=
  match check.token with
  | .failed => .unread
  | .found none => .missing
  | .found (some text) =>
    if text = "" then .missing
    else
      match setup.decryptToken text with
      | none => .undecryptable
      | some _ => googleFinding setup check

/-- The token is not there or not readable, or Google has rejected it or its scope. -/
def Finding.definite : Finding → Bool
  | .missing | .undecryptable | .exchangeRejected | .tokeninfoRejected => true
  | _ => false

/-- The check ended without an answer to the question. -/
def Finding.inconclusive : Finding → Bool
  | .unread | .exchangeUnclear | .unbuilt | .tokeninfoUnclear => true
  | _ => false

def Finding.asksGoogle : Finding → Bool
  | .unread | .missing | .undecryptable => false
  | _ => true

variable {outcome : Finding} {answers : Bool}

theorem Finding.inconclusive_eq (refused : outcome ≠ .granted) :
    outcome.inconclusive = !outcome.definite := by
  cases outcome with
  | granted => exact absurd rfl refused
  | _ => rfl

/-- `tokenSource.Token()` succeeds exactly when the answer is an access token; it does not
tell the two other judgements apart. -/
theorem exchangeToken_eq_some_iff (reply : Reply TokenBody) (accessToken : String) :
    exchangeToken reply = some accessToken ↔ judgeExchange reply = .granted accessToken := by
  cases reply with
  | unreachable => simp [exchangeToken, judgeExchange]
  | response status body =>
    match body with
    | none =>
      simp only [exchangeToken, judgeExchange]
      split_ifs <;> simp
    | some (.refused _) =>
      simp only [exchangeToken, judgeExchange]
      split_ifs <;> simp
    | some (.granted _) =>
      simp only [exchangeToken, judgeExchange]
      split_ifs <;> first | omega | simp

theorem exchangeToken_eq_none_iff (reply : Reply TokenBody) :
    exchangeToken reply = none ↔
      judgeExchange reply = .unclear ∨ judgeExchange reply = .rejected := by
  rw [Option.eq_none_iff_forall_ne_some]
  simp only [ne_eq, exchangeToken_eq_some_iff]
  cases judgeExchange reply <;> simp

theorem tokeninfo_cases (reply : Reply String) :
    (reply = .unreachable ∧ judgeTokeninfo .unreachable = .unclear) ∨
    (∃ status body, reply = .response status body ∧ status ≠ 200 ∧
      ((status = 429 ∨ 500 ≤ status) ∧ judgeTokeninfo (.response status body) = .unclear ∨
        ¬ (status = 429 ∨ 500 ≤ status) ∧ judgeTokeninfo (.response status body) = .rejected)) ∨
    (reply = .response 200 none ∧ judgeTokeninfo (.response 200 none) = .unclear) ∨
    ∃ scope, reply = .response 200 (some scope) ∧
      (CoversCalendar scope ∧ judgeTokeninfo (.response 200 (some scope)) = .granted scope ∨
        ¬ CoversCalendar scope ∧ judgeTokeninfo (.response 200 (some scope)) = .rejected) := by
  cases reply with
  | unreachable => exact Or.inl ⟨rfl, rfl⟩
  | response status body =>
    right
    by_cases success : status = 200
    · right
      subst success
      cases body with
      | none => exact Or.inl ⟨rfl, rfl⟩
      | some scope =>
        right
        refine ⟨scope, rfl, ?_⟩
        by_cases covered : CoversCalendar scope
        · exact Or.inl ⟨covered, by simp [judgeTokeninfo, covered]⟩
        · exact Or.inr ⟨covered, by simp [judgeTokeninfo, covered]⟩
    · left
      refine ⟨status, body, rfl, success, ?_⟩
      by_cases waits : status = 429 ∨ 500 ≤ status
      · exact Or.inl ⟨waits, by simp [judgeTokeninfo, waits]⟩
      · exact Or.inr ⟨waits, by simp [judgeTokeninfo, success, waits]⟩

/-! ### What each handler makes of a finding -/

/-- A validation says yes only if Google does, and no in every other case. -/
theorem validateWithGoogle_valid_iff (check : Check) :
    (validateWithGoogle setup check).1.valid = true ↔ googleFinding setup check = .granted := by
  unfold validateWithGoogle googleFinding
  cases exchanged : exchangeToken check.exchange with
  | none =>
    rcases (exchangeToken_eq_none_iff _).mp exchanged with unclear | rejected
    · simp [unclear, credentialFailure]
    · simp [rejected, credentialFailure]
  | some accessToken =>
    simp only [(exchangeToken_eq_some_iff _ _).mp exchanged]
    by_cases built : setup.builds accessToken
    · simp only [built, if_true]
      rcases tokeninfo_cases check.tokeninfo with ⟨reply, judged⟩ |
        ⟨status, body, reply, failed, ⟨_, judged⟩ | ⟨_, judged⟩⟩ | ⟨reply, judged⟩ |
        ⟨scope, reply, ⟨covered, judged⟩ | ⟨uncovered, judged⟩⟩
      · simp [reply, judged, operationalFailure]
      · simp [reply, judged, failed, credentialFailure]
      · simp [reply, judged, failed, credentialFailure]
      · simp [reply, judged, credentialFailure]
      · simp [reply, judged, covered]
      · simp [reply, judged, uncovered, credentialFailure]
    · simp [built, operationalFailure]

theorem verifyAndPublish_forbidden_iff (request : SyncRequest) :
    (verifyAndPublish setup request).status = 403 ↔
      googleFinding setup request.check = .exchangeUnclear ∨
        (googleFinding setup request.check).definite = true := by
  unfold verifyAndPublish googleFinding
  cases exchanged : exchangeToken request.check.exchange with
  | none =>
    rcases (exchangeToken_eq_none_iff _).mp exchanged with unclear | rejected
    · simp [unclear, errorResponse]
    · simp [rejected, errorResponse, Finding.definite]
  | some accessToken =>
    simp only [(exchangeToken_eq_some_iff _ _).mp exchanged]
    by_cases built : setup.builds accessToken
    · simp only [built, if_true]
      rcases tokeninfo_cases request.check.tokeninfo with ⟨reply, judged⟩ |
        ⟨status, body, reply, failed, ⟨waits, judged⟩ | ⟨decided, judged⟩⟩ | ⟨reply, judged⟩ |
        ⟨scope, reply, ⟨covered, judged⟩ | ⟨uncovered, judged⟩⟩
      · simp [reply, judged, errorResponse, Finding.definite]
      · simp [reply, judged, failed, waits, errorResponse, Finding.definite]
      · simp [reply, judged, failed, decided, errorResponse, Finding.definite]
      · simp [reply, judged, errorResponse, Finding.definite]
      · cases published : request.published <;>
          simp [reply, judged, covered, errorResponse, Finding.definite]
      · simp [reply, judged, uncovered, errorResponse, Finding.definite]
    · simp [built, errorResponse, Finding.definite]

theorem validation_valid_iff (check : Check) :
    (validation setup check).1.valid = true ↔ finding setup check = .granted := by
  unfold validation finding
  match check.token with
  | .failed => simp [readToken, credentialFailure]
  | .found none => simp [readToken, credentialFailure]
  | .found (some text) =>
    by_cases empty : text = ""
    · simp [readToken, empty, credentialFailure]
    · simp only [readToken, empty, if_false]
      cases setup.decryptToken text with
      | none => simp [credentialFailure]
      | some _ => exact validateWithGoogle_valid_iff setup check

/-- The request comes to the token: the last sync is known and not too recent. -/
def Reached (state : State) (request : SyncRequest) : Prop :=
  ∃ lastSyncAt, request.lastSyncAt = some lastSyncAt ∧ tooSoon state.clock lastSyncAt = false

/-- When a sync that comes to the token is answered 403: the token is not readable, or a
cached verdict says no, or Google says no or does not exchange the token. -/
def Forbidden (state : State) (request : SyncRequest) : Prop :=
  let own := finding setup request.check
  own.asksGoogle = false ∨
    (own.asksGoogle = true ∧ ∃ cached, state.refusal request.answers = some cached) ∨
      (own.asksGoogle = true ∧ state.refusal request.answers = none ∧
        (own = .exchangeUnclear ∨ own.definite = true))

theorem googleFinding_asksGoogle (check : Check) :
    (googleFinding setup check).asksGoogle = true := by
  unfold googleFinding
  repeat' split
  all_goals rfl

theorem manualSync_forbidden_iff (state : State) (request : SyncRequest) :
    (manualSync setup state request).status = 403 ↔
      Reached state request ∧ Forbidden setup state request := by
  unfold manualSync Reached
  cases request.lastSyncAt with
  | none => simp [errorResponse]
  | some lastSyncAt =>
    by_cases soon : tooSoon state.clock lastSyncAt = true
    · simp [soon]
    · simp only [soon, Option.some.injEq, exists_eq_left', true_and]
      unfold Forbidden finding
      match request.check.token with
      | .failed => simp [readToken, errorResponse, Finding.asksGoogle]
      | .found none => simp [readToken, errorResponse, Finding.asksGoogle]
      | .found (some text) =>
        by_cases empty : text = ""
        · simp [readToken, empty, errorResponse, Finding.asksGoogle]
        · simp only [readToken, empty, if_false]
          cases setup.decryptToken text with
          | none => simp [errorResponse, Finding.asksGoogle]
          | some _ =>
            have asks := googleFinding_asksGoogle setup request.check
            cases state.refusal request.answers with
            | some cached => simp [asks, errorResponse]
            | none => simp [asks, verifyAndPublish_forbidden_iff]

/-! ### Where a cached verdict comes from -/

/-- A validation of the past has left this verdict. -/
def Kept (start : Int) (events : List Event) (cached : Cached) : Prop :=
  ∃ before request after, events = before ++ .validate request :: after ∧
    (run setup start before).get request.answers = none ∧ request.stored = true ∧
      cached = ⟨(validation setup request.check).1,
        (run setup start before).clock + request.duration + (validation setup request.check).2,
        request.check⟩

variable {setup} {start : Int} {events : List Event} {cached : Cached}

theorem Kept.concat (kept : Kept setup start events cached) (event : Event) :
    Kept setup start (events ++ [event]) cached := by
  obtain ⟨before, request, after, split, asked, stored, same⟩ := kept
  refine ⟨before, request, after ++ [event], ?_, asked, stored, same⟩
  rw [split, List.append_assoc, List.cons_append]

variable {state : State}

/-- A step leaves the verdict that was there, none, or that of a validation it runs. -/
theorem step_cached {event : Event} (present : (step setup state event).cached = some cached) :
    state.cached = some cached ∨ ∃ request, event = .validate request ∧
      state.get request.answers = none ∧ request.stored = true ∧
        cached = ⟨(validation setup request.check).1,
          state.clock + request.duration + (validation setup request.check).2,
          request.check⟩ := by
  cases event with
  | passing duration => exact Or.inl present
  | sync request => exact Or.inl present
  | login deleted =>
    cases deleted with
    | true => cases present
    | false => exact Or.inl present
  | validate request =>
    simp only [step, validateCalendarAccess] at present
    cases answer : state.get request.answers with
    | some earlier =>
      simp only [answer] at present
      exact Or.inl present
    | none =>
      cases stored : request.stored with
      | false =>
        simp only [answer, stored] at present
        exact Or.inl present
      | true =>
        simp only [answer, stored, if_true, Option.some.injEq] at present
        exact Or.inr ⟨request, rfl, answer, stored, present.symm⟩

theorem run_cached (present : (run setup start events).cached = some cached) :
    Kept setup start events cached := by
  induction events using List.reverseRecOn with
  | nil => cases present
  | append_singleton events event ih =>
    rw [run_concat] at present
    rcases step_cached present with earlier | ⟨request, rfl, asked, stored, same⟩
    · exact (ih earlier).concat event
    · exact ⟨events, request, [], rfl, asked, stored, same⟩

theorem refusal_eq_some (refused : state.refusal answers = some cached) :
    state.cached = some cached ∧ cached.payload.valid = false ∧
      state.refusal true = some cached := by
  cases answers with
  | false => cases refused
  | true =>
    have found := Option.filter_eq_some_iff.mp refused
    have live := Option.filter_eq_some_iff.mp found.1
    refine ⟨live.1, ?_, refused⟩
    simpa using found.2

theorem refusal_kept (refused : (run setup start events).refusal answers = some cached) :
    Kept setup start events cached ∧ finding setup cached.origin ≠ .granted := by
  obtain ⟨present, invalid, _⟩ := refusal_eq_some refused
  have kept := run_cached present
  refine ⟨kept, fun granted => ?_⟩
  obtain ⟨_, request, _, _, _, _, rfl⟩ := kept
  have valid := (validation_valid_iff setup request.check).mpr granted
  exact absurd (valid.symm.trans invalid) (by decide)

/-! ### The answer 403 -/

/-- The verdict of a validation that found something definite is still cached. -/
def StillRejected (setup : Setup) (start : Int) (events : List Event) : Prop :=
  ∃ cached, (run setup start events).refusal true = some cached ∧
    Kept setup start events cached ∧ (finding setup cached.origin).definite = true

/-- The token is missing or not readable, or it was rejected, by an answer to this request
or in a validation that is still cached. -/
inductive Grounded (setup : Setup) (start : Int) (events : List Event)
    (request : SyncRequest) : Prop where
  | token (unusable : finding setup request.check = .missing ∨
      finding setup request.check = .undecryptable)
  | here (asked : (run setup start events).refusal request.answers = none)
      (rejected : finding setup request.check = .exchangeRejected ∨
        finding setup request.check = .tokeninfoRejected)
  | earlier (rejected : StillRejected setup start events)

def deciding (setup : Setup) (state : State) (request : SyncRequest) : Finding :=
  let own := finding setup request.check
  if own.asksGoogle then
    match state.refusal request.answers with
    | some cached => finding setup cached.origin
    | none => own
  else own

/-- Google could not be reached, said to come back, or sent what cannot be decoded. -/
def Finding.transient : Finding → Bool
  | .exchangeUnclear | .tokeninfoUnclear => true
  | _ => false

/-- A 403 has a ground, and no temporary failure of Google has led to it. -/
structure Warranted (setup : Setup) (start : Int) (events : List Event)
    (request : SyncRequest) : Prop where
  ground : Grounded setup start events request
  decided : (deciding setup (run setup start events) request).transient = false

/-- The three ways to a 403 that says nothing about the token: the query fails, the exchange
of this request is not decided, or a cached verdict rests on a check that was not. -/
inductive Misread (setup : Setup) (start : Int) (events : List Event)
    (request : SyncRequest) : Prop where
  | query (unread : finding setup request.check = .unread)
      (unrejected : ¬ StillRejected setup start events)
  | exchange (unrefused : (run setup start events).refusal request.answers = none)
      (unclear : finding setup request.check = .exchangeUnclear)
  | validation (asks : (finding setup request.check).asksGoogle = true) (cached : Cached)
      (refused : (run setup start events).refusal request.answers = some cached)
      (undecided : (finding setup cached.origin).inconclusive = true)

variable {request : SyncRequest}

theorem deciding_of_refusal (asks : (finding setup request.check).asksGoogle = true)
    (refused : state.refusal request.answers = some cached) :
    deciding setup state request = finding setup cached.origin := by
  simp [deciding, asks, refused]

theorem deciding_of_unrefused (unrefused : state.refusal request.answers = none) :
    deciding setup state request = finding setup request.check := by
  simp [deciding, unrefused]

theorem deciding_of_token (token : (finding setup request.check).asksGoogle = false) :
    deciding setup state request = finding setup request.check := by
  simp [deciding, token]

theorem Misread.forbidden (misread : Misread setup start events request) :
    Forbidden setup (run setup start events) request := by
  cases misread with
  | query unread _ =>
    left
    rw [unread]
    rfl
  | exchange unrefused unclear =>
    right; right
    refine ⟨?_, unrefused, Or.inl unclear⟩
    rw [unclear]
    rfl
  | validation asks cached refused _ => exact Or.inr (Or.inl ⟨asks, cached, refused⟩)

theorem Finding.definite_of_not_inconclusive (refused : outcome ≠ .granted)
    (closed : outcome.inconclusive ≠ true) : outcome.definite = true := by
  rw [Finding.inconclusive_eq refused] at closed
  simpa using closed

theorem Misread.not_warranted (misread : Misread setup start events request) :
    ¬ Warranted setup start events request := by
  intro warranted
  have decided := warranted.decided
  cases misread with
  | query unread unrejected =>
    cases warranted.ground with
    | token unusable => simp [unread] at unusable
    | here _ rejected => simp [unread] at rejected
    | earlier rejected => exact unrejected rejected
  | exchange unrefused unclear =>
    rw [deciding_of_unrefused unrefused, unclear] at decided
    cases decided
  | validation asks cached refused undecided =>
    cases warranted.ground with
    | token unusable =>
      rcases unusable with missing | undecryptable
      · simp [missing, Finding.asksGoogle] at asks
      · simp [undecryptable, Finding.asksGoogle] at asks
    | here unrefused _ =>
      rw [refused] at unrefused
      cases unrefused
    | earlier rejected =>
      obtain ⟨other, live, _, definite⟩ := rejected
      have same := live.symm.trans (refusal_eq_some refused).2.2
      rw [Option.some.inj same] at definite
      cases outcome : finding setup cached.origin <;>
        simp [outcome, Finding.definite, Finding.inconclusive] at definite undecided

theorem Forbidden.warranted (forbidden : Forbidden setup (run setup start events) request)
    (read : ¬ Misread setup start events request) :
    Warranted setup start events request := by
  rcases forbidden with token | ⟨asks, cached, refused⟩ | ⟨asks, unrefused, unclear | definite⟩
  · have same : deciding setup (run setup start events) request =
        finding setup request.check := deciding_of_token token
    cases own : finding setup request.check with
    | unread =>
      have rejected : StillRejected setup start events := by
        by_contra unrejected
        exact read (.query own unrejected)
      exact ⟨.earlier rejected, by rw [same, own]; rfl⟩
    | missing => exact ⟨.token (Or.inl own), by rw [same, own]; rfl⟩
    | undecryptable => exact ⟨.token (Or.inr own), by rw [same, own]; rfl⟩
    | _ => simp [own, Finding.asksGoogle] at token
  · obtain ⟨kept, ungranted⟩ := refusal_kept refused
    have definite := Finding.definite_of_not_inconclusive ungranted
      (fun undecided => read (.validation asks cached refused undecided))
    refine ⟨.earlier ⟨cached, (refusal_eq_some refused).2.2, kept, definite⟩, ?_⟩
    rw [deciding_of_refusal asks refused]
    cases outcome : finding setup cached.origin <;>
      simp [outcome, Finding.definite, Finding.transient] at definite ⊢
  · exact absurd (.exchange unrefused unclear) read
  · have same : deciding setup (run setup start events) request =
        finding setup request.check := deciding_of_unrefused unrefused
    cases own : finding setup request.check with
    | exchangeRejected => exact ⟨.here unrefused (Or.inl own), by rw [same, own]; rfl⟩
    | tokeninfoRejected => exact ⟨.here unrefused (Or.inr own), by rw [same, own]; rfl⟩
    | _ => simp [own, Finding.asksGoogle, Finding.definite] at asks definite

/-- After every run, and whatever the store and Google answer to the next sync: a 403 is
warranted unless the request comes to the token and misreads a check that decided nothing. -/
theorem forbidden_warranted_iff (setup : Setup) (start : Int) (events : List Event)
    (request : SyncRequest) :
    ((manualSync setup (run setup start events) request).status = 403 →
        Warranted setup start events request) ↔
      ¬ (Reached (run setup start events) request ∧ Misread setup start events request) := by
  rw [manualSync_forbidden_iff]
  constructor
  · rintro law ⟨reached, misread⟩
    exact misread.not_warranted (law ⟨reached, misread.forbidden⟩)
  · rintro careful ⟨reached, forbidden⟩
    exact forbidden.warranted (fun misread => careful ⟨reached, misread⟩)

def accepted : Check :=
  ⟨.found (some "sealed"), .response 200 (some (.granted "access")),
    .response 200 (some "https://www.googleapis.com/auth/calendar")⟩

def plainSetup : Setup :=
  ⟨fun _ => some "refresh", fun _ => true⟩

def firstSync (check : Check) : SyncRequest :=
  ⟨none, some none, true, check, true, 0⟩

def outage : List Event :=
  [.validate ⟨true, { accepted with tokeninfo := .response 503 none }, 0, true⟩,
    .passing 600000000000]

/-- The exchange of a sync that times out is answered 403.  So is a sync for which Google
would grant everything, ten minutes after a validation that was answered 503. -/
theorem outage_forbidden :
    manualSync plainSetup (run plainSetup 0 [])
        (firstSync { accepted with exchange := .unreachable }) =
      errorResponse 403 "google calendar permission revoked" ∧
    ¬ Warranted plainSetup 0 [] (firstSync { accepted with exchange := .unreachable }) ∧
    manualSync plainSetup (run plainSetup 0 outage) (firstSync accepted) =
      errorResponse 403 "calendar access permission missing" ∧
    ¬ Warranted plainSetup 0 outage (firstSync accepted) ∧
    manualSync plainSetup (run plainSetup 0 []) (firstSync accepted) =
      ⟨200, [("status", "sync queued")]⟩ := by
  refine ⟨by decide, fun warranted => ?_, by decide, fun warranted => ?_, by decide⟩
  · exact absurd warranted.decided (by decide)
  · exact absurd warranted.decided (by decide)

end ContestSync.CalendarValidation
