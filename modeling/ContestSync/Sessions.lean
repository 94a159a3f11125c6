/-
Sessions kept in Valkey. `RequireAuth` loads the record of the session that the
cookie names and writes the whole record back, to slide its expiry; `Logout`
deletes it. The requests of one browser overlap, and each keeps what it has loaded,
so that whether a logout is final depends on what is written after it.
-/

import ContestSync.Models
import ContestSync.Resumable.Pool

namespace ContestSync.Sessions

open Resumable Program Function

/-! ### The store -/

/-- The values of a session; a field is `none` when it is missing or of another type. -/
structure SessionValues where
  userID : Option Int
  csrfToken : Option String
deriving DecidableEq

/-- A cookie that `securecookie` accepts: `Save` signs no empty id. -/
structure Cookie where
  sessionID : String
  nonempty : sessionID ≠ ""
deriving DecidableEq

inductive Request where
  | getSession (sessionID : String)
  | setSession (sessionID : String) (values : SessionValues)
  | deleteSession (sessionID : String)

abbrev Request.Answer : Request → Type
  | .getSession _ => Option SessionValues
  | .setSession _ _ => Bool
  | .deleteSession _ => Bool

abbrev service : Interface :=
  { Request := Request
    Answer := Request.Answer }

abbrev ask (request : Request) : Program service request.Answer :=
  .call request .done

/-- The keys `session:<id>`. -/
structure World where
  sessions : String → Option SessionValues

inductive Outcome where
  | served
  | lost
  | late

namespace World

def handle (world : World) : (request : Request) → World × request.Answer
  | .getSession sessionID => (world, world.sessions sessionID)
  | .setSession sessionID values =>
    ({ world with sessions := update world.sessions sessionID (some values) }, true)
  | .deleteSession sessionID =>
    ({ world with sessions := update world.sessions sessionID none }, true)

def failure : (request : Request) → request.Answer
  | .getSession _ => none
  | .setSession _ _ => false
  | .deleteSession _ => false

/-- Served, failed before it takes effect, or failed after it. -/
def serve (world : World) (request : Request) : Outcome → World × request.Answer
  | .served => world.handle request
  | .lost => (world, failure request)
  | .late => ((world.handle request).1, failure request)

end World

abbrev environment : Environment service :=
  { State := World
    Outcome := Outcome
    serve := World.serve }

/-! ### The requests -/

inductive Response where
  | unauthorized
  | forbidden
  | handled
  | loggedOut
deriving DecidableEq

/-- The routes behind `RequireAuth`; `DeleteAccount` may give up before it comes to
the session. -/
inductive Route where
  | me
  | getPlatforms
  | validateCalendarAccess
  | savePreferences
  | manualSync
  | deleteAccount (completed : Bool)
  | logout
deriving DecidableEq

def Route.csrfProtected : Route → Bool
  | .me => false
  | .getPlatforms => false
  | .validateCalendarAccess => false
  | .savePreferences => true
  | .manualSync => true
  | .deleteAccount _ => true
  | .logout => true

structure Job where
  cookie : Option Cookie
  route : Route
  csrfHeader : String

/-- The session that is loaded stays with the request, in its registry. A failure to
renew it is logged. -/
def requireAuth (cookie : Option Cookie)
    (next : Cookie → SessionValues → Program service Response) : Program service Response := do
  match cookie with
  | none => return .unauthorized
  | some cookie =>
    match ← ask (.getSession cookie.sessionID) with
    | none => return .unauthorized
    | some values =>
      if values.userID.getD 0 = 0 then
        return .unauthorized
      else
        let _ ← ask (.setSession cookie.sessionID values)
        next cookie values

def csrfMiddleware (values : SessionValues) (header : String) (next : Program service Response) :
    Program service Response :=
  if values.csrfToken.getD "" = "" then
    return .forbidden
  else if values.csrfToken ≠ some header then
    return .forbidden
  else
    next

def logout (cookie : Cookie) : Program service Response := do
  let _ ← ask (.deleteSession cookie.sessionID)
  return .loggedOut

def handler (route : Route) (cookie : Cookie) : Program service Response := do
  match route with
  | .logout => logout cookie
  | .deleteAccount true =>
    let _ ← ask (.deleteSession cookie.sessionID)
    return .handled
  | _ => return .handled

def serveRequest (job : Job) : Program service Response :=
  requireAuth job.cookie (fun cookie values =>
    if job.route.csrfProtected then
      csrfMiddleware values job.csrfHeader (handler job.route cookie)
    else
      handler job.route cookie)

/-! ### Requests in any order -/

/-- Whether the request has asked for the deletion of its session. -/
inductive Progress where
  | begun
  | deleted
deriving DecidableEq

def Progress.after (progress : Progress) : (request : Request) → request.Answer → Progress
  | .deleteSession _, _ => .deleted
  | _, _ => progress

def requests : Workforce service Job Progress Response :=
  { program := serveRequest
    fresh := fun _ => .begun
    record := fun _ => Progress.after }

def Job.Carries (job : Job) (sessionID : String) : Prop :=
  ∃ cookie, job.cookie = some cookie ∧ cookie.sessionID = sessionID

def OwnSession (job : Job) (_progress : Progress) : Request → Prop
  | .deleteSession sessionID => job.Carries sessionID
  | _ => True

def EndsDeleted (_job : Job) (response : Response) (progress : Progress) : Prop :=
  response = .loggedOut → progress = .deleted

theorem ensures_handler {job : Job} {cookie : Cookie} (carried : job.cookie = some cookie)
    (progress : Progress) :
    Ensures (requests.watch OwnSession job) (EndsDeleted job) (handler job.route cookie)
      progress := by
  have own : job.Carries cookie.sessionID := ⟨cookie, carried, rfl⟩
  unfold handler
  split
  · exact ⟨own, fun _ _ => rfl⟩
  · exact ⟨own, nofun⟩
  · exact nofun

theorem requests_disciplined : requests.Disciplined OwnSession EndsDeleted := by
  intro job
  change Ensures _ _ (serveRequest job) Progress.begun
  unfold serveRequest requireAuth
  cases carried : job.cookie with
  | none => exact nofun
  | some cookie =>
    refine ⟨trivial, ?_⟩
    intro answer
    cases answer with
    | none => exact nofun
    | some values =>
      apply ensures_ite
      · exact nofun
      · intro _
        refine ⟨trivial, fun saved => ?_⟩
        apply ensures_ite
        · intro _
          unfold csrfMiddleware
          apply ensures_ite
          · exact nofun
          · intro _
            apply ensures_ite
            · exact nofun
            · exact fun _ => ensures_handler carried _
        · exact fun _ => ensures_handler carried _

section Pools

variable {ι : Type}

/-- Records expire. -/
def Expires (before after : World) : Prop :=
  ∀ sessionID, after.sessions sessionID = before.sessions sessionID ∨
    after.sessions sessionID = none

def Served (_pool : Pool environment ι Job Progress Response) (_who : ι) (_request : Request)
    (outcome : Outcome) : Prop :=
  outcome = .served

variable (pool : Pool environment ι Job Progress Response)

/-- A record is renewed only while it is stored, and a deletion takes effect. -/
def RenewsStored (_who : ι) (request : Request) (outcome : Outcome) : Prop :=
  match request with
  | .getSession _ => True
  | .setSession sessionID _ => pool.state.sessions sessionID ≠ none
  | .deleteSession _ => outcome ≠ .lost

def rules (permits : Pool environment ι Job Progress Response → ι → Request → Outcome → Prop) :
    Pool.Rules environment ι Job Progress Response :=
  { permits := permits
    disturbs := Expires }

/-- Once a logout has been answered and all requests have ended, no request with
its cookie is authenticated, whatever becomes of its calls. -/
def LogoutFinal : Prop :=
  (∀ who, pool.Idle who) → ∀ who sessionID, (pool.job who).Carries sessionID →
    pool.rest who = .done .loggedOut →
    ∀ job : Job, job.Carries sessionID → ∀ policy,
      (complete environment policy (serveRequest job) pool.state).2 = .unauthorized

/-- A session that a request has deleted is not stored. -/
def Gone : Prop :=
  ∀ who sessionID, (pool.job who).Carries sessionID → pool.memory who = .deleted →
    pool.state.sessions sessionID = none

variable {sessionID : String}

theorem unauthorized_of_gone {world : World} {job : Job}
    (carries : job.Carries sessionID) (gone : world.sessions sessionID = none)
    (policy : World → Request → Outcome) :
    (complete environment policy (serveRequest job) world).2 = .unauthorized := by
  obtain ⟨cookie, carried, rfl⟩ := carries
  have unanswered : ∀ outcome, (world.serve (.getSession cookie.sessionID) outcome).2 = none := by
    intro outcome
    cases outcome with
    | served => exact gone
    | lost => rfl
    | late => rfl
  unfold serveRequest requireAuth
  rw [carried]
  simp only [call_bind, complete]
  rw [unanswered]
  rfl

variable {pool} {who : ι}
  {request : Request} {next : request.Answer → Program service Response} {outcome : Outcome}

theorem sessions_serve_of_none (permitted : RenewsStored pool who request outcome)
    (gone : pool.state.sessions sessionID = none) :
    (pool.state.serve request outcome).1.sessions sessionID = none := by
  cases request with
  | getSession other =>
    cases outcome <;> exact gone
  | setSession other values =>
    have different : sessionID ≠ other := by
      rintro rfl
      exact permitted gone
    have kept : update pool.state.sessions other (some values) sessionID = none :=
      (update_of_ne different _ _).trans gone
    cases outcome with
    | served => exact kept
    | lost => exact gone
    | late => exact kept
  | deleteSession other =>
    have kept : update pool.state.sessions other none sessionID = none := by
      by_cases same : sessionID = other
      · subst same
        exact update_self _ _ _
      · exact (update_of_ne same _ _).trans gone
    cases outcome with
    | served => exact kept
    | lost => exact gone
    | late => exact kept

theorem sessions_serve_deleted (executed : outcome ≠ .lost) :
    (pool.state.serve (.deleteSession sessionID) outcome).1.sessions sessionID = none := by
  cases outcome with
  | served => exact update_self _ _ _
  | lost => exact absurd rfl executed
  | late => exact update_self _ _ _

theorem Gone.expires (gone : Gone pool) {after : World} (expires : Expires pool.state after) :
    Gone { pool with state := after } := by
  intro who sessionID carries deleted
  rcases expires sessionID with same | none
  · exact same.trans (gone who sessionID carries deleted)
  · exact none

variable [DecidableEq ι]

theorem Gone.start (gone : Gone pool) (job : Job) : Gone (pool.start requests who job) := by
  intro other sessionID carries deleted
  by_cases same : other = who
  · subst same
    rw [Pool.memory_start_self] at deleted
    cases deleted
  · rw [Pool.memory_start_of_ne same] at deleted
    rw [Pool.job_start_of_ne same] at carries
    exact gone other sessionID carries deleted

theorem Gone.serve (gone : Gone pool) (permitted : RenewsStored pool who request outcome)
    (allowed : OwnSession (pool.job who) (pool.memory who) request) :
    Gone (pool.serve requests who request next outcome) := by
  intro other sessionID carries deleted
  by_cases before : pool.memory other = .deleted
  · exact sessions_serve_of_none permitted (gone other sessionID carries before)
  · obtain rfl : other = who := by
      by_contra different
      rw [Pool.memory_serve_of_ne different] at deleted
      exact before deleted
    rw [Pool.memory_serve_self] at deleted
    cases request with
    | getSession _ => exact absurd deleted before
    | setSession _ _ => exact absurd deleted before
    | deleteSession named =>
      obtain ⟨cookie, carried, rfl⟩ := carries
      obtain ⟨same, again, rfl⟩ := allowed
      have equal : cookie = same := Option.some.inj (carried.symm.trans again)
      subst equal
      exact sessions_serve_deleted permitted

structure Initial (pool : Pool environment ι Job Progress Response) : Prop where
  idle : ∀ who, pool.rest who = .done .handled
  begun : ∀ who, pool.memory who = .begun

/-- A logout is final in every execution in which no renewal comes after the record
is gone, and in which the deletions take effect. -/
theorem logout_final_of_renewsStored {first last : Pool environment ι Job Progress Response}
    (initial : Initial first)
    (execution : Relation.ReflTransGen (Pool.Step requests (rules RenewsStored)) first last) :
    LogoutFinal last := by
  have watched : first.Watched requests OwnSession EndsDeleted := by
    intro who
    rw [initial.idle who]
    exact nofun
  have gone : Gone first := by
    intro who sessionID _ deleted
    rw [initial.begun who] at deleted
    cases deleted
  obtain ⟨watchedLast, goneLast⟩ := Pool.keeps requests_disciplined execution Gone
    (fun _ _ job _ _ _ gone => gone.start job)
    (fun _ _ _ _ _ watched ready permitted gone => gone.serve permitted (watched.allowed ready))
    (fun _ _ expires gone => gone.expires expires) watched gone
  intro _ who sessionID carries ended job sameCookie policy
  have deleted := watchedLast.ended ended rfl
  exact unauthorized_of_gone sameCookie (goneLast who sessionID carries deleted) policy

end Pools

/-! ### A page that is still loading -/

def sampleCookie : Cookie :=
  { sessionID := "5e55"
    nonempty := by decide }

def sampleValues : SessionValues :=
  { userID := some 1
    csrfToken := some "c5" }

def requestTo (route : Route) : Job :=
  { cookie := some sampleCookie
    route := route
    csrfHeader := "c5" }

/-- One worker for the page, one for the logout. -/
def loggedIn : Pool environment Bool Job Progress Response :=
  { state :=
      { sessions := fun sessionID =>
          if sessionID = "5e55" then some sampleValues else none }
    job := fun _ => requestTo .getPlatforms
    rest := fun _ => .done .handled
    memory := fun _ => .begun }

theorem loggedIn_initial : Initial loggedIn :=
  ⟨fun _ => rfl, fun _ => rfl⟩

/-- The page has been served before the logout begins. -/
def pageThenLogout : List (Pool.Move environment Bool Job) :=
  [.start true (requestTo .me), .serve true .served, .serve true .served,
    .start false (requestTo .logout), .serve false .served, .serve false .served,
    .serve false .served]

/-- The page has loaded the session when the logout deletes it, and renews it. -/
def logoutDuringPage : List (Pool.Move environment Bool Job) :=
  [.start true (requestTo .me), .serve true .served,
    .start false (requestTo .logout), .serve false .served, .serve false .served,
    .serve false .served, .serve true .served]

theorem logout_final_page_first :
    Initial loggedIn ∧
    (loggedIn.play requests pageThenLogout).rest false = .done .loggedOut ∧
    LogoutFinal (loggedIn.play requests pageThenLogout) := by
  refine ⟨loggedIn_initial, rfl, ?_⟩
  apply logout_final_of_renewsStored loggedIn_initial
  apply Pool.play_steps
  have stored : some sampleValues ≠ none := Option.some_ne_none _
  have executed : Outcome.served ≠ .lost := Outcome.noConfusion
  exact ⟨trivial, trivial, stored, trivial, trivial, stored, executed, trivial⟩

/-- Every call succeeds, both requests have ended, the logout was answered, and the
cookie still opens the account. -/
theorem logout_undone_by_page :
    Initial loggedIn ∧
    Relation.ReflTransGen (Pool.Step requests (rules Served)) loggedIn
      (loggedIn.play requests logoutDuringPage) ∧
    (loggedIn.play requests logoutDuringPage).rest false = .done .loggedOut ∧
    (loggedIn.play requests logoutDuringPage).rest true = .done .handled ∧
    (complete environment (fun _ _ => .served) (serveRequest (requestTo .me))
      (loggedIn.play requests logoutDuringPage).state).2 = .handled ∧
    ¬LogoutFinal (loggedIn.play requests logoutDuringPage) := by
  have loggedOut : (loggedIn.play requests logoutDuringPage).rest false = .done .loggedOut := rfl
  have served : (loggedIn.play requests logoutDuringPage).rest true = .done .handled := rfl
  have authenticated : (complete environment (fun _ _ => .served) (serveRequest (requestTo .me))
      (loggedIn.play requests logoutDuringPage).state).2 = .handled := rfl
  refine ⟨loggedIn_initial, ?_, loggedOut, served, authenticated, ?_⟩
  · apply Pool.play_steps
    exact ⟨trivial, rfl, trivial, rfl, rfl, rfl, rfl, trivial⟩
  · intro final
    have idle : ∀ who, (loggedIn.play requests logoutDuringPage).Idle who := by
      intro who
      cases who with
      | false => exact ⟨_, loggedOut⟩
      | true => exact ⟨_, served⟩
    have unauthorized := final idle false "5e55" ⟨sampleCookie, rfl, rfl⟩ loggedOut
      (requestTo .me) ⟨sampleCookie, rfl, rfl⟩ (fun _ _ => .served)
    rw [authenticated] at unauthorized
    cases unauthorized

end ContestSync.Sessions
