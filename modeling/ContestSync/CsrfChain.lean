/-
The middlewares in front of the handlers that change something. `RequireAuth` loads the
session and asks for a user; `CSRFMiddleware` behind it compares the token of the session
with a header, but lets a request pass that it takes to have no session cookie. What a store
loads depends on the cookie that `r.Cookie` reads off the headers, and without one it loads
nothing; so a request that has come past `RequireAuth` has the cookie. Both middlewares get
the same session, which stays in the registry of the request.
-/

import ContestSync.Scanning
import ContestSync.SessionStore
import Mathlib.Data.List.DropRight

namespace ContestSync.Csrf

open SessionStore (Bytes GoValue Values)

/-! ### Requests -/

/-- The values of every header, under its canonical name. -/
structure Request where
  headers : String → List Bytes

/-- `r.Header.Get(name)`. -/
def Request.header (request : Request) (name : String) : Bytes :=
  (request.headers name).headD []

def bytesOf (text : String) : Bytes :=
  Utf8.encode text.toList

/-- Blank, tab, line feed and carriage return. -/
def isSpace (byte : UInt8) : Bool :=
  byte = 32 ∨ byte = 9 ∨ byte = 10 ∨ byte = 13

/-- `textproto.TrimString`. -/
def trimString (text : Bytes) : Bytes :=
  (text.dropWhile isSpace).rdropWhile isSpace

def validCookieValueByte (byte : UInt8) : Bool :=
  32 ≤ byte.toNat ∧ byte.toNat < 127 ∧ byte ≠ 34 ∧ byte ≠ 59 ∧ byte ≠ 92

def unquoted (raw : Bytes) : Bytes :=
  if 1 < raw.length ∧ raw.head? = some 34 ∧ raw.getLast? = some 34 then (raw.drop 1).dropLast
  else raw

def parseCookieValue (raw : Bytes) : Option Bytes :=
  if (unquoted raw).all validCookieValueByte then some (unquoted raw) else none

/-- The value that a part of a `Cookie` header gives to the name; a part without a sign of
equality has an empty value. -/
def cookieValue (name : Bytes) (part : Bytes) : Option Bytes :=
  let (left, right) := Scan.cut 61 (trimString part)
  if trimString part = [] ∨ trimString left ≠ name then none else parseCookieValue right

/-- More cookies than this are not read at all. -/
def cookieMaxNum : Nat :=
  3000

/-- `r.Cookie(name)`: the first cookie with the name and a valid value. -/
def Request.cookie (request : Request) (name : String) : Option Bytes :=
  let lines := request.headers "Cookie"
  if cookieMaxNum < (lines.map fun line => line.count 59 + 1).sum then none
  else
    (lines.flatMap fun line => (trimString line).splitOn 59).findSome? (cookieValue (bytesOf name))

/-! ### The store and the registry -/

/-- What `store.New` gives back. -/
structure Loaded where
  values : Values
  error : Option String

/-- A store that takes the values of a session from the session cookie alone. -/
structure Store where
  load : (cookie : Option Bytes) → Loaded
  load_none : load none = ⟨.empty, none⟩

structure Context where
  session : Option Loaded
  userID : Option Int

/-- `store.Get(r, "session")`: what was loaded once is given again. -/
def getSession (store : Store) (request : Request) (context : Context) : Loaded × Context :=
  match context.session with
  | some loaded => (loaded, context)
  | none =>
    let loaded := store.load (request.cookie "session")
    (loaded, { context with session := some loaded })

/-! ### The middlewares -/

inductive Reply where
  | rejected (status : Nat) (body : String)
  -- The handler ran, with this user id in its context.
  | ran (userID : Option Int)
deriving DecidableEq

def unauthorized : Reply :=
  .rejected 401 "\x7b\"error\":\"unauthorized\"\x7d"

def forbidden : Reply :=
  .rejected 403 "\x7b\"error\":\"forbidden\"\x7d"

/-- A failure to renew the session is logged, and changes none of its values. -/
def requireAuth (store : Store) (request : Request) (next : Context → Reply) (context : Context) :
    Reply :=
  let (session, context) := getSession store request context
  match session.error with
  | some _ => unauthorized
  | none =>
    match session.values.find "user_id" with
    | some (.int userID) =>
      if userID = 0 then unauthorized else next { context with userID := some userID }
    | _ => unauthorized

def hasCookie (request : Request) : Bool :=
  (request.cookie "session").isSome ∨ bytesOf "session=" <:+: request.header "Cookie" ∨
    bytesOf "session=" <:+: request.header "Set-Cookie"

def csrfMiddleware (store : Store) (request : Request) (next : Context → Reply)
    (context : Context) : Reply :=
  if hasCookie request then
    let (session, context) := getSession store request context
    match session.values.find "csrf_token" with
    | some (.text expectedToken) =>
      if expectedToken = [] then forbidden
      else
        let actualToken := request.header "X-Csrf-Token"
        if expectedToken.length ≠ actualToken.length ∨ expectedToken ≠ actualToken then forbidden
        else next context
    | _ => forbidden
  else next context

/-- The routes that change something. -/
def serveProtected (store : Store) (request : Request) : Reply :=
  requireAuth store request
    (csrfMiddleware store request fun context => .ran context.userID) ⟨none, none⟩

/-! ### What passes -/

section Passing

variable {store : Store} {request : Request} {next : Context → Reply} {userID : Option Int}

theorem cookie_of_user {loaded : Loaded} {value : GoValue}
    (load : store.load (request.cookie "session") = loaded)
    (found : loaded.values.find "user_id" = some value) : hasCookie request = true := by
  cases carried : request.cookie "session" with
  | none =>
    rw [carried, store.load_none] at load
    rw [← load] at found
    cases found
  | some cookie => simp [hasCookie, carried]

theorem requireAuth_eq_ran_iff :
    requireAuth store request next ⟨none, none⟩ = .ran userID ↔
      ∃ values id, store.load (request.cookie "session") = ⟨values, none⟩ ∧
        values.find "user_id" = some (.int id) ∧ id ≠ 0 ∧
        next ⟨some ⟨values, none⟩, some id⟩ = .ran userID := by
  simp only [requireAuth, getSession]
  cases loaded : store.load (request.cookie "session") with
  | mk values error =>
    constructor
    · intro ran
      cases error with
      | some message => cases ran
      | none =>
        simp only at ran
        split at ran
        · rename_i id found
          split at ran
          · cases ran
          · rename_i nonzero
            exact ⟨values, id, rfl, found, nonzero, ran⟩
        · cases ran
    · rintro ⟨values, id, same, found, nonzero, ran⟩
      cases same
      simp only [found, if_neg nonzero]
      exact ran

theorem csrfMiddleware_eq_ran_iff {values : Values} {id : Int}
    (carried : hasCookie request = true) :
    csrfMiddleware store request (fun context => .ran context.userID)
        ⟨some ⟨values, none⟩, some id⟩ = .ran userID ↔
      ∃ token, values.find "csrf_token" = some (.text token) ∧ token ≠ [] ∧
        request.header "X-Csrf-Token" = token ∧ userID = some id := by
  simp only [csrfMiddleware, carried, if_true, getSession]
  constructor
  · intro ran
    split at ran
    · rename_i token found
      split_ifs at ran with empty differs
      · cases ran
      · cases ran
      · rw [not_or, not_not, not_not] at differs
        cases ran
        exact ⟨token, found, empty, differs.2.symm, rfl⟩
    · cases ran
  · rintro ⟨token, found, nonempty, same, rfl⟩
    simp [found, nonempty, same]

theorem serveProtected_eq_ran_iff {values : Values}
    (load : store.load (request.cookie "session") = ⟨values, none⟩) :
    serveProtected store request = .ran userID ↔
      ∃ id token, values.find "user_id" = some (.int id) ∧ id ≠ 0 ∧
        values.find "csrf_token" = some (.text token) ∧ token ≠ [] ∧
        request.header "X-Csrf-Token" = token ∧ userID = some id := by
  rw [serveProtected, requireAuth_eq_ran_iff]
  constructor
  · rintro ⟨others, id, again, user, nonzero, ran⟩
    rw [load] at again
    cases again
    obtain ⟨token, found⟩ := (csrfMiddleware_eq_ran_iff (cookie_of_user load user)).mp ran
    exact ⟨id, token, user, nonzero, found⟩
  · rintro ⟨id, token, user, nonzero, found⟩
    exact ⟨values, id, load, user, nonzero,
      (csrfMiddleware_eq_ran_iff (cookie_of_user load user)).mpr ⟨token, found⟩⟩

end Passing

/-- A protected handler runs exactly for a session with a user and a token that the header
repeats, and it sees that user. -/
theorem protected_runs_iff (store : Store) (request : Request) (userID : Option Int) :
    serveProtected store request = .ran userID ↔
      ∃ values id token, store.load (request.cookie "session") = ⟨values, none⟩ ∧
        values.find "user_id" = some (.int id) ∧ id ≠ 0 ∧
        values.find "csrf_token" = some (.text token) ∧ token ≠ [] ∧
        request.header "X-Csrf-Token" = token ∧ userID = some id := by
  constructor
  · intro ran
    obtain ⟨values, _, load, _⟩ := requireAuth_eq_ran_iff.mp ran
    obtain ⟨id, token, found⟩ := (serveProtected_eq_ran_iff load).mp ran
    exact ⟨values, id, token, load, found⟩
  · rintro ⟨values, id, token, load, found⟩
    exact (serveProtected_eq_ran_iff load).mpr ⟨id, token, found⟩

/-! ### The store over Valkey -/

/-- `ValkeyStore` is such a store, whatever Valkey holds. -/
def valkeyStore (json : SessionStore.Json) (cookies : SessionStore.SecureCookie)
    (reachable : Bool) (world : SessionStore.World json) : Store where
  load cookie := ⟨(SessionStore.newSession json cookies reachable world "session" cookie).values,
    none⟩
  load_none := rfl

end ContestSync.Csrf
