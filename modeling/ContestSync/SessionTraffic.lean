/-
Whose a session is. `GoogleCallback` ends the session that the browser came with and saves one
under a new id, with the user and a CSRF token; `RequireAuth` saves again what it has loaded;
`Logout` and `DeleteAccount` end a session. Between two calls of a request Valkey may serve those
of others, and each call may fail.
-/

import ContestSync.CsrfChain

namespace ContestSync.SessionStore

/-- Who logs in: the id of the row in `users`, and a random token in hexadecimal. -/
structure Login where
  userID : Int
  csrfToken : Bytes
  fits : Numerals.minInt64 ≤ userID ∧ userID ≤ Numerals.maxInt64
  text : Utf8.Valid csrfToken

/-- `session.Values[key] = value`. -/
def Values.put (values : Values) (key : String) (value : GoValue) : Values :=
  { values with
    entries := values.entries.upsert (key, value) (fun old => (old.1, value)) fun _ => rfl }

def Login.enter (login : Login) (values : Values) : Values :=
  (values.put "user_id" (.int login.userID)).put "csrf_token" (.text login.csrfToken)

/-- The requests that are under way: what `RequireAuth` has loaded and is about to save again, and
what `GoogleCallback` has loaded to make a new session of. -/
structure Traffic (json : Json) where
  world : World json
  renewals : List Session
  logins : List Session

inductive Move where
  | pause (duration : Nat)
  -- `RequireAuth`: the `Get` and the `Save`.
  | load (reachable : Bool) (cookie : Option Bytes)
  | renew (index : Nat) (reachable : Bool) (spare : Generated)
  -- A `Save` that ends the session of the request.
  | leave (reachable : Bool) (cookie : Option Bytes) (spare : Generated)
  -- `GoogleCallback`: the second `New` and the `Save` after it.
  | reload (reachable : Bool) (cookie : Option Bytes)
  | start (index : Nat) (reachable : Bool) (generated : Generated) (login : Login)

section Traffic

variable {json : Json} (cookies : SecureCookie)

/-- A session with a user other than zero goes on to be saved. -/
def Session.passes (session : Session) : Bool :=
  match session.values.find "user_id" with
  | some (.int userID) => userID ≠ 0
  | _ => false

def move (traffic : Traffic json) : Move → Traffic json
  | .pause duration => { traffic with world := traffic.world.advance duration }
  | .load reachable cookie =>
    let session := newSession json cookies reachable traffic.world "session" cookie
    if session.passes then { traffic with renewals := session :: traffic.renewals } else traffic
  | .renew index reachable spare =>
    match traffic.renewals[index]? with
    | none => traffic
    | some session =>
      { traffic with
        world := (save json cookies spare reachable traffic.world
          { session with maxAge := 86400 * 7 }).1
        renewals := traffic.renewals.eraseIdx index }
  | .leave reachable cookie spare =>
    -- The id is that of the cookie, whenever the session was loaded.
    let session := newSession json cookies reachable traffic.world "session" cookie
    { traffic with
      world := (save json cookies spare reachable traffic.world { session with maxAge := -1 }).1 }
  | .reload reachable cookie =>
    let session := newSession json cookies reachable traffic.world "session" cookie
    { traffic with logins := session :: traffic.logins }
  | .start index reachable generated login =>
    match traffic.logins[index]? with
    | none => traffic
    | some session =>
      { traffic with
        world := (save json cookies generated reachable traffic.world
          { session with id := "", values := login.enter session.values }).1
        logins := traffic.logins.eraseIdx index }

/-! ### The sessions of the logins -/

structure Login.In (login : Login) (values : Values) : Prop where
  plain : values.Plain
  user : values.find "user_id" = some (.int login.userID)
  token : values.find "csrf_token" = some (.text login.csrfToken)

theorem Values.find_put (values : Values) (key : String) (value : GoValue) (sought : String) :
    (values.put key value).find sought =
      if sought = key then some value else values.find sought := by
  rw [Values.find, Values.put, Keyed.Table.find_upsert]
  split
  · cases values.entries.find key with
    | none => rfl
    | some old => rfl
  · rfl

theorem Login.in_enter (login : Login) {values : Values} (plain : values.Plain) :
    login.In (login.enter values) := by
  refine ⟨⟨plain.stringKeys, ?_⟩, ?_, ?_⟩
  · intro key value found
    rw [Login.enter, Values.find_put, Values.find_put] at found
    split_ifs at found
    · cases found
      exact login.text
    · cases found
      exact login.fits
    · exact plain.plain key value found
  · simp only [Login.enter, Values.find_put, String.reduceEq, if_false, if_true]
  · simp only [Login.enter, Values.find_put, if_true]

/-- Every session, in Valkey or in the hands of a request, is that of a login under its id. -/
structure Bound (granted : String → Login → Prop) (traffic : Traffic json) : Prop where
  stored : ∀ id entry, traffic.world.keys (sessionKey id) = some entry →
    ∃ login values read, granted id login ∧ login.In values ∧ json.decode entry.stored = some read ∧
      ∀ key, read.find key = (values.entries.find key).map fun row => (row.1, row.2.wire)
  renewals : ∀ session ∈ traffic.renewals,
    ∃ login, granted session.id login ∧ login.In session.values
  logins : ∀ session ∈ traffic.logins, session.values.Plain
  named : ∀ id login, granted id login → id ≠ ""

variable {granted : String → Login → Prop} {traffic : Traffic json}

theorem Bound.loads (bound : Bound granted traffic) (reachable : Bool) (cookie : Option Bytes) :
    let session := newSession json cookies reachable traffic.world "session" cookie
    session.values = .empty ∨ ∃ login, granted session.id login ∧ login.In session.values ∧
      cookie.bind (cookies.decodeMulti "session") = some session.id := by
  intro session
  cases shown : cookie.bind (cookies.decodeMulti "session") with
  | none => exact .inl (by simp only [session, newSession, shown])
  | some id =>
    cases got : (if reachable then traffic.world.get (sessionKey id) else none) with
    | none => exact .inl (by simp only [session, newSession, shown, got])
    | some stored =>
      obtain ⟨entry, found, rfl⟩ : ∃ entry, traffic.world.keys (sessionKey id) = some entry ∧
          entry.stored = stored := by
        have present := (Option.ite_none_right_eq_some.mp got).2
        unfold World.get at present
        split at present
        · cases present
        · rename_i entry found
          refine ⟨entry, found, ?_⟩
          split at present
          · exact Option.some.inj present
          · exact Option.some.inj (Option.ite_none_right_eq_some.mp present).2
      obtain ⟨login, values, read, grant, within, decoded, same⟩ := bound.stored id entry found
      right
      simp only [session, newSession, shown, got, decoded]
      refine ⟨login, grant, ?_, trivial⟩
      have agree := within.plain.find_retype same
      exact ⟨within.plain.congr rfl agree, by rw [Values.find, agree]; exact within.user,
        by rw [Values.find, agree]; exact within.token⟩

theorem sessionKey_injective : Function.Injective sessionKey := by
  intro left right same
  have lists := congrArg String.toList same
  rw [sessionKey, sessionKey, String.toList_append, String.toList_append] at lists
  exact String.toList_inj.mp (List.append_cancel_left lists)

theorem Bound.saves (bound : Bound granted traffic) (generated : Generated) (reachable : Bool)
    (session : Session) (kept : reachable = true → 0 ≤ session.maxAge →
      ∃ login, granted (session.withID generated).id login ∧ login.In session.values) :
    Bound granted { traffic with
      world := (save json cookies generated reachable traffic.world session).1 } := by
  refine { bound with stored := ?_ }
  intro id entry found
  have plain : reachable = true → 0 ≤ session.maxAge → session.values.Plain := by
    intro reached lasts
    obtain ⟨_, _, within⟩ := kept reached lasts
    exact within.plain
  rcases save_cases cookies generated reachable traffic.world session plain with
    same | ⟨_, same⟩ | ⟨reached, lasts, stored, read, age, decoded, agree, same⟩
  · rw [same] at found
    exact bound.stored id entry found
  · by_cases here : sessionKey id = sessionKey session.id
    · simp only [same, World.delete, here, Function.update_self] at found
      cases found
    · simp only [same, World.delete, Function.update_of_ne here] at found
      exact bound.stored id entry found
  · by_cases here : id = (session.withID generated).id
    · simp only [same, World.set, here, Function.update_self] at found
      cases found
      obtain ⟨login, grant, within⟩ := kept reached lasts
      exact ⟨login, session.values, read, here ▸ grant, within, decoded, agree⟩
    · simp only [same, World.set, Function.update_of_ne fun equal =>
        here (sessionKey_injective equal)] at found
      exact bound.stored id entry found

theorem Bound.move (bound : Bound granted traffic) (step : Move)
    (grants : ∀ index generated login, step = .start index true generated login →
      granted generated.val login) : Bound granted (move cookies traffic step) := by
  cases step with
  | pause duration => exact { bound with }
  | load reachable cookie =>
    simp only [SessionStore.move]
    split
    · rename_i passes
      refine { bound with renewals := List.forall_mem_cons.mpr ⟨?_, bound.renewals⟩ }
      rcases bound.loads cookies reachable cookie with empty | ⟨login, grant, within, _⟩
      · rw [Session.passes, empty] at passes
        cases passes
      · exact ⟨login, grant, within⟩
    · exact bound
  | renew index reachable spare =>
    simp only [SessionStore.move]
    split
    · exact bound
    · rename_i session held
      obtain ⟨login, grant, within⟩ := bound.renewals session (List.mem_of_getElem? held)
      have own : (Session.withID { session with maxAge := 86400 * 7 } spare).id = session.id := by
        rw [Session.withID, if_neg (bound.named _ _ grant)]
      have saved := bound.saves cookies spare reachable { session with maxAge := 86400 * 7 }
        fun _ _ => ⟨login, own.symm ▸ grant, within⟩
      exact { saved with
        renewals := fun other member => bound.renewals other (List.mem_of_mem_eraseIdx member) }
  | leave reachable cookie spare =>
    apply bound.saves
    intro _ lasts
    change (0 : Int) ≤ -1 at lasts
    omega
  | reload reachable cookie =>
    refine { bound with logins := List.forall_mem_cons.mpr ⟨?_, bound.logins⟩ }
    rcases bound.loads cookies reachable cookie with empty | ⟨_, _, within, _⟩
    · rw [empty]
      refine ⟨rfl, ?_⟩
      intro key value found
      cases found
    · exact within.plain
  | start index reachable generated login =>
    simp only [SessionStore.move]
    split
    · exact bound
    · rename_i session held
      have entered := login.in_enter (bound.logins session (List.mem_of_getElem? held))
      have saved := bound.saves cookies generated reachable
        { session with id := "", values := login.enter session.values }
        fun reached _ => ⟨login, grants index generated login (by rw [reached]), entered⟩
      exact { saved with
        logins := fun other member => bound.logins other (List.mem_of_mem_eraseIdx member) }

theorem Bound.moves (bound : Bound granted traffic) (steps : List Move)
    (grants : ∀ index generated login, .start index true generated login ∈ steps →
      granted generated.val login) :
    Bound granted (steps.foldl (SessionStore.move cookies) traffic) := by
  induction steps generalizing traffic with
  | nil => exact bound
  | cons step rest ih =>
    refine ih (bound.move cookies step ?_) fun index generated login member =>
      grants index generated login (List.mem_cons_of_mem _ member)
    rintro index generated login rfl
    exact grants index generated login List.mem_cons_self

end Traffic

/-- In whatever order Valkey serves the calls of the requests, and whichever of them fail, a
protected handler runs only for a user who has logged in: the session was written by a login of
this user under the id in the cookie, and the request repeats the token of that login. -/
theorem served_user_logged_in (json : Json) (cookies : SecureCookie) (now : Int)
    (steps : List Move) (reachable : Bool) (request : Csrf.Request) (caller : Option Int)
    (ran : Csrf.serveProtected (Csrf.valkeyStore json cookies reachable
      (steps.foldl (move cookies) ⟨⟨now, fun _ => none⟩, [], []⟩).world) request = .ran caller) :
    ∃ index generated login, .start index true generated login ∈ steps ∧
      (request.cookie "session").bind (cookies.decodeMulti "session") = some generated.val ∧
      caller = some login.userID ∧ request.header "X-Csrf-Token" = login.csrfToken := by
  have empty : Bound (fun id login => ∃ index generated,
      .start index true generated login ∈ steps ∧ generated.val = id)
      (⟨⟨now, fun _ => none⟩, [], []⟩ : Traffic json) := by
    refine ⟨nofun, nofun, nofun, ?_⟩
    rintro _ _ ⟨_, generated, _, rfl⟩
    exact generated.property
  have bound := empty.moves cookies steps
    fun index generated login member => ⟨index, generated, member, rfl⟩
  obtain ⟨user, token, owned, _, expected, _, repeated, called⟩ :=
    (Csrf.serveProtected_eq_ran_iff rfl).mp ran
  rcases bound.loads cookies reachable (request.cookie "session") with
    none | ⟨login, ⟨index, generated, member, same⟩, within, shown⟩
  · rw [none] at owned
    cases owned
  · cases owned.symm.trans within.user
    cases expected.symm.trans within.token
    exact ⟨index, generated, login, member, shown.trans (congrArg some same.symm), called, repeated⟩

def sampleTraffic : List Move :=
  [.reload true none, .start 0 true ⟨"id", by decide⟩ ⟨7, [50], by decide, Utf8.valid_encode ['2']⟩]

def sampleRequest : Csrf.Request where
  headers name :=
    if name = "Cookie" then [Csrf.bytesOf "session=id"]
    else if name = "X-Csrf-Token" then [[50]] else []

theorem served_user_logged_in_sample :
    ∃ index generated login, .start index true generated login ∈ sampleTraffic ∧
      (sampleRequest.cookie "session").bind (clearCookies.decodeMulti "session") =
        some generated.val ∧
      some 7 = some login.userID ∧ sampleRequest.header "X-Csrf-Token" = login.csrfToken :=
  served_user_logged_in directJson clearCookies 0 sampleTraffic true sampleRequest (some 7)
    (by decide +kernel)

end ContestSync.SessionStore
