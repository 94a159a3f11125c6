/-
The records of `Sessions` are those that the session store keeps in Valkey: what `New` loads
under an id, as far as the middlewares read it. A call of the store changes the records as a
request of `Sessions` does, and the middlewares in front of a protected route answer as they
do there.
-/

import ContestSync.SessionTraffic
import ContestSync.Sessions

namespace ContestSync.SessionStore

open Function Resumable

def recordOf (values : Values) : Sessions.SessionValues :=
  { userID :=
      match values.find "user_id" with
      | some (.int userID) => some userID
      | _ => none
    csrfToken :=
      match values.find "csrf_token" with
      | some (.text token) => some (String.ofList (Utf8.decode token))
      | _ => none }

variable {json : Json} {cookies : SecureCookie} {world : World json} {id : String}

/-- The values that `New` loads for a cookie with the id, if there are any. -/
def World.find (world : World json) (id : String) : Option Values :=
  ((world.get (sessionKey id)).bind json.decode).map loadedValues

def World.records (world : World json) : Sessions.World :=
  ⟨fun id => (world.find id).map recordOf⟩

/-! ### What a call changes -/

theorem get_set (key : String) (stored : json.Stored) (age : Int) :
    (world.set key stored (lifetime age)).get key = some stored := by
  have present : (world.set key stored (lifetime age)).keys key =
      some ⟨stored, (lifetime age).map (world.now + ·)⟩ := update_self ..
  refine World.get_of_live ?_ present
  intro entry found time expires
  cases present.symm.trans found
  obtain ⟨left, member, rfl⟩ := Option.map_eq_some_iff.mp expires
  cases (Option.ite_none_right_eq_some.mp member).2
  exact Int.lt_add_of_pos_right world.now (by omega)

theorem records_write {after : World json} {entry : Option (Entry json)}
    {record : Option Sessions.SessionValues} (now : after.now = world.now)
    (keys : after.keys = update world.keys (sessionKey id) entry)
    (written : (after.find id).map recordOf = record) :
    after.records = ⟨update world.records.sessions id record⟩ := by
  refine congrArg Sessions.World.mk (funext fun other => ?_)
  by_cases here : other = id
  · rw [here, update_self, written]
  · have kept : after.get (sessionKey other) = world.get (sessionKey other) := by
      simp only [World.get, now, keys, update_of_ne fun equal => here (sessionKey_injective equal)]
    rw [update_of_ne here, World.find, kept]
    rfl

theorem World.get_advance (world : World json) (duration : Nat) (key : String) :
    (world.advance duration).get key = world.get key ∨ (world.advance duration).get key = none := by
  unfold World.get World.advance
  cases world.keys key with
  | none => exact .inl rfl
  | some entry =>
    obtain ⟨stored, expires⟩ := entry
    cases expires with
    | none => exact .inl rfl
    | some time =>
      by_cases later : world.now + duration < time
      · exact .inl ((if_pos later).trans (if_pos (by omega)).symm)
      · exact .inr (if_neg later)

theorem records_advance (duration : Nat) :
    Sessions.Expires world.records (world.advance duration).records := by
  intro id
  simp only [World.records, World.find]
  rcases world.get_advance duration (sessionKey id) with same | gone
  · exact .inl (by rw [same])
  · exact .inr (by rw [gone]; rfl)

theorem records_save (generated : Generated) (reachable : Bool) (session : Session)
    (plain : reachable = true → 0 ≤ session.maxAge → session.values.Plain) :
    ∃ request, (save json cookies generated reachable world session).1.records =
      (world.records.handle request).1 := by
  rcases save_cases cookies generated reachable world session plain with
    same | ⟨_, same⟩ | ⟨reached, lasts, stored, read, age, decoded, agree, same⟩
  · exact ⟨.getSession "", congrArg World.records same⟩
  · refine ⟨.deleteSession session.id, ?_⟩
    rw [same]
    refine records_write rfl rfl ?_
    simp only [World.find, World.get, World.delete, update_self, Option.bind_none, Option.map_none]
  · refine ⟨.setSession (session.withID generated).id (recordOf session.values), ?_⟩
    rw [same]
    refine records_write rfl rfl ?_
    rw [World.find, get_set, Option.bind_some, decoded, Option.map_some, Option.map_some]
    simp only [recordOf, Values.find, (plain reached lasts).find_retype agree]

/-- The records change as `Sessions` lets them: they expire, or one of its requests is served. -/
theorem records_move {granted : String → Login → Prop} {traffic : Traffic json}
    (bound : Bound granted traffic) (step : Move) :
    Sessions.Expires traffic.world.records (move cookies traffic step).world.records ∨
      ∃ request, (move cookies traffic step).world.records =
        (traffic.world.records.handle request).1 := by
  cases step with
  | pause duration => exact .inl (records_advance duration)
  | load reachable cookie =>
    refine .inr ⟨.getSession "", ?_⟩
    simp only [move]
    split
    · rfl
    · rfl
  | renew index reachable spare =>
    simp only [move]
    split
    · exact .inr ⟨.getSession "", rfl⟩
    · rename_i session held
      obtain ⟨_, _, within⟩ := bound.renewals session (List.mem_of_getElem? held)
      exact .inr (records_save spare reachable _ fun _ _ => within.plain)
  | leave reachable cookie spare =>
    refine .inr (records_save spare reachable _ ?_)
    intro _ lasts
    change (0 : Int) ≤ -1 at lasts
    omega
  | reload reachable cookie => exact .inr ⟨.getSession "", rfl⟩
  | start index reachable generated login =>
    simp only [move]
    split
    · exact .inr ⟨.getSession "", rfl⟩
    · rename_i session held
      have entered := login.in_enter (bound.logins session (List.mem_of_getElem? held))
      exact .inr (records_save generated reachable _ fun _ _ => entered.plain)

/-! ### What a protected route answers -/

def reply (userID : Option Int) : Sessions.Response → Csrf.Reply
  | .unauthorized => Csrf.unauthorized
  | .forbidden => Csrf.forbidden
  | .handled | .loggedOut => .ran userID

theorem newSession_values (cookie : Option Bytes) :
    (newSession json cookies true world "session" cookie).values =
      ((cookie.bind (cookies.decodeMulti "session")).bind world.find).getD .empty := by
  unfold newSession
  cases cookie.bind (cookies.decodeMulti "session") with
  | none => rfl
  | some id =>
    simp only [if_true, Option.bind_some, World.find]
    cases world.get (sessionKey id) with
    | none => rfl
    | some stored =>
      simp only [Option.bind_some]
      cases json.decode stored with
      | none => rfl
      | some read => rfl

theorem reply_handler (userID : Option Int) (route : Sessions.Route) (cookie : Sessions.Cookie)
    (records : Sessions.World) :
    reply userID (complete Sessions.environment (fun _ _ => .served)
      (Sessions.handler route cookie) records).2 = .ran userID := by
  unfold Sessions.handler
  split
  · rfl
  · rfl
  · rfl

theorem token_eq_iff {token : Bytes} (valid : Utf8.Valid token) (header : String) :
    String.ofList (Utf8.decode token) = header ↔ token = Csrf.bytesOf header := by
  obtain ⟨chars, rfl⟩ := valid
  rw [Utf8.decode_encode, Csrf.bytesOf]
  constructor
  · rintro rfl
    rw [String.toList_ofList]
  · intro same
    rw [← Utf8.decode_encode chars, same, Utf8.decode_encode, String.ofList_toList]

/-- A protected route answers over the store as over its records. -/
theorem serveProtected_eq_reply {request : Csrf.Request} {job : Sessions.Job}
    {cookie : Sessions.Cookie} (carried : job.cookie = some cookie)
    (guarded : job.route.csrfProtected = true)
    (signed : (request.cookie "session").bind (cookies.decodeMulti "session") =
      some cookie.sessionID)
    (header : request.header "X-Csrf-Token" = Csrf.bytesOf job.csrfHeader)
    (valid : ∀ values token, world.find cookie.sessionID = some values →
      values.find "csrf_token" = some (.text token) → Utf8.Valid token) :
    Csrf.serveProtected (Csrf.valkeyStore json cookies true world) request =
      reply ((world.records.sessions cookie.sessionID).bind Sessions.SessionValues.userID)
        (complete Sessions.environment (fun _ _ => .served)
          (Sessions.serveRequest job) world.records).2 := by
  have loaded : (Csrf.valkeyStore json cookies true world).load (request.cookie "session") =
      ⟨(world.find cookie.sessionID).getD .empty, none⟩ := by
    simp only [Csrf.valkeyStore, newSession_values, signed, Option.bind_some]
  have shown : Csrf.hasCookie request = true := by
    cases present : request.cookie "session" with
    | none =>
      rw [present] at signed
      cases signed
    | some value => simp [Csrf.hasCookie, present]
  unfold Sessions.serveRequest Sessions.requireAuth
  simp only [carried, guarded, if_true, Program.call_bind, Program.done_bind, complete,
    Sessions.World.serve, Sessions.World.handle, World.records, Csrf.serveProtected,
    Csrf.requireAuth, Csrf.getSession, loaded]
  cases held : world.find cookie.sessionID with
  | none => rfl
  | some values =>
    simp only [Option.getD_some, Option.map_some, Option.bind_some]
    split
    · rename_i userID user
      have known : (recordOf values).userID = some userID := by simp only [recordOf, user]
      simp only [known, Option.getD_some]
      by_cases zero : userID = 0
      · simp only [if_pos zero]
        rfl
      · simp only [if_neg zero, Csrf.csrfMiddleware, shown, if_true, Csrf.getSession,
          Sessions.csrfMiddleware, header, complete]
        split
        · rename_i token found
          have valid := valid values token held found
          have kept : (recordOf values).csrfToken = some (String.ofList (Utf8.decode token)) := by
            simp only [recordOf, found]
          simp only [kept, Option.getD_some, ne_eq, Option.some.injEq, token_eq_iff valid]
          by_cases empty : token = Csrf.bytesOf ""
          · simp only [if_pos empty]
            exact if_pos empty
          · rw [if_neg empty]
            by_cases repeated : token = Csrf.bytesOf job.csrfHeader
            · simp only [repeated, not_true, or_self, if_false]
              exact (if_neg (repeated ▸ empty)).trans (reply_handler _ _ _ _).symm
            · simp only [repeated, not_false_eq_true, or_true, if_true]
              exact if_neg empty
        · rename_i other
          have missing : (recordOf values).csrfToken = none := by
            simp only [recordOf]
          simp only [missing]
          rfl
    · rename_i other
      have missing : (recordOf values).userID = none := by
        simp only [recordOf]
      simp only [missing]
      rfl

end ContestSync.SessionStore
