/-
The session store over Valkey. `Save` writes the values under string keys as JSON, under the
key `session:<id>` with an expiry, and signs the id into a cookie. `New` goes the way back:
it decodes into an untyped map and turns every number that is a 64-bit integer into an `int`.
Of `encoding/json` and `securecookie` only this is used, that they decode what they encode;
to JSON an integer is the number that its digits spell.
-/

import ContestSync.KeyedTable
import ContestSync.Numerals
import ContestSync.Utf8

namespace ContestSync.SessionStore

abbrev Bytes := List UInt8

/-! ### Values -/

/-- A dynamically typed value; `number` is `json.Number`. -/
inductive GoValue where
  | int (value : Int)
  | text (value : Bytes)
  | number (digits : String)
  | other (value : Nat)
deriving DecidableEq

abbrev Entries := Keyed.Table (Prod.fst : String × GoValue → String)

/-- The map of a session: what it has under string keys, and under keys of other types. -/
structure Values where
  entries : Entries
  others : List (Nat × GoValue)

def Values.empty : Values :=
  ⟨.empty, []⟩

def Values.find (values : Values) (key : String) : Option GoValue :=
  (values.entries.find key).map Prod.snd

/-- A 64-bit integer or a text in UTF-8. -/
def GoValue.Plain : GoValue → Prop
  | .int value => Numerals.minInt64 ≤ value ∧ value ≤ Numerals.maxInt64
  | .text value => Utf8.Valid value
  | _ => False

structure Values.Plain (values : Values) : Prop where
  stringKeys : values.others = []
  plain : ∀ key value, values.find key = some value → value.Plain

/-- What `Decode` with `UseNumber` makes of a value that `Marshal` wrote. -/
def GoValue.wire : GoValue → GoValue
  | .int value => .number (toString value)
  | value => value

/-- The loop of `New`. -/
def GoValue.retype : GoValue → GoValue
  | .number digits =>
    match Numerals.parseInt digits.toList with
    | (value, none) => .int value
    | (_, some _) => .number digits
  | value => value

theorem GoValue.Plain.retype_wire {value : GoValue} (plain : value.Plain) :
    value.wire.retype = value := by
  cases value with
  | int value =>
    simp only [GoValue.wire, GoValue.retype, Numerals.parseInt_toString plain.1 plain.2]
  | text value => rfl
  | number digits => cases plain
  | other value => cases plain

/-! ### Codecs -/

/-- `encoding/json`, on maps with string keys. -/
structure Json where
  Stored : Type
  marshal : Entries → Option Stored
  decode : Stored → Option Entries
  decode_marshal : ∀ entries : Entries, (∀ key row, entries.find key = some row → row.2.Plain) →
      ∃ stored read, marshal entries = some stored ∧ decode stored = some read ∧
        ∀ key, read.find key = (entries.find key).map fun row => (row.1, row.2.wire)

/-- `securecookie`, whose values carry the time at which they were signed. -/
structure SecureCookie where
  encodeMulti : (time : Int) → (name id : String) → Option Bytes
  decodeMulti : (name : String) → (value : Bytes) → Option String
  decode_encode : ∀ time name id value,
    encodeMulti time name id = some value → decodeMulti name value = some id

/-! ### Valkey -/

/-- Times are in milliseconds. -/
structure Entry (json : Json) where
  stored : json.Stored
  expires : Option Int

structure World (json : Json) where
  now : Int
  keys : String → Option (Entry json)

variable {values : Values} {cookie : Bytes} {name id : String}

section Store

variable {json : Json}

namespace World

variable (world : World json)

def advance (duration : Nat) : World json :=
  { world with now := world.now + duration }

def get (key : String) : Option json.Stored :=
  match world.keys key with
  | none => none
  | some entry =>
    match entry.expires with
    | none => some entry.stored
    | some time => if world.now < time then some entry.stored else none

def set (key : String) (stored : json.Stored) (lifetime : Option Int) :
    World json :=
  { world with
    keys := Function.update world.keys key (some ⟨stored, lifetime.map (world.now + ·)⟩) }

def delete (key : String) : World json :=
  { world with keys := Function.update world.keys key none }

def Live (key : String) : Prop :=
  ∀ entry, world.keys key = some entry → ∀ time, entry.expires = some time → world.now < time

theorem live_set {world : World json} {key : String} {stored : json.Stored}
    {lifetime : Option Int} {duration : Nat} (short : ∀ time ∈ lifetime, duration < time) :
    ((world.set key stored lifetime).advance duration).Live key := by
  intro entry found time expires
  simp only [set, advance, Function.update_self] at found
  cases found
  obtain ⟨left, member, rfl⟩ := Option.map_eq_some_iff.mp expires
  exact Int.add_lt_add_left (short left member) world.now

theorem get_of_live {world : World json} {key : String} {entry : Entry json}
    (live : world.Live key) (present : world.keys key = some entry) :
    world.get key = some entry.stored := by
  rw [get, present]
  cases expires : entry.expires with
  | none => simp only [expires]
  | some time => simp only [expires, if_pos (live entry present time expires)]

end World

/-- `session:<id>`. -/
def sessionKey (id : String) : String :=
  "session:" ++ id

/-- What `time.Duration(age)*time.Second` makes the client send, in milliseconds; a product
that has overflowed to a negative number sets no expiry. -/
def lifetime (age : Int) : Option Int :=
  let duration := Int.bmod (age * 1000000000) (2 ^ 64)
  if 0 < duration then some (max 1 (duration / 1000000)) else none

/-! ### Sessions -/

structure Session where
  name : String
  id : String
  values : Values
  maxAge : Int
  isNew : Bool

structure IssuedCookie where
  name : String
  value : Bytes
  maxAge : Int

/-- `Options.MaxAge` of the store. -/
def defaultMaxAge : Int :=
  86400 * 7

inductive SaveError where
  | marshal
  | valkey
  | signing
deriving DecidableEq

variable (json) (cookies : SecureCookie)

def loadedValues (read : Entries) : Values :=
  ⟨read.revise (fun row => (row.1, row.2.retype)) (fun _ => rfl), []⟩

/-- `New` for the value of the cookie, if the request has it. Nothing is an error. -/
def newSession (reachable : Bool) (world : World json) (name : String) (cookie : Option Bytes) :
    Session :=
  let fresh : Session := ⟨name, "", .empty, defaultMaxAge, true⟩
  match cookie.bind (cookies.decodeMulti name) with
  | none => fresh
  | some sessionID =>
    let named := { fresh with id := sessionID }
    match if reachable then world.get (sessionKey sessionID) else none with
    | none => named
    | some stored =>
      match json.decode stored with
      | none => named
      | some read =>
        { named with
          values := loadedValues read
          isNew := false }

/-- An id that `GenerateRandomKey` has given. -/
abbrev Generated := { id : String // id ≠ "" }

/-- `Save` when the session is to end; a failure to delete it is logged. -/
def endSession (reachable : Bool) (world : World json) (session : Session) :
    World json × Session :=
  if session.id = "" then (world, session)
  else
    (if reachable then world.delete (sessionKey session.id) else world,
      { session with id := "" })

def Session.withID (session : Session) (generated : Generated) : Session :=
  if session.id = "" then { session with id := generated.val } else session

/-- `Save`, with the session as it leaves it. -/
def save (generated : Generated) (reachable : Bool) (world : World json) (session : Session) :
    World json × Session × Except SaveError IssuedCookie :=
  if session.maxAge < 0 then
    let (world, ended) := endSession json reachable world session
    (world, ended, .ok ⟨session.name, [], session.maxAge⟩)
  else
    let session := session.withID generated
    match json.marshal session.values.entries with
    | none => (world, session, .error .marshal)
    | some stored =>
      let age := if session.maxAge = 0 then defaultMaxAge else session.maxAge
      if reachable then
        let world := world.set (sessionKey session.id) stored (lifetime age)
        match cookies.encodeMulti world.now session.name session.id with
        | none => (world, session, .error .signing)
        | some value => (world, session, .ok ⟨session.name, value, session.maxAge⟩)
      else (world, session, .error .valkey)

/-! ### One save and one load -/

/-- The cookie leads to a session with the id and the values. -/
structure Kept (world : World json) (cookie : Bytes) (name id : String) (values : Values) :
    Prop where
  signed : cookies.decodeMulti name cookie = some id
  stored : ∃ entry read, world.keys (sessionKey id) = some entry ∧
    json.decode entry.stored = some read ∧
    ∀ key, read.find key = (values.entries.find key).map fun row => (row.1, row.2.wire)

variable {json} {cookies}

theorem Values.Plain.row (plain : values.Plain) {key : String}
    {row : String × GoValue} (found : values.entries.find key = some row) : row.2.Plain := by
  apply plain.plain key
  rw [Values.find, found, Option.map_some]

theorem Values.Plain.find_retype (plain : values.Plain) {read : Entries}
    (same : ∀ key, read.find key = (values.entries.find key).map fun row => (row.1, row.2.wire))
    (key : String) : (loadedValues read).entries.find key = values.entries.find key := by
  rw [loadedValues, Keyed.Table.find_revise, same key]
  cases found : values.entries.find key with
  | none => rfl
  | some row => simp only [Option.map_some, (plain.row found).retype_wire]

theorem Session.withID_fields (session : Session) (generated : Generated) :
    (session.withID generated).name = session.name ∧
      (session.withID generated).values = session.values ∧
        (session.withID generated).maxAge = session.maxAge ∧
          (session.withID generated).id ≠ "" := by
  unfold Session.withID
  split
  · exact ⟨rfl, rfl, rfl, generated.property⟩
  · rename_i present
    exact ⟨rfl, rfl, rfl, present⟩

theorem save_kept (generated : Generated) (world : World json) (session : Session)
    (plain : session.values.Plain) (kept : 0 ≤ session.maxAge)
    (signs : ∀ time,
      (cookies.encodeMulti time session.name (session.withID generated).id).isSome = true) :
    ∃ after issued, save json cookies generated true world session =
        (after, session.withID generated, .ok issued) ∧
      Kept json cookies after issued.value session.name (session.withID generated).id
        session.values := by
  obtain ⟨name, values, maxAge, _⟩ := session.withID_fields generated
  obtain ⟨stored, read, marshalled, decoded, same⟩ :=
    json.decode_marshal session.values.entries (fun _ _ => plain.row)
  obtain ⟨value, signed⟩ := Option.isSome_iff_exists.mp (signs world.now)
  let after := world.set (sessionKey (session.withID generated).id) stored
    (lifetime (if session.maxAge = 0 then defaultMaxAge else session.maxAge))
  have saved : save json cookies generated true world session =
      (after, session.withID generated, .ok ⟨session.name, value, session.maxAge⟩) := by
    have stays : ¬session.maxAge < 0 := by omega
    simp only [save, if_neg stays, values, marshalled, name, maxAge, if_true, World.set, signed,
      after]
  refine ⟨after, _, saved, ?_⟩
  constructor
  · exact cookies.decode_encode _ _ _ _ signed
  · exact ⟨_, read, Function.update_self .., decoded, same⟩

/-- What `Save` does in Valkey: nothing, a deletion, or a record that reads back as the values. -/
theorem save_cases (cookies : SecureCookie) (generated : Generated) (reachable : Bool)
    (world : World json) (session : Session)
    (plain : reachable = true → 0 ≤ session.maxAge → session.values.Plain) :
    let after := (save json cookies generated reachable world session).1
    after = world ∨ (session.id ≠ "" ∧ after = world.delete (sessionKey session.id)) ∨
      reachable = true ∧ 0 ≤ session.maxAge ∧ ∃ stored read age, json.decode stored = some read ∧
        (∀ key, read.find key =
          (session.values.entries.find key).map fun row => (row.1, row.2.wire)) ∧
        after = world.set (sessionKey (session.withID generated).id) stored (lifetime age) := by
  by_cases ends : session.maxAge < 0
  · simp only [save, if_pos ends, endSession]
    split_ifs with unnamed
    · exact .inl rfl
    · exact .inr (.inl ⟨unnamed, rfl⟩)
    · exact .inl rfl
  · cases reachable with
    | false =>
      simp only [save, if_neg ends]
      split
      · exact .inl rfl
      · exact .inl rfl
    | true =>
      obtain ⟨stored, read, marshalled, decoded, same⟩ :=
        json.decode_marshal session.values.entries fun _ _ => (plain rfl (by omega)).row
      refine .inr (.inr ⟨rfl, by omega, stored, read,
        if session.maxAge = 0 then defaultMaxAge else session.maxAge, decoded, same, ?_⟩)
      obtain ⟨_, values, maxAge, _⟩ := session.withID_fields generated
      simp only [save, if_neg ends, values, maxAge, marshalled, if_true]
      split
      · rfl
      · rfl

theorem newSession_kept {world : World json} (plain : values.Plain)
    (kept : Kept json cookies world cookie name id values) (live : world.Live (sessionKey id)) :
    ∃ loaded, newSession json cookies true world name (some cookie) =
        ⟨name, id, loaded, defaultMaxAge, false⟩ ∧
      loaded.others = [] ∧ ∀ key, loaded.entries.find key = values.entries.find key := by
  obtain ⟨entry, read, present, decoded, same⟩ := kept.stored
  refine ⟨loadedValues read, ?_, rfl, plain.find_retype same⟩
  simp only [newSession, Option.bind_some, kept.signed, if_true, World.get_of_live live present,
    decoded]

theorem Kept.advance {world : World json}
    (kept : Kept json cookies world cookie name id values) (duration : Nat) :
    Kept json cookies (world.advance duration) cookie name id values :=
  ⟨kept.signed, kept.stored⟩

theorem Values.Plain.congr {loaded : Values} (plain : values.Plain) (others : loaded.others = [])
    (same : ∀ key, loaded.entries.find key = values.entries.find key) : loaded.Plain := by
  refine ⟨others, ?_⟩
  intro key value found
  rw [Values.find, same key] at found
  exact plain.plain key value found

theorem Kept.congr {world : World json}
    {loaded : Values} (kept : Kept json cookies world cookie name id loaded)
    (same : ∀ key, loaded.entries.find key = values.entries.find key) :
    Kept json cookies world cookie name id values := by
  obtain ⟨entry, read, present, decoded, agree⟩ := kept.stored
  refine ⟨kept.signed, entry, read, present, decoded, ?_⟩
  intro key
  rw [agree key, same key]

/-! ### Any number of rounds -/

structure Client (json : Json) where
  world : World json
  cookie : Bytes

/-- One request that loads its session and saves it again, as `RequireAuth` does. -/
structure Round where
  pause : Nat
  work : Nat
  maxAge : Int
  generated : Generated

variable (json) (cookies) in
def round (name : String) (client : Client json) (request : Round) : Client json :=
  let world := client.world.advance request.pause
  let session := newSession json cookies true world name (some client.cookie)
  match save json cookies request.generated true (world.advance request.work)
      { session with maxAge := request.maxAge } with
  | (world, _, .ok issued) => ⟨world, issued.value⟩
  | (world, _, .error _) => ⟨world, client.cookie⟩

variable (json) (cookies) in
/-- No request ends the session or comes after it has expired. -/
def Timely (name id : String) : Client json → List Round → Prop
  | _, [] => True
  | client, request :: rest =>
    0 ≤ request.maxAge ∧ (client.world.advance request.pause).Live (sessionKey id) ∧
      Timely name id (round json cookies name client request) rest

theorem round_kept (plain : values.Plain)
    (named : id ≠ "") (signs : ∀ time, (cookies.encodeMulti time name id).isSome = true)
    {client : Client json} {request : Round} (stays : 0 ≤ request.maxAge)
    (live : (client.world.advance request.pause).Live (sessionKey id))
    (kept : Kept json cookies client.world client.cookie name id values) :
    Kept json cookies (round json cookies name client request).world
      (round json cookies name client request).cookie name id values := by
  obtain ⟨loaded, session, others, same⟩ :=
    newSession_kept plain (kept.advance request.pause) live
  have keepsID : (Session.withID ⟨name, id, loaded, request.maxAge, false⟩
      request.generated).id = id := by
    rw [Session.withID, if_neg named]
  have signing : ∀ time, (cookies.encodeMulti time name (Session.withID
      ⟨name, id, loaded, request.maxAge, false⟩ request.generated).id).isSome = true := by
    rw [keepsID]
    exact signs
  obtain ⟨after, issued, saved, again⟩ := save_kept request.generated
    ((client.world.advance request.pause).advance request.work)
    ⟨name, id, loaded, request.maxAge, false⟩ (plain.congr others same) stays signing
  have next : round json cookies name client request = ⟨after, issued.value⟩ := by
    simp only [round, session, saved]
  rw [next]
  rw [keepsID] at again
  exact again.congr same

theorem rounds_kept (plain : values.Plain)
    (named : id ≠ "") (signs : ∀ time, (cookies.encodeMulti time name id).isSome = true)
    {requests : List Round} {client : Client json}
    (timely : Timely json cookies name id client requests)
    (kept : Kept json cookies client.world client.cookie name id values) :
    Kept json cookies (requests.foldl (round json cookies name) client).world
      (requests.foldl (round json cookies name) client).cookie name id values := by
  induction requests generalizing client with
  | nil => exact kept
  | cons request rest ih =>
    obtain ⟨stays, live, later⟩ := timely
    exact ih later (round_kept plain named signs stays live kept)

end Store

/-- A session that is saved is loaded with the same id and the same values of the same types,
after any number of requests that load and save it. -/
theorem session_survives (json : Json) (cookies : SecureCookie) (generated : Generated)
    (world : World json) {session : Session} (plain : session.values.Plain)
    (kept : 0 ≤ session.maxAge)
    (signs : ∀ time,
      (cookies.encodeMulti time session.name (session.withID generated).id).isSome = true) :
    ∃ after issued, save json cookies generated true world session =
        (after, session.withID generated, .ok issued) ∧
      ∀ requests : List Round,
        Timely json cookies session.name (session.withID generated).id ⟨after, issued.value⟩
          requests →
        let client := requests.foldl (round json cookies session.name) ⟨after, issued.value⟩
        ∀ pause, (client.world.advance pause).Live (sessionKey (session.withID generated).id) →
          let loaded := newSession json cookies true (client.world.advance pause) session.name
            (some client.cookie)
          loaded.id = (session.withID generated).id ∧ loaded.isNew = false ∧
            loaded.values.others = session.values.others ∧
            ∀ key, loaded.values.find key = session.values.find key := by
  obtain ⟨after, issued, saved, first⟩ := save_kept generated world session plain kept signs
  refine ⟨after, issued, saved, ?_⟩
  intro requests timely client pause live loaded
  have named := (session.withID_fields generated).2.2.2
  have last := rounds_kept plain named signs timely first
  obtain ⟨values, result, others, same⟩ := newSession_kept plain (last.advance pause) live
  have shape : loaded = ⟨session.name, (session.withID generated).id, values, defaultMaxAge,
      false⟩ := result
  rw [shape, plain.stringKeys]
  refine ⟨rfl, rfl, others, ?_⟩
  intro key
  rw [Values.find, Values.find, same key]

/-- A codec that stores the map as it is read back. -/
def directJson : Json where
  Stored := Entries
  marshal entries := some (entries.revise (fun row => (row.1, row.2.wire)) (fun _ => rfl))
  decode := some
  decode_marshal := by
    intro entries _
    refine ⟨_, _, rfl, rfl, ?_⟩
    intro key
    exact Keyed.Table.find_revise

/-- Cookies that hold the id in the clear. -/
def clearCookies : SecureCookie where
  encodeMulti _ _ id := some (Utf8.encode id.toList)
  decodeMulti _ value := some (String.ofList (Utf8.decode value))
  decode_encode := by
    intro time name id value signed
    rw [← Option.some.inj signed, Utf8.decode_encode, String.ofList_toList]

def sampleSession : Session where
  name := "session"
  id := ""
  values :=
    { entries :=
        { rows := [("user_id", .int 9223372036854775807),
            ("csrf_token", .text (Utf8.encode ['4', '2']))]
          distinct := by decide }
      others := [] }
  maxAge := 0
  isNew := true

theorem sampleSession_plain : sampleSession.values.Plain := by
  refine ⟨rfl, ?_⟩
  intro key value found
  obtain ⟨row, present, rfl⟩ := Option.map_eq_some_iff.mp found
  have member := (Keyed.Table.find_eq_some_iff.mp present).1
  simp only [sampleSession, List.mem_cons, List.not_mem_nil, or_false] at member
  rcases member with rfl | rfl
  · exact ⟨by decide, by decide⟩
  · exact Utf8.valid_encode _

/-- A request an hour later that takes five milliseconds. -/
def renewal : Round :=
  ⟨3600000, 5, defaultMaxAge, ⟨"other", by decide⟩⟩

/-- The session is saved, renewed by a request, and loaded a minute after that. -/
theorem session_survives_sample :
    ∃ after issued,
      save directJson clearCookies ⟨"id", by decide⟩ true ⟨0, fun _ => none⟩ sampleSession =
        (after, sampleSession.withID ⟨"id", by decide⟩, .ok issued) ∧
      let client := round directJson clearCookies "session" ⟨after, issued.value⟩ renewal
      let loaded := newSession directJson clearCookies true (client.world.advance 60000) "session"
        (some client.cookie)
      loaded.id = "id" ∧ loaded.isNew = false ∧
        loaded.values.find "user_id" = some (.int 9223372036854775807) := by
  obtain ⟨after, issued, saved, survives⟩ := session_survives directJson clearCookies
    ⟨"id", by decide⟩ ⟨0, fun _ => none⟩ sampleSession_plain (Int.le_refl 0) (fun _ => rfl)
  refine ⟨after, issued, saved, ?_⟩
  have world := congrArg Prod.fst saved
  have cookie := congrArg (fun result => result.2.2) saved
  cases world
  cases cookie
  obtain ⟨id, known, _, same⟩ := survives [renewal]
    ⟨by decide, World.live_set (by decide), trivial⟩ 60000 (World.live_set (by decide))
  exact ⟨id, known, same "user_id"⟩

end ContestSync.SessionStore
