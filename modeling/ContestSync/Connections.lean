/-
The AMQP connection of a queue and its two mutexes. `connectAMQP` holds `connMu`
from end to end and `mu` only where it reads or replaces the connection; `Close`
takes `mu` alone, so that it may run at any point of a connection that is being set
up. Every access to a field, every lock and every call to the broker is a request
of its own.
-/

import ContestSync.Resumable.Pool

namespace ContestSync.Connections

open Resumable Program Relation

/-! ### The service -/

inductive QueueName where
  | extraction
  | sync
deriving DecidableEq

/-- Connections and channels are numbered in the order in which they are opened. -/
inductive Request where
  | lockConnMu
  | unlockConnMu
  | lockMu
  | unlockMu
  | rLockMu
  | rUnlockMu
  | getClosed
  | setClosed
  | getConn
  | setConn (conn : Option Nat)
  | getChannel
  | setChannel (channel : Option Nat)
  | getInMemory
  | setInMemory (inMemory : Bool)
  | connIsClosed (conn : Nat)
  | channelIsClosed (channel : Nat)
  | dial
  | openChannel (conn : Nat)
  | queueDeclare (channel : Nat) (name : QueueName)
  | closeChannel (channel : Nat)
  | closeConn (conn : Nat)
  | publish (channel : Nat) (name : QueueName)
  | enqueue (name : QueueName)
  | contextDone
  | backOff

/-- `Bool` is the absence of an error, for the last two whether the context was
cancelled. -/
abbrev Request.Answer : Request → Type
  | .lockConnMu => Unit
  | .unlockConnMu => Unit
  | .lockMu => Unit
  | .unlockMu => Unit
  | .rLockMu => Unit
  | .rUnlockMu => Unit
  | .getClosed => Bool
  | .setClosed => Unit
  | .getConn => Option Nat
  | .setConn _ => Unit
  | .getChannel => Option Nat
  | .setChannel _ => Unit
  | .getInMemory => Bool
  | .setInMemory _ => Unit
  | .connIsClosed _ => Bool
  | .channelIsClosed _ => Bool
  | .dial => Option Nat
  | .openChannel _ => Option Nat
  | .queueDeclare _ _ => Bool
  | .closeChannel _ => Bool
  | .closeConn _ => Bool
  | .publish _ _ => Bool
  | .enqueue _ => Bool
  | .contextDone => Bool
  | .backOff => Bool

abbrev service : Interface :=
  { Request := Request
    Answer := Request.Answer }

abbrev ask (request : Request) : Program service request.Answer :=
  .call request .done

/-- The fields of a `Queue` that concern its connection, and what is behind them:
the number of connections dialled so far, the connection of each channel, and
which of either have been closed, from whichever side. -/
structure State where
  connMu : Bool
  writer : Bool
  readers : Nat
  isClosed : Bool
  conn : Option Nat
  channel : Option Nat
  useInMemory : Bool
  dialled : Nat
  channels : List Nat
  closedConns : List Nat
  closedChannels : List Nat

namespace State

def channelClosed (state : State) (channel : Nat) : Bool :=
  channel ∈ state.closedChannels ∨ ∃ conn ∈ state.channels[channel]?, conn ∈ state.closedConns

/-- `succeeds` is the choice of the broker, or of the context. `Connection.Close` and
`Channel.Close` shut their side down even when they return an error. -/
def serve (state : State) : (request : Request) → (succeeds : Bool) → State × request.Answer
  | .lockConnMu, _ => ({ state with connMu := true }, ())
  | .unlockConnMu, _ => ({ state with connMu := false }, ())
  | .lockMu, _ => ({ state with writer := true }, ())
  | .unlockMu, _ => ({ state with writer := false }, ())
  | .rLockMu, _ => ({ state with readers := state.readers + 1 }, ())
  | .rUnlockMu, _ => ({ state with readers := state.readers - 1 }, ())
  | .getClosed, _ => (state, state.isClosed)
  | .setClosed, _ => ({ state with isClosed := true }, ())
  | .getConn, _ => (state, state.conn)
  | .setConn conn, _ => ({ state with conn := conn }, ())
  | .getChannel, _ => (state, state.channel)
  | .setChannel channel, _ => ({ state with channel := channel }, ())
  | .getInMemory, _ => (state, state.useInMemory)
  | .setInMemory inMemory, _ => ({ state with useInMemory := inMemory }, ())
  | .connIsClosed conn, _ => (state, decide (conn ∈ state.closedConns))
  | .channelIsClosed channel, _ => (state, state.channelClosed channel)
  | .dial, true => ({ state with dialled := state.dialled + 1 }, some state.dialled)
  | .dial, false => (state, none)
  | .openChannel conn, succeeds =>
    if succeeds ∧ conn ∉ state.closedConns then
      ({ state with channels := state.channels ++ [conn] }, some state.channels.length)
    else (state, none)
  | .queueDeclare channel _, succeeds => (state, succeeds && !state.channelClosed channel)
  | .closeChannel channel, succeeds =>
    ({ state with closedChannels := channel :: state.closedChannels }, succeeds)
  | .closeConn conn, succeeds =>
    ({ state with closedConns := conn :: state.closedConns }, succeeds)
  | .publish channel _, succeeds => (state, succeeds && !state.channelClosed channel)
  | .enqueue _, succeeds => (state, succeeds)
  | .contextDone, succeeds => (state, succeeds)
  | .backOff, succeeds => (state, succeeds)

end State

abbrev environment : Environment service :=
  { State := State
    Outcome := Bool
    serve := State.serve }

/-! ### The programs -/

inductive ConnectError where
  | closed
  | dial
  | channel
  | declareExtraction
  | declareSync
  | closedDuringSetup
deriving DecidableEq

/-- `q.AMQPConn != nil && !q.AMQPConn.IsClosed() && q.AMQPChannel != nil &&
!q.AMQPChannel.IsClosed()`. -/
def connected : Program service Bool := do
  match ← ask .getConn with
  | none => return false
  | some conn =>
    if ← ask (.connIsClosed conn) then
      return false
    else
      match ← ask .getChannel with
      | none => return false
      | some channel =>
        if ← ask (.channelIsClosed channel) then
          return false
        else
          return true

/-- `none` when a new connection is to be set up. -/
def checkConnection : Program service (Option (Except ConnectError Unit)) := do
  ask .rLockMu
  if ← ask .getClosed then
    ask .rUnlockMu
    return some (.error .closed)
  else if ← connected then
    ask .rUnlockMu
    return some (.ok ())
  else
    ask .rUnlockMu
    return none

def abandon (conn channel : Nat) (error : ConnectError) :
    Program service (Except ConnectError Unit) := do
  let _ ← ask (.closeChannel channel)
  let _ ← ask (.closeConn conn)
  return .error error

/-- The old pair is closed when `mu` has been released. -/
def closeOld (oldChannel oldConn : Option Nat) : Program service (Except ConnectError Unit) := do
  match oldChannel with
  | some channel =>
    let _ ← ask (.closeChannel channel)
  | none => pure ()
  match oldConn with
  | some conn =>
    let _ ← ask (.closeConn conn)
  | none => pure ()
  return .ok ()

def install (conn channel : Nat) : Program service (Except ConnectError Unit) := do
  ask .lockMu
  if ← ask .getClosed then
    ask .unlockMu
    abandon conn channel .closedDuringSetup
  else
    let oldChannel ← ask .getChannel
    let oldConn ← ask .getConn
    ask (.setConn (some conn))
    ask (.setChannel (some channel))
    ask (.setInMemory false)
    ask .unlockMu
    closeOld oldChannel oldConn

def setUp : Program service (Except ConnectError Unit) := do
  match ← ask .dial with
  | none => return .error .dial
  | some conn =>
    match ← ask (.openChannel conn) with
    | none =>
      let _ ← ask (.closeConn conn)
      return .error .channel
    | some channel =>
      if ← ask (.queueDeclare channel .extraction) then
        if ← ask (.queueDeclare channel .sync) then
          install conn channel
        else
          abandon conn channel .declareSync
      else
        abandon conn channel .declareExtraction

/-- The body of `connectAMQP`; the release of `connMu` is deferred. -/
def connectLocked : Program service (Except ConnectError Unit) := do
  match ← checkConnection with
  | some result => return result
  | none => setUp

def connectAMQP : Program service (Except ConnectError Unit) := do
  ask .lockConnMu
  let result ← connectLocked
  ask .unlockConnMu
  return result

/-- A loop without a bound; `rounds` are the passes after which the context is
cancelled at the latest. -/
def reconnectWithBackoff : (rounds : Nat) → Program service Bool
  | 0 => return false
  | rounds + 1 => do
      if ← ask .contextDone then
        return false
      else
        match ← checkConnection with
        | some (.ok ()) => return true
        | some (.error _) => return false
        | none =>
          match ← connectAMQP with
          | .ok () => return true
          | .error _ =>
            if ← ask .backOff then
              return false
            else
              reconnectWithBackoff rounds

/-- `q.useInMemory || q.AMQPChannel == nil || q.AMQPConn == nil ||
q.AMQPConn.IsClosed()`. -/
def inMemory : Program service Bool := do
  if ← ask .getInMemory then
    return true
  else
    match ← ask .getChannel with
    | none => return true
    | some _ =>
      match ← ask .getConn with
      | none => return true
      | some conn => ask (.connIsClosed conn)

/-- `PublishExtractionTask` and `PublishSyncTask`. -/
def publishTask (name : QueueName) : Program service Bool := do
  ask .rLockMu
  let buffered ← inMemory
  let channel ← ask .getChannel
  ask .rUnlockMu
  -- Under the read lock the channel is the one that `inMemory` has seen.
  match buffered, channel with
  | false, some channel => ask (.publish channel name)
  | _, _ => ask (.enqueue name)

def closeChannelField : Program service Unit := do
  match ← ask .getChannel with
  | some channel =>
    let _ ← ask (.closeChannel channel)
    ask (.setChannel none)
  | none => return ()

def closeConnField : Program service Bool := do
  match ← ask .getConn with
  | some conn =>
    let succeeded ← ask (.closeConn conn)
    ask (.setConn none)
    return succeeded
  | none => return true

def close : Program service Bool := do
  ask .lockMu
  ask .setClosed
  closeChannelField
  let succeeded ← closeConnField
  ask .unlockMu
  return succeeded

/-! ### What a worker remembers -/

inductive Job where
  | connectAMQP
  | reconnectWithBackoff (rounds : Nat)
  | publishTask (name : QueueName)
  | close

inductive Response where
  | connected (result : Except ConnectError Unit)
  | reconnected (succeeded : Bool)
  | published (succeeded : Bool)
  | closed (succeeded : Bool)

/-- `owed` are the connections that the worker has to close or to install, `shut`
those that it has closed. The three fields in the middle are what it knows of the
queue since it has taken `mu`. -/
structure Memory where
  connecting : Bool
  writing : Bool
  closedRead : Option Bool
  connRead : Option (Option Nat)
  channelRead : Option (Option Nat)
  owed : List Nat
  shut : List Nat
  hasClosed : Bool

def Memory.fresh : Memory :=
  { connecting := false
    writing := false
    closedRead := none
    connRead := none
    channelRead := none
    owed := []
    shut := []
    hasClosed := false }

def Memory.after (memory : Memory) : (request : Request) → request.Answer → Memory
  | .lockConnMu, _ => { memory with connecting := true }
  | .unlockConnMu, _ => { memory with connecting := false }
  | .lockMu, _ =>
    { memory with writing := true, closedRead := none, connRead := none, channelRead := none }
  | .unlockMu, _ => { memory with writing := false }
  | .getClosed, isClosed => { memory with closedRead := some isClosed }
  | .setClosed, _ => { memory with closedRead := some true, hasClosed := true }
  | .getConn, conn => { memory with connRead := some conn }
  | .setConn (some conn), _ =>
    { memory with
      connRead := some (some conn)
      -- The connection that is replaced is to be closed.
      owed := (memory.connRead.getD none).toList ++ memory.owed.filter (fun own => own ≠ conn) }
  | .setConn none, _ => { memory with connRead := some none }
  | .getChannel, channel => { memory with channelRead := some channel }
  | .setChannel channel, _ => { memory with channelRead := some channel }
  | .dial, some conn => { memory with owed := conn :: memory.owed }
  | .closeConn conn, _ =>
    { memory with
      owed := memory.owed.filter (fun own => own ≠ conn)
      shut := conn :: memory.shut }
  | _, _ => memory

def work : Workforce service Job Memory Response :=
  { program := fun job =>
      match job with
      | .connectAMQP => connectAMQP >>= fun result => .done (.connected result)
      | .reconnectWithBackoff rounds =>
        reconnectWithBackoff rounds >>= fun succeeded => .done (.reconnected succeeded)
      | .publishTask name => publishTask name >>= fun succeeded => .done (.published succeeded)
      | .close => close >>= fun succeeded => .done (.closed succeeded)
    fresh := fun _ => .fresh
    record := fun _ => Memory.after }

/-- A connection is dialled under `connMu`, and `connMu` is not released before it is
installed or closed. A field is written under `mu`; a connection is installed by a
worker that has seen that the queue is open and what it replaces, and removed by
one that has closed it. -/
def Careful (_job : Job) (memory : Memory) : Request → Prop
  | .unlockConnMu => memory.connecting = true ∧ memory.owed = []
  | .dial => memory.connecting = true
  | .unlockMu => memory.writing = true ∧
      (memory.hasClosed = true → memory.closedRead = some true ∧ memory.connRead = some none ∧
        memory.channelRead = some none)
  | .setClosed => memory.writing = true
  | .setConn (some conn) => memory.writing = true ∧ memory.connecting = true ∧
      memory.closedRead = some false ∧ conn ∈ memory.owed ∧ memory.connRead ≠ none
  | .setConn none => memory.writing = true ∧
      ∃ conn, memory.connRead = some (some conn) ∧ conn ∈ memory.shut
  | .setChannel (some _) => memory.writing = true ∧ memory.closedRead = some false
  | .setChannel none => memory.writing = true
  | _ => True

abbrev careful : Job → Specification service Memory :=
  work.watch Careful

def Ends (job : Job) (_response : Response) (memory : Memory) : Prop :=
  memory.connecting = false ∧ memory.writing = false ∧ (job = .close → memory.hasClosed = true)

/-! ### The order of the requests -/

/-- The requests that neither take or release a mutex, nor write a field, nor open or
close a connection, `mu` for reading apart. -/
def Request.passive : Request → Bool
  | .lockConnMu | .unlockConnMu | .lockMu | .unlockMu => false
  | .setClosed | .setConn _ | .setChannel _ => false
  | .dial | .closeConn _ => false
  | _ => true

/-- The worker does not hold `mu`, holds `connMu` or not, and has these connections
on its hands. -/
structure Memory.Free (connecting : Bool) (owed : List Nat) (memory : Memory) : Prop where
  connecting : memory.connecting = connecting
  writing : memory.writing = false
  owed : memory.owed = owed
  hasClosed : memory.hasClosed = false

section Discipline

variable {job : Job} {connecting : Bool} {owed : List Nat} {memory : Memory} {request : Request}
  {conn : Nat}

theorem careful_passive (passive : request.passive = true) :
    Careful job memory request := by
  cases request <;> trivial

theorem Memory.Free.passive (free : memory.Free connecting owed)
    (passive : request.passive = true) (answer : request.Answer) :
    (memory.after request answer).Free connecting owed := by
  obtain ⟨holds, writing, hands, hasClosed⟩ := free
  cases request <;> first | exact ⟨holds, writing, hands, hasClosed⟩ | cases passive

theorem ensures_ask {α : Type} {post : α → Memory → Prop}
    {next : request.Answer → Program service α} (allowed : Careful job memory request)
    (follows : ∀ answer, Ensures (careful job) post (next answer) (memory.after request answer)) :
    Ensures (careful job) post (ask request >>= next) memory :=
  ⟨allowed, follows⟩

theorem maintains_passive (passive : request.passive = true) :
    Maintains (careful job) (Memory.Free connecting owed) (ask request) :=
  Workforce.maintains_call (fun _ _ => careful_passive passive)
    (fun _ answer free => free.passive passive answer)

theorem maintains_connected :
    Maintains (careful job) (Memory.Free connecting owed) connected := by
  apply Maintains.bind (maintains_passive rfl)
  intro conn
  cases conn with
  | none => exact maintains_done _
  | some conn =>
    apply Maintains.bind (maintains_passive rfl)
    intro connClosed
    apply maintains_ite
    · exact fun _ => maintains_done _
    · intro _
      apply Maintains.bind (maintains_passive rfl)
      intro channel
      cases channel with
      | none => exact maintains_done _
      | some channel =>
        apply Maintains.bind (maintains_passive rfl)
        intro channelClosed
        exact maintains_ite (fun _ => maintains_done _) (fun _ => maintains_done _)

theorem maintains_checkConnection :
    Maintains (careful job) (Memory.Free connecting owed) checkConnection := by
  apply Maintains.bind (maintains_passive rfl)
  intro _
  apply Maintains.bind (maintains_passive rfl)
  intro isClosed
  apply maintains_ite
  · exact fun _ => (maintains_passive rfl).map
  · intro _
    apply Maintains.bind maintains_connected
    intro usable
    apply maintains_ite
    · exact fun _ => (maintains_passive rfl).map
    · exact fun _ => (maintains_passive rfl).map

theorem ensures_passive {α : Type} {post : α → Memory → Prop}
    {next : request.Answer → Program service α} (passive : request.passive = true)
    (free : memory.Free connecting owed) (follows : ∀ answer later, later.Free connecting owed →
      Ensures (careful job) post (next answer) later) :
    Ensures (careful job) post (ask request >>= next) memory :=
  ensures_ask (careful_passive passive)
    (fun answer => follows answer _ (free.passive passive answer))

theorem ensures_closeConn {α : Type} {post : α → Memory → Prop}
    {next : Bool → Program service α} (free : memory.Free connecting [conn])
    (follows : ∀ answer later, later.Free connecting [] →
      Ensures (careful job) post (next answer) later) :
    Ensures (careful job) post (ask (.closeConn conn) >>= next) memory := by
  refine ensures_ask trivial ?_
  intro answer
  apply follows
  exact ⟨free.connecting, free.writing, by simp [Memory.after, free.owed], free.hasClosed⟩

theorem ensures_abandon {channel : Nat} (error : ConnectError)
    (free : memory.Free connecting [conn]) :
    Ensures (careful job) (fun _ later => later.Free connecting [])
      (abandon conn channel error) memory := by
  apply ensures_passive rfl free
  intro _ later still
  exact ensures_closeConn still (fun _ _ settled => settled)

theorem ensures_closeOld (oldChannel : Option Nat) {oldConn : Option Nat}
    (free : memory.Free connecting oldConn.toList) :
    Ensures (careful job) (fun _ later => later.Free connecting [])
      (closeOld oldChannel oldConn) memory := by
  have closes : ∀ later : Memory, later.Free connecting oldConn.toList →
      Ensures (careful job) (fun _ later => later.Free connecting [])
        (closeOld none oldConn) later := by
    intro later still
    cases oldConn with
    | none => exact still
    | some conn => exact ensures_closeConn still (fun _ _ settled => settled)
  cases oldChannel with
  | none => exact closes memory free
  | some channel =>
    apply ensures_passive rfl free
    exact fun _ later still => closes later still

theorem ensures_install (channel : Nat) (free : memory.Free true [conn]) :
    Ensures (careful job) (fun _ later => later.Free true []) (install conn channel) memory := by
  obtain ⟨holds, _, hands, hasClosed⟩ := free
  refine ensures_ask trivial ?_
  intro _
  refine ensures_ask trivial ?_
  intro isClosed
  apply ensures_ite
  · intro _
    apply ensures_ask
    · simp [Careful, Memory.after, hasClosed]
    · exact fun _ => ensures_abandon _ ⟨holds, rfl, hands, hasClosed⟩
  · intro isOpen
    rw [Bool.not_eq_true] at isOpen
    refine ensures_ask trivial ?_
    intro oldChannel
    refine ensures_ask trivial ?_
    intro oldConn
    apply ensures_ask
    · simp [Careful, Memory.after, holds, hands, isOpen]
    · intro _
      apply ensures_ask
      · simp [Careful, Memory.after, isOpen]
      · intro _
        refine ensures_ask trivial ?_
        intro _
        apply ensures_ask
        · simp [Careful, Memory.after, hasClosed]
        · intro _
          apply ensures_closeOld oldChannel
          exact ⟨holds, rfl, by simp [Memory.after, hands], hasClosed⟩

theorem ensures_setUp (free : memory.Free true []) :
    Ensures (careful job) (fun _ later => later.Free true []) setUp memory := by
  refine ensures_ask free.connecting ?_
  intro dialled
  cases dialled with
  | none => exact free
  | some conn =>
    have held : (memory.after .dial (some conn)).Free true [conn] := by
      refine ⟨free.connecting, free.writing, ?_, free.hasClosed⟩
      simp [Memory.after, free.owed]
    apply ensures_passive rfl held
    intro opened later still
    cases opened with
    | none => exact ensures_closeConn still (fun _ _ settled => settled)
    | some channel =>
      apply ensures_passive rfl still
      intro declared next again
      apply ensures_ite
      · intro _
        apply ensures_passive rfl again
        intro declaredSync last holds
        apply ensures_ite
        · exact fun _ => ensures_install channel holds
        · exact fun _ => ensures_abandon _ holds
      · exact fun _ => ensures_abandon _ again

theorem ensures_connectLocked (free : memory.Free true []) :
    Ensures (careful job) (fun _ later => later.Free true []) connectLocked memory := by
  refine Ensures.then (maintains_checkConnection _ free) ?_
  intro checked later still
  cases checked with
  | some result => exact still
  | none => exact ensures_setUp still

theorem ensures_connectAMQP (free : memory.Free false []) :
    Ensures (careful job) (fun _ later => later.Free false []) connectAMQP memory := by
  refine ensures_ask trivial ?_
  intro _
  apply Ensures.bind
  refine Ensures.mono ?_ (ensures_connectLocked ⟨rfl, free.writing, free.owed, free.hasClosed⟩)
  intro result later settled
  refine ensures_ask ⟨settled.connecting, settled.owed⟩ ?_
  exact fun _ => ⟨rfl, settled.writing, settled.owed, settled.hasClosed⟩

theorem ensures_reconnectWithBackoff (rounds : Nat) (free : memory.Free false []) :
    Ensures (careful job) (fun _ later => later.Free false [])
      (reconnectWithBackoff rounds) memory := by
  induction rounds generalizing memory with
  | zero => exact free
  | succ rounds ih =>
    apply ensures_passive rfl free
    intro done later still
    apply ensures_ite
    · exact fun _ => still
    · intro _
      refine Ensures.then (maintains_checkConnection _ still) ?_
      intro checked next again
      match checked with
      | some (.ok ()) => exact again
      | some (.error _) => exact again
      | none =>
        refine Ensures.then (ensures_connectAMQP again) ?_
        intro result last settled
        cases result with
        | ok _ => exact settled
        | error _ =>
          apply ensures_passive rfl settled
          intro cancelled final left
          exact ensures_ite (fun _ => left) (fun _ => ih left)

theorem maintains_inMemory :
    Maintains (careful job) (Memory.Free connecting owed) inMemory := by
  apply Maintains.bind (maintains_passive rfl)
  intro buffered
  apply maintains_ite
  · exact fun _ => maintains_done _
  · intro _
    apply Maintains.bind (maintains_passive rfl)
    intro channel
    cases channel with
    | none => exact maintains_done _
    | some channel =>
      apply Maintains.bind (maintains_passive rfl)
      intro conn
      cases conn with
      | none => exact maintains_done _
      | some conn => exact maintains_passive rfl

theorem maintains_publishTask (name : QueueName) :
    Maintains (careful job) (Memory.Free connecting owed) (publishTask name) := by
  apply Maintains.bind (maintains_passive rfl)
  intro _
  apply Maintains.bind maintains_inMemory
  intro buffered
  apply Maintains.bind (maintains_passive rfl)
  intro channel
  apply Maintains.bind (maintains_passive rfl)
  intro _
  match buffered, channel with
  | false, some channel => exact maintains_passive rfl
  | false, none => exact maintains_passive rfl
  | true, _ => exact maintains_passive rfl

/-- What `Close` knows when it has come to the release of `mu`. -/
structure Memory.Closing (memory : Memory) : Prop where
  connecting : memory.connecting = false
  writing : memory.writing = true
  closedRead : memory.closedRead = some true
  hasClosed : memory.hasClosed = true

theorem ensures_closeChannelField (closing : memory.Closing) :
    Ensures (careful job)
      (fun _ later => later.Closing ∧ later.channelRead = some none) closeChannelField memory := by
  obtain ⟨holds, writing, closedRead, hasClosed⟩ := closing
  refine ensures_ask trivial ?_
  intro channel
  cases channel with
  | none => exact ⟨⟨holds, writing, closedRead, hasClosed⟩, rfl⟩
  | some channel =>
    refine ensures_ask trivial ?_
    intro _
    refine ensures_ask writing ?_
    exact fun _ => ⟨⟨holds, writing, closedRead, hasClosed⟩, rfl⟩

theorem ensures_closeConnField (closing : memory.Closing)
    (cleared : memory.channelRead = some none) :
    Ensures (careful job)
      (fun _ later => later.Closing ∧ later.channelRead = some none ∧ later.connRead = some none)
      closeConnField memory := by
  obtain ⟨holds, writing, closedRead, hasClosed⟩ := closing
  refine ensures_ask trivial ?_
  intro conn
  cases conn with
  | none => exact ⟨⟨holds, writing, closedRead, hasClosed⟩, cleared, rfl⟩
  | some conn =>
    refine ensures_ask trivial ?_
    intro _
    apply ensures_ask
    · simp [Careful, Memory.after, writing]
    · exact fun _ => ⟨⟨holds, writing, closedRead, hasClosed⟩, cleared, rfl⟩

theorem ensures_close (free : memory.Free false []) :
    Ensures (careful job)
      (fun _ later => later.connecting = false ∧ later.writing = false ∧ later.hasClosed = true)
      close memory := by
  refine ensures_ask trivial ?_
  intro _
  refine ensures_ask rfl ?_
  intro _
  refine Ensures.then (ensures_closeChannelField ⟨free.connecting, rfl, rfl, rfl⟩) ?_
  rintro _ later ⟨closing, cleared⟩
  refine Ensures.then (ensures_closeConnField closing cleared) ?_
  rintro _ last ⟨still, channelCleared, connCleared⟩
  refine ensures_ask ⟨still.writing, fun _ => ⟨still.closedRead, connCleared, channelCleared⟩⟩ ?_
  exact fun _ => ⟨still.connecting, rfl, still.hasClosed⟩

theorem work_disciplined : work.Disciplined Careful Ends := by
  have fresh : Memory.fresh.Free false [] := ⟨rfl, rfl, rfl, rfl⟩
  have ends : ∀ {job : Job} {response : Response} {later : Memory}, job ≠ .close →
      later.Free false [] → Ends job response later :=
    fun other settled => ⟨settled.connecting, settled.writing, fun same => absurd same other⟩
  intro job
  cases job with
  | connectAMQP =>
    refine Ensures.then (ensures_connectAMQP fresh) ?_
    exact fun _ _ settled => ends Job.noConfusion settled
  | reconnectWithBackoff rounds =>
    refine Ensures.then (ensures_reconnectWithBackoff rounds fresh) ?_
    exact fun _ _ settled => ends Job.noConfusion settled
  | publishTask name =>
    refine Ensures.then (maintains_publishTask name _ fresh) ?_
    exact fun _ _ settled => ends Job.noConfusion settled
  | close =>
    refine Ensures.then (ensures_close fresh) ?_
    rintro _ later ⟨holds, writing, hasClosed⟩
    exact ⟨holds, writing, fun _ => hasClosed⟩

end Discipline

/-! ### What a step leaves to the others -/

def State.Final (state : State) : Prop :=
  state.isClosed = true ∧ state.conn = none ∧ state.channel = none

structure Sound (state : State) (memory : Memory) : Prop where
  connMu : memory.connecting = true → state.connMu = true
  writer : memory.writing = true → state.writer = true
  owed : memory.connecting = false → memory.owed = []
  shut : ∀ conn ∈ memory.shut, conn ∈ state.closedConns
  closedRead : memory.writing = true → ∀ isClosed, memory.closedRead = some isClosed →
    state.isClosed = isClosed
  connRead : memory.writing = true → ∀ conn, memory.connRead = some conn → state.conn = conn
  channelRead : memory.writing = true → ∀ channel, memory.channelRead = some channel →
    state.channel = channel
  final : memory.hasClosed = true → memory.writing = false → state.Final

/-- A mutex is released by the worker that holds it, the fields are written by the
one that holds `mu`, no connection is opened again, and a closed queue stays as it
is. -/
structure Leaves (memory : Memory) (before after : State) : Prop where
  connMu : memory.connecting = true ∨ (before.connMu = true → after.connMu = true)
  writer : memory.writing = true ∨ (before.writer = true → after.writer = true)
  fields : memory.writing = true ∨
    (after.isClosed = before.isClosed ∧ after.conn = before.conn ∧ after.channel = before.channel)
  closedConns : ∀ conn ∈ before.closedConns, conn ∈ after.closedConns
  final : before.Final → after.Final

section Steps

variable {state after : State} {job : Job} {memory other : Memory} {request : Request}
  {succeeds : Bool}

theorem Sound.leaves (sound : Sound state other) (leaves : Leaves memory state after)
    (connector : other.connecting = true → memory.connecting = false)
    (writer : other.writing = true → memory.writing = false) : Sound after other := by
  have kept : other.writing = true → after.isClosed = state.isClosed ∧ after.conn = state.conn ∧
      after.channel = state.channel := by
    intro holds
    have free := writer holds
    simpa [free] using leaves.fields
  refine ⟨?_, ?_, sound.owed, ?_, ?_, ?_, ?_, ?_⟩
  · exact fun holds => leaves.connMu.resolve_left (by simp [connector holds]) (sound.connMu holds)
  · exact fun holds => leaves.writer.resolve_left (by simp [writer holds]) (sound.writer holds)
  · exact fun conn member => leaves.closedConns conn (sound.shut conn member)
  · intro holds isClosed read
    rw [(kept holds).1]
    exact sound.closedRead holds isClosed read
  · intro holds conn read
    rw [(kept holds).2.1]
    exact sound.connRead holds conn read
  · intro holds channel read
    rw [(kept holds).2.2]
    exact sound.channelRead holds channel read
  · exact fun closed released => leaves.final (sound.final closed released)

/-- The requests that are about neither mutex, `mu` for reading apart, and write none
of the three fields. -/
def Request.quiet : Request → Bool
  | .lockConnMu | .unlockConnMu | .lockMu | .unlockMu => false
  | .setClosed | .setConn _ | .setChannel _ => false
  | _ => true

/-- The mutexes and the fields are as they were. -/
structure Alike (before after : State) : Prop where
  connMu : after.connMu = before.connMu
  writer : after.writer = before.writer
  isClosed : after.isClosed = before.isClosed
  conn : after.conn = before.conn
  channel : after.channel = before.channel
  closedConns : ∀ conn ∈ before.closedConns, conn ∈ after.closedConns

theorem Alike.refl (state : State) : Alike state state :=
  ⟨rfl, rfl, rfl, rfl, rfl, fun _ member => member⟩

theorem alike_serve (quiet : request.quiet = true) :
    Alike state (state.serve request succeeds).1 := by
  cases request
  case closeConn conn =>
    exact ⟨rfl, rfl, rfl, rfl, rfl, fun _ member => List.mem_cons_of_mem _ member⟩
  case dial =>
    cases succeeds with
    | false => exact .refl state
    | true => exact ⟨rfl, rfl, rfl, rfl, rfl, fun _ member => member⟩
  case openChannel conn =>
    by_cases opens : succeeds = true ∧ conn ∉ state.closedConns
    · simp only [State.serve, if_pos opens]
      exact ⟨rfl, rfl, rfl, rfl, rfl, fun _ member => member⟩
    · simp only [State.serve, if_neg opens]
      exact .refl state
  all_goals first
    | exact ⟨rfl, rfl, rfl, rfl, rfl, fun _ member => member⟩
    | cases quiet

theorem Alike.final (alike : Alike state after) (final : state.Final) : after.Final :=
  ⟨alike.isClosed.trans final.1, alike.conn.trans final.2.1, alike.channel.trans final.2.2⟩

theorem Alike.leaves (alike : Alike state after) : Leaves memory state after :=
  { connMu := .inr (fun held => alike.connMu.trans held)
    writer := .inr (fun held => alike.writer.trans held)
    fields := .inr ⟨alike.isClosed, alike.conn, alike.channel⟩
    closedConns := alike.closedConns
    final := alike.final }

/-- A worker that has seen the queue open, and still holds `mu`, is not too late. -/
theorem Sound.not_final (sound : Sound state memory) (writing : memory.writing = true)
    (isOpen : memory.closedRead = some false) : ¬state.Final := by
  intro final
  have contradictory := sound.closedRead writing false isOpen
  rw [final.1] at contradictory
  cases contradictory

theorem Leaves.refl (state : State) : Leaves memory state state :=
  ⟨.inr id, .inr id, .inr ⟨rfl, rfl, rfl⟩, fun _ member => member, id⟩

theorem leaves_serve (sound : Sound state memory) (careful : Careful job memory request) :
    Leaves memory state (state.serve request succeeds).1 := by
  have same : Leaves memory state state := .refl state
  cases request
  case lockConnMu => exact { same with connMu := .inr (fun _ => rfl) }
  case unlockConnMu => exact { same with connMu := .inl careful.1 }
  case lockMu => exact { same with writer := .inr (fun _ => rfl) }
  case unlockMu => exact { same with writer := .inl careful.1 }
  case setClosed => exact { same with fields := .inl careful, final := fun final => ⟨rfl, final.2⟩ }
  case setConn conn =>
    cases conn with
    | none =>
      exact { same with
        fields := .inl careful.1
        final := fun final => ⟨final.1, rfl, final.2.2⟩ }
    | some conn =>
      obtain ⟨writing, _, isOpen, _⟩ := careful
      exact { same with
        fields := .inl writing
        final := fun final => absurd final (sound.not_final writing isOpen) }
  case setChannel channel =>
    cases channel with
    | none =>
      exact { same with fields := .inl careful, final := fun final => ⟨final.1, final.2.1, rfl⟩ }
    | some channel =>
      exact { same with
        fields := .inl careful.1
        final := fun final => absurd final (sound.not_final careful.1 careful.2) }
  all_goals exact (alike_serve rfl).leaves

/-! ### The step of a worker itself -/

theorem Sound.alike (sound : Sound state memory) (alike : Alike state after) :
    Sound after memory :=
  { connMu := fun holds => alike.connMu.trans (sound.connMu holds)
    writer := fun holds => alike.writer.trans (sound.writer holds)
    owed := sound.owed
    shut := fun conn member => alike.closedConns conn (sound.shut conn member)
    closedRead := fun holds isClosed read =>
      alike.isClosed.trans (sound.closedRead holds isClosed read)
    connRead := fun holds conn read => alike.conn.trans (sound.connRead holds conn read)
    channelRead := fun holds channel read =>
      alike.channel.trans (sound.channelRead holds channel read)
    final := fun closed released => alike.final (sound.final closed released) }

theorem sound_serve (sound : Sound state memory) (careful : Careful job memory request) :
    Sound (state.serve request succeeds).1
      (memory.after request (state.serve request succeeds).2) := by
  cases request
  case lockConnMu => exact { sound with connMu := fun _ => rfl, owed := nofun }
  case unlockConnMu => exact { sound with connMu := nofun, owed := fun _ => careful.2 }
  case lockMu =>
    exact { sound with
      writer := fun _ => rfl, closedRead := nofun, connRead := nofun, channelRead := nofun
      final := nofun }
  case unlockMu =>
    obtain ⟨writing, closes⟩ := careful
    refine { sound with
      writer := nofun, closedRead := nofun, connRead := nofun, channelRead := nofun, final := ?_ }
    intro closed _
    obtain ⟨isClosed, conn, channel⟩ := closes closed
    exact ⟨sound.closedRead writing _ isClosed, sound.connRead writing _ conn,
      sound.channelRead writing _ channel⟩
  case getClosed => exact { sound with closedRead := fun _ _ read => Option.some.inj read }
  case getConn => exact { sound with connRead := fun _ _ read => Option.some.inj read }
  case getChannel => exact { sound with channelRead := fun _ _ read => Option.some.inj read }
  case setClosed =>
    have writing : memory.writing = true := careful
    exact { sound with
      closedRead := fun _ _ read => Option.some.inj read
      final := fun _ released => absurd (released.symm.trans writing) Bool.false_ne_true }
  case setConn conn =>
    cases conn with
    | none =>
      exact { sound with
        connRead := fun _ _ read => Option.some.inj read
        final := fun _ released => absurd (released.symm.trans careful.1) Bool.false_ne_true }
    | some conn =>
      obtain ⟨writing, connecting, _⟩ := careful
      exact { sound with
        owed := fun released => absurd (released.symm.trans connecting) Bool.false_ne_true
        connRead := fun _ _ read => Option.some.inj read
        final := fun _ released => absurd (released.symm.trans writing) Bool.false_ne_true }
  case setChannel channel =>
    have writing : memory.writing = true := by
      cases channel with
      | none => exact careful
      | some channel => exact careful.1
    exact { sound with
      channelRead := fun _ _ read => Option.some.inj read
      final := fun _ released => absurd (released.symm.trans writing) Bool.false_ne_true }
  case dial =>
    have connecting : memory.connecting = true := careful
    cases succeeds with
    | false => exact sound
    | true =>
      exact { sound with
        owed := fun released => absurd (released.symm.trans connecting) Bool.false_ne_true }
  case closeConn conn =>
    refine { sound with owed := ?_, shut := ?_ }
    · intro released
      have settled : memory.owed = [] := sound.owed released
      simp [Memory.after, settled]
    · intro other member
      rcases List.mem_cons.mp member with same | earlier
      · subst same
        exact List.mem_cons_self
      · exact List.mem_cons_of_mem _ (sound.shut other earlier)
  all_goals exact sound.alike (alike_serve rfl)

/-- No connection is lost from sight: what was closed, current or on the hands of the
worker still is one of the three. -/
theorem covered_serve (sound : Sound state memory) (careful : Careful job memory request)
    {conn : Nat} (dialled : conn < (state.serve request succeeds).1.dialled)
    (before : conn < state.dialled →
      conn ∈ state.closedConns ∨ state.conn = some conn ∨ conn ∈ memory.owed) :
    conn ∈ (state.serve request succeeds).1.closedConns ∨
      (state.serve request succeeds).1.conn = some conn ∨
      conn ∈ (memory.after request (state.serve request succeeds).2).owed := by
  cases request
  case dial =>
    cases succeeds with
    | false => exact before dialled
    | true =>
      rcases Nat.lt_succ_iff_lt_or_eq.mp dialled with earlier | rfl
      · refine (before earlier).imp_right (Or.imp_right ?_)
        exact fun hands => List.mem_cons_of_mem _ hands
      · exact .inr (.inr List.mem_cons_self)
  case closeConn closed =>
    by_cases same : conn = closed
    · subst same
      exact .inl List.mem_cons_self
    · refine (before dialled).imp ?_ (Or.imp_right ?_)
      · exact fun member => List.mem_cons_of_mem _ member
      · exact fun hands => List.mem_filter.mpr ⟨hands, decide_eq_true same⟩
  case setConn replacement =>
    cases replacement with
    | none =>
      obtain ⟨writing, current, read, closed⟩ := careful
      rcases before dialled with member | installed | hands
      · exact .inl member
      · rw [sound.connRead writing _ read] at installed
        cases installed
        exact .inl (sound.shut conn closed)
      · exact .inr (.inr hands)
    | some new =>
      obtain ⟨writing, _, _, _, read⟩ := careful
      by_cases same : conn = new
      · subst same
        exact .inr (.inl rfl)
      · rcases before dialled with member | installed | hands
        · exact .inl member
        · refine .inr (.inr (List.mem_append_left _ ?_))
          obtain ⟨old, known⟩ := Option.ne_none_iff_exists'.mp read
          rw [known, Option.getD_some, ← sound.connRead writing _ known, installed]
          exact List.mem_singleton.mpr rfl
        · refine .inr (.inr (List.mem_append_right _ ?_))
          exact List.mem_filter.mpr ⟨hands, decide_eq_true same⟩
  case openChannel opened =>
    by_cases opens : succeeds = true ∧ opened ∉ state.closedConns
    · simp only [State.serve, if_pos opens] at dialled ⊢
      exact before dialled
    · simp only [State.serve, if_neg opens] at dialled ⊢
      exact before dialled
  all_goals exact before dialled

end Steps

/-! ### All workers together -/

section Pools

variable {ι : Type}

/-- A mutex is taken when it is free; `mu` is shared by its readers. -/
def Permits (pool : Pool environment ι Job Memory Response) (_who : ι) (request : Request)
    (_succeeds : Bool) : Prop :=
  match request with
  | .lockConnMu => pool.state.connMu = false
  | .lockMu => pool.state.writer = false ∧ pool.state.readers = 0
  | .rLockMu => pool.state.writer = false
  | _ => True

/-- Connections and channels break at any time. -/
def Breaks (before after : State) : Prop :=
  ∃ conns channels, after =
    { before with
      closedConns := conns ++ before.closedConns
      closedChannels := channels ++ before.closedChannels }

def rules (ι : Type) : Pool.Rules environment ι Job Memory Response :=
  { permits := Permits
    disturbs := Breaks }

structure Accounted (pool : Pool environment ι Job Memory Response) : Prop where
  sound : ∀ who, Sound pool.state (pool.memory who)
  connector : ∀ who other, (pool.memory who).connecting = true →
    (pool.memory other).connecting = true → who = other
  writer : ∀ who other, (pool.memory who).writing = true →
    (pool.memory other).writing = true → who = other
  covered : ∀ conn < pool.state.dialled, conn ∈ pool.state.closedConns ∨
    pool.state.conn = some conn ∨ ∃ who, conn ∈ (pool.memory who).owed

variable {memory : Memory} {request : Request}
  {first last : Pool environment ι Job Memory Response} {answer : request.Answer}

theorem connecting_after (holds : (memory.after request answer).connecting = true) :
    memory.connecting = true ∨ request = .lockConnMu := by
  unfold Memory.after at holds
  split at holds <;> first | exact .inl holds | exact .inr rfl | cases holds

theorem writing_after (holds : (memory.after request answer).writing = true) :
    memory.writing = true ∨ request = .lockMu := by
  unfold Memory.after at holds
  split at holds <;> first | exact .inl holds | exact .inr rfl | cases holds

variable {pool : Pool environment ι Job Memory Response}

theorem Accounted.breaks (accounted : Accounted pool) {after : State}
    (breaks : Breaks pool.state after) : Accounted { pool with state := after } := by
  obtain ⟨conns, channels, rfl⟩ := breaks
  have alike : Alike pool.state
      { pool.state with
        closedConns := conns ++ pool.state.closedConns
        closedChannels := channels ++ pool.state.closedChannels } :=
    ⟨rfl, rfl, rfl, rfl, rfl, fun _ member => List.mem_append_right _ member⟩
  refine ⟨fun who => (accounted.sound who).alike alike, accounted.connector, accounted.writer, ?_⟩
  intro conn dialled
  exact (accounted.covered conn dialled).imp_left (alike.closedConns conn)

variable [DecidableEq ι] {who : ι} {request : Request}
  {next : request.Answer → Program service Response} {succeeds : Bool}

theorem Accounted.start (accounted : Accounted pool) (job : Job)
    (released : (pool.memory who).connecting = false) :
    Accounted (pool.start work who job) := by
  have memory : ∀ other, (pool.start work who job).memory other =
      if other = who then Memory.fresh else pool.memory other :=
    fun other => Function.update_apply _ _ _ other
  refine ⟨?_, ?_, ?_, ?_⟩
  · intro other
    rw [memory]
    split
    · constructor <;> simp [Memory.fresh]
    · exact accounted.sound other
  · exact Pool.update_alone (fun memory : Memory => memory.connecting = true)
      accounted.connector nofun
  · exact Pool.update_alone (fun memory : Memory => memory.writing = true) accounted.writer nofun
  · intro conn dialled
    refine (accounted.covered conn dialled).imp_right (Or.imp_right ?_)
    rintro ⟨other, hands⟩
    have different : other ≠ who := by
      intro same
      rw [same, (accounted.sound who).owed released] at hands
      cases hands
    refine ⟨other, ?_⟩
    rw [memory, if_neg different]
    exact hands

theorem Accounted.serve (accounted : Accounted pool)
    (careful : Careful (pool.job who) (pool.memory who) request)
    (permitted : Permits pool who request succeeds) :
    Accounted (pool.serve work who request next succeeds) := by
  have sound := accounted.sound who
  have memory : ∀ other, (pool.serve work who request next succeeds).memory other =
      if other = who then
        (pool.memory who).after request (pool.state.serve request succeeds).2
      else pool.memory other :=
    fun other => Function.update_apply _ _ _ other
  -- A mutex that has just been taken was held by nobody.
  have connecting : ∀ other, other ≠ who → (pool.memory other).connecting = true →
      ¬((pool.memory who).after request (pool.state.serve request succeeds).2).connecting =
        true := by
    intro other different holds own
    rcases connecting_after own with before | rfl
    · exact different (accounted.connector other who holds before)
    · have free : pool.state.connMu = false := permitted
      rw [(accounted.sound other).connMu holds] at free
      cases free
  have writing : ∀ other, other ≠ who → (pool.memory other).writing = true →
      ¬((pool.memory who).after request (pool.state.serve request succeeds).2).writing = true := by
    intro other different holds own
    rcases writing_after own with before | rfl
    · exact different (accounted.writer other who holds before)
    · have free : pool.state.writer = false := permitted.1
      rw [(accounted.sound other).writer holds] at free
      cases free
  refine ⟨?_, ?_, ?_, ?_⟩
  · intro other
    rw [memory]
    split
    · exact sound_serve sound careful
    · rename_i different
      apply (accounted.sound other).leaves (leaves_serve sound careful)
      · intro holds
        rw [← Bool.not_eq_true]
        exact fun own => different (accounted.connector other who holds own)
      · intro holds
        rw [← Bool.not_eq_true]
        exact fun own => different (accounted.writer other who holds own)
  · exact Pool.update_alone (fun memory : Memory => memory.connecting = true)
      accounted.connector connecting
  · exact Pool.update_alone (fun memory : Memory => memory.writing = true) accounted.writer writing
  · intro conn dialled
    by_cases elsewhere : ∃ other, other ≠ who ∧ conn ∈ (pool.memory other).owed
    · obtain ⟨other, different, hands⟩ := elsewhere
      refine .inr (.inr ⟨other, ?_⟩)
      rw [memory, if_neg different]
      exact hands
    · have before : conn < pool.state.dialled → conn ∈ pool.state.closedConns ∨
          pool.state.conn = some conn ∨ conn ∈ (pool.memory who).owed := by
        intro earlier
        refine (accounted.covered conn earlier).imp_right (Or.imp_right ?_)
        rintro ⟨other, hands⟩
        by_cases same : other = who
        · rwa [← same]
        · exact absurd ⟨other, same, hands⟩ elsewhere
      refine (covered_serve sound careful dialled before).imp_right (Or.imp_right ?_)
      intro hands
      refine ⟨who, ?_⟩
      rw [memory, if_pos rfl]
      exact hands

/-- A queue that `New` has just made: nothing is dialled, and no worker has begun. -/
structure Initial (pool : Pool environment ι Job Memory Response) : Prop where
  idle : ∀ who, pool.Idle who
  unclosed : ∀ who, pool.job who ≠ .close
  begun : ∀ who, pool.memory who = .fresh
  undialled : pool.state.dialled = 0

omit [DecidableEq ι] in
theorem Initial.watched (initial : Initial pool) : pool.Watched work Careful Ends := by
  intro who
  obtain ⟨response, done⟩ := initial.idle who
  rw [done, initial.begun who]
  exact ⟨rfl, rfl, fun close => absurd close (initial.unclosed who)⟩

omit [DecidableEq ι] in
theorem Initial.accounted (initial : Initial pool) : Accounted pool := by
  constructor
  · intro who
    rw [initial.begun who]
    constructor <;> simp [Memory.fresh]
  · intro who other holds
    rw [initial.begun who] at holds
    cases holds
  · intro who other holds
    rw [initial.begun who] at holds
    cases holds
  · intro conn dialled
    rw [initial.undialled] at dialled
    exact absurd dialled (Nat.not_lt_zero conn)

theorem accounted_run (execution : ReflTransGen (Pool.Step work (rules ι)) first last)
    (watched : first.Watched work Careful Ends) (accounted : Accounted first) :
    last.Watched work Careful Ends ∧ Accounted last := by
  apply Pool.keeps work_disciplined execution Accounted
  · intro pool who job watched idle _ accounted
    obtain ⟨response, done⟩ := idle
    exact accounted.start job (watched.ended done).1
  · intro pool who request next succeeds watched ready permitted accounted
    exact accounted.serve (watched.allowed ready) permitted
  · exact fun pool after breaks accounted => accounted.breaks breaks
  · exact watched
  · exact accounted

theorem final_run (execution : ReflTransGen (Pool.Step work (rules ι)) first last)
    (watched : first.Watched work Careful Ends) (accounted : Accounted first)
    (final : first.state.Final) : last.state.Final := by
  have kept := Pool.keeps work_disciplined execution
    (fun pool => Accounted pool ∧ pool.state.Final) ?_ ?_ ?_ watched ⟨accounted, final⟩
  · exact kept.2.2
  · rintro pool who job watched ⟨response, done⟩ _ ⟨accounted, final⟩
    exact ⟨accounted.start job (watched.ended done).1, final⟩
  · rintro pool who request next succeeds watched ready permitted ⟨accounted, final⟩
    have careful := watched.allowed ready
    exact ⟨accounted.serve careful permitted,
      (leaves_serve (accounted.sound who) careful).final final⟩
  · rintro pool after breaks ⟨accounted, final⟩
    refine ⟨accounted.breaks breaks, ?_⟩
    obtain ⟨conns, channels, rfl⟩ := breaks
    exact final

def Connecting (pool : Pool environment ι Job Memory Response) : Prop :=
  ∃ who, (pool.memory who).connecting = true

omit [DecidableEq ι] in
theorem Accounted.settled (accounted : Accounted pool) (free : ¬Connecting pool) (conn : Nat)
    (dialled : conn < pool.state.dialled) :
    conn ∈ pool.state.closedConns ∨ pool.state.conn = some conn := by
  rcases accounted.covered conn dialled with closed | current | ⟨who, hands⟩
  · exact .inl closed
  · exact .inr current
  · have released : (pool.memory who).connecting = false := by
      rw [← Bool.not_eq_true]
      exact fun holds => free ⟨who, holds⟩
    rw [(accounted.sound who).owed released] at hands
    cases hands

/-- No connection is left behind, and nothing is installed any more once a `Close` has
run. -/
theorem connections_accounted {first last : Pool environment ι Job Memory Response}
    (initial : Initial first)
    (execution : ReflTransGen (Pool.Step work (rules ι)) first last) :
    (¬Connecting last → ∀ conn < last.state.dialled,
      conn ∈ last.state.closedConns ∨ last.state.conn = some conn) ∧
    ∀ who, last.job who = .close → last.Idle who → ∀ later,
      ReflTransGen (Pool.Step work (rules ι)) last later →
      later.state.conn = none ∧ later.state.channel = none ∧
        (¬Connecting later → ∀ conn < later.state.dialled, conn ∈ later.state.closedConns) := by
  obtain ⟨watched, accounted⟩ := accounted_run execution initial.watched initial.accounted
  refine ⟨accounted.settled, ?_⟩
  rintro who close ⟨response, done⟩ later further
  obtain ⟨_, released, hasClosed⟩ := watched.ended done
  have final := (accounted.sound who).final (hasClosed close) released
  obtain ⟨_, accountedLater⟩ := accounted_run further watched accounted
  obtain ⟨_, conn, channel⟩ := final_run further watched accounted final
  refine ⟨conn, channel, ?_⟩
  intro free number dialled
  have settled := accountedLater.settled free number dialled
  rw [conn] at settled
  exact settled.resolve_right nofun

end Pools

/-! ### A queue that is closed while it connects -/

def newQueue : Pool environment Bool Job Memory Response :=
  { state :=
      { connMu := false
        writer := false
        readers := 0
        isClosed := false
        conn := none
        channel := none
        useInMemory := false
        dialled := 0
        channels := []
        closedConns := []
        closedChannels := [] }
    job := fun _ => .connectAMQP
    rest := fun _ => .done (.reconnected false)
    memory := fun _ => .fresh }

/-- The first worker has dialled and opened a channel when the second one closes the
queue. -/
def closedQueue : Pool environment Bool Job Memory Response :=
  newQueue.play work ([.start false .connectAMQP] ++ List.replicate 7 (.serve false true) ++
      [.start true .close] ++ List.replicate 5 (.serve true true))

/-- The first worker finds the queue closed and drops its connection. -/
def abandonedQueue : Pool environment Bool Job Memory Response :=
  closedQueue.play work (List.replicate 8 (.serve false true))

theorem connections_accounted_abandoned :
    Initial newQueue ∧ closedQueue.state.dialled = 1 ∧ Connecting closedQueue ∧
    closedQueue.job true = .close ∧ closedQueue.Idle true ∧
    ¬Connecting abandonedQueue ∧ abandonedQueue.state.conn = none ∧
    0 ∈ abandonedQueue.state.closedConns := by
  have initial : Initial newQueue :=
    ⟨fun _ => ⟨_, rfl⟩, nofun, fun _ => rfl, rfl⟩
  have execution : ReflTransGen (Pool.Step work (rules Bool)) newQueue closedQueue :=
    Pool.play_steps _ ⟨trivial, rfl, rfl, trivial, trivial, trivial, trivial, trivial, trivial,
      ⟨rfl, rfl⟩, trivial, trivial, trivial, trivial, trivial⟩
  have further :
      ReflTransGen (Pool.Step work (rules Bool)) closedQueue abandonedQueue :=
    Pool.play_steps _ ⟨trivial, trivial, ⟨rfl, rfl⟩, trivial, trivial, trivial, trivial, trivial,
      trivial⟩
  have idle : closedQueue.Idle true := ⟨_, rfl⟩
  have free : ¬Connecting abandonedQueue := by
    rintro ⟨who, holds⟩
    cases who <;> cases holds
  obtain ⟨conn, _, closed⟩ := (connections_accounted initial execution).2 true rfl idle _ further
  exact ⟨initial, rfl, ⟨false, rfl⟩, rfl, idle, free, conn, closed free 0 Nat.one_pos⟩

end ContestSync.Connections
