/-
The task queue of `amqp.go`: any number of processes, each with its `Queue`, and
the broker they share. Every point at which another goroutine, another process
or the network can intervene is an event: `Publish*` looks at the connection and
then sends, a delivery is handled, retried and acknowledged in separate steps,
and an unacknowledged message can be redelivered at any time.

Each call of `Publish*` has a number, which its task keeps through all retries.
Numbers and the log are there to be reasoned about; no step depends on them.
-/

import ContestSync.Broker
import Mathlib.Logic.Function.Basic

namespace ContestSync

open Function

/-! ### The queue of a process -/

inductive Topic where
  | extraction
  | sync
deriving DecidableEq

/-- The capacities of `extractionCh` and `syncCh`. -/
def Topic.capacity : Topic → Nat
  | .extraction => 100
  | .sync => 1000

/-- `ExtractionTask` and `SyncTask`; the retry counter is kept with the message. -/
inductive Task where
  | extraction (platform : String)
  | sync (userID : Int)
deriving DecidableEq

def Task.topic : Task → Topic
  | .extraction _ => .extraction
  | .sync _ => .sync

/-- `AMQPConn` and `AMQPChannel`: nil, or open or closed at the other end. -/
inductive Handle where
  | absent
  | opened
  | closed
deriving DecidableEq

def Handle.lose : Handle → Handle
  | .opened => .closed
  | handle => handle

/-- `buffers` are `extractionCh` and `syncCh`; `consuming` tells whether
`StartConsumers` has been called. -/
structure Queue where
  amqpConfigured : Bool
  useInMemory : Bool
  isClosed : Bool
  amqpConn : Handle
  amqpChannel : Handle
  consuming : Bool
  buffers : Topic → List (Nat × Task)

namespace Queue

/-- `New`, for the outcome of the first dial. -/
def new (amqpURL : String) (dialed : Bool) : Queue :=
  if amqpURL = "" then
    { amqpConfigured := false
      useInMemory := true
      isClosed := false
      amqpConn := .absent
      amqpChannel := .absent
      consuming := false
      buffers := fun _ => [] }
  else
    { amqpConfigured := true
      useInMemory := !dialed
      isClosed := false
      amqpConn := if dialed then .opened else .absent
      amqpChannel := if dialed then .opened else .absent
      consuming := false
      buffers := fun _ => [] }

variable (queue : Queue)

/-- `connectAMQP`, called by the consumers. The dial happens outside the lock, but
calls exclude each other, so only `Close` can come in between, and it is looked
for again before the handles are set. -/
def connectAMQP (dialed : Bool) : Queue :=
  if queue.isClosed then queue
  else if queue.amqpConn = .opened ∧ queue.amqpChannel = .opened then queue
  else if dialed then
    { queue with amqpConn := .opened, amqpChannel := .opened, useInMemory := false }
  else queue

def disconnect : Queue :=
  { queue with amqpConn := queue.amqpConn.lose, amqpChannel := queue.amqpChannel.lose }

def loseChannel : Queue :=
  { queue with amqpChannel := queue.amqpChannel.lose }

def close : Queue :=
  { queue with isClosed := true, amqpConn := .absent, amqpChannel := .absent }

/-- The choice of `PublishSyncTask` and `PublishExtractionTask`. -/
def inMemory : Bool :=
  queue.useInMemory || queue.amqpChannel = .absent || queue.amqpConn = .absent ||
    queue.amqpConn = .closed

def buffer (number : Nat) (task : Task) : Queue :=
  { queue with
    buffers := update queue.buffers task.topic (queue.buffers task.topic ++ [(number, task)]) }

theorem mem_buffer {queue : Queue} {number : Nat} {task : Task} {topic : Topic}
    {entry : Nat × Task} :
    entry ∈ (queue.buffer number task).buffers topic ↔
      entry ∈ queue.buffers topic ∨ (topic = task.topic ∧ entry = (number, task)) := by
  change entry ∈ update queue.buffers task.topic
    (queue.buffers task.topic ++ [(number, task)]) topic ↔ _
  by_cases same : topic = task.topic
  · subst same
    simp
  · simp [same]

/-- The consumers that `StartConsumers` starts. -/
inductive Consumers where
  | inMemory
  | amqp
deriving DecidableEq

def startConsumers : Consumers :=
  if queue.amqpConfigured then .amqp else .inMemory

end Queue

/-! ### The broker -/

structure Message where
  number : Nat
  task : Task
  retryCount : Int
deriving DecidableEq

/-- How far the goroutine of a delivery is: `settling` is about to acknowledge it,
`rejecting` to return it to the queue. -/
inductive Stage where
  | received
  | handling
  | failed
  | settling
  | rejecting
  | finished
deriving DecidableEq

structure Work where
  process : Nat
  stage : Stage
deriving DecidableEq

/-- A call of `Publish*` after it has looked at the connection, and its result. -/
inductive Call where
  | pending (process : Nat) (task : Task) (inMemory : Bool)
  | returned (process : Nat) (task : Task) (inMemory succeeded : Bool)
deriving DecidableEq

inductive Occurrence where
  | taken (number : Nat)
  | started (number : Nat)
  | succeeded (number : Nat)
  | failed (number : Nat) (retryCount : Int)
  | nacked (number : Nat)
  | redelivered (number : Nat)
deriving DecidableEq

/-- A body that does not decode is `none`. -/
structure TaskSystem where
  queues : Nat → Queue
  broker : Broker.State (Option Message) Work
  calls : Nat → Option Call
  accepted : List Nat
  log : List Occurrence

/-- The end of a `PublishWithContext`: the broker holds the message and says so, it
does not, or it does and the answer is lost. -/
inductive Sending where
  | confirmed
  | refused
  | unconfirmed
deriving DecidableEq

inductive Retrying where
  | marshalError
  | sent (sending : Sending)
deriving DecidableEq

/-- `effective` is whether an acknowledgement reaches the broker. -/
inductive QueueEvent where
  | publish (process number : Nat) (task : Task)
  | send (number : Nat) (sending : Sending)
  | connect (process : Nat) (dialed : Bool)
  | disconnect (process : Nat)
  | loseChannel (process : Nat)
  | close (process : Nat)
  | startConsumers (process : Nat)
  | receive (process : Nat) (topic : Topic)
  | intrude
  | deliver (process index : Nat)
  | discard (tag : Nat) (effective : Bool)
  | handle (tag : Nat)
  | finish (tag : Nat) (succeeded : Bool)
  | retry (tag : Nat) (retrying : Retrying)
  | ack (tag : Nat) (effective : Bool)
  | nack (tag : Nat) (effective : Bool)
  | redeliver (tag : Nat)
deriving DecidableEq

namespace TaskSystem

def new (amqpURL : Nat → String) (dialed : Nat → Bool) : TaskSystem :=
  { queues := fun process => .new (amqpURL process) (dialed process)
    broker := .empty
    calls := fun _ => none
    accepted := []
    log := [] }

variable (system : TaskSystem)

def setQueue (process : Nat) (queue : Queue) : TaskSystem :=
  { system with queues := update system.queues process queue }

def setCall (number : Nat) (call : Call) : TaskSystem :=
  { system with calls := update system.calls number (some call) }

def setBroker (broker : Broker.State (Option Message) Work) : TaskSystem :=
  { system with broker := broker }

def record (occurrence : Occurrence) : TaskSystem :=
  { system with log := occurrence :: system.log }

/-! ### Publishing -/

def publish (process number : Nat) (task : Task) : TaskSystem :=
  match system.calls number with
  | none => system.setCall number (.pending process task (system.queues process).inMemory)
  | some _ => system

/-- The broker takes the first message of a task. -/
def accept (number : Nat) (task : Task) : TaskSystem :=
  { system with
    broker := system.broker.publish (some { number := number, task := task, retryCount := 0 })
    accepted := number :: system.accepted }

/-- The `select` of a call that goes to memory, and the `PublishWithContext` of one
that does not. A context that is done is a refused sending. -/
def send (number : Nat) (sending : Sending) : TaskSystem :=
  match system.calls number with
  | some (.pending process task true) =>
    if sending = .confirmed ∧
        ((system.queues process).buffers task.topic).length < task.topic.capacity then
      (system.setQueue process ((system.queues process).buffer number task)).setCall number
        (.returned process task true true)
    else system.setCall number (.returned process task true false)
  | some (.pending process task false) =>
    match sending with
    | .confirmed =>
      (system.accept number task).setCall number (.returned process task false true)
    | .refused => system.setCall number (.returned process task false false)
    | .unconfirmed =>
      (system.accept number task).setCall number (.returned process task false false)
  | _ => system

/-! ### Consuming -/

/-- `consumeExtractionInMemory` and `consumeSyncInMemory`. -/
def receive (process : Nat) (topic : Topic) : TaskSystem :=
  let queue := system.queues process
  if queue.consuming ∧ queue.startConsumers = .inMemory then
    match queue.buffers topic with
    | [] => system
    | (number, _) :: rest =>
      (system.setQueue process
        { queue with buffers := update queue.buffers topic rest }).record (.taken number)
  else system

/-- The delivery loops of `runSelfHealingExtractionConsumer` and
`runSelfHealingSyncConsumer`. -/
def deliver (process index : Nat) : TaskSystem :=
  let queue := system.queues process
  if queue.consuming ∧ queue.startConsumers = .amqp then
    system.setBroker (system.broker.deliver index { process := process, stage := .received })
  else system

/-- A delivery whose body does not decode is rejected without being requeued. -/
def discard (tag : Nat) (effective : Bool) : TaskSystem :=
  match system.broker.deliveries[tag]? with
  | some ⟨none, ⟨process, .received⟩, _⟩ =>
    let broker := if effective then system.broker.acknowledge tag else system.broker
    system.setBroker (broker.advance tag { process := process, stage := .finished })
  | _ => system

def handle (tag : Nat) : TaskSystem :=
  match system.broker.deliveries[tag]? with
  | some ⟨some message, ⟨process, .received⟩, _⟩ =>
    (system.setBroker (system.broker.advance tag
      { process := process, stage := .handling })).record (.started message.number)
  | _ => system

def finish (tag : Nat) (succeeded : Bool) : TaskSystem :=
  match system.broker.deliveries[tag]? with
  | some ⟨some message, ⟨process, .handling⟩, _⟩ =>
    if succeeded then
      (system.setBroker (system.broker.advance tag
        { process := process, stage := .settling })).record (.succeeded message.number)
    else
      (system.setBroker (system.broker.advance tag
        { process := process, stage := .failed })).record
          (.failed message.number message.retryCount)
  | _ => system

def Message.retried (message : Message) : Message :=
  { message with retryCount := message.retryCount + 1 }

/-- What follows an error of the handler, up to the acknowledgement. -/
def retry (tag : Nat) (retrying : Retrying) : TaskSystem :=
  match system.broker.deliveries[tag]? with
  | some ⟨some message, ⟨process, .failed⟩, _⟩ =>
    let settling := { process := process, stage := .settling }
    let rejecting := { process := process, stage := .rejecting }
    if message.retryCount < 2 then
      match retrying with
      | .marshalError => system.setBroker (system.broker.advance tag rejecting)
      | .sent sending =>
        if (system.queues process).amqpChannel ≠ .opened then
          system.setBroker (system.broker.advance tag rejecting)
        else
          match sending with
          | .confirmed => system.setBroker
              ((system.broker.publish (some (Message.retried message))).advance tag settling)
          | .refused => system.setBroker (system.broker.advance tag rejecting)
          | .unconfirmed => system.setBroker
              ((system.broker.publish (some (Message.retried message))).advance tag rejecting)
    else system.setBroker (system.broker.advance tag settling)
  | _ => system

def ack (tag : Nat) (effective : Bool) : TaskSystem :=
  match system.broker.deliveries[tag]? with
  | some ⟨_, ⟨process, .settling⟩, _⟩ =>
    let broker := if effective then system.broker.acknowledge tag else system.broker
    system.setBroker (broker.advance tag { process := process, stage := .finished })
  | _ => system

/-- `Nack(false, true)`. -/
def nack (tag : Nat) (effective : Bool) : TaskSystem :=
  match system.broker.deliveries[tag]? with
  | some ⟨some message, ⟨process, .rejecting⟩, _⟩ =>
    let broker := if effective then system.broker.requeue tag else system.broker
    (system.setBroker (broker.advance tag { process := process, stage := .finished })).record
      (.nacked message.number)
  | _ => system

def redeliver (tag : Nat) : TaskSystem :=
  match system.broker.deliveries[tag]? with
  | some ⟨body, _, true⟩ =>
    let requeued := system.setBroker (system.broker.requeue tag)
    match body with
    | some message => requeued.record (.redelivered message.number)
    | none => requeued
  | _ => system

/-! ### Runs -/

def changeQueue (process : Nat) (change : Queue → Queue) : TaskSystem :=
  system.setQueue process (change (system.queues process))

/-- Only the AMQP consumers reconnect. -/
def reconnect (process : Nat) (dialed : Bool) : TaskSystem :=
  let queue := system.queues process
  if queue.consuming ∧ queue.startConsumers = .amqp then
    system.setQueue process (queue.connectAMQP dialed)
  else system

def step : QueueEvent → TaskSystem
  | .publish process number task => system.publish process number task
  | .send number sending => system.send number sending
  | .connect process dialed => system.reconnect process dialed
  | .disconnect process => system.changeQueue process Queue.disconnect
  | .loseChannel process => system.changeQueue process Queue.loseChannel
  | .close process => system.changeQueue process Queue.close
  | .startConsumers process =>
    system.changeQueue process (fun queue => { queue with consuming := true })
  | .receive process topic => system.receive process topic
  | .intrude => system.setBroker (system.broker.publish none)
  | .deliver process index => system.deliver process index
  | .discard tag effective => system.discard tag effective
  | .handle tag => system.handle tag
  | .finish tag succeeded => system.finish tag succeeded
  | .retry tag retrying => system.retry tag retrying
  | .ack tag effective => system.ack tag effective
  | .nack tag effective => system.nack tag effective
  | .redeliver tag => system.redeliver tag

def run (events : List QueueEvent) : TaskSystem :=
  events.foldl step system

end TaskSystem

end ContestSync
