/-
At-least-once processing with a bounded number of retries. A task that the broker
has accepted is held by it until its handler has returned nil or has failed with
a full retry counter: before a delivery is acknowledged for a failure, a message
with a higher counter has been published, and that message is held by the same
argument. As long as no delivery of a task is returned to the queue, the runs of
its handler and those its messages can still cause add up to at most three.
-/

import ContestSync.TaskQueue

namespace ContestSync

open TaskSystem

namespace TaskSystem

/-! ### What an event can do -/

def Returned (system : TaskSystem) (number : Nat) : Prop :=
  ∃ process task inMemory succeeded,
    system.calls number = some (.returned process task inMemory succeeded)

/-- The events at the broker and at the goroutines of its deliveries. -/
def brokered : QueueEvent → Bool
  | .publish _ _ _ | .send _ _ | .connect _ _ | .disconnect _ | .loseChannel _ | .close _
  | .startConsumers _ | .receive _ _ => false
  | _ => true

/-- The steps of a goroutine that leave the broker's queue alone, and what they add
to the log. -/
inductive Advance (tag : Nat) (message : Message) :
    QueueEvent → Stage → Stage → List Occurrence → Prop where
  | start : Advance tag message (.handle tag) .received .handling [.started message.number]
  | succeed : Advance tag message (.finish tag true) .handling .settling [.succeeded message.number]
  | fail : Advance tag message (.finish tag false) .handling .failed
      [.failed message.number message.retryCount]
  | exhaust (retrying : Retrying) (spent : ¬message.retryCount < 2) :
      Advance tag message (.retry tag retrying) .failed .settling []
  | reject (retrying : Retrying) (fewer : message.retryCount < 2) :
      Advance tag message (.retry tag retrying) .failed .rejecting []
  | ackLost (event : QueueEvent) : Advance tag message event .settling .finished []
  | nackLost (event : QueueEvent) :
      Advance tag message event .rejecting .finished [.nacked message.number]

inductive Change (system : TaskSystem) : QueueEvent → TaskSystem → Prop where
  | same (event : QueueEvent) : Change system event system
  | aside {event : QueueEvent} {after : TaskSystem} (apart : brokered event = false)
      (broker : after.broker = system.broker) (accepted : after.accepted = system.accepted)
      (log : after.log = system.log ∨ ∃ number, after.log = .taken number :: system.log)
      (called : ∀ number, system.Returned number → after.Returned number) :
      Change system event after
  | accept {event : QueueEvent} {after : TaskSystem} (apart : brokered event = false)
      (number : Nat) (task : Task) (uncalled : ¬system.Returned number)
      (broker : after.broker = system.broker.publish (some ⟨number, task, 0⟩))
      (accepted : after.accepted = number :: system.accepted) (log : after.log = system.log)
      (called : ∀ other, system.Returned other → after.Returned other)
      (returned : after.Returned number) : Change system event after
  | intrude (event : QueueEvent) :
      Change system event (system.setBroker (system.broker.publish none))
  | deliver (event : QueueEvent) (process index : Nat) : Change system event
      (system.setBroker (system.broker.deliver index ⟨process, .received⟩))
  | advance {event : QueueEvent} {tag process : Nat} {message : Message} {stage : Stage}
      {unacked : Bool} (next : Stage) (occurrences : List Occurrence)
      (found : system.broker.deliveries[tag]? = some ⟨some message, ⟨process, stage⟩, unacked⟩)
      (allowed : Advance tag message event stage next occurrences) : Change system event
      { system.setBroker (system.broker.advance tag ⟨process, next⟩) with
        log := occurrences ++ system.log }
  | retry {tag process : Nat} {message : Message} {unacked : Bool} (retrying : Retrying)
      (next : Stage)
      (found : system.broker.deliveries[tag]? = some ⟨some message, ⟨process, .failed⟩, unacked⟩)
      (fewer : message.retryCount < 2) (ends : next = .settling ∨ next = .rejecting) :
      Change system (.retry tag retrying) (system.setBroker
        ((system.broker.publish (some (Message.retried message))).advance tag ⟨process, next⟩))
  | ack (event : QueueEvent) {tag process : Nat} {body : Option Message} {unacked : Bool}
      (found : system.broker.deliveries[tag]? = some ⟨body, ⟨process, .settling⟩, unacked⟩) :
      Change system event (system.setBroker
        ((system.broker.acknowledge tag).advance tag ⟨process, .finished⟩))
  | nack (event : QueueEvent) {tag process : Nat} {message : Message} {unacked : Bool}
      (found : system.broker.deliveries[tag]? =
        some ⟨some message, ⟨process, .rejecting⟩, unacked⟩) :
      Change system event ((system.setBroker
        ((system.broker.requeue tag).advance tag ⟨process, .finished⟩)).record
          (.nacked message.number))
  | redeliver (event : QueueEvent) {tag : Nat} {message : Message} {work : Work}
      (found : system.broker.deliveries[tag]? = some ⟨some message, work, true⟩) :
      Change system event ((system.setBroker (system.broker.requeue tag)).record
        (.redelivered message.number))
  | malformed (event : QueueEvent) {tag : Nat} {work : Work} {unacked : Bool}
      {broker : Broker.State (Option Message) Work}
      (found : system.broker.deliveries[tag]? = some ⟨none, work, unacked⟩)
      (changed : broker = system.broker.advance tag ⟨work.process, .finished⟩ ∨
        broker = (system.broker.acknowledge tag).advance tag ⟨work.process, .finished⟩ ∨
        broker = system.broker.requeue tag) :
      Change system event (system.setBroker broker)

variable {number : Nat}

section Changes

variable {system : TaskSystem}

theorem returned_setCall {other : Nat} {call : Call} (returned : system.Returned other)
    (open_ : ¬system.Returned number) : (system.setCall number call).Returned other := by
  obtain ⟨process, task, inMemory, succeeded, called⟩ := returned
  refine ⟨process, task, inMemory, succeeded, ?_⟩
  have different : other ≠ number := by
    rintro rfl
    exact open_ ⟨process, task, inMemory, succeeded, called⟩
  change Function.update system.calls number (some call) other = _
  rw [Function.update_of_ne different]
  exact called

theorem returned_setCall_self (number process : Nat) (task : Task) (inMemory succeeded : Bool) :
    (system.setCall number (.returned process task inMemory succeeded)).Returned number :=
  ⟨process, task, inMemory, succeeded, Function.update_self _ _ _⟩

theorem change_publish (process number : Nat) (task : Task) :
    Change system (.publish process number task) (system.publish process number task) := by
  unfold publish
  split
  · rename_i uncalled
    refine .aside rfl rfl rfl (Or.inl rfl) (fun other returned => returned_setCall returned ?_)
    rintro ⟨_, _, _, _, called⟩
    rw [uncalled] at called
    cases called
  · exact .same _

theorem change_send (number : Nat) (sending : Sending) :
    Change system (.send number sending) (system.send number sending) := by
  unfold send
  cases called : system.calls number with
  | none => exact .same _
  | some call =>
    cases call with
    | returned => exact .same _
    | pending process task inMemory =>
      have uncalled : ¬system.Returned number := by
        rintro ⟨_, _, _, _, again⟩
        rw [called] at again
        cases again
      have aside : ∀ (queues : Nat → Queue) (call : Call), Change system (.send number sending)
            ({ system with queues := queues }.setCall number call) :=
        fun queues call => .aside rfl rfl rfl (Or.inl rfl)
          (fun other returned => returned_setCall returned uncalled)
      have accepts : ∀ succeeded, Change system (.send number sending)
          ((system.accept number task).setCall number (.returned process task false succeeded)) :=
        fun succeeded => .accept rfl number task uncalled rfl rfl rfl
          (fun other returned => returned_setCall returned uncalled)
          (returned_setCall_self number process task false succeeded)
      cases inMemory with
      | true =>
        simp only
        split
        · exact aside _ _
        · exact aside system.queues _
      | false =>
        cases sending with
        | confirmed => exact accepts true
        | refused => exact aside system.queues _
        | unconfirmed => exact accepts false

theorem change_setQueue {event : QueueEvent} (apart : brokered event = false) (process : Nat)
    (queue : Queue) : Change system event (system.setQueue process queue) :=
  .aside apart rfl rfl (Or.inl rfl) (fun _ returned => returned)

theorem change_receive (process : Nat) (topic : Topic) :
    Change system (.receive process topic) (system.receive process topic) := by
  unfold receive
  simp only
  split
  · split
    · exact .same _
    · exact .aside rfl rfl rfl (Or.inr ⟨_, rfl⟩) (fun _ returned => returned)
  · exact .same _

theorem change_discard (tag : Nat) (effective : Bool) :
    Change system (.discard tag effective) (system.discard tag effective) := by
  unfold discard
  split
  · rename_i process unacked found
    cases effective with
    | true => exact .malformed _ found (Or.inr (Or.inl rfl))
    | false => exact .malformed _ found (Or.inl rfl)
  · exact .same _

theorem change_handle (tag : Nat) : Change system (.handle tag) (system.handle tag) := by
  unfold handle
  split
  · rename_i message process unacked found
    exact .advance .handling _ found .start
  · exact .same _

theorem change_finish (tag : Nat) (succeeded : Bool) :
    Change system (.finish tag succeeded) (system.finish tag succeeded) := by
  unfold finish
  split
  · rename_i message process unacked found
    cases succeeded with
    | true => exact .advance .settling _ found .succeed
    | false => exact .advance .failed _ found .fail
  · exact .same _

theorem change_retry (tag : Nat) (retrying : Retrying) :
    Change system (.retry tag retrying) (system.retry tag retrying) := by
  unfold retry
  split
  · rename_i message process unacked found
    have rejects : message.retryCount < 2 → Change system (.retry tag retrying)
        (system.setBroker (system.broker.advance tag ⟨process, .rejecting⟩)) :=
      fun fewer => .advance .rejecting [] found (.reject retrying fewer)
    simp only
    split
    · rename_i fewer
      cases retrying with
      | marshalError => exact rejects fewer
      | sent sending =>
        simp only
        split
        · exact rejects fewer
        · cases sending with
          | confirmed => exact .retry _ .settling found fewer (Or.inl rfl)
          | refused => exact rejects fewer
          | unconfirmed => exact .retry _ .rejecting found fewer (Or.inr rfl)
    · rename_i spent
      exact .advance .settling [] found (.exhaust retrying spent)
  · exact .same _

theorem change_ack (tag : Nat) (effective : Bool) :
    Change system (.ack tag effective) (system.ack tag effective) := by
  unfold ack
  split
  · rename_i body process unacked found
    cases effective with
    | true => exact .ack _ found
    | false =>
      cases body with
      | none => exact .malformed _ found (Or.inl rfl)
      | some message => exact .advance .finished [] found (.ackLost _)
  · exact .same _

theorem change_nack (tag : Nat) (effective : Bool) :
    Change system (.nack tag effective) (system.nack tag effective) := by
  unfold nack
  split
  · rename_i message process unacked found
    cases effective with
    | true => exact .nack _ found
    | false => exact .advance .finished _ found (.nackLost _)
  · exact .same _

theorem change_redeliver (tag : Nat) : Change system (.redeliver tag) (system.redeliver tag) := by
  unfold redeliver
  split
  · rename_i body work found
    cases body with
    | none => exact .malformed _ found (Or.inr (Or.inr rfl))
    | some message => exact .redeliver _ found
  · exact .same _

theorem change_step (event : QueueEvent) : Change system event (system.step event) := by
  cases event with
  | publish process number task => exact change_publish process number task
  | send number sending => exact change_send number sending
  | connect process dialed =>
    change Change system _ (system.reconnect process dialed)
    unfold reconnect
    simp only
    split
    · exact change_setQueue rfl process _
    · exact .same _
  | disconnect process => exact change_setQueue rfl process _
  | loseChannel process => exact change_setQueue rfl process _
  | close process => exact change_setQueue rfl process _
  | startConsumers process => exact change_setQueue rfl process _
  | receive process topic => exact change_receive process topic
  | intrude => exact .intrude _
  | deliver process index =>
    change Change system _ (system.deliver process index)
    unfold deliver
    simp only
    split
    · exact .deliver _ process index
    · exact .same _
  | discard tag effective => exact change_discard tag effective
  | handle tag => exact change_handle tag
  | finish tag succeeded => exact change_finish tag succeeded
  | retry tag retrying => exact change_retry tag retrying
  | ack tag effective => exact change_ack tag effective
  | nack tag effective => exact change_nack tag effective
  | redeliver tag => exact change_redeliver tag

end Changes

/-! ### Nothing accepted is dropped -/

/-- A message of the task that has been retried at least so often. -/
def Copy (number : Nat) (least : Int) (body : Option Message) : Prop :=
  ∃ message, body = some message ∧ message.number = number ∧ least ≤ message.retryCount

/-- The broker still holds such a message, or the task is done with. -/
def Covered (system : TaskSystem) (number : Nat) (least : Int) : Prop :=
  system.broker.Holds (Copy number least) ∨ .succeeded number ∈ system.log ∨
    .failed number 2 ∈ system.log

def InBudget (body : Option Message) : Prop :=
  ∀ message, body = some message → 0 ≤ message.retryCount ∧ message.retryCount ≤ 2

/-- The state of a goroutine is accounted for: a failure is on record, and what is
about to be acknowledged has a successor with a higher counter. The counters
order the successors, so that two deliveries cannot be acknowledged on the
strength of each other. -/
def Justified (system : TaskSystem) (message : Message) : Stage → Prop
  | .failed => .failed message.number message.retryCount ∈ system.log
  | .settling => system.Covered message.number (message.retryCount + 1)
  | _ => True

def Justifies (system : TaskSystem) (body : Option Message) (work : Work) : Prop :=
  ∀ message, body = some message → system.Justified message work.stage

structure Conserves (system : TaskSystem) : Prop where
  budget : system.broker.Every InBudget
  covered : ∀ number ∈ system.accepted, system.Covered number 0
  working : system.broker.Working system.Justifies

variable {message : Message} {stage next : Stage} {tag process : Nat} {work : Work} {unacked : Bool}
  {event : QueueEvent}

section Conservation

variable {system after : TaskSystem} {least : Int} {body : Option Message}

theorem Covered.grow (covered : system.Covered number least)
    (holds : ∀ kind, system.broker.Holds kind → after.broker.Holds kind)
    (log : ∀ occurrence ∈ system.log, occurrence ∈ after.log) : after.Covered number least := by
  rcases covered with held | succeeded | failed
  · exact Or.inl (holds _ held)
  · exact Or.inr (Or.inl (log _ succeeded))
  · exact Or.inr (Or.inr (log _ failed))

theorem Justified.transfer (justified : system.Justified message stage)
    (covers : ∀ number least, system.Covered number least → after.Covered number least)
    (log : ∀ occurrence ∈ system.log, occurrence ∈ after.log) :
    after.Justified message stage := by
  cases stage with
  | failed => exact log _ justified
  | settling => exact covers _ _ justified
  | received => trivial
  | handling => trivial
  | rejecting => trivial
  | finished => trivial

section Conserving

variable (conserves : system.Conserves)
include conserves

theorem Conserves.grow (holds : ∀ kind, system.broker.Holds kind → after.broker.Holds kind)
    (log : ∀ occurrence ∈ system.log, occurrence ∈ after.log)
    (accepted : after.accepted = system.accepted) (budget : after.broker.Every InBudget)
    (working : after.broker.Working
      (fun body work => system.Justifies body work ∨ after.Justifies body work)) :
    after.Conserves := by
  have covers : ∀ number least, system.Covered number least → after.Covered number least :=
    fun _ _ covered => covered.grow holds log
  refine ⟨budget, ?_, ?_⟩
  · rw [accepted]
    exact fun number member => covers number 0 (conserves.covered number member)
  · refine working.mono ?_
    rintro body work (before | now)
    · exact fun message same => (before message same).transfer covers log
    · exact now

theorem Conserves.workingOr :
    system.broker.Working
      (fun body work => system.Justifies body work ∨ after.Justifies body work) :=
  conserves.working.mono (fun _ _ known => Or.inl known)

theorem Conserves.inBudget
    (found : system.broker.deliveries[tag]? = some ⟨some message, work, unacked⟩) :
    0 ≤ message.retryCount ∧ message.retryCount ≤ 2 :=
  conserves.budget.2 _ (List.mem_of_getElem? found) message rfl

theorem Conserves.advance {occurrences : List Occurrence}
    (found : system.broker.deliveries[tag]? = some ⟨some message, ⟨process, stage⟩, unacked⟩)
    (allowed : Advance tag message event stage next occurrences) :
    Conserves { system.setBroker (system.broker.advance tag ⟨process, next⟩) with
      log := occurrences ++ system.log } := by
  have bounds := conserves.inBudget found
  have justified := conserves.working _ (List.mem_of_getElem? found) message rfl
  refine conserves.grow (fun kind held => held.advance tag _)
    (fun _ member => List.mem_append_right _ member) rfl (conserves.budget.advance tag _) ?_
  refine conserves.workingOr.advance found (Or.inr ?_)
  rintro other ⟨⟩
  cases allowed with
  | succeed => exact Or.inr (Or.inl (List.mem_append_left _ List.mem_cons_self))
  | exhaust _ spent =>
    -- The counter is full, so the failure that led here was the last one.
    have last : message.retryCount = 2 := by omega
    change .failed message.number message.retryCount ∈ system.log at justified
    rw [last] at justified
    exact Or.inr (Or.inr justified)
  | fail => exact List.mem_append_left _ List.mem_cons_self
  | start => trivial
  | reject => trivial
  | ackLost => trivial
  | nackLost => trivial

theorem Conserves.retry
    (found : system.broker.deliveries[tag]? = some ⟨some message, ⟨process, .failed⟩, unacked⟩)
    (fewer : message.retryCount < 2) (ends : next = .settling ∨ next = .rejecting) :
    Conserves (system.setBroker
      ((system.broker.publish (some (Message.retried message))).advance tag ⟨process, next⟩)) := by
  have bounds := conserves.inBudget found
  have fits : InBudget (some (Message.retried message)) := by
    rintro _ ⟨⟩
    change 0 ≤ message.retryCount + 1 ∧ message.retryCount + 1 ≤ 2
    omega
  have successor : Copy message.number (message.retryCount + 1)
      (some (Message.retried message)) := ⟨_, rfl, rfl, Int.le_refl _⟩
  refine conserves.grow (fun kind held => (held.publish _).advance tag _)
    (fun _ member => member) rfl ((conserves.budget.publish fits).advance tag _) ?_
  have unchanged : (system.broker.publish (some (Message.retried message))).Working
      (fun body work => system.Justifies body work ∨ Justifies (system.setBroker
        ((system.broker.publish (some (Message.retried message))).advance tag ⟨process, next⟩))
        body work) := conserves.workingOr
  refine unchanged.advance found (Or.inr ?_)
  rintro other ⟨⟩
  rcases ends with rfl | rfl
  · exact Or.inl ((Broker.State.holds_publish successor).advance tag _)
  · trivial

end Conserving

theorem Covered.acknowledge (covered : system.Covered number least) (conserves : system.Conserves)
    (found : system.broker.deliveries[tag]? = some ⟨body, ⟨process, .settling⟩, unacked⟩) :
    Covered (system.setBroker ((system.broker.acknowledge tag).advance tag work)) number least := by
  rcases covered with held | finished
  · by_cases own : Copy number least body
    · obtain ⟨message, rfl, rfl, atLeast⟩ := own
      have successor : system.Covered message.number (message.retryCount + 1) :=
        conserves.working _ (List.mem_of_getElem? found) message rfl
      rcases successor with later | finished
      · have kept : (system.broker.acknowledge tag).Holds
            (Copy message.number (message.retryCount + 1)) := by
          refine later.acknowledge found ?_
          rintro ⟨same, ⟨⟩, _, higher⟩
          omega
        refine Or.inl ((kept.mono ?_).advance tag work)
        rintro other ⟨copy, rfl, sameNumber, higher⟩
        exact ⟨copy, rfl, sameNumber, by omega⟩
      · exact Or.inr finished
    · exact Or.inl ((held.acknowledge found own).advance tag work)
  · exact Or.inr finished

variable (conserves : system.Conserves)
include conserves

theorem Conserves.ack
    (found : system.broker.deliveries[tag]? = some ⟨body, ⟨process, .settling⟩, unacked⟩) :
    Conserves (system.setBroker
      ((system.broker.acknowledge tag).advance tag ⟨process, .finished⟩)) := by
  refine ⟨(conserves.budget.acknowledge tag).advance tag _, ?_, ?_⟩
  · exact fun number member => (conserves.covered number member).acknowledge conserves found
  · refine ((conserves.working.acknowledge tag).advance (Broker.State.acknowledge_found found)
      (fun _ _ => ?_)).mono ?_
    · trivial
    · exact fun _ _ justified message same => (justified message same).transfer
        (fun _ _ covered => covered.acknowledge conserves found) (fun _ member => member)

theorem Conserves.requeue (tag : Nat) :
    Conserves (system.setBroker (system.broker.requeue tag)) :=
  conserves.grow (fun _ held => held.requeue tag) (fun _ member => member) rfl
    (conserves.budget.requeue tag) (conserves.workingOr.requeue tag)

theorem Conserves.record (occurrence : Occurrence) :
    (system.record occurrence).Conserves :=
  conserves.grow (fun _ held => held) (fun _ member => List.mem_cons_of_mem _ member) rfl
    conserves.budget conserves.workingOr

theorem Conserves.finished
    {delivery : Broker.Delivery (Option Message) Work}
    (found : system.broker.deliveries[tag]? = some delivery) :
    Conserves (system.setBroker (system.broker.advance tag ⟨process, .finished⟩)) :=
  conserves.grow (fun _ held => held.advance tag _) (fun _ member => member) rfl
    (conserves.budget.advance tag _)
    (conserves.workingOr.advance found (Or.inr (fun _ _ => trivial)))

theorem Conserves.discard (found : system.broker.deliveries[tag]? = some ⟨none, work, unacked⟩) :
    Conserves (system.setBroker (system.broker.acknowledge tag)) := by
  have kept : ∀ number least, system.Covered number least →
      Covered (system.setBroker (system.broker.acknowledge tag)) number least := by
    intro number least covered
    rcases covered with held | finished
    · refine Or.inl (held.acknowledge found ?_)
      rintro ⟨message, impossible, _⟩
      cases impossible
    · exact Or.inr finished
  refine ⟨conserves.budget.acknowledge tag, ?_, (conserves.working.acknowledge tag).mono ?_⟩
  · exact fun number member => kept number 0 (conserves.covered number member)
  · exact fun _ _ justified message same => (justified message same).transfer kept
      (fun _ member => member)

theorem Conserves.change (change : Change system event after) :
    after.Conserves := by
  cases change with
  | same => exact conserves
  | aside _ broker accepted log _ =>
    have grows : ∀ occurrence ∈ system.log, occurrence ∈ after.log := by
      intro occurrence member
      rcases log with same | ⟨number, same⟩
      · rw [same]
        exact member
      · rw [same]
        exact List.mem_cons_of_mem _ member
    refine conserves.grow ?_ grows accepted ?_ ?_
    · rw [broker]
      exact fun _ held => held
    · rw [broker]
      exact conserves.budget
    · rw [broker]
      exact conserves.workingOr
  | accept _ number task _ broker accepted log _ _ =>
    have first : Copy number 0 (some ⟨number, task, 0⟩) := ⟨_, rfl, rfl, Int.le_refl _⟩
    have fits : InBudget (some ⟨number, task, 0⟩) := by
      rintro _ ⟨⟩
      change (0 : Int) ≤ 0 ∧ (0 : Int) ≤ 2
      omega
    have holds : ∀ kind, system.broker.Holds kind → after.broker.Holds kind := by
      rw [broker]
      exact fun _ held => held.publish _
    have grows : ∀ occurrence ∈ system.log, occurrence ∈ after.log := by
      rw [log]
      exact fun _ member => member
    refine ⟨?_, ?_, ?_⟩
    · rw [broker]
      exact conserves.budget.publish fits
    · rw [accepted]
      intro other member
      rcases List.mem_cons.mp member with rfl | old
      · refine Or.inl ?_
        rw [broker]
        exact Broker.State.holds_publish first
      · exact (conserves.covered other old).grow holds grows
    · have kept : after.broker.Working system.Justifies := by
        rw [broker]
        exact conserves.working
      exact kept.mono (fun _ _ justified message same => (justified message same).transfer
        (fun _ _ covered => covered.grow holds grows) grows)
  | intrude =>
    refine conserves.grow (fun _ held => held.publish _) (fun _ member => member) rfl
      (conserves.budget.publish ?_) conserves.workingOr
    rintro _ ⟨⟩
  | deliver _ process index =>
    exact conserves.grow (fun _ held => held.deliver index _) (fun _ member => member) rfl
      (conserves.budget.deliver index _)
      (conserves.workingOr.deliver index (fun _ _ => Or.inr (fun _ _ => trivial)))
  | advance next occurrences found allowed => exact conserves.advance found allowed
  | retry _ next found fewer ends => exact conserves.retry found fewer ends
  | ack _ found => exact conserves.ack found
  | nack _ found =>
    obtain ⟨_, requeued, _, _⟩ := Broker.State.requeue_found found
    exact ((conserves.requeue _).finished requeued).record _
  | redeliver => exact (conserves.requeue _).record _
  | malformed _ found changed =>
    rcases changed with rfl | rfl | rfl
    · exact conserves.finished found
    · exact (conserves.discard found).finished (Broker.State.acknowledge_found found)
    · exact conserves.requeue _

end Conservation

/-! ### The runs of a handler -/

/-- The runs of the handler that a waiting message can still cause. -/
def waiting (number : Nat) : Option Message → Nat
  | some message => if message.number = number then (3 - message.retryCount).toNat else 0
  | none => 0

/-- The run that has begun is counted in the log. -/
def working (number : Nat) (body : Option Message) (work : Work) : Nat :=
  match work.stage with
  | .received => waiting number body
  | .handling => waiting number body - 1
  | .failed => waiting number body - 1
  | _ => 0

def load (system : TaskSystem) (number : Nat) : Nat :=
  system.log.count (.started number) + system.broker.weight (waiting number) (working number)

def Undisturbed (system : TaskSystem) (number : Nat) : Prop :=
  .nacked number ∉ system.log ∧ .redelivered number ∉ system.log

structure Spends (system : TaskSystem) : Prop where
  called : system.broker.Every (fun body => ∀ message, body = some message →
    system.Returned message.number)
  uncalled : ∀ number, ¬system.Returned number → system.load number = 0
  bounded : ∀ number, system.Undisturbed number → system.load number ≤ 3

section Runs

variable {system after : TaskSystem}

theorem Spends.shrink (spends : system.Spends)
    (log : ∀ occurrence ∈ system.log, occurrence ∈ after.log)
    (returned : ∀ number, system.Returned number → after.Returned number)
    (called : after.broker.Every (fun body => ∀ message, body = some message →
      system.Returned message.number))
    (light : ∀ number, (system.Returned number → after.Undisturbed number) →
      after.load number ≤ system.load number) : after.Spends := by
  refine ⟨⟨?_, ?_⟩, ?_, ?_⟩
  · exact fun body member message same =>
      returned _ (called.1 body member message same)
  · exact fun delivery member message same =>
      returned _ (called.2 delivery member message same)
  · intro number uncalled
    have before : ¬system.Returned number := fun earlier => uncalled (returned number earlier)
    have lighter := light number (fun earlier => absurd earlier before)
    have nothing := spends.uncalled number before
    omega
  · intro number undisturbed
    have lighter := light number (fun _ => undisturbed)
    have bounded := spends.bounded number
      ⟨fun member => undisturbed.1 (log _ member), fun member => undisturbed.2 (log _ member)⟩
    omega

theorem Spends.setBroker (spends : system.Spends) {broker : Broker.State (Option Message) Work}
    (called : broker.Every (fun body => ∀ message, body = some message →
      system.Returned message.number))
    (light : ∀ number, broker.weight (waiting number) (working number) ≤
      system.broker.weight (waiting number) (working number)) :
    Spends (system.setBroker broker) :=
  spends.shrink (fun _ member => member) (fun _ returned => returned) called
    (fun number _ => Nat.add_le_add_left (light number) _)

theorem Spends.returned (spends : system.Spends)
    (found : system.broker.deliveries[tag]? = some ⟨some message, work, unacked⟩) :
    system.Returned message.number :=
  spends.called.2 _ (List.mem_of_getElem? found) message rfl

theorem waiting_other (other : message.number ≠ number) :
    waiting number (some message) = 0 :=
  if_neg other

theorem waiting_own :
    waiting message.number (some message) = (3 - message.retryCount).toNat :=
  if_pos rfl

theorem load_advance {occurrences : List Occurrence} (number : Nat)
    (found : system.broker.deliveries[tag]? = some ⟨some message, ⟨process, stage⟩, unacked⟩)
    (inBudget : message.retryCount ≤ 2)
    (allowed : Advance tag message event stage next occurrences) :
    load { system.setBroker (system.broker.advance tag ⟨process, next⟩) with
      log := occurrences ++ system.log } number ≤ system.load number := by
  have moved := Broker.State.weight_advance (waiting number) (working number) found ⟨process, next⟩
  unfold load
  change (occurrences ++ system.log).count (.started number) +
    (system.broker.advance tag ⟨process, next⟩).weight (waiting number) (working number) ≤ _
  rw [List.count_append]
  by_cases own : message.number = number
  · subst own
    have heavy : 1 ≤ waiting message.number (some message) := by
      rw [waiting_own]
      omega
    cases allowed <;> simp [working] at moved ⊢ <;> omega
  · have nothing := waiting_other own
    cases allowed <;> simp [working, nothing, own] at moved ⊢ <;> omega

theorem Spends.retry (spends : system.Spends)
    (found : system.broker.deliveries[tag]? = some ⟨some message, ⟨process, .failed⟩, unacked⟩)
    (fewer : message.retryCount < 2) (ends : next = .settling ∨ next = .rejecting) :
    Spends (system.setBroker
      ((system.broker.publish (some (Message.retried message))).advance tag ⟨process, next⟩)) := by
  have successor : ∀ copy, some (Message.retried message) = some copy →
      system.Returned copy.number := by
    rintro _ ⟨⟩
    change system.Returned message.number
    exact spends.returned found
  refine spends.setBroker ((spends.called.publish successor).advance tag _) ?_
  intro number
  have published : (system.broker.publish (some (Message.retried message))).weight
      (waiting number) (working number) = _ :=
    Broker.State.weight_publish (waiting number) (working number) _
  have stillFound : (system.broker.publish (some (Message.retried message))).deliveries[tag]? =
      some ⟨some message, ⟨process, .failed⟩, unacked⟩ := found
  have moved := Broker.State.weight_advance (waiting number) (working number) stillFound
    ⟨process, next⟩
  have idle : working number (some message) ⟨process, next⟩ = 0 := by
    rcases ends with rfl | rfl
    · rfl
    · rfl
  have replaced : waiting number (some (Message.retried message)) ≤
      working number (some message) ⟨process, .failed⟩ := by
    change waiting number (some (Message.retried message)) ≤ waiting number (some message) - 1
    by_cases own : message.number = number
    · subst own
      rw [waiting_own]
      change waiting (Message.retried message).number (some (Message.retried message)) ≤ _
      rw [waiting_own]
      change (3 - (message.retryCount + 1)).toNat ≤ _
      omega
    · have other : (Message.retried message).number ≠ number := own
      rw [waiting_other other]
      omega
  simp only at moved
  omega

/-- A message that goes back to the queue counts again, but its task has been
disturbed; the other tasks do not notice. -/
theorem load_requeue (found : system.broker.deliveries[tag]? = some ⟨some message, work, unacked⟩)
    (other : message.number ≠ number) :
    (system.broker.requeue tag).weight (waiting number) (working number) =
      system.broker.weight (waiting number) (working number) :=
  Broker.State.weight_requeue (waiting number) (working number) found (waiting_other other)

variable (spends : system.Spends)
include spends

theorem Spends.nack (found : system.broker.deliveries[tag]? =
      some ⟨some message, ⟨process, .rejecting⟩, unacked⟩) :
    Spends ((system.setBroker ((system.broker.requeue tag).advance tag ⟨process, .finished⟩)).record
        (.nacked message.number)) := by
  refine spends.shrink (fun _ member => List.mem_cons_of_mem _ member)
    (fun _ returned => returned) ((spends.called.requeue tag).advance tag _) ?_
  intro number undisturbed
  by_cases own : message.number = number
  · subst own
    exact absurd List.mem_cons_self (undisturbed (spends.returned found)).1
  · obtain ⟨⟨body, stage, acked⟩, requeued, sameMessage, sameStage⟩ :=
      Broker.State.requeue_found found
    have moved := Broker.State.weight_advance (waiting number) (working number) requeued
      ⟨process, .finished⟩
    have same := load_requeue found own
    have idle : working number body ⟨process, .finished⟩ = 0 := rfl
    unfold load
    simp only at moved
    change (Occurrence.nacked message.number :: system.log).count (.started number) +
      ((system.broker.requeue tag).advance tag ⟨process, .finished⟩).weight (waiting number)
        (working number) ≤ _
    rw [List.count_cons_of_ne (by simp)]
    omega

theorem Spends.redeliver
    (found : system.broker.deliveries[tag]? = some ⟨some message, work, true⟩) :
    Spends ((system.setBroker (system.broker.requeue tag)).record
      (.redelivered message.number)) := by
  refine spends.shrink (fun _ member => List.mem_cons_of_mem _ member)
    (fun _ returned => returned) (spends.called.requeue tag) ?_
  intro number undisturbed
  by_cases own : message.number = number
  · subst own
    exact absurd List.mem_cons_self (undisturbed (spends.returned found)).2
  · have same := load_requeue found own
    unfold load
    change (Occurrence.redelivered message.number :: system.log).count (.started number) +
      (system.broker.requeue tag).weight (waiting number) (working number) ≤ _
    rw [List.count_cons_of_ne (by simp)]
    omega

theorem Spends.finished {delivery : Broker.Delivery (Option Message) Work}
    (found : system.broker.deliveries[tag]? = some delivery) :
    Spends (system.setBroker (system.broker.advance tag ⟨process, .finished⟩)) := by
  refine spends.setBroker (spends.called.advance tag _) ?_
  intro number
  have moved := Broker.State.weight_advance (waiting number) (working number) found
    ⟨process, .finished⟩
  have idle : working number delivery.message ⟨process, .finished⟩ = 0 := rfl
  omega

theorem Spends.acknowledge (tag : Nat) :
    Spends (system.setBroker (system.broker.acknowledge tag)) := by
  refine spends.setBroker (spends.called.acknowledge tag) ?_
  exact fun number => Nat.le_of_eq
    (Broker.State.weight_acknowledge (waiting number) (working number) tag)

theorem Spends.accept {task : Task} (uncalled : ¬system.Returned number)
    (broker : after.broker = system.broker.publish (some ⟨number, task, 0⟩))
    (log : after.log = system.log) (called : ∀ other, system.Returned other → after.Returned other)
    (returned : after.Returned number) : after.Spends := by
  have loads : ∀ other, after.load other =
      system.load other + waiting other (some ⟨number, task, 0⟩) := by
    intro other
    unfold load
    rw [broker, log, Broker.State.weight_publish]
    omega
  have others : ∀ other, number ≠ other → after.load other = system.load other := by
    intro other different
    have named : (⟨number, task, 0⟩ : Message).number ≠ other := different
    rw [loads, waiting_other named, Nat.add_zero]
  refine ⟨?_, ?_, ?_⟩
  · rw [broker]
    refine Broker.State.Every.publish ⟨?_, ?_⟩ ?_
    · exact fun body member message same => called _ (spends.called.1 body member message same)
    · exact fun delivery member message same =>
        called _ (spends.called.2 delivery member message same)
    · rintro _ ⟨⟩
      exact returned
  · intro other open_
    have different : number ≠ other := by
      rintro rfl
      exact open_ returned
    rw [others other different]
    exact spends.uncalled other (fun earlier => open_ (called other earlier))
  · intro other undisturbed
    by_cases same : number = other
    · subst same
      have first : waiting number (some ⟨number, task, 0⟩) = 3 := if_pos rfl
      simp only [loads, spends.uncalled number uncalled, first, Nat.zero_add, Nat.le_refl]
    · rw [others other same]
      unfold Undisturbed at undisturbed
      rw [log] at undisturbed
      exact spends.bounded other undisturbed

theorem Spends.change (conserves : system.Conserves)
    (change : Change system event after) : after.Spends := by
  cases change with
  | same => exact spends
  | aside _ broker _ log called =>
    refine spends.shrink ?_ called ?_ ?_
    · intro occurrence member
      rcases log with same | ⟨number, same⟩
      · rw [same]
        exact member
      · rw [same]
        exact List.mem_cons_of_mem _ member
    · rw [broker]
      exact spends.called
    · intro number _
      unfold load
      rw [broker]
      rcases log with same | ⟨taken, same⟩
      · exact Nat.le_of_eq (by rw [same])
      · exact Nat.le_of_eq (by rw [same, List.count_cons_of_ne (by simp)])
  | accept _ number task uncalled broker _ log called returned =>
    exact spends.accept uncalled broker log called returned
  | intrude =>
    refine spends.setBroker (spends.called.publish nofun) ?_
    intro number
    rw [Broker.State.weight_publish]
    exact Nat.le_refl _
  | deliver _ process index =>
    refine spends.setBroker (spends.called.deliver index _) ?_
    intro number
    cases found : system.broker.queued[index]? with
    | none => simp only [Broker.State.deliver, found, Nat.le_refl]
    | some body =>
      have moved : (system.broker.deliver index ⟨process, .received⟩).weight (waiting number)
          (working number) + waiting number body = _ + waiting number body :=
        Broker.State.weight_deliver (waiting number) (working number) found
      omega
  | advance next occurrences found allowed =>
    refine spends.shrink (fun _ member => List.mem_append_right _ member)
      (fun _ returned => returned) (spends.called.advance _ _) ?_
    exact fun number _ => load_advance number found (conserves.inBudget found).2 allowed
  | retry _ next found fewer ends => exact spends.retry found fewer ends
  | ack _ found =>
    exact (spends.acknowledge _).finished (Broker.State.acknowledge_found found)
  | nack _ found => exact spends.nack found
  | redeliver _ found => exact spends.redeliver found
  | @malformed _ tag work unacked broker found changed =>
    rcases changed with rfl | rfl | rfl
    · exact spends.finished found
    · exact (spends.acknowledge tag).finished (Broker.State.acknowledge_found found)
    · refine spends.setBroker (spends.called.requeue tag) ?_
      exact fun number => Nat.le_of_eq
        (Broker.State.weight_requeue (waiting number) (working number) found rfl)

end Runs

/-! ### Every run -/

theorem new_conserves (amqpURL : Nat → String) (dialed : Nat → Bool) :
    (new amqpURL dialed).Conserves :=
  { budget := ⟨nofun, nofun⟩
    covered := nofun
    working := nofun }

theorem new_spends (amqpURL : Nat → String) (dialed : Nat → Bool) :
    (new amqpURL dialed).Spends :=
  { called := ⟨nofun, nofun⟩
    uncalled := fun _ _ => rfl
    bounded := fun _ _ => Nat.zero_le _ }

theorem run_accounts {system : TaskSystem} (events : List QueueEvent)
    (conserves : system.Conserves) (spends : system.Spends) :
    (system.run events).Conserves ∧ (system.run events).Spends := by
  induction events generalizing system with
  | nil => exact ⟨conserves, spends⟩
  | cons event rest ih =>
    have change : Change system event (system.step event) := change_step event
    exact ih (conserves.change change) (spends.change conserves change)

end TaskSystem

/-- In every run: an accepted task is held by the broker until its handler has
returned nil or has failed with a full counter, no counter leaves its range, and
the handler of a task that was never returned to the queue runs at most three
times. -/
theorem tasks_processed (amqpURL : Nat → String) (dialed : Nat → Bool) (events : List QueueEvent) :
    (∀ number ∈ ((new amqpURL dialed).run events).accepted,
        ((new amqpURL dialed).run events).broker.Holds
            (fun body => ∃ message, body = some message ∧ message.number = number) ∨
          .succeeded number ∈ ((new amqpURL dialed).run events).log ∨
          .failed number 2 ∈ ((new amqpURL dialed).run events).log) ∧
      (∀ message, some message ∈ ((new amqpURL dialed).run events).broker.queued →
        0 ≤ message.retryCount ∧ message.retryCount ≤ 2) ∧
      (∀ number, .nacked number ∉ ((new amqpURL dialed).run events).log →
        .redelivered number ∉ ((new amqpURL dialed).run events).log →
        ((new amqpURL dialed).run events).log.count (.started number) ≤ 3) := by
  obtain ⟨conserves, spends⟩ := run_accounts events
    (new_conserves amqpURL dialed) (new_spends amqpURL dialed)
  refine ⟨?_, ?_, ?_⟩
  · intro number accepted
    rcases conserves.covered number accepted with held | finished
    · refine Or.inl (held.mono ?_)
      rintro body ⟨message, same, named, _⟩
      exact ⟨message, same, named⟩
    · exact Or.inr finished
  · exact fun message member => conserves.budget.1 _ member message rfl
  · intro number unnacked undelivered
    have bounded := spends.bounded number ⟨unnacked, undelivered⟩
    unfold load at bounded
    omega

/-- The handler fails three times, and the task is given up. -/
example :
    let attempt : Nat → List QueueEvent := fun tag =>
      [.deliver 0 0, .handle tag, .finish tag false, .retry tag (.sent .confirmed), .ack tag true]
    let system := (new (fun _ => "amqp://broker") (fun _ => true)).run
      ([.startConsumers 0, .publish 0 0 (.sync 1), .send 0 .confirmed] ++
        attempt 0 ++ attempt 1 ++ attempt 2)
    system.log.count (.started 0) = 3 ∧ system.broker.queued = [] ∧ .failed 0 2 ∈ system.log := by
  decide

end ContestSync
