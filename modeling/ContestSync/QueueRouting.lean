/-
Where published tasks wait. `Publish*` chooses between memory and the broker by
the state of the connection at that moment, `StartConsumers` by whether AMQP is
configured at all. The choices agree as long as a process that has AMQP
configured is connected whenever it publishes.
-/

import ContestSync.Delivery

namespace ContestSync

open Function

namespace TaskSystem

/-! ### Started before finished -/

/-- The handler of a delivery that is being handled has been started. -/
def Begun (log : List Occurrence) (body : Option Message) (work : Work) : Prop :=
  work.stage = .handling → ∀ message, body = some message → .started message.number ∈ log

/-- What the log says of a handler was preceded by its start. -/
structure Traces (system : TaskSystem) : Prop where
  succeeded : ∀ number, .succeeded number ∈ system.log → .started number ∈ system.log
  failed : ∀ number retryCount, .failed number retryCount ∈ system.log →
    .started number ∈ system.log
  handling : system.broker.Working (Begun system.log)

variable {system after : TaskSystem} {event : QueueEvent}

section Traces

theorem Traces.extend (traces : system.Traces) (occurrences : List Occurrence)
    (log : after.log = occurrences ++ system.log)
    (succeeded : ∀ number, .succeeded number ∈ occurrences → .started number ∈ after.log)
    (failed : ∀ number retryCount, .failed number retryCount ∈ occurrences →
      .started number ∈ after.log)
    (handling : after.broker.Working
      (fun body work => Begun system.log body work ∨ Begun after.log body work)) :
    after.Traces := by
  have grows : ∀ occurrence ∈ system.log, occurrence ∈ after.log := by
    intro occurrence member
    rw [log]
    exact List.mem_append_right _ member
  refine ⟨?_, ?_, handling.mono ?_⟩
  · intro number member
    rw [log] at member
    rcases List.mem_append.mp member with new | old
    · exact succeeded number new
    · exact grows _ (traces.succeeded number old)
  · intro number retryCount member
    rw [log] at member
    rcases List.mem_append.mp member with new | old
    · exact failed number retryCount new
    · exact grows _ (traces.failed number retryCount old)
  · rintro body work (before | now)
    · exact fun stage message same => grows _ (before stage message same)
    · exact now

theorem Traces.handlingOr (traces : system.Traces) (log : List Occurrence) :
    system.broker.Working (fun body work => Begun system.log body work ∨ Begun log body work) :=
  traces.handling.mono (fun _ _ known => Or.inl known)

theorem Traces.quiet (traces : system.Traces) (occurrences : List Occurrence)
    (log : after.log = occurrences ++ system.log)
    (silent : ∀ occurrence ∈ occurrences, (∀ number, occurrence ≠ .succeeded number) ∧
      ∀ number retryCount, occurrence ≠ .failed number retryCount)
    (handling : after.broker.Working
      (fun body work => Begun system.log body work ∨ Begun after.log body work)) :
    after.Traces :=
  traces.extend occurrences log (fun number member => absurd rfl ((silent _ member).1 number))
    (fun number retryCount member => absurd rfl ((silent _ member).2 number retryCount)) handling

theorem Traces.advance (traces : system.Traces) {tag process : Nat} {message : Message}
    {stage next : Stage} {unacked : Bool} {occurrences : List Occurrence}
    (found : system.broker.deliveries[tag]? = some ⟨some message, ⟨process, stage⟩, unacked⟩)
    (allowed : Advance tag message event stage next occurrences) :
    Traces { system.setBroker (system.broker.advance tag ⟨process, next⟩) with
      log := occurrences ++ system.log } := by
  have begun : Begun system.log (some message) ⟨process, stage⟩ :=
    traces.handling _ (List.mem_of_getElem? found)
  have moved : ∀ log, Begun log (some message) ⟨process, next⟩ →
      (system.broker.advance tag ⟨process, next⟩).Working
        (fun body work => Begun system.log body work ∨ Begun log body work) :=
    fun log reached => (traces.handlingOr log).advance found (Or.inr reached)
  cases allowed with
  | start =>
    refine traces.quiet _ rfl (by simp) (moved _ ?_)
    rintro _ _ ⟨⟩
    exact List.mem_append_left _ (List.mem_singleton.mpr rfl)
  | succeed =>
    refine traces.extend _ rfl ?_ (by simp) (moved _ nofun)
    intro number member
    cases List.mem_singleton.mp member
    exact List.mem_append_right _ (begun rfl message rfl)
  | fail =>
    refine traces.extend _ rfl (by simp) ?_ (moved _ nofun)
    intro number retryCount member
    cases List.mem_singleton.mp member
    exact List.mem_append_right _ (begun rfl message rfl)
  | exhaust => exact traces.quiet _ rfl (by simp) (moved _ nofun)
  | reject => exact traces.quiet _ rfl (by simp) (moved _ nofun)
  | ackLost => exact traces.quiet _ rfl (by simp) (moved _ nofun)
  | nackLost => exact traces.quiet _ rfl (by simp) (moved _ nofun)

theorem Traces.change (traces : system.Traces) (change : Change system event after) :
    after.Traces := by
  have finished : ∀ log body process, Begun log body ⟨process, .finished⟩ :=
    nofun
  cases change with
  | same => exact traces
  | aside _ broker _ log _ =>
    have working : after.broker.Working
        (fun body work => Begun system.log body work ∨ Begun after.log body work) := by
      rw [broker]
      exact traces.handlingOr _
    rcases log with same | ⟨number, same⟩
    · exact traces.quiet [] same (by simp) working
    · exact traces.quiet [.taken number] same (by simp) working
  | accept _ number task _ broker _ log _ _ =>
    refine traces.quiet [] log (by simp) ?_
    rw [broker]
    exact traces.handlingOr _
  | intrude => exact traces.quiet [] rfl (by simp) (traces.handlingOr _)
  | deliver _ process index =>
    exact traces.quiet [] rfl (by simp) ((traces.handlingOr _).deliver index
      (fun _ _ => Or.inr nofun))
  | advance next occurrences found allowed => exact traces.advance found allowed
  | @retry tag process message unacked _ next found fewer ends =>
    have unchanged : (system.broker.publish (some (Message.retried message))).Working
        (fun body work => Begun system.log body work ∨ Begun system.log body work) :=
      traces.handlingOr system.log
    refine traces.quiet [] rfl (by simp) (unchanged.advance found (Or.inr ?_))
    rcases ends with rfl | rfl
    · exact nofun
    · exact nofun
  | ack _ found =>
    exact traces.quiet [] rfl (by simp) (((traces.handlingOr _).acknowledge _).advance
      (Broker.State.acknowledge_found found) (Or.inr (finished _ _ _)))
  | nack _ found =>
    obtain ⟨_, requeued, _, _⟩ := Broker.State.requeue_found found
    exact traces.quiet [_] rfl (by simp) (((traces.handlingOr _).requeue _).advance requeued
      (Or.inr (finished _ _ _)))
  | redeliver =>
    exact traces.quiet [_] rfl (by simp) ((traces.handlingOr _).requeue _)
  | malformed _ found changed =>
    refine traces.quiet [] rfl (by simp) ?_
    rcases changed with rfl | rfl | rfl
    · exact (traces.handlingOr _).advance found (Or.inr (finished _ _ _))
    · exact ((traces.handlingOr _).acknowledge _).advance
        (Broker.State.acknowledge_found found) (Or.inr (finished _ _ _))
    · exact (traces.handlingOr _).requeue _

end Traces

/-! ### Where a task waits -/

/-- Memory and the broker are chosen like the consumers. -/
structure Routes (system : TaskSystem) : Prop where
  unconfigured : ∀ process, (system.queues process).startConsumers = .inMemory →
    (system.queues process).useInMemory = true
  pending : ∀ number process task inMemory,
    system.calls number = some (.pending process task inMemory) →
    (system.queues process).startConsumers = if inMemory then .inMemory else .amqp
  buffered : ∀ number process task, system.calls number = some (.returned process task true true) →
    (system.queues process).startConsumers = .inMemory ∧
      ((number, task) ∈ (system.queues process).buffers task.topic ∨ .taken number ∈ system.log)
  sent : ∀ number process task, system.calls number = some (.returned process task false true) →
    (system.queues process).startConsumers = .amqp ∧ number ∈ system.accepted

/-- A process with AMQP configured is connected when it publishes. -/
def Connected (system : TaskSystem) : QueueEvent → Prop
  | .publish process _ _ => (system.queues process).startConsumers = .amqp →
      (system.queues process).inMemory = false
  | _ => True

/-- The condition holds for each event where it happens. -/
def Along (permits : TaskSystem → QueueEvent → Prop) : TaskSystem → List QueueEvent → Prop
  | _, [] => True
  | system, event :: rest => permits system event ∧ Along permits (system.step event) rest

section Routes

variable (routes : system.Routes)
include routes

theorem Routes.quiet (queues : after.queues = system.queues)
    (calls : after.calls = system.calls) (accepted : after.accepted = system.accepted)
    (log : ∀ occurrence ∈ system.log, occurrence ∈ after.log) : after.Routes := by
  refine ⟨?_, ?_, ?_, ?_⟩
  · rw [queues]
    exact routes.unconfigured
  · rw [queues, calls]
    exact routes.pending
  · rw [queues, calls]
    intro number process task called
    obtain ⟨consumers, waits⟩ := routes.buffered number process task called
    exact ⟨consumers, waits.imp_right (log _)⟩
  · rw [queues, calls, accepted]
    exact routes.sent

theorem Routes.setBroker
    (broker : Broker.State (Option Message) Work) : (system.setBroker broker).Routes :=
  routes.quiet rfl rfl rfl (fun _ member => member)

theorem Routes.record (occurrence : Occurrence) :
    (system.record occurrence).Routes :=
  routes.quiet rfl rfl rfl (fun _ member => List.mem_cons_of_mem _ member)

theorem Routes.setQueue {process : Nat} {queue : Queue}
    (configured : queue.amqpConfigured = (system.queues process).amqpConfigured)
    (unconfigured : queue.startConsumers = .inMemory → queue.useInMemory = true)
    (buffers : ∀ number task, (number, task) ∈ (system.queues process).buffers task.topic →
        (number, task) ∈ queue.buffers task.topic ∨ .taken number ∈ system.log) :
    (system.setQueue process queue).Routes := by
  have consumers : ∀ other, ((system.setQueue process queue).queues other).startConsumers =
      (system.queues other).startConsumers := by
    intro other
    change (update system.queues process queue other).startConsumers = _
    by_cases same : other = process
    · subst same
      rw [update_self]
      unfold Queue.startConsumers
      rw [configured]
    · rw [update_of_ne same]
  refine ⟨?_, ?_, ?_, ?_⟩
  · intro other inMemory
    change (update system.queues process queue other).useInMemory = true
    by_cases same : other = process
    · subst same
      rw [update_self]
      refine unconfigured ?_
      change (update system.queues other queue other).startConsumers = _ at inMemory
      rwa [update_self] at inMemory
    · rw [update_of_ne same]
      exact routes.unconfigured other ((consumers other).symm.trans inMemory)
  · intro number other task inMemory called
    exact (consumers other).trans (routes.pending number other task inMemory called)
  · intro number other task called
    obtain ⟨chosen, waits⟩ := routes.buffered number other task called
    refine ⟨(consumers other).trans chosen, ?_⟩
    change (number, task) ∈ (update system.queues process queue other).buffers task.topic ∨ _
    by_cases same : other = process
    · subst same
      rw [update_self]
      rcases waits with present | taken
      · exact buffers number task present
      · exact Or.inr taken
    · rw [update_of_ne same]
      exact waits
  · intro number other task called
    obtain ⟨chosen, member⟩ := routes.sent number other task called
    exact ⟨(consumers other).trans chosen, member⟩

theorem Routes.changeQueue (process : Nat) (change : Queue → Queue)
    (configured : (change (system.queues process)).amqpConfigured =
      (system.queues process).amqpConfigured)
    (useInMemory : (change (system.queues process)).useInMemory =
      (system.queues process).useInMemory)
    (buffers : (change (system.queues process)).buffers = (system.queues process).buffers) :
    (system.changeQueue process change).Routes := by
  refine routes.setQueue configured ?_ ?_
  · intro inMemory
    rw [useInMemory]
    apply routes.unconfigured
    unfold Queue.startConsumers at inMemory ⊢
    rwa [configured] at inMemory
  · intro number task present
    rw [buffers]
    exact Or.inl present

theorem Routes.setCall {number : Nat} {call : Call}
    (pending : ∀ process task inMemory, call = .pending process task inMemory →
      (system.queues process).startConsumers = if inMemory then .inMemory else .amqp)
    (buffered : ∀ process task, call = .returned process task true true →
      (system.queues process).startConsumers = .inMemory ∧
        ((number, task) ∈ (system.queues process).buffers task.topic ∨ .taken number ∈ system.log))
    (sent : ∀ process task, call = .returned process task false true →
      (system.queues process).startConsumers = .amqp ∧ number ∈ system.accepted) :
    (system.setCall number call).Routes := by
  have calls : ∀ other result, (system.setCall number call).calls other = some result →
      (other = number ∧ call = result) ∨ system.calls other = some result := by
    intro other result called
    change update system.calls number (some call) other = some result at called
    by_cases same : other = number
    · subst same
      rw [update_self] at called
      exact Or.inl ⟨rfl, Option.some.inj called⟩
    · rw [update_of_ne same] at called
      exact Or.inr called
  refine ⟨routes.unconfigured, ?_, ?_, ?_⟩
  · intro other process task inMemory called
    rcases calls other _ called with ⟨_, same⟩ | old
    · exact pending process task inMemory same
    · exact routes.pending other process task inMemory old
  · intro other process task called
    rcases calls other _ called with ⟨rfl, same⟩ | old
    · exact buffered process task same
    · exact routes.buffered other process task old
  · intro other process task called
    rcases calls other _ called with ⟨rfl, same⟩ | old
    · exact sent process task same
    · exact routes.sent other process task old

theorem Routes.publish (process number : Nat) (task : Task)
    (connected : (system.queues process).startConsumers = .amqp →
      (system.queues process).inMemory = false) :
    (system.publish process number task).Routes := by
  unfold TaskSystem.publish
  split
  · refine routes.setCall ?_ nofun nofun
    rintro _ _ _ ⟨⟩
    cases consumers : (system.queues process).startConsumers with
    | inMemory =>
      have inMemory : (system.queues process).inMemory = true := by
        unfold Queue.inMemory
        rw [routes.unconfigured process consumers]
        rfl
      rw [inMemory]
      rfl
    | amqp =>
      rw [connected consumers]
      rfl
  · exact routes

theorem Routes.send (number : Nat) (sending : Sending) :
    (system.send number sending).Routes := by
  unfold TaskSystem.send
  cases called : system.calls number with
  | none => exact routes
  | some call =>
    cases call with
    | returned => exact routes
    | pending process task inMemory =>
      have chosen := routes.pending number process task inMemory called
      have refused : ∀ inMemory, (system.setCall number
          (.returned process task inMemory false)).Routes := by
        intro inMemory
        refine routes.setCall ?_ ?_ ?_
        · rintro _ _ _ ⟨⟩
        · rintro _ _ ⟨⟩
        · rintro _ _ ⟨⟩
      cases inMemory with
      | true =>
        simp only
        split
        · have own : (number, task) ∈ ((system.queues process).buffer number
              task).buffers task.topic :=
            Queue.mem_buffer.mpr (Or.inr ⟨rfl, rfl⟩)
          have kept : (system.setQueue process
              ((system.queues process).buffer number task)).Routes :=
            routes.setQueue rfl (fun _ => routes.unconfigured process chosen)
              (fun _ _ present => Or.inl (Queue.mem_buffer.mpr (Or.inl present)))
          refine kept.setCall ?_ ?_ ?_
          · rintro _ _ _ ⟨⟩
          · rintro _ _ ⟨⟩
            change (update system.queues process _ process).startConsumers = _ ∧
              ((number, task) ∈ (update system.queues process _ process).buffers task.topic ∨ _)
            rw [update_self]
            exact ⟨chosen, Or.inl own⟩
          · rintro _ _ ⟨⟩
        · exact refused true
      | false =>
        have accepts : (system.accept number task).Routes := by
          refine ⟨routes.unconfigured, routes.pending, routes.buffered, ?_⟩
          intro other owner waiting returned
          obtain ⟨consumers, member⟩ := routes.sent other owner waiting returned
          exact ⟨consumers, List.mem_cons_of_mem _ member⟩
        cases sending with
        | confirmed =>
          refine accepts.setCall ?_ ?_ ?_
          · rintro _ _ _ ⟨⟩
          · rintro _ _ ⟨⟩
          · rintro _ _ ⟨⟩
            exact ⟨chosen, List.mem_cons_self⟩
        | refused => exact refused false
        | unconfirmed =>
          refine accepts.setCall ?_ ?_ ?_
          · rintro _ _ _ ⟨⟩
          · rintro _ _ ⟨⟩
          · rintro _ _ ⟨⟩

theorem Routes.receive (process : Nat) (topic : Topic) :
    (system.receive process topic).Routes := by
  unfold TaskSystem.receive
  simp only
  split
  · rename_i started
    cases waiting : (system.queues process).buffers topic with
    | nil => exact routes
    | cons entry rest =>
      obtain ⟨number, taken⟩ := entry
      have recorded := routes.record (.taken number)
      refine recorded.setQueue rfl (fun consumers => recorded.unconfigured process consumers) ?_
      intro other task present
      change (other, task) ∈ update (system.queues process).buffers topic rest task.topic ∨ _
      change (other, task) ∈ (system.queues process).buffers task.topic at present
      by_cases same : task.topic = topic
      · subst same
        rw [update_self]
        rw [waiting] at present
        rcases List.mem_cons.mp present with first | later
        · cases first
          exact Or.inr List.mem_cons_self
        · exact Or.inl later
      · rw [update_of_ne same]
        exact Or.inl present
  · exact routes

theorem Routes.reconnect (process : Nat) (dialed : Bool) :
    (system.reconnect process dialed).Routes := by
  unfold TaskSystem.reconnect
  simp only
  split
  · rename_i started
    have kept : ((system.queues process).connectAMQP dialed).amqpConfigured =
          (system.queues process).amqpConfigured ∧
        ((system.queues process).connectAMQP dialed).buffers = (system.queues process).buffers := by
      unfold Queue.connectAMQP
      split
      · exact ⟨rfl, rfl⟩
      · split
        · exact ⟨rfl, rfl⟩
        · split
          · exact ⟨rfl, rfl⟩
          · exact ⟨rfl, rfl⟩
    refine routes.setQueue kept.1 ?_ ?_
    · intro inMemory
      unfold Queue.startConsumers at inMemory
      rw [kept.1] at inMemory
      have amqp := started.2
      unfold Queue.startConsumers at amqp
      rw [inMemory] at amqp
      cases amqp
    · intro number task present
      rw [kept.2]
      exact Or.inl present
  · exact routes

theorem Routes.change (change : Change system event after)
    (atBroker : brokered event = true) : after.Routes := by
  cases change with
  | same => exact routes
  | aside apart => cases apart.symm.trans atBroker
  | accept apart => cases apart.symm.trans atBroker
  | advance =>
    exact routes.quiet rfl rfl rfl (fun _ member => List.mem_append_right _ member)
  | nack => exact (routes.setBroker _).record _
  | redeliver => exact (routes.setBroker _).record _
  | _ => exact routes.setBroker _

theorem Routes.step (connected : system.Connected event) :
    (system.step event).Routes := by
  cases event with
  | publish process number task => exact routes.publish process number task connected
  | send number sending => exact routes.send number sending
  | connect process dialed => exact routes.reconnect process dialed
  | disconnect process => exact routes.changeQueue process Queue.disconnect rfl rfl rfl
  | loseChannel process => exact routes.changeQueue process Queue.loseChannel rfl rfl rfl
  | close process => exact routes.changeQueue process Queue.close rfl rfl rfl
  | startConsumers process =>
    exact routes.changeQueue process (fun queue => { queue with consuming := true }) rfl rfl rfl
  | receive process topic => exact routes.receive process topic
  | _ => exact routes.change (change_step _) rfl

end Routes

theorem new_routes (amqpURL : Nat → String) (dialed : Nat → Bool) :
    (new amqpURL dialed).Routes := by
  refine ⟨?_, nofun, nofun, nofun⟩
  intro process consumers
  change (Queue.new (amqpURL process) (dialed process)).startConsumers = _ at consumers
  change (Queue.new (amqpURL process) (dialed process)).useInMemory = true
  unfold Queue.new at consumers ⊢
  split at consumers
  · rename_i missing
    rw [if_pos missing]
  · cases consumers

theorem new_traces (amqpURL : Nat → String) (dialed : Nat → Bool) :
    (new amqpURL dialed).Traces :=
  { succeeded := nofun
    failed := nofun
    handling := nofun }

theorem run_traces (events : List QueueEvent) (traces : system.Traces) :
    (system.run events).Traces := by
  induction events generalizing system with
  | nil => exact traces
  | cons event rest ih => exact ih (traces.change (change_step event))

theorem run_routes {events : List QueueEvent}
    (along : Along Connected system events) (routes : system.Routes) :
    (system.run events).Routes := by
  induction events generalizing system with
  | nil => exact routes
  | cons event rest ih => exact ih along.2 (routes.step along.1)

/-- A consumer of the process that published the task will read it: the task is
held by the broker, or it is in the channel that is received from. -/
def Awaits (system : TaskSystem) (process number : Nat) (task : Task) : Prop :=
  match (system.queues process).startConsumers with
  | .amqp => system.broker.Holds
      (fun body => ∃ message, body = some message ∧ message.number = number)
  | .inMemory => (number, task) ∈ (system.queues process).buffers task.topic

end TaskSystem

/-- A task that was published and not yet handed to its handler is where the
consumers read. -/
theorem published_tasks_await {amqpURL : Nat → String} {dialed : Nat → Bool}
    {events : List QueueEvent}
    (along : TaskSystem.Along TaskSystem.Connected (.new amqpURL dialed) events)
    {process number : Nat} {task : Task} {inMemory : Bool}
    (published : ((TaskSystem.new amqpURL dialed).run events).calls number =
      some (.returned process task inMemory true))
    (untaken : .taken number ∉ ((TaskSystem.new amqpURL dialed).run events).log)
    (unstarted : .started number ∉ ((TaskSystem.new amqpURL dialed).run events).log) :
    ((TaskSystem.new amqpURL dialed).run events).Awaits process number task := by
  have routes := TaskSystem.run_routes along (TaskSystem.new_routes amqpURL dialed)
  have traces := TaskSystem.run_traces events (TaskSystem.new_traces amqpURL dialed)
  obtain ⟨conserves, _⟩ := TaskSystem.run_accounts events
    (TaskSystem.new_conserves amqpURL dialed) (TaskSystem.new_spends amqpURL dialed)
  unfold TaskSystem.Awaits
  cases inMemory with
  | true =>
    obtain ⟨consumers, waits⟩ := routes.buffered number process task published
    rw [consumers]
    exact waits.resolve_right untaken
  | false =>
    obtain ⟨consumers, accepted⟩ := routes.sent number process task published
    rw [consumers]
    rcases conserves.covered number accepted with held | succeeded | failed
    · refine held.mono ?_
      rintro body ⟨message, same, named, _⟩
      exact ⟨message, same, named⟩
    · exact absurd (traces.succeeded number succeeded) unstarted
    · exact absurd (traces.failed number 2 failed) unstarted

/-- A process that is connected publishes, loses its connection, and the task is
still at the broker. -/
theorem published_task_awaits_after_disconnect :
    ((TaskSystem.new (fun _ => "amqp://broker") (fun _ => true)).run
      [.startConsumers 0, .publish 0 0 (.sync 1), .send 0 .confirmed,
        .disconnect 0]).Awaits 0 0 (.sync 1) := by
  have along : TaskSystem.Along TaskSystem.Connected
      (.new (fun _ => "amqp://broker") (fun _ => true))
      [.startConsumers 0, .publish 0 0 (.sync 1), .send 0 .confirmed, .disconnect 0] :=
    ⟨trivial, fun _ => rfl, trivial, trivial, trivial⟩
  exact published_tasks_await along rfl (by decide) (by decide)

/-- The first dial fails, the task goes to memory, and only the AMQP consumers are
started: they reconnect, but nobody receives from the channel. -/
theorem published_task_unread :
    let system := (TaskSystem.new (fun _ => "amqp://broker") (fun _ => false)).run
      [.publish 0 0 (.sync 1), .send 0 .confirmed, .startConsumers 0, .connect 0 true]
    system.calls 0 = some (.returned 0 (.sync 1) true true) ∧
      .taken 0 ∉ system.log ∧ .started 0 ∉ system.log ∧
      (system.queues 0).startConsumers = .amqp ∧ ¬system.Awaits 0 0 (.sync 1) ∧
      (0, .sync 1) ∈ (system.queues 0).buffers .sync := by
  refine ⟨rfl, by decide, by decide, rfl, ?_, by decide⟩
  rintro (⟨body, member, _⟩ | ⟨delivery, member, _⟩)
  · cases member
  · cases member

end ContestSync
