/-
The goroutine that sends the queued messages, and how it ends. It sees a cancellation
in the delay after its start, while it waits for a message, and in the pause after a
message that could not be sent. Only from the second of these does it go on to send what
is still queued.
-/

import ContestSync.GuardedRuns
import ContestSync.MessageSplitting
import Mathlib.Data.List.Nodup
import Mathlib.Data.List.Perm.Subperm

namespace ContestSync.Telegram

/-- Messages with the same text are told apart by their tickets. -/
structure Message where
  ticket : Nat
  text : Bytes
deriving DecidableEq

inductive Exit where
  | starting
  | backingOff
  | flushed
deriving DecidableEq

inductive Phase where
  | starting
  | waiting
  | sending
  | backingOff
  | flushing
  | flushSending
  | returned (exit : Exit)
deriving DecidableEq

/-- `handed` are the messages that `client.Send` was called with; nobody reads them. -/
structure Manager where
  phase : Phase
  queue : List Message
  cancelled : Bool
  tickets : Nat
  handed : List Message
deriving DecidableEq

def Manager.initial : Manager :=
  { phase := .starting
    queue := []
    cancelled := false
    tickets := 0
    handed := [] }

/-- `offer` is a message of a handler or an event; `elapse`, `observe` and `receive` are the
cases of a `select` that a timer, the context and the queue make ready. -/
inductive Action where
  | offer (text : Bytes)
  | cancel
  | elapse
  | observe
  | receive
  | sent (failed : Bool)
deriving DecidableEq

variable (manager : Manager)

/-- A full queue takes no message. -/
def offer (text : Bytes) : Manager :=
  if manager.queue.length < 1000 then
    { manager with
      queue := manager.queue ++ [⟨manager.tickets, text⟩]
      tickets := manager.tickets + 1 }
  else manager

def cancel : Manager :=
  { manager with cancelled := true }

/-- The first message of the queue is handed to `client.Send`. -/
def take (phase : Phase) (message : Message) (rest : List Message) :
    Manager :=
  { manager with
    phase := phase
    queue := rest
    handed := manager.handed ++ [message] }

/-- `none` when the goroutine is not at such a case, or the case is not ready. -/
def step : Action → Option Manager
  | .offer text => some (offer manager text)
  | .cancel => some (cancel manager)
  | .elapse =>
    match manager.phase with
    | .starting => some { manager with phase := .waiting }
    | .backingOff => some { manager with phase := .waiting }
    | _ => none
  | .observe =>
    if manager.cancelled then
      match manager.phase with
      | .starting => some { manager with phase := .returned .starting }
      | .waiting => some { manager with phase := .flushing }
      | .backingOff => some { manager with phase := .returned .backingOff }
      | _ => none
    else none
  | .receive =>
    match manager.phase, manager.queue with
    | .waiting, message :: rest => some (take manager .sending message rest)
    | .flushing, message :: rest => some (take manager .flushSending message rest)
    -- The `default` case of the last loop.
    | .flushing, [] => some { manager with phase := .returned .flushed }
    | _, _ => none
  | .sent failed =>
    match manager.phase with
    | .sending =>
      some { manager with phase := if failed then .backingOff else .waiting }
    | .flushSending => some { manager with phase := .flushing }
    | _ => none

def run (actions : List Action) : Option Manager :=
  actions.foldlM step manager

/-! ### Every message is accounted for -/

def Phase.ending : Phase → Bool
  | .flushing => true
  | .flushSending => true
  | .returned _ => true
  | _ => false

/-- The messages that the queue has taken. -/
def Manager.accepted : List Message :=
  manager.handed ++ manager.queue

structure Accounted (manager : Manager) : Prop where
  distinct : manager.accepted.Nodup
  issued : ∀ message ∈ manager.accepted, message.ticket < manager.tickets
  ended : manager.phase.ending = true → manager.cancelled = true

section Accounted

variable {manager} {after : Manager} {message : Message} {rest : List Message} {phase : Phase}
  {action : Action}

theorem accepted_take (queued : manager.queue = message :: rest) :
    (take manager phase message rest).accepted = manager.accepted := by
  rw [Manager.accepted, Manager.accepted, queued]
  exact List.append_assoc _ [message] rest

theorem accepted_offer (manager : Manager) (text : Bytes) :
    (offer manager text).accepted = manager.accepted ∧
        (offer manager text).tickets = manager.tickets ∨
      (offer manager text).accepted = manager.accepted ++ [⟨manager.tickets, text⟩] ∧
        (offer manager text).tickets = manager.tickets + 1 := by
  unfold offer
  split
  · exact .inr ⟨(List.append_assoc _ _ _).symm, rfl⟩
  · exact .inl ⟨rfl, rfl⟩

theorem offer_unmoved (manager : Manager) (text : Bytes) :
    (offer manager text).phase = manager.phase ∧ (offer manager text).handed = manager.handed ∧
      (offer manager text).cancelled = manager.cancelled := by
  unfold offer
  split
  all_goals exact ⟨rfl, rfl, rfl⟩

/-- What the goroutine itself can do. -/
inductive Turn (manager : Manager) : Action → Manager → Prop where
  | started (phase : manager.phase = .starting) :
      Turn manager .elapse { manager with phase := .waiting }
  | resumed (phase : manager.phase = .backingOff) :
      Turn manager .elapse { manager with phase := .waiting }
  | abandoned (phase : manager.phase = .starting) (cancelled : manager.cancelled = true) :
      Turn manager .observe { manager with phase := .returned .starting }
  | flushes (phase : manager.phase = .waiting) (cancelled : manager.cancelled = true) :
      Turn manager .observe { manager with phase := .flushing }
  | gaveUp (phase : manager.phase = .backingOff) (cancelled : manager.cancelled = true) :
      Turn manager .observe { manager with phase := .returned .backingOff }
  | received {message : Message} {rest : List Message} (phase : manager.phase = .waiting)
      (queued : manager.queue = message :: rest) :
      Turn manager .receive (take manager .sending message rest)
  | flushed {message : Message} {rest : List Message} (phase : manager.phase = .flushing)
      (queued : manager.queue = message :: rest) :
      Turn manager .receive (take manager .flushSending message rest)
  | emptied (phase : manager.phase = .flushing) (queued : manager.queue = []) :
      Turn manager .receive { manager with phase := .returned .flushed }
  | sent (failed : Bool) (phase : manager.phase = .sending) :
      Turn manager (.sent failed)
        { manager with phase := if failed then .backingOff else .waiting }
  | flushSent (failed : Bool) (phase : manager.phase = .flushSending) :
      Turn manager (.sent failed) { manager with phase := .flushing }

theorem step_cases (made : step manager action = some after) :
    (∃ text, action = .offer text ∧ after = offer manager text) ∨
      action = .cancel ∧ after = cancel manager ∨ Turn manager action after := by
  cases action with
  | offer text =>
    cases made
    exact .inl ⟨text, rfl, rfl⟩
  | cancel =>
    cases made
    exact .inr (.inl ⟨rfl, rfl⟩)
  | elapse =>
    simp only [step] at made
    split at made
    all_goals cases made
    · exact .inr (.inr (.started ‹_›))
    · exact .inr (.inr (.resumed ‹_›))
  | observe =>
    simp only [step] at made
    split at made
    · split at made
      all_goals cases made
      · exact .inr (.inr (.abandoned ‹_› ‹_›))
      · exact .inr (.inr (.flushes ‹_› ‹_›))
      · exact .inr (.inr (.gaveUp ‹_› ‹_›))
    · cases made
  | receive =>
    simp only [step] at made
    split at made
    all_goals cases made
    · exact .inr (.inr (.received ‹_› ‹_›))
    · exact .inr (.inr (.flushed ‹_› ‹_›))
    · exact .inr (.inr (.emptied ‹_› ‹_›))
  | sent failed =>
    simp only [step] at made
    split at made
    all_goals cases made
    · exact .inr (.inr (.sent failed ‹_›))
    · exact .inr (.inr (.flushSent failed ‹_›))

theorem Turn.accepted (turn : Turn manager action after) :
    after.accepted = manager.accepted ∧ after.tickets = manager.tickets ∧
      after.cancelled = manager.cancelled := by
  cases turn with
  | received _ queued | flushed _ queued => exact ⟨accepted_take queued, rfl, rfl⟩
  | _ => exact ⟨rfl, rfl, rfl⟩

theorem Turn.ended (turn : Turn manager action after)
    (ended : manager.phase.ending = true → manager.cancelled = true)
    (ending : after.phase.ending = true) : after.cancelled = true := by
  cases turn with
  | abandoned _ cancelled | flushes _ cancelled | gaveUp _ cancelled => exact cancelled
  | flushed phase | emptied phase | flushSent _ phase => exact ended (by rw [phase]; rfl)
  | started | resumed | received => cases ending
  | sent failed => cases failed <;> cases ending

theorem accepted_step (made : step manager action = some after) :
    manager.accepted <+: after.accepted := by
  rcases step_cases made with ⟨text, -, rfl⟩ | ⟨-, rfl⟩ | turn
  · rcases accepted_offer manager text with ⟨same, -⟩ | ⟨longer, -⟩
    · rw [same]
    · exact ⟨_, longer.symm⟩
  · exact List.prefix_rfl
  · rw [turn.accepted.1]

theorem handed_step (made : step manager action = some after) :
    manager.handed <+: after.handed := by
  rcases step_cases made with ⟨text, -, rfl⟩ | ⟨-, rfl⟩ | turn
  · rw [(offer_unmoved manager text).2.1]
  · exact List.prefix_rfl
  · cases turn with
    | received | flushed => exact ⟨_, rfl⟩
    | _ => exact List.prefix_rfl

theorem accounted_initial : Accounted .initial := by
  constructor <;> simp [Manager.initial, Manager.accepted, Phase.ending]

theorem Accounted.offer (accounted : Accounted manager) (text : Bytes) :
    Accounted (offer manager text) := by
  obtain ⟨phase, -, cancelled⟩ := offer_unmoved manager text
  have ended := accounted.ended
  rw [← phase, ← cancelled] at ended
  rcases accepted_offer manager text with ⟨accepted, tickets⟩ | ⟨accepted, tickets⟩
  · refine ⟨?_, ?_, ended⟩
    · rw [accepted]
      exact accounted.distinct
    · rw [accepted, tickets]
      exact accounted.issued
  · refine ⟨?_, ?_, ended⟩
    · rw [accepted, List.nodup_append]
      refine ⟨accounted.distinct, List.nodup_singleton _, ?_⟩
      rintro message member last single rfl
      rw [List.mem_singleton.mp single] at member
      exact Nat.lt_irrefl _ (accounted.issued _ member)
    · rw [accepted, tickets]
      intro message member
      rcases List.mem_append.mp member with before | single
      · exact Nat.lt_succ_of_lt (accounted.issued message before)
      · rw [List.mem_singleton.mp single]
        exact Nat.lt_succ_self _

theorem Accounted.step (accounted : Accounted manager) (made : step manager action = some after) :
    Accounted after := by
  rcases step_cases made with ⟨text, -, rfl⟩ | ⟨-, rfl⟩ | turn
  · exact accounted.offer text
  · exact ⟨accounted.distinct, accounted.issued, fun _ => rfl⟩
  · obtain ⟨accepted, tickets, -⟩ := turn.accepted
    refine ⟨?_, ?_, turn.ended accounted.ended⟩
    · rw [accepted]
      exact accounted.distinct
    · rw [accepted, tickets]
      exact accounted.issued

theorem Accounted.run (accounted : Accounted manager) {actions : List Action}
    (ran : run manager actions = some after) : Accounted after :=
  GuardedRuns.keeps Accounted (fun made before => before.step made) ran accounted

end Accounted

/-! ### After `Drain` -/

/-- Where an action takes the goroutine that has not seen the cancellation. -/
def Phase.after : Phase → Action → Phase
  | .starting, .elapse => .waiting
  | .backingOff, .elapse => .waiting
  | .waiting, .receive => .sending
  | .sending, .sent failed => if failed then .backingOff else .waiting
  | phase, _ => phase

def seenIn (phase : Phase) : List Action → Phase
  | [] => phase
  | .observe :: _ => phase
  | action :: rest => seenIn (phase.after action) rest

/-- The number of messages that it takes from the queue before it sees the cancellation. -/
def received : List Action → Nat
  | [] => 0
  | .observe :: _ => 0
  | .receive :: rest => received rest + 1
  | _ :: rest => received rest

section Drained

variable {manager next after : Manager} {action : Action} {actions rest : List Action}
  {exit : Exit}

theorem run_returned (ran : run manager actions = some after)
    (returned : manager.phase = .returned exit) :
    after.phase = .returned exit ∧ after.handed = manager.handed ∧
      manager.accepted <+: after.accepted := by
  refine GuardedRuns.keeps
    (fun state => state.phase = .returned exit ∧ state.handed = manager.handed ∧
      manager.accepted <+: state.accepted) ?_ ran ⟨returned, rfl, List.prefix_rfl⟩
  rintro state next action made ⟨phase, handed, accepted⟩
  have longer := accepted.trans (accepted_step made)
  rcases step_cases made with ⟨text, -, rfl⟩ | ⟨-, rfl⟩ | turn
  · obtain ⟨samePhase, sameHanded, -⟩ := offer_unmoved state text
    exact ⟨samePhase.trans phase, sameHanded.trans handed, longer⟩
  · exact ⟨phase, handed, longer⟩
  · cases turn <;> simp_all

/-- The flush loop is under way, or it has handed over all these messages. -/
def Flushed (messages : List Message) (state : Manager) : Prop :=
  messages <+: state.accepted ∧
    (state.phase = .flushing ∨ state.phase = .flushSending ∨ messages <+: state.handed)

theorem Flushed.step {messages : List Message} (flushed : Flushed messages manager)
    (made : step manager action = some next) : Flushed messages next := by
  obtain ⟨accepted, phase⟩ := flushed
  refine ⟨accepted.trans (accepted_step made), ?_⟩
  rcases step_cases made with ⟨text, -, rfl⟩ | ⟨-, rfl⟩ | turn
  · obtain ⟨samePhase, sameHanded, -⟩ := offer_unmoved manager text
    rw [samePhase, sameHanded]
    exact phase
  · exact phase
  · rcases phase with flushing | sending | all
    · cases turn with
      | flushed => exact .inr (.inl rfl)
      | emptied _ queued =>
        rw [Manager.accepted, queued, List.append_nil] at accepted
        exact .inr (.inr accepted)
      | _ => simp_all
    · cases turn with
      | flushSent => exact .inl rfl
      | _ => simp_all
    · exact .inr (.inr (all.trans (handed_step made)))

theorem run_flushing (ran : run manager actions = some after)
    (flushing : manager.phase = .flushing) (returned : after.phase = .returned exit) :
    manager.accepted <+: after.handed := by
  have kept : Flushed manager.accepted after :=
    GuardedRuns.keeps (Flushed manager.accepted) (fun made before => before.step made) ran
      ⟨List.prefix_rfl, .inl flushing⟩
  rcases kept.2 with phase | phase | all
  · rw [phase] at returned
    cases returned
  · rw [phase] at returned
    cases returned
  · exact all

theorem step_unseen (made : step manager action = some next) (unseen : action ≠ .observe)
    (running : manager.phase.ending = false) :
    next.phase.ending = false ∧ seenIn manager.phase (action :: rest) = seenIn next.phase rest ∧
      next.handed.length + received rest = manager.handed.length + received (action :: rest) := by
  rcases step_cases made with ⟨text, rfl, rfl⟩ | ⟨rfl, rfl⟩ | turn
  · obtain ⟨samePhase, sameHanded, -⟩ := offer_unmoved manager text
    rw [samePhase, sameHanded]
    refine ⟨running, ?_, rfl⟩
    cases phase : manager.phase <;> rfl
  · refine ⟨running, ?_, rfl⟩
    rw [cancel]
    cases phase : manager.phase <;> rfl
  · cases turn with
    | started phase | resumed phase =>
      rw [phase]
      exact ⟨rfl, rfl, rfl⟩
    | received phase =>
      rw [phase, take, List.length_append]
      exact ⟨rfl, rfl, Nat.add_right_comm _ _ _⟩
    | sent failed phase =>
      rw [phase]
      cases failed
      all_goals exact ⟨rfl, rfl, rfl⟩
    | abandoned | flushes | gaveUp => exact absurd rfl unseen
    | flushed phase | emptied phase | flushSent _ phase =>
      rw [phase] at running
      cases running

theorem run_observe (made : step manager .observe = some next)
    (ran : run next actions = some after) (returned : after.phase = .returned exit) :
    manager.phase = .waiting ∧ manager.accepted <+: after.handed ∨
      manager.phase ≠ .waiting ∧ manager.accepted <+: after.accepted ∧
        after.handed = manager.handed := by
  rcases step_cases made with ⟨text, impossible, -⟩ | ⟨impossible, -⟩ | turn
  · cases impossible
  · cases impossible
  · cases turn with
    | flushes phase =>
      have all := run_flushing ran rfl returned
      exact .inl ⟨phase, all⟩
    | abandoned phase | gaveUp phase =>
      obtain ⟨-, handed, accepted⟩ := run_returned ran rfl
      exact .inr ⟨by simp [phase], accepted, handed⟩

theorem run_unseen (ran : run manager actions = some after)
    (running : manager.phase.ending = false) (returned : after.phase = .returned exit) :
    seenIn manager.phase actions = .waiting ∧ manager.accepted <+: after.handed ∨
      seenIn manager.phase actions ≠ .waiting ∧ manager.accepted <+: after.accepted ∧
        after.handed.length = manager.handed.length + received actions := by
  induction actions generalizing manager with
  | nil =>
    cases ran
    rw [returned] at running
    cases running
  | cons action rest ih =>
    obtain ⟨next, made, continued⟩ := GuardedRuns.foldlM_cons_eq_some_iff.mp ran
    by_cases unseen : action = .observe
    · subst unseen
      rcases run_observe made continued returned with flushed | ⟨phase, accepted, handed⟩
      · exact .inl flushed
      · exact .inr ⟨phase, accepted, congrArg List.length handed⟩
    · obtain ⟨stillRunning, seen, taken⟩ := step_unseen made unseen running
      have grown := accepted_step made
      rw [seen]
      rcases ih continued stillRunning with ⟨waiting, all⟩ | ⟨phase, accepted, handed⟩
      · exact .inl ⟨waiting, grown.trans all⟩
      · exact .inr ⟨phase, grown.trans accepted, handed.trans taken⟩

theorem handed_iff {taken : Nat} (distinct : manager.accepted.Nodup)
    (accepted : manager.accepted <+: after.accepted)
    (handed : after.handed.length = manager.handed.length + taken) :
    (∀ message ∈ manager.queue, message ∈ after.handed) ↔ manager.queue.length ≤ taken := by
  have total : manager.accepted.length = manager.handed.length + manager.queue.length :=
    List.length_append
  have handedNow : after.handed <+: after.accepted := List.prefix_append _ _
  constructor
  · intro all
    have before : manager.handed <+: after.handed :=
      List.prefix_of_prefix_length_le ((List.prefix_append _ _).trans accepted) handedNow (by omega)
    have covered : manager.accepted ⊆ after.handed := by
      intro message member
      rcases List.mem_append.mp member with earlier | queued
      · exact before.subset earlier
      · exact all message queued
    have longer := (List.subperm_of_subset distinct covered).length_le
    omega
  · intro enough message member
    have covered : manager.accepted <+: after.handed :=
      List.prefix_of_prefix_length_le accepted handedNow (by omega)
    exact covered.subset (List.mem_append_right _ member)

end Drained

/-- When the goroutine has returned, the messages that were queued at the cancellation have been
handed over exactly if it saw the cancellation while it waited for a message, or took as many
messages as were queued before it saw it. -/
theorem drained_iff {before after : List Action} {atCancel manager : Manager} {exit : Exit}
    (ran : run .initial before = some atCancel) (running : atCancel.cancelled = false)
    (continued : run (cancel atCancel) after = some manager)
    (returned : manager.phase = .returned exit) :
    (∀ message ∈ atCancel.queue, message ∈ manager.handed) ↔
      seenIn atCancel.phase after = .waiting ∨ atCancel.queue.length ≤ received after := by
  have accounted := accounted_initial.run ran
  have unseen : atCancel.phase.ending = false := by
    by_contra ending
    rw [Bool.not_eq_false] at ending
    exact absurd (accounted.ended ending) (by rw [running]; exact Bool.false_ne_true)
  rcases run_unseen continued unseen returned with ⟨waiting, all⟩ | ⟨phase, accepted, handed⟩
  · exact iff_of_true (fun message member => all.subset (List.mem_append_right _ member))
      (.inl waiting)
  · exact (handed_iff accounted.distinct accepted handed).trans (or_iff_right phase).symm

/-- While the first of two messages is being sent. -/
def sendingManager : Manager :=
  { phase := .sending
    queue := [⟨1, [98]⟩]
    cancelled := false
    tickets := 2
    handed := [⟨0, [97]⟩] }

def laterActions : List Action :=
  [.sent false, .receive, .offer [99], .sent true, .observe]

def backedOffManager : Manager :=
  { phase := .returned .backingOff
    queue := [⟨2, [99]⟩]
    cancelled := true
    tickets := 3
    handed := [⟨0, [97]⟩, ⟨1, [98]⟩] }

/-- The second message is taken before the cancellation is seen, in the pause after it has failed;
the third one came after the cancellation. -/
theorem drained_while_backing_off :
    run .initial [.elapse, .offer [97], .offer [98], .receive] = some sendingManager ∧
      run (cancel sendingManager) laterActions = some backedOffManager ∧
      ∀ message ∈ sendingManager.queue, message ∈ backedOffManager.handed :=
  ⟨rfl, rfl, (@drained_iff [.elapse, .offer [97], .offer [98], .receive] laterActions
    sendingManager backedOffManager .backingOff rfl rfl rfl rfl).mpr (.inr (Nat.le_refl 1))⟩

/-- A cancellation in the delay after the start, and one in the pause after a message
that could not be sent: the message in the queue is not handed over. -/
theorem shutdown_loses_messages :
    (∃ atCancel manager, run .initial [.offer [97]] = some atCancel ∧
      run (cancel atCancel) [.observe] = some manager ∧
      manager.phase = .returned .starting ∧ atCancel.queue = [⟨0, [97]⟩] ∧
      manager.handed = []) ∧
    ∃ atCancel manager,
      run .initial [.elapse, .offer [97], .offer [98], .receive, .sent true] = some atCancel ∧
      run (cancel atCancel) [.observe] = some manager ∧
      manager.phase = .returned .backingOff ∧ atCancel.queue = [⟨1, [98]⟩] ∧
      manager.handed = [⟨0, [97]⟩] :=
  ⟨⟨_, _, rfl, rfl, rfl, rfl, rfl⟩, ⟨_, _, rfl, rfl, rfl, rfl, rfl⟩⟩

end ContestSync.Telegram
