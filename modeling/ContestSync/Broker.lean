/-
A broker that keeps a message until it is acknowledged. A message is queued, or
it has been delivered and the broker waits for its acknowledgement; what is not
acknowledged can be put back into the queue at any time, while the consumer may
go on with the delivery it has. Consumers note on a delivery how far they are.

Nothing is said here about what messages and stages are. Two things are followed
through the operations: whether some message of a kind is still held, and a
weight of messages and deliveries.
-/

import Mathlib.Algebra.BigOperators.Group.List.Basic
import Mathlib.Algebra.GroupWithZero.Nat

namespace Broker

theorem split_position {α : Type} {items : List α} {index : Nat} {item : α}
    (found : items[index]? = some item) :
    ∃ before after, items = before ++ item :: after ∧
      (∀ other, items.set index other = before ++ other :: after) ∧
      items.eraseIdx index = before ++ after := by
  induction items generalizing index with
  | nil => cases found
  | cons first rest ih =>
    cases index with
    | zero =>
      cases found
      exact ⟨[], rest, rfl, fun _ => rfl, rfl⟩
    | succ index =>
      obtain ⟨before, after, whole, replaced, erased⟩ := ih found
      refine ⟨first :: before, after, by rw [whole]; rfl, ?_, ?_⟩
      · intro other
        rw [List.set_cons_succ, replaced other]
        rfl
      · rw [List.eraseIdx_cons_succ, erased]
        rfl

structure Delivery (μ σ : Type) where
  message : μ
  stage : σ
  unacked : Bool

/-- The position of a delivery in the list is its tag. -/
structure State (μ σ : Type) where
  queued : List μ
  deliveries : List (Delivery μ σ)

namespace State

variable {μ σ : Type} (broker : State μ σ)

def empty : State μ σ :=
  { queued := []
    deliveries := [] }

def publish (message : μ) : State μ σ :=
  { broker with queued := broker.queued ++ [message] }

/-- Any queued message may be the next one. -/
def deliver (index : Nat) (stage : σ) : State μ σ :=
  match broker.queued[index]? with
  | none => broker
  | some message =>
    { queued := broker.queued.eraseIdx index
      deliveries := broker.deliveries ++ [⟨message, stage, true⟩] }

def advance (tag : Nat) (stage : σ) : State μ σ :=
  match broker.deliveries[tag]? with
  | none => broker
  | some delivery =>
    { broker with deliveries := broker.deliveries.set tag { delivery with stage := stage } }

def acknowledge (tag : Nat) : State μ σ :=
  match broker.deliveries[tag]? with
  | none => broker
  | some delivery =>
    { broker with deliveries := broker.deliveries.set tag { delivery with unacked := false } }

/-- The message of a delivery that was rejected, or whose consumer is gone. -/
def requeue (tag : Nat) : State μ σ :=
  match broker.deliveries[tag]? with
  | none => broker
  | some delivery =>
    if delivery.unacked then
      { queued := broker.queued ++ [delivery.message]
        deliveries := broker.deliveries.set tag { delivery with unacked := false } }
    else broker

/-! ### What is held -/

/-- Some message of the kind is queued or waits for its acknowledgement. -/
def Holds (kind : μ → Prop) : Prop :=
  (∃ message ∈ broker.queued, kind message) ∨
    ∃ delivery ∈ broker.deliveries, delivery.unacked = true ∧ kind delivery.message

def Every (kind : μ → Prop) : Prop :=
  (∀ message ∈ broker.queued, kind message) ∧ ∀ delivery ∈ broker.deliveries, kind delivery.message

variable {broker} {kind : μ → Prop} {tag : Nat} {delivery : Delivery μ σ}
  {changed other after : Delivery μ σ} {wider : μ → Prop} {message : μ} {queued : List μ}
  {stage : σ}

theorem mem_set (found : broker.deliveries[tag]? = some delivery)
    (member : other ∈ broker.deliveries) :
    other = delivery ∨ other ∈ broker.deliveries.set tag changed := by
  obtain ⟨index, atIndex⟩ := List.mem_iff_getElem?.mp member
  by_cases same : index = tag
  · subst same
    rw [found] at atIndex
    exact Or.inl (Option.some.inj atIndex).symm
  · refine Or.inr (List.mem_iff_getElem?.mpr ⟨index, ?_⟩)
    rw [List.getElem?_set_ne (Ne.symm same)]
    exact atIndex

theorem set_mem (found : broker.deliveries[tag]? = some delivery) :
    changed ∈ broker.deliveries.set tag changed := by
  obtain ⟨bound, _⟩ := List.getElem?_eq_some_iff.mp found
  exact List.mem_iff_getElem?.mpr ⟨tag, List.getElem?_set_self bound⟩

theorem mem_of_mem_set (member : other ∈ broker.deliveries.set tag changed) :
    other = changed ∨ other ∈ broker.deliveries := by
  exact (List.mem_or_eq_of_mem_set member).symm

theorem Holds.mono (holds : broker.Holds kind)
    (implies : ∀ message, kind message → wider message) : broker.Holds wider := by
  rcases holds with ⟨message, member, fits⟩ | ⟨delivery, member, unacked, fits⟩
  · exact Or.inl ⟨message, member, implies message fits⟩
  · exact Or.inr ⟨delivery, member, unacked, implies _ fits⟩

theorem Holds.publish (holds : broker.Holds kind) (message : μ) :
    (broker.publish message).Holds kind := by
  rcases holds with ⟨old, member, fits⟩ | delivered
  · exact Or.inl ⟨old, List.mem_append_left _ member, fits⟩
  · exact Or.inr delivered

theorem holds_publish (fits : kind message) :
    (broker.publish message).Holds kind :=
  Or.inl ⟨message, List.mem_append_right _ (List.mem_singleton.mpr rfl), fits⟩

theorem Holds.deliver (holds : broker.Holds kind) (index : Nat) (stage : σ) :
    (broker.deliver index stage).Holds kind := by
  unfold State.deliver
  cases found : broker.queued[index]? with
  | none => exact holds
  | some next =>
    rcases holds with ⟨message, member, fits⟩ | ⟨delivery, member, unacked, fits⟩
    · obtain ⟨position, atPosition⟩ := List.mem_iff_getElem?.mp member
      by_cases same : position = index
      · subst same
        rw [found] at atPosition
        cases atPosition
        exact Or.inr ⟨_, List.mem_append_right _ (List.mem_singleton.mpr rfl), rfl, fits⟩
      · exact Or.inl ⟨message, List.mem_eraseIdx_iff_getElem?.mpr
          ⟨position, same, atPosition⟩, fits⟩
    · exact Or.inr ⟨delivery, List.mem_append_left _ member, unacked, fits⟩

theorem Holds.set (holds : broker.Holds kind) (found : broker.deliveries[tag]? = some delivery)
    (kept : ∀ message ∈ broker.queued, message ∈ queued)
    (same : delivery.unacked = true → kind delivery.message → (∃ message ∈ queued, kind message) ∨
        (changed.unacked = true ∧ kind changed.message)) :
    State.Holds ⟨queued, broker.deliveries.set tag changed⟩ kind := by
  rcases holds with ⟨message, member, fits⟩ | ⟨other, member, unacked, fits⟩
  · exact Or.inl ⟨message, kept message member, fits⟩
  · have position : other = delivery ∨ other ∈ broker.deliveries.set tag changed :=
      mem_set found member
    rcases position with rfl | still
    · rcases same unacked fits with requeued | ⟨unacked, fits⟩
      · exact Or.inl requeued
      · exact Or.inr ⟨changed, set_mem found, unacked, fits⟩
    · exact Or.inr ⟨other, still, unacked, fits⟩

theorem Holds.advance (holds : broker.Holds kind) (tag : Nat) (stage : σ) :
    (broker.advance tag stage).Holds kind := by
  unfold State.advance
  cases found : broker.deliveries[tag]? with
  | none => exact holds
  | some delivery =>
    exact holds.set found (fun _ member => member) (fun unacked fits => Or.inr ⟨unacked, fits⟩)

theorem Holds.requeue (holds : broker.Holds kind) (tag : Nat) :
    (broker.requeue tag).Holds kind := by
  unfold State.requeue
  cases found : broker.deliveries[tag]? with
  | none => exact holds
  | some delivery =>
    simp only
    split
    · exact holds.set found (fun _ member => List.mem_append_left _ member)
        (fun _ fits => Or.inl ⟨delivery.message,
          List.mem_append_right _ (List.mem_singleton.mpr rfl), fits⟩)
    · exact holds

theorem Holds.acknowledge (holds : broker.Holds kind)
    (found : broker.deliveries[tag]? = some delivery) (other : ¬kind delivery.message) :
    (broker.acknowledge tag).Holds kind := by
  unfold State.acknowledge
  rw [found]
  exact holds.set found (fun _ member => member) (fun _ fits => absurd fits other)

/-! ### Every message -/

section Everywhere

variable (every : broker.Every kind)
include every

theorem Every.mono (implies : ∀ message, kind message → wider message) : broker.Every wider :=
  ⟨fun message member => implies message (every.1 message member),
    fun delivery member => implies _ (every.2 delivery member)⟩

theorem Every.publish (fits : kind message) :
    (broker.publish message).Every kind := by
  refine ⟨?_, every.2⟩
  intro other member
  rcases List.mem_append.mp member with old | new
  · exact every.1 other old
  · rw [List.mem_singleton.mp new]
    exact fits

theorem Every.deliver (index : Nat) (stage : σ) :
    (broker.deliver index stage).Every kind := by
  unfold State.deliver
  cases found : broker.queued[index]? with
  | none => exact every
  | some next =>
    refine ⟨?_, ?_⟩
    · exact fun message member => every.1 message (List.mem_of_mem_eraseIdx member)
    · intro delivery member
      rcases List.mem_append.mp member with old | new
      · exact every.2 delivery old
      · rw [List.mem_singleton.mp new]
        exact every.1 next (List.mem_of_getElem? found)

theorem Every.set (found : broker.deliveries[tag]? = some delivery)
    (same : changed.message = delivery.message)
    (known : ∀ message ∈ queued, message ∈ broker.queued ∨ message = delivery.message) :
    State.Every ⟨queued, broker.deliveries.set tag changed⟩ kind := by
  have own := every.2 delivery (List.mem_of_getElem? found)
  refine ⟨?_, ?_⟩
  · intro message member
    rcases known message member with old | rfl
    · exact every.1 message old
    · exact own
  · intro other member
    rcases mem_of_mem_set member with rfl | old
    · rw [same]
      exact own
    · exact every.2 other old

theorem Every.advance (tag : Nat) (stage : σ) :
    (broker.advance tag stage).Every kind := by
  unfold State.advance
  cases found : broker.deliveries[tag]? with
  | none => exact every
  | some delivery => exact every.set found rfl (fun _ member => Or.inl member)

theorem Every.acknowledge (tag : Nat) :
    (broker.acknowledge tag).Every kind := by
  unfold State.acknowledge
  cases found : broker.deliveries[tag]? with
  | none => exact every
  | some delivery => exact every.set found rfl (fun _ member => Or.inl member)

theorem Every.requeue (tag : Nat) :
    (broker.requeue tag).Every kind := by
  unfold State.requeue
  cases found : broker.deliveries[tag]? with
  | none => exact every
  | some delivery =>
    simp only
    split
    · refine every.set found rfl ?_
      intro message member
      rcases List.mem_append.mp member with old | new
      · exact Or.inl old
      · exact Or.inr (List.mem_singleton.mp new)
    · exact every

end Everywhere

/-! ### Every delivery -/

section Working

variable {known : μ → σ → Prop}

def Working (known : μ → σ → Prop) (broker : State μ σ) : Prop :=
  ∀ delivery ∈ broker.deliveries, known delivery.message delivery.stage

variable (holds : broker.Working known)
include holds

theorem Working.mono {wider : μ → σ → Prop}
    (implies : ∀ message stage, known message stage → wider message stage) :
    broker.Working wider :=
  fun delivery member => implies _ _ (holds delivery member)

theorem Working.deliver (index : Nat) (fresh : ∀ message ∈ broker.queued, known message stage) :
    (broker.deliver index stage).Working known := by
  unfold State.deliver
  cases found : broker.queued[index]? with
  | none => exact holds
  | some next =>
    intro delivery member
    rcases List.mem_append.mp member with old | new
    · exact holds delivery old
    · rw [List.mem_singleton.mp new]
      exact fresh next (List.mem_of_getElem? found)

theorem Working.advance (found : broker.deliveries[tag]? = some delivery) {stage : σ}
    (reached : known delivery.message stage) : (broker.advance tag stage).Working known := by
  unfold State.advance
  rw [found]
  intro other member
  rcases mem_of_mem_set member with rfl | old
  · exact reached
  · exact holds other old

theorem Working.acknowledge (tag : Nat) :
    (broker.acknowledge tag).Working known := by
  unfold State.acknowledge
  cases found : broker.deliveries[tag]? with
  | none => exact holds
  | some delivery =>
    intro other member
    rcases mem_of_mem_set member with rfl | old
    · exact holds delivery (List.mem_of_getElem? found)
    · exact holds other old

theorem Working.requeue (tag : Nat) :
    (broker.requeue tag).Working known := by
  unfold State.requeue
  cases found : broker.deliveries[tag]? with
  | none => exact holds
  | some delivery =>
    simp only
    split
    · intro other member
      rcases mem_of_mem_set member with rfl | old
      · exact holds delivery (List.mem_of_getElem? found)
      · exact holds other old
    · exact holds

end Working

theorem acknowledge_found (found : broker.deliveries[tag]? = some delivery) :
    (broker.acknowledge tag).deliveries[tag]? = some { delivery with unacked := false } := by
  obtain ⟨bound, _⟩ := List.getElem?_eq_some_iff.mp found
  unfold State.acknowledge
  rw [found]
  exact List.getElem?_set_self bound

theorem requeue_found (found : broker.deliveries[tag]? = some delivery) :
    ∃ after, (broker.requeue tag).deliveries[tag]? = some after ∧
      after.message = delivery.message ∧ after.stage = delivery.stage := by
  obtain ⟨bound, _⟩ := List.getElem?_eq_some_iff.mp found
  unfold State.requeue
  rw [found]
  simp only
  split
  · exact ⟨_, List.getElem?_set_self bound, rfl, rfl⟩
  · exact ⟨delivery, found, rfl, rfl⟩

/-! ### A single delivery -/

theorem delivery_advance {other : Nat}
    (found : (broker.advance tag stage).deliveries[other]? = some after) :
    ∃ before, broker.deliveries[other]? = some before ∧ after.message = before.message ∧
      after.stage = if other = tag then stage else before.stage := by
  unfold State.advance at found
  cases own : broker.deliveries[tag]? with
  | none =>
    rw [own] at found
    refine ⟨after, found, rfl, ?_⟩
    rw [if_neg]
    rintro rfl
    rw [own] at found
    cases found
  | some delivery =>
    rw [own] at found
    by_cases same : other = tag
    · subst same
      obtain ⟨bound, _⟩ := List.getElem?_eq_some_iff.mp own
      rw [List.getElem?_set_self bound] at found
      cases found
      exact ⟨delivery, own, rfl, (if_pos rfl).symm⟩
    · rw [List.getElem?_set_ne (Ne.symm same)] at found
      exact ⟨after, found, rfl, (if_neg same).symm⟩

/-- A delivery after something that leaves its message and its stage alone. -/
def SameWork (broker after : State μ σ) : Prop :=
  ∀ (tag : Nat) (delivery : Delivery μ σ), after.deliveries[tag]? = some delivery →
    ∃ before, broker.deliveries[tag]? = some before ∧ delivery.message = before.message ∧
      delivery.stage = before.stage

theorem sameWork_set (found : broker.deliveries[tag]? = some delivery) (unacked : Bool)
    (queued : List μ) :
    SameWork broker ⟨queued, broker.deliveries.set tag { delivery with unacked := unacked }⟩ := by
  intro other after atOther
  by_cases same : other = tag
  · subst same
    obtain ⟨bound, _⟩ := List.getElem?_eq_some_iff.mp found
    rw [List.getElem?_set_self bound] at atOther
    cases atOther
    exact ⟨delivery, found, rfl, rfl⟩
  · rw [List.getElem?_set_ne (Ne.symm same)] at atOther
    exact ⟨after, atOther, rfl, rfl⟩

theorem sameWork_acknowledge (tag : Nat) : SameWork broker (broker.acknowledge tag) := by
  unfold State.acknowledge
  cases found : broker.deliveries[tag]? with
  | none => exact fun _ delivery atOther => ⟨delivery, atOther, rfl, rfl⟩
  | some delivery => exact sameWork_set found false _

theorem sameWork_requeue (tag : Nat) : SameWork broker (broker.requeue tag) := by
  unfold State.requeue
  cases found : broker.deliveries[tag]? with
  | none => exact fun _ delivery atOther => ⟨delivery, atOther, rfl, rfl⟩
  | some delivery =>
    simp only
    split
    · exact sameWork_set found false _
    · exact fun _ delivery atOther => ⟨delivery, atOther, rfl, rfl⟩

theorem delivery_deliver {index other : Nat}
    (found : (broker.deliver index stage).deliveries[other]? = some after) :
    broker.deliveries[other]? = some after ∨
      (broker.deliveries[other]? = none ∧ after.message ∈ broker.queued ∧ after.stage = stage) := by
  unfold State.deliver at found
  cases next : broker.queued[index]? with
  | none =>
    rw [next] at found
    exact Or.inl found
  | some message =>
    rw [next] at found
    by_cases old : other < broker.deliveries.length
    · rw [List.getElem?_append_left old] at found
      exact Or.inl found
    · have past : broker.deliveries.length ≤ other := Nat.le_of_not_lt old
      rw [List.getElem?_append_right past] at found
      rw [List.mem_singleton.mp (List.mem_of_getElem? found)]
      exact Or.inr ⟨List.getElem?_eq_none past, List.mem_of_getElem? next, rfl⟩

/-! ### Weights -/

section Weight

variable (waiting : μ → Nat) (working : μ → σ → Nat)

def weight (broker : State μ σ) : Nat :=
  (broker.queued.map waiting).sum +
    (broker.deliveries.map (fun delivery => working delivery.message delivery.stage)).sum

variable {index : Nat}

theorem sum_map_set {α : Type} (measure : α → Nat) (items : List α)
    {old : α} (found : items[index]? = some old) (new : α) :
    ((items.set index new).map measure).sum + measure old =
      (items.map measure).sum + measure new := by
  obtain ⟨before, after, whole, replaced, _⟩ := split_position found
  rw [replaced, whole]
  simp only [List.map_append, List.map_cons, List.sum_append, List.sum_cons]
  omega

theorem sum_map_eraseIdx {α : Type} (measure : α → Nat) (items : List α)
    {old : α} (found : items[index]? = some old) :
    ((items.eraseIdx index).map measure).sum + measure old = (items.map measure).sum := by
  obtain ⟨before, after, whole, _, erased⟩ := split_position found
  rw [erased, whole]
  simp only [List.map_append, List.map_cons, List.sum_append, List.sum_cons]
  omega

theorem weight_publish (message : μ) :
    (broker.publish message).weight waiting working =
      broker.weight waiting working + waiting message := by
  unfold weight publish
  simp only [List.map_append, List.sum_append, List.map_singleton, List.sum_singleton]
  omega

theorem weight_deliver (found : broker.queued[index]? = some message) :
    (broker.deliver index stage).weight waiting working + waiting message =
      broker.weight waiting working + working message stage := by
  have erased := sum_map_eraseIdx waiting broker.queued found
  unfold weight deliver
  rw [found]
  simp only [List.map_append, List.sum_append, List.map_singleton, List.sum_singleton]
  omega

theorem weight_advance (found : broker.deliveries[tag]? = some delivery) (stage : σ) :
    (broker.advance tag stage).weight waiting working + working delivery.message delivery.stage =
      broker.weight waiting working + working delivery.message stage := by
  have changed := sum_map_set (fun delivery => working delivery.message delivery.stage)
    broker.deliveries found { delivery with stage := stage }
  unfold weight advance
  rw [found]
  simp only at changed ⊢
  omega

theorem weight_acknowledge (tag : Nat) :
    (broker.acknowledge tag).weight waiting working = broker.weight waiting working := by
  unfold acknowledge
  cases found : broker.deliveries[tag]? with
  | none => rfl
  | some delivery =>
    have changed := sum_map_set (fun delivery => working delivery.message delivery.stage)
      broker.deliveries found { delivery with unacked := false }
    unfold weight
    simp only at changed ⊢
    omega

theorem weight_requeue (found : broker.deliveries[tag]? = some delivery)
    (light : waiting delivery.message = 0) :
    (broker.requeue tag).weight waiting working = broker.weight waiting working := by
  have changed := sum_map_set (fun delivery => working delivery.message delivery.stage)
    broker.deliveries found { delivery with unacked := false }
  unfold requeue
  rw [found]
  simp only
  split
  · unfold weight
    simp only [List.map_append, List.sum_append, List.map_singleton, List.sum_singleton]
      at changed ⊢
    omega
  · rfl

end Weight

end State

end Broker
