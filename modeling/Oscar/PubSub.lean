import Mathlib.Data.List.Basic

/-!
# The pub/sub bus

`dropBoxPubSub` and `messagesPubSub`, modelled from the spec: the `pubsub` package is not
among the repository's files. A subscription is a queue of at most `cap` items on one
topic (`Sub`); `Unsub` takes it off its topic and closes its queue; `Pub` takes the topic's
current subscribers and puts the item in each queue in turn, waiting while a queue is full.
The spec leaves open what a publication does with a subscriber taken off its topic after it
was listed: here the item is dropped, so no send on a closed queue and no wait on one comes
from the bus itself. A subscription keeps its index in the bus for good.
-/

namespace Oscar.PubSub

variable {τ α : Type}

/-- One subscription: its topic and queue, whether it is still on its topic with its queue
open, and (a ghost field) whether the session under study holds it. -/
structure Subscription (τ α : Type) where
  topic : τ
  queue : List α
  live : Bool
  mine : Bool
  deriving DecidableEq, Repr

/-- What a receive `<-sub` gives: the item at the front, or nil from a closed, empty queue. -/
inductive Received (α : Type) where
  | item (x : α)
  | closed
  deriving DecidableEq, Repr

/-- Change subscription `i`. -/
def modify (bus : List (Subscription τ α)) (i : Nat)
    (change : Subscription τ α → Subscription τ α) : List (Subscription τ α) :=
  match bus[i]? with
  | some s => bus.set i (change s)
  | none => bus

/-- `Sub(topic)` — an open subscription with an empty queue, at index `bus.length`. -/
def subscribe (bus : List (Subscription τ α)) (topic : τ) (mine : Bool) :
    List (Subscription τ α) :=
  bus ++ [⟨topic, [], true, mine⟩]

/-- `Unsub(sub, topic)` — off its topic, queue closed; a second call changes nothing. -/
def unsubscribe (bus : List (Subscription τ α)) (i : Nat) : List (Subscription τ α) :=
  modify bus i fun s => { s with live := false }

/-- The subscriptions a `Pub` on `topic` takes: the open ones on it, in index order. -/
def subscribers [DecidableEq τ] (bus : List (Subscription τ α)) (topic : τ) : List Nat :=
  (List.range bus.length).filter fun i =>
    match bus[i]? with
    | some s => s.live && decide (s.topic = topic)
    | none => false

/-- An item put at the back of queue `i`. -/
def push (bus : List (Subscription τ α)) (i : Nat) (x : α) : List (Subscription τ α) :=
  modify bus i fun s => { s with queue := s.queue ++ [x] }

/-- The item at the front of queue `i` taken. -/
def pop (bus : List (Subscription τ α)) (i : Nat) : List (Subscription τ α) :=
  modify bus i fun s => { s with queue := s.queue.drop 1 }

/-- A receive on queue `i`: `none` while it waits, on an open and empty queue. -/
def receive (bus : List (Subscription τ α)) (i : Nat) : Option (Received α) :=
  match bus[i]? with
  | some s =>
    match s.queue with
    | x :: _ => some (.item x)
    | [] => if s.live then none else some .closed
  | none => none

/-- Setting an element to what it is changes nothing. -/
theorem set_self_of_getElem? {α : Type} {l : List α} {i : Nat} {a : α} (found : l[i]? = some a) :
    l.set i a = l := by
  apply List.ext_getElem?
  intro j
  rw [List.getElem?_set]
  split_ifs with same h
  · subst same; exact found.symm
  · subst same; exact absurd (List.getElem?_eq_some_iff.mp found).1 h
  · rfl

/-- Changing subscription `i` changes that entry of the bus and no other. -/
theorem getElem?_modify (bus : List (Subscription τ α)) (i j : Nat)
    (change : Subscription τ α → Subscription τ α) :
    (modify bus i change)[j]? = if i = j then bus[j]?.map change else bus[j]? := by
  unfold modify
  by_cases same : i = j
  · subst same
    cases found : bus[i]? with
    | none => simp [found]
    | some s => simp [found, (List.getElem?_eq_some_iff.mp found).1]
  · cases bus[i]? <;> simp [same]

/-- Changing a subscription keeps the number of subscriptions. -/
@[simp] theorem length_modify (bus : List (Subscription τ α)) (i : Nat)
    (change : Subscription τ α → Subscription τ α) : (modify bus i change).length = bus.length := by
  unfold modify
  split <;> simp

/-- `Unsub` closes a subscription and keeps the number of subscriptions. -/
@[simp] theorem length_unsubscribe (bus : List (Subscription τ α)) (i : Nat) :
    (unsubscribe bus i).length = bus.length := length_modify ..

/-- Pushing an item keeps the number of subscriptions. -/
@[simp] theorem length_push (bus : List (Subscription τ α)) (i : Nat) (x : α) :
    (push bus i x).length = bus.length := length_modify ..

/-- Popping an item keeps the number of subscriptions. -/
@[simp] theorem length_pop (bus : List (Subscription τ α)) (i : Nat) :
    (pop bus i).length = bus.length := length_modify ..

/-- `Sub` adds one subscription. -/
@[simp] theorem length_subscribe (bus : List (Subscription τ α)) (topic : τ) (mine : Bool) :
    (subscribe bus topic mine).length = bus.length + 1 := by
  simp [subscribe]

/-- `Sub` puts an open, empty subscription on the topic at the end of the bus. -/
theorem getElem?_subscribe (bus : List (Subscription τ α)) (topic : τ) (mine : Bool) (j : Nat) :
    (subscribe bus topic mine)[j]? =
      if j = bus.length then some ⟨topic, [], true, mine⟩ else bus[j]? := by
  unfold subscribe
  split
  · subst_vars; simp
  · rcases Nat.lt_or_gt_of_ne ‹j ≠ bus.length› with below | above
    · simp [List.getElem?_append_left below]
    · simp [List.getElem?_append_right (Nat.le_of_lt above), List.getElem?_eq_none_iff.mpr
        (Nat.le_of_lt above)]
      omega

/-- A `Pub` on `topic` takes exactly the open subscriptions on it. -/
theorem mem_subscribers [DecidableEq τ] {bus : List (Subscription τ α)} {topic : τ} {i : Nat} :
    i ∈ subscribers bus topic ↔ ∃ s, bus[i]? = some s ∧ s.live = true ∧ s.topic = topic := by
  unfold subscribers
  simp only [List.mem_filter, List.mem_range]
  cases found : bus[i]? with
  | none => simp [List.getElem?_eq_none_iff.mp found]
  | some s => simp [(List.getElem?_eq_some_iff.mp found).1]

/-- A receive gives an item exactly from the front of a queue. -/
theorem receive_eq_item {bus : List (Subscription τ α)} {i : Nat} {x : α}
    (received : receive bus i = some (.item x)) : ∃ s q, bus[i]? = some s ∧ s.queue = x :: q := by
  unfold receive at received
  rcases found : bus[i]? with _ | s <;> simp only [found] at received
  · cases received
  rcases queue : s.queue with _ | ⟨y, q⟩ <;> simp only [queue] at received
  · split_ifs at received; cases received
  · cases received
    exact ⟨s, q, rfl, queue⟩

/-- A receive gives nil only from a closed, empty queue. -/
theorem receive_eq_closed {bus : List (Subscription τ α)} {i : Nat}
    (received : receive bus i = some .closed) :
    ∃ s, bus[i]? = some s ∧ s.queue = [] ∧ s.live = false := by
  unfold receive at received
  rcases found : bus[i]? with _ | s <;> simp only [found] at received
  · cases received
  rcases queue : s.queue with _ | ⟨y, q⟩ <;> simp only [queue] at received
  · split_ifs at received with live
    exact ⟨s, rfl, queue, by simpa using live⟩
  · cases received

/-- Taking from an empty queue changes nothing. -/
theorem pop_of_queue_nil {bus : List (Subscription τ α)} {i : Nat} {s : Subscription τ α}
    (found : bus[i]? = some s) (empty : s.queue = []) : pop bus i = bus := by
  have same : { s with queue := s.queue.drop 1 } = s := by
    cases s; subst empty; rfl
  simp only [pop, modify, found, same]
  exact set_self_of_getElem? found

end Oscar.PubSub
