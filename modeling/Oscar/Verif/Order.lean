import Oscar.Verif.Subscriptions
import Oscar.Verif.ListenerFifo
import Oscar.Verif.SocketFifo

/-! # The order of a session's frames

A POST commits, replies and returns before a goroutine publishes its parts, so a PUT that
starts after the POST returned can publish first, and a session watching the box writes the
PUT's package before the POST's (`listener_send_overtaken`). A PUT returns only after its
publication reached its subscribers, and each session writes the frames of a queue in the
order the queue received its items: so both sessions write a PUT's package before the package
of any request that started after the PUT returned, from each subscription that watched the
box throughout (`puts_in_order`).

`watch` subscribes, then reads the stored package, then sends it into the new queue. A PUT
that commits and publishes between the read and the send puts its package in the queue ahead
of the older one, so when all is quiet the last frame the session wrote for the box is not
the package the bucket holds (`listener_stale_pickup_last`).
-/

namespace Oscar

open PubSub

/-- A POST that returned before a PUT began is overtaken: the listener writes the PUT's frame first,
since the POST publishes from a goroutine after replying. -/
theorem listener_send_overtaken : ∃ w : ListenerWorld, (∀ cap, 1 ≤ cap → w.Reachable cap) ∧
    w.env.log = [.subscribe 0 zeroHex, .watch zeroBox,
      .start 1 [(zeroHex, ⟨[1], 1⟩)] false, .ret 1, .start 2 [(zeroHex, ⟨[2], 2⟩)] true,
      .publish 2 zeroHex ⟨[2], 2⟩ [0], .enqueue 0 ⟨[2], 2⟩, .ret 2,
      .write (watchFrame zeroBox [2]) (some (0, ⟨[2], 2⟩)),
      .publish 1 zeroHex ⟨[1], 1⟩ [0], .enqueue 0 ⟨[1], 1⟩,
      .write (watchFrame zeroBox [1]) (some (0, ⟨[1], 1⟩))] :=
  ListenerWorld.exists_forall_reachable_of_run 1 Bucket.empty
    [.read (some (1 :: zeroBox)), .pickUp,
      .env (.send (.ok [.part zeroHex (.ok [1])]) [(zeroHex, [1])] [(zeroHex, [1])] (.ok ())),
      .env (.put zeroHex (.ok [2]) (.ok ())), .env (.pub 1), .env (.deliver 1), .env (.finish 1),
      .fwdReceive 0, .writerReceive 0, .write true,
      .env (.pub 0), .env (.deliver 0), .env (.finish 0), .fwdReceive 0, .writerReceive 0, .write true]
    (by decide)

/-- Both sessions write the items of each of their queues in the order the queue received
them, skipping none. -/
theorem frames_in_queue_order :
    (∀ (cap : Nat) (w : ListenerWorld), ListenerWorld.Reachable cap w →
      ∀ s, written s w.env.log <+: enqueued s w.env.log) ∧
    ∀ (cap : Nat) (w : SocketWorld), SocketWorld.Reachable cap w →
      ∀ s, written s w.env.log <+: enqueued s w.env.log :=
  ⟨fun _ _ reach => reach.fifo, fun _ _ reach => reach.fifo⟩

/-- Whichever session runs beside it, a PUT returns only after its package is in the queue of
every subscription that was on its box's topic before it started and is still on. -/
theorem puts_delivered :
    (∀ (cap : Nat) (w : ListenerWorld), ListenerWorld.Reachable cap w → PutsDelivered w.env.log) ∧
      ∀ (cap : Nat) (w : SocketWorld), SocketWorld.Reachable cap w → PutsDelivered w.env.log :=
  ⟨fun _ _ reach => let ⟨_, inv, _⟩ := reach.exists_inv; inv.server.putsDelivered,
    fun _ _ reach => let ⟨_, inv, _⟩ := reach.exists_inv; inv.pipeline.server.putsDelivered⟩

/-- Both sessions write a PUT's package before the package of any request that started after
the PUT returned, from each subscription that watched the box throughout. -/
theorem puts_in_order :
    (∀ (cap : Nat) (w : ListenerWorld), ListenerWorld.Reachable cap w → PutsInOrder w.env.log) ∧
      ∀ (cap : Nat) (w : SocketWorld), SocketWorld.Reachable cap w → PutsInOrder w.env.log :=
  ⟨fun _ _ reach => let ⟨_, inv, _⟩ := reach.exists_inv; inv.server.putsInOrder reach.fifo,
    fun _ _ reach => let ⟨_, inv, _⟩ := reach.exists_inv; inv.pipeline.server.putsInOrder reach.fifo⟩

/-- The log of a session watching `zeroBox` while two PUTs are made to it, the second after
the first returned. -/
def twoPuts : List Event :=
  [.subscribe 0 zeroHex, .watch zeroBox,
    .start 1 [(zeroHex, ⟨[1], 1⟩)] true, .publish 1 zeroHex ⟨[1], 1⟩ [0], .enqueue 0 ⟨[1], 1⟩,
    .ret 1, .write (watchFrame zeroBox [1]) (some (0, ⟨[1], 1⟩)),
    .start 2 [(zeroHex, ⟨[2], 2⟩)] true, .publish 2 zeroHex ⟨[2], 2⟩ [0], .enqueue 0 ⟨[2], 2⟩,
    .ret 2, .write (watchFrame zeroBox [2]) (some (0, ⟨[2], 2⟩))]

/-- Both sessions can log `twoPuts`. -/
theorem twoPuts_reachable :
    (∃ w : ListenerWorld, ListenerWorld.Reachable 1 w ∧ w.env.log = twoPuts) ∧
      ∃ w : SocketWorld, SocketWorld.Reachable 1 w ∧ w.env.log = twoPuts :=
  ⟨ListenerWorld.exists_reachable_of_run 1 le_rfl Bucket.empty
    [.read (some (1 :: zeroBox)), .pickUp,
      .env (.put zeroHex (.ok [1]) (.ok ())), .env (.pub 0), .env (.deliver 0), .env (.finish 0),
      .fwdReceive 0, .writerReceive 0, .write true,
      .env (.put zeroHex (.ok [2]) (.ok ())), .env (.pub 1), .env (.deliver 1), .env (.finish 1),
      .fwdReceive 0, .writerReceive 0, .write true]
    (by decide),
  SocketWorld.exists_reachable_of_run 1 le_rfl Bucket.empty
    [.read (some (1 :: zeroBox)), .pickUp false,
      .env (.put zeroHex (.ok [1]) (.ok ())), .env (.pub 0), .env (.deliver 0), .env (.finish 0),
      .fwdReceive 0, .fwdSend 0, .writerPackage, .write true,
      .env (.put zeroHex (.ok [2]) (.ok ())), .env (.pub 1), .env (.deliver 1), .env (.finish 1),
      .fwdReceive 0, .fwdSend 0, .writerPackage, .write true]
    (by decide)⟩

/-- In the two-PUT log, which both sessions reach, the frames written from queue 0 are a prefix of
the items put in it. -/
theorem frames_in_queue_order_two_puts :
    (∃ w : ListenerWorld, ListenerWorld.Reachable 1 w ∧ w.env.log = twoPuts ∧
      written 0 twoPuts <+: enqueued 0 twoPuts) ∧
    ∃ w : SocketWorld, SocketWorld.Reachable 1 w ∧ w.env.log = twoPuts ∧
      written 0 twoPuts <+: enqueued 0 twoPuts :=
  let ⟨⟨w, reach, logged⟩, ⟨w', reach', logged'⟩⟩ := twoPuts_reachable
  ⟨⟨w, reach, logged, logged ▸ frames_in_queue_order.1 1 w reach 0⟩,
    ⟨w', reach', logged', logged' ▸ frames_in_queue_order.2 1 w' reach' 0⟩⟩

/-- That `s` subscribed to `topic` before request `r` started, checked on a concrete log. -/
theorem subscribed_before {log : List Event} {s r : Nat} {topic : List UInt8} {x : Item}
    (check : ∀ j (h : j < log.length), log[j] = .start r [(topic, x)] true →
      .subscribe s topic ∈ log.take j) :
    ∀ L M, log = L ++ .start r [(topic, x)] true :: M → .subscribe s topic ∈ L :=
  fun L M split => forall_append_cons_of_getElem (· = .start r [(topic, x)] true)
    (.subscribe s topic ∈ ·) check L _ M split rfl

/-- In the two-PUT log, which both sessions reach, the first PUT's package is in the queue before
that PUT returns. -/
theorem puts_delivered_two_puts :
    (∃ w : ListenerWorld, ListenerWorld.Reachable 1 w ∧ w.env.log = twoPuts ∧
      Event.enqueue 0 ⟨[1], 1⟩ ∈ twoPuts.take 5) ∧
    ∃ w : SocketWorld, SocketWorld.Reachable 1 w ∧ w.env.log = twoPuts ∧
      Event.enqueue 0 ⟨[1], 1⟩ ∈ twoPuts.take 5 := by
  have first : PutsDelivered twoPuts → Event.enqueue 0 ⟨[1], 1⟩ ∈ twoPuts.take 5 := fun delivered =>
    delivered 0 1 zeroHex ⟨[1], 1⟩ _ (twoPuts.drop 6) (by decide) (by decide)
      (subscribed_before (by decide)) (by decide)
  obtain ⟨⟨w, reach, logged⟩, ⟨w', reach', logged'⟩⟩ := twoPuts_reachable
  exact ⟨⟨w, reach, logged, first (logged ▸ puts_delivered.1 1 w reach)⟩,
    ⟨w', reach', logged', first (logged' ▸ puts_delivered.2 1 w' reach')⟩⟩

/-- In the two-PUT log, which both sessions reach, the first PUT's frame is written before the
second's. -/
theorem puts_in_order_two_puts :
    (∃ w : ListenerWorld, ListenerWorld.Reachable 1 w ∧ w.env.log = twoPuts ∧
      ∃ frame1, Event.write frame1 (some (0, ⟨[1], 1⟩)) ∈ twoPuts.dropLast) ∧
    ∃ w : SocketWorld, SocketWorld.Reachable 1 w ∧ w.env.log = twoPuts ∧
      ∃ frame1, Event.write frame1 (some (0, ⟨[1], 1⟩)) ∈ twoPuts.dropLast := by
  have first : PutsInOrder twoPuts →
      ∃ frame1, Event.write frame1 (some (0, ⟨[1], 1⟩)) ∈ twoPuts.dropLast := fun ordered =>
    ordered 0 1 2 zeroHex (watchFrame zeroBox [2]) ⟨[1], 1⟩ ⟨[2], 2⟩ _ [] (by decide)
      (subscribed_before (by decide))
      (fun L M split => forall_append_cons_of_getElem (· = .ret 1) (.unsubscribe 0 ∉ ·)
        (by decide) L _ M split rfl)
      (fun L ps b M split => forall_append_cons_of_getElem
        (fun e => (match e with | .start r _ _ => r == 2 | _ => false) = true) (.ret 1 ∈ ·)
        (by decide) L _ M split rfl)
      (by decide) rfl rfl
  obtain ⟨⟨w, reach, logged⟩, ⟨w', reach', logged'⟩⟩ := twoPuts_reachable
  exact ⟨⟨w, reach, logged, first (logged ▸ puts_in_order.1 1 w reach)⟩,
    ⟨w', reach', logged', first (logged' ▸ puts_in_order.2 1 w' reach')⟩⟩

/-- Nothing is in flight around the listener: every publication is over, the session's
queues are empty, and none of its goroutines holds a package. -/
def ListenerWorld.Quiescent (w : ListenerWorld) : Prop :=
  (∀ p ∈ w.env.pubs, p.todo = [] ∧ p.current = none) ∧
    (∀ s ∈ w.env.bus, s.mine = true → s.queue = []) ∧
    (w.pl.reader = .reading ∨ w.pl.reader = .exited) ∧
    (w.pl.writer = .waiting ∨ w.pl.writer = .exited) ∧
    ∀ fwd ∈ w.pl.fwds, fwd.pc = .selecting ∨ fwd.pc = .exited

instance (w : ListenerWorld) : Decidable w.Quiescent :=
  inferInstanceAs (Decidable ((∀ p ∈ w.env.pubs, p.todo = [] ∧ p.current = none) ∧
    (∀ s ∈ w.env.bus, s.mine = true → s.queue = []) ∧
    (w.pl.reader = .reading ∨ w.pl.reader = .exited) ∧
    (w.pl.writer = .waiting ∨ w.pl.writer = .exited) ∧
    ∀ fwd ∈ w.pl.fwds, fwd.pc = .selecting ∨ fwd.pc = .exited))

/-- For every capacity, a quiescent listener world whose last frame for the zero box carries `[5]`
while the bucket holds `[6]`: the picked-up package went into the queue behind a racing PUT's
publication. -/
theorem listener_stale_pickup_last (cap : Nat) : ∃ w : ListenerWorld, w.Reachable (cap + 2) ∧
    w.Quiescent ∧
    w.env.log = [.subscribe 0 zeroHex, .watch zeroBox, .start 1 [(zeroHex, ⟨[6], 1⟩)] true,
      .publish 1 zeroHex ⟨[6], 1⟩ [0], .enqueue 0 ⟨[6], 1⟩, .ret 1, .enqueue 0 ⟨[5], 0⟩,
      .write (watchFrame zeroBox [6]) (some (0, ⟨[6], 1⟩)),
      .write (watchFrame zeroBox [5]) (some (0, ⟨[5], 0⟩))] ∧
    w.env.store zeroBox = some [6] :=
  ListenerWorld.exists_reachable_of_run 2 (by omega) (Bucket.empty.put zeroBox [5])
    [.read (some (1 :: zeroBox)), .pickUp,
      .env (.put zeroHex (.ok [6]) (.ok ())), .env (.pub 0), .env (.deliver 0), .env (.finish 0),
      .pickupSent, .fwdReceive 0, .writerReceive 0, .write true,
      .fwdReceive 0, .writerReceive 0, .write true]
    (by decide)

end Oscar
