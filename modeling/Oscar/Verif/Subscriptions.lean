import Oscar.DropBoxes.PackageListener
import Oscar.Sockets.SocketServer

/-! # What a session's subscriptions become

`Env.Live env s` says queue `s` is the session's and has not been unsubscribed. The
server's steps, and the session's sends and receives, keep the open queues open and open no
other (`Env.step_live_iff`, `Env.send_live_iff`, `Env.receive_live_iff`); only the session's
`Sub` opens one and its `Unsub` closes one.

The package listener's `ignore` closes the subscription reader's `closed` channel, which no
goroutine reads: its forwarder selects on `pl.closed`. An IGNORE therefore forgets the
subscription but leaves it on the bus with its forwarder running
(`Listener.ignore_keeps_subscription`), so a package published after the IGNORE is still
written (`listener_writes_after_ignore`), and a WATCH after it gives the box a second live
subscription (`listener_rewatch_two_forwarders`).

The socket server's `start` never runs `stop`. No step of the session closes its connection
or drops its subscription to `messagesPubSub` (`SocketWorld.Reachable.conn_open`), and a
session whose goroutines have all returned still holds its drop box subscriptions
(`socket_session_keeps_subscriptions`).
-/

namespace Oscar

open PubSub

/-- The box id of sixteen zero bytes. -/
def zeroBox : List UInt8 := List.replicate 16 0

/-- Its topic, `hex.EncodeToString(zeroBox)`. -/
def zeroHex : List UInt8 := Hex.encodeToString zeroBox

/-! ## The session's open queues -/

/-- `s` is an open queue of the session. -/
def Env.Live (env : Env) (s : Nat) : Prop :=
  ∃ sub : Subscription (List UInt8) Item, env.bus[s]? = some sub ∧ sub.live = true ∧ sub.mine = true

/-- A change of a subscription that keeps whether queue `s` is an open queue of the session. -/
theorem Env.live_modify_iff {env env' : Env} {s i : Nat}
    {change : Subscription (List UInt8) Item → Subscription (List UInt8) Item}
    (bus : env'.bus = PubSub.modify env.bus i change)
    (keeps : i = s → ∀ sub, env.bus[i]? = some sub →
      ((change sub).live && (change sub).mine) = (sub.live && sub.mine)) :
    env'.Live s ↔ env.Live s := by
  simp only [Env.Live, bus, getElem?_modify]
  split_ifs with same
  · subst same
    cases found : env.bus[i]? with
    | none => simp
    | some sub => simpa [← Bool.and_eq_true] using keeps rfl sub found
  · rfl

/-- A new subscription is an open queue of the session exactly when it is the session's. -/
theorem Env.live_subscribe_iff {env env' : Env} {s : Nat} {topic : List UInt8} {mine : Bool}
    (bus : env'.bus = PubSub.subscribe env.bus topic mine) :
    env'.Live s ↔ env.Live s ∨ s = env.bus.length ∧ mine = true := by
  simp only [Env.Live, bus, getElem?_subscribe]
  split_ifs with new
  · subst new
    simp [List.getElem?_eq_none_iff.mpr (le_refl _)]
  · simp [new]

/-- The queue the session's `Sub` adds is open and the session's. -/
theorem Env.live_sub (env : Env) (topic : List UInt8) : (env.sub topic).Live env.bus.length :=
  (Env.live_subscribe_iff rfl).mpr (.inr ⟨rfl, rfl⟩)

/-- An `Unsub` closes its queue and no other. -/
theorem Env.live_unsub_iff {env : Env} {i s : Nat} :
    (env.unsub i).Live s ↔ env.Live s ∧ s ≠ i := by
  simp only [Env.Live, Env.unsub, unsubscribe, getElem?_modify]
  split_ifs with same
  · subst same
    cases env.bus[i]? <;> simp
  · simp [Ne.symm same]

/-- The server's steps keep the session's open queues, and open no other. -/
theorem Env.step_live_iff {cap : Nat} {env env' : Env} {s : Nat} {act : EnvAct}
    (stepped : env.step cap act = some env') : env'.Live s ↔ env.Live s := by
  cases Env.step_eq_some stepped with
  | put | send | pub | deliverGone | deliverClosed | finish => rfl
  | deliver | otherRecv => exact Env.live_modify_iff rfl fun _ _ _ => rfl
  | otherSub => exact (Env.live_subscribe_iff rfl).trans (by simp)
  | otherUnsub found other =>
    refine Env.live_modify_iff rfl fun _ sub found' => ?_
    cases found.symm.trans found'
    simp [other]

/-- A receive keeps the session's open queues, and opens no other. -/
theorem Env.receive_live_iff {env env' : Env} {i s : Nat} {got : Received Item}
    (received : env.receive i = some (got, env')) : env'.Live s ↔ env.Live s :=
  Env.live_modify_iff (Env.receive_bus received) fun _ _ _ => rfl

/-- A send keeps the session's open queues, and opens no other. -/
theorem Env.send_live_iff {env env' : Env} {cap i s : Nat} {x : Item}
    (sent : env.send cap i x = some (.ok env')) : env'.Live s ↔ env.Live s := by
  obtain ⟨-, -, -, -, rfl⟩ := Env.send_eq_ok sent
  exact Env.live_modify_iff rfl fun _ _ _ => rfl

/-- A send on an open queue of the session does not panic. -/
theorem Env.Live.send_ne_error {env : Env} {cap s : Nat} {x : Item} {p : Panic} (live : env.Live s) :
    env.send cap s x ≠ some (.error p) := by
  obtain ⟨sub, found, open_, -⟩ := live
  simp only [Env.send, found, open_, Bool.not_true, Bool.false_eq_true, if_false]
  split_ifs <;> simp

/-- An open queue of the session never gives nil. -/
theorem Env.Live.receive_ne_closed {env env' : Env} {s : Nat} (live : env.Live s) :
    env.receive s ≠ some (.closed, env') := fun received => by
  obtain ⟨_, closed, ⟨⟩⟩ := Option.map_eq_some'.mp received
  obtain ⟨sub, found, -, shut⟩ := receive_eq_closed closed
  obtain ⟨sub', found', open_, -⟩ := live
  cases found.symm.trans found'
  simp [open_] at shut

/-! ## The package listener's IGNORE -/

/-- `ignore` changes neither the bus nor the forwarders. -/
theorem Listener.ignore_keeps_subscription {env env' : Env} {pl pl' : Listener}
    {boxID : List UInt8} (ignored : pl.ignore env boxID = .ok (env', pl')) :
    env'.bus = env.bus ∧ pl'.fwds = pl.fwds := by
  unfold Listener.ignore at ignored
  dsimp only at ignored
  split_ifs at ignored
  · cases ignored; exact ⟨rfl, rfl⟩
  · split at ignored
    · cases ignored; exact ⟨rfl, rfl⟩
    · split_ifs at ignored
      cases ignored
      exact ⟨rfl, rfl⟩

/-- For every capacity, the listener writes the frame of a package published after the client's
IGNORE of its box. -/
theorem listener_writes_after_ignore (cap : Nat) : ∃ w : ListenerWorld, w.Reachable (cap + 1) ∧
    w.env.log = [.subscribe 0 zeroHex, .watch zeroBox, .ignore zeroBox,
      .start 1 [(zeroHex, ⟨[7], 1⟩)] true, .publish 1 zeroHex ⟨[7], 1⟩ [0], .enqueue 0 ⟨[7], 1⟩, .ret 1,
      .write (watchFrame zeroBox [7]) (some (0, ⟨[7], 1⟩))] :=
  ListenerWorld.exists_reachable_of_run 1 (by omega) Bucket.empty
    ([.read (some (1 :: zeroBox)), .pickUp, .read (some (2 :: zeroBox)),
      .env (.put zeroHex (.ok [7]) (.ok ())), .env (.pub 0), .env (.deliver 0), .env (.finish 0),
      .fwdReceive 0, .writerReceive 0, .write true]) (by decide)

/-- For every capacity, WATCH, IGNORE and WATCH of one box leave the listener two open subscriptions
on it, each with a forwarder. -/
theorem listener_rewatch_two_forwarders (cap : Nat) : ∃ w : ListenerWorld, w.Reachable cap ∧
    w.pl.subs = [(zeroHex, 1)] ∧
    w.pl.fwds = [⟨zeroBox, 0, .selecting⟩, ⟨zeroBox, 1, .selecting⟩] ∧
    w.env.bus.map (fun s => (s.topic, s.live)) = [(zeroHex, true), (zeroHex, true)] :=
  ListenerWorld.exists_reachable_of_run 0 (Nat.zero_le cap) Bucket.empty
    ([.read (some (1 :: zeroBox)), .pickUp, .read (some (2 :: zeroBox)),
      .read (some (1 :: zeroBox)), .pickUp]) (by decide)

/-! ## The socket server never stops -/

namespace SocketServer

/-- No step of the session closes its connection or drops its message subscription. -/
theorem step_conn {cap : Nat} {env env' : Env} {ss ss' : SocketServer} {act : SocketAct}
    (stepped : ss.step cap env act = some (.ok (env', ss'))) :
    ss'.connClosed = ss.connClosed ∧ ss'.messagesLive = ss.messagesLive := by
  cases step_eq_some stepped with
  | read _ dispatched =>
    rw [(dispatch_eq dispatched).1]
    exact ⟨rfl, rfl⟩
  | _ => exact ⟨rfl, rfl⟩

end SocketServer

/-- In every reachable world the socket server's connection is open and its message
subscription live. -/
theorem SocketWorld.Reachable.conn_open {cap : Nat} {w : SocketWorld} (reach : w.Reachable cap) :
    w.ss.connClosed = false ∧ w.ss.messagesLive = true := by
  induction reach with
  | init => exact ⟨rfl, rfl⟩
  | step act _ stepped still =>
    obtain ⟨-, ⟨_, -, rfl⟩ | ⟨env', ss', sessionStepped, rfl⟩⟩ := SocketWorld.step_eq_some stepped
    · exact still
    · obtain ⟨conn, messages⟩ := SocketServer.step_conn sessionStepped
      exact ⟨conn.trans still.1, messages.trans still.2⟩

/-- For every capacity, a socket session whose goroutines have all returned still holds an open
subscription, and its connection stays open. -/
theorem socket_session_keeps_subscriptions (cap : Nat) : ∃ w : SocketWorld, w.Reachable cap ∧
    (w.ss.reader = .exited ∧ w.ss.writer = .exited ∧ w.ss.fwds.all (·.pc = .exited)) ∧
    w.env.bus.map (fun s => (s.topic, s.live)) = [(zeroHex, true)] ∧
    w.ss.messagesLive = true ∧ w.ss.connClosed = false := by
  obtain ⟨w, reach, exited, bus⟩ := SocketWorld.exists_reachable_of_run 0 (Nat.zero_le cap)
    Bucket.empty (P := fun w : SocketWorld =>
      (w.ss.reader = .exited ∧ w.ss.writer = .exited ∧ w.ss.fwds.all (·.pc = .exited)) ∧
        w.env.bus.map (fun s => (s.topic, s.live)) = [(zeroHex, true)])
    ([.read (some (1 :: zeroBox)), .pickUp false, .read none, .fwdClosed 0, .writerClosed])
    (by decide)
  exact ⟨w, reach, exited, bus, reach.conn_open.2, reach.conn_open.1⟩

end Oscar
