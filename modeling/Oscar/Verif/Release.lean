import Oscar.Verif.Safety

/-! # What the package listener leaves behind

Each forwarder of the package listener defers `dropBoxPubSub.Unsub` of its queue, and `stop`
closes the connection once every forwarder has returned. So every open queue of the session
is the one the reader is filling or that of a forwarder still running, and the connection is
closed once `stop` has returned (`Listener.Holds`). Once `stop` has returned the reader and
every forwarder have too, so the session holds no open queue and its connection is closed
(`listener_releases_on_stop`). The socket server, which never runs `stop`, keeps both
(`socket_session_keeps_subscriptions`).
-/

namespace Oscar

/-- The queue the reader is filling: subscribed, its forwarder not started yet. -/
def ReaderPc.filling : ReaderPc → Option Nat
  | .pickingUp _ s | .sending _ s _ => some s
  | _ => none

/-- Every open queue of the session is the one the reader is filling or that of a forwarder
still running, and the connection is closed once `stop` has returned. -/
structure Listener.Holds (env : Env) (pl : Listener) : Prop where
  queues : ∀ s, env.Live s → pl.reader.filling = some s ∨
    ∃ (i : Nat) (fwd : Forwarder), pl.fwds[i]? = some fwd ∧ fwd.sub = s ∧ fwd.pc ≠ .exited
  conn : pl.stopper = .exited → pl.connClosed = true

namespace Listener.Holds

variable {env env' : Env} {pl pl' : Listener}

/-- A session just started keeps the release invariant: it holds no open queue. -/
theorem start (store : Bucket) : Listener.start.Holds (Env.init store) where
  queues _ open_ := by simp [Env.Live, Env.init] at open_
  conn stopped := by cases stopped

/-- A step that opens no queue of the session and leaves the queue the reader fills, the
forwarders, `stop` and the connection alone. -/
theorem frame (holds : pl.Holds env) (live : ∀ s, env'.Live s → env.Live s)
    (reader : pl'.reader.filling = pl.reader.filling) (fwds : pl'.fwds = pl.fwds)
    (stopper : pl'.stopper = pl.stopper) (conn : pl'.connClosed = pl.connClosed) :
    pl'.Holds env' where
  queues s open_ := by rw [reader, fwds]; exact holds.queues s (live s open_)
  conn stopped := conn ▸ holds.conn (stopper ▸ stopped)

/-- Forwarder `i` moving on, still running. -/
theorem setFwd (holds : pl.Holds env) {i : Nat} {fwd : Forwarder} (found : pl.fwds[i]? = some fwd)
    {pc : ForwarderPc} (running : pc ≠ .exited) (live : ∀ s, env'.Live s → env.Live s) :
    (pl.setFwd i fwd pc).Holds env' where
  queues s open_ := by
    rcases holds.queues s (live s open_) with filling | ⟨j, fwd', found', sub, running'⟩
    · exact .inl filling
    by_cases same : i = j
    · subst same
      cases found.symm.trans found'
      exact .inr ⟨i, { fwd with pc }, by
        simp [Listener.setFwd, List.getElem?_set, (List.getElem?_eq_some_iff.mp found).1], sub, running⟩
    · exact .inr ⟨j, fwd', by simp [Listener.setFwd, List.getElem?_set_ne same, found'], sub, running'⟩
  conn := holds.conn

/-- Forwarder `i` returning, after its deferred `Unsub`. -/
theorem retire (holds : pl.Holds env) {i : Nat} {fwd : Forwarder} (found : pl.fwds[i]? = some fwd) :
    (pl.setFwd i fwd .exited).Holds (env.unsub fwd.sub) where
  queues s open_ := by
    obtain ⟨open_, other⟩ := Env.live_unsub_iff.mp open_
    rcases holds.queues s open_ with filling | ⟨j, fwd', found', sub, running⟩
    · exact .inl filling
    have same : i ≠ j := by
      rintro rfl
      cases found.symm.trans found'
      exact other sub.symm
    exact .inr ⟨j, fwd', by simp [Listener.setFwd, List.getElem?_set_ne same, found'], sub, running⟩
  conn := holds.conn

/-- The reader starting the forwarder of the queue it filled. -/
theorem spawn (holds : pl.Holds env) {boxID : List UInt8} {s : Nat}
    (filling : pl.reader.filling = some s) (live : ∀ t, env'.Live t → env.Live t) :
    (pl.spawn boxID s).Holds env' where
  queues t open_ := by
    rcases holds.queues t (live t open_) with filling' | ⟨j, fwd, found, sub, running⟩
    · cases filling.symm.trans filling'
      exact .inr ⟨pl.fwds.length, ⟨boxID, s, .selecting⟩, by simp [Listener.spawn], rfl, by simp⟩
    · exact .inr ⟨j, fwd, by
        simp [Listener.spawn, List.getElem?_append_left (List.getElem?_eq_some_iff.mp found).1, found],
        sub, running⟩
  conn := holds.conn

/-- `watch` subscribing: the reader fills the new queue. -/
theorem watch (holds : pl.Holds env) (reading : pl.reader = .reading) (boxID : List UInt8) :
    (pl.watch env boxID).2.Holds (pl.watch env boxID).1 := by
  unfold Listener.watch
  dsimp only
  split_ifs
  · exact holds
  split
  · exact holds
  refine ⟨fun s open_ => ?_, holds.conn⟩
  rcases (Env.live_subscribe_iff rfl).mp open_ with old | ⟨rfl, -⟩
  · rcases holds.queues s old with filling | running
    · simp [reading, ReaderPc.filling] at filling
    · exact .inr running
  · exact .inl rfl

/-- A command the reader takes keeps what the listener holds. -/
theorem dispatch (holds : pl.Holds env) (reading : pl.reader = .reading) {frame : List UInt8}
    (dispatched : pl.dispatch env frame = .ok (env', pl')) : pl'.Holds env' := by
  unfold Listener.dispatch at dispatched
  split at dispatched
  next boxID =>
    have holds := holds.watch reading boxID
    rwa [Except.ok.inj dispatched] at holds
  next boxID =>
    unfold Listener.ignore at dispatched
    dsimp only at dispatched
    split_ifs at dispatched
    · cases dispatched; exact holds
    split at dispatched
    · cases dispatched; exact holds
    split_ifs at dispatched
    cases dispatched
    exact holds.frame (fun _ => id) rfl rfl rfl rfl
  next => cases dispatched; exact holds

end Listener.Holds

/-- Every step of the listener, and of the server around it, keeps what the listener holds. -/
theorem Listener.step_holds {cap : Nat} {env env' : Env} {pl pl' : Listener} {act : ListenerAct}
    (holds : pl.Holds env) (stepped : pl.step cap env act = some (.ok (env', pl'))) :
    pl'.Holds env' := by
  cases step_eq_some stepped with
  | env envStepped => exact holds.frame (fun _ => (Env.step_live_iff envStepped).mp) rfl rfl rfl rfl
  | read reading dispatched => exact holds.dispatch reading dispatched
  | readEnd reading => exact holds.frame (fun _ => id) (by rw [reading]; rfl) rfl rfl rfl
  | pickUpEmpty picking => exact holds.spawn (by rw [picking]; rfl) fun _ => id
  | pickUp picking => exact holds.frame (fun _ => id) (by rw [picking]; rfl) rfl rfl rfl
  | pickupSent sending sent =>
    exact holds.spawn (by rw [sending]; rfl) fun _ => (Env.send_live_iff sent).mp
  | fwdClosed found => exact holds.retire found
  | fwdEnd found _ received =>
    rw [Env.receive_closed received]
    exact holds.retire found
  | fwdReceive found _ received =>
    exact holds.setFwd found (by simp) fun _ => (Env.receive_live_iff received).mp
  | writerReceive found => exact { holds.setFwd found (by simp) fun _ => id with }
  | writerEnd | write | writeFails => exact holds.frame (fun _ => id) rfl rfl rfl rfl
  | stopWake => exact ⟨holds.queues, fun stopped => by cases stopped⟩
  | stopFinish => exact ⟨holds.queues, fun _ => rfl⟩

/-- Every reachable world's listener holds no queue but those of its reader and running
forwarders. -/
theorem ListenerWorld.Reachable.holds {cap : Nat} {w : ListenerWorld} (reach : w.Reachable cap) :
    w.pl.Holds w.env := by
  induction reach with
  | init store => exact .start store
  | step act _ stepped holds =>
    obtain ⟨-, ⟨_, -, rfl⟩ | ⟨env', pl', sessionStepped, rfl⟩⟩ := ListenerWorld.step_eq_some stepped
    · exact holds
    · exact Listener.step_holds holds sessionStepped

/-- Once `stop` has returned, the package listener has let go of everything: its reader and
every forwarder have returned, no queue of the session is open, and its connection is
closed. -/
theorem listener_releases_on_stop {cap : Nat} {w : ListenerWorld} (reach : w.Reachable cap)
    (stopped : w.pl.stopper = .exited) :
    w.pl.reader = .exited ∧ (∀ fwd ∈ w.pl.fwds, fwd.pc = .exited) ∧ (∀ s, ¬w.env.Live s) ∧
      w.pl.connClosed = true := by
  obtain ⟨-, safe, -⟩ := reach.safe
  have holds := reach.holds
  have reader := safe.reading (safe.stopping (by rw [stopped]; decide))
  refine ⟨reader, safe.drained stopped, fun s open_ => ?_, holds.conn stopped⟩
  rcases holds.queues s open_ with filling | ⟨i, fwd, found, -, running⟩
  · simp [reader, ReaderPc.filling] at filling
  · exact running (safe.drained stopped fwd (List.mem_iff_getElem?.mpr ⟨i, found⟩))

/-- WATCH, then the client leaves: the forwarder returns on `pl.closed`, and `stop` returns. -/
theorem listener_releases_after_watch : ∃ w : ListenerWorld, w.Reachable 0 ∧
    w.pl.stopper = .exited ∧ w.pl.fwds.length = 1 ∧
    (w.pl.reader = .exited ∧ (∀ fwd ∈ w.pl.fwds, fwd.pc = .exited) ∧ (∀ s, ¬w.env.Live s) ∧
      w.pl.connClosed = true) :=
  let ⟨w, reach, stopped, one⟩ := ListenerWorld.exists_reachable_of_run 0 le_rfl Bucket.empty
    (P := fun w : ListenerWorld => w.pl.stopper = .exited ∧ w.pl.fwds.length = 1)
    [.read (some (1 :: zeroBox)), .pickUp, .read none, .fwdClosed 0, .stopWake, .stopFinish]
    (by decide)
  ⟨w, reach, stopped, one, listener_releases_on_stop reach stopped⟩

end Oscar
