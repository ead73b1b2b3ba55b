import Oscar.Verif.ListenerFifo
import Oscar.Verif.Subscriptions

/-! # Where the sessions can panic

A Go program panics when it closes a channel twice or sends on a closed one.

The package listener never does. It could panic by closing a channel twice: `pl.closed` (a second read error), a
subscription reader's `closed` (an IGNORE of a box ignored already, or `stop` closing a
channel an IGNORE closed) or `pl.pkgs` (a second `stop`); or by sending on a closed channel:
`pl.pkgs`, or the queue `watch` fills. None of these happens (`Listener.Safe`): `pl.closed` is
closed by the reader as it returns; the readers `pl.subs` records are distinct fresh queues,
none closed while `stop` has not woken; `pl.pkgs` is closed by `stop` once every forwarder
returned, and no forwarder starts after; and the queue `watch` fills stays open, since only
its own forwarder, not yet started, would take it off. Every step keeps this and panics in no
state that has it (`Listener.step_safe`), so no reachable world has panicked
(`listener_never_panics`).

The socket server does, after an IGNORE: `ignoreBox` closes the queue, and its forwarder
then closes `ss.pkgs`, which a second forwarder closes again or sends on. Nothing else can:
only `ignoreBox` takes a queue of the session off the bus, so while the client sends no
IGNORE every queue of the session stays open, no forwarder finds its queue closed and
`ss.pkgs` stays open (`SocketServer.Calm`), and no run panics
(`socket_never_panics_without_ignore`).
-/

namespace Oscar

open PubSub

/-- What keeps the listener from panicking. -/
structure Listener.Safe (env : Env) (pl : Listener) : Prop where
  reading : pl.closed = true → pl.reader = .exited
  stopping : pl.stopper ≠ .waitingClosed → pl.closed = true
  pkgs : pl.pkgsClosed = true ↔ pl.stopper = .exited
  drained : pl.stopper = .exited → ∀ fwd ∈ pl.fwds, fwd.pc = .exited
  nodup : (pl.subs.map (·.2)).Nodup
  subs : ∀ b ∈ pl.subs, b.2 < env.bus.length
  srClosed : ∀ s ∈ pl.srClosed, s < env.bus.length
  unclosed : pl.stopper = .waitingClosed → ∀ b ∈ pl.subs, b.2 ∉ pl.srClosed
  filling : ∀ boxID s, (pl.reader = .pickingUp boxID s ∨ ∃ x, pl.reader = .sending boxID s x) →
    env.Live s

namespace Listener

/-- The listener `start` builds is safe. -/
theorem Safe.start (store : Bucket) : Listener.start.Safe (Env.init store) where
  reading closed := by cases closed
  stopping waiting := absurd rfl waiting
  pkgs := by simp [Listener.start]
  drained _ _ mem := absurd mem (List.not_mem_nil _)
  nodup := List.nodup_nil
  subs _ mem := absurd mem (List.not_mem_nil _)
  srClosed _ mem := absurd mem (List.not_mem_nil _)
  unclosed _ _ mem := absurd mem (List.not_mem_nil _)
  filling _ _ reading := by simp [Listener.start] at reading

/-- While the reader runs, `stop` waits for `pl.closed`. -/
theorem Safe.waiting {env : Env} {pl : Listener} (safe : pl.Safe env) (running : pl.reader ≠ .exited) :
    pl.stopper = .waitingClosed :=
  Classical.byContradiction fun woken => running (safe.reading (safe.stopping woken))

/-- While the reader runs, `closed` is open. -/
theorem Safe.not_closed {env : Env} {pl : Listener} (safe : pl.Safe env) (running : pl.reader ≠ .exited) :
    pl.closed = false :=
  Bool.eq_false_iff.mpr fun closed => running (safe.reading closed)

/-- Until the stopper returns, `pl.pkgs` is open. -/
theorem Safe.pkgs_unclosed {env : Env} {pl : Listener} (safe : pl.Safe env)
    (running : pl.stopper ≠ .exited) : pl.pkgsClosed = false :=
  Bool.eq_false_iff.mpr fun closed => running (safe.pkgs.mp closed)

/-- While a forwarder has not returned, `pl.pkgs` is open. -/
theorem Safe.pkgs_open {env : Env} {pl : Listener} (safe : pl.Safe env) {fwd : Forwarder}
    (mem : fwd ∈ pl.fwds) (running : fwd.pc ≠ .exited) : pl.pkgsClosed = false :=
  safe.pkgs_unclosed fun exited => running (safe.drained exited fwd mem)

/-- A step that keeps the subscription readers and the program points `Safe` reads, with the
bus no shorter and the queue the reader fills still open. -/
theorem Safe.of_env {env env' : Env} {pl : Listener} (safe : pl.Safe env)
    (grows : env.bus.length ≤ env'.bus.length)
    (filling : ∀ s, env.Live s → (∀ fwd ∈ pl.fwds, fwd.sub ≠ s) → env'.Live s)
    (pipe : pl.pipeline.Inv env) : pl.Safe env' :=
  { safe with
    subs := fun b mem => Nat.lt_of_lt_of_le (safe.subs b mem) grows
    srClosed := fun s mem => Nat.lt_of_lt_of_le (safe.srClosed s mem) grows
    filling := fun boxID s reading =>
      filling s (safe.filling boxID s reading) (pipe.reader boxID s reading).2 }

/-- Forwarder `i` moving, with the reader as it was and `pl.pkgs` open. -/
theorem Safe.setFwd {env : Env} {pl : Listener} (safe : pl.Safe env) {i : Nat} {fwd : Forwarder}
    (found : pl.fwds[i]? = some fwd) (running : fwd.pc ≠ .exited) (pc : ForwarderPc) :
    (pl.setFwd i fwd pc).Safe env :=
  have opened := safe.pkgs_open (List.mem_iff_getElem?.mpr ⟨i, found⟩) running
  { safe with
    drained := fun exited => absurd (safe.pkgs.mpr exited) (by simp [Listener.setFwd, opened]) }

/-- The reader handing its queue to a new forwarder, on a bus no shorter. -/
theorem Safe.spawn {env env' : Env} {pl : Listener} (safe : pl.Safe env) (running : pl.reader ≠ .exited)
    (grows : env.bus.length ≤ env'.bus.length) (boxID : List UInt8) (s : Nat) :
    (pl.spawn boxID s).Safe env' :=
  { safe with
    reading := fun closed => absurd closed (by simp [Listener.spawn, safe.not_closed running])
    drained := fun exited => absurd (safe.waiting running ▸ exited) StopPc.noConfusion
    subs := fun b mem => Nat.lt_of_lt_of_le (safe.subs b mem) grows
    srClosed := fun s mem => Nat.lt_of_lt_of_le (safe.srClosed s mem) grows
    filling := fun _ _ filling => by simp [Listener.spawn] at filling }

/-- Forwarder `i` returning, after taking its queue off the bus. -/
theorem Safe.retire {env : Env} {pl : Listener} (safe : pl.Safe env) (pipe : pl.pipeline.Inv env)
    {i : Nat} {fwd : Forwarder} (found : pl.fwds[i]? = some fwd) :
    (pl.setFwd i fwd .exited).Safe (env.unsub fwd.sub) := by
  have mem := List.mem_iff_getElem?.mpr ⟨i, found⟩
  refine { (safe.of_env (by simp [Env.unsub]) (fun s live apart =>
    (Env.live_modify_iff rfl fun same => absurd same (apart fwd mem)).mpr live) pipe)
    with drained := ?_ }
  intro exited fwd' mem'
  rcases List.mem_or_eq_of_mem_set mem' with old | rfl
  · exact safe.drained exited fwd' old
  · rfl

/-- `watch` subscribing: the new reader has a fresh queue, open and the session's. -/
theorem Safe.watch {env : Env} {pl : Listener} (safe : pl.Safe env) (reading : pl.reader = .reading)
    (topic boxID : List UInt8) :
    ({ pl with
      subs := pl.subs ++ [(topic, env.bus.length)]
      reader := .pickingUp boxID env.bus.length } : Listener).Safe
        ((env.sub topic).note (.watch boxID)) := by
  have closed := safe.not_closed (by simp [reading])
  refine { safe with
    reading := ?_
    nodup := ?_
    subs := ?_
    srClosed := ?_
    unclosed := ?_
    filling := ?_ }
  · intro closed'
    simp [closed] at closed'
  · simp only [List.map_append, List.map_singleton]
    exact safe.nodup.append (List.nodup_singleton _) fun s listed same => by
      obtain ⟨b, mem, rfl⟩ := List.mem_map.mp listed
      exact (safe.subs b mem).ne (List.mem_singleton.mp same)
  · intro b mem
    rcases List.mem_append.mp mem with old | new
    · simpa [Env.note, Env.sub] using Nat.lt_succ_of_lt (safe.subs b old)
    · simp [List.mem_singleton.mp new, Env.note, Env.sub]
  · intro s mem
    simpa [Env.note, Env.sub] using Nat.lt_succ_of_lt (safe.srClosed s mem)
  · intro waiting b mem
    rcases List.mem_append.mp mem with old | new
    · exact safe.unclosed waiting b old
    · rw [List.mem_singleton.mp new]
      exact fun closed => (safe.srClosed _ closed).false
  · rintro _ s (picking | ⟨_, sending⟩)
    · cases picking
      exact Env.live_sub env topic
    · cases sending

/-- `ignore` closes a reader's `closed` channel only if it is open, and forgets it. -/
theorem Safe.ignore {env : Env} {pl : Listener} (safe : pl.Safe env) (reading : pl.reader = .reading)
    (boxID : List UInt8) : ∃ env' pl', pl.ignore env boxID = .ok (env', pl') ∧ pl'.Safe env' := by
  unfold Listener.ignore
  dsimp only
  split_ifs
  · exact ⟨_, _, rfl, safe⟩
  split
  · exact ⟨_, _, rfl, safe⟩
  rename_i sub found
  have mem : (Hex.encodeToString boxID, sub) ∈ pl.subs :=
    (List.lookup_eq_some_iff.mp found).elim fun _ ⟨_, split, _⟩ => by rw [split]; simp
  have waiting := safe.waiting (by simp [reading])
  rw [if_neg (safe.unclosed waiting _ mem)]
  refine ⟨_, _, rfl, { safe with
    nodup := safe.nodup.sublist ((List.filter_sublist _).map _)
    subs := fun b kept => safe.subs b (List.mem_of_mem_filter kept)
    srClosed := ?_
    unclosed := ?_
    filling := ?_ }⟩
  · intro s closed
    rcases List.mem_cons.mp closed with rfl | old
    exacts [safe.subs _ mem, safe.srClosed s old]
  · intro _ b kept closed
    obtain ⟨listed, other⟩ := List.mem_filter.mp kept
    rcases List.mem_cons.mp closed with same | old
    · have := List.inj_on_of_nodup_map safe.nodup (List.mem_of_mem_filter kept) mem same
      simp [this] at other
    · exact safe.unclosed waiting b listed old
  · intro _ _ filling
    simp [reading] at filling

/-- A frame the reader takes panics in no safe state, and keeps it safe. -/
theorem Safe.dispatch {env : Env} {pl : Listener} (safe : pl.Safe env) (reading : pl.reader = .reading)
    (frame : List UInt8) : ∃ env' pl', pl.dispatch env frame = .ok (env', pl') ∧ pl'.Safe env' := by
  unfold Listener.dispatch
  split
  · unfold Listener.watch
    dsimp only
    split_ifs
    · exact ⟨_, _, rfl, safe⟩
    split
    · exact ⟨_, _, rfl, safe⟩
    · exact ⟨_, _, rfl, safe.watch reading _ _⟩
  · exact safe.ignore reading _
  · exact ⟨_, _, rfl, safe⟩

/-- No step of the listener panics in a safe state, and every step keeps it safe. -/
theorem step_safe {cap : Nat} {env : Env} {pl : Listener} (safe : pl.Safe env)
    (pipe : pl.pipeline.Inv env) {act : ListenerAct} {result : Except Panic (Env × Listener)}
    (stepped : pl.step cap env act = some result) :
    ∃ env' pl', result = .ok (env', pl') ∧ pl'.Safe env' := by
  cases step_eq_some stepped with
  | env envStepped =>
    exact ⟨_, pl, rfl, safe.of_env (Env.step_frame envStepped).grows
      (fun _ live _ => (Env.step_live_iff envStepped).mpr live) pipe⟩
  | read reading dispatched =>
    rw [← dispatched]
    exact safe.dispatch reading _
  | readEnd =>
    exact ⟨_, _, rfl, { safe with
      reading := fun _ => rfl
      stopping := fun _ => rfl
      filling := fun _ _ filling => by simp at filling }⟩
  | readEndClosed reading closed => cases reading.symm.trans (safe.reading closed)
  | pickUpEmpty picking => exact ⟨_, _, rfl, safe.spawn (by simp [picking]) le_rfl _ _⟩
  | pickUp picking =>
    refine ⟨_, _, rfl, { safe with
      reading := fun closed => absurd closed (by simp [safe.not_closed (by simp [picking])])
      filling := fun boxID' s' filling => ?_ }⟩
    rcases filling with filling | ⟨_, filling⟩ <;> cases filling
    exact safe.filling _ _ (.inl picking)
  | pickupSent sending sent =>
    exact ⟨_, _, rfl, safe.spawn (by simp [sending]) (Env.Frame.send sent).grows _ _⟩
  | pickupSentClosed sending sent =>
    cases (safe.filling _ _ (.inr ⟨_, sending⟩)).send_ne_error sent
  | fwdClosed found => exact ⟨_, _, rfl, safe.retire pipe found⟩
  | fwdEnd found _ received =>
    rw [Env.receive_closed received]
    exact ⟨_, _, rfl, safe.retire pipe found⟩
  | @fwdReceive _ _ _ env' found selecting received =>
    have grows : env.bus.length ≤ env'.bus.length := by rw [Env.receive_bus received, length_pop]
    exact ⟨_, _, rfl, (safe.of_env grows (fun _ live _ => (Env.receive_live_iff received).mpr live) pipe).setFwd
      found (by simp [selecting]) _⟩
  | fwdSendClosed found sending closed =>
    rw [safe.pkgs_open (List.mem_iff_getElem?.mpr ⟨_, found⟩) (by simp [sending])] at closed
    cases closed
  | writerReceive found sending =>
    exact ⟨_, _, rfl, { safe.setFwd found (by simp [sending]) .selecting with }⟩
  | writerEnd | write | writeFails => exact ⟨_, _, rfl, { safe with }⟩
  | stopWake ready closed =>
    have unpacked := safe.pkgs_unclosed (by simp [ready])
    exact ⟨_, _, rfl, { safe with
      stopping := fun _ => closed
      pkgs := by simp [unpacked]
      drained := fun exited => by cases exited
      srClosed := fun s mem => by
        rcases List.mem_append.mp mem with reader | old
        · obtain ⟨b, listed, rfl⟩ := List.mem_map.mp reader
          exact safe.subs b listed
        · exact safe.srClosed s old
      unclosed := fun waiting => by cases waiting }⟩
  | stopWakeClosed ready _ twice =>
    have fresh : (pl.subs.map (·.2)).any (· ∈ pl.srClosed) = false :=
      List.any_eq_false.mpr fun s listed closed => by
        obtain ⟨b, mem, rfl⟩ := List.mem_map.mp listed
        exact safe.unclosed ready b mem (by simpa using closed)
    simp [fresh, safe.nodup] at twice
  | stopFinish ready drained =>
    exact ⟨_, _, rfl, { safe with
      stopping := fun _ => safe.stopping (by simp [ready])
      pkgs := by simp
      drained := fun _ fwd mem => by simpa using List.all_eq_true.mp drained fwd mem
      unclosed := fun waiting => by cases waiting }⟩
  | stopFinishClosed ready _ closed => cases ready.symm.trans (safe.pkgs.mp closed)

end Listener

namespace ListenerWorld

/-- Every reachable world has not panicked, and its listener is safe and keeps its pipeline's
invariant. -/
theorem Reachable.safe {cap : Nat} {w : ListenerWorld} (reach : Reachable cap w) :
    w.panic = none ∧ w.pl.Safe w.env ∧ w.pl.pipeline.Inv w.env := by
  induction reach with
  | init store => exact ⟨rfl, Listener.Safe.start store, Pipeline.Inv.start store⟩
  | step act _ stepped ih =>
    obtain ⟨calm, safe, pipe⟩ := ih
    simp only [ListenerWorld.step, calm, Option.isSome_none, Bool.false_eq_true, if_false] at stepped
    obtain ⟨result, sessionStepped, rfl⟩ := Option.map_eq_some'.mp stepped
    obtain ⟨env', pl', rfl, safe'⟩ := Listener.step_safe safe pipe sessionStepped
    exact ⟨rfl, safe', Listener.step_inv pipe sessionStepped⟩

end ListenerWorld

/-- No run of the package listener panics. -/
theorem listener_never_panics (cap : Nat) (w : ListenerWorld) (reach : ListenerWorld.Reachable cap w) :
    w.panic = none :=
  reach.safe.1

/-- The listener watches a box, ignores it, watches it again and stops: `stop` closes only the
second reader, and nothing panics. -/
theorem listener_stops_after_ignore : ∃ w : ListenerWorld, w.Reachable 0 ∧
    w.pl.srClosed = [1, 0] ∧ w.pl.stopper = .exited ∧ w.panic = none :=
  let ⟨w, reach, closed, stopped⟩ := ListenerWorld.exists_reachable_of_run 0 le_rfl Bucket.empty
    (P := fun w => w.pl.srClosed = [1, 0] ∧ w.pl.stopper = .exited)
    ([.read (some (1 :: zeroBox)), .pickUp, .read (some (2 :: zeroBox)),
      .read (some (1 :: zeroBox)), .pickUp, .read none, .stopWake,
      .fwdClosed 0, .fwdClosed 1, .stopFinish])
    (by decide)
  ⟨w, reach, closed, stopped, listener_never_panics 0 w reach⟩

/-! ## The socket server without IGNORE -/

/-- The reader takes an IGNORE frame. -/
def SocketAct.ignores : SocketAct → Bool
  | .read (some (2 :: _)) => true
  | _ => false

namespace SocketServer

/-- What keeps a socket server whose client sends no IGNORE from panicking: `ss.closed` is
closed by the reader as it returns, `ss.pkgs` is open, and the queues of the forwarders and
the one the reader fills are open. -/
structure Calm (env : Env) (ss : SocketServer) : Prop where
  reading : ss.closed = true → ss.reader = .exited
  pkgs : ss.pkgsClosed = false
  fwds : ∀ fwd ∈ ss.fwds, env.Live fwd.sub
  filling : ∀ boxID s, (ss.reader = .pickingUp boxID s ∨ ∃ x, ss.reader = .sending boxID s x) →
    env.Live s

/-- The socket server `start` builds is calm. -/
theorem Calm.start (store : Bucket) : SocketServer.start.Calm (Env.init store) where
  reading closed := by cases closed
  pkgs := rfl
  fwds _ mem := absurd mem (List.not_mem_nil _)
  filling _ _ reading := by simp [SocketServer.start] at reading

/-- While the reader runs, `ss.closed` is open. -/
theorem Calm.not_closed {env : Env} {ss : SocketServer} (calm : ss.Calm env)
    (running : ss.reader ≠ .exited) : ss.closed = false :=
  Bool.eq_false_iff.mpr fun closed => running (calm.reading closed)

/-- A step that keeps the session's open queues open. -/
theorem Calm.of_env {env env' : Env} {ss : SocketServer} (calm : ss.Calm env)
    (keeps : ∀ s, env.Live s → env'.Live s) : ss.Calm env' :=
  { calm with
    fwds := fun fwd mem => keeps _ (calm.fwds fwd mem)
    filling := fun boxID s reading => keeps s (calm.filling boxID s reading) }

/-- Forwarder `i` moving. -/
theorem Calm.setFwd {env : Env} {ss : SocketServer} (calm : ss.Calm env) {i : Nat} {fwd : Forwarder}
    (found : ss.fwds[i]? = some fwd) (pc : ForwarderPc) : (ss.setFwd i fwd pc).Calm env :=
  { calm with
    fwds := fun fwd' mem => by
      rcases List.mem_or_eq_of_mem_set mem with old | rfl
      exacts [calm.fwds fwd' old, calm.fwds fwd (List.mem_iff_getElem?.mpr ⟨i, found⟩)] }

/-- The reader handing its queue, open, to a new forwarder. -/
theorem Calm.spawn {env : Env} {ss : SocketServer} (calm : ss.Calm env)
    (running : ss.reader ≠ .exited) {boxID : List UInt8} {s : Nat} (live : env.Live s) :
    (ss.spawn boxID s).Calm env :=
  { calm with
    reading := fun closed => absurd closed (by simp [SocketServer.spawn, calm.not_closed running])
    fwds := fun fwd mem => by
      rcases List.mem_append.mp mem with old | new
      · exact calm.fwds fwd old
      · rw [List.mem_singleton.mp new]
        exact live
    filling := fun _ _ filling => by simp [SocketServer.spawn] at filling }

/-- A frame other than IGNORE keeps the socket server calm. -/
theorem Calm.dispatch {env : Env} {ss : SocketServer} (calm : ss.Calm env)
    (reading : ss.reader = .reading) {frame : List UInt8}
    (quiet : (SocketAct.read (some frame)).ignores = false) :
    (ss.dispatch env frame).2.Calm (ss.dispatch env frame).1 := by
  have closed := calm.not_closed (by simp [reading])
  unfold SocketServer.dispatch
  split
  · unfold SocketServer.watchBox
    dsimp only
    split_ifs
    · exact calm
    split
    · exact calm
    refine { calm with
      reading := fun closed' => by simp [closed] at closed'
      fwds := fun fwd mem => (Env.live_subscribe_iff rfl).mpr (.inl (calm.fwds fwd mem))
      filling := ?_ }
    rintro _ s (picking | ⟨_, sending⟩)
    · cases picking
      exact Env.live_sub env _
    · cases sending
  · simp [SocketAct.ignores] at quiet
  · exact calm

/-- No step of a calm socket server but an IGNORE panics, and each keeps it calm. -/
theorem step_calm {cap : Nat} {env : Env} {ss : SocketServer} (calm : ss.Calm env)
    {act : SocketAct} {result : Except Panic (Env × SocketServer)} (quiet : act.ignores = false)
    (stepped : ss.step cap env act = some result) :
    ∃ env' ss', result = .ok (env', ss') ∧ ss'.Calm env' := by
  cases step_eq_some stepped with
  | env envStepped => exact ⟨_, ss, rfl, calm.of_env fun _ live => (Env.step_live_iff envStepped).mpr live⟩
  | messageDropped => exact ⟨_, _, rfl, calm⟩
  | message | writerMessage | writerMessagesEnd | writerPackage | writerPackagesEnd | writerClosed
  | write | writeFails => exact ⟨_, _, rfl, { calm with }⟩
  | read reading dispatched =>
    have dispatchedCalm := calm.dispatch reading quiet
    rw [dispatched] at dispatchedCalm
    exact ⟨_, _, rfl, dispatchedCalm⟩
  | readEnd =>
    exact ⟨_, _, rfl, { calm with
      reading := fun _ => rfl
      filling := fun _ _ filling => by simp at filling }⟩
  | readEndClosed reading closed => cases reading.symm.trans (calm.reading closed)
  | pickUpEmpty picking =>
    exact ⟨_, _, rfl, calm.spawn (by simp [picking]) (calm.filling _ _ (.inl picking))⟩
  | pickUp picking =>
    refine ⟨_, _, rfl, { calm with
      reading := fun closed => absurd closed (by simp [calm.not_closed (by simp [picking])])
      filling := fun boxID' s' filling => ?_ }⟩
    rcases filling with filling | ⟨_, filling⟩ <;> cases filling
    exact calm.filling _ _ (.inl picking)
  | pickupSent sending sent =>
    exact ⟨_, _, rfl, (calm.of_env fun _ live => (Env.send_live_iff sent).mpr live).spawn
      (by simp [sending]) ((Env.send_live_iff sent).mpr (calm.filling _ _ (.inr ⟨_, sending⟩)))⟩
  | pickupSentClosed sending sent => cases (calm.filling _ _ (.inr ⟨_, sending⟩)).send_ne_error sent
  | fwdClosed found => exact ⟨_, _, rfl, calm.setFwd found _⟩
  | fwdEnd found _ received | fwdEndClosed found _ received =>
    exact absurd received (calm.fwds _ (List.mem_iff_getElem?.mpr ⟨_, found⟩)).receive_ne_closed
  | fwdReceive found _ received =>
    exact ⟨_, _, rfl, (calm.of_env fun _ live => (Env.receive_live_iff received).mpr live).setFwd found _⟩
  | fwdSend found => exact ⟨_, _, rfl, { calm.setFwd found .selecting with }⟩
  | fwdSendClosed _ _ closed => cases calm.pkgs.symm.trans closed

end SocketServer

/-- A run with no IGNORE from a calm, unpanicked world ends calm and unpanicked. -/
theorem SocketWorld.run_calm {cap : Nat} :
    ∀ {w w' : SocketWorld} {acts : List SocketAct}, w.ss.Calm w.env → w.panic = none →
      (∀ act ∈ acts, act.ignores = false) → w.run cap acts = some w' →
      w'.ss.Calm w'.env ∧ w'.panic = none
  | _, _, [], calm, unpanicked, _, ran => by cases ran; exact ⟨calm, unpanicked⟩
  | w, _, act :: acts, calm, unpanicked, quiet, ran => by
    simp only [run, Option.bind_eq_some] at ran
    obtain ⟨next, stepped, rest⟩ := ran
    simp only [step, unpanicked, Option.isSome_none, Bool.false_eq_true, if_false] at stepped
    obtain ⟨result, sessionStepped, rfl⟩ := Option.map_eq_some'.mp stepped
    obtain ⟨env', ss', rfl, calm'⟩ :=
      SocketServer.step_calm calm (quiet act (List.mem_cons_self _ _)) sessionStepped
    exact run_calm calm' rfl (fun act' mem => quiet act' (List.mem_cons_of_mem _ mem)) rest

/-- A socket server whose client sends no IGNORE never panics. -/
theorem socket_never_panics_without_ignore (cap : Nat) (store : Bucket) (acts : List SocketAct)
    (w : SocketWorld) (quiet : ∀ act ∈ acts, act.ignores = false)
    (ran : (SocketWorld.init store).run cap acts = some w) : w.panic = none :=
  (SocketWorld.run_calm (SocketServer.Calm.start store) rfl quiet ran).2

/-- A session that watches `zeroBox`, relays a PUT to it and loses its client. -/
def quietWatch : List SocketAct :=
  [.read (some (1 :: zeroBox)), .pickUp false,
    .env (.put zeroHex (.ok [1]) (.ok ())), .env (.pub 0), .env (.deliver 0), .env (.finish 0),
    .fwdReceive 0, .fwdSend 0, .writerPackage, .write true, .read none, .fwdClosed 0]

/-- A session that watches the zero box, relays a PUT to it and loses its client writes the PUT's
frame and does not panic. -/
theorem socket_relays_without_ignore :
    ∃ w : SocketWorld, (SocketWorld.init Bucket.empty).run 1 quietWatch = some w ∧
      written 0 w.env.log = [⟨[1], 1⟩] ∧ w.panic = none :=
  ⟨_, rfl, by decide, socket_never_panics_without_ignore 1 Bucket.empty quietWatch _ (by decide) rfl⟩

end Oscar
