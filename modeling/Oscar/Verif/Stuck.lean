import Oscar.Verif.Subscriptions

/-! # Panics and stalls

Two ways a session stops working. The socket server's `ignoreBox` unsubscribes, so the
forwarder of the box reads the closed queue and runs `close(ss.pkgs)`: a second IGNORE closes
the channel again, and a publication on another watched box makes its forwarder send on it
(`socket_ignore_panics`).

The package listener's forwarders send on the unbuffered `pl.pkgs` outside their `select`.
Once `write` has returned on a failed write, a forwarder holding a frame waits for ever, and
`stop` waits for that forwarder: `Listener.Stalled` is kept by every step
(`ListenerWorld.run_stalled`), and a failed write reaches it
(`listener_writer_failure_stalls`).
-/

namespace Oscar

open PubSub

/-- The box id `00…01`. -/
def oneBox : List UInt8 := List.replicate 15 0 ++ [1]

/-- For every capacity, IGNORE panics the socket server: a second IGNORE closes `ss.pkgs` again, and
a forwarder of another box sends on it once closed. -/
theorem socket_ignore_panics (cap : Nat) :
    (∃ w : SocketWorld, w.Reachable cap ∧ w.panic = some .closeOfClosed) ∧
      ∃ w : SocketWorld, w.Reachable (cap + 1) ∧ w.panic = some .sendOnClosed :=
  ⟨SocketWorld.exists_reachable_of_run 0 (Nat.zero_le cap) Bucket.empty
    ([.read (some (1 :: zeroBox)), .pickUp false, .read (some (1 :: oneBox)), .pickUp false,
      .read (some (2 :: zeroBox)), .fwdReceive 0, .read (some (2 :: oneBox)), .fwdReceive 1])
    (by decide),
  SocketWorld.exists_reachable_of_run 1 (by omega) Bucket.empty
    ([.read (some (1 :: zeroBox)), .pickUp false, .read (some (1 :: oneBox)), .pickUp false,
      .read (some (2 :: zeroBox)), .fwdReceive 0,
      .env (.put (Hex.encodeToString oneBox) (.ok [7]) (.ok ())), .env (.pub 0), .env (.deliver 0),
      .env (.finish 0), .fwdReceive 1, .fwdSend 1])
    (by decide)⟩

/-- The listener with its reader and writer returned, `stop` waiting for the forwarders, and
forwarder `i` holding a frame for `pl.pkgs`, which nothing will receive. -/
structure Listener.Stalled (pl : Listener) (i : Nat) : Prop where
  reader : pl.reader = .exited
  writer : pl.writer = .exited
  stopper : pl.stopper = .waitingGroup
  pkgs_open : pl.pkgsClosed = false
  sending : ∃ fwd frame x, pl.fwds[i]? = some fwd ∧ fwd.pc = .sending frame x

namespace Listener

/-- Moving a forwarder other than `i` keeps the stall. -/
theorem Stalled.setFwd {pl : Listener} {i j : Nat} (stalled : pl.Stalled i) {fwd : Forwarder}
    (found : pl.fwds[j]? = some fwd) (selecting : fwd.pc = .selecting) (pc : ForwarderPc) :
    (pl.setFwd j fwd pc).Stalled i := by
  obtain ⟨reader, writer, stopper, pkgs_open, fwd', frame, x, found', sending⟩ := stalled
  have other : j ≠ i := by
    rintro rfl
    rw [found] at found'
    cases found'
    rw [selecting] at sending
    cases sending
  exact ⟨reader, writer, stopper, pkgs_open, fwd', frame, x,
    by simpa [Listener.setFwd, List.getElem?_set_ne other] using found', sending⟩

/-- Every step from a stalled listener succeeds without a panic and keeps the stall. -/
theorem Stalled.step {cap : Nat} {env : Env} {pl : Listener} {i : Nat} (stalled : pl.Stalled i)
    {act : ListenerAct} {result : Except Panic (Env × Listener)}
    (stepped : pl.step cap env act = some result) :
    ∃ env' pl', result = .ok (env', pl') ∧ pl'.Stalled i := by
  have ⟨reader, writer, stopper, pkgs_open, fwd, frame, x, found, sending⟩ := stalled
  cases step_eq_some stepped with
  | env => exact ⟨_, pl, rfl, stalled⟩
  | read reading | readEnd reading | readEndClosed reading | pickUpEmpty reading
  | pickUp reading | pickupSent reading | pickupSentClosed reading => simp [reader] at reading
  | fwdClosed found' selecting | fwdEnd found' selecting | fwdReceive found' selecting =>
    exact ⟨_, _, rfl, stalled.setFwd found' selecting _⟩
  | fwdSendClosed _ _ closed => simp [pkgs_open] at closed
  | writerReceive _ _ waiting | writerEnd waiting | write waiting | writeFails waiting =>
    simp [writer] at waiting
  | stopWake waiting | stopWakeClosed waiting => simp [stopper] at waiting
  | stopFinish _ drained | stopFinishClosed _ drained =>
    have busy := List.all_eq_true.mp drained fwd (List.mem_iff_getElem?.mpr ⟨i, found⟩)
    simp [sending] at busy

end Listener

/-- Whatever runs after a stall, the stalled forwarder and `stop` are still waiting. -/
theorem ListenerWorld.run_stalled {cap i : Nat} :
    ∀ {w w' : ListenerWorld} {acts : List ListenerAct}, w.pl.Stalled i → w.panic = none →
      w.run cap acts = some w' → w'.pl.Stalled i ∧ w'.panic = none
  | _, _, [], stalled, calm, ran => by cases ran; exact ⟨stalled, calm⟩
  | w, _, act :: acts, stalled, calm, ran => by
    simp only [run, Option.bind_eq_some] at ran
    obtain ⟨next, stepped, rest⟩ := ran
    simp only [step, calm, Option.isSome_none, Bool.false_eq_true, if_false] at stepped
    obtain ⟨result, sessionStepped, rfl⟩ := Option.map_eq_some'.mp stepped
    obtain ⟨env', pl', rfl, stalled'⟩ := stalled.step sessionStepped
    exact run_stalled stalled' rfl rest

/-- For every capacity, a failed write stalls the listener: a forwarder is left sending on
`pl.pkgs`, and in every continuation `stop` waits for it. -/
theorem listener_writer_failure_stalls (cap : Nat) : ∃ w : ListenerWorld, w.Reachable (cap + 1) ∧
    w.pl.Stalled 0 ∧ w.panic = none ∧
    ∀ acts w', w.run (cap + 1) acts = some w' → w'.pl.stopper = .waitingGroup ∧
      ∃ fwd frame x, w'.pl.fwds[0]? = some fwd ∧ fwd.pc = .sending frame x := by
  obtain ⟨w, reach, reader, writer, stopper, pkgs_open, sending, calm⟩ :=
    ListenerWorld.exists_reachable_of_run 1 (show 1 ≤ cap + 1 by omega) Bucket.empty
    (P := fun w => w.pl.reader = .exited ∧ w.pl.writer = .exited ∧
      w.pl.stopper = .waitingGroup ∧ w.pl.pkgsClosed = false ∧
      w.pl.fwds[0]? = some ⟨zeroBox, 0, .sending (watchFrame zeroBox [8]) ⟨[8], 2⟩⟩ ∧
      w.panic = none)
    ([.read (some (1 :: zeroBox)), .pickUp,
      .env (.put zeroHex (.ok [7]) (.ok ())), .env (.pub 0), .env (.deliver 0), .env (.finish 0),
      .fwdReceive 0, .writerReceive 0, .write false,
      .env (.put zeroHex (.ok [8]) (.ok ())), .env (.pub 1), .env (.deliver 1), .env (.finish 1),
      .fwdReceive 0, .read none, .stopWake])
    (by decide)
  have stalled : w.pl.Stalled 0 := ⟨reader, writer, stopper, pkgs_open, _, _, _, sending, rfl⟩
  refine ⟨w, reach, stalled, calm, fun acts w' ran => ?_⟩
  have later := (ListenerWorld.run_stalled stalled calm ran).1
  exact ⟨later.stopper, later.sending⟩

end Oscar
