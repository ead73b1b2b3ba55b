import Oscar.Verif.Pipeline
import Oscar.DropBoxes.PackageListener

/-! # The package listener relays each queue in order

The listener's pipeline is its reader, its writer and its forwarders, with nothing buffered:
`pl.pkgs` is unbuffered, so a forwarder hands its frame to the writer directly. Every step of
the listener and of the server around it keeps the pipeline's invariant
(`Listener.step_inv`), so in every reachable world the frames written from each queue are the
first items put in it, in order (`ListenerWorld.Reachable.fifo`).
-/

namespace Oscar

open PubSub

/-- The listener's reader, writer and forwarders; nothing is buffered on the way. -/
def Listener.pipeline (pl : Listener) : Pipeline := ⟨pl.reader, pl.writer, pl.fwds, []⟩

namespace Listener

/-- A command the reader takes keeps the invariant. -/
theorem dispatch_inv {env env' : Env} {pl pl' : Listener} (inv : pl.pipeline.Inv env)
    {frame : List UInt8} (dispatched : pl.dispatch env frame = .ok (env', pl')) :
    pl'.pipeline.Inv env' := by
  unfold Listener.dispatch at dispatched
  split at dispatched
  · simp only [Listener.watch, Except.ok.injEq] at dispatched
    split_ifs at dispatched
    · cases dispatched; exact inv
    · split at dispatched
      · cases dispatched; exact inv
      · cases dispatched; exact inv.subscribe _ _
  · simp only [Listener.ignore] at dispatched
    split_ifs at dispatched
    · cases dispatched; exact inv
    · split at dispatched
      · cases dispatched; exact inv
      · split_ifs at dispatched
        cases dispatched
        exact inv.server_frame (Env.Frame.note env fun _ => ⟨rfl, rfl⟩)
          (inv.server.note trivial trivial)
  · cases dispatched; exact inv

/-- Every step of the listener or of the server around it keeps the invariant. -/
theorem step_inv {cap : Nat} {env env' : Env} {pl pl' : Listener} (inv : pl.pipeline.Inv env)
    {act : ListenerAct} (stepped : pl.step cap env act = some (.ok (env', pl'))) :
    pl'.pipeline.Inv env' := by
  cases step_eq_some stepped with
  | env envStepped => exact inv.env_step envStepped
  | read _ dispatched => exact dispatch_inv inv dispatched
  | readEnd => exact inv.move rfl (.inr rfl) inv.writer inv.buffer fun going => ⟨going, fun _ => rfl⟩
  | pickUpEmpty picking => exact inv.spawn (.inl picking)
  | pickUp picking => exact inv.pickUp picking
  | pickupSent sending sent =>
    have server := inv.server.send (inv.pickup _ _ _ sending) sent
    exact (inv.server_frame (Env.Frame.send sent) server).spawn (.inr ⟨_, sending⟩)
  | fwdClosed found selecting => exact inv.retire found selecting
  | fwdEnd found selecting received =>
    rw [Env.receive_closed received]
    exact inv.retire found selecting
  | fwdReceive found selecting received => exact inv.receive found selecting received _
  | writerReceive found sending waiting => exact inv.handOver found sending waiting rfl
  | writerEnd => exact inv.stop
  | write writing => exact inv.write writing
  | writeFails => exact inv.stop
  | stopWake => exact inv
  | stopFinish => exact inv

end Listener

namespace ListenerWorld

/-- Every reachable world's server keeps a listener's invariant: its own listener's while
no panic ended the process, and the one it had before the panic after. -/
theorem Reachable.exists_inv {cap : Nat} {w : ListenerWorld} (reach : Reachable cap w) :
    ∃ pl : Listener, pl.pipeline.Inv w.env ∧ (w.panic = none → pl = w.pl) := by
  induction reach with
  | init store => exact ⟨Listener.start, Pipeline.Inv.start store, fun _ => rfl⟩
  | step act _ stepped ih =>
    obtain ⟨pl, inv, same⟩ := ih
    obtain ⟨calm, ⟨_, -, rfl⟩ | ⟨env', pl', sessionStepped, rfl⟩⟩ :=
      ListenerWorld.step_eq_some stepped
    · exact ⟨pl, inv, fun panicked => by cases panicked⟩
    · rw [same calm] at inv
      exact ⟨pl', Listener.step_inv inv sessionStepped, fun _ => rfl⟩

/-- In every reachable world, the frames the session wrote from each queue are the first
items put in it, in order. -/
theorem Reachable.fifo {cap : Nat} {w : ListenerWorld} (reach : Reachable cap w) (s : Nat) :
    written s w.env.log <+: enqueued s w.env.log :=
  let ⟨_, inv, _⟩ := reach.exists_inv
  inv.fifo s

end ListenerWorld

end Oscar
