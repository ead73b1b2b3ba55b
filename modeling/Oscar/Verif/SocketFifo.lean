import Oscar.Verif.Pipeline
import Oscar.Sockets.SocketServer

/-! # The socket server relays each queue in order

The socket server's pipeline is its reader, its writer and its forwarders, with the frames
buffered in `ss.pkgs` between them. Besides the pipeline's invariant, the socket server keeps
its watched queues among its own (`SocketServer.Inv`), which is what lets `ignoreBox`
unsubscribe. Every step of the socket server and of the server around it keeps both
(`SocketServer.step_inv`), so in every reachable world the frames written from each queue are
the first items put in it, in order (`SocketWorld.Reachable.fifo`).
-/

namespace Oscar

open PubSub

namespace SocketServer

/-- The socket server's reader, writer and forwarders, and the frames buffered in `ss.pkgs`. -/
def pipeline (ss : SocketServer) : Pipeline := ⟨ss.reader, ss.writer, ss.fwds, ss.pkgs⟩

/-- What every reachable socket server keeps: its pipeline's invariant, and the queues it
watches are its own. -/
structure Inv (env : Env) (ss : SocketServer) : Prop where
  pipeline : ss.pipeline.Inv env
  subs : ∀ b ∈ ss.pkgSubs, env.Mine b.2

/-- A step that watches the same queues and keeps the session's. -/
theorem Inv.keep {env env' : Env} {ss ss' : SocketServer} (inv : ss.Inv env)
    (pipeline : ss'.pipeline.Inv env') (keeps : ∀ s, env.Mine s → env'.Mine s)
    (subs : ss'.pkgSubs = ss.pkgSubs) : ss'.Inv env' :=
  ⟨pipeline, fun b mem => keeps _ (inv.subs b (subs ▸ mem))⟩

/-- A command the reader takes keeps the invariant. -/
theorem dispatch_inv {env env' : Env} {ss ss' : SocketServer} (inv : ss.Inv env)
    {frame : List UInt8} (dispatched : ss.dispatch env frame = (env', ss')) : ss'.Inv env' := by
  unfold SocketServer.dispatch at dispatched
  split at dispatched
  · simp only [SocketServer.watchBox] at dispatched
    split_ifs at dispatched
    · cases dispatched; exact inv
    · split at dispatched
      · cases dispatched; exact inv
      · cases dispatched
        refine ⟨inv.pipeline.subscribe _ _, fun b mem => ?_⟩
        rcases List.mem_append.mp mem with old | new
        · exact Env.mine_sub.mpr (.inl (inv.subs b old))
        · rw [List.mem_singleton.mp new]
          exact Env.mine_sub.mpr (.inr rfl)
  · simp only [SocketServer.ignoreBox] at dispatched
    split at dispatched
    · cases dispatched; exact inv
    · rename_i sub found
      cases dispatched
      have mine := inv.subs _ (List.lookup_eq_some_iff.mp found |>.elim fun _ ⟨_, split, _⟩ => by
        rw [split]; exact List.mem_append_right _ (List.mem_cons_self _ _))
      exact ⟨inv.pipeline.server_frame
          ((Env.Frame.unsub env sub).trans (Env.Frame.note _ fun _ => ⟨rfl, rfl⟩))
          ((inv.pipeline.server.unsub mine.lt).note trivial trivial),
        fun b mem => (Env.Frame.unsub env sub).keeps_mine (inv.subs b (List.mem_of_mem_filter mem))⟩
  · cases dispatched; exact inv

/-- Every step of the socket server or of the server around it keeps the invariant. -/
theorem step_inv {cap : Nat} {env env' : Env} {ss ss' : SocketServer} (inv : ss.Inv env)
    {act : SocketAct} (stepped : ss.step cap env act = some (.ok (env', ss'))) : ss'.Inv env' := by
  cases step_eq_some stepped with
  | env envStepped =>
    exact inv.keep (inv.pipeline.env_step envStepped)
      (fun _ => (Env.step_frame envStepped).keeps_mine) rfl
  | messageDropped => exact inv
  | message => exact ⟨inv.pipeline, inv.subs⟩
  | read _ dispatched => exact dispatch_inv inv dispatched
  | readEnd =>
    exact ⟨inv.pipeline.move rfl (.inr rfl) inv.pipeline.writer inv.pipeline.buffer
      fun going => ⟨going, fun _ => rfl⟩, inv.subs⟩
  | pickUpEmpty picking => exact ⟨inv.pipeline.spawn (.inl picking), inv.subs⟩
  | pickUp picking => exact ⟨inv.pipeline.pickUp picking, inv.subs⟩
  | pickupSent sending sent =>
    have server := inv.pipeline.server.send (inv.pipeline.pickup _ _ _ sending) sent
    exact inv.keep ((inv.pipeline.server_frame (Env.Frame.send sent) server).spawn (.inr ⟨_, sending⟩))
      (fun _ => (Env.Frame.send sent).keeps_mine) rfl
  | fwdClosed found selecting =>
    exact ⟨inv.pipeline.exit (.refl env) inv.pipeline.server found selecting, inv.subs⟩
  | fwdEnd found selecting received =>
    rw [Env.receive_closed received]
    exact ⟨inv.pipeline.exit (.refl env) inv.pipeline.server found selecting, inv.subs⟩
  | fwdReceive found selecting received =>
    exact inv.keep (inv.pipeline.receive found selecting received _)
      (fun s => (Env.mine_receive received s).mpr) rfl
  | fwdSend found sending => exact ⟨inv.pipeline.bufferFrame found sending, inv.subs⟩
  | writerMessage waiting => exact ⟨inv.pipeline.takeMessage waiting _, inv.subs⟩
  | writerPackage waiting front => exact ⟨inv.pipeline.takeFrame waiting front, inv.subs⟩
  | writerMessagesEnd | writerPackagesEnd | writerClosed | writeFails =>
    exact ⟨inv.pipeline.stop, inv.subs⟩
  | write writing => exact inv.keep (inv.pipeline.write writing) (fun _ => id) rfl

end SocketServer

namespace SocketWorld

/-- Every reachable world's server keeps a socket server's invariant: its own socket
server's while no panic ended the process, and the one it had before the panic after. -/
theorem Reachable.exists_inv {cap : Nat} {w : SocketWorld} (reach : Reachable cap w) :
    ∃ ss : SocketServer, ss.Inv w.env ∧ (w.panic = none → ss = w.ss) := by
  induction reach with
  | init store =>
    exact ⟨SocketServer.start, ⟨Pipeline.Inv.start store, fun _ mem => absurd mem (List.not_mem_nil _)⟩,
      fun _ => rfl⟩
  | step act _ stepped ih =>
    obtain ⟨ss, inv, same⟩ := ih
    obtain ⟨calm, ⟨_, -, rfl⟩ | ⟨env', ss', sessionStepped, rfl⟩⟩ :=
      SocketWorld.step_eq_some stepped
    · exact ⟨ss, inv, fun panicked => by cases panicked⟩
    · rw [same calm] at inv
      exact ⟨ss', SocketServer.step_inv inv sessionStepped, fun _ => rfl⟩

/-- In every reachable world, the frames the session wrote from each queue are the first
items put in it, in order. -/
theorem Reachable.fifo {cap : Nat} {w : SocketWorld} (reach : Reachable cap w) (s : Nat) :
    written s w.env.log <+: enqueued s w.env.log :=
  let ⟨_, inv, _⟩ := reach.exists_inv
  inv.pipeline.fifo s

end SocketWorld

end Oscar
