import Oscar.Verif.Relay

/-!
# A session's pipeline from its queues to its socket

Both sessions relay their queues the same way: a reader that subscribes and sends the stored
package into the new queue, one forwarder per queue that takes its items one at a time, a
buffer of frames between the forwarders and the writer (none for the package listener, the
five of `ss.pkgs` for the socket server), and a writer that writes one frame at a time.
`Pipeline` is that common part of a session's state.

The items of queue `s` the pipeline holds on the way to the socket are the one whose frame
the writer is writing, then those buffered, then the one its forwarder holds
(`Pipeline.held`). While the writer runs, the items whose frames were written from a queue of
the session, the items held and the queue are together the items put in it, and the frames
written are always a prefix of those items (`Pipeline.Inv`). Each kind of step a session
takes keeps this, under its own guard (`Pipeline.Inv.spawn`, `Pipeline.Inv.receive`,
`Pipeline.Inv.write`, …), so the frames from each queue are a prefix of its items
(`Pipeline.Inv.fifo`).
-/

namespace Oscar

open PubSub

/-- The reader, writer, forwarders and buffered frames of a session. -/
structure Pipeline where
  reader : ReaderPc
  writer : WriterPc
  fwds : List Forwarder
  buffer : List (List UInt8 × Nat × Item)

namespace Pipeline

/-- The items of queue `s` among buffered frames, in order. -/
def bufferedFrom (s : Nat) (buffer : List (List UInt8 × Nat × Item)) : List Item :=
  buffer.filterMap fun b => if b.2.1 = s then some b.2.2 else none

/-- The items of queue `s` the pipeline holds: the one being written, those buffered, then the
one its forwarder holds. -/
def held (p : Pipeline) (s : Nat) : List Item :=
  p.writer.heldFrom s ++ bufferedFrom s p.buffer ++ p.fwds.flatMap (Forwarder.heldFrom s)

/-- The reader goes on reading, forwarder `⟨boxID, sub⟩` started. -/
def spawn (p : Pipeline) (boxID : List UInt8) (sub : Nat) : Pipeline :=
  { p with fwds := p.fwds ++ [⟨boxID, sub, .selecting⟩], reader := .reading }

/-- Forwarder `i` moves to `pc`. -/
def setFwd (p : Pipeline) (i : Nat) (fwd : Forwarder) (pc : ForwarderPc) : Pipeline :=
  { p with fwds := p.fwds.set i { fwd with pc } }

/-- An empty buffer holds no item of any queue. -/
@[simp] theorem bufferedFrom_nil (s : Nat) : bufferedFrom s [] = [] := rfl

/-- Two buffers in a row hold the items of queue `s` of the first, then those of the second. -/
@[simp] theorem bufferedFrom_append (s : Nat) (l m : List (List UInt8 × Nat × Item)) :
    bufferedFrom s (l ++ m) = bufferedFrom s l ++ bufferedFrom s m := List.filterMap_append _ _ _

/-- A buffered frame adds its item to its own queue's items only. -/
@[simp] theorem bufferedFrom_cons (s : Nat) (frame : List UInt8) (t : Nat) (x : Item)
    (l : List (List UInt8 × Nat × Item)) :
    bufferedFrom s ((frame, t, x) :: l) = (if t = s then [x] else []) ++ bufferedFrom s l := by
  by_cases same : t = s <;> simp [bufferedFrom, same]

/-- Starting a forwarder changes nothing the pipeline holds. -/
@[simp] theorem held_spawn (p : Pipeline) (boxID : List UInt8) (sub s : Nat) :
    (p.spawn boxID sub).held s = p.held s := by
  simp [held, spawn, Forwarder.heldFrom]

/-- Moving a forwarder keeps the queue each forwarder reads. -/
theorem map_sub_setFwd (p : Pipeline) (i : Nat) (fwd : Forwarder) (pc : ForwarderPc)
    (found : p.fwds[i]? = some fwd) :
    (p.setFwd i fwd pc).fwds.map (·.sub) = p.fwds.map (·.sub) := by
  simp only [setFwd, List.map_set]
  exact set_self_of_getElem? (by simp [found])

/-- Moving a forwarder leaves the reader as it was. -/
@[simp] theorem setFwd_reader (p : Pipeline) (i : Nat) (fwd : Forwarder) (pc : ForwarderPc) :
    (p.setFwd i fwd pc).reader = p.reader := rfl

/-- Moving a forwarder leaves the writer as it was. -/
@[simp] theorem setFwd_writer (p : Pipeline) (i : Nat) (fwd : Forwarder) (pc : ForwarderPc) :
    (p.setFwd i fwd pc).writer = p.writer := rfl

/-- Moving a forwarder leaves the buffer as it was. -/
@[simp] theorem setFwd_buffer (p : Pipeline) (i : Nat) (fwd : Forwarder) (pc : ForwarderPc) :
    (p.setFwd i fwd pc).buffer = p.buffer := rfl

/-- A forwarder moved holds nothing from the queues of the others. -/
theorem flatMap_setFwd_other {p : Pipeline} {i : Nat} {fwd : Forwarder}
    (found : p.fwds[i]? = some fwd) {pc : ForwarderPc} {s : Nat} (other : fwd.sub ≠ s) :
    (p.setFwd i fwd pc).fwds.flatMap (Forwarder.heldFrom s) = p.fwds.flatMap (Forwarder.heldFrom s) :=
  flatMap_set_of_eq found
    (by rw [Forwarder.heldFrom_other other]; exact Forwarder.heldFrom_other other)

/-- Moving a forwarder so that it holds from queue `s` what it held changes nothing held from
`s`. -/
theorem held_setFwd {p : Pipeline} {i : Nat} {fwd : Forwarder} (found : p.fwds[i]? = some fwd)
    {pc : ForwarderPc} {s : Nat} (same : ({ fwd with pc } : Forwarder).heldFrom s = fwd.heldFrom s) :
    (p.setFwd i fwd pc).held s = p.held s := by
  simp only [held, setFwd]
  rw [flatMap_set_of_eq found same]

/-- Moving the forwarder of another queue changes nothing held from queue `s`. -/
theorem held_setFwd_other {p : Pipeline} {i : Nat} {fwd : Forwarder} (found : p.fwds[i]? = some fwd)
    {pc : ForwarderPc} {s : Nat} (other : fwd.sub ≠ s) : (p.setFwd i fwd pc).held s = p.held s := by
  rw [held, held, flatMap_setFwd_other found other, setFwd_writer, setFwd_buffer]

/-- With one forwarder per queue, what the forwarders hold from forwarder `i`'s queue once it
moved to `pc` is what it holds there. -/
theorem flatMap_setFwd {p : Pipeline} (nodup : (p.fwds.map (·.sub)).Nodup) {i : Nat}
    {fwd : Forwarder} (found : p.fwds[i]? = some fwd) (pc : ForwarderPc) :
    (p.setFwd i fwd pc).fwds.flatMap (Forwarder.heldFrom fwd.sub) =
      ({ fwd with pc } : Forwarder).heldFrom fwd.sub := by
  have mem : ({ fwd with pc } : Forwarder) ∈ (p.setFwd i fwd pc).fwds :=
    List.mem_iff_getElem?.mpr ⟨i, List.getElem?_set_self (List.getElem?_eq_some_iff.mp found).1⟩
  exact flatMap_heldFrom (by rw [map_sub_setFwd _ _ _ pc found]; exact nodup) mem

/-- What every reachable session's pipeline keeps, with the server around it: the server's
invariant; forwarders, buffered frames and the frame being written all from queues of the
session, one forwarder a queue, and none yet for the queue the reader is filling; the stored
package the reader sends from a request that started; nothing logged for queues not on the
bus nor written from queues not the session's; and the flow of each queue of the session. -/
structure Inv (env : Env) (p : Pipeline) : Prop where
  server : env.Inv
  fwds : ∀ fwd ∈ p.fwds, env.Mine fwd.sub
  nodup : (p.fwds.map (·.sub)).Nodup
  reader : ∀ boxID s, (p.reader = .pickingUp boxID s ∨ ∃ x, p.reader = .sending boxID s x) →
    env.Mine s ∧ ∀ fwd ∈ p.fwds, fwd.sub ≠ s
  pickup : ∀ boxID s x, p.reader = .sending boxID s x → x.origin = 0 ∨ Started env.log x.origin
  writer : ∀ frame s x, p.writer = .writing frame (some (s, x)) → env.Mine s
  buffer : ∀ b ∈ p.buffer, env.Mine b.2.1
  fresh : ∀ s, env.bus.length ≤ s → enqueued s env.log = []
  others : ∀ s, ¬env.Mine s → written s env.log = []
  flow : ∀ s (sub : Subscription (List UInt8) Item), env.bus[s]? = some sub → sub.mine = true →
    written s env.log <+: enqueued s env.log ∧
      (p.writer ≠ .exited → written s env.log ++ p.held s ++ sub.queue = enqueued s env.log)

/-- A session just started, with nothing subscribed, on a server just started. -/
theorem Inv.start (store : Bucket) : Inv (Env.init store) ⟨.reading, .waiting, [], []⟩ where
  server := Env.Inv.init store
  fwds _ mem := absurd mem (List.not_mem_nil _)
  nodup := List.nodup_nil
  reader _ _ reading := by simp at reading
  pickup _ _ _ reading := by cases reading
  writer _ _ _ writing := by cases writing
  buffer _ mem := absurd mem (List.not_mem_nil _)
  fresh _ _ := rfl
  others _ _ := rfl
  flow _ _ found := by simp [Env.init] at found

/-- The frames written from a queue are the first items put in it, in order. -/
theorem Inv.fifo {env : Env} {p : Pipeline} (inv : Inv env p) (s : Nat) :
    written s env.log <+: enqueued s env.log := by
  by_cases mine : env.Mine s
  · obtain ⟨sub, found, mine⟩ := mine
    exact (inv.flow s sub found mine).1
  · rw [inv.others s mine]
    exact List.nil_prefix

/-- The pipeline holds nothing from a queue that is not the session's. -/
theorem Inv.held_eq_nil {env : Env} {p : Pipeline} (inv : Inv env p) {s : Nat}
    (other : ¬env.Mine s) : p.held s = [] := by
  simp only [held, List.append_eq_nil, List.flatMap_eq_nil_iff, bufferedFrom,
    List.filterMap_eq_nil_iff]
  refine ⟨⟨?_, fun b mem => if_neg fun (same : b.2.1 = s) => other (same ▸ inv.buffer b mem)⟩,
    fun fwd mem => Forwarder.heldFrom_other fun same => other (same ▸ inv.fwds fwd mem)⟩
  rcases writing : p.writer with _ | ⟨frame, _ | ⟨t, x⟩⟩ | _ <;> simp only [WriterPc.heldFrom]
  rw [if_neg]
  rintro rfl
  exact other (inv.writer frame t x writing)

/-! ## Each kind of step keeps the invariant -/

/-- A step that keeps the session's queues and its forwarders' queues, and leaves the reader
where it was or stopped, keeps the invariant once it keeps the server's, the flows and the
queues the session does not hold. -/
theorem Inv.of_step {env env' : Env} {p p' : Pipeline} (inv : Inv env p)
    (server : env'.Inv) (keeps : ∀ s, env.Mine s → env'.Mine s)
    (started : ∀ r, Started env.log r → Started env'.log r)
    (fwds : p'.fwds.map (·.sub) = p.fwds.map (·.sub))
    (reader : p'.reader = p.reader ∨ p'.reader = .exited)
    (writer : ∀ frame s x, p'.writer = .writing frame (some (s, x)) → env.Mine s)
    (buffer : ∀ b ∈ p'.buffer, env.Mine b.2.1)
    (fresh : ∀ s, env'.bus.length ≤ s → enqueued s env'.log = [])
    (others : ∀ s, ¬env'.Mine s → written s env'.log = [])
    (flow : ∀ s (sub : Subscription (List UInt8) Item), env'.bus[s]? = some sub →
      sub.mine = true → written s env'.log <+: enqueued s env'.log ∧
        (p'.writer ≠ .exited → written s env'.log ++ p'.held s ++ sub.queue = enqueued s env'.log)) :
    Inv env' p' := by
  have subs : ∀ fwd' ∈ p'.fwds, ∃ fwd ∈ p.fwds, fwd.sub = fwd'.sub := fun fwd' mem => by
    have : fwd'.sub ∈ p.fwds.map (·.sub) := fwds ▸ List.mem_map_of_mem _ mem
    simpa using this
  refine ⟨server, fun fwd' mem => ?_, fwds ▸ inv.nodup, fun boxID s reading => ?_,
    fun boxID s x sending => ?_, fun frame s x writing => keeps s (writer frame s x writing),
    fun b mem => keeps _ (buffer b mem), fresh, others, flow⟩
  · obtain ⟨fwd, mem, same⟩ := subs fwd' mem
    exact same ▸ keeps _ (inv.fwds fwd mem)
  · rcases reader with same | exited
    · rw [same] at reading
      obtain ⟨mine, apart⟩ := inv.reader boxID s reading
      refine ⟨keeps s mine, fun fwd' mem => ?_⟩
      obtain ⟨fwd, mem, same⟩ := subs fwd' mem
      exact same ▸ apart fwd mem
    · rw [exited] at reading
      simp at reading
  · rcases reader with same | exited
    · exact (inv.pickup boxID s x (same ▸ sending)).imp_right (started _)
    · rw [exited] at sending; cases sending

/-- A step that changes no queue of the session but through a frame of the server, and
leaves the pipeline holding what it held, or with its writer stopped. -/
theorem Inv.frame {env env' : Env} {p p' : Pipeline} (inv : Inv env p)
    (frame : env.Frame env') (server : env'.Inv)
    (fwds : p'.fwds.map (·.sub) = p.fwds.map (·.sub))
    (reader : p'.reader = p.reader ∨ p'.reader = .exited)
    (writer : ∀ frame s x, p'.writer = .writing frame (some (s, x)) → env.Mine s)
    (buffer : ∀ b ∈ p'.buffer, env.Mine b.2.1)
    (running : p'.writer ≠ .exited → p.writer ≠ .exited ∧ ∀ s, p'.held s = p.held s) :
    Inv env' p' := by
  refine inv.of_step server (fun _ => frame.keeps_mine) (fun _ => frame.started) fwds reader
    writer buffer (fun s beyond => ?_) (fun s other => ?_) fun s sub' found' mine' => ?_
  · rw [frame.fresh s beyond]
    exact inv.fresh s (Nat.le_trans frame.grows beyond)
  · rw [frame.written_eq]
    exact inv.others s fun mine => other (frame.keeps_mine mine)
  · obtain ⟨sub, found, mine⟩ := frame.created s sub' found' mine'
    obtain ⟨sub'', d, found'', -, queue, enq⟩ := frame.mine s sub found mine
    rw [found'] at found''
    cases found''
    obtain ⟨front, equal⟩ := inv.flow s sub found mine
    rw [frame.written_eq, enq]
    refine ⟨front.trans (List.prefix_append _ _), fun going => ?_⟩
    obtain ⟨was, held⟩ := running going
    rw [held, queue, ← equal was]
    simp

/-- A frame of the server, the pipeline as it was. -/
theorem Inv.server_frame {env env' : Env} {p : Pipeline} (inv : Inv env p)
    (frame : env.Frame env') (server : env'.Inv) : Inv env' p :=
  inv.frame frame server rfl (.inl rfl) inv.writer inv.buffer fun going => ⟨going, fun _ => rfl⟩

/-- A step of the server outside the session. -/
theorem Inv.env_step {env env' : Env} {p : Pipeline} (inv : Inv env p) {cap : Nat} {act : EnvAct}
    (stepped : env.step cap act = some env') : Inv env' p :=
  inv.server_frame (Env.step_frame stepped) (inv.server.step stepped)

/-- A step of the pipeline alone that leaves it holding what it held. -/
theorem Inv.move {env : Env} {p p' : Pipeline} (inv : Inv env p)
    (fwds : p'.fwds.map (·.sub) = p.fwds.map (·.sub))
    (reader : p'.reader = p.reader ∨ p'.reader = .exited)
    (writer : ∀ frame s x, p'.writer = .writing frame (some (s, x)) → env.Mine s)
    (buffer : ∀ b ∈ p'.buffer, env.Mine b.2.1)
    (running : p'.writer ≠ .exited → p.writer ≠ .exited ∧ ∀ s, p'.held s = p.held s) :
    Inv env p' :=
  inv.frame (.refl env) inv.server fwds reader writer buffer running

/-- The writer stopping. -/
theorem Inv.stop {env : Env} {p : Pipeline} (inv : Inv env p) :
    Inv env { p with writer := .exited } :=
  inv.move rfl (.inl rfl) (fun _ _ _ writing => by cases writing) inv.buffer
    fun going => absurd rfl going

/-- The reader's forwarder for its new queue, started. -/
theorem Inv.spawn {env : Env} {p : Pipeline} (inv : Inv env p) {boxID : List UInt8}
    {s : Nat} (reading : p.reader = .pickingUp boxID s ∨ ∃ x, p.reader = .sending boxID s x) :
    Inv env (p.spawn boxID s) := by
  obtain ⟨mine, apart⟩ := inv.reader boxID s reading
  refine { inv with fwds := ?_, nodup := ?_, reader := ?_, pickup := ?_, flow := ?_ }
  · simp only [Pipeline.spawn, List.mem_append, List.mem_singleton]
    rintro fwd (old | rfl)
    exacts [inv.fwds fwd old, mine]
  · simp only [Pipeline.spawn, List.map_append, List.map_singleton]
    refine inv.nodup.append (List.nodup_singleton s) fun t listed same => ?_
    obtain ⟨fwd, mem, rfl⟩ := List.mem_map.mp listed
    exact apart fwd mem (List.mem_singleton.mp same)
  · simp [Pipeline.spawn]
  · simp [Pipeline.spawn]
  · simpa only [held_spawn] using inv.flow

/-- `watch` taking the stored package for its new queue. -/
theorem Inv.pickUp {env : Env} {p : Pipeline} (inv : Inv env p) {boxID : List UInt8}
    {s : Nat} (picking : p.reader = .pickingUp boxID s) :
    Inv env { p with reader := .sending boxID s (env.pickUp boxID) } :=
  { inv with
    reader := fun _ _ reading => by
      rcases reading with reading | ⟨_, reading⟩ <;> cases reading
      exact inv.reader _ _ (.inl picking)
    pickup := fun _ _ _ sending => by
      cases sending
      exact inv.server.origins boxID }

/-- `watch` subscribing the session to a new queue, at the end of the bus. -/
theorem Inv.subscribe {env : Env} {p : Pipeline} (inv : Inv env p) (topic boxID : List UInt8) :
    Inv ((env.sub topic).note (.watch boxID)) { p with reader := .pickingUp boxID env.bus.length } := by
  have keeps : ∀ s, env.Mine s → ((env.sub topic).note (.watch boxID)).Mine s :=
    fun _ mine => Env.mine_sub.mpr (.inl mine)
  have enq : ∀ s, enqueued s ((env.sub topic).note (.watch boxID)).log = enqueued s env.log := by
    simp [Env.note, Env.sub, Event.enqueuedTo]
  have wr : ∀ s, written s ((env.sub topic).note (.watch boxID)).log = written s env.log := by
    simp [Env.note, Env.sub, Event.writtenFrom]
  refine ⟨(inv.server.sub topic).note trivial trivial, fun fwd mem => keeps _ (inv.fwds fwd mem),
    inv.nodup, fun boxID' s reading => ?_, fun _ _ _ sending => (by cases sending),
    fun frame s x writing => keeps s (inv.writer frame s x writing),
    fun b mem => keeps _ (inv.buffer b mem), fun s beyond => ?_, fun s other => ?_,
    fun s sub found mine => ?_⟩
  · rcases reading with reading | ⟨_, reading⟩ <;> cases reading
    exact ⟨Env.mine_sub.mpr (.inr rfl), fun fwd mem same => (same ▸ (inv.fwds fwd mem).lt).false⟩
  · rw [enq]
    exact inv.fresh s (by simp [Env.note, Env.sub] at beyond; omega)
  · rw [wr]
    exact inv.others s fun mine => other (keeps s mine)
  · rw [enq, wr]
    simp only [Env.note, Env.sub, getElem?_subscribe] at found
    split_ifs at found with new
    · subst new
      have other : ¬env.Mine env.bus.length := fun mine => mine.lt.false
      rw [inv.others _ other, inv.fresh _ le_rfl]
      cases found
      exact ⟨List.nil_prefix, fun _ => by simpa using inv.held_eq_nil other⟩
    · exact inv.flow s sub found mine

/-- Forwarder `i` returning from its `select`, over a frame of the server. -/
theorem Inv.exit {env env' : Env} {p : Pipeline} (inv : Inv env p) (frame : env.Frame env')
    (server : env'.Inv) {i : Nat} {fwd : Forwarder} (found : p.fwds[i]? = some fwd)
    (selecting : fwd.pc = .selecting) : Inv env' (p.setFwd i fwd .exited) :=
  inv.frame frame server (map_sub_setFwd _ _ _ _ found) (.inl rfl) inv.writer inv.buffer
    fun going => ⟨going, fun _ => held_setFwd found (by simp [Forwarder.heldFrom, selecting])⟩

/-- Forwarder `i` returning after taking its queue off the bus. -/
theorem Inv.retire {env : Env} {p : Pipeline} (inv : Inv env p) {i : Nat} {fwd : Forwarder}
    (found : p.fwds[i]? = some fwd) (selecting : fwd.pc = .selecting) :
    Inv (env.unsub fwd.sub) (p.setFwd i fwd .exited) :=
  inv.exit (Env.Frame.unsub env fwd.sub)
    (inv.server.unsub (inv.fwds fwd (List.mem_iff_getElem?.mpr ⟨i, found⟩)).lt) found selecting

/-- Forwarder `i` taking the item at the front of its queue. -/
theorem Inv.receive {env env' : Env} {p : Pipeline} (inv : Inv env p) {i : Nat}
    {fwd : Forwarder} (found : p.fwds[i]? = some fwd) (selecting : fwd.pc = .selecting) {x : Item}
    (received : env.receive fwd.sub = some (.item x, env')) (frame : List UInt8) :
    Inv env' (p.setFwd i fwd (.sending frame x)) := by
  have mine := Env.mine_receive received
  obtain ⟨_, got, ⟨⟩⟩ := Option.map_eq_some'.mp received
  obtain ⟨sub, q, subFound, queue⟩ := receive_eq_item got
  refine inv.of_step (inv.server.receive received) (fun s => (mine s).mpr) (fun _ => id)
    (map_sub_setFwd _ _ _ _ found) (.inl rfl) inv.writer inv.buffer
    (fun s beyond => inv.fresh s (by simpa using beyond))
    (fun s other => inv.others s fun was => other ((mine s).mpr was)) fun s sub' found' mine' => ?_
  simp only [pop, getElem?_modify] at found'
  split_ifs at found' with here
  · subst here
    rw [subFound] at found'
    cases found'
    obtain ⟨front, equal⟩ := inv.flow _ sub subFound mine'
    refine ⟨front, fun going => ?_⟩
    rw [← equal going, held, held, flatMap_setFwd inv.nodup found,
      flatMap_heldFrom inv.nodup (List.mem_iff_getElem?.mpr ⟨i, found⟩)]
    simp [Forwarder.heldFrom, selecting, queue]
  · rw [held_setFwd_other found here]
    exact inv.flow s sub' found' mine'

/-- The writer taking forwarder `i`'s frame directly, with nothing buffered. -/
theorem Inv.handOver {env : Env} {p : Pipeline} (inv : Inv env p) {i : Nat} {fwd : Forwarder}
    {frame : List UInt8} {x : Item} (found : p.fwds[i]? = some fwd)
    (sending : fwd.pc = .sending frame x) (waiting : p.writer = .waiting) (unbuffered : p.buffer = []) :
    Inv env { p.setFwd i fwd .selecting with writer := .writing frame (some (fwd.sub, x)) } := by
  have mem := List.mem_iff_getElem?.mpr ⟨i, found⟩
  refine inv.move (map_sub_setFwd _ _ _ _ found) (.inl rfl) (fun _ _ _ writing => ?_) inv.buffer
    fun _ => ⟨by rw [waiting]; exact WriterPc.noConfusion, fun s => ?_⟩
  · cases writing
    exact inv.fwds fwd mem
  · simp only [held, waiting, unbuffered, setFwd_buffer, WriterPc.heldFrom_waiting, bufferedFrom_nil,
      List.append_nil, List.nil_append]
    by_cases here : fwd.sub = s
    · subst here
      rw [flatMap_setFwd inv.nodup found, flatMap_heldFrom inv.nodup mem]
      simp [WriterPc.heldFrom, Forwarder.heldFrom, sending]
    · rw [flatMap_setFwd_other found here]
      simp [WriterPc.heldFrom, here]

/-- Forwarder `i` putting its frame at the back of the buffer. -/
theorem Inv.bufferFrame {env : Env} {p : Pipeline} (inv : Inv env p) {i : Nat} {fwd : Forwarder}
    {frame : List UInt8} {x : Item} (found : p.fwds[i]? = some fwd)
    (sending : fwd.pc = .sending frame x) :
    Inv env { p.setFwd i fwd .selecting with buffer := p.buffer ++ [(frame, fwd.sub, x)] } := by
  have mem := List.mem_iff_getElem?.mpr ⟨i, found⟩
  refine inv.move (map_sub_setFwd _ _ _ _ found) (.inl rfl) inv.writer (fun b listed => ?_)
    fun going => ⟨going, fun s => ?_⟩
  · rcases List.mem_append.mp listed with old | new
    · exact inv.buffer b old
    · rw [List.mem_singleton.mp new]
      exact inv.fwds fwd mem
  · simp only [held, setFwd_writer, bufferedFrom_append, bufferedFrom_cons, bufferedFrom_nil,
      List.append_nil, List.append_assoc]
    by_cases here : fwd.sub = s
    · subst here
      rw [flatMap_setFwd inv.nodup found, flatMap_heldFrom inv.nodup mem]
      simp [Forwarder.heldFrom, sending]
    · rw [flatMap_setFwd_other found here]
      simp [here]

/-- The writer taking the frame at the front of the buffer. -/
theorem Inv.takeFrame {env : Env} {p : Pipeline} (inv : Inv env p) {frame : List UInt8} {t : Nat}
    {x : Item} {rest : List (List UInt8 × Nat × Item)} (waiting : p.writer = .waiting)
    (front : p.buffer = (frame, t, x) :: rest) :
    Inv env { p with buffer := rest, writer := .writing frame (some (t, x)) } :=
  inv.move rfl (.inl rfl)
    (fun _ _ _ writing => by cases writing; exact inv.buffer _ (front ▸ List.mem_cons_self _ _))
    (fun b mem => inv.buffer b (front ▸ List.mem_cons_of_mem _ mem))
    fun _ => ⟨by rw [waiting]; exact WriterPc.noConfusion,
      fun s => by simp [held, waiting, front, WriterPc.heldFrom]⟩

/-- The writer taking a frame that carries no package. -/
theorem Inv.takeMessage {env : Env} {p : Pipeline} (inv : Inv env p) (waiting : p.writer = .waiting)
    (msg : List UInt8) : Inv env { p with writer := .writing msg none } :=
  inv.move rfl (.inl rfl) (fun _ _ _ writing => by cases writing) inv.buffer
    fun _ => ⟨by rw [waiting]; exact WriterPc.noConfusion,
      fun s => by simp [held, waiting, WriterPc.heldFrom]⟩

/-- The writer writing the frame it took. -/
theorem Inv.write {env : Env} {p : Pipeline} (inv : Inv env p) {frame : List UInt8}
    {source : Option (Nat × Item)} (writing : p.writer = .writing frame source) :
    Inv (env.write frame source) { p with writer := .waiting } := by
  have held : ∀ s, p.held s = (WriterPc.writing frame source).heldFrom s ++
      (bufferedFrom s p.buffer ++ p.fwds.flatMap (Forwarder.heldFrom s)) := fun s => by
    rw [held, writing, List.append_assoc]
  refine inv.of_step (inv.server.write frame source) (fun _ => id) (fun _ => Started.append _) rfl
    (.inl rfl) (fun _ _ _ waiting => by cases waiting) inv.buffer (fun s beyond => ?_)
    (fun s other => ?_) fun s sub found mine => ?_
  · simpa [Env.write, Event.enqueuedTo] using inv.fresh s beyond
  · have nothing := inv.held_eq_nil other
    rw [held, List.append_eq_nil] at nothing
    simp [Env.write, inv.others s other, nothing.1]
  · obtain ⟨-, equal⟩ := inv.flow s sub found mine
    have equal := equal (by rw [writing]; exact WriterPc.noConfusion)
    rw [held] at equal
    constructor <;> simp [Env.write, Event.enqueuedTo, Pipeline.held, ← equal]

end Pipeline

end Oscar
