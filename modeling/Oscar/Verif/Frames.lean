import Oscar.Verif.Order

/-! # What the frames say

A session relays a package as the frame `watchFrame boxID pkg`: a 1, the box id, then the
package. The id a frame names is that of the box whose queue the package came from: sixteen
bytes whose hex encoding is the queue's topic (`Env.FrameFor`). The reader subscribes a queue
under the hex encoding of the id the client asked to watch, once it has checked the id's
length, and hands the id to the queue's forwarder, which frames each item with it; the frames
buffered and the one being written keep it (`Pipeline.Labelled`). No step changes the topic
of a queue on the bus (`Env.KeepsTopics`), so every frame either session writes for a package
names the box of the package's queue (`frames_name_their_box`).
-/

namespace Oscar

open PubSub

/-- Queue `s` is box `boxID`'s: the id is sixteen bytes and hex-encodes to the queue's topic. -/
def Env.Labels (env : Env) (s : Nat) (boxID : List UInt8) : Prop :=
  boxID.length = dropBoxIDSize ∧ ∃ sub : Subscription (List UInt8) Item,
    env.bus[s]? = some sub ∧ sub.topic = Hex.encodeToString boxID

/-- `frame` is the frame of item `x` of queue `s`: a 1, the id of the queue's box, the
package. -/
def Env.FrameFor (env : Env) (frame : List UInt8) (s : Nat) (x : Item) : Prop :=
  ∃ boxID, env.Labels s boxID ∧ frame = watchFrame boxID x.pkg

/-- Every frame the session wrote for an item is the frame of that item of its queue. -/
def Env.FramesLabelled (env : Env) : Prop :=
  ∀ frame s x, Event.write frame (some (s, x)) ∈ env.log → env.FrameFor frame s x

/-- Every queue on the bus stays on it, on its topic. -/
def Env.KeepsTopics (env env' : Env) : Prop :=
  ∀ (s : Nat) (sub : Subscription (List UInt8) Item), env.bus[s]? = some sub →
    ∃ sub' : Subscription (List UInt8) Item, env'.bus[s]? = some sub' ∧ sub'.topic = sub.topic

/-! ## Topics stay -/

namespace Env.KeepsTopics

/-- A step that leaves the bus as it was keeps every queue on its topic. -/
theorem of_bus {env env' : Env} (bus : env'.bus = env.bus) : env.KeepsTopics env' :=
  fun _ sub found => ⟨sub, bus ▸ found, rfl⟩

/-- A step that changes one subscription but not its topic keeps every queue on its topic. -/
theorem of_modify {env env' : Env} {i : Nat}
    {change : Subscription (List UInt8) Item → Subscription (List UInt8) Item}
    (bus : env'.bus = PubSub.modify env.bus i change) (topic : ∀ sub, (change sub).topic = sub.topic) :
    env.KeepsTopics env' := fun s sub found => by
  rw [bus, getElem?_modify]
  split_ifs
  · exact ⟨change sub, by rw [found]; rfl, topic sub⟩
  · exact ⟨sub, found, rfl⟩

/-- Pushing an item keeps every queue on its topic. -/
theorem of_push {env env' : Env} {i : Nat} {x : Item} (bus : env'.bus = push env.bus i x) :
    env.KeepsTopics env' :=
  .of_modify bus fun _ => rfl

/-- `Sub` keeps every queue already on the bus on its topic. -/
theorem of_subscribe {env env' : Env} {topic : List UInt8} {mine : Bool}
    (bus : env'.bus = subscribe env.bus topic mine) : env.KeepsTopics env' := fun _ sub found =>
  ⟨sub, by simp [bus, getElem?_subscribe, (List.getElem?_eq_some_iff.mp found).1.ne, found], rfl⟩

/-- A queue's box survives a step that keeps the topics. -/
theorem labels {env env' : Env} (keeps : env.KeepsTopics env') {s : Nat} {boxID : List UInt8}
    (labelled : env.Labels s boxID) : env'.Labels s boxID :=
  let ⟨sized, sub, found, topic⟩ := labelled
  let ⟨sub', found', same⟩ := keeps s sub found
  ⟨sized, sub', found', same.trans topic⟩

/-- The frame of an item of a queue stays so through a step that keeps the topics. -/
theorem frameFor {env env' : Env} (keeps : env.KeepsTopics env') {frame : List UInt8} {s : Nat}
    {x : Item} (framed : env.FrameFor frame s x) : env'.FrameFor frame s x :=
  let ⟨boxID, labelled, shape⟩ := framed
  ⟨boxID, keeps.labels labelled, shape⟩

end Env.KeepsTopics

/-- Every server step keeps the topics. -/
theorem Env.step_keepsTopics {cap : Nat} {env env' : Env} {act : EnvAct}
    (stepped : env.step cap act = some env') : env.KeepsTopics env' := by
  cases Env.step_eq_some stepped with
  | put | send | pub | deliverGone | deliverClosed | finish => exact .of_bus rfl
  | deliver | otherRecv | otherUnsub => exact .of_modify rfl fun _ => rfl
  | otherSub => exact .of_subscribe rfl

/-! ## The pipeline's frames -/

/-- Every frame on its way to the socket, and every frame written, names the box of its
queue: the reader's queue and each forwarder's are their box's, and a forwarder frames its
item with its box id. -/
structure Pipeline.Labelled (env : Env) (p : Pipeline) : Prop where
  reader : ∀ boxID s, (p.reader = .pickingUp boxID s ∨ ∃ x, p.reader = .sending boxID s x) →
    env.Labels s boxID
  fwds : ∀ fwd ∈ p.fwds, env.Labels fwd.sub fwd.boxID ∧
    ∀ frame x, fwd.pc = .sending frame x → frame = watchFrame fwd.boxID x.pkg
  buffer : ∀ b ∈ p.buffer, env.FrameFor b.1 b.2.1 b.2.2
  writer : ∀ frame s x, p.writer = .writing frame (some (s, x)) → env.FrameFor frame s x
  log : env.FramesLabelled

namespace Pipeline.Labelled

/-- A session just started, on a server just started. -/
theorem start (store : Bucket) : Labelled (Env.init store) ⟨.reading, .waiting, [], []⟩ where
  reader _ _ reading := by simp at reading
  fwds _ mem := absurd mem (List.not_mem_nil _)
  buffer _ mem := absurd mem (List.not_mem_nil _)
  writer _ _ _ writing := by cases writing
  log _ _ _ mem := absurd mem (List.not_mem_nil _)

/-- A step that keeps the topics and writes no frame. -/
theorem of_env {env env' : Env} {p : Pipeline} (lab : Labelled env p) (keeps : env.KeepsTopics env')
    (quiet : ∃ E, env'.log = env.log ++ E ∧ ∀ s, written s E = []) : Labelled env' p where
  reader boxID s reading := keeps.labels (lab.reader boxID s reading)
  fwds fwd mem := ⟨keeps.labels (lab.fwds fwd mem).1, (lab.fwds fwd mem).2⟩
  buffer b mem := keeps.frameFor (lab.buffer b mem)
  writer frame s x writing := keeps.frameFor (lab.writer frame s x writing)
  log frame s x mem := by
    obtain ⟨E, log, none_⟩ := quiet
    rcases List.mem_append.mp (log ▸ mem) with old | new
    · exact keeps.frameFor (lab.log frame s x old)
    · simpa [none_ s] using mem_written_of_mem new

/-- A server step. -/
theorem env_step {env env' : Env} {p : Pipeline} (lab : Labelled env p) {cap : Nat} {act : EnvAct}
    (stepped : env.step cap act = some env') : Labelled env' p :=
  lab.of_env (Env.step_keepsTopics stepped) (Env.step_frame stepped).log

/-- The session logging a command. -/
theorem note {env : Env} {p : Pipeline} (lab : Labelled env p) {e : Event}
    (quiet : ∀ s, e.writtenFrom s = none ∧ e.enqueuedTo s = none) : Labelled (env.note e) p :=
  lab.of_env (.of_bus rfl) (Env.Frame.note env quiet).log

/-- The session's `Unsub`. -/
theorem unsub {env : Env} {p : Pipeline} (lab : Labelled env p) (i : Nat) :
    Labelled (env.unsub i) p :=
  lab.of_env (.of_modify rfl fun _ => rfl) (Env.Frame.unsub env i).log

/-- A receive by a forwarder. -/
theorem receive {env env' : Env} {p : Pipeline} (lab : Labelled env p) {i : Nat}
    {got : Received Item} (received : env.receive i = some (got, env')) : Labelled env' p :=
  lab.of_env (.of_modify (Env.receive_bus received) fun _ => rfl)
    ⟨[], by simp [Env.receive_log received], fun _ => rfl⟩

/-- `watch` subscribing the session under the hex encoding of an id of the right length. -/
theorem subscribe {env : Env} {p : Pipeline} (lab : Labelled env p) {boxID : List UInt8}
    (sized : boxID.length = dropBoxIDSize) :
    Labelled ((env.sub (Hex.encodeToString boxID)).note (.watch boxID))
      { p with reader := .pickingUp boxID env.bus.length } := by
  have stays : Labelled ((env.sub (Hex.encodeToString boxID)).note (.watch boxID)) p :=
    lab.of_env (.of_subscribe rfl)
      ⟨[.subscribe env.bus.length (Hex.encodeToString boxID), .watch boxID],
        by simp [Env.note, Env.sub], fun s => by simp [Event.writtenFrom]⟩
  refine { stays with reader := ?_ }
  rintro _ _ (picking | ⟨_, sending⟩)
  · cases picking
    exact ⟨sized, _, by simp only [Env.note, Env.sub]; rw [getElem?_subscribe, if_pos rfl], rfl⟩
  · cases sending

/-- The reader returning. -/
theorem stopReading {env : Env} {p : Pipeline} (lab : Labelled env p) :
    Labelled env { p with reader := .exited } :=
  { lab with reader := fun _ _ reading => by simp at reading }

/-- `watch` taking the stored package for its queue. -/
theorem pickUp {env : Env} {p : Pipeline} (lab : Labelled env p) {boxID : List UInt8} {s : Nat}
    (picking : p.reader = .pickingUp boxID s) (x : Item) :
    Labelled env { p with reader := .sending boxID s x } :=
  { lab with
    reader := fun _ _ reading => by
      rcases reading with picking' | ⟨_, sending⟩
      · cases picking'
      · cases sending
        exact lab.reader _ _ (.inl picking) }

/-- The reader's forwarder for its queue, started. -/
theorem spawn {env : Env} {p : Pipeline} (lab : Labelled env p) {boxID : List UInt8} {s : Nat}
    (reading : p.reader = .pickingUp boxID s ∨ ∃ x, p.reader = .sending boxID s x) :
    Labelled env (p.spawn boxID s) :=
  { lab with
    reader := fun _ _ reading' => by simp [Pipeline.spawn] at reading'
    fwds := fun fwd mem => by
      rcases List.mem_append.mp mem with old | new
      · exact lab.fwds fwd old
      · rw [List.mem_singleton.mp new]
        exact ⟨lab.reader boxID s reading, fun _ _ sending => by cases sending⟩ }

/-- Forwarder `i` moving to a program point whose frame, if any, is framed with its box id. -/
theorem setFwd {env : Env} {p : Pipeline} (lab : Labelled env p) {i : Nat} {fwd : Forwarder}
    (found : p.fwds[i]? = some fwd) {pc : ForwarderPc}
    (framed : ∀ frame x, pc = .sending frame x → frame = watchFrame fwd.boxID x.pkg) :
    Labelled env (p.setFwd i fwd pc) :=
  { lab with
    fwds := fun fwd' mem => by
      rcases List.mem_or_eq_of_mem_set mem with old | rfl
      · exact lab.fwds fwd' old
      · exact ⟨(lab.fwds fwd (List.mem_iff_getElem?.mpr ⟨i, found⟩)).1, framed⟩ }

/-- What forwarder `i` sends is the frame of its item. -/
theorem frameFor_of_sending {env : Env} {p : Pipeline} (lab : Labelled env p) {i : Nat}
    {fwd : Forwarder} (found : p.fwds[i]? = some fwd) {frame : List UInt8} {x : Item}
    (sending : fwd.pc = .sending frame x) : env.FrameFor frame fwd.sub x :=
  have labelled := lab.fwds fwd (List.mem_iff_getElem?.mpr ⟨i, found⟩)
  ⟨fwd.boxID, labelled.1, labelled.2 frame x sending⟩

/-- The writer taking forwarder `i`'s frame directly. -/
theorem handOver {env : Env} {p : Pipeline} (lab : Labelled env p) {i : Nat} {fwd : Forwarder}
    {frame : List UInt8} {x : Item} (found : p.fwds[i]? = some fwd)
    (sending : fwd.pc = .sending frame x) :
    Labelled env { p.setFwd i fwd .selecting with writer := .writing frame (some (fwd.sub, x)) } :=
  { lab.setFwd found (fun _ _ selecting => by cases selecting) with
    writer := fun _ _ _ writing => by
      cases writing
      exact lab.frameFor_of_sending found sending }

/-- Forwarder `i` putting its frame at the back of the buffer. -/
theorem bufferFrame {env : Env} {p : Pipeline} (lab : Labelled env p) {i : Nat} {fwd : Forwarder}
    {frame : List UInt8} {x : Item} (found : p.fwds[i]? = some fwd)
    (sending : fwd.pc = .sending frame x) :
    Labelled env { p.setFwd i fwd .selecting with buffer := p.buffer ++ [(frame, fwd.sub, x)] } :=
  { lab.setFwd found (fun _ _ selecting => by cases selecting) with
    buffer := fun b mem => by
      rcases List.mem_append.mp mem with old | new
      · exact lab.buffer b old
      · rw [List.mem_singleton.mp new]
        exact lab.frameFor_of_sending found sending }

/-- The writer taking the frame at the front of the buffer. -/
theorem takeFrame {env : Env} {p : Pipeline} (lab : Labelled env p) {frame : List UInt8} {t : Nat}
    {x : Item} {rest : List (List UInt8 × Nat × Item)} (front : p.buffer = (frame, t, x) :: rest) :
    Labelled env { p with buffer := rest, writer := .writing frame (some (t, x)) } :=
  { lab with
    buffer := fun b mem => lab.buffer b (by rw [front]; exact List.mem_cons_of_mem _ mem)
    writer := fun _ _ _ writing => by
      cases writing
      exact lab.buffer _ (by rw [front]; exact List.mem_cons_self _ _) }

/-- The writer taking a frame that carries no package. -/
theorem takeMessage {env : Env} {p : Pipeline} (lab : Labelled env p) (msg : List UInt8) :
    Labelled env { p with writer := .writing msg none } :=
  { lab with writer := fun _ _ _ writing => by cases writing }

/-- The writer returning. -/
theorem stop {env : Env} {p : Pipeline} (lab : Labelled env p) :
    Labelled env { p with writer := .exited } :=
  { lab with writer := fun _ _ _ writing => by cases writing }

/-- The writer writing the frame it took. -/
theorem write {env : Env} {p : Pipeline} (lab : Labelled env p) {frame : List UInt8}
    {source : Option (Nat × Item)} (writing : p.writer = .writing frame source) :
    Labelled (env.write frame source) { p with writer := .waiting } :=
  { lab with
    writer := fun _ _ _ waiting => by cases waiting
    log := fun frame' s x mem => by
      rcases List.mem_append.mp mem with old | new
      · exact lab.log frame' s x old
      · cases List.mem_singleton.mp new
        exact lab.writer _ _ _ writing }

end Pipeline.Labelled

/-! ## The sessions -/

namespace Listener

/-- A command the reader takes keeps the frames labelled. -/
theorem dispatch_labelled {env env' : Env} {pl pl' : Listener} (lab : pl.pipeline.Labelled env)
    {frame : List UInt8} (dispatched : pl.dispatch env frame = .ok (env', pl')) :
    pl'.pipeline.Labelled env' := by
  unfold Listener.dispatch at dispatched
  split at dispatched
  · simp only [Listener.watch, Except.ok.injEq] at dispatched
    split_ifs at dispatched with sized
    · cases dispatched; exact lab
    · split at dispatched
      · cases dispatched; exact lab
      · cases dispatched; exact lab.subscribe (by simpa using sized)
  · simp only [Listener.ignore] at dispatched
    split_ifs at dispatched
    · cases dispatched; exact lab
    · split at dispatched
      · cases dispatched; exact lab
      · split_ifs at dispatched
        cases dispatched
        exact lab.note fun _ => ⟨rfl, rfl⟩
  · cases dispatched; exact lab

/-- Every step of the listener or of the server around it keeps the frames labelled. -/
theorem step_labelled {cap : Nat} {env env' : Env} {pl pl' : Listener}
    (lab : pl.pipeline.Labelled env) {act : ListenerAct}
    (stepped : pl.step cap env act = some (.ok (env', pl'))) : pl'.pipeline.Labelled env' := by
  cases step_eq_some stepped with
  | env envStepped => exact lab.env_step envStepped
  | read _ dispatched => exact dispatch_labelled lab dispatched
  | readEnd => exact lab.stopReading
  | pickUpEmpty picking => exact lab.spawn (.inl picking)
  | pickUp picking => exact lab.pickUp picking _
  | pickupSent sending sent =>
    obtain ⟨-, -, -, -, rfl⟩ := Env.send_eq_ok sent
    exact (lab.of_env (.of_push rfl) (Env.Frame.send sent).log).spawn
      (.inr ⟨_, sending⟩)
  | fwdClosed found => exact (lab.setFwd found fun _ _ exited => by cases exited).unsub _
  | fwdEnd found _ received =>
    rw [Env.receive_closed received]
    exact (lab.setFwd found fun _ _ exited => by cases exited).unsub _
  | fwdReceive found _ received =>
    exact (lab.receive received).setFwd found fun _ _ sending => by cases sending; rfl
  | writerReceive found sending => exact lab.handOver found sending
  | writerEnd | writeFails => exact lab.stop
  | write writing => exact lab.write writing
  | stopWake | stopFinish => exact lab

end Listener

namespace SocketServer

/-- A command the reader takes keeps the frames labelled. -/
theorem dispatch_labelled {env env' : Env} {ss ss' : SocketServer} (lab : ss.pipeline.Labelled env)
    {frame : List UInt8} (dispatched : ss.dispatch env frame = (env', ss')) :
    ss'.pipeline.Labelled env' := by
  unfold SocketServer.dispatch at dispatched
  split at dispatched
  · simp only [SocketServer.watchBox] at dispatched
    split_ifs at dispatched with sized
    · cases dispatched; exact lab
    · split at dispatched
      · cases dispatched; exact lab
      · cases dispatched; exact lab.subscribe (by simpa using sized)
  · simp only [SocketServer.ignoreBox] at dispatched
    split at dispatched
    · cases dispatched; exact lab
    · cases dispatched
      exact (lab.unsub _).note fun _ => ⟨rfl, rfl⟩
  · cases dispatched; exact lab

/-- Every step of the socket server or of the server around it keeps the frames labelled. -/
theorem step_labelled {cap : Nat} {env env' : Env} {ss ss' : SocketServer}
    (lab : ss.pipeline.Labelled env) {act : SocketAct}
    (stepped : ss.step cap env act = some (.ok (env', ss'))) : ss'.pipeline.Labelled env' := by
  cases step_eq_some stepped with
  | env envStepped => exact lab.env_step envStepped
  | messageDropped | message => exact lab
  | read _ dispatched => exact dispatch_labelled lab dispatched
  | readEnd => exact lab.stopReading
  | pickUpEmpty picking => exact lab.spawn (.inl picking)
  | pickUp picking => exact lab.pickUp picking _
  | pickupSent sending sent =>
    obtain ⟨-, -, -, -, rfl⟩ := Env.send_eq_ok sent
    exact (lab.of_env (.of_push rfl) (Env.Frame.send sent).log).spawn
      (.inr ⟨_, sending⟩)
  | fwdClosed found => exact lab.setFwd found fun _ _ exited => by cases exited
  | fwdEnd found _ received =>
    rw [Env.receive_closed received]
    exact lab.setFwd found fun _ _ exited => by cases exited
  | fwdReceive found _ received =>
    exact (lab.receive received).setFwd found fun _ _ sending => by cases sending; rfl
  | fwdSend found sending => exact lab.bufferFrame found sending
  | writerMessage => exact lab.takeMessage _
  | writerPackage _ front => exact lab.takeFrame front
  | writerMessagesEnd | writerPackagesEnd | writerClosed | writeFails => exact lab.stop
  | write writing => exact lab.write writing

end SocketServer

/-- Every reachable world's frames are labelled: by its listener's pipeline while no panic
ended the process, and by the one it had before the panic after. -/
theorem ListenerWorld.Reachable.framesLabelled {cap : Nat} {w : ListenerWorld}
    (reach : ListenerWorld.Reachable cap w) :
    ∃ pl : Listener, pl.pipeline.Labelled w.env ∧ (w.panic = none → pl = w.pl) := by
  induction reach with
  | init store => exact ⟨Listener.start, Pipeline.Labelled.start store, fun _ => rfl⟩
  | step act _ stepped ih =>
    obtain ⟨pl, lab, same⟩ := ih
    obtain ⟨calm, ⟨_, -, rfl⟩ | ⟨env', pl', sessionStepped, rfl⟩⟩ :=
      ListenerWorld.step_eq_some stepped
    · exact ⟨pl, lab, fun panicked => by cases panicked⟩
    · rw [same calm] at lab
      exact ⟨pl', Listener.step_labelled lab sessionStepped, fun _ => rfl⟩

/-- Every reachable world's frames are labelled, as for the listener. -/
theorem SocketWorld.Reachable.framesLabelled {cap : Nat} {w : SocketWorld}
    (reach : SocketWorld.Reachable cap w) :
    ∃ ss : SocketServer, ss.pipeline.Labelled w.env ∧ (w.panic = none → ss = w.ss) := by
  induction reach with
  | init store => exact ⟨SocketServer.start, Pipeline.Labelled.start store, fun _ => rfl⟩
  | step act _ stepped ih =>
    obtain ⟨ss, lab, same⟩ := ih
    obtain ⟨calm, ⟨_, -, rfl⟩ | ⟨env', ss', sessionStepped, rfl⟩⟩ :=
      SocketWorld.step_eq_some stepped
    · exact ⟨ss, lab, fun panicked => by cases panicked⟩
    · rw [same calm] at lab
      exact ⟨ss', SocketServer.step_labelled lab sessionStepped, fun _ => rfl⟩

/-- Whichever session runs, every frame it writes for a package is a 1, then the sixteen-byte
id of the box whose hex encoding is the topic of the package's queue, then the package. -/
theorem frames_name_their_box :
    (∀ (cap : Nat) (w : ListenerWorld), ListenerWorld.Reachable cap w → w.env.FramesLabelled) ∧
      ∀ (cap : Nat) (w : SocketWorld), SocketWorld.Reachable cap w → w.env.FramesLabelled :=
  ⟨fun _ _ reach => let ⟨_, lab, _⟩ := reach.framesLabelled; lab.log,
    fun _ _ reach => let ⟨_, lab, _⟩ := reach.framesLabelled; lab.log⟩

/-- In the two-PUT log, which both sessions reach, the frame of the second PUT's package names the
zero box. -/
theorem frames_name_their_box_two_puts :
    (∃ w : ListenerWorld, ListenerWorld.Reachable 1 w ∧ w.env.log = twoPuts ∧
      w.env.FrameFor (watchFrame zeroBox [2]) 0 ⟨[2], 2⟩) ∧
    ∃ w : SocketWorld, SocketWorld.Reachable 1 w ∧ w.env.log = twoPuts ∧
      w.env.FrameFor (watchFrame zeroBox [2]) 0 ⟨[2], 2⟩ :=
  let ⟨⟨w, reach, logged⟩, ⟨w', reach', logged'⟩⟩ := twoPuts_reachable
  ⟨⟨w, reach, logged, frames_name_their_box.1 1 w reach _ _ _ (by rw [logged]; decide)⟩,
    ⟨w', reach', logged', frames_name_their_box.2 1 w' reach' _ _ _ (by rw [logged']; decide)⟩⟩

end Oscar
