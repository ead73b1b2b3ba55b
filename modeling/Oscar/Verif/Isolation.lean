import Oscar.Verif.Frames
import Oscar.Verif.Topics
import Oscar.Verif.Store

/-! # Packages stay in their box

A package reaches a socket only through a queue: a publication puts it in the queues of its
topic's subscribers, and `watch` sends the package it picked up for a box into the box's new
queue. A PUT or a POST publishes on the hex encoding of a box id only a package it put under
that id (`Outcome.PubsWritten`), and a pickup reads the bucket, which holds only packages put
there. So every item in a publication, in a queue or on its way to the socket carries a
package dropped into the box its queue's topic names (`Env.Sourced`, `Pipeline.Sourced`), and
every frame either session writes for a box carries a package that the bucket held under
that box before the run or that a PUT or a POST of the run put there
(`frames_carry_dropped_packages`): no watcher of one box is sent the package of another.

The invariants are stated for any `dropped` relation between box ids and packages that holds
of every put of the run; the run lemmas take for it the bucket before the run and the puts
of the run's requests (`Dropped`, over the puts `ListenerAct.writes` and `SocketAct.writes`
of `Oscar.Verif.Store`).
-/

namespace Oscar

open PubSub

/-! ## What a run puts in the bucket -/

/-- `pkg` was dropped into box `boxID`: the bucket held it there before the run, or one of
the run's puts `writes` put it there. -/
def Dropped (store : Bucket) (writes : List (List UInt8 × List UInt8)) (boxID pkg : List UInt8) :
    Prop :=
  store boxID = some pkg ∨ (boxID, pkg) ∈ writes

/-- A request publishes on the hex encoding of a box id only packages it put under that id. -/
def Outcome.PubsWritten (o : Outcome) : Prop :=
  ∀ topic pkg, (topic, pkg) ∈ o.pubs → ∀ boxID, topic = Hex.encodeToString boxID →
    (boxID, pkg) ∈ o.writes

/-- A PUT publishes its package on the spelling of the id it put it under. -/
theorem dropPackageHandler_pubsWritten (boxIDStr : List UInt8) (body : Except String (List UInt8))
    (update : Except String Unit) : (dropPackageHandler boxIDStr body update).PubsWritten := by
  intro topic pkg published boxID named
  unfold dropPackageHandler at published ⊢
  cases parsed : parseDropBoxID boxIDStr with
  | error => simp [parsed, Outcome.refused] at published
  | ok found =>
    obtain ⟨decoded, -, rfl⟩ := parseDropBoxID_eq_ok parsed
    cases body <;> cases update <;> simp only [parsed, Outcome.refused, List.not_mem_nil,
      List.mem_singleton, Prod.mk.injEq] at published ⊢
    obtain ⟨rfl, rfl⟩ := published
    rw [named, Hex.decodeString_encodeToString] at decoded
    exact ⟨Except.ok.inj decoded, rfl⟩

/-- A POST publishes each part's package on the part's name, and puts it under the id the name
decodes to. -/
theorem sendMultiplePackagesHandler_pubsWritten {body : Except String (List PartRead)}
    {updateOrder pubOrder : List (List UInt8 × List UInt8)} {update : Except String Unit}
    {o : Outcome} (handled : sendMultiplePackagesHandler body updateOrder pubOrder update = some o) :
    o.PubsWritten := by
  unfold sendMultiplePackagesHandler at handled
  split at handled
  · cases handled; simp [Outcome.PubsWritten, Outcome.refused]
  split at handled
  · cases handled; simp [Outcome.PubsWritten, Outcome.refused]
  split_ifs at handled with orders
  split at handled <;> cases handled
  · simp [Outcome.PubsWritten, Outcome.refused]
  · intro topic pkg published boxID named
    refine List.mem_map.mpr ⟨(topic, pkg), orders.1.symm.subset (orders.2.subset published), ?_⟩
    simp [named, decodeBoxID, Hex.decodeString_encodeToString]

/-! ## Items that carry dropped packages -/

section Carries

variable (dropped : List UInt8 → List UInt8 → Prop)

/-- Item `x`, on a queue of topic `topic`, carries a package dropped into the box the topic
names, if it names one. -/
def Carries (topic : List UInt8) (x : Item) : Prop :=
  ∀ boxID, topic = Hex.encodeToString boxID → dropped boxID x.pkg

/-- Item `x` may go into queue `i`: the queue is on the bus, and `x` carries a package dropped
into the box its topic names. -/
def Env.Admits (env : Env) (i : Nat) (x : Item) : Prop :=
  ∃ sub : Subscription (List UInt8) Item, env.bus[i]? = some sub ∧ Carries dropped sub.topic x

/-- Every queue holds only items that carry packages dropped into its topic's box. -/
def BusCarries (bus : List (Subscription (List UInt8) Item)) : Prop :=
  ∀ (i : Nat) (sub : Subscription (List UInt8) Item), bus[i]? = some sub →
    ∀ x ∈ sub.queue, Carries dropped sub.topic x

/-- The server's side: the bucket holds dropped packages, every publication not begun carries
a package dropped into its topic's box, the one in progress may go into each queue it has
still to deliver to, and the queues hold such items only. -/
structure Env.Sourced (env : Env) : Prop where
  store : ∀ boxID pkg, env.store boxID = some pkg → dropped boxID pkg
  todo : ∀ p ∈ env.pubs, ∀ e ∈ p.todo, Carries dropped e.1 e.2
  current : ∀ p ∈ env.pubs, ∀ x rest, p.current = some (x, rest) → ∀ i ∈ rest,
    env.Admits dropped i x
  bus : BusCarries dropped env.bus

/-- The session's side, with the server's: the package the reader picked up was dropped into
its box, and every item a forwarder holds, buffered, being written or written may go into its
queue. -/
structure Pipeline.Sourced (env : Env) (p : Pipeline) : Prop where
  server : env.Sourced dropped
  reader : ∀ boxID s x, p.reader = .sending boxID s x → dropped boxID x.pkg
  fwds : ∀ fwd ∈ p.fwds, ∀ frame x, fwd.pc = .sending frame x → env.Admits dropped fwd.sub x
  buffer : ∀ b ∈ p.buffer, env.Admits dropped b.2.1 b.2.2
  writer : ∀ frame s x, p.writer = .writing frame (some (s, x)) → env.Admits dropped s x
  log : ∀ frame s x, Event.write frame (some (s, x)) ∈ env.log → env.Admits dropped s x

end Carries

section Steps

variable {dropped : List UInt8 → List UInt8 → Prop}

/-- An item that may go into a queue still may after a step that keeps the topics. -/
theorem Env.KeepsTopics.admits {env env' : Env} (keeps : env.KeepsTopics env') {i : Nat}
    {x : Item} (admits : env.Admits dropped i x) : env'.Admits dropped i x :=
  let ⟨sub, found, carries⟩ := admits
  let ⟨sub', found', same⟩ := keeps i sub found
  ⟨sub', found', by rw [same]; exact carries⟩

/-! ## The queues -/

namespace BusCarries

variable {bus : List (Subscription (List UInt8) Item)}

/-- A change to one queue that keeps its topic and adds only items that carry packages
dropped into its box. -/
theorem modify (carries : BusCarries dropped bus) {i : Nat}
    {change : Subscription (List UInt8) Item → Subscription (List UInt8) Item}
    (kept : ∀ sub, bus[i]? = some sub → (change sub).topic = sub.topic ∧
      ∀ x ∈ (change sub).queue, x ∈ sub.queue ∨ Carries dropped sub.topic x) :
    BusCarries dropped (PubSub.modify bus i change) := by
  intro j sub' found' x mem
  rw [getElem?_modify] at found'
  split_ifs at found' with same
  · subst same
    obtain ⟨sub, found, rfl⟩ := Option.map_eq_some'.mp found'
    obtain ⟨topic, queue⟩ := kept sub found
    rw [topic]
    exact (queue x mem).elim (carries _ sub found x) id
  · exact carries j sub' found' x mem

/-- Pushing an item that may go into the queue keeps every queue holding dropped packages only. -/
theorem push {env : Env} (carries : BusCarries dropped env.bus) {i : Nat} {x : Item}
    (admits : env.Admits dropped i x) : BusCarries dropped (push env.bus i x) :=
  carries.modify fun sub found => ⟨rfl, fun y mem => (List.mem_append.mp mem).imp_right fun new => by
    obtain ⟨sub', found', carried⟩ := admits
    cases found.symm.trans found'
    rwa [List.mem_singleton.mp new]⟩

/-- Popping keeps every queue holding dropped packages only. -/
theorem pop (carries : BusCarries dropped bus) (i : Nat) : BusCarries dropped (pop bus i) :=
  carries.modify fun _ _ => ⟨rfl, fun _ mem => .inl (List.mem_of_mem_drop mem)⟩

/-- `Unsub` keeps every queue holding dropped packages only. -/
theorem unsubscribe (carries : BusCarries dropped bus) (i : Nat) :
    BusCarries dropped (unsubscribe bus i) :=
  carries.modify fun _ _ => ⟨rfl, fun _ mem => .inl mem⟩

/-- A new subscription starts empty, so every queue still holds dropped packages only. -/
theorem subscribe (carries : BusCarries dropped bus) (topic : List UInt8) (mine : Bool) :
    BusCarries dropped (subscribe bus topic mine) := by
  intro j sub found x mem
  rw [getElem?_subscribe] at found
  split_ifs at found
  · cases found; cases mem
  · exact carries j sub found x mem

end BusCarries

/-! ## The server's side -/

namespace Env.Sourced

variable {env env' : Env}

/-- A step that leaves the bucket and the publications alone, keeps the topics, and keeps the
queues holding items that carry dropped packages. -/
theorem of_bus (src : env.Sourced dropped) (store : env'.store = env.store)
    (pubs : env'.pubs = env.pubs) (keeps : env.KeepsTopics env') (bus : BusCarries dropped env'.bus) :
    env'.Sourced dropped where
  store boxID pkg found := src.store boxID pkg (store ▸ found)
  todo p mem := src.todo p (pubs ▸ mem)
  current p mem x rest cur i target := keeps.admits (src.current p (pubs ▸ mem) x rest cur i target)
  bus := bus

/-- Publisher `j` moving on, and perhaps delivering: what it has still to publish is part of
what it had, and the item it is delivering may go into each queue it has still to deliver to. -/
theorem setPub (src : env.Sourced dropped) {j : Nat} {p p' : Publisher}
    (found : env.pubs[j]? = some p) (store : env'.store = env.store)
    (pubs : env'.pubs = env.pubs.set j p') (keeps : env.KeepsTopics env')
    (bus : BusCarries dropped env'.bus) (todo : ∀ e ∈ p'.todo, e ∈ p.todo)
    (current : ∀ x rest, p'.current = some (x, rest) → ∀ i ∈ rest, env.Admits dropped i x) :
    env'.Sourced dropped where
  store boxID pkg found' := src.store boxID pkg (store ▸ found')
  todo q mem e entry := by
    rcases List.mem_or_eq_of_mem_set (pubs ▸ mem) with old | rfl
    · exact src.todo q old e entry
    · exact src.todo p (List.mem_iff_getElem?.mpr ⟨j, found⟩) e (todo e entry)
  current q mem x rest cur i target := by
    refine keeps.admits ?_
    rcases List.mem_or_eq_of_mem_set (pubs ▸ mem) with old | rfl
    · exact src.current q old x rest cur i target
    · exact current x rest cur i target
  bus := bus

/-- A request that puts only dropped packages, and publishes on a box's encoding only what it
put under that box. -/
theorem serve (src : env.Sourced dropped) {o : Outcome}
    (written : ∀ e ∈ o.writes, dropped e.1 e.2) (pubsWritten : o.PubsWritten) (returns : Bool) :
    (env.serve o returns).Sourced dropped where
  store boxID pkg found :=
    (Bucket.commit_eq_some found).elim (src.store boxID pkg) fun put => written _ put
  todo p mem e entry := by
    rcases List.mem_append.mp mem with old | new
    · exact src.todo p old e entry
    · rw [List.mem_singleton.mp new] at entry
      obtain ⟨⟨topic, pkg⟩, published, rfl⟩ := List.mem_map.mp entry
      exact fun boxID named => written _ (pubsWritten topic pkg published boxID named)
  current p mem x rest cur := by
    rcases List.mem_append.mp mem with old | new
    · exact src.current p old x rest cur
    · rw [List.mem_singleton.mp new] at cur
      cases cur
  bus := src.bus

end Env.Sourced

/-- Every server step whose puts are of dropped packages keeps the server's side sourced. -/
theorem Env.step_sourced {cap : Nat} {env env' : Env} {act : EnvAct} (src : env.Sourced dropped)
    (written : ∀ e ∈ act.writes, dropped e.1 e.2) (stepped : env.step cap act = some env') :
    env'.Sourced dropped := by
  cases Env.step_eq_some stepped with
  | put => exact src.serve written (dropPackageHandler_pubsWritten _ _ _) true
  | send handled =>
    simp only [EnvAct.writes, handled, Option.map_some', Option.getD_some] at written
    exact src.serve written (sendMultiplePackagesHandler_pubsWritten handled) false
  | pub found =>
    refine src.setPub found rfl rfl (.of_bus rfl) src.bus (fun _ mem => .tail _ mem)
      fun x rest cur i target => ?_
    cases cur
    obtain ⟨sub, busFound, -, topic⟩ := mem_subscribers.mp target
    exact ⟨sub, busFound, topic ▸ src.todo _ (List.mem_iff_getElem?.mpr ⟨_, found⟩) _ (.head _)⟩
  | deliverGone found _ | deliverClosed found _ _ =>
    refine src.setPub found rfl rfl (.of_bus rfl) src.bus (fun _ => id) fun x rest cur i target => ?_
    cases cur
    exact src.current _ (List.mem_iff_getElem?.mpr ⟨_, found⟩) _ _ rfl i (.tail _ target)
  | deliver found =>
    have current := src.current _ (List.mem_iff_getElem?.mpr ⟨_, found⟩) _ _ rfl
    refine src.setPub found rfl rfl (.of_push rfl) (src.bus.push (current _ (.head _))) (fun _ => id)
      fun x rest cur i target => ?_
    cases cur
    exact current i (.tail _ target)
  | finish found =>
    exact src.setPub found rfl rfl (.of_bus rfl) src.bus (fun _ => id) fun _ _ cur => by cases cur
  | otherSub => exact src.of_bus rfl rfl (.of_subscribe rfl) (src.bus.subscribe _ _)
  | otherRecv => exact src.of_bus rfl rfl (.of_modify rfl fun _ => rfl) (src.bus.pop _)
  | otherUnsub => exact src.of_bus rfl rfl (.of_modify rfl fun _ => rfl) (src.bus.unsubscribe _)

/-! ## The session's side -/

namespace Pipeline.Sourced

variable {env env' : Env} {p : Pipeline}

/-- A session just started, on a server whose bucket holds dropped packages only. -/
theorem start {store : Bucket} (stored : ∀ boxID pkg, store boxID = some pkg → dropped boxID pkg) :
    Sourced dropped (Env.init store) ⟨.reading, .waiting, [], []⟩ where
  server := ⟨stored, fun _ mem => absurd mem (List.not_mem_nil _),
    fun _ mem => absurd mem (List.not_mem_nil _), fun _ _ found => by simp [Env.init] at found⟩
  reader _ _ _ reading := by cases reading
  fwds _ mem := absurd mem (List.not_mem_nil _)
  buffer _ mem := absurd mem (List.not_mem_nil _)
  writer _ _ _ writing := by cases writing
  log _ _ _ mem := absurd mem (List.not_mem_nil _)

/-- A step of the server's side that keeps the topics and writes no frame. -/
theorem of_env (src : Sourced dropped env p) (server : env'.Sourced dropped)
    (keeps : env.KeepsTopics env') (quiet : ∃ E, env'.log = env.log ++ E ∧ ∀ s, written s E = []) :
    Sourced dropped env' p where
  server := server
  reader := src.reader
  fwds fwd mem frame x sending := keeps.admits (src.fwds fwd mem frame x sending)
  buffer b mem := keeps.admits (src.buffer b mem)
  writer frame s x writing := keeps.admits (src.writer frame s x writing)
  log frame s x mem := by
    obtain ⟨E, log, none_⟩ := quiet
    rcases List.mem_append.mp (log ▸ mem) with old | new
    · exact keeps.admits (src.log frame s x old)
    · simpa [none_ s] using mem_written_of_mem new

/-- A server step whose puts are of dropped packages. -/
theorem env_step (src : Sourced dropped env p) {cap : Nat} {act : EnvAct}
    (written : ∀ e ∈ act.writes, dropped e.1 e.2) (stepped : env.step cap act = some env') :
    Sourced dropped env' p :=
  src.of_env (Env.step_sourced src.server written stepped) (Env.step_keepsTopics stepped)
    (Env.step_frame stepped).log

/-- The session logging a command. -/
theorem note (src : Sourced dropped env p) {e : Event}
    (quiet : ∀ s, e.writtenFrom s = none ∧ e.enqueuedTo s = none) : Sourced dropped (env.note e) p :=
  src.of_env (src.server.of_bus rfl rfl (.of_bus rfl) src.server.bus) (.of_bus rfl)
    (Env.Frame.note env quiet).log

/-- The session's `Unsub`. -/
theorem unsub (src : Sourced dropped env p) (i : Nat) : Sourced dropped (env.unsub i) p :=
  src.of_env (src.server.of_bus rfl rfl (.of_modify rfl fun _ => rfl) (src.server.bus.unsubscribe i))
    (.of_modify rfl fun _ => rfl) (Env.Frame.unsub env i).log

/-- A receive by a forwarder. -/
theorem receive (src : Sourced dropped env p) {i : Nat} {got : Received Item}
    (received : env.receive i = some (got, env')) : Sourced dropped env' p := by
  rw [Env.receive_eq received]
  exact src.of_env (src.server.of_bus rfl rfl (.of_modify rfl fun _ => rfl) (src.server.bus.pop i))
    (.of_modify rfl fun _ => rfl) ⟨[], (List.append_nil _).symm, fun _ => rfl⟩

/-- `watch` subscribing the session. -/
theorem subscribe (src : Sourced dropped env p) (boxID : List UInt8) :
    Sourced dropped ((env.sub (Hex.encodeToString boxID)).note (.watch boxID))
      { p with reader := .pickingUp boxID env.bus.length } :=
  have stays : Sourced dropped ((env.sub (Hex.encodeToString boxID)).note (.watch boxID)) p :=
    src.of_env (src.server.of_bus rfl rfl (.of_subscribe rfl) (src.server.bus.subscribe _ _))
      (.of_subscribe rfl) ⟨[.subscribe env.bus.length (Hex.encodeToString boxID), .watch boxID],
        by simp [Env.note, Env.sub], fun s => by simp [Event.writtenFrom]⟩
  { stays with reader := fun _ _ _ reading => by cases reading }

/-- The reader returning. -/
theorem stopReading (src : Sourced dropped env p) : Sourced dropped env { p with reader := .exited } :=
  { src with reader := fun _ _ _ reading => by cases reading }

/-- `watch` taking the package stored under its box, which was dropped there. -/
theorem pickUp (src : Sourced dropped env p) {boxID : List UInt8} {s : Nat} {x : Item}
    (stored : dropped boxID x.pkg) : Sourced dropped env { p with reader := .sending boxID s x } :=
  { src with reader := fun _ _ _ reading => by cases reading; exact stored }

/-- `watch` sending the package it picked up into its box's queue. -/
theorem send (src : Sourced dropped env p) {boxID : List UInt8} {s cap : Nat} {x : Item}
    (labelled : env.Labels s boxID) (sending : p.reader = .sending boxID s x)
    (sent : env.send cap s x = some (.ok env')) : Sourced dropped env' p := by
  obtain ⟨-, -, -, -, rfl⟩ := Env.send_eq_ok sent
  obtain ⟨-, sub, found, topic⟩ := labelled
  have admits : env.Admits dropped s x := ⟨sub, found, fun boxID' named => by
    rw [← Hex.encodeToString_injective (topic.symm.trans named)]
    exact src.reader boxID s x sending⟩
  exact src.of_env (src.server.of_bus rfl rfl (.of_push rfl) (src.server.bus.push admits))
    (.of_push rfl) (Env.Frame.send sent).log

/-- The reader's forwarder for its queue, started. -/
theorem spawn (src : Sourced dropped env p) (boxID : List UInt8) (s : Nat) :
    Sourced dropped env (p.spawn boxID s) :=
  { src with
    reader := fun _ _ _ reading => by cases reading
    fwds := fun fwd mem frame x sending => by
      rcases List.mem_append.mp mem with old | new
      · exact src.fwds fwd old frame x sending
      · rw [List.mem_singleton.mp new] at sending
        cases sending }

/-- Forwarder `i` moving to a program point whose item, if any, may go into its queue. -/
theorem setFwd (src : Sourced dropped env p) {i : Nat} {fwd : Forwarder} {pc : ForwarderPc}
    (admitted : ∀ frame x, pc = .sending frame x → env.Admits dropped fwd.sub x) :
    Sourced dropped env (p.setFwd i fwd pc) :=
  { src with
    fwds := fun fwd' mem => by
      rcases List.mem_or_eq_of_mem_set mem with old | rfl
      · exact src.fwds fwd' old
      · exact admitted }

/-- The item forwarder `i` holds may go into its queue. -/
theorem admits_of_sending (src : Sourced dropped env p) {i : Nat} {fwd : Forwarder}
    (found : p.fwds[i]? = some fwd) {frame : List UInt8} {x : Item}
    (sending : fwd.pc = .sending frame x) : env.Admits dropped fwd.sub x :=
  src.fwds fwd (List.mem_iff_getElem?.mpr ⟨i, found⟩) frame x sending

/-- The writer taking forwarder `i`'s frame directly. -/
theorem handOver (src : Sourced dropped env p) {i : Nat} {fwd : Forwarder} {frame : List UInt8}
    {x : Item} (found : p.fwds[i]? = some fwd) (sending : fwd.pc = .sending frame x) :
    Sourced dropped env
      { p.setFwd i fwd .selecting with writer := .writing frame (some (fwd.sub, x)) } :=
  { src.setFwd (fun _ _ selecting => by cases selecting) with
    writer := fun _ _ _ writing => by
      cases writing
      exact src.admits_of_sending found sending }

/-- Forwarder `i` putting its frame at the back of the buffer. -/
theorem bufferFrame (src : Sourced dropped env p) {i : Nat} {fwd : Forwarder} {frame : List UInt8}
    {x : Item} (found : p.fwds[i]? = some fwd) (sending : fwd.pc = .sending frame x) :
    Sourced dropped env
      { p.setFwd i fwd .selecting with buffer := p.buffer ++ [(frame, fwd.sub, x)] } :=
  { src.setFwd (fun _ _ selecting => by cases selecting) with
    buffer := fun b mem => by
      rcases List.mem_append.mp mem with old | new
      · exact src.buffer b old
      · rw [List.mem_singleton.mp new]
        exact src.admits_of_sending found sending }

/-- The writer taking the frame at the front of the buffer. -/
theorem takeFrame (src : Sourced dropped env p) {frame : List UInt8} {t : Nat} {x : Item}
    {rest : List (List UInt8 × Nat × Item)} (front : p.buffer = (frame, t, x) :: rest) :
    Sourced dropped env { p with buffer := rest, writer := .writing frame (some (t, x)) } :=
  { src with
    buffer := fun b mem => src.buffer b (by rw [front]; exact List.mem_cons_of_mem _ mem)
    writer := fun _ _ _ writing => by
      cases writing
      exact src.buffer _ (by rw [front]; exact List.mem_cons_self _ _) }

/-- The writer taking a frame that carries no package. -/
theorem takeMessage (src : Sourced dropped env p) (msg : List UInt8) :
    Sourced dropped env { p with writer := .writing msg none } :=
  { src with writer := fun _ _ _ writing => by cases writing }

/-- The writer returning. -/
theorem stop (src : Sourced dropped env p) : Sourced dropped env { p with writer := .exited } :=
  { src with writer := fun _ _ _ writing => by cases writing }

/-- The writer writing the frame it took. -/
theorem write (src : Sourced dropped env p) {frame : List UInt8} {source : Option (Nat × Item)}
    (writing : p.writer = .writing frame source) :
    Sourced dropped (env.write frame source) { p with writer := .waiting } :=
  { src with
    server := src.server.of_bus rfl rfl (.of_bus rfl) src.server.bus
    writer := fun _ _ _ waiting => by cases waiting
    log := fun frame' s x mem => by
      rcases List.mem_append.mp mem with old | new
      · exact src.log frame' s x old
      · cases List.mem_singleton.mp new
        exact src.writer _ _ _ writing }

end Pipeline.Sourced

/-- A receive takes off a queue an item that may go into it. -/
theorem Env.Sourced.admits_of_receive {env env' : Env} (src : env.Sourced dropped) {i : Nat}
    {x : Item} (received : env.receive i = some (.item x, env')) : env'.Admits dropped i x := by
  obtain ⟨_, got, same⟩ := Option.map_eq_some'.mp received
  cases (Prod.mk.inj same).1
  obtain ⟨sub, q, found, front⟩ := receive_eq_item got
  exact (KeepsTopics.of_modify (Env.receive_bus received) fun _ => rfl).admits
    ⟨sub, found, src.bus i sub found x (by rw [front]; exact .head _)⟩

/-- A frame written for an item of a labelled and sourced pipeline names a box into which the
item's package was dropped. -/
theorem Pipeline.Sourced.frame_dropped {env : Env} {p : Pipeline} (lab : p.Labelled env)
    (src : p.Sourced dropped env) {frame : List UInt8} {s : Nat} {x : Item}
    (mem : Event.write frame (some (s, x)) ∈ env.log) :
    ∃ boxID, frame = watchFrame boxID x.pkg ∧ dropped boxID x.pkg := by
  obtain ⟨boxID, ⟨-, sub, found, topic⟩, shape⟩ := lab.log frame s x mem
  obtain ⟨sub', found', carries⟩ := src.log frame s x mem
  cases found.symm.trans found'
  exact ⟨boxID, shape, carries boxID topic⟩

/-- A pickup that found a package found the one stored under its box. -/
theorem Env.pickUp_stored {env : Env} {boxID : List UInt8}
    (found : (env.pickUp boxID).pkg.isEmpty = false) :
    env.store boxID = some (env.pickUp boxID).pkg := by
  simp only [Env.pickUp, pickUpPackage] at found ⊢
  cases stored : env.store boxID with
  | none => simp [stored] at found
  | some pkg => rfl

/-! ## The sessions -/

namespace Listener

/-- A command the package listener's reader takes leaves the server and the pipeline as they
were, logs an IGNORE, or subscribes the session and starts picking up for the box. -/
theorem dispatch_pipeline {env env' : Env} {pl pl' : Listener} {frame : List UInt8}
    (dispatched : pl.dispatch env frame = .ok (env', pl')) :
    (env' = env ∧ pl'.pipeline = pl.pipeline) ∨
      (∃ boxID, env' = env.note (.ignore boxID) ∧ pl'.pipeline = pl.pipeline) ∨
      ∃ boxID, env' = (env.sub (Hex.encodeToString boxID)).note (.watch boxID) ∧
        pl'.pipeline = { pl.pipeline with reader := .pickingUp boxID env.bus.length } := by
  unfold dispatch watch ignore at dispatched
  dsimp only at dispatched
  split at dispatched
  · split_ifs at dispatched
    · cases dispatched; exact .inl ⟨rfl, rfl⟩
    split at dispatched <;> cases dispatched
    · exact .inl ⟨rfl, rfl⟩
    · exact .inr (.inr ⟨_, rfl, rfl⟩)
  · split_ifs at dispatched
    · cases dispatched; exact .inl ⟨rfl, rfl⟩
    split at dispatched
    · cases dispatched; exact .inl ⟨rfl, rfl⟩
    split_ifs at dispatched
    cases dispatched
    exact .inr (.inl ⟨_, rfl, rfl⟩)
  · cases dispatched; exact .inl ⟨rfl, rfl⟩

/-- Every step of the listener, or of the server around it putting only dropped packages,
keeps the packages sourced. -/
theorem step_sourced {cap : Nat} {env env' : Env} {pl pl' : Listener} {act : ListenerAct}
    (lab : pl.pipeline.Labelled env) (src : pl.pipeline.Sourced dropped env)
    (written : ∀ e ∈ act.writes, dropped e.1 e.2)
    (stepped : pl.step cap env act = some (.ok (env', pl'))) : pl'.pipeline.Sourced dropped env' := by
  cases step_eq_some stepped with
  | env envStepped => exact src.env_step written envStepped
  | read _ dispatched =>
    rcases dispatch_pipeline dispatched with ⟨rfl, same⟩ | ⟨_, rfl, same⟩ | ⟨boxID, rfl, same⟩ <;>
      rw [same]
    · exact src
    · exact src.note fun _ => ⟨rfl, rfl⟩
    · exact src.subscribe boxID
  | readEnd => exact src.stopReading
  | pickUpEmpty => exact src.spawn _ _
  | pickUp _ stored => exact src.pickUp (src.server.store _ _ (Env.pickUp_stored stored))
  | pickupSent sending sent =>
    exact (src.send (lab.reader _ _ (.inr ⟨_, sending⟩)) sending sent).spawn _ _
  | fwdClosed => exact (src.setFwd fun _ _ exited => by cases exited).unsub _
  | fwdEnd _ _ received =>
    rw [Env.receive_closed received]
    exact (src.setFwd fun _ _ exited => by cases exited).unsub _
  | fwdReceive _ _ received =>
    exact (src.receive received).setFwd fun _ _ sending => by
      cases sending
      exact src.server.admits_of_receive received
  | writerReceive found sending => exact src.handOver found sending
  | writerEnd | writeFails => exact src.stop
  | write writing => exact src.write writing
  | stopWake | stopFinish => exact src

end Listener

namespace SocketServer

/-- A command the socket server's reader takes leaves the server and the pipeline as they
were, unsubscribes and logs an IGNORE, or subscribes the session and starts picking up for the
box. -/
theorem dispatch_pipeline {env env' : Env} {ss ss' : SocketServer} {frame : List UInt8}
    (dispatched : ss.dispatch env frame = (env', ss')) :
    (env' = env ∧ ss'.pipeline = ss.pipeline) ∨
      (∃ boxID sub, env' = (env.unsub sub).note (.ignore boxID) ∧ ss'.pipeline = ss.pipeline) ∨
      ∃ boxID, env' = (env.sub (Hex.encodeToString boxID)).note (.watch boxID) ∧
        ss'.pipeline = { ss.pipeline with reader := .pickingUp boxID env.bus.length } := by
  unfold dispatch watchBox ignoreBox at dispatched
  dsimp only at dispatched
  split at dispatched
  · split_ifs at dispatched
    · cases dispatched; exact .inl ⟨rfl, rfl⟩
    split at dispatched <;> cases dispatched
    · exact .inl ⟨rfl, rfl⟩
    · exact .inr (.inr ⟨_, rfl, rfl⟩)
  · split at dispatched <;> cases dispatched
    · exact .inl ⟨rfl, rfl⟩
    · exact .inr (.inl ⟨_, _, rfl, rfl⟩)
  · cases dispatched; exact .inl ⟨rfl, rfl⟩

/-- Every step of the socket server, or of the server around it putting only dropped packages,
keeps the packages sourced. -/
theorem step_sourced {cap : Nat} {env env' : Env} {ss ss' : SocketServer} {act : SocketAct}
    (lab : ss.pipeline.Labelled env) (src : ss.pipeline.Sourced dropped env)
    (written : ∀ e ∈ act.writes, dropped e.1 e.2)
    (stepped : ss.step cap env act = some (.ok (env', ss'))) : ss'.pipeline.Sourced dropped env' := by
  cases step_eq_some stepped with
  | env envStepped => exact src.env_step written envStepped
  | messageDropped | message => exact src
  | read _ dispatched =>
    rcases dispatch_pipeline dispatched with ⟨rfl, same⟩ | ⟨_, _, rfl, same⟩ | ⟨boxID, rfl, same⟩ <;>
      rw [same]
    · exact src
    · exact (src.unsub _).note fun _ => ⟨rfl, rfl⟩
    · exact src.subscribe boxID
  | readEnd => exact src.stopReading
  | pickUpEmpty => exact src.spawn _ _
  | pickUp _ stored =>
    exact src.pickUp (src.server.store _ _ (Env.pickUp_stored (Bool.or_eq_false_iff.mp stored).2))
  | pickupSent sending sent =>
    exact (src.send (lab.reader _ _ (.inr ⟨_, sending⟩)) sending sent).spawn _ _
  | fwdClosed => exact src.setFwd fun _ _ exited => by cases exited
  | fwdEnd _ _ received =>
    rw [Env.receive_closed received]
    exact src.setFwd fun _ _ exited => by cases exited
  | fwdReceive _ _ received =>
    exact (src.receive received).setFwd fun _ _ sending => by
      cases sending
      exact src.server.admits_of_receive received
  | fwdSend found sending => exact src.bufferFrame found sending
  | writerMessage => exact src.takeMessage _
  | writerPackage _ front => exact src.takeFrame front
  | writerMessagesEnd | writerPackagesEnd | writerClosed | writeFails => exact src.stop
  | write writing => exact src.write writing

end SocketServer

/-! ## Runs -/

/-- A run of the listener's world whose puts are of dropped packages keeps the frames labelled
and the packages sourced; a panic changes neither. -/
theorem ListenerWorld.run_sourced {cap : Nat} :
    ∀ {w w' : ListenerWorld} {acts : List ListenerAct}, run cap w acts = some w' →
      (∀ act ∈ acts, ∀ e ∈ act.writes, dropped e.1 e.2) →
      w.pl.pipeline.Labelled w.env → w.pl.pipeline.Sourced dropped w.env →
      w'.pl.pipeline.Labelled w'.env ∧ w'.pl.pipeline.Sourced dropped w'.env
  | _, _, [], ran, _, lab, src => by cases ran; exact ⟨lab, src⟩
  | w, _, act :: acts, ran, written, lab, src => by
    simp only [run, Option.bind_eq_some] at ran
    obtain ⟨next, stepped, rest⟩ := ran
    have kept : next.pl.pipeline.Labelled next.env ∧ next.pl.pipeline.Sourced dropped next.env := by
      obtain ⟨-, ⟨_, -, rfl⟩ | ⟨env', pl', sessionStepped, rfl⟩⟩ := step_eq_some stepped
      · exact ⟨lab, src⟩
      · exact ⟨Listener.step_labelled lab sessionStepped,
          Listener.step_sourced lab src (written act (.head _)) sessionStepped⟩
    exact run_sourced rest (fun act' mem => written act' (.tail _ mem)) kept.1 kept.2

/-- A run of the socket server's world whose puts are of dropped packages keeps the frames
labelled and the packages sourced; a panic changes neither. -/
theorem SocketWorld.run_sourced {cap : Nat} :
    ∀ {w w' : SocketWorld} {acts : List SocketAct}, run cap w acts = some w' →
      (∀ act ∈ acts, ∀ e ∈ act.writes, dropped e.1 e.2) →
      w.ss.pipeline.Labelled w.env → w.ss.pipeline.Sourced dropped w.env →
      w'.ss.pipeline.Labelled w'.env ∧ w'.ss.pipeline.Sourced dropped w'.env
  | _, _, [], ran, _, lab, src => by cases ran; exact ⟨lab, src⟩
  | w, _, act :: acts, ran, written, lab, src => by
    simp only [run, Option.bind_eq_some] at ran
    obtain ⟨next, stepped, rest⟩ := ran
    have kept : next.ss.pipeline.Labelled next.env ∧ next.ss.pipeline.Sourced dropped next.env := by
      obtain ⟨-, ⟨_, -, rfl⟩ | ⟨env', ss', sessionStepped, rfl⟩⟩ := step_eq_some stepped
      · exact ⟨lab, src⟩
      · exact ⟨SocketServer.step_labelled lab sessionStepped,
          SocketServer.step_sourced lab src (written act (.head _)) sessionStepped⟩
    exact run_sourced rest (fun act' mem => written act' (.tail _ mem)) kept.1 kept.2

end Steps

/-- Whichever session runs, every frame it writes for a package names a box and carries a
package dropped into that box: one the bucket held under it before the run, or one a PUT or a
POST of the run put under it. -/
theorem frames_carry_dropped_packages (cap : Nat) (store : Bucket) :
    (∀ (acts : List ListenerAct) (w : ListenerWorld),
      (ListenerWorld.init store).run cap acts = some w →
      ∀ frame s x, Event.write frame (some (s, x)) ∈ w.env.log →
        ∃ boxID, frame = watchFrame boxID x.pkg ∧
          Dropped store (acts.flatMap ListenerAct.writes) boxID x.pkg) ∧
    ∀ (acts : List SocketAct) (w : SocketWorld), (SocketWorld.init store).run cap acts = some w →
      ∀ frame s x, Event.write frame (some (s, x)) ∈ w.env.log →
        ∃ boxID, frame = watchFrame boxID x.pkg ∧
          Dropped store (acts.flatMap SocketAct.writes) boxID x.pkg :=
  ⟨fun _ _ ran _ _ _ mem =>
    let kept := ListenerWorld.run_sourced ran
      (fun act mem _ put => .inr (List.mem_flatMap.mpr ⟨act, mem, put⟩))
      (Pipeline.Labelled.start store) (Pipeline.Sourced.start fun _ _ => .inl)
    kept.2.frame_dropped kept.1 mem,
  fun _ _ ran _ _ _ mem =>
    let kept := SocketWorld.run_sourced ran
      (fun act mem _ put => .inr (List.mem_flatMap.mpr ⟨act, mem, put⟩))
      (Pipeline.Labelled.start store) (Pipeline.Sourced.start fun _ _ => .inl)
    kept.2.frame_dropped kept.1 mem⟩

/-- WATCH the zero box, then a PUT of `[7]` to it, relayed by the listener. -/
def putRelayed : List ListenerAct :=
  [.read (some (1 :: zeroBox)), .pickUp, .env (.put zeroHex (.ok [7]) (.ok ())), .env (.pub 0),
    .env (.deliver 0), .env (.finish 0), .fwdReceive 0, .writerReceive 0, .write true]

/-- The listener relays a PUT of `[7]` to the zero box, and the frame carries a package dropped into
that box. -/
theorem frames_carry_dropped_packages_put : ∃ w : ListenerWorld,
    (ListenerWorld.init Bucket.empty).run 1 putRelayed = some w ∧
    Event.write (watchFrame zeroBox [7]) (some (0, ⟨[7], 1⟩)) ∈ w.env.log ∧
    ∃ boxID, watchFrame zeroBox [7] = watchFrame boxID [7] ∧
      Dropped Bucket.empty (putRelayed.flatMap ListenerAct.writes) boxID [7] :=
  ⟨_, rfl, by decide,
    (frames_carry_dropped_packages 1 Bucket.empty).1 putRelayed _ rfl _ 0 ⟨[7], 1⟩ (by decide)⟩

end Oscar
