import Oscar.DropBoxes.Handlers
import Oscar.PubSub

/-!
# The server around a session

What a socket session shares with the rest of the server: the `dropboxes` bucket, the bus
`dropBoxPubSub`, and the write requests in flight. A PUT (`dropPackageHandler`) commits and
replies in one step, then publishes, and returns when its publication is over. A POST
(`sendMultiplePackagesHandler`) commits, replies and returns in one step and leaves its
publications to a goroutine. A publication takes its topic's subscribers in one step and
delivers to them one step each, waiting at a full queue. Other sessions appear through
their subscriptions, which they take, drain and drop at any time.

Two ghosts ride along: the origin of each package (the request that wrote it) and the log
of the events the properties speak of. Neither is read by any step of the code.

`Env.Step` lists the ways a step can go, with the guards each checks; every step taken is
one of them (`Env.step_eq_some`), so a property of steps is proved one branch at a time.
-/

namespace Oscar

open PubSub

/-- A package as it travels: its bytes and (ghost) the write request whose package it is;
origin `0` is a package stored before the run. -/
structure Item where
  pkg : List UInt8
  origin : Nat
  deriving DecidableEq, Repr

/-- The events of a run that the properties speak of. -/
inductive Event where
  /-- A write request's handler starts, with the publications it will make; it `returns`
  after making them (a PUT) or before (a POST). -/
  | start (req : Nat) (pubs : List (List UInt8 × Item)) (returns : Bool)
  /-- A write request's handler returns. -/
  | ret (req : Nat)
  /-- A `Pub` takes the subscribers of its topic. -/
  | publish (req : Nat) (topic : List UInt8) (item : Item) (targets : List Nat)
  /-- An item is put in a queue, by a publication or by a pickup. -/
  | enqueue (sub : Nat) (item : Item)
  | subscribe (sub : Nat) (topic : List UInt8)
  | unsubscribe (sub : Nat)
  /-- The session takes a WATCH for a box it did not watch. -/
  | watch (boxID : List UInt8)
  /-- The session takes an IGNORE for a box it watched. -/
  | ignore (boxID : List UInt8)
  /-- The session writes a frame; a package frame carries its subscription and item. -/
  | write (frame : List UInt8) (source : Option (Nat × Item))
  deriving DecidableEq, Repr

/-- The Go runtime panics the properties speak of. -/
inductive Panic where
  | closeOfClosed
  | sendOnClosed
  deriving DecidableEq, Repr

/-- A write request's publications: those not begun, and the one in progress with the
subscribers it has still to deliver to. The handler `returns` when they are over. -/
structure Publisher where
  req : Nat
  todo : List (List UInt8 × Item)
  current : Option (Item × List Nat)
  returns : Bool
  deriving DecidableEq, Repr

/-- The bus, the bucket with the origin of each stored package, the publications in flight,
the next request's number and the log. -/
structure Env where
  bus : List (Subscription (List UInt8) Item)
  store : Bucket
  origins : List UInt8 → Nat
  pubs : List Publisher
  nextReq : Nat
  log : List Event

/-- A server whose bucket holds `store` from before the run. -/
def Env.init (store : Bucket) : Env := ⟨[], store, fun _ => 0, [], 1, []⟩

/-- A write request to the server, or a step of a publication or of another session. -/
inductive EnvAct where
  /-- PUT /drop-boxes/{boxIDStr} -/
  | put (boxIDStr : List UInt8) (body : Except String (List UInt8)) (update : Except String Unit)
  /-- POST /drop-boxes/send, with the orders its two `range` loops take -/
  | send (body : Except String (List PartRead))
      (updateOrder pubOrder : List (List UInt8 × List UInt8)) (update : Except String Unit)
  /-- Publisher `j`'s next `Pub` takes its subscribers. -/
  | pub (j : Nat)
  /-- Publisher `j` delivers to its next subscriber. -/
  | deliver (j : Nat)
  /-- Publisher `j`'s `Pub` returns. -/
  | finish (j : Nat)
  | otherSub (topic : List UInt8)
  | otherRecv (i : Nat)
  | otherUnsub (i : Nat)

/-- The origins after request `req` committed `writes`. -/
def stamp (origins : List UInt8 → Nat) (writes : List (List UInt8 × List UInt8)) (req : Nat) :
    List UInt8 → Nat :=
  fun box => if box ∈ writes.map (·.1) then req else origins box

/-- The publications `(topic, package)` of request `req`, as items. -/
def tag (pubs : List (List UInt8 × List UInt8)) (req : Nat) : List (List UInt8 × Item) :=
  pubs.map fun p => (p.1, ⟨p.2, req⟩)

/-- The next request's handler ran to its reply with outcome `o`. It returns at once unless
it `returns` after publishing and has something to publish. -/
def Env.serve (env : Env) (o : Outcome) (returns : Bool) : Env :=
  let req := env.nextReq
  { env with
    store := env.store.commit o.writes
    origins := stamp env.origins o.writes req
    pubs := env.pubs ++ [⟨req, tag o.pubs req, none, returns && !o.pubs.isEmpty⟩]
    nextReq := req + 1
    log := env.log ++ .start req (tag o.pubs req) returns ::
      if returns && !o.pubs.isEmpty then [] else [.ret req] }

/-- One step of the server outside the session, with queues of capacity `cap`; `none` when
it cannot be taken. -/
def Env.step (cap : Nat) (env : Env) : EnvAct → Option Env
  | .put boxIDStr body update => some (env.serve (dropPackageHandler boxIDStr body update) true)
  | .send body updateOrder pubOrder update =>
    (sendMultiplePackagesHandler body updateOrder pubOrder update).map (env.serve · false)
  | .pub j =>
    match env.pubs[j]? with
    | some ⟨req, (topic, x) :: todo, none, returns⟩ =>
      let targets := subscribers env.bus topic
      some { env with
        pubs := env.pubs.set j ⟨req, todo, some (x, targets), returns⟩
        log := env.log ++ [.publish req topic x targets] }
    | _ => none
  | .deliver j =>
    match env.pubs[j]? with
    | some ⟨req, todo, some (x, i :: rest), returns⟩ =>
      let pubs := env.pubs.set j ⟨req, todo, some (x, rest), returns⟩
      match env.bus[i]? with
      | some s =>
        if !s.live then some { env with pubs }
        else if s.queue.length < cap then
          some { env with bus := push env.bus i x, pubs, log := env.log ++ [.enqueue i x] }
        else none
      | none => some { env with pubs }
    | _ => none
  | .finish j =>
    match env.pubs[j]? with
    | some ⟨req, todo, some (_, []), returns⟩ =>
      some { env with
        pubs := env.pubs.set j ⟨req, todo, none, returns⟩
        log := env.log ++ if todo.isEmpty && returns then [.ret req] else [] }
    | _ => none
  | .otherSub topic =>
    some { env with
      bus := subscribe env.bus topic false
      log := env.log ++ [.subscribe env.bus.length topic] }
  | .otherRecv i =>
    match env.bus[i]? with
    | some s => if !s.mine && !s.queue.isEmpty then some { env with bus := pop env.bus i } else none
    | none => none
  | .otherUnsub i =>
    match env.bus[i]? with
    | some s =>
      if !s.mine && s.live then
        some { env with bus := unsubscribe env.bus i, log := env.log ++ [.unsubscribe i] }
      else none
    | none => none

/-- The ways a step of the server can go, one constructor per branch of `Env.step`, with the
guards it checks there (`Env.step_eq_some`). -/
inductive Env.Step (cap : Nat) (env : Env) : EnvAct → Env → Prop where
  | put (boxIDStr : List UInt8) (body : Except String (List UInt8)) (update : Except String Unit) :
      Env.Step cap env (.put boxIDStr body update)
        (env.serve (dropPackageHandler boxIDStr body update) true)
  | send {body : Except String (List PartRead)} {updateOrder pubOrder : List (List UInt8 × List UInt8)}
      {update : Except String Unit} {o : Outcome}
      (handled : sendMultiplePackagesHandler body updateOrder pubOrder update = some o) :
      Env.Step cap env (.send body updateOrder pubOrder update) (env.serve o false)
  | pub {j req : Nat} {topic : List UInt8} {x : Item} {todo : List (List UInt8 × Item)}
      {returns : Bool} (found : env.pubs[j]? = some ⟨req, (topic, x) :: todo, none, returns⟩) :
      Env.Step cap env (.pub j) { env with
        pubs := env.pubs.set j ⟨req, todo, some (x, subscribers env.bus topic), returns⟩
        log := env.log ++ [.publish req topic x (subscribers env.bus topic)] }
  | deliverGone {j req i : Nat} {todo : List (List UInt8 × Item)} {x : Item} {rest : List Nat}
      {returns : Bool} (found : env.pubs[j]? = some ⟨req, todo, some (x, i :: rest), returns⟩)
      (gone : env.bus[i]? = none) :
      Env.Step cap env (.deliver j)
        { env with pubs := env.pubs.set j ⟨req, todo, some (x, rest), returns⟩ }
  | deliverClosed {j req i : Nat} {todo : List (List UInt8 × Item)} {x : Item} {rest : List Nat}
      {returns : Bool} {s : Subscription (List UInt8) Item}
      (found : env.pubs[j]? = some ⟨req, todo, some (x, i :: rest), returns⟩)
      (busFound : env.bus[i]? = some s) (dead : s.live = false) :
      Env.Step cap env (.deliver j)
        { env with pubs := env.pubs.set j ⟨req, todo, some (x, rest), returns⟩ }
  | deliver {j req i : Nat} {todo : List (List UInt8 × Item)} {x : Item} {rest : List Nat}
      {returns : Bool} {s : Subscription (List UInt8) Item}
      (found : env.pubs[j]? = some ⟨req, todo, some (x, i :: rest), returns⟩)
      (busFound : env.bus[i]? = some s) (live : s.live = true) (room : s.queue.length < cap) :
      Env.Step cap env (.deliver j) { env with
        bus := push env.bus i x
        pubs := env.pubs.set j ⟨req, todo, some (x, rest), returns⟩
        log := env.log ++ [.enqueue i x] }
  | finish {j req : Nat} {todo : List (List UInt8 × Item)} {y : Item} {returns : Bool}
      (found : env.pubs[j]? = some ⟨req, todo, some (y, []), returns⟩) :
      Env.Step cap env (.finish j) { env with
        pubs := env.pubs.set j ⟨req, todo, none, returns⟩
        log := env.log ++ if todo.isEmpty && returns then [.ret req] else [] }
  | otherSub (topic : List UInt8) :
      Env.Step cap env (.otherSub topic) { env with
        bus := subscribe env.bus topic false
        log := env.log ++ [.subscribe env.bus.length topic] }
  | otherRecv {i : Nat} {s : Subscription (List UInt8) Item} (found : env.bus[i]? = some s)
      (other : s.mine = false) (nonempty : s.queue.isEmpty = false) :
      Env.Step cap env (.otherRecv i) { env with bus := pop env.bus i }
  | otherUnsub {i : Nat} {s : Subscription (List UInt8) Item} (found : env.bus[i]? = some s)
      (other : s.mine = false) (live : s.live = true) :
      Env.Step cap env (.otherUnsub i)
        { env with bus := unsubscribe env.bus i, log := env.log ++ [.unsubscribe i] }

/-- Every step the server takes is one of `Env.Step`'s. -/
theorem Env.step_eq_some {cap : Nat} {env env' : Env} :
    ∀ {act : EnvAct}, env.step cap act = some env' → Env.Step cap env act env'
  | .put .., stepped => by
    cases stepped
    exact .put ..
  | .send .., stepped => by
    obtain ⟨o, handled, rfl⟩ := Option.map_eq_some'.mp stepped
    exact .send handled
  | .pub j, stepped => by
    simp only [Env.step] at stepped
    rcases found : env.pubs[j]? with _ | ⟨req, _ | ⟨⟨topic, x⟩, todo⟩, _ | cur, returns⟩ <;>
      simp only [found] at stepped <;> try cases stepped
    exact .pub found
  | .deliver j, stepped => by
    simp only [Env.step] at stepped
    rcases found : env.pubs[j]? with _ | ⟨req, todo, _ | ⟨x, _ | ⟨i, rest⟩⟩, returns⟩ <;>
      simp only [found] at stepped <;> try cases stepped
    rcases busFound : env.bus[i]? with _ | s <;> simp only [busFound] at stepped
    · cases stepped
      exact .deliverGone found busFound
    split_ifs at stepped with dead room <;> cases stepped
    · exact .deliverClosed found busFound (by simpa using dead)
    · exact .deliver found busFound (by simpa using dead) room
  | .finish j, stepped => by
    simp only [Env.step] at stepped
    rcases found : env.pubs[j]? with _ | ⟨req, todo, _ | ⟨y, _ | ⟨i, rest⟩⟩, returns⟩ <;>
      simp only [found] at stepped <;> try cases stepped
    exact .finish found
  | .otherSub topic, stepped => by
    cases stepped
    exact .otherSub topic
  | .otherRecv i, stepped => by
    simp only [Env.step] at stepped
    rcases found : env.bus[i]? with _ | s <;> simp only [found] at stepped
    · cases stepped
    split_ifs at stepped with ready
    cases stepped
    simp only [Bool.and_eq_true, Bool.not_eq_true'] at ready
    exact .otherRecv found ready.1 ready.2
  | .otherUnsub i, stepped => by
    simp only [Env.step] at stepped
    rcases found : env.bus[i]? with _ | s <;> simp only [found] at stepped
    · cases stepped
    split_ifs at stepped with ready
    cases stepped
    simp only [Bool.and_eq_true, Bool.not_eq_true'] at ready
    exact .otherUnsub found ready.1 ready.2

/-- The session's `Sub(topic)`; the subscription is at index `env.bus.length`. -/
def Env.sub (env : Env) (topic : List UInt8) : Env :=
  { env with
    bus := subscribe env.bus topic true
    log := env.log ++ [.subscribe env.bus.length topic] }

/-- The session's `Unsub(sub, topic)`. -/
def Env.unsub (env : Env) (i : Nat) : Env :=
  { env with bus := unsubscribe env.bus i, log := env.log ++ [.unsubscribe i] }

/-- `pickUpPackage(boxID)` as the item it returns. -/
def Env.pickUp (env : Env) (boxID : List UInt8) : Item :=
  ⟨pickUpPackage env.store boxID, env.origins boxID⟩

/-- The send `sub <- tmp` on queue `i`: it panics on a closed queue and waits on a full one. -/
def Env.send (cap : Nat) (env : Env) (i : Nat) (x : Item) : Option (Except Panic Env) :=
  match env.bus[i]? with
  | some s =>
    if !s.live then some (.error .sendOnClosed)
    else if s.queue.length < cap then
      some (.ok { env with bus := push env.bus i x, log := env.log ++ [.enqueue i x] })
    else none
  | none => none

/-- A send that does not panic went into an open queue with room, and put its item at the
back and logged it. -/
theorem Env.send_eq_ok {env env' : Env} {cap i : Nat} {x : Item}
    (sent : env.send cap i x = some (.ok env')) :
    ∃ target : Subscription (List UInt8) Item, env.bus[i]? = some target ∧ target.live = true ∧
      target.queue.length < cap ∧
      env' = { env with bus := push env.bus i x, log := env.log ++ [.enqueue i x] } := by
  unfold Env.send at sent
  split at sent
  · rename_i target found
    split_ifs at sent with dead room <;> cases sent
    exact ⟨target, found, by simpa using dead, room, rfl⟩
  · cases sent

/-- A receive on queue `i`, with the queue after it. -/
def Env.receive (env : Env) (i : Nat) : Option (Received Item × Env) :=
  (PubSub.receive env.bus i).map fun got => (got, { env with bus := pop env.bus i })

/-- A receive takes the front of its queue off, and changes nothing else. -/
theorem Env.receive_eq {env env' : Env} {i : Nat} {got : Received Item}
    (received : env.receive i = some (got, env')) : env' = { env with bus := pop env.bus i } := by
  obtain ⟨_, -, ⟨⟩⟩ := Option.map_eq_some'.mp received
  rfl

/-- A receive pops the queue it reads from. -/
theorem Env.receive_bus {env env' : Env} {i : Nat} {got : Received Item}
    (received : env.receive i = some (got, env')) : env'.bus = pop env.bus i := by
  rw [Env.receive_eq received]

/-- A receive logs nothing. -/
theorem Env.receive_log {env env' : Env} {i : Nat} {got : Received Item}
    (received : env.receive i = some (got, env')) : env'.log = env.log := by
  rw [Env.receive_eq received]

/-- A receive that finds its queue closed leaves the server as it was. -/
theorem Env.receive_closed {env env' : Env} {i : Nat} (received : env.receive i = some (.closed, env')) :
    env' = env := by
  obtain ⟨_, closed, ⟨⟩⟩ := Option.map_eq_some'.mp received
  obtain ⟨sub, found, empty, -⟩ := receive_eq_closed closed
  rw [pop_of_queue_nil found empty]

/-- The session writes a frame. -/
def Env.write (env : Env) (frame : List UInt8) (source : Option (Nat × Item)) : Env :=
  { env with log := env.log ++ [.write frame source] }

/-- The session logs a command it took. -/
def Env.note (env : Env) (event : Event) : Env :=
  { env with log := env.log ++ [event] }

/-! ## Room in the queues

A step the server can take with queues of some capacity it can take with larger ones: the
capacity appears only in the tests for room. -/

/-- A server step with queues of some capacity is one with larger ones. -/
theorem Env.step_mono {cap cap' : Nat} (more : cap ≤ cap') {env env' : Env} :
    ∀ {act : EnvAct}, env.step cap act = some env' → env.step cap' act = some env'
  | .deliver j, stepped => by
    simp only [Env.step] at stepped ⊢
    rcases found : env.pubs[j]? with _ | ⟨req, todo, _ | ⟨x, _ | ⟨i, rest⟩⟩, returns⟩ <;>
      simp only [found] at stepped ⊢ <;> try cases stepped
    rcases busFound : env.bus[i]? with _ | s <;> simp only [busFound] at stepped ⊢
    · exact stepped
    · split_ifs at stepped ⊢ <;> first | exact stepped | omega
  | .put .., stepped => stepped
  | .send .., stepped => stepped
  | .pub _, stepped => stepped
  | .finish _, stepped => stepped
  | .otherSub _, stepped => stepped
  | .otherRecv _, stepped => stepped
  | .otherUnsub _, stepped => stepped

/-- A send into a queue with room still has room in a larger queue. -/
theorem Env.send_mono {cap cap' : Nat} (more : cap ≤ cap') {env : Env} {i : Nat} {x : Item}
    {result : Except Panic Env} (sent : env.send cap i x = some result) :
    env.send cap' i x = some result := by
  unfold Env.send at sent ⊢
  rcases busFound : env.bus[i]? with _ | s <;> simp only [busFound] at sent ⊢
  · cases sent
  split_ifs at sent ⊢ <;> first | exact sent | omega

/-! ## Goroutines of a session -/

/-- Where a session's reading goroutine is. -/
inductive ReaderPc where
  /-- In `ReadMessage`. -/
  | reading
  /-- In `watch`, subscribed to `sub`, before `pickUpPackage`. -/
  | pickingUp (boxID : List UInt8) (sub : Nat)
  /-- In `watch`, on the send `sub <- tmp`. -/
  | sending (boxID : List UInt8) (sub : Nat) (item : Item)
  | exited
  deriving DecidableEq, Repr

/-- Where a forwarder is: in its `select`, on the send of a frame, or returned. -/
inductive ForwarderPc where
  | selecting
  | sending (frame : List UInt8) (item : Item)
  | exited
  deriving DecidableEq, Repr

/-- A forwarder goroutine of `watch`, relaying queue `sub` of box `boxID`. -/
structure Forwarder where
  boxID : List UInt8
  sub : Nat
  pc : ForwarderPc
  deriving DecidableEq, Repr

/-- Where a writing goroutine is: waiting for something to write, in `WriteMessage`, or
returned. -/
inductive WriterPc where
  | waiting
  | writing (frame : List UInt8) (source : Option (Nat × Item))
  | exited
  deriving DecidableEq, Repr

/-- The frame a forwarder writes for a package: `append([]byte{1}, boxID...)`, then the
package. -/
def watchFrame (boxID pkg : List UInt8) : List UInt8 := (1 :: boxID) ++ pkg

end Oscar
