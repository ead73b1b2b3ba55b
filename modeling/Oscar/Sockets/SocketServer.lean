import Oscar.Server

/-!
# The socket server

The session `createSocketHandler` starts for an authenticated socket (`socketServer`).
`start` subscribes `ss.messages` to the user's topic on `messagesPubSub` and runs two
goroutines. `readConn` takes the client's frames and runs `watchBox` and `ignoreBox`, and
closes `ss.closed` when it returns; `writeConn` selects over `ss.messages`, `ss.pkgs` (a
channel of five) and `ss.closed` and writes what it receives. `watchBox` subscribes, sends
the stored package into the new queue and starts a forwarder, which relays the queue to
`ss.pkgs` until `ss.closed` is closed, and closes `ss.pkgs` when its queue is closed.
`ignoreBox` unsubscribes. `start` never runs `stop`, so nothing here unsubscribes at the
end of a session or closes its connection.

Program points and steps are as for the package listener. The messages a user receives are
published from outside the session; one step delivers one to `ss.messages`.
`SocketServer.Step` lists the ways a step can go (`SocketServer.step_eq_some`).
-/

namespace Oscar

open PubSub

/-- The capacity of `ss.pkgs`, `make(chan []byte, 5)`. -/
def pkgsCapacity : Nat := 5

/-- `socketServer` with its goroutines. `pkgs` holds the frames buffered in `ss.pkgs` with
their subscription and item; `messages` is the queue of `ss.messages`. -/
structure SocketServer where
  reader : ReaderPc
  writer : WriterPc
  fwds : List Forwarder
  pkgSubs : List (List UInt8 × Nat)
  pkgs : List (List UInt8 × Nat × Item)
  pkgsClosed : Bool
  closed : Bool
  messages : List (List UInt8)
  messagesLive : Bool
  connClosed : Bool
  deriving DecidableEq, Repr

/-- `newSocketServer` then `start`. -/
def SocketServer.start : SocketServer :=
  ⟨.reading, .waiting, [], [], [], false, false, [], true, false⟩

/-- A step of the session's goroutines, or of the server around it. -/
inductive SocketAct where
  | env (act : EnvAct)
  /-- A `messagesPubSub.Pub` for the session's user reaches `ss.messages`. -/
  | message (msg : List UInt8)
  /-- `ReadMessage` returns a binary frame (`some`), or an error or a frame of another
  kind (`none`). -/
  | read (frame : Option (List UInt8))
  /-- `kvs.PickUpPackage`, which may fail. -/
  | pickUp (fails : Bool)
  | pickupSent
  /-- Forwarder `i`'s `select` takes `<-ss.closed`. -/
  | fwdClosed (i : Nat)
  /-- Forwarder `i`'s `select` takes `<-sub`. -/
  | fwdReceive (i : Nat)
  /-- Forwarder `i`'s send `ss.pkgs <- buf`. -/
  | fwdSend (i : Nat)
  /-- `writeConn`'s `select` takes `<-ss.messages`. -/
  | writerMessage
  /-- `writeConn`'s `select` takes `<-ss.pkgs`. -/
  | writerPackage
  /-- `writeConn`'s `select` takes `<-ss.closed`. -/
  | writerClosed
  /-- `WriteMessage` succeeds or fails. -/
  | write (ok : Bool)

namespace SocketServer

/-- The reader goes on reading, forwarder `⟨boxID, sub⟩` started. -/
def spawn (ss : SocketServer) (boxID : List UInt8) (sub : Nat) : SocketServer :=
  { ss with fwds := ss.fwds ++ [⟨boxID, sub, .selecting⟩], reader := .reading }

/-- Forwarder `i` moves to `pc`. -/
def setFwd (ss : SocketServer) (i : Nat) (fwd : Forwarder) (pc : ForwarderPc) : SocketServer :=
  { ss with fwds := ss.fwds.set i { fwd with pc } }

/-- `watchBox(boxID)`: subscribe, unless the id is malformed or watched already. -/
def watchBox (env : Env) (ss : SocketServer) (boxID : List UInt8) : Env × SocketServer :=
  if boxID.length ≠ dropBoxIDSize then (env, ss)
  else
    let hexID := Hex.encodeToString boxID
    match ss.pkgSubs.lookup hexID with
    | some _ => (env, ss)
    | none =>
      ((env.sub hexID).note (.watch boxID),
        { ss with pkgSubs := ss.pkgSubs ++ [(hexID, env.bus.length)],
                  reader := .pickingUp boxID env.bus.length })

/-- `ignoreBox(boxID)`: unsubscribe and forget the subscription. -/
def ignoreBox (env : Env) (ss : SocketServer) (boxID : List UInt8) : Env × SocketServer :=
  let hexID := Hex.encodeToString boxID
  match ss.pkgSubs.lookup hexID with
  | none => (env, ss)
  | some sub =>
    ((env.unsub sub).note (.ignore boxID),
      { ss with pkgSubs := ss.pkgSubs.filter (·.1 ≠ hexID) })

/-- The `switch` of `readConn` on a frame's first byte. -/
def dispatch (env : Env) (ss : SocketServer) : List UInt8 → Env × SocketServer
  | 1 :: boxID => ss.watchBox env boxID
  | 2 :: boxID => ss.ignoreBox env boxID
  | _ => (env, ss)

/-- A command changes the session's subscriptions and its reader, and the server's bus and
log, only; it logs no write. -/
theorem dispatch_eq {env env' : Env} {ss ss' : SocketServer} {frame : List UInt8}
    (dispatched : ss.dispatch env frame = (env', ss')) :
    ss' = { ss with pkgSubs := ss'.pkgSubs, reader := ss'.reader } ∧
      env' = { env with bus := env'.bus, log := env'.log } ∧
      ∃ E, env'.log = env.log ++ E ∧ ∀ out source, Event.write out source ∉ E := by
  unfold dispatch watchBox ignoreBox at dispatched
  dsimp only at dispatched
  split at dispatched
  · split_ifs at dispatched
    · cases dispatched; exact ⟨rfl, rfl, [], by simp, by simp⟩
    split at dispatched <;> cases dispatched
    · exact ⟨rfl, rfl, [], by simp, by simp⟩
    · exact ⟨rfl, rfl, _, by simp [Env.note, Env.sub]; rfl, by simp⟩
  · split at dispatched <;> cases dispatched
    · exact ⟨rfl, rfl, [], by simp, by simp⟩
    · exact ⟨rfl, rfl, _, by simp [Env.note, Env.unsub]; rfl, by simp⟩
  · cases dispatched; exact ⟨rfl, rfl, [], by simp, by simp⟩

/-- One step of a goroutine of the session; `none` when it cannot be taken. -/
def step (cap : Nat) (env : Env) (ss : SocketServer) :
    SocketAct → Option (Except Panic (Env × SocketServer))
  | .env act => (env.step cap act).map fun env => .ok (env, ss)
  | .message msg =>
    if !ss.messagesLive then some (.ok (env, ss))
    else if ss.messages.length < cap then some (.ok (env, { ss with messages := ss.messages ++ [msg] }))
    else none
  | .read (some frame) => if ss.reader = .reading then some (.ok (ss.dispatch env frame)) else none
  | .read none =>
    if ss.reader = .reading then
      some (if ss.closed then .error .closeOfClosed
        else .ok (env, { ss with reader := .exited, closed := true }))
    else none
  | .pickUp fails =>
    match ss.reader with
    | .pickingUp boxID sub =>
      let tmp := env.pickUp boxID
      if fails || tmp.pkg.isEmpty then some (.ok (env, ss.spawn boxID sub))
      else some (.ok (env, { ss with reader := .sending boxID sub tmp }))
    | _ => none
  | .pickupSent =>
    match ss.reader with
    | .sending boxID sub tmp => (env.send cap sub tmp).map (·.map fun env => (env, ss.spawn boxID sub))
    | _ => none
  | .fwdClosed i =>
    match ss.fwds[i]? with
    | some fwd =>
      if fwd.pc = .selecting ∧ ss.closed then some (.ok (env, ss.setFwd i fwd .exited)) else none
    | none => none
  | .fwdReceive i =>
    match ss.fwds[i]? with
    | some fwd =>
      if fwd.pc = .selecting then
        (env.receive fwd.sub).map fun
          | (.closed, env) =>
            if ss.pkgsClosed then .error .closeOfClosed
            else .ok (env, { ss.setFwd i fwd .exited with pkgsClosed := true })
          | (.item x, env) => .ok (env, ss.setFwd i fwd (.sending (watchFrame fwd.boxID x.pkg) x))
      else none
    | none => none
  | .fwdSend i =>
    match ss.fwds[i]? with
    | some fwd =>
      match fwd.pc with
      | .sending frame x =>
        if ss.pkgsClosed then some (.error .sendOnClosed)
        else if ss.pkgs.length < pkgsCapacity then
          some (.ok (env, { ss.setFwd i fwd .selecting with pkgs := ss.pkgs ++ [(frame, fwd.sub, x)] }))
        else none
      | _ => none
    | none => none
  | .writerMessage =>
    if ss.writer = .waiting then
      match ss.messages with
      | msg :: rest => some (.ok (env, { ss with messages := rest, writer := .writing msg none }))
      | [] => if ss.messagesLive then none else some (.ok (env, { ss with writer := .exited }))
    else none
  | .writerPackage =>
    if ss.writer = .waiting then
      match ss.pkgs with
      | (frame, sub, x) :: rest =>
        some (.ok (env, { ss with pkgs := rest, writer := .writing frame (some (sub, x)) }))
      | [] => if ss.pkgsClosed then some (.ok (env, { ss with writer := .exited })) else none
    else none
  | .writerClosed =>
    if ss.writer = .waiting ∧ ss.closed then some (.ok (env, { ss with writer := .exited }))
    else none
  | .write ok =>
    match ss.writer with
    | .writing frame source =>
      if ok then
        if ss.connClosed then none
        else some (.ok (env.write frame source, { ss with writer := .waiting }))
      else some (.ok (env, { ss with writer := .exited }))
    | _ => none

/-- The ways a step of the socket server can go, one constructor per branch of
`SocketServer.step`, with the guards it checks there (`SocketServer.step_eq_some`). -/
inductive Step (cap : Nat) (env : Env) (ss : SocketServer) :
    SocketAct → Except Panic (Env × SocketServer) → Prop where
  | env {act : EnvAct} {env' : Env} (stepped : env.step cap act = some env') :
      Step cap env ss (.env act) (.ok (env', ss))
  | messageDropped {msg : List UInt8} (dropped : ss.messagesLive = false) :
      Step cap env ss (.message msg) (.ok (env, ss))
  | message {msg : List UInt8} (live : ss.messagesLive = true) (room : ss.messages.length < cap) :
      Step cap env ss (.message msg) (.ok (env, { ss with messages := ss.messages ++ [msg] }))
  | read {frame : List UInt8} {env' : Env} {ss' : SocketServer} (reading : ss.reader = .reading)
      (dispatched : ss.dispatch env frame = (env', ss')) :
      Step cap env ss (.read (some frame)) (.ok (env', ss'))
  | readEnd (reading : ss.reader = .reading) (notClosed : ss.closed = false) :
      Step cap env ss (.read none) (.ok (env, { ss with reader := .exited, closed := true }))
  | readEndClosed (reading : ss.reader = .reading) (closed : ss.closed = true) :
      Step cap env ss (.read none) (.error .closeOfClosed)
  | pickUpEmpty {fails : Bool} {boxID : List UInt8} {s : Nat}
      (picking : ss.reader = .pickingUp boxID s)
      (empty : (fails || (env.pickUp boxID).pkg.isEmpty) = true) :
      Step cap env ss (.pickUp fails) (.ok (env, ss.spawn boxID s))
  | pickUp {fails : Bool} {boxID : List UInt8} {s : Nat} (picking : ss.reader = .pickingUp boxID s)
      (stored : (fails || (env.pickUp boxID).pkg.isEmpty) = false) :
      Step cap env ss (.pickUp fails)
        (.ok (env, { ss with reader := .sending boxID s (env.pickUp boxID) }))
  | pickupSent {boxID : List UInt8} {s : Nat} {x : Item} {env' : Env}
      (sending : ss.reader = .sending boxID s x) (sent : env.send cap s x = some (.ok env')) :
      Step cap env ss .pickupSent (.ok (env', ss.spawn boxID s))
  | pickupSentClosed {boxID : List UInt8} {s : Nat} {x : Item} {p : Panic}
      (sending : ss.reader = .sending boxID s x) (sent : env.send cap s x = some (.error p)) :
      Step cap env ss .pickupSent (.error p)
  | fwdClosed {i : Nat} {fwd : Forwarder} (found : ss.fwds[i]? = some fwd)
      (selecting : fwd.pc = .selecting) (closed : ss.closed = true) :
      Step cap env ss (.fwdClosed i) (.ok (env, ss.setFwd i fwd .exited))
  | fwdEnd {i : Nat} {fwd : Forwarder} {env' : Env} (found : ss.fwds[i]? = some fwd)
      (selecting : fwd.pc = .selecting) (received : env.receive fwd.sub = some (.closed, env'))
      (notClosed : ss.pkgsClosed = false) :
      Step cap env ss (.fwdReceive i) (.ok (env', { ss.setFwd i fwd .exited with pkgsClosed := true }))
  | fwdEndClosed {i : Nat} {fwd : Forwarder} {env' : Env} (found : ss.fwds[i]? = some fwd)
      (selecting : fwd.pc = .selecting) (received : env.receive fwd.sub = some (.closed, env'))
      (closed : ss.pkgsClosed = true) :
      Step cap env ss (.fwdReceive i) (.error .closeOfClosed)
  | fwdReceive {i : Nat} {fwd : Forwarder} {x : Item} {env' : Env}
      (found : ss.fwds[i]? = some fwd) (selecting : fwd.pc = .selecting)
      (received : env.receive fwd.sub = some (.item x, env')) :
      Step cap env ss (.fwdReceive i)
        (.ok (env', ss.setFwd i fwd (.sending (watchFrame fwd.boxID x.pkg) x)))
  | fwdSend {i : Nat} {fwd : Forwarder} {frame : List UInt8} {x : Item}
      (found : ss.fwds[i]? = some fwd) (sending : fwd.pc = .sending frame x)
      (notClosed : ss.pkgsClosed = false) (room : ss.pkgs.length < pkgsCapacity) :
      Step cap env ss (.fwdSend i)
        (.ok (env, { ss.setFwd i fwd .selecting with pkgs := ss.pkgs ++ [(frame, fwd.sub, x)] }))
  | fwdSendClosed {i : Nat} {fwd : Forwarder} {frame : List UInt8} {x : Item}
      (found : ss.fwds[i]? = some fwd) (sending : fwd.pc = .sending frame x)
      (closed : ss.pkgsClosed = true) :
      Step cap env ss (.fwdSend i) (.error .sendOnClosed)
  | writerMessage {msg : List UInt8} {rest : List (List UInt8)} (waiting : ss.writer = .waiting)
      (front : ss.messages = msg :: rest) :
      Step cap env ss .writerMessage (.ok (env, { ss with messages := rest, writer := .writing msg none }))
  | writerMessagesEnd (waiting : ss.writer = .waiting) (empty : ss.messages = [])
      (dropped : ss.messagesLive = false) :
      Step cap env ss .writerMessage (.ok (env, { ss with writer := .exited }))
  | writerPackage {frame : List UInt8} {sub : Nat} {x : Item} {rest : List (List UInt8 × Nat × Item)}
      (waiting : ss.writer = .waiting) (front : ss.pkgs = (frame, sub, x) :: rest) :
      Step cap env ss .writerPackage
        (.ok (env, { ss with pkgs := rest, writer := .writing frame (some (sub, x)) }))
  | writerPackagesEnd (waiting : ss.writer = .waiting) (empty : ss.pkgs = [])
      (closed : ss.pkgsClosed = true) :
      Step cap env ss .writerPackage (.ok (env, { ss with writer := .exited }))
  | writerClosed (waiting : ss.writer = .waiting) (closed : ss.closed = true) :
      Step cap env ss .writerClosed (.ok (env, { ss with writer := .exited }))
  | write {frame : List UInt8} {source : Option (Nat × Item)}
      (writing : ss.writer = .writing frame source) (connOpen : ss.connClosed = false) :
      Step cap env ss (.write true) (.ok (env.write frame source, { ss with writer := .waiting }))
  | writeFails {frame : List UInt8} {source : Option (Nat × Item)}
      (writing : ss.writer = .writing frame source) :
      Step cap env ss (.write false) (.ok (env, { ss with writer := .exited }))

/-- Every step the socket server takes is one of `SocketServer.Step`'s. -/
theorem step_eq_some {cap : Nat} {env : Env} {ss : SocketServer}
    {result : Except Panic (Env × SocketServer)} :
    ∀ {act : SocketAct}, ss.step cap env act = some result → ss.Step cap env act result
  | .env act, stepped => by
    obtain ⟨env', envStepped, rfl⟩ := Option.map_eq_some'.mp stepped
    exact .env envStepped
  | .message msg, stepped => by
    simp only [SocketServer.step] at stepped
    split_ifs at stepped with dropped room <;> cases stepped
    · exact .messageDropped (by simpa using dropped)
    · exact .message (by simpa using dropped) room
  | .read (some frame), stepped => by
    simp only [SocketServer.step] at stepped
    split_ifs at stepped with reading
    cases stepped
    exact .read reading rfl
  | .read none, stepped => by
    simp only [SocketServer.step] at stepped
    split_ifs at stepped with reading closed <;> cases stepped
    · exact .readEndClosed reading closed
    · exact .readEnd reading (Bool.eq_false_iff.mpr closed)
  | .pickUp fails, stepped => by
    simp only [SocketServer.step] at stepped
    rcases reader : ss.reader with _ | ⟨boxID, s⟩ | _ | _ <;> simp only [reader] at stepped
    all_goals try cases stepped
    split at stepped <;> cases stepped
    · exact .pickUpEmpty reader ‹_›
    · exact .pickUp reader (Bool.eq_false_iff.mpr ‹_›)
  | .pickupSent, stepped => by
    simp only [SocketServer.step] at stepped
    rcases reader : ss.reader with _ | _ | ⟨boxID, s, x⟩ | _ <;> simp only [reader] at stepped
    all_goals try cases stepped
    obtain ⟨_ | env', sent, rfl⟩ := Option.map_eq_some'.mp stepped
    exacts [.pickupSentClosed reader sent, .pickupSent reader sent]
  | .fwdClosed i, stepped => by
    simp only [SocketServer.step] at stepped
    rcases found : ss.fwds[i]? with _ | fwd <;> simp only [found] at stepped
    · cases stepped
    split_ifs at stepped with ready
    cases stepped
    exact .fwdClosed found ready.1 ready.2
  | .fwdReceive i, stepped => by
    simp only [SocketServer.step] at stepped
    rcases found : ss.fwds[i]? with _ | fwd <;> simp only [found] at stepped
    · cases stepped
    by_cases selecting : fwd.pc = .selecting
    swap
    · simp [selecting] at stepped
    rw [if_pos selecting] at stepped
    obtain ⟨⟨_ | _, env'⟩, received, same⟩ := Option.map_eq_some'.mp stepped
    · cases same
      exact .fwdReceive found selecting received
    · cases closed : ss.pkgsClosed <;> simp only [closed] at same <;> cases same
      exacts [.fwdEnd found selecting received closed, .fwdEndClosed found selecting received closed]
  | .fwdSend i, stepped => by
    simp only [SocketServer.step] at stepped
    rcases found : ss.fwds[i]? with _ | fwd <;> simp only [found] at stepped
    · cases stepped
    rcases sending : fwd.pc with _ | ⟨frame, x⟩ | _ <;> simp only [sending] at stepped
    all_goals try cases stepped
    split_ifs at stepped with closed room <;> cases stepped
    · exact .fwdSendClosed found sending closed
    · exact .fwdSend found sending (Bool.eq_false_iff.mpr closed) room
  | .writerMessage, stepped => by
    simp only [SocketServer.step] at stepped
    by_cases waiting : ss.writer = .waiting
    swap
    · simp [waiting] at stepped
    rw [if_pos waiting] at stepped
    split at stepped
    · cases stepped
      exact .writerMessage waiting ‹_›
    · split_ifs at stepped with live
      cases stepped
      exact .writerMessagesEnd waiting ‹_› (Bool.eq_false_iff.mpr live)
  | .writerPackage, stepped => by
    simp only [SocketServer.step] at stepped
    by_cases waiting : ss.writer = .waiting
    swap
    · simp [waiting] at stepped
    rw [if_pos waiting] at stepped
    split at stepped
    · cases stepped
      exact .writerPackage waiting ‹_›
    · split_ifs at stepped with closed
      cases stepped
      exact .writerPackagesEnd waiting ‹_› closed
  | .writerClosed, stepped => by
    simp only [SocketServer.step] at stepped
    split_ifs at stepped with ready
    cases stepped
    exact .writerClosed ready.1 ready.2
  | .write ok, stepped => by
    simp only [SocketServer.step] at stepped
    rcases writing : ss.writer with _ | ⟨frame, source⟩ | _ <;> simp only [writing] at stepped
    all_goals try cases stepped
    cases ok
    · cases stepped
      exact .writeFails writing
    · rw [if_pos rfl] at stepped
      split_ifs at stepped with connClosed
      cases stepped
      exact .write writing (Bool.eq_false_iff.mpr connClosed)

/-- A step with queues of some capacity is a step with larger ones. -/
theorem step_mono {cap cap' : Nat} (more : cap ≤ cap') {env : Env} {ss : SocketServer}
    {result : Except Panic (Env × SocketServer)} :
    ∀ {act : SocketAct}, ss.step cap env act = some result → ss.step cap' env act = some result
  | .env act, stepped => by
    simp only [SocketServer.step, Option.map_eq_some'] at stepped ⊢
    obtain ⟨env', stepped, rfl⟩ := stepped
    exact ⟨env', Env.step_mono more stepped, rfl⟩
  | .message _, stepped => by
    simp only [SocketServer.step] at stepped ⊢
    split_ifs at stepped ⊢ <;> first | exact stepped | omega
  | .pickupSent, stepped => by
    simp only [SocketServer.step] at stepped ⊢
    rcases reader : ss.reader with _ | _ | ⟨boxID, sub, tmp⟩ | _ <;> simp only [reader] at stepped ⊢
    case sending =>
      obtain ⟨sent, sendStepped, rfl⟩ := Option.map_eq_some'.mp stepped
      exact Option.map_eq_some'.mpr ⟨sent, Env.send_mono more sendStepped, rfl⟩
    all_goals cases stepped
  | .read (some _), stepped => stepped
  | .read none, stepped => stepped
  | .pickUp _, stepped => stepped
  | .fwdClosed _, stepped => stepped
  | .fwdReceive _, stepped => stepped
  | .fwdSend _, stepped => stepped
  | .writerMessage, stepped => stepped
  | .writerPackage, stepped => stepped
  | .writerClosed, stepped => stepped
  | .write _, stepped => stepped

end SocketServer

/-- The server with one socket server, and the panic that ended the process, if any. -/
structure SocketWorld where
  env : Env
  ss : SocketServer
  panic : Option Panic

namespace SocketWorld

/-- A socket server just started, on a server whose bucket holds `store`. -/
def init (store : Bucket) : SocketWorld := ⟨Env.init store, SocketServer.start, none⟩

/-- One step; nothing runs after a panic. -/
def step (cap : Nat) (w : SocketWorld) (act : SocketAct) : Option SocketWorld :=
  if w.panic.isSome then none
  else (SocketServer.step cap w.env w.ss act).map fun
    | .ok (env, ss) => ⟨env, ss, none⟩
    | .error p => { w with panic := some p }

/-- A step of the world is a step of the session from a world with no panic: one that panics,
which changes nothing but the panic, or one that goes on. -/
theorem step_eq_some {cap : Nat} {w w' : SocketWorld} {act : SocketAct}
    (stepped : w.step cap act = some w') :
    w.panic = none ∧
      ((∃ p, w.ss.step cap w.env act = some (.error p) ∧ w' = { w with panic := some p }) ∨
        ∃ env ss, w.ss.step cap w.env act = some (.ok (env, ss)) ∧ w' = ⟨env, ss, none⟩) := by
  simp only [SocketWorld.step] at stepped
  split_ifs at stepped with panicked
  refine ⟨Option.not_isSome_iff_eq_none.mp panicked, ?_⟩
  obtain ⟨_ | ⟨env, ss⟩, sessionStepped, rfl⟩ := Option.map_eq_some'.mp stepped
  exacts [.inl ⟨_, sessionStepped, rfl⟩, .inr ⟨env, ss, sessionStepped, rfl⟩]

/-- The steps `acts` one after another. -/
def run (cap : Nat) (w : SocketWorld) : List SocketAct → Option SocketWorld
  | [] => some w
  | act :: acts => (w.step cap act).bind fun w => run cap w acts

/-- The worlds some run reaches from a start on any bucket. -/
inductive Reachable (cap : Nat) : SocketWorld → Prop where
  | init (store : Bucket) : Reachable cap (init store)
  | step {w w' : SocketWorld} (act : SocketAct) :
      Reachable cap w → w.step cap act = some w' → Reachable cap w'

/-- A run from a reachable socket world ends in a reachable one. -/
theorem Reachable.run {cap : Nat} {w w' : SocketWorld} (reach : Reachable cap w) :
    ∀ {acts : List SocketAct}, run cap w acts = some w' → Reachable cap w'
  | [], ran => by cases ran; exact reach
  | act :: acts, ran => by
    simp only [SocketWorld.run, Option.bind_eq_some] at ran
    obtain ⟨next, stepped, rest⟩ := ran
    exact (reach.step act stepped).run rest

/-- A run with queues of some capacity is a run with larger ones. -/
theorem run_mono {cap cap' : Nat} (more : cap ≤ cap') :
    ∀ {w w' : SocketWorld} {acts : List SocketAct}, run cap w acts = some w' →
      run cap' w acts = some w'
  | _, _, [], ran => ran
  | w, _, act :: acts, ran => by
    simp only [run, Option.bind_eq_some, SocketWorld.step] at ran ⊢
    obtain ⟨next, stepped, rest⟩ := ran
    refine ⟨next, ?_, run_mono more rest⟩
    split at stepped
    · cases stepped
    · rename_i live
      rw [if_neg live]
      obtain ⟨result, sessionStepped, rfl⟩ := Option.map_eq_some'.mp stepped
      exact Option.map_eq_some'.mpr ⟨result, SocketServer.step_mono more sessionStepped, rfl⟩

/-- A world that a run with queues of capacity `c` reaches, and that `P` holds of by
evaluation, is reachable with queues of any larger capacity. -/
theorem exists_reachable_of_run (c : Nat) {cap : Nat} (more : c ≤ cap) (store : Bucket)
    (acts : List SocketAct) {P : SocketWorld → Prop} [DecidablePred P]
    (ran : ((init store).run c acts).any (fun w => decide (P w)) = true) :
    ∃ w, Reachable cap w ∧ P w := by
  cases found : (init store).run c acts with
  | none => simp [found] at ran
  | some w =>
    simp only [found, Option.any_some, decide_eq_true_eq] at ran
    exact ⟨w, (Reachable.init store).run (run_mono more found), ran⟩

end SocketWorld

end Oscar
