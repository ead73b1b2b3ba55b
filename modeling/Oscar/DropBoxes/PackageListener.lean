import Oscar.Server

/-!
# The package listener

The session `createPackageWatcherHandler` starts for GET /drop-boxes/watch
(`drop_boxes.go`). `start` runs three goroutines. `read` takes the client's frames and runs
`watch` and `ignore`; `write` writes what it receives on the unbuffered channel `pl.pkgs`;
`stop` waits for `pl.closed`, closes the `closed` channel of every subscription reader in
`pl.subs`, waits for the forwarders, then closes the connection and `pl.pkgs`. `watch`
subscribes, sends the stored package into the new queue, and starts a forwarder, which
relays the queue to `pl.pkgs` until `pl.closed` is closed; `ignore` closes the subscription
reader's `closed` channel and forgets it.

A goroutine's place is a program point; each step of a goroutine does at most one thing
another goroutine can see. A run starts from `start` and takes one step at a time, of a
goroutine of the session, of the server or of another session. `Listener.Step` lists the
ways a step of the session can go, with the guards each checks (`Listener.step_eq_some`).
-/

namespace Oscar

open PubSub

/-- Where `stop` is: waiting for `pl.closed`, waiting for the forwarders, or returned. -/
inductive StopPc where
  | waitingClosed
  | waitingGroup
  | exited
  deriving DecidableEq, Repr

/-- `packageListener` with its goroutines. A subscription reader of `pl.subs` is named by
its queue; `srClosed` are the readers whose `closed` channel is closed. -/
structure Listener where
  reader : ReaderPc
  writer : WriterPc
  stopper : StopPc
  fwds : List Forwarder
  subs : List (List UInt8 × Nat)
  srClosed : List Nat
  closed : Bool
  pkgsClosed : Bool
  connClosed : Bool
  deriving DecidableEq, Repr

/-- `newPackageListener` then `start`. -/
def Listener.start : Listener :=
  ⟨.reading, .waiting, .waitingClosed, [], [], [], false, false, false⟩

/-- A step of the session's goroutines, or of the server around it. -/
inductive ListenerAct where
  | env (act : EnvAct)
  /-- `ReadMessage` returns a binary frame (`some`), or an error or a frame of another
  kind (`none`). -/
  | read (frame : Option (List UInt8))
  | pickUp
  | pickupSent
  /-- Forwarder `i`'s `select` takes `<-pl.closed`. -/
  | fwdClosed (i : Nat)
  /-- Forwarder `i`'s `select` takes `<-sub`. -/
  | fwdReceive (i : Nat)
  /-- Forwarder `i`'s send `pl.pkgs <- bytes` on a closed channel. -/
  | fwdSend (i : Nat)
  /-- `write` receives forwarder `i`'s frame. -/
  | writerReceive (i : Nat)
  /-- `write`'s `range` ends on the closed `pl.pkgs`. -/
  | writerEnd
  /-- `WriteMessage` succeeds or fails. -/
  | write (ok : Bool)
  | stopWake
  | stopFinish

namespace Listener

/-- The reader goes on reading, forwarder `⟨boxID, sub⟩` started. -/
def spawn (pl : Listener) (boxID : List UInt8) (sub : Nat) : Listener :=
  { pl with fwds := pl.fwds ++ [⟨boxID, sub, .selecting⟩], reader := .reading }

/-- Forwarder `i` moves to `pc`. -/
def setFwd (pl : Listener) (i : Nat) (fwd : Forwarder) (pc : ForwarderPc) : Listener :=
  { pl with fwds := pl.fwds.set i { fwd with pc } }

/-- `watch(boxID)`: subscribe and record the reader, unless the id is malformed or
watched already. -/
def watch (env : Env) (pl : Listener) (boxID : List UInt8) : Env × Listener :=
  if boxID.length ≠ dropBoxIDSize then (env, pl)
  else
    let hexID := Hex.encodeToString boxID
    match pl.subs.lookup hexID with
    | some _ => (env, pl)
    | none =>
      ((env.sub hexID).note (.watch boxID),
        { pl with subs := pl.subs ++ [(hexID, env.bus.length)],
                  reader := .pickingUp boxID env.bus.length })

/-- `ignore(boxID)`: close the reader's `closed` channel and forget it. -/
def ignore (env : Env) (pl : Listener) (boxID : List UInt8) : Except Panic (Env × Listener) :=
  if boxID.length ≠ dropBoxIDSize then .ok (env, pl)
  else
    let hexID := Hex.encodeToString boxID
    match pl.subs.lookup hexID with
    | none => .ok (env, pl)
    | some sub =>
      if sub ∈ pl.srClosed then .error .closeOfClosed
      else .ok (env.note (.ignore boxID),
        { pl with srClosed := sub :: pl.srClosed, subs := pl.subs.filter (·.1 ≠ hexID) })

/-- The `switch` of `read` on a frame's first byte. -/
def dispatch (env : Env) (pl : Listener) : List UInt8 → Except Panic (Env × Listener)
  | 1 :: boxID => .ok (pl.watch env boxID)
  | 2 :: boxID => pl.ignore env boxID
  | _ => .ok (env, pl)

/-- A command changes only the server's bus and log. -/
theorem dispatch_env {env env' : Env} {pl pl' : Listener} {frame : List UInt8}
    (dispatched : pl.dispatch env frame = .ok (env', pl')) :
    env' = { env with bus := env'.bus, log := env'.log } := by
  unfold dispatch watch ignore at dispatched
  dsimp only at dispatched
  split at dispatched
  · split_ifs at dispatched
    · cases dispatched; rfl
    split at dispatched <;> cases dispatched <;> rfl
  · split_ifs at dispatched
    · cases dispatched; rfl
    split at dispatched
    · cases dispatched; rfl
    split_ifs at dispatched
    cases dispatched; rfl
  · cases dispatched; rfl

/-- One step of a goroutine of the session; `none` when it cannot be taken. -/
def step (cap : Nat) (env : Env) (pl : Listener) : ListenerAct → Option (Except Panic (Env × Listener))
  | .env act => (env.step cap act).map fun env => .ok (env, pl)
  | .read (some frame) => if pl.reader = .reading then some (pl.dispatch env frame) else none
  | .read none =>
    if pl.reader = .reading then
      some (if pl.closed then .error .closeOfClosed
        else .ok (env, { pl with reader := .exited, closed := true }))
    else none
  | .pickUp =>
    match pl.reader with
    | .pickingUp boxID sub =>
      let tmp := env.pickUp boxID
      if tmp.pkg.isEmpty then some (.ok (env, pl.spawn boxID sub))
      else some (.ok (env, { pl with reader := .sending boxID sub tmp }))
    | _ => none
  | .pickupSent =>
    match pl.reader with
    | .sending boxID sub tmp => (env.send cap sub tmp).map (·.map fun env => (env, pl.spawn boxID sub))
    | _ => none
  | .fwdClosed i =>
    match pl.fwds[i]? with
    | some fwd =>
      if fwd.pc = .selecting ∧ pl.closed then some (.ok (env.unsub fwd.sub, pl.setFwd i fwd .exited))
      else none
    | none => none
  | .fwdReceive i =>
    match pl.fwds[i]? with
    | some fwd =>
      if fwd.pc = .selecting then
        (env.receive fwd.sub).map fun
          | (.closed, env) => .ok (env.unsub fwd.sub, pl.setFwd i fwd .exited)
          | (.item x, env) => .ok (env, pl.setFwd i fwd (.sending (watchFrame fwd.boxID x.pkg) x))
      else none
    | none => none
  | .fwdSend i =>
    match pl.fwds[i]? with
    | some ⟨_, _, .sending _ _⟩ => if pl.pkgsClosed then some (.error .sendOnClosed) else none
    | _ => none
  | .writerReceive i =>
    match pl.fwds[i]? with
    | some fwd =>
      match fwd.pc with
      | .sending frame x =>
        if pl.writer = .waiting ∧ !pl.pkgsClosed then
          some (.ok (env, { pl.setFwd i fwd .selecting with writer := .writing frame (some (fwd.sub, x)) }))
        else none
      | _ => none
    | none => none
  | .writerEnd =>
    if pl.writer = .waiting ∧ pl.pkgsClosed then some (.ok (env, { pl with writer := .exited }))
    else none
  | .write ok =>
    match pl.writer with
    | .writing frame source =>
      if ok then
        if pl.connClosed then none
        else some (.ok (env.write frame source, { pl with writer := .waiting }))
      else some (.ok (env, { pl with writer := .exited }))
    | _ => none
  | .stopWake =>
    if pl.stopper = .waitingClosed ∧ pl.closed then
      let readers := pl.subs.map (·.2)
      some (if readers.any (· ∈ pl.srClosed) || !readers.Nodup then .error .closeOfClosed
        else .ok (env, { pl with srClosed := readers ++ pl.srClosed, stopper := .waitingGroup }))
    else none
  | .stopFinish =>
    if pl.stopper = .waitingGroup ∧ pl.fwds.all (·.pc = .exited) then
      some (if pl.pkgsClosed then .error .closeOfClosed
        else .ok (env, { pl with connClosed := true, pkgsClosed := true, stopper := .exited }))
    else none

/-- The ways a step of the listener can go, one constructor per branch of `Listener.step`,
with the guards it checks there (`Listener.step_eq_some`). -/
inductive Step (cap : Nat) (env : Env) (pl : Listener) :
    ListenerAct → Except Panic (Env × Listener) → Prop where
  | env {act : EnvAct} {env' : Env} (stepped : env.step cap act = some env') :
      Step cap env pl (.env act) (.ok (env', pl))
  | read {frame : List UInt8} {result : Except Panic (Env × Listener)}
      (reading : pl.reader = .reading) (dispatched : pl.dispatch env frame = result) :
      Step cap env pl (.read (some frame)) result
  | readEnd (reading : pl.reader = .reading) (notClosed : pl.closed = false) :
      Step cap env pl (.read none) (.ok (env, { pl with reader := .exited, closed := true }))
  | readEndClosed (reading : pl.reader = .reading) (closed : pl.closed = true) :
      Step cap env pl (.read none) (.error .closeOfClosed)
  | pickUpEmpty {boxID : List UInt8} {s : Nat} (picking : pl.reader = .pickingUp boxID s)
      (empty : (env.pickUp boxID).pkg.isEmpty = true) :
      Step cap env pl .pickUp (.ok (env, pl.spawn boxID s))
  | pickUp {boxID : List UInt8} {s : Nat} (picking : pl.reader = .pickingUp boxID s)
      (stored : (env.pickUp boxID).pkg.isEmpty = false) :
      Step cap env pl .pickUp (.ok (env, { pl with reader := .sending boxID s (env.pickUp boxID) }))
  | pickupSent {boxID : List UInt8} {s : Nat} {x : Item} {env' : Env}
      (sending : pl.reader = .sending boxID s x) (sent : env.send cap s x = some (.ok env')) :
      Step cap env pl .pickupSent (.ok (env', pl.spawn boxID s))
  | pickupSentClosed {boxID : List UInt8} {s : Nat} {x : Item} {p : Panic}
      (sending : pl.reader = .sending boxID s x) (sent : env.send cap s x = some (.error p)) :
      Step cap env pl .pickupSent (.error p)
  | fwdClosed {i : Nat} {fwd : Forwarder} (found : pl.fwds[i]? = some fwd)
      (selecting : fwd.pc = .selecting) (closed : pl.closed = true) :
      Step cap env pl (.fwdClosed i) (.ok (env.unsub fwd.sub, pl.setFwd i fwd .exited))
  | fwdEnd {i : Nat} {fwd : Forwarder} {env' : Env} (found : pl.fwds[i]? = some fwd)
      (selecting : fwd.pc = .selecting) (received : env.receive fwd.sub = some (.closed, env')) :
      Step cap env pl (.fwdReceive i) (.ok (env'.unsub fwd.sub, pl.setFwd i fwd .exited))
  | fwdReceive {i : Nat} {fwd : Forwarder} {x : Item} {env' : Env}
      (found : pl.fwds[i]? = some fwd) (selecting : fwd.pc = .selecting)
      (received : env.receive fwd.sub = some (.item x, env')) :
      Step cap env pl (.fwdReceive i)
        (.ok (env', pl.setFwd i fwd (.sending (watchFrame fwd.boxID x.pkg) x)))
  | fwdSendClosed {i : Nat} {fwd : Forwarder} {frame : List UInt8} {x : Item}
      (found : pl.fwds[i]? = some fwd) (sending : fwd.pc = .sending frame x)
      (closed : pl.pkgsClosed = true) :
      Step cap env pl (.fwdSend i) (.error .sendOnClosed)
  | writerReceive {i : Nat} {fwd : Forwarder} {frame : List UInt8} {x : Item}
      (found : pl.fwds[i]? = some fwd) (sending : fwd.pc = .sending frame x)
      (waiting : pl.writer = .waiting) (notClosed : pl.pkgsClosed = false) :
      Step cap env pl (.writerReceive i)
        (.ok (env, { pl.setFwd i fwd .selecting with writer := .writing frame (some (fwd.sub, x)) }))
  | writerEnd (waiting : pl.writer = .waiting) (closed : pl.pkgsClosed = true) :
      Step cap env pl .writerEnd (.ok (env, { pl with writer := .exited }))
  | write {frame : List UInt8} {source : Option (Nat × Item)}
      (writing : pl.writer = .writing frame source) (connOpen : pl.connClosed = false) :
      Step cap env pl (.write true) (.ok (env.write frame source, { pl with writer := .waiting }))
  | writeFails {frame : List UInt8} {source : Option (Nat × Item)}
      (writing : pl.writer = .writing frame source) :
      Step cap env pl (.write false) (.ok (env, { pl with writer := .exited }))
  | stopWake (waiting : pl.stopper = .waitingClosed) (closed : pl.closed = true)
      (fresh : ((pl.subs.map (·.2)).any (· ∈ pl.srClosed) || !(pl.subs.map (·.2)).Nodup) = false) :
      Step cap env pl .stopWake
        (.ok (env, { pl with srClosed := pl.subs.map (·.2) ++ pl.srClosed, stopper := .waitingGroup }))
  | stopWakeClosed (waiting : pl.stopper = .waitingClosed) (closed : pl.closed = true)
      (twice : ((pl.subs.map (·.2)).any (· ∈ pl.srClosed) || !(pl.subs.map (·.2)).Nodup) = true) :
      Step cap env pl .stopWake (.error .closeOfClosed)
  | stopFinish (waiting : pl.stopper = .waitingGroup)
      (drained : pl.fwds.all (·.pc = .exited) = true) (notClosed : pl.pkgsClosed = false) :
      Step cap env pl .stopFinish
        (.ok (env, { pl with connClosed := true, pkgsClosed := true, stopper := .exited }))
  | stopFinishClosed (waiting : pl.stopper = .waitingGroup)
      (drained : pl.fwds.all (·.pc = .exited) = true) (closed : pl.pkgsClosed = true) :
      Step cap env pl .stopFinish (.error .closeOfClosed)

/-- Every step the listener takes is one of `Listener.Step`'s. -/
theorem step_eq_some {cap : Nat} {env : Env} {pl : Listener} {result : Except Panic (Env × Listener)} :
    ∀ {act : ListenerAct}, pl.step cap env act = some result → pl.Step cap env act result
  | .env act, stepped => by
    obtain ⟨env', envStepped, rfl⟩ := Option.map_eq_some'.mp stepped
    exact .env envStepped
  | .read (some frame), stepped => by
    simp only [Listener.step] at stepped
    split_ifs at stepped with reading
    exact .read reading (Option.some.inj stepped)
  | .read none, stepped => by
    simp only [Listener.step] at stepped
    split_ifs at stepped with reading closed <;> cases stepped
    · exact .readEndClosed reading closed
    · exact .readEnd reading (Bool.eq_false_iff.mpr closed)
  | .pickUp, stepped => by
    simp only [Listener.step] at stepped
    rcases reader : pl.reader with _ | ⟨boxID, s⟩ | _ | _ <;> simp only [reader] at stepped
    all_goals try cases stepped
    split at stepped <;> cases stepped
    · exact .pickUpEmpty reader ‹_›
    · exact .pickUp reader (Bool.eq_false_iff.mpr ‹_›)
  | .pickupSent, stepped => by
    simp only [Listener.step] at stepped
    rcases reader : pl.reader with _ | _ | ⟨boxID, s, x⟩ | _ <;> simp only [reader] at stepped
    all_goals try cases stepped
    obtain ⟨_ | env', sent, rfl⟩ := Option.map_eq_some'.mp stepped
    exacts [.pickupSentClosed reader sent, .pickupSent reader sent]
  | .fwdClosed i, stepped => by
    simp only [Listener.step] at stepped
    rcases found : pl.fwds[i]? with _ | fwd <;> simp only [found] at stepped
    · cases stepped
    split_ifs at stepped with ready
    cases stepped
    exact .fwdClosed found ready.1 ready.2
  | .fwdReceive i, stepped => by
    simp only [Listener.step] at stepped
    rcases found : pl.fwds[i]? with _ | fwd <;> simp only [found] at stepped
    · cases stepped
    split_ifs at stepped with selecting
    obtain ⟨⟨_ | _, env'⟩, received, rfl⟩ := Option.map_eq_some'.mp stepped
    exacts [.fwdReceive found selecting received, .fwdEnd found selecting received]
  | .fwdSend i, stepped => by
    simp only [Listener.step] at stepped
    split at stepped
    · split_ifs at stepped with closed
      cases stepped
      exact .fwdSendClosed ‹_› rfl closed
    · cases stepped
  | .writerReceive i, stepped => by
    simp only [Listener.step] at stepped
    rcases found : pl.fwds[i]? with _ | fwd <;> simp only [found] at stepped
    · cases stepped
    rcases sending : fwd.pc with _ | ⟨frame, x⟩ | _ <;> simp only [sending] at stepped
    all_goals try cases stepped
    split_ifs at stepped with ready
    cases stepped
    exact .writerReceive found sending ready.1 (by simpa using ready.2)
  | .writerEnd, stepped => by
    simp only [Listener.step] at stepped
    split_ifs at stepped with ready
    cases stepped
    exact .writerEnd ready.1 ready.2
  | .write ok, stepped => by
    simp only [Listener.step] at stepped
    rcases writing : pl.writer with _ | ⟨frame, source⟩ | _ <;> simp only [writing] at stepped
    all_goals try cases stepped
    cases ok
    · cases stepped
      exact .writeFails writing
    · rw [if_pos rfl] at stepped
      split_ifs at stepped with connClosed
      cases stepped
      exact .write writing (Bool.eq_false_iff.mpr connClosed)
  | .stopWake, stepped => by
    simp only [Listener.step] at stepped
    split_ifs at stepped with ready twice <;> cases stepped
    · exact .stopWakeClosed ready.1 ready.2 twice
    · exact .stopWake ready.1 ready.2 (Bool.eq_false_iff.mpr twice)
  | .stopFinish, stepped => by
    simp only [Listener.step] at stepped
    split_ifs at stepped with ready closed <;> cases stepped
    · exact .stopFinishClosed ready.1 ready.2 closed
    · exact .stopFinish ready.1 ready.2 (Bool.eq_false_iff.mpr closed)

/-- A step with queues of some capacity is a step with larger ones. -/
theorem step_mono {cap cap' : Nat} (more : cap ≤ cap') {env : Env} {pl : Listener}
    {result : Except Panic (Env × Listener)} :
    ∀ {act : ListenerAct}, pl.step cap env act = some result → pl.step cap' env act = some result
  | .env act, stepped => by
    simp only [Listener.step, Option.map_eq_some'] at stepped ⊢
    obtain ⟨env', stepped, rfl⟩ := stepped
    exact ⟨env', Env.step_mono more stepped, rfl⟩
  | .pickupSent, stepped => by
    simp only [Listener.step] at stepped ⊢
    rcases reader : pl.reader with _ | _ | ⟨boxID, sub, tmp⟩ | _ <;> simp only [reader] at stepped ⊢
    case sending =>
      obtain ⟨sent, sendStepped, rfl⟩ := Option.map_eq_some'.mp stepped
      exact Option.map_eq_some'.mpr ⟨sent, Env.send_mono more sendStepped, rfl⟩
    all_goals cases stepped
  | .read (some _), stepped => stepped
  | .read none, stepped => stepped
  | .pickUp, stepped => stepped
  | .fwdClosed _, stepped => stepped
  | .fwdReceive _, stepped => stepped
  | .fwdSend _, stepped => stepped
  | .writerReceive _, stepped => stepped
  | .writerEnd, stepped => stepped
  | .write _, stepped => stepped
  | .stopWake, stepped => stepped
  | .stopFinish, stepped => stepped

end Listener

/-- The server with one package listener, and the panic that ended the process, if any. -/
structure ListenerWorld where
  env : Env
  pl : Listener
  panic : Option Panic

namespace ListenerWorld

/-- A listener just started, on a server whose bucket holds `store`. -/
def init (store : Bucket) : ListenerWorld := ⟨Env.init store, Listener.start, none⟩

/-- One step; nothing runs after a panic. -/
def step (cap : Nat) (w : ListenerWorld) (act : ListenerAct) : Option ListenerWorld :=
  if w.panic.isSome then none
  else (Listener.step cap w.env w.pl act).map fun
    | .ok (env, pl) => ⟨env, pl, none⟩
    | .error p => { w with panic := some p }

/-- A step of the world is a step of the session from a world with no panic: one that panics,
which changes nothing but the panic, or one that goes on. -/
theorem step_eq_some {cap : Nat} {w w' : ListenerWorld} {act : ListenerAct}
    (stepped : w.step cap act = some w') :
    w.panic = none ∧
      ((∃ p, w.pl.step cap w.env act = some (.error p) ∧ w' = { w with panic := some p }) ∨
        ∃ env pl, w.pl.step cap w.env act = some (.ok (env, pl)) ∧ w' = ⟨env, pl, none⟩) := by
  simp only [ListenerWorld.step] at stepped
  split_ifs at stepped with panicked
  refine ⟨Option.not_isSome_iff_eq_none.mp panicked, ?_⟩
  obtain ⟨_ | ⟨env, pl⟩, sessionStepped, rfl⟩ := Option.map_eq_some'.mp stepped
  exacts [.inl ⟨_, sessionStepped, rfl⟩, .inr ⟨env, pl, sessionStepped, rfl⟩]

/-- The steps `acts` one after another. -/
def run (cap : Nat) (w : ListenerWorld) : List ListenerAct → Option ListenerWorld
  | [] => some w
  | act :: acts => (w.step cap act).bind fun w => run cap w acts

/-- The worlds some run reaches from a start on any bucket. -/
inductive Reachable (cap : Nat) : ListenerWorld → Prop where
  | init (store : Bucket) : Reachable cap (init store)
  | step {w w' : ListenerWorld} (act : ListenerAct) :
      Reachable cap w → w.step cap act = some w' → Reachable cap w'

/-- A run from a reachable listener world ends in a reachable one. -/
theorem Reachable.run {cap : Nat} {w w' : ListenerWorld} (reach : Reachable cap w) :
    ∀ {acts : List ListenerAct}, run cap w acts = some w' → Reachable cap w'
  | [], ran => by cases ran; exact reach
  | act :: acts, ran => by
    simp only [ListenerWorld.run, Option.bind_eq_some] at ran
    obtain ⟨next, stepped, rest⟩ := ran
    exact (reach.step act stepped).run rest

/-- A run with queues of some capacity is a run with larger ones. -/
theorem run_mono {cap cap' : Nat} (more : cap ≤ cap') :
    ∀ {w w' : ListenerWorld} {acts : List ListenerAct}, run cap w acts = some w' →
      run cap' w acts = some w'
  | _, _, [], ran => ran
  | w, _, act :: acts, ran => by
    simp only [run, Option.bind_eq_some, ListenerWorld.step] at ran ⊢
    obtain ⟨next, stepped, rest⟩ := ran
    refine ⟨next, ?_, run_mono more rest⟩
    split at stepped
    · cases stepped
    · rename_i live
      rw [if_neg live]
      obtain ⟨result, sessionStepped, rfl⟩ := Option.map_eq_some'.mp stepped
      exact Option.map_eq_some'.mpr ⟨result, Listener.step_mono more sessionStepped, rfl⟩

/-- A world that a run with queues of capacity `c` reaches, and that `P` holds of by
evaluation, is reachable with queues of every larger capacity. -/
theorem exists_forall_reachable_of_run (c : Nat) (store : Bucket) (acts : List ListenerAct)
    {P : ListenerWorld → Prop} [DecidablePred P]
    (ran : ((init store).run c acts).any (fun w => decide (P w)) = true) :
    ∃ w, (∀ cap, c ≤ cap → Reachable cap w) ∧ P w := by
  cases found : (init store).run c acts with
  | none => simp [found] at ran
  | some w =>
    simp only [found, Option.any_some, decide_eq_true_eq] at ran
    exact ⟨w, fun _ more => (Reachable.init store).run (run_mono more found), ran⟩

/-- A world that a run from the start reaches at capacity `c` and that `P` accepts, checked by
evaluating the run, gives a world reachable at every capacity from `c` on that `P` accepts. -/
theorem exists_reachable_of_run (c : Nat) {cap : Nat} (more : c ≤ cap) (store : Bucket)
    (acts : List ListenerAct) {P : ListenerWorld → Prop} [DecidablePred P]
    (ran : ((init store).run c acts).any (fun w => decide (P w)) = true) :
    ∃ w, Reachable cap w ∧ P w :=
  let ⟨w, reach, holds⟩ := exists_forall_reachable_of_run c store acts ran
  ⟨w, reach cap more, holds⟩

end ListenerWorld

end Oscar
