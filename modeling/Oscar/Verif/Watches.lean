import Oscar.Verif.Frames

/-! # What the socket server watches

`watchBox` subscribes to the hex encoding of a sixteen-byte id and records the queue in
`ss.pkgSubs` under that topic, unless one is recorded there already; `ignoreBox` unsubscribes
the queue recorded and forgets it. Nothing else opens or closes a queue of the session. So the
record is exact (`SocketServer.Books`): one entry per topic, each the queue of the box its
topic encodes, and the open queues of the session are the ones it records
(`socket_pkgSubs_exact`). The package listener's record is not: its IGNORE forgets a queue it
leaves open (`listener_rewatch_two_forwarders`).
-/

namespace Oscar

open PubSub

/-- The socket server's record of its subscriptions is exact: one entry per topic, each the
queue of the box its topic encodes, and the open queues of the session are those it records. -/
structure SocketServer.Books (env : Env) (ss : SocketServer) : Prop where
  nodup : (ss.pkgSubs.map (·.1)).Nodup
  labels : ∀ hexID s, (hexID, s) ∈ ss.pkgSubs →
    ∃ boxID, env.Labels s boxID ∧ hexID = Hex.encodeToString boxID
  live : ∀ s, env.Live s ↔ s ∈ ss.pkgSubs.map (·.2)

namespace SocketServer.Books

variable {env env' : Env} {ss ss' : SocketServer}

/-- A session just started keeps its books: it watches no box and holds no subscription. -/
theorem start (store : Bucket) : Books (Env.init store) SocketServer.start where
  nodup := List.nodup_nil
  labels _ _ mem := absurd mem (List.not_mem_nil _)
  live _ := by simp [Env.Live, Env.init, SocketServer.start]

/-- One topic, one queue. -/
theorem sub_eq (books : Books env ss) {hexID : List UInt8} {s s' : Nat}
    (entry : (hexID, s) ∈ ss.pkgSubs) (entry' : (hexID, s') ∈ ss.pkgSubs) : s = s' :=
  congrArg Prod.snd (List.inj_on_of_nodup_map books.nodup entry entry' rfl)

/-- One queue, one topic: its own. -/
theorem topic_eq (books : Books env ss) {hexID hexID' : List UInt8} {s : Nat}
    (entry : (hexID, s) ∈ ss.pkgSubs) (entry' : (hexID', s) ∈ ss.pkgSubs) : hexID = hexID' := by
  obtain ⟨_, ⟨-, sub, found, topic⟩, rfl⟩ := books.labels _ _ entry
  obtain ⟨_, ⟨-, sub', found', topic'⟩, rfl⟩ := books.labels _ _ entry'
  cases found.symm.trans found'
  exact topic.symm.trans topic'

/-- A step that keeps the topics and the open queues of the session, and the record. -/
theorem of_env (books : Books env ss) (keeps : env.KeepsTopics env')
    (live : ∀ s, env'.Live s ↔ env.Live s) (subs : ss'.pkgSubs = ss.pkgSubs) : Books env' ss' where
  nodup := subs ▸ books.nodup
  labels hexID s mem :=
    let ⟨boxID, labelled, topic⟩ := books.labels hexID s (subs ▸ mem)
    ⟨boxID, keeps.labels labelled, topic⟩
  live s := (live s).trans (subs ▸ books.live s)

/-- `watchBox` records the queue it opens, under a topic not recorded yet. -/
theorem watchBox (books : Books env ss) (boxID : List UInt8) :
    Books (ss.watchBox env boxID).1 (ss.watchBox env boxID).2 := by
  unfold SocketServer.watchBox
  dsimp only
  split_ifs with sized
  · exact books
  split
  · exact books
  rename_i fresh
  have keeps : env.KeepsTopics ((env.sub (Hex.encodeToString boxID)).note (.watch boxID)) :=
    .of_subscribe rfl
  refine ⟨?_, fun hexID s mem => ?_, fun s => ?_⟩
  · rw [List.map_append]
    exact books.nodup.append (List.nodup_singleton _) fun _ old new => by
      obtain ⟨⟨hexID, s⟩, entry, rfl⟩ := List.mem_map.mp old
      have apart : ¬Hex.encodeToString boxID = hexID := by
        simpa using List.lookup_eq_none_iff.mp fresh _ entry
      exact apart (List.mem_singleton.mp new).symm
  · rcases List.mem_append.mp mem with old | new
    · obtain ⟨b, labelled, topic⟩ := books.labels hexID s old
      exact ⟨b, keeps.labels labelled, topic⟩
    · cases List.mem_singleton.mp new
      exact ⟨boxID, ⟨not_not.mp sized, ⟨Hex.encodeToString boxID, [], true, true⟩,
        by simp only [Env.note, Env.sub]; rw [getElem?_subscribe, if_pos rfl], rfl⟩, rfl⟩
  · rw [Env.live_subscribe_iff rfl, books.live]
    simp

/-- `ignoreBox` closes the queue it forgets, and only it. -/
theorem ignoreBox (books : Books env ss) (boxID : List UInt8) :
    Books (ss.ignoreBox env boxID).1 (ss.ignoreBox env boxID).2 := by
  unfold SocketServer.ignoreBox
  dsimp only
  split
  · exact books
  rename_i sub found
  have entry : (Hex.encodeToString boxID, sub) ∈ ss.pkgSubs :=
    (List.lookup_eq_some_iff.mp found).elim fun _ ⟨_, split, _⟩ => by rw [split]; simp
  have keeps : env.KeepsTopics ((env.unsub sub).note (.ignore boxID)) := .of_modify rfl fun _ => rfl
  refine ⟨books.nodup.sublist ((List.filter_sublist _).map _), fun hexID s mem => ?_, fun s => ?_⟩
  · obtain ⟨b, labelled, topic⟩ := books.labels hexID s (List.mem_of_mem_filter mem)
    exact ⟨b, keeps.labels labelled, topic⟩
  · show (env.unsub sub).Live s ↔ _
    rw [Env.live_unsub_iff, books.live]
    constructor
    · rintro ⟨listed, other⟩
      obtain ⟨⟨hexID, s⟩, entry', rfl⟩ := List.mem_map.mp listed
      have apart : hexID ≠ Hex.encodeToString boxID := fun same =>
        other (books.sub_eq (same ▸ entry') entry)
      exact List.mem_map.mpr ⟨_, List.mem_filter.mpr ⟨entry', by simpa using apart⟩, rfl⟩
    · intro listed
      obtain ⟨⟨hexID, s⟩, kept, rfl⟩ := List.mem_map.mp listed
      obtain ⟨entry', apart⟩ := List.mem_filter.mp kept
      refine ⟨List.mem_map.mpr ⟨_, entry', rfl⟩, fun same => ?_⟩
      cases same
      simp [books.topic_eq entry' entry] at apart

/-- A command keeps the record exact. -/
theorem dispatch (books : Books env ss) {frame : List UInt8}
    (dispatched : ss.dispatch env frame = (env', ss')) : Books env' ss' := by
  unfold SocketServer.dispatch at dispatched
  split at dispatched
  next boxID =>
    have books := books.watchBox boxID
    rwa [dispatched] at books
  next boxID =>
    have books := books.ignoreBox boxID
    rwa [dispatched] at books
  next => cases dispatched; exact books

end SocketServer.Books

/-- Every step of the socket server, and of the server around it, keeps its record exact. -/
theorem SocketServer.step_books {cap : Nat} {env env' : Env} {ss ss' : SocketServer}
    {act : SocketAct} (books : ss.Books env) (stepped : ss.step cap env act = some (.ok (env', ss'))) :
    ss'.Books env' := by
  cases step_eq_some stepped with
  | env envStepped =>
    exact books.of_env (Env.step_keepsTopics envStepped) (fun _ => Env.step_live_iff envStepped) rfl
  | read _ dispatched => exact books.dispatch dispatched
  | pickupSent _ sent =>
    have live := fun s => Env.send_live_iff (s := s) sent
    obtain ⟨-, -, -, -, rfl⟩ := Env.send_eq_ok sent
    exact books.of_env (.of_push rfl) live rfl
  | fwdEnd _ _ received | fwdReceive _ _ received =>
    exact books.of_env (.of_modify (Env.receive_bus received) fun _ => rfl)
      (fun _ => Env.receive_live_iff received) rfl
  | _ => exact books.of_env (.of_bus rfl) (fun _ => Iff.rfl) rfl

/-- Every reachable world's socket server keeps its record exact; a panic changes nothing. -/
theorem SocketWorld.Reachable.books {cap : Nat} {w : SocketWorld} (reach : w.Reachable cap) :
    w.ss.Books w.env := by
  induction reach with
  | init store => exact .start store
  | step act _ stepped books =>
    obtain ⟨-, ⟨_, -, rfl⟩ | ⟨env', ss', sessionStepped, rfl⟩⟩ := SocketWorld.step_eq_some stepped
    · exact books
    · exact SocketServer.step_books books sessionStepped

/-- In every reachable world the socket server records one queue per topic; each is the queue
of the sixteen-byte box its topic encodes; and the open queues of the session are exactly the
ones it records. -/
theorem socket_pkgSubs_exact {cap : Nat} {w : SocketWorld} (reach : w.Reachable cap) :
    (w.ss.pkgSubs.map (·.1)).Nodup ∧
      (∀ hexID s, (hexID, s) ∈ w.ss.pkgSubs →
        ∃ boxID, w.env.Labels s boxID ∧ hexID = Hex.encodeToString boxID) ∧
      ∀ s, w.env.Live s ↔ s ∈ w.ss.pkgSubs.map (·.2) :=
  let books := reach.books
  ⟨books.nodup, books.labels, books.live⟩

/-- WATCH, IGNORE and WATCH again: the first queue is closed and the second recorded. -/
theorem socket_pkgSubs_exact_rewatch : ∃ w : SocketWorld, w.Reachable 0 ∧
    w.ss.pkgSubs = [(zeroHex, 1)] ∧
    w.env.bus.map (fun s => (s.topic, s.live)) = [(zeroHex, false), (zeroHex, true)] ∧
    ((w.ss.pkgSubs.map (·.1)).Nodup ∧
      (∀ hexID s, (hexID, s) ∈ w.ss.pkgSubs →
        ∃ boxID, w.env.Labels s boxID ∧ hexID = Hex.encodeToString boxID) ∧
      ∀ s, w.env.Live s ↔ s ∈ w.ss.pkgSubs.map (·.2)) :=
  let ⟨w, reach, subs, bus⟩ := SocketWorld.exists_reachable_of_run 0 le_rfl Bucket.empty
    (P := fun w : SocketWorld => w.ss.pkgSubs = [(zeroHex, 1)] ∧
      w.env.bus.map (fun s => (s.topic, s.live)) = [(zeroHex, false), (zeroHex, true)])
    [.read (some (1 :: zeroBox)), .pickUp false, .read (some (2 :: zeroBox)),
      .read (some (1 :: zeroBox)), .pickUp false] (by decide)
  ⟨w, reach, subs, bus, socket_pkgSubs_exact reach⟩

end Oscar
