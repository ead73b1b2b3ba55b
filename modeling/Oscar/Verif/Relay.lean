import Mathlib.Data.List.Nodup
import Oscar.Verif.ServerLog

/-! # From a queue to the socket

A session relays each of its queues to the socket: the queue's forwarder takes its items one
at a time and hands each on to the writer, which writes its frame. `heldFrom s` are the items
of queue `s` that a goroutine holds on the way. When each queue has one forwarder, the items
the forwarders hold from queue `s` are those of its forwarder (`flatMap_heldFrom`).

A server step as a session sees it (`Env.Frame`): the log only grows, by no frame; the
session's queues only grow, by the items the log records as enqueued there; and no queue of
the session is created. Every server step is one (`Env.step_frame`).
-/

namespace Oscar

open PubSub

/-- The item of queue `s` whose frame the writer is writing. -/
def WriterPc.heldFrom (s : Nat) : WriterPc → List Item
  | .writing _ (some (t, x)) => if t = s then [x] else []
  | _ => []

/-- A waiting writer holds no item. -/
@[simp] theorem WriterPc.heldFrom_waiting (s : Nat) : WriterPc.waiting.heldFrom s = [] := rfl

/-- A writer that returned holds no item. -/
@[simp] theorem WriterPc.heldFrom_exited (s : Nat) : WriterPc.exited.heldFrom s = [] := rfl

/-- The item of queue `s` a forwarder holds for the writer. -/
def Forwarder.heldFrom (s : Nat) (fwd : Forwarder) : List Item :=
  if fwd.sub = s then
    match fwd.pc with
    | .sending _ x => [x]
    | _ => []
  else []

/-- A forwarder holds nothing from another forwarder's queue. -/
theorem Forwarder.heldFrom_other {s : Nat} {fwd : Forwarder} (other : fwd.sub ≠ s) :
    fwd.heldFrom s = [] := by
  simp [Forwarder.heldFrom, other]

/-- When each queue has one forwarder, the items the forwarders hold from a queue are those
its forwarder holds. -/
theorem flatMap_heldFrom : ∀ {fwds : List Forwarder}, (fwds.map (·.sub)).Nodup →
    ∀ {fwd : Forwarder}, fwd ∈ fwds → fwds.flatMap (Forwarder.heldFrom fwd.sub) = fwd.heldFrom fwd.sub
  | [], _, _, mem => absurd mem (List.not_mem_nil _)
  | f :: fs, nodup, fwd, mem => by
    simp only [List.map_cons, List.nodup_cons, List.mem_map, not_exists, not_and] at nodup
    rw [List.flatMap_cons]
    rcases List.mem_cons.mp mem with same | later
    · rw [same, List.flatMap_eq_nil_iff.mpr fun g mem => Forwarder.heldFrom_other
        fun same => nodup.1 g mem same, List.append_nil]
    · rw [Forwarder.heldFrom_other fun same => nodup.1 fwd later same.symm, List.nil_append]
      exact flatMap_heldFrom nodup.2 later

/-- Replacing an element by one with the same image leaves a `flatMap` alone. -/
theorem flatMap_set_of_eq {α β : Type} {f : α → List β} :
    ∀ {l : List α} {i : Nat} {a b : α}, l[i]? = some a → f b = f a → (l.set i b).flatMap f = l.flatMap f
  | [], _, _, _, found, _ => by simp at found
  | c :: l, 0, a, b, found, same => by
    simp only [List.getElem?_cons_zero, Option.some.injEq] at found
    subst found
    simp [same]
  | c :: l, i + 1, a, b, found, same => by
    simp only [List.set_cons_succ, List.flatMap_cons, flatMap_set_of_eq (by simpa using found) same]

/-- A step as the session's relay sees it: the log grows by no frame; each queue of the
session stays one, growing by the items the log records as enqueued there; no queue of the
session is created; and no item is logged for a queue not yet on the bus. -/
structure Env.Frame (env env' : Env) : Prop where
  log : ∃ E, env'.log = env.log ++ E ∧ ∀ s, written s E = []
  mine : ∀ (s : Nat) (sub : Subscription (List UInt8) Item), env.bus[s]? = some sub → sub.mine = true →
    ∃ (sub' : Subscription (List UInt8) Item) (d : List Item), env'.bus[s]? = some sub' ∧
      sub'.mine = true ∧ sub'.queue = sub.queue ++ d ∧ enqueued s env'.log = enqueued s env.log ++ d
  created : ∀ (s : Nat) (sub' : Subscription (List UInt8) Item), env'.bus[s]? = some sub' →
    sub'.mine = true → ∃ sub : Subscription (List UInt8) Item, env.bus[s]? = some sub ∧
      sub.mine = true
  fresh : ∀ s, env'.bus.length ≤ s → enqueued s env'.log = enqueued s env.log
  grows : env.bus.length ≤ env'.bus.length

namespace Env.Frame

/-- Two relay frames in a row make one. -/
theorem trans {env env' env'' : Env} (first : env.Frame env') (second : env'.Frame env'') :
    env.Frame env'' where
  log := by
    obtain ⟨E, log, quiet⟩ := first.log
    obtain ⟨E', log', quiet'⟩ := second.log
    exact ⟨E ++ E', by simp [log', log], fun s => by simp [quiet, quiet']⟩
  mine s sub found mine := by
    obtain ⟨sub', d, found', mine', queue', enq'⟩ := first.mine s sub found mine
    obtain ⟨sub'', d', found'', mine'', queue'', enq''⟩ := second.mine s sub' found' mine'
    exact ⟨sub'', d ++ d', found'', mine'', by simp [queue'', queue'], by simp [enq'', enq']⟩
  created s sub'' found'' mine'' := by
    obtain ⟨sub', found', mine'⟩ := second.created s sub'' found'' mine''
    exact first.created s sub' found' mine'
  fresh s beyond := by
    rw [second.fresh s beyond, first.fresh s (Nat.le_trans second.grows beyond)]
  grows := Nat.le_trans first.grows second.grows

/-- Appending events with no frame and no item, the bus as it was. -/
theorem of_log {env env' : Env} {E : List Event} (bus : env'.bus = env.bus)
    (log : env'.log = env.log ++ E) (quiet : ∀ s, written s E = [] ∧ enqueued s E = []) :
    env.Frame env' where
  log := ⟨E, log, fun s => (quiet s).1⟩
  mine s sub found mine := ⟨sub, [], by simp [bus, found], mine, by simp, by simp [log, (quiet s).2]⟩
  created s sub found mine := ⟨sub, by rw [← bus]; exact found, mine⟩
  fresh s _ := by simp [log, (quiet s).2]
  grows := by rw [bus]

/-- A change of subscription `i` that keeps its queue and whose it is. -/
theorem of_modify {env env' : Env} {E : List Event} {i : Nat}
    {change : Subscription (List UInt8) Item → Subscription (List UInt8) Item}
    (bus : env'.bus = PubSub.modify env.bus i change)
    (queue : ∀ sub, (change sub).queue = sub.queue) (keeps : ∀ sub, (change sub).mine = sub.mine)
    (log : env'.log = env.log ++ E) (quiet : ∀ s, written s E = [] ∧ enqueued s E = []) :
    env.Frame env' where
  log := ⟨E, log, fun s => (quiet s).1⟩
  mine s sub found mine := by
    refine ⟨if i = s then change sub else sub, [], ?_, ?_, ?_, by simp [log, (quiet s).2]⟩
    · rw [bus, getElem?_modify]; split_ifs <;> simp [found]
    · split_ifs <;> simp [keeps, mine]
    · split_ifs <;> simp [queue]
  created s sub' found' mine' := by
    rw [bus, getElem?_modify] at found'
    split_ifs at found'
    · obtain ⟨sub, found, rfl⟩ := Option.map_eq_some'.mp found'
      exact ⟨sub, found, by rw [← keeps]; exact mine'⟩
    · exact ⟨sub', found', mine'⟩
  fresh s _ := by simp [log, (quiet s).2]
  grows := by rw [bus, length_modify]

/-- Another session's step on its own subscription `i`. -/
theorem of_other {env env' : Env} {E : List Event} {i : Nat}
    {sub : Subscription (List UInt8) Item} (found : env.bus[i]? = some sub) (other : sub.mine = false)
    {change : Subscription (List UInt8) Item → Subscription (List UInt8) Item}
    (bus : env'.bus = PubSub.modify env.bus i change) (keeps : ∀ sub, (change sub).mine = sub.mine)
    (log : env'.log = env.log ++ E) (quiet : ∀ s, written s E = [] ∧ enqueued s E = []) :
    env.Frame env' where
  log := ⟨E, log, fun s => (quiet s).1⟩
  mine s sub' found' mine := by
    have : i ≠ s := by rintro rfl; simp_all
    exact ⟨sub', [], by simp [bus, getElem?_modify, this, found'], mine, by simp,
      by simp [log, (quiet s).2]⟩
  created s sub' found' mine' := by
    rw [bus, getElem?_modify] at found'
    split_ifs at found' with same
    · subst same
      obtain ⟨sub, found'', rfl⟩ := Option.map_eq_some'.mp found'
      rw [found] at found''
      cases found''
      simp_all
    · exact ⟨sub', found', mine'⟩
  fresh s _ := by simp [log, (quiet s).2]
  grows := by rw [bus, length_modify]

/-- An item put at the back of queue `i`, and logged as enqueued there. -/
theorem of_push {env env' : Env} {i : Nat} {x : Item} {target : Subscription (List UInt8) Item}
    (found : env.bus[i]? = some target) (bus : env'.bus = push env.bus i x)
    (log : env'.log = env.log ++ [.enqueue i x]) : env.Frame env' where
  log := ⟨[.enqueue i x], log, fun s => by simp [Event.writtenFrom]⟩
  mine s sub found' mine := by
    by_cases here : i = s
    · subst here
      rw [found] at found'
      cases found'
      exact ⟨{ target with queue := target.queue ++ [x] }, [x],
        by simp [bus, push, getElem?_modify, found], mine, rfl, by simp [log, Event.enqueuedTo]⟩
    · exact ⟨sub, [], by simp [bus, push, getElem?_modify, here, found'], mine, by simp,
        by simp [log, Event.enqueuedTo, here]⟩
  created s sub' found' mine' := by
    rw [bus, push, getElem?_modify] at found'
    split_ifs at found'
    · obtain ⟨old, oldFound, rfl⟩ := Option.map_eq_some'.mp found'
      exact ⟨old, oldFound, mine'⟩
    · exact ⟨sub', found', mine'⟩
  fresh s beyond := by
    have : i ≠ s := fun same => by
      have := (List.getElem?_eq_some_iff.mp found).1
      rw [bus, length_push] at beyond
      omega
    simp [log, Event.enqueuedTo, this]
  grows := by rw [bus, length_push]

end Env.Frame

/-- Every server step is a frame of the session's relay. -/
theorem Env.step_frame {cap : Nat} {env env' : Env} {act : EnvAct}
    (stepped : env.step cap act = some env') : env.Frame env' := by
  cases Env.step_eq_some stepped with
  | put | send | finish =>
    refine .of_log rfl rfl fun s => ?_
    split <;> simp [Event.writtenFrom, Event.enqueuedTo]
  | pub => exact .of_log rfl rfl fun s => by simp [Event.writtenFrom, Event.enqueuedTo]
  | deliverGone | deliverClosed => exact .of_log (E := []) rfl (by simp) fun s => by simp
  | deliver _ busFound => exact .of_push busFound rfl rfl
  | otherSub t =>
    refine ⟨⟨_, rfl, fun s => by simp [Event.writtenFrom]⟩, fun s sub found mine =>
      ⟨sub, [], ?_, mine, by simp, by simp [Event.enqueuedTo]⟩, fun s sub found mine => ?_,
      fun s _ => by simp [Event.enqueuedTo], by simp⟩
    · simp [getElem?_subscribe, (List.getElem?_eq_some_iff.mp found).1.ne, found]
    · rw [getElem?_subscribe] at found
      split_ifs at found with new
      · cases found; cases mine
      · exact ⟨sub, found, mine⟩
  | otherRecv found other =>
    exact .of_other (E := []) found other rfl (fun _ => rfl) (by simp) fun s => by simp
  | otherUnsub found other =>
    exact .of_other found other rfl (fun _ => rfl) rfl
      fun s => by simp [Event.writtenFrom, Event.enqueuedTo]

/-- The session's send into an open queue with room is a frame of its relay. -/
theorem Env.Frame.send {env env' : Env} {cap i : Nat} {x : Item}
    (sent : env.send cap i x = some (.ok env')) : env.Frame env' := by
  obtain ⟨target, found, -, -, rfl⟩ := Env.send_eq_ok sent
  exact .of_push found rfl rfl

/-- The frame written for a source is the item the writer held from it. -/
@[simp] theorem toList_writtenFrom_write (s : Nat) (frame : List UInt8)
    (source : Option (Nat × Item)) :
    ((Event.write frame source).writtenFrom s).toList = (WriterPc.writing frame source).heldFrom s := by
  rcases source with _ | ⟨t, x⟩
  · rfl
  · by_cases same : t = s <;> simp [Event.writtenFrom, WriterPc.heldFrom, same]

/-- A step that leaves the server as it is. -/
theorem Env.Frame.refl (env : Env) : env.Frame env :=
  .of_log (E := []) rfl (by simp) fun s => by simp

/-- `s` is a queue of the session. -/
def Env.Mine (env : Env) (s : Nat) : Prop :=
  ∃ sub : Subscription (List UInt8) Item, env.bus[s]? = some sub ∧ sub.mine = true

/-- A queue of the session is on the bus. -/
theorem Env.Mine.lt {env : Env} {s : Nat} : env.Mine s → s < env.bus.length
  | ⟨_, found, _⟩ => (List.getElem?_eq_some_iff.mp found).1

/-- A change of a subscription that keeps whose it is keeps the session's queues. -/
theorem Env.mine_modify {env env' : Env} {i : Nat}
    {change : Subscription (List UInt8) Item → Subscription (List UInt8) Item}
    (bus : env'.bus = PubSub.modify env.bus i change) (keeps : ∀ sub, (change sub).mine = sub.mine)
    (s : Nat) : env'.Mine s ↔ env.Mine s := by
  unfold Env.Mine
  rw [bus, getElem?_modify]
  split_ifs
  · simp [keeps]
  · rfl

/-- A receive keeps whose each queue is. -/
theorem Env.mine_receive {env env' : Env} {i : Nat} {got : Received Item}
    (received : env.receive i = some (got, env')) (s : Nat) : env'.Mine s ↔ env.Mine s := by
  obtain ⟨_, -, ⟨⟩⟩ := Option.map_eq_some'.mp received
  exact Env.mine_modify (show _ = PubSub.modify env.bus i fun sub => { sub with queue := sub.queue.drop 1 }
    from rfl) (fun _ => rfl) s

/-- The session's `Sub` adds one queue of the session, at the end of the bus. -/
theorem Env.mine_sub {env : Env} {t : List UInt8} {s : Nat} :
    (env.sub t).Mine s ↔ env.Mine s ∨ s = env.bus.length := by
  unfold Env.Mine Env.sub
  rw [getElem?_subscribe]
  split_ifs with new
  · subst new
    simp [List.getElem?_eq_none_iff.mpr (le_refl _)]
  · simp [new]

/-- A queue of the session stays one through a relay frame. -/
theorem Env.Frame.keeps_mine {env env' : Env} (frame : env.Frame env') {s : Nat} :
    env.Mine s → env'.Mine s
  | ⟨sub, found, mine⟩ =>
    let ⟨sub', _, found', mine', _⟩ := frame.mine s sub found mine
    ⟨sub', found', mine'⟩

/-- A request that had started has still started after a relay frame. -/
theorem Env.Frame.started {env env' : Env} (frame : env.Frame env') {r : Nat}
    (seen : Started env.log r) : Started env'.log r := by
  obtain ⟨E, log, -⟩ := frame.log
  rw [log]
  exact seen.append E

/-- A relay frame writes no frame: what was written from each queue is unchanged. -/
theorem Env.Frame.written_eq {env env' : Env} (frame : env.Frame env') (s : Nat) :
    written s env'.log = written s env.log := by
  obtain ⟨E, log, quiet⟩ := frame.log
  simp [log, quiet]

/-- The session's `Unsub` is a frame of its relay. -/
theorem Env.Frame.unsub (env : Env) (i : Nat) : env.Frame (env.unsub i) :=
  .of_modify rfl (fun _ => rfl) (fun _ => rfl) rfl fun s => by
    simp [Event.writtenFrom, Event.enqueuedTo]

/-- The session logging a command is a frame of its relay. -/
theorem Env.Frame.note (env : Env) {e : Event} (quiet : ∀ s, e.writtenFrom s = none ∧ e.enqueuedTo s = none) :
    env.Frame (env.note e) :=
  .of_log rfl rfl fun s => by simp [(quiet s).1, (quiet s).2]

end Oscar
