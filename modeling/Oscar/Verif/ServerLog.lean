import Oscar.Verif.History

/-! # What the server's log records

Every event of a reachable server's log is justified by the events before it
(`Event.Justified`): a request starts once; a publication comes after its request started
and lists every subscriber of its topic not taken off; an item is enqueued after the request
that wrote it started; and a PUT returns after its publication reached every subscriber it
listed and that was not taken off meanwhile.

`Env.Inv` is what a reachable server keeps whatever its sessions do: the justified log, the
bus as the log has it (`BusLog`), and each publisher's progress (`Publisher.Logged`). Every
server step keeps it (`Env.Inv.step`), and so does each thing a session does to the server,
under the session's own side conditions (`Env.Inv.sub`, `Env.Inv.unsub`, `Env.Inv.send`, …).
-/

namespace Oscar

open PubSub

/-- Request `r` has started. -/
def Started (log : List Event) (r : Nat) : Prop := ∃ ps b, Event.start r ps b ∈ log

/-- A request that has started has still started once events are appended. -/
theorem Started.append {log : List Event} {r : Nat} (E : List Event) :
    Started log r → Started (log ++ E) r
  | ⟨ps, b, mem⟩ => ⟨ps, b, List.mem_append_left E mem⟩

/-- An event that starts no request and neither subscribes nor unsubscribes. -/
def Event.Quiet : Event → Prop
  | .start .. | .subscribe .. | .unsubscribe _ => False
  | _ => True

/-- A quiet event starts no request. -/
theorem started_append_quiet {log : List Event} {r : Nat} {e : Event} (quiet : e.Quiet) :
    Started (log ++ [e]) r ↔ Started log r := by
  refine ⟨fun ⟨ps, b, mem⟩ => ?_, Started.append _⟩
  rcases List.mem_append.mp mem with old | new
  · exact ⟨ps, b, old⟩
  · rw [List.mem_singleton] at new
    subst new
    exact quiet.elim

/-- What an event owes to the events before it. -/
def Event.Justified (L : List Event) : Event → Prop
  | .start r _ _ => ¬Started L r
  | .publish r t _ targets =>
    Started L r ∧ ∀ s, .subscribe s t ∈ L → .unsubscribe s ∉ L → s ∈ targets
  | .enqueue _ x => x.origin = 0 ∨ Started L x.origin
  | .ret r => Started L r ∧ ∀ t x, .start r [(t, x)] true ∈ L →
      ∃ targets, .publish r t x targets ∈ L ∧
        ∀ s ∈ targets, .unsubscribe s ∉ L → .enqueue s x ∈ L
  | _ => True

/-- An event in a justified log is justified by the part of the log before it. -/
theorem Causal.mem {R : List Event → Event → Prop} {log : List Event} {e : Event}
    (h : Causal R log) (mem : e ∈ log) : ∃ L M, log = L ++ e :: M ∧ R L e := by
  obtain ⟨L, M, rfl⟩ := List.append_of_mem mem
  exact ⟨L, M, rfl, h L e M rfl⟩

/-- A request starts once. -/
theorem Causal.start_unique {log : List Event} (h : Causal Event.Justified log) {r : Nat}
    {ps ps' : List (List UInt8 × Item)} {b b' : Bool} (first : .start r ps b ∈ log)
    (second : .start r ps' b' ∈ log) : ps = ps' ∧ b = b' := by
  obtain ⟨L, M, rfl, fresh⟩ := h.mem first
  rcases List.mem_append.mp second with early | late
  · exact absurd ⟨ps', b', early⟩ fresh
  rcases List.mem_cons.mp late with same | later
  · cases same; exact ⟨rfl, rfl⟩
  obtain ⟨L', M', rfl⟩ := List.append_of_mem later
  have fresh' := h (L ++ .start r ps b :: L') (.start r ps' b') M' (by simp)
  have seen : Started (L ++ .start r ps b :: L') r := ⟨ps, b, by simp⟩
  exact absurd seen fresh'

/-! ## The bus as the log has it -/

/-- A subscription is on the bus exactly when its `Sub` is logged, on the logged topic, and
open exactly until its `Unsub` is logged. -/
structure BusLog (bus : List (Subscription (List UInt8) Item)) (log : List Event) : Prop where
  subscribed : ∀ s t, .subscribe s t ∈ log ↔ ∃ sub, bus[s]? = some sub ∧ sub.topic = t
  live : ∀ s sub, bus[s]? = some sub → (sub.live = true ↔ .unsubscribe s ∉ log)
  unsubscribed : ∀ s, .unsubscribe s ∈ log → s < bus.length

namespace BusLog

variable {bus : List (Subscription (List UInt8) Item)} {log : List Event}

/-- Appending events that neither subscribe nor unsubscribe keeps the bus as the log has it. -/
theorem append (h : BusLog bus log) {E : List Event} (noSub : ∀ s t, .subscribe s t ∉ E)
    (noUnsub : ∀ s, .unsubscribe s ∉ E) : BusLog bus (log ++ E) where
  subscribed s t := by simpa [noSub s t] using h.subscribed s t
  live s sub found := by simpa [noUnsub s] using h.live s sub found
  unsubscribed s mem := h.unsubscribed s (by simpa [noUnsub s] using mem)

/-- Appending a quiet event keeps the bus as the log has it. -/
theorem append_quiet (h : BusLog bus log) {e : Event} (quiet : e.Quiet) :
    BusLog bus (log ++ [e]) :=
  h.append (fun s t mem => by rw [List.mem_singleton] at mem; subst mem; exact quiet)
    (fun s mem => by rw [List.mem_singleton] at mem; subst mem; exact quiet)

/-- Changing a queue, and nothing else, keeps the bus as the log has it. -/
theorem modify (h : BusLog bus log) (i : Nat) {change : Subscription (List UInt8) Item → Subscription (List UInt8) Item}
    (topic : ∀ sub, (change sub).topic = sub.topic) (live : ∀ sub, (change sub).live = sub.live) :
    BusLog (PubSub.modify bus i change) log where
  subscribed s t := by
    rw [h.subscribed, getElem?_modify]
    split_ifs <;> cases bus[s]? <;> simp [topic]
  live s sub found := by
    rw [getElem?_modify] at found
    split_ifs at found
    · obtain ⟨old, oldFound, rfl⟩ := Option.map_eq_some'.mp found
      rw [live]
      exact h.live s old oldFound
    · exact h.live s sub found
  unsubscribed s mem := by simpa using h.unsubscribed s mem

/-- Pushing an item keeps the bus as the log has it. -/
theorem push (h : BusLog bus log) (i : Nat) (x : Item) : BusLog (PubSub.push bus i x) log :=
  h.modify i (fun _ => rfl) (fun _ => rfl)

/-- Popping an item keeps the bus as the log has it. -/
theorem pop (h : BusLog bus log) (i : Nat) : BusLog (PubSub.pop bus i) log :=
  h.modify i (fun _ => rfl) (fun _ => rfl)

/-- A `Sub` logged as it is made keeps the bus as the log has it. -/
theorem subscribe (h : BusLog bus log) (t : List UInt8) (mine : Bool) :
    BusLog (PubSub.subscribe bus t mine) (log ++ [.subscribe bus.length t]) where
  subscribed s t' := by
    rw [List.mem_append, h.subscribed, getElem?_subscribe]
    by_cases new : s = bus.length
    · subst new
      simp [List.getElem?_eq_none_iff.mpr (Nat.le_refl _), eq_comm]
    · simp [new]
  live s sub found := by
    rw [getElem?_subscribe] at found
    split_ifs at found with new
    · cases found
      subst new
      simpa using fun mem => Nat.lt_irrefl _ (h.unsubscribed _ mem)
    · simpa using h.live s sub found
  unsubscribed s mem := by
    simp only [List.mem_append, List.mem_singleton, reduceCtorEq, or_false] at mem
    rw [length_subscribe]
    exact Nat.lt_succ_of_lt (h.unsubscribed s mem)

/-- An `Unsub` of a subscription on the bus, logged as it is made, keeps the bus as the log has it.
-/
theorem unsubscribe (h : BusLog bus log) {i : Nat} (present : i < bus.length) :
    BusLog (PubSub.unsubscribe bus i) (log ++ [.unsubscribe i]) where
  subscribed s t := by
    rw [List.mem_append, h.subscribed, PubSub.unsubscribe, getElem?_modify]
    split_ifs <;> cases bus[s]? <;> simp
  live s sub found := by
    rw [PubSub.unsubscribe, getElem?_modify] at found
    split_ifs at found with same
    · obtain ⟨sub, -, rfl⟩ := Option.map_eq_some'.mp found
      simp [same]
    · simpa [Ne.symm same] using h.live s sub found
  unsubscribed s mem := by
    simp only [List.mem_append, List.mem_singleton, Event.unsubscribe.injEq] at mem
    rcases mem with mem | rfl
    · simpa using h.unsubscribed s mem
    · simpa using present

end BusLog

/-! ## Publishers -/

/-- A PUT's publisher as far as its publication has gone: not begun; delivering, with the
subscribers `rest` still to go and the item in every other listed subscriber not taken off;
or over. -/
def Publisher.PutPhase (p : Publisher) (log : List Event) : Prop :=
  ∀ t x, .start p.req [(t, x)] true ∈ log →
    (p.todo = [(t, x)] ∧ p.current = none) ∨
    (p.todo = [] ∧ ∃ targets rest, p.current = some (x, rest) ∧ .publish p.req t x targets ∈ log ∧
      (∀ s ∈ rest, ∃ t', .subscribe s t' ∈ log) ∧
      ∀ s ∈ targets, s ∉ rest → .unsubscribe s ∉ log → .enqueue s x ∈ log) ∨
    (p.todo = [] ∧ p.current = none)

/-- What the log says of a publisher: its request started, its items are its request's, and
a PUT's publication is as far as `PutPhase` says. -/
structure Publisher.Logged (p : Publisher) (log : List Event) : Prop where
  started : Started log p.req
  todo : ∀ e ∈ p.todo, e.2.origin = p.req
  current : ∀ x rest, p.current = some (x, rest) → x.origin = p.req
  put : p.PutPhase log

/-- Events that start no request leave a publisher's record true. -/
theorem Publisher.Logged.append {p : Publisher} {log : List Event} (h : p.Logged log)
    {E : List Event} (noStart : ∀ ps b, .start p.req ps b ∉ E) : p.Logged (log ++ E) where
  started := h.started.append E
  todo := h.todo
  current := h.current
  put t x mem := by
    have mem : .start p.req [(t, x)] true ∈ log := by simpa [noStart] using mem
    rcases h.put t x mem with begun | ⟨none_, targets, rest, current, published, listed, delivered⟩ | over
    · exact .inl begun
    · refine .inr (.inl ⟨none_, targets, rest, current, List.mem_append_left E published,
        fun s mem => ?_, fun s target left kept => ?_⟩)
      · obtain ⟨t', sub⟩ := listed s mem
        exact ⟨t', List.mem_append_left E sub⟩
      · exact List.mem_append_left E (delivered s target left fun gone => kept (by simp [gone]))
    · exact .inr (.inr over)

/-- Appending a quiet event keeps a publisher's progress as the log has it. -/
theorem Publisher.Logged.append_quiet {p : Publisher} {log : List Event} (h : p.Logged log)
    {e : Event} (quiet : e.Quiet) : p.Logged (log ++ [e]) :=
  h.append fun ps b mem => by rw [List.mem_singleton] at mem; subst mem; exact quiet

/-- A publisher that delivered to its next subscriber `i`, which has the item unless it was
taken off. -/
theorem Publisher.Logged.deliver {p : Publisher} {log : List Event} (h : p.Logged log)
    {E : List Event} (noStart : ∀ ps b, .start p.req ps b ∉ E) {x : Item} {i : Nat}
    {rest : List Nat} (current : p.current = some (x, i :: rest))
    (handled : ∀ t, .subscribe i t ∈ log → .unsubscribe i ∈ log ∨ .enqueue i x ∈ log ++ E) :
    ({ p with current := some (x, rest) } : Publisher).Logged (log ++ E) := by
  refine ⟨h.started.append E, h.todo, fun y rest' same => ?_, fun t y mem => ?_⟩
  · cases same; exact h.current _ _ current
  have mem : .start p.req [(t, y)] true ∈ log := by simpa [noStart] using mem
  rcases h.put t y mem with ⟨-, none_⟩ | ⟨empty, targets, rest', current', published, listed,
    delivered⟩ | ⟨-, none_⟩
  · simp [current] at none_
  · rw [current] at current'
    obtain ⟨rfl, rfl⟩ := Prod.mk.inj (Option.some.inj current')
    refine .inr (.inl ⟨empty, targets, rest, rfl, List.mem_append_left E published,
      fun s mem => (listed s (List.mem_cons_of_mem i mem)).imp fun _ sub =>
        List.mem_append_left E sub, fun s target left kept => ?_⟩)
    by_cases same : s = i
    · subst same
      obtain ⟨t', subscribed⟩ := listed s (List.mem_cons_self _ _)
      exact (handled t' subscribed).resolve_left fun gone => kept (List.mem_append_left E gone)
    · exact List.mem_append_left E (delivered s target (by simp [same, left])
        fun gone => kept (List.mem_append_left E gone))
  · simp [current] at none_

/-! ## The invariant -/

/-- What every reachable server keeps. -/
structure Env.Inv (env : Env) : Prop where
  causal : Causal Event.Justified env.log
  started : ∀ r, Started env.log r → r < env.nextReq
  origins : ∀ box, env.origins box = 0 ∨ Started env.log (env.origins box)
  pubs : ∀ p ∈ env.pubs, p.Logged env.log
  bus : BusLog env.bus env.log

/-- The server's invariant holds at the start, on any bucket. -/
theorem Env.Inv.init (store : Bucket) : (Env.init store).Inv where
  causal := causal_nil
  started _ := fun ⟨_, _, mem⟩ => absurd mem (List.not_mem_nil _)
  origins _ := .inl rfl
  pubs _ mem := absurd mem (List.not_mem_nil _)
  bus := ⟨fun _ _ => by simp [Env.init], fun _ _ found => by simp [Env.init] at found,
    fun _ mem => absurd mem (List.not_mem_nil _)⟩

/-- The first `Sub` logged is at an index not yet on the bus, and no request that has not
started has its number logged. -/
theorem Env.Inv.fresh {env : Env} (inv : env.Inv) : ¬Started env.log env.nextReq :=
  fun seen => Nat.lt_irrefl _ (inv.started _ seen)

/-- A write request's handler running to its reply keeps the invariant. -/
theorem Env.Inv.serve {env : Env} (inv : env.Inv) (o : Outcome) (returns : Bool) :
    (env.serve o returns).Inv := by
  have fresh := inv.fresh
  -- the events the handler logs, and what they are not
  have events : ∀ e, e ∈ (Event.start env.nextReq (tag o.pubs env.nextReq) returns ::
      if returns && !o.pubs.isEmpty then [] else [.ret env.nextReq]) →
      e = .start env.nextReq (tag o.pubs env.nextReq) returns ∨ e = .ret env.nextReq := by
    intro e mem
    split at mem <;> simp_all
  have only_new : ∀ {r ps b}, Event.start r ps b ∈ (env.serve o returns).log →
      Event.start r ps b ∈ env.log ∨
        (r = env.nextReq ∧ ps = tag o.pubs env.nextReq ∧ b = returns) := by
    intro r ps b mem
    rcases List.mem_append.mp mem with old | new
    · exact .inl old
    · rcases events _ new with same | same <;> cases same
      exact .inr ⟨rfl, rfl, rfl⟩
  have put_new : ∀ {t x}, Event.start env.nextReq [(t, x)] true ∈ (env.serve o returns).log →
      tag o.pubs env.nextReq = [(t, x)] ∧ returns = true := by
    intro t x mem
    rcases only_new mem with old | ⟨-, same, rfl⟩
    · exact absurd ⟨_, _, old⟩ fresh
    · exact ⟨same.symm, rfl⟩
  refine ⟨?causal, ?started, ?origins, ?pubs, ?bus⟩
  case causal =>
    refine causal_append.mpr ⟨inv.causal, ?_⟩
    show Causal _ (_ :: _)
    split
    · exact causal_singleton.mpr (by simpa using fresh)
    · rename_i quiet
      show Causal _ ([_] ++ [_])
      refine (causal_singleton.mpr (by simpa using fresh)).snoc
        ⟨⟨tag o.pubs env.nextReq, returns, by simp⟩, fun t x mem => ?_⟩
      rcases List.mem_append.mp mem with old | new
      · exact absurd ⟨_, _, old⟩ fresh
      · simp only [List.nil_append, List.mem_singleton, Event.start.injEq, true_and] at new
        obtain ⟨same, rfl⟩ := new
        have : o.pubs ≠ [] := fun none_ => by simp [tag, none_] at same
        simp [this] at quiet
  case started =>
    rintro r ⟨ps, b, mem⟩
    rcases only_new mem with old | ⟨rfl, -, -⟩
    · exact Nat.lt_succ_of_lt (inv.started r ⟨ps, b, old⟩)
    · exact Nat.lt_succ_self _
  case origins =>
    intro box
    show stamp env.origins o.writes env.nextReq box = 0 ∨
      Started (env.serve o returns).log (stamp env.origins o.writes env.nextReq box)
    by_cases written : box ∈ o.writes.map (·.1)
    · simp only [stamp, written, if_true]
      exact .inr ⟨tag o.pubs env.nextReq, returns, by simp [Env.serve]⟩
    · simp only [stamp, written, if_false]
      exact (inv.origins box).imp_right (Started.append _)
  case pubs =>
    intro p mem
    rcases List.mem_append.mp mem with old | new
    · have logged := inv.pubs p old
      refine logged.append fun ps b mem => ?_
      rcases events _ mem with same | same <;>
        simp only [Event.start.injEq, reduceCtorEq] at same
      exact Nat.lt_irrefl _ (same.1 ▸ inv.started _ logged.started)
    · simp only [List.mem_singleton] at new
      subst new
      refine ⟨⟨tag o.pubs env.nextReq, returns, by simp [Env.serve]⟩, fun e mem => ?_,
        fun _ _ none_ => (by cases none_), fun t x mem => .inl ⟨(put_new mem).1, rfl⟩⟩
      obtain ⟨e, -, rfl⟩ := List.mem_map.mp mem
      rfl
  case bus =>
    refine inv.bus.append (fun s t mem => ?_) (fun s mem => ?_) <;>
      rcases events _ mem with same | same <;> cases same

/-- A step that appends one quiet, justified event keeps the invariant, given the bus and the
publishers after it. -/
theorem Env.Inv.quiet_step {env env' : Env} (inv : env.Inv) {e : Event} (quiet : e.Quiet)
    (justified : e.Justified env.log) (log : env'.log = env.log ++ [e])
    (next : env'.nextReq = env.nextReq) (origins : env'.origins = env.origins)
    (bus : BusLog env'.bus env'.log) (pubs : ∀ p ∈ env'.pubs, p.Logged env'.log) : env'.Inv where
  causal := log ▸ inv.causal.snoc justified
  started r seen := next ▸ inv.started r ((started_append_quiet quiet).mp (log ▸ seen))
  origins box := origins ▸ log ▸ (inv.origins box).imp_right (Started.append _)
  pubs := pubs
  bus := bus

/-- A publisher's `Pub` taking its topic's subscribers keeps the invariant. -/
theorem Env.Inv.pub {env : Env} (inv : env.Inv) {j req : Nat} {topic : List UInt8} {x : Item}
    {todo : List (List UInt8 × Item)} {returns : Bool}
    (found : env.pubs[j]? = some ⟨req, (topic, x) :: todo, none, returns⟩) :
    ({ env with
        pubs := env.pubs.set j ⟨req, todo, some (x, subscribers env.bus topic), returns⟩
        log := env.log ++ [.publish req topic x (subscribers env.bus topic)] } : Env).Inv := by
  have logged := inv.pubs _ (List.mem_iff_getElem?.mpr ⟨j, found⟩)
  have listed : ∀ s, s ∈ subscribers env.bus topic → ∃ t', .subscribe s t' ∈ env.log := by
    intro s mem
    obtain ⟨sub, found, -, -⟩ := mem_subscribers.mp mem
    exact ⟨sub.topic, (inv.bus.subscribed s _).mpr ⟨sub, found, rfl⟩⟩
  refine inv.quiet_step (e := .publish req topic x (subscribers env.bus topic)) trivial
    ⟨logged.started, fun s subscribed kept => ?_⟩ rfl rfl rfl
    (inv.bus.append_quiet trivial) fun p mem => ?_
  · obtain ⟨sub, found, topic⟩ := (inv.bus.subscribed s topic).mp subscribed
    exact mem_subscribers.mpr ⟨sub, found, (inv.bus.live s sub found).mpr kept, topic⟩
  rcases List.mem_or_eq_of_mem_set mem with old | rfl
  · exact (inv.pubs p old).append_quiet trivial
  refine ⟨logged.started.append _, fun e mem => logged.todo e (List.mem_cons_of_mem _ mem),
    fun y rest same => ?_, fun t y mem => ?_⟩
  · cases same; exact logged.todo _ (List.mem_cons_self _ _)
  have mem : .start req [(t, y)] true ∈ env.log := by simpa using mem
  rcases logged.put t y mem with ⟨begun, -⟩ | ⟨empty, -⟩ | ⟨empty, -⟩
  · obtain ⟨⟨rfl, rfl⟩, rfl⟩ := List.cons_eq_cons.mp begun
    exact .inr (.inl ⟨rfl, _, _, rfl, by simp, fun s mem => (listed s mem).imp fun _ sub =>
      List.mem_append_left _ sub, fun s target left => absurd target left⟩)
  · cases empty
  · cases empty

/-- Replacing a publisher by one the log bears out keeps the invariant. -/
theorem Env.Inv.set_pub {env : Env} (inv : env.Inv) (j : Nat) {p : Publisher}
    (logged : p.Logged env.log) : ({ env with pubs := env.pubs.set j p } : Env).Inv :=
  { inv with pubs := fun q mem => (List.mem_or_eq_of_mem_set mem).elim (inv.pubs q) (· ▸ logged) }

/-- A publisher passing over a subscriber that left the bus keeps the invariant. -/
theorem Env.Inv.skip {env : Env} (inv : env.Inv) {j req i : Nat}
    {todo : List (List UInt8 × Item)} {x : Item} {rest : List Nat} {returns : Bool}
    (found : env.pubs[j]? = some ⟨req, todo, some (x, i :: rest), returns⟩)
    (gone : ∀ t, .subscribe i t ∈ env.log → .unsubscribe i ∈ env.log) :
    ({ env with pubs := env.pubs.set j ⟨req, todo, some (x, rest), returns⟩ } : Env).Inv := by
  have logged := inv.pubs _ (List.mem_iff_getElem?.mpr ⟨j, found⟩)
  simpa using inv.set_pub j (by
    simpa using logged.deliver (E := []) (by simp) rfl fun t subscribed => .inl (gone t subscribed))

/-- A publisher's delivery into its next subscriber's queue keeps the invariant. -/
theorem Env.Inv.deliver {env : Env} (inv : env.Inv) {j req i : Nat}
    {todo : List (List UInt8 × Item)} {x : Item} {rest : List Nat} {returns : Bool}
    (found : env.pubs[j]? = some ⟨req, todo, some (x, i :: rest), returns⟩) :
    ({ env with
        bus := push env.bus i x
        pubs := env.pubs.set j ⟨req, todo, some (x, rest), returns⟩
        log := env.log ++ [.enqueue i x] } : Env).Inv := by
  have logged := inv.pubs _ (List.mem_iff_getElem?.mpr ⟨j, found⟩)
  refine inv.quiet_step (e := .enqueue i x) trivial (.inr ?_) rfl rfl rfl
    ((inv.bus.push i x).append_quiet (e := .enqueue i x) trivial) fun q mem => ?_
  · exact (logged.current x _ rfl).symm ▸ logged.started
  rcases List.mem_or_eq_of_mem_set mem with old | rfl
  · exact (inv.pubs q old).append_quiet trivial
  · exact logged.deliver (E := [.enqueue i x]) (by simp) rfl fun _ _ => .inr (by simp)

/-- A publisher's `Pub` returning keeps the invariant; a PUT whose publication is over
returns. -/
theorem Env.Inv.finish {env : Env} (inv : env.Inv) {j req : Nat} {todo : List (List UInt8 × Item)}
    {y : Item} {returns : Bool} (found : env.pubs[j]? = some ⟨req, todo, some (y, []), returns⟩) :
    ({ env with
        pubs := env.pubs.set j ⟨req, todo, none, returns⟩
        log := env.log ++ if todo.isEmpty && returns then [.ret req] else [] } : Env).Inv := by
  have logged := inv.pubs _ (List.mem_iff_getElem?.mpr ⟨j, found⟩)
  have over : ∀ t x, .start req [(t, x)] true ∈ env.log → todo = [] ∧ ∃ targets,
      .publish req t x targets ∈ env.log ∧
        ∀ s ∈ targets, .unsubscribe s ∉ env.log → .enqueue s x ∈ env.log := by
    intro t x mem
    rcases logged.put t x mem with ⟨-, none_⟩ | ⟨empty, targets, rest, current, published, -,
      delivered⟩ | ⟨-, none_⟩
    · cases none_
    · cases current
      exact ⟨empty, targets, published, fun s target => delivered s target (List.not_mem_nil _)⟩
    · cases none_
  have after : ∀ E, (∀ ps b, .start req ps b ∉ E) →
      (⟨req, todo, none, returns⟩ : Publisher).Logged (env.log ++ E) := fun E noStart =>
    ⟨logged.started.append E, logged.todo, fun _ _ none_ => (by cases none_), fun t x mem =>
      .inr (.inr ⟨(over t x (by simpa [noStart] using mem)).1, rfl⟩)⟩
  split
  · refine inv.quiet_step (e := .ret req) trivial ⟨logged.started, fun t x mem => (over t x mem).2⟩
      rfl rfl rfl (inv.bus.append_quiet trivial) fun q mem => ?_
    rcases List.mem_or_eq_of_mem_set mem with old | rfl
    · exact (inv.pubs q old).append_quiet trivial
    · exact after _ (by simp)
  · simpa using inv.set_pub j (by simpa using after [] (by simp))

/-- A `Sub`, by the session or another, keeps the invariant. -/
theorem Env.Inv.subscribe {env : Env} (inv : env.Inv) (t : List UInt8) (mine : Bool) :
    ({ env with
        bus := PubSub.subscribe env.bus t mine
        log := env.log ++ [.subscribe env.bus.length t] } : Env).Inv where
  causal := inv.causal.snoc trivial
  started r := fun ⟨ps, b, mem⟩ => inv.started r ⟨ps, b, by simpa using mem⟩
  origins box := (inv.origins box).imp_right (Started.append _)
  pubs p mem := (inv.pubs p mem).append (by simp)
  bus := inv.bus.subscribe t mine

/-- An `Unsub` of a subscription on the bus keeps the invariant. -/
theorem Env.Inv.unsubscribe {env : Env} (inv : env.Inv) {i : Nat} (present : i < env.bus.length) :
    ({ env with
        bus := PubSub.unsubscribe env.bus i
        log := env.log ++ [.unsubscribe i] } : Env).Inv where
  causal := inv.causal.snoc trivial
  started r := fun ⟨ps, b, mem⟩ => inv.started r ⟨ps, b, by simpa using mem⟩
  origins box := (inv.origins box).imp_right (Started.append _)
  pubs p mem := (inv.pubs p mem).append (by simp)
  bus := inv.bus.unsubscribe present

/-- Every step of the server outside the session keeps the invariant. -/
theorem Env.Inv.step {env env' : Env} (inv : env.Inv) {cap : Nat} {act : EnvAct}
    (stepped : env.step cap act = some env') : env'.Inv := by
  cases Env.step_eq_some stepped with
  | put | send => exact inv.serve _ _
  | pub found => exact inv.pub found
  | deliverGone found gone =>
    refine inv.skip found fun t subscribed => ?_
    obtain ⟨_, present, -⟩ := (inv.bus.subscribed _ t).mp subscribed
    simp [gone] at present
  | deliverClosed found busFound dead =>
    refine inv.skip found fun _ _ => ?_
    by_contra kept
    simp [(inv.bus.live _ _ busFound).mpr kept] at dead
  | deliver found => exact inv.deliver found
  | finish found => exact inv.finish found
  | otherSub t => exact inv.subscribe t false
  | otherRecv => exact { inv with bus := inv.bus.pop _ }
  | otherUnsub found => exact inv.unsubscribe (List.getElem?_eq_some_iff.mp found).1

/-! ## What a session does to the server -/

/-- The session's `Sub` keeps the server's invariant. -/
theorem Env.Inv.sub {env : Env} (inv : env.Inv) (t : List UInt8) : (env.sub t).Inv :=
  inv.subscribe t true

/-- The session's `Unsub` of a subscription on the bus keeps the server's invariant. -/
theorem Env.Inv.unsub {env : Env} (inv : env.Inv) {i : Nat} (present : i < env.bus.length) :
    (env.unsub i).Inv :=
  inv.unsubscribe present

/-- A send into a queue keeps the invariant when the item's request has started. -/
theorem Env.Inv.send {env env' : Env} (inv : env.Inv) {cap i : Nat} {x : Item}
    (origin : x.origin = 0 ∨ Started env.log x.origin) (sent : env.send cap i x = some (.ok env')) :
    env'.Inv := by
  obtain ⟨-, -, -, -, rfl⟩ := Env.send_eq_ok sent
  exact inv.quiet_step (e := .enqueue i x) trivial origin rfl rfl rfl
    ((inv.bus.push i x).append_quiet (e := .enqueue i x) trivial)
    fun p mem => (inv.pubs p mem).append_quiet trivial

/-- A receive keeps the server's invariant. -/
theorem Env.Inv.receive {env env' : Env} (inv : env.Inv) {i : Nat} {got : Received Item}
    (received : env.receive i = some (got, env')) : env'.Inv := by
  obtain ⟨_, -, same⟩ := Option.map_eq_some'.mp received
  cases same
  exact { inv with bus := inv.bus.pop i }

/-- Writing a frame keeps the server's invariant. -/
theorem Env.Inv.write {env : Env} (inv : env.Inv) (frame : List UInt8)
    (source : Option (Nat × Item)) : (env.write frame source).Inv :=
  inv.quiet_step (e := .write frame source) trivial trivial rfl rfl rfl
    (inv.bus.append_quiet trivial) fun p mem => (inv.pubs p mem).append_quiet trivial

/-- Logging a quiet event that the log justifies keeps the server's invariant. -/
theorem Env.Inv.note {env : Env} (inv : env.Inv) {e : Event} (quiet : e.Quiet)
    (justified : e.Justified env.log) : (env.note e).Inv :=
  inv.quiet_step quiet justified rfl rfl rfl (inv.bus.append_quiet quiet)
    fun p mem => (inv.pubs p mem).append_quiet quiet

/-! ## The order of a queue's frames -/

/-- A PUT returns only after its package was put in the queue of every subscription that was
on its topic before it started and not taken off before it returned. -/
def PutsDelivered (log : List Event) : Prop :=
  ∀ (s r : Nat) (topic : List UInt8) (x : Item) (L M : List Event),
    log = L ++ .ret r :: M → .start r [(topic, x)] true ∈ L →
    (∀ L' M', log = L' ++ .start r [(topic, x)] true :: M' → .subscribe s topic ∈ L') →
    .unsubscribe s ∉ L → .enqueue s x ∈ L

/-- In a reachable server, a PUT's publication takes every subscription on its topic and the
PUT returns once each of them still on has its package. -/
theorem Env.Inv.putsDelivered {env : Env} (inv : env.Inv) : PutsDelivered env.log := by
  intro s r topic x L M split put subscribed kept
  have causal := inv.causal
  obtain ⟨targets, published, reached⟩ := (causal L _ M split).2 topic x put
  obtain ⟨Lp, Mp, rfl⟩ := List.append_of_mem published
  obtain ⟨⟨ps, b, startedP⟩, listed⟩ :=
    causal Lp (.publish r topic x targets) (Mp ++ .ret r :: M) (by simp [split])
  obtain ⟨Ls, Ms, rfl⟩ := List.append_of_mem startedP
  obtain ⟨rfl, rfl⟩ := causal.start_unique (by rw [split]; exact List.mem_append_left _ put)
    (show Event.start r ps b ∈ env.log by rw [split]; simp)
  have before :=
    subscribed Ls (Ms ++ .publish r topic x targets :: (Mp ++ .ret r :: M)) (by simp [split])
  exact reached s (listed s (List.mem_append_left _ before)
    fun gone => kept (List.mem_append_left _ gone)) kept

/-- A PUT's package leaves every subscription that watched its box throughout before any
package of a request that started after the PUT returned: when PUT `r1` publishes `x1` on
`topic`, subscription `s` was on `topic` before `r1` started and not taken off before `r1`
returned, and request `r2` started after `r1` returned, every frame of an `r2` package from
`s` comes after a frame of `x1` from `s`. -/
def PutsInOrder (log : List Event) : Prop :=
  ∀ (s r1 r2 : Nat) (topic frame : List UInt8) (x1 x2 : Item) (pre post : List Event),
    .start r1 [(topic, x1)] true ∈ log →
    (∀ L M, log = L ++ .start r1 [(topic, x1)] true :: M → .subscribe s topic ∈ L) →
    (∀ L M, log = L ++ .ret r1 :: M → .unsubscribe s ∉ L) →
    (∀ L ps b M, log = L ++ .start r2 ps b :: M → .ret r1 ∈ L) →
    0 < r2 → log = pre ++ .write frame (some (s, x2)) :: post → x2.origin = r2 →
    ∃ frame1, .write frame1 (some (s, x1)) ∈ pre

/-- A reachable server's PUTs come out in order of each subscription whose frames are written
in the order its items were put in it. -/
theorem Env.Inv.putsInOrder {env : Env} (inv : env.Inv)
    (fifo : ∀ s, written s env.log <+: enqueued s env.log) : PutsInOrder env.log := by
  intro s r1 r2 topic frame x1 x2 pre post put subscribed kept sequential request wrote from_r2
  have causal := inv.causal
  -- `x2` was put in the queue after the items whose frames came before its own
  obtain ⟨Le, Me, atE, front⟩ : ∃ L M, env.log = L ++ .enqueue s x2 :: M ∧
      enqueued s L = written s pre := by
    have split : written s env.log = written s pre ++ x2 :: written s post := by
      simp [wrote, Event.writtenFrom]
    refine exists_of_enqueued_eq (B := written s post ++ (enqueued s env.log).drop
      (written s env.log).length) ?_
    rw [← List.prefix_iff_eq_append.mp (fifo s), split]
    simp
  -- a place in a part of the log before an event is a place in the log
  have nest : ∀ {L M L' M' : List Event} {c d : Event}, env.log = L ++ c :: M →
      L = L' ++ d :: M' → env.log = L' ++ d :: (M' ++ c :: M) := fun h split => by
    simp [h, split]
  -- request `r2` started before that, and `r1` returned before `r2` started
  obtain ⟨ps, b, started2⟩ : Started Le r2 :=
    from_r2 ▸ (causal Le _ Me atE).resolve_left (by omega)
  obtain ⟨Ls, Ms, atS⟩ := List.append_of_mem started2
  obtain ⟨Lr, Mr, atLr⟩ := List.append_of_mem (sequential Ls ps b _ (nest atE atS))
  have atR := nest (nest atE atS) atLr
  obtain ⟨⟨ps1, b1, started1⟩, -⟩ := causal Lr _ _ atR
  obtain ⟨rfl, rfl⟩ := causal.start_unique put (by rw [atR]; exact List.mem_append_left _ started1)
  -- so `x1` was put in the queue before `r1` returned, and its frame written before `x2`'s
  have first : x1 ∈ enqueued s Le := by
    rw [atS, atLr]
    exact List.mem_filterMap.mpr ⟨.enqueue s x1,
      by simp [inv.putsDelivered s r1 topic x1 Lr _ atR started1 subscribed (kept Lr _ atR)],
      by simp [Event.enqueuedTo]⟩
  rw [front] at first
  exact exists_of_mem_written first

end Oscar
