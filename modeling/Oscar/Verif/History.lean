import Oscar.Server

/-! # Histories

The properties of a run are read off its log. `Causal R log` says that each event of the log
stands in `R` to the events before it: "a PUT returns after its publication reached its
subscribers" and "an item is enqueued after the request that wrote it started" are stated
so. It is kept by a step that appends events each in `R` to the log before it
(`causal_append`).

`enqueued s log` and `written s log` are the items put in queue `s` and the items whose
frames the session wrote from it, in log order.
-/

namespace Oscar

section Causal

variable {α : Type} {R : List α → α → Prop}

/-- Each element of `l` stands in `R` to the part of `l` before it. -/
def Causal (R : List α → α → Prop) (l : List α) : Prop :=
  ∀ L c M, l = L ++ c :: M → R L c

/-- The empty log is causal. -/
theorem causal_nil : Causal R [] := fun L c M split => by
  cases L <;> cases split

/-- Two logs in a row are causal exactly when the first is, and each event of the second stands in
`R` to all that comes before it. -/
theorem causal_append {l m : List α} :
    Causal R (l ++ m) ↔ Causal R l ∧ Causal (fun L c => R (l ++ L) c) m := by
  refine ⟨fun h => ⟨fun L c M split => h L c (M ++ m) (by simp [split]),
    fun L c M split => h (l ++ L) c M (by simp [split])⟩, ?_⟩
  rintro ⟨before, after⟩ L c M split
  rcases List.append_eq_append_iff.mp split with ⟨a, rfl, rest⟩ | ⟨a, rfl, rest⟩
  · exact after a c M rest
  · rcases a with _ | ⟨d, a⟩
    · simp only [List.nil_append] at rest
      simpa using after [] c M rest.symm
    · obtain ⟨rfl, rfl⟩ := List.cons_eq_cons.mp rest
      exact before L c a rfl

/-- A one-event log is causal exactly when its event stands in `R` to the empty log. -/
theorem causal_singleton {c : α} : Causal R [c] ↔ R [] c :=
  ⟨fun h => h [] c [] rfl, fun h L d M split => by
    rcases L with _ | ⟨e, L⟩
    · cases split; exact h
    · cases L <;> cases split⟩

/-- A log that was causal stays so when an event in `R` to it is appended. -/
theorem Causal.snoc {l : List α} {c : α} (h : Causal R l) (hc : R l c) : Causal R (l ++ [c]) :=
  causal_append.mpr ⟨h, causal_singleton.mpr (by simpa using hc)⟩

/-- What comes before each element of some kind, checked position by position: the form in
which it is decided on a concrete log. -/
theorem forall_append_cons_of_getElem (p : α → Prop) (P : List α → Prop) {l : List α}
    (check : ∀ j (h : j < l.length), p l[j] → P (l.take j)) :
    ∀ L c M, l = L ++ c :: M → p c → P L := by
  rintro L c M rfl accepts
  simpa using check L.length (by simp) (by simpa [List.getElem_append_right] using accepts)

end Causal

/-! ## Items per queue -/

/-- The item an event puts in queue `s`. -/
def Event.enqueuedTo (s : Nat) : Event → Option Item
  | .enqueue t x => if t = s then some x else none
  | _ => none

/-- The item whose frame an event writes, when it came from queue `s`. -/
def Event.writtenFrom (s : Nat) : Event → Option Item
  | .write _ (some (t, x)) => if t = s then some x else none
  | _ => none

/-- The items put in queue `s`, in order. -/
def enqueued (s : Nat) (log : List Event) : List Item := log.filterMap (Event.enqueuedTo s)

/-- The items from queue `s` whose frames were written, in order. -/
def written (s : Nat) (log : List Event) : List Item := log.filterMap (Event.writtenFrom s)

/-- The empty log enqueues nothing. -/
@[simp] theorem enqueued_nil (s : Nat) : enqueued s [] = [] := rfl

/-- The empty log writes nothing. -/
@[simp] theorem written_nil (s : Nat) : written s [] = [] := rfl

/-- Two logs in a row enqueue the items of the first, then those of the second. -/
@[simp] theorem enqueued_append (s : Nat) (l m : List Event) :
    enqueued s (l ++ m) = enqueued s l ++ enqueued s m := List.filterMap_append _ _ _

/-- Two logs in a row write the items of the first, then those of the second. -/
@[simp] theorem written_append (s : Nat) (l m : List Event) :
    written s (l ++ m) = written s l ++ written s m := List.filterMap_append _ _ _

/-- One event enqueues in `s` the item it puts there, if any. -/
@[simp] theorem enqueued_singleton (s : Nat) (e : Event) :
    enqueued s [e] = (e.enqueuedTo s).toList := by
  simp only [enqueued, List.filterMap_cons, List.filterMap_nil]
  cases e.enqueuedTo s <;> rfl

/-- One event writes from `s` the item whose frame it writes from there, if any. -/
@[simp] theorem written_singleton (s : Nat) (e : Event) :
    written s [e] = (e.writtenFrom s).toList := by
  simp only [written, List.filterMap_cons, List.filterMap_nil]
  cases e.writtenFrom s <;> rfl

/-- An event before a log enqueues its item ahead of the log's. -/
@[simp] theorem enqueued_cons (s : Nat) (e : Event) (l : List Event) :
    enqueued s (e :: l) = (e.enqueuedTo s).toList ++ enqueued s l := by
  rw [← List.singleton_append, enqueued_append, enqueued_singleton]

/-- An event before a log writes its item ahead of the log's. -/
@[simp] theorem written_cons (s : Nat) (e : Event) (l : List Event) :
    written s (e :: l) = (e.writtenFrom s).toList ++ written s l := by
  rw [← List.singleton_append, written_append, written_singleton]

/-- An item at a place in `enqueued s log` was put there by an event at that place. -/
theorem exists_of_enqueued_eq {s : Nat} {log : List Event} {A B : List Item} {x : Item}
    (split : enqueued s log = A ++ x :: B) :
    ∃ L M, log = L ++ .enqueue s x :: M ∧ enqueued s L = A := by
  obtain ⟨l₁, l₂, rfl, front, back⟩ := List.filterMap_eq_append_iff.mp split
  obtain ⟨m₁, e, M, rfl, skipped, found, -⟩ := List.filterMap_eq_cons_iff.mp back
  have skipped : enqueued s m₁ = [] := List.filterMap_eq_nil_iff.mpr skipped
  refine ⟨l₁ ++ m₁, M, ?_, by rw [enqueued_append, skipped, List.append_nil]; exact front⟩
  cases e <;> simp only [Event.enqueuedTo, reduceCtorEq] at found
  split_ifs at found with same
  cases found
  simp [same]

/-- The item of a frame written from queue `s` is among those written from it. -/
theorem mem_written_of_mem {s : Nat} {log : List Event} {frame : List UInt8} {x : Item}
    (mem : .write frame (some (s, x)) ∈ log) : x ∈ written s log :=
  List.mem_filterMap.mpr ⟨_, mem, by simp [Event.writtenFrom]⟩

/-- An item in `written s log` was written by an event of the log. -/
theorem exists_of_mem_written {s : Nat} {log : List Event} {x : Item} (mem : x ∈ written s log) :
    ∃ frame, .write frame (some (s, x)) ∈ log := by
  obtain ⟨e, found, wrote⟩ := List.mem_filterMap.mp mem
  match e, wrote with
  | .write frame (some (t, y)), wrote =>
    simp only [Event.writtenFrom] at wrote
    split_ifs at wrote with same
    cases wrote
    exact ⟨frame, same ▸ found⟩

end Oscar
