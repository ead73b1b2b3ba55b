import Oscar.DropBoxes.Handlers

/-!
# Publication topics

A PUT publishes on the box id as its path spells it, a POST on each part's form name as
spelled (`dropPackageHandler`, `sendMultiplePackagesHandler`), while a session subscribes
to `hex.EncodeToString` of the id's bytes. Every accepted spelling decodes to the id, but
only the spelling without an upper-case digit is the subscribers' topic
(`encodeToString_decodeString_eq_iff`): a package dropped under an id spelled with an
upper-case digit is published on a topic no session watching that id listens to
(`dropPackageHandler_topic_iff`). The bucket, by contrast, is keyed by the decoded id, so the
handlers agree on a box whatever its spelling: a GET under any accepted spelling finds what a
PUT under any other committed.
-/

namespace Oscar

/-- An accepted path is sixteen hex-encoded bytes, returned with its own spelling. -/
theorem parseDropBoxID_eq_ok {boxIDStr boxID hexBoxID : List UInt8}
    (parsed : parseDropBoxID boxIDStr = .ok (boxID, hexBoxID)) :
    Hex.decodeString boxIDStr = .ok boxID ∧ boxID.length = dropBoxIDSize ∧ hexBoxID = boxIDStr := by
  unfold parseDropBoxID at parsed
  split at parsed
  · cases parsed
  · split at parsed
    · cases parsed
    · cases parsed
      exact ⟨‹_›, by omega, rfl⟩

/-- A refused path is answered with a bad request. -/
theorem parseDropBoxID_eq_error {boxIDStr : List UInt8} {reply : Reply}
    (refused : parseDropBoxID boxIDStr = .error reply) : reply = .badReq "invalid drop box id" := by
  unfold parseDropBoxID at refused
  split at refused
  · cases refused; rfl
  · split at refused <;> cases refused; rfl

/-- A PUT that commits publishes its package once, on its path's spelling of the box id. -/
theorem dropPackageHandler_pubs {boxIDStr : List UInt8} {body : Except String (List UInt8)}
    {update : Except String Unit} :
    (dropPackageHandler boxIDStr body update).reply = .success →
      ∃ pkg, body = .ok pkg ∧ (dropPackageHandler boxIDStr body update).pubs = [(boxIDStr, pkg)] := by
  unfold dropPackageHandler
  cases parsed : parseDropBoxID boxIDStr with
  | error reply => simp [Outcome.refused, parseDropBoxID_eq_error parsed]
  | ok found =>
    obtain ⟨_, _, rfl⟩ := parseDropBoxID_eq_ok parsed
    cases body <;> cases update <;> simp [Outcome.refused]

/-- An accepted PUT publishes on the topic the subscribers of its box use exactly when its
path has no upper-case digit. -/
theorem dropPackageHandler_topic_iff {boxIDStr boxID hexBoxID pkg : List UInt8}
    (parsed : parseDropBoxID boxIDStr = .ok (boxID, hexBoxID)) :
    (dropPackageHandler boxIDStr (.ok pkg) (.ok ())).pubs = [(Hex.encodeToString boxID, pkg)] ↔
      ∀ c ∈ boxIDStr, ¬(65 ≤ c ∧ c ≤ 70) := by
  obtain ⟨decoded, -, rfl⟩ := parseDropBoxID_eq_ok parsed
  simp only [dropPackageHandler, parsed, List.cons.injEq, Prod.mk.injEq, and_true]
  rw [eq_comm, Hex.encodeToString_decodeString_eq_iff decoded]

/-- The zero box spelled in lower case: its PUT publishes on the subscribers' topic. -/
theorem dropPackageHandler_zero_box_topic :
    (dropPackageHandler (List.replicate 32 48) (.ok [120]) (.ok ())).pubs =
      [(Hex.encodeToString (List.replicate 16 0), [120])] :=
  (dropPackageHandler_topic_iff (show parseDropBoxID (List.replicate 32 48) =
    .ok (List.replicate 16 0, List.replicate 32 48) from rfl)).mpr (by decide)

/-- The box id `00…0a`, spelled with an upper-case `A`. -/
def upperSpelling : List UInt8 := List.replicate 31 48 ++ [65]

/-- The box `00…0a` spelled with an upper-case `A` is accepted, and its PUT publishes on that
spelling, which is not the topic `hex.EncodeToString` gives the box. -/
theorem dropPackageHandler_publishes_upper_spelling :
    (parseDropBoxID upperSpelling).toOption = some (decodeBoxID upperSpelling, upperSpelling) ∧
      (dropPackageHandler upperSpelling (.ok [120]) (.ok ())).pubs = [(upperSpelling, [120])] ∧
      upperSpelling ≠ Hex.encodeToString (decodeBoxID upperSpelling) := by
  decide

/-- The bucket is keyed by the decoded id: a GET under any accepted spelling of a box returns
what a PUT under any other spelling of it committed. -/
theorem pickUp_after_drop (bucket : Bucket) {boxIDStr boxIDStr' boxID hexBoxID hexBoxID' pkg : List UInt8}
    (parsed : parseDropBoxID boxIDStr = .ok (boxID, hexBoxID))
    (parsed' : parseDropBoxID boxIDStr' = .ok (boxID, hexBoxID')) :
    pickUpPackageHandler (bucket.commit (dropPackageHandler boxIDStr (.ok pkg) (.ok ())).writes)
      boxIDStr' = .package pkg := by
  simp [dropPackageHandler, pickUpPackageHandler, pickUpPackage, parsed, parsed']

/- A PUT under the upper-case spelling is found by a GET under the lower-case one. -/
example :
    pickUpPackageHandler (Bucket.empty.commit (dropPackageHandler upperSpelling (.ok [120]) (.ok ())).writes)
      (Hex.encodeToString (decodeBoxID upperSpelling)) = .package [120] :=
  pickUp_after_drop Bucket.empty
    (show parseDropBoxID upperSpelling = .ok (decodeBoxID upperSpelling, upperSpelling) from rfl)
    (show parseDropBoxID (Hex.encodeToString (decodeBoxID upperSpelling)) =
      .ok (decodeBoxID upperSpelling, Hex.encodeToString (decodeBoxID upperSpelling)) from rfl)

end Oscar
