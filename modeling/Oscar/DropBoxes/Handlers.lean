import Oscar.Hex

/-!
# Drop-box requests

The REST side of `drop_boxes.go`: `parseDropBoxID`, `dropPackageHandler`
(PUT /drop-boxes/{box_id}), `pickUpPackageHandler` (GET /drop-boxes/{box_id}) and
`sendMultiplePackagesHandler` (POST /drop-boxes/send). A handler is a function of its
request; what it does is returned as an `Outcome`: its reply, the puts of the one bolt
transaction it committed, and the publications `dropBoxPubSub.Pub(pkg, topic)` it makes
after its reply. The store is the `dropboxes` bucket, a committed transaction is applied to
it at once (`Bucket.commit`), and a failed one leaves it as it was.

Bolt is not among the repository's files. `Update` is modelled from the spec: its outcome
is an input of the handler, and a transaction that fails writes nothing. Go's map
iteration order is an input too: a schedule is the map's entries in the order a `range`
visits them, and a schedule that is not a permutation of the entries is refused (`none`).
-/

namespace Oscar

/-- `dropBoxIDSize` -/
def dropBoxIDSize : Nat := 16

/-- What a handler writes back. -/
inductive Reply where
  /-- `sendSuccess(w, nil)` -/
  | success
  /-- Status 200 with the bytes of a package. -/
  | package (bytes : List UInt8)
  /-- `sendBadReq(w, msg)`, status 400. -/
  | badReq (msg : String)
  /-- `sendInternalErr(w, err)`, status 500. -/
  | internalErr (err : String)
  deriving DecidableEq, Repr

/-- The `dropboxes` bucket: the package stored under each box id. -/
def Bucket := List UInt8 → Option (List UInt8)

/-- The empty bucket. -/
def Bucket.empty : Bucket := fun _ => none

/-- `bucket.Put(key, value)` -/
def Bucket.put (bucket : Bucket) (key value : List UInt8) : Bucket :=
  fun k => if k = key then some value else bucket k

/-- A committed transaction: its puts, in the order made. -/
def Bucket.commit (bucket : Bucket) (writes : List (List UInt8 × List UInt8)) : Bucket :=
  writes.foldl (fun bucket write => bucket.put write.1 write.2) bucket

/-- A put is read back under its key. -/
@[simp] theorem Bucket.put_same (bucket : Bucket) (key value : List UInt8) :
    bucket.put key value key = some value := by
  simp [Bucket.put]

/-- A put leaves every other key as it was. -/
@[simp] theorem Bucket.put_other (bucket : Bucket) {key other : List UInt8} (value : List UInt8)
    (different : other ≠ key) : bucket.put key value other = bucket other := by
  simp [Bucket.put, different]

/-- A transaction with no puts leaves the bucket as it was. -/
@[simp] theorem Bucket.commit_nil (bucket : Bucket) : bucket.commit [] = bucket := rfl

/-- A transaction makes its first put, then the others in order. -/
@[simp] theorem Bucket.commit_cons (bucket : Bucket) (write : List UInt8 × List UInt8)
    (writes : List (List UInt8 × List UInt8)) :
    bucket.commit (write :: writes) = (bucket.put write.1 write.2).commit writes := rfl

/-- What a committed transaction leaves under a key was there before, or one of its puts put it
there. -/
theorem Bucket.commit_eq_some : ∀ {bucket : Bucket} {writes : List (List UInt8 × List UInt8)}
    {key value : List UInt8}, bucket.commit writes key = some value →
      bucket key = some value ∨ (key, value) ∈ writes
  | _, [], _, _, found => .inl found
  | bucket, (k, v) :: writes, key, value, found => by
    rw [Bucket.commit_cons] at found
    rcases Bucket.commit_eq_some found with before | put
    · by_cases same : key = k
      · subst same
        rw [Bucket.put_same] at before
        cases before
        exact .inr (.head _)
      · exact .inl (by rwa [Bucket.put_other _ _ same] at before)
    · exact .inr (.tail _ put)

/-- What one request did: its reply, the puts of the transaction it committed (none when it
committed nothing), and the publications `(topic, package)` it makes after its reply. -/
structure Outcome where
  reply : Reply
  writes : List (List UInt8 × List UInt8)
  pubs : List (List UInt8 × List UInt8)
  deriving DecidableEq, Repr

/-- A request that ends with `reply` and changes nothing. -/
def Outcome.refused (reply : Reply) : Outcome := ⟨reply, [], []⟩

/-- `parseDropBoxID` — the box id a path spells, and the spelling itself. -/
def parseDropBoxID (boxIDStr : List UInt8) : Except Reply (List UInt8 × List UInt8) :=
  match Hex.decodeString boxIDStr with
  | .error _ => .error (.badReq "invalid drop box id")
  | .ok boxID =>
    if boxID.length ≠ dropBoxIDSize then .error (.badReq "invalid drop box id")
    else .ok (boxID, boxIDStr)

/-- `dropPackageHandler` — read the body, put it under the box id in one transaction,
reply, then publish it on the topic as the path spells it. -/
def dropPackageHandler (boxIDStr : List UInt8) (body : Except String (List UInt8))
    (update : Except String Unit) : Outcome :=
  match parseDropBoxID boxIDStr with
  | .error reply => .refused reply
  | .ok (boxID, hexBoxID) =>
    match body with
    | .error err => .refused (.badReq ("unable to read PUT body: " ++ err))
    | .ok pkg =>
      match update with
      | .error err => .refused (.internalErr err)
      | .ok () => ⟨.success, [(boxID, pkg)], [(hexBoxID, pkg)]⟩

/-- `pickUpPackage` — the package stored under a box id; nothing when there is none. -/
def pickUpPackage (bucket : Bucket) (boxID : List UInt8) : List UInt8 :=
  (bucket boxID).getD []

/-- `pickUpPackageHandler` -/
def pickUpPackageHandler (bucket : Bucket) (boxIDStr : List UInt8) : Reply :=
  match parseDropBoxID boxIDStr with
  | .error reply => reply
  | .ok (boxID, _) => .package (pickUpPackage bucket boxID)

/-- One call of `rdr.NextPart()` and `ioutil.ReadAll(p)`: a part with its form name and the
data read from it, or an error reading the next part. -/
inductive PartRead where
  | part (formName : List UInt8) (data : Except String (List UInt8))
  | error (msg : String)

/-- `pkgs[hexBoxID] = data` on a Go `map[string][]byte`, kept as its entries, each key once. -/
def mapInsert (pkgs : List (List UInt8 × List UInt8)) (key value : List UInt8) :
    List (List UInt8 × List UInt8) :=
  (key, value) :: pkgs.filter (·.1 ≠ key)

/-- The loop of `sendMultiplePackagesHandler` over the parts, until `io.EOF`: each part's data
under its form name, a later part replacing an earlier one of the same name. The first bad
part ends the request with its reply. -/
def readParts : List PartRead → List (List UInt8 × List UInt8) →
    Except Reply (List (List UInt8 × List UInt8))
  | [], pkgs => .ok pkgs
  | .error msg :: _, _ => .error (.badReq ("error reading part: " ++ msg))
  | .part _ (.error msg) :: _, _ => .error (.badReq ("error reading part data: " ++ msg))
  | .part hexBoxID (.ok data) :: rest, pkgs =>
    match Hex.decodeString hexBoxID with
    | .error err => .error (.badReq ("invalid box id: " ++ err.error))
    | .ok boxID =>
      if boxID.length ≠ dropBoxIDSize then .error (.badReq "invalid box id size")
      else readParts rest (mapInsert pkgs hexBoxID data)

/-- `boxID, _ := hex.DecodeString(hexBoxID)` — the error is ignored; no name in the map has
one. -/
def decodeBoxID (hexBoxID : List UInt8) : List UInt8 :=
  match Hex.decodeString hexBoxID with
  | .ok boxID => boxID
  | .error _ => []

/-- `sendMultiplePackagesHandler` — read every part into the map, put all of them in one
transaction, reply, then publish each from a goroutine. `updateOrder` and `pubOrder` are the
orders the two `range` loops visit the map in. -/
def sendMultiplePackagesHandler (body : Except String (List PartRead))
    (updateOrder pubOrder : List (List UInt8 × List UInt8)) (update : Except String Unit) :
    Option Outcome :=
  match body with
  | .error err => some (.refused (.badReq ("unable to read multipart request: " ++ err)))
  | .ok parts =>
    match readParts parts [] with
    | .error reply => some (.refused reply)
    | .ok pkgs =>
      if updateOrder.Perm pkgs ∧ pubOrder.Perm pkgs then
        match update with
        | .error err => some (.refused (.badReq err))
        | .ok () =>
          some ⟨.success, updateOrder.map fun entry => (decodeBoxID entry.1, entry.2), pubOrder⟩
      else none

end Oscar
