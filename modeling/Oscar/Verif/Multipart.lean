import Oscar.Server
import Oscar.Verif.Topics

/-!
# The multipart send

`sendMultiplePackagesHandler` reads every part before it writes anything: the loop over the
parts only fills a map, the first bad part ends the request, and the map goes to the bucket
in one transaction, after which a goroutine publishes it (`send_all_or_nothing`). The map
is keyed by the form name as spelled, so two parts naming one box in two letter cases are
two entries, and which of them the transaction puts last is the order Go's map iteration
takes (`send_two_spellings_map_order`).
-/

namespace Oscar

/-- A part the loop keeps: its data was read, and its form name is hex of sixteen bytes. -/
def PartRead.kept : PartRead → Bool
  | .part name (.ok _) =>
    match Hex.decodeString name with
    | .ok boxID => boxID.length = dropBoxIDSize
    | .error _ => false
  | _ => false

/-- The map the parts build: each form name with the data of its last part. -/
def collect (pkgs : List (List UInt8 × List UInt8)) : List PartRead → List (List UInt8 × List UInt8)
  | [] => pkgs
  | .part name (.ok data) :: rest => collect (mapInsert pkgs name data) rest
  | _ :: rest => collect pkgs rest

/-- The loop ends without a reply exactly when it keeps every part, with their map. -/
theorem readParts_eq_ok : ∀ {parts : List PartRead} {pkgs result : List (List UInt8 × List UInt8)},
    readParts parts pkgs = .ok result ↔ (∀ p ∈ parts, p.kept) ∧ result = collect pkgs parts
  | [], pkgs, result => by simpa [readParts, collect] using eq_comm
  | .error msg :: rest, pkgs, result => by simp [readParts, PartRead.kept]
  | .part name (.error msg) :: rest, pkgs, result => by simp [readParts, PartRead.kept]
  | .part name (.ok data) :: rest, pkgs, result => by
    have head : (PartRead.part name (.ok data)).kept =
        match Hex.decodeString name with
        | .ok boxID => decide (boxID.length = dropBoxIDSize)
        | .error _ => false := rfl
    simp only [readParts, List.mem_cons, forall_eq_or_imp, head, collect]
    cases Hex.decodeString name with
    | error err => simp
    | ok boxID =>
      by_cases sized : boxID.length = dropBoxIDSize
      · simp [sized, readParts_eq_ok]
      · simp [sized]

/-- A POST either commits the map of all its parts in one transaction and leaves a goroutine
that has not yet published, or, when a part is bad, the body unreadable or the transaction
failed, leaves the bucket as it was and a goroutine with nothing to publish. -/
theorem send_all_or_nothing {cap : Nat} {env env' : Env} {body : Except String (List PartRead)}
    {updateOrder pubOrder : List (List UInt8 × List UInt8)} {update : Except String Unit}
    (stepped : env.step cap (.send body updateOrder pubOrder update) = some env') :
    (∀ parts, body = .ok parts → (∀ p ∈ parts, p.kept) → update = .ok () →
      env'.store = env.store.commit (updateOrder.map fun e => (decodeBoxID e.1, e.2)) ∧
      updateOrder.Perm (collect [] parts) ∧ pubOrder.Perm (collect [] parts) ∧
      env'.pubs = env.pubs ++ [⟨env.nextReq, tag pubOrder env.nextReq, none, false⟩]) ∧
    ((¬∃ parts, body = .ok parts ∧ (∀ p ∈ parts, p.kept) ∧ update = .ok ()) →
      env'.store = env.store ∧ env'.pubs = env.pubs ++ [⟨env.nextReq, [], none, false⟩]) := by
  simp only [Env.step, Option.map_eq_some'] at stepped
  obtain ⟨o, served, rfl⟩ := stepped
  unfold sendMultiplePackagesHandler at served
  cases body with
  | error err =>
    simp only [Option.some.injEq] at served
    subst served
    simp [Env.serve, Outcome.refused, tag]
  | ok parts =>
    simp only at served
    cases read : readParts parts [] with
    | error reply =>
      simp only [read, Option.some.injEq] at served
      subst served
      have bad : ¬∀ p ∈ parts, p.kept := fun kept => by
        simp [readParts_eq_ok.mpr ⟨kept, rfl⟩] at read
      simp [Env.serve, Outcome.refused, tag, bad]
    | ok pkgs =>
      obtain ⟨kept, rfl⟩ := readParts_eq_ok.mp read
      simp only [read] at served
      split at served
      · rename_i orders
        cases update with
        | error err =>
          simp only [Option.some.injEq] at served
          subst served
          simp [Env.serve, Outcome.refused, tag]
        | ok _ =>
          simp only [Option.some.injEq] at served
          subst served
          refine ⟨fun _ same _ _ => ?_, fun absent => absurd ⟨parts, rfl, kept, rfl⟩ absent⟩
          cases same
          simp [Env.serve, orders.1, orders.2]
      · cases served

/-- The box id `00…0a`, spelled in lower case. -/
def lowerSpelling : List UInt8 := List.replicate 31 48 ++ [97]

/-- Two parts for the box `00…0a`: `x` under the lower-case spelling, then `y` under the
upper-case one. -/
def twoSpellings : List PartRead := [.part lowerSpelling (.ok [120]), .part upperSpelling (.ok [121])]

/-- The POST of `twoSpellings`, its two loops taking the map in `order`, then a GET. -/
def sendThenGet (order : List (List UInt8 × List UInt8)) : Option Reply :=
  (sendMultiplePackagesHandler (.ok twoSpellings) order order (.ok ())).map fun o =>
    pickUpPackageHandler (Bucket.empty.commit o.writes) lowerSpelling

/-- A POST of two spellings of one box: a GET after it returns the data of whichever part the map's
iteration order puts last. -/
theorem send_two_spellings_map_order :
    sendThenGet [(upperSpelling, [121]), (lowerSpelling, [120])] = some (.package [120]) ∧
      sendThenGet [(lowerSpelling, [120]), (upperSpelling, [121])] = some (.package [121]) := by
  decide

/-- The map of `twoSpellings` in the order the handler builds it. -/
def twoSpellingsMap : List (List UInt8 × List UInt8) :=
  [(upperSpelling, [121]), (lowerSpelling, [120])]

/-- The POST of `twoSpellings`, both loops taking the map in one order, commits the whole map in one
transaction and publishes it after. -/
theorem send_all_or_nothing_twoSpellings :
    ∃ env', (Env.init Bucket.empty).step 1
        (.send (.ok twoSpellings) twoSpellingsMap twoSpellingsMap (.ok ())) = some env' ∧
      ((∀ parts, (Except.ok twoSpellings : Except String (List PartRead)) = .ok parts → (∀ p ∈ parts, p.kept) →
        Except.ok () = (Except.ok () : Except String Unit) →
        env'.store = Bucket.empty.commit (twoSpellingsMap.map fun e => (decodeBoxID e.1, e.2)) ∧
        twoSpellingsMap.Perm (collect [] parts) ∧ twoSpellingsMap.Perm (collect [] parts) ∧
        env'.pubs = [⟨1, tag twoSpellingsMap 1, none, false⟩]) ∧
      ((¬∃ parts, (Except.ok twoSpellings : Except String (List PartRead)) = .ok parts ∧ (∀ p ∈ parts, p.kept) ∧
        Except.ok () = (Except.ok () : Except String Unit)) →
        env'.store = Bucket.empty ∧ env'.pubs = [⟨1, [], none, false⟩])) :=
  have sent : ((Env.init Bucket.empty).step 1
      (.send (.ok twoSpellings) twoSpellingsMap twoSpellingsMap (.ok ()))).isSome = true := by
    decide
  ⟨_, (Option.some_get sent).symm, send_all_or_nothing (Option.some_get sent).symm⟩

end Oscar
