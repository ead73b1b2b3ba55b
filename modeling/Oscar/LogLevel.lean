import Oscar.DropBoxes.Handlers

/-! # The log level

`currLogLevel` (`unnamed/part_000`) is the one piece of state the server keeps besides the
bucket and the buses. `main` (`unnamed/part_001`) sets it from its `-log-level` flag and stops
with `log.Fatalf` on a flag `validLogLevel` refuses; GET /log-level (`logLevelHandler`)
reports it, and PUT /log-level (`setLogLevelHandler`) sets it to the body's level when
`validLogLevel` accepts that. The handlers are taken one after another, each reading and
writing the level at once. The `main` of `server/build.sh` routes only the GET (its PUT route is
commented out): its runs are those of GETs alone.

Read as a register, the level after any requests is that of the last PUT that set a valid one,
or the flag's (`lastLogLevel`). The run of the handlers refines the register
(`log_level_register`): a GET replies with the register's level before it, a PUT of a valid
level replies with that level and writes it, and a PUT refused for its body or its level
replies with the reason and leaves the register as it was. Every level the register takes from
a valid flag is one of the four, so errors are always logged.
-/

namespace Oscar

/-! ## Levels -/

/-- `logLevelDebug` -/
def logLevelDebug : Int := 1

/-- `logLevelInfo` -/
def logLevelInfo : Int := 2

/-- `logLevelWarn` -/
def logLevelWarn : Int := 3

/-- `logLevelError` -/
def logLevelError : Int := 4

/-- `validLogLevel` — the `switch` over the four levels; any other value is refused. -/
def validLogLevel (lvl : Int) : Bool :=
  if lvl = logLevelDebug then true
  else if lvl = logLevelInfo then true
  else if lvl = logLevelWarn then true
  else if lvl = logLevelError then true
  else false

/-- The valid levels are one to four. -/
theorem validLogLevel_iff (lvl : Int) : validLogLevel lvl = true ↔ 1 ≤ lvl ∧ lvl ≤ 4 := by
  unfold validLogLevel logLevelDebug logLevelInfo logLevelWarn logLevelError
  split_ifs <;> simp <;> omega

/-- `currLogLevel <= level`: whether a message of `level` is logged at level `curr`. -/
def shouldLog (level curr : Int) : Bool := decide (curr ≤ level)

/-- `shouldLogDebug` -/
def shouldLogDebug (curr : Int) : Bool := shouldLog logLevelDebug curr

/-- `shouldLogInfo` -/
def shouldLogInfo (curr : Int) : Bool := shouldLog logLevelInfo curr

/-- `shouldLogWarn` -/
def shouldLogWarn (curr : Int) : Bool := shouldLog logLevelWarn curr

/-- `shouldLogError` -/
def shouldLogError (curr : Int) : Bool := shouldLog logLevelError curr

/-- A message of `level` is logged at level `curr` exactly when `curr ≤ level`. -/
@[simp] theorem shouldLog_iff (level curr : Int) : shouldLog level curr = true ↔ curr ≤ level := by
  simp [shouldLog]

/-- At a valid level errors are logged. -/
theorem shouldLogError_of_valid {curr : Int} (valid : validLogLevel curr = true) :
    shouldLogError curr = true := by
  rw [shouldLogError, shouldLog_iff]
  exact ((validLogLevel_iff curr).mp valid).2

/-! ## The handlers -/

/-- A request to `/log-level`. -/
inductive LogLevelRequest where
  /-- GET /log-level -/
  | get
  /-- PUT /log-level, with its body as `json.NewDecoder(r.Body).Decode` reads it: the
  `log_level` field (`0` when it is absent), or the decoder's error. -/
  | put (body : Except String Int)
  deriving Repr

/-- `logLevelHandler` — `sendSuccess` of the map `log_level ↦ currLogLevel`, written `.ok`. -/
def logLevelHandler (curr : Int) : Except Reply Int := .ok curr

/-- `setLogLevelHandler` — its reply, and the level after it. -/
def setLogLevelHandler (curr : Int) (body : Except String Int) : Except Reply Int × Int :=
  match body with
  | .error _ => (.error (.badReq "invalid PUT body"), curr)
  | .ok lvl =>
    if !validLogLevel lvl then (.error (.badReq "invalid log level"), curr)
    else (.ok lvl, lvl)

/-- One request handled at level `curr`: its reply, and the level after it. -/
def LogLevelRequest.serve (curr : Int) : LogLevelRequest → Except Reply Int × Int
  | .get => (logLevelHandler curr, curr)
  | .put body => setLogLevelHandler curr body

/-- Requests handled one after another from level `curr`: their replies, and the level after
them. -/
def serveLogLevel (curr : Int) : List LogLevelRequest → List (Except Reply Int) × Int
  | [] => ([], curr)
  | req :: rest =>
    ((req.serve curr).1 :: (serveLogLevel (req.serve curr).2 rest).1,
      (serveLogLevel (req.serve curr).2 rest).2)

/-- `main` on its `-log-level` flag (`4` when not given): `log.Fatalf` on a level
`validLogLevel` refuses, else the level the server starts at. -/
def startLogLevel (lvl : Int) : Except String Int :=
  if !validLogLevel lvl then .error s!"Invalid log level ({lvl}). Must be between 1-4, inclusive."
  else .ok lvl

/-- `main` starts at its flag's level exactly when that is one of the four. -/
theorem startLogLevel_eq_ok (lvl curr : Int) :
    startLogLevel lvl = .ok curr ↔ curr = lvl ∧ 1 ≤ lvl ∧ lvl ≤ 4 := by
  rw [← validLogLevel_iff]
  unfold startLogLevel
  cases validLogLevel lvl <;> simp [eq_comm]

/-! ## A register -/

/-- The level a request sets: a PUT's body's, when that is a valid level. -/
def LogLevelRequest.setTo : LogLevelRequest → Option Int
  | .put (.ok lvl) => if validLogLevel lvl then some lvl else none
  | _ => none

/-- The level after `reqs` from `curr`, read as a register: that of the last request that set
one, or `curr`. -/
def lastLogLevel (curr : Int) (reqs : List LogLevelRequest) : Int :=
  ((reqs.filterMap LogLevelRequest.setTo).getLast?).getD curr

/-- The register after a request and then `rest` is that of `rest` from the level the request
leaves. -/
theorem lastLogLevel_cons (curr : Int) (req : LogLevelRequest) (rest : List LogLevelRequest) :
    lastLogLevel curr (req :: rest) = lastLogLevel (req.setTo.getD curr) rest := by
  unfold lastLogLevel
  cases set : req.setTo with
  | none => simp [List.filterMap_cons_none set]
  | some lvl => simp [List.filterMap_cons_some set, List.getLast?_cons]

/-- A request appended to a run sets the register to its level, if it sets one. -/
theorem lastLogLevel_concat (curr : Int) (reqs : List LogLevelRequest) (req : LogLevelRequest) :
    lastLogLevel curr (reqs ++ [req]) = req.setTo.getD (lastLogLevel curr reqs) := by
  unfold lastLogLevel
  cases set : req.setTo <;> simp [List.filterMap_append, set]

/-- The register after the `k`-th request is the one before it, updated by that request. -/
theorem lastLogLevel_take_succ {reqs : List LogLevelRequest} {k : Nat} {req : LogLevelRequest}
    (found : reqs[k]? = some req) (curr : Int) :
    lastLogLevel curr (reqs.take (k + 1)) = req.setTo.getD (lastLogLevel curr (reqs.take k)) := by
  rw [List.take_succ, found, Option.toList_some, lastLogLevel_concat]

/-- A request leaves the level it sets, or the one it found. -/
theorem LogLevelRequest.serve_level (curr : Int) (req : LogLevelRequest) :
    (req.serve curr).2 = req.setTo.getD curr := by
  rcases req with _ | _ | lvl
  · rfl
  · rfl
  · cases valid : validLogLevel lvl <;> simp [serve, setLogLevelHandler, setTo, valid]

/-- A request sets only valid levels. -/
theorem LogLevelRequest.valid_setTo {req : LogLevelRequest} {curr : Int}
    (valid : validLogLevel curr = true) : validLogLevel (req.setTo.getD curr) = true := by
  rcases req with _ | _ | lvl
  · exact valid
  · exact valid
  · by_cases set : validLogLevel lvl <;> simp [setTo, set, valid]

/-- The run leaves the register's level. -/
theorem serveLogLevel_level : ∀ (curr : Int) (reqs : List LogLevelRequest),
    (serveLogLevel curr reqs).2 = lastLogLevel curr reqs
  | _, [] => rfl
  | curr, req :: rest => by
    rw [serveLogLevel, lastLogLevel_cons, ← LogLevelRequest.serve_level, serveLogLevel_level]

/-- The `k`-th reply of the run is the `k`-th request's, served at the register's level before
it. -/
theorem serveLogLevel_reply : ∀ (curr : Int) (reqs : List LogLevelRequest) (k : Nat)
    (req : LogLevelRequest), reqs[k]? = some req →
      (serveLogLevel curr reqs).1[k]? = some (req.serve (lastLogLevel curr (reqs.take k))).1
  | _, [], _, _, found => by simp at found
  | curr, r :: rest, 0, req, found => by
    rw [List.getElem?_cons_zero] at found
    cases found
    rw [serveLogLevel, List.getElem?_cons_zero]
    rfl
  | curr, r :: rest, k + 1, req, found => by
    rw [List.getElem?_cons_succ] at found
    rw [serveLogLevel, List.getElem?_cons_succ, serveLogLevel_reply _ rest k req found,
      List.take_succ_cons, lastLogLevel_cons, LogLevelRequest.serve_level]

/-- From a valid level the register only takes valid levels. -/
theorem lastLogLevel_valid : ∀ {curr : Int} (reqs : List LogLevelRequest),
    validLogLevel curr = true → validLogLevel (lastLogLevel curr reqs) = true
  | _, [], valid => valid
  | _, req :: rest, valid => by
    rw [lastLogLevel_cons]
    exact lastLogLevel_valid rest (LogLevelRequest.valid_setTo valid)

/-- `main` starts at its flag's level exactly when that is one of the four. The handlers, taken
one after another, behave as a register holding the level of the last PUT that set a valid one:
a GET replies with the register's level before it; a PUT of a valid level replies with that
level and writes it; a PUT whose level is not valid, or whose body does not decode, replies
with its reason and leaves the register as it was. The level after the requests is the
register's, and from a valid flag it is always one of the four, so errors are always logged. -/
theorem log_level_register (flag : Int) (reqs : List LogLevelRequest) :
    (∀ curr, startLogLevel flag = .ok curr ↔ curr = flag ∧ 1 ≤ flag ∧ flag ≤ 4) ∧
    (∀ k : Nat, reqs[k]? = some .get →
      (serveLogLevel flag reqs).1[k]? = some (.ok (lastLogLevel flag (reqs.take k)))) ∧
    (∀ (k : Nat) (lvl : Int), reqs[k]? = some (.put (.ok lvl)) → validLogLevel lvl = true →
      (serveLogLevel flag reqs).1[k]? = some (.ok lvl) ∧
        lastLogLevel flag (reqs.take (k + 1)) = lvl) ∧
    (∀ (k : Nat) (lvl : Int), reqs[k]? = some (.put (.ok lvl)) → validLogLevel lvl = false →
      (serveLogLevel flag reqs).1[k]? = some (.error (.badReq "invalid log level")) ∧
        lastLogLevel flag (reqs.take (k + 1)) = lastLogLevel flag (reqs.take k)) ∧
    (∀ (k : Nat) (err : String), reqs[k]? = some (.put (.error err)) →
      (serveLogLevel flag reqs).1[k]? = some (.error (.badReq "invalid PUT body")) ∧
        lastLogLevel flag (reqs.take (k + 1)) = lastLogLevel flag (reqs.take k)) ∧
    (serveLogLevel flag reqs).2 = lastLogLevel flag reqs ∧
    (1 ≤ flag → flag ≤ 4 →
      1 ≤ lastLogLevel flag reqs ∧ lastLogLevel flag reqs ≤ 4 ∧
      shouldLogError (lastLogLevel flag reqs) = true) := by
  refine ⟨startLogLevel_eq_ok flag, fun k found => serveLogLevel_reply flag reqs k _ found,
    fun k lvl found valid => ?_, fun k lvl found invalid => ?_,
    fun k _ found => ⟨serveLogLevel_reply flag reqs k _ found, lastLogLevel_take_succ found flag⟩,
    serveLogLevel_level flag reqs, fun low high => ?_⟩
  · rw [serveLogLevel_reply flag reqs k _ found, lastLogLevel_take_succ found]
    simp [LogLevelRequest.serve, setLogLevelHandler, LogLevelRequest.setTo, valid]
  · rw [serveLogLevel_reply flag reqs k _ found, lastLogLevel_take_succ found]
    simp [LogLevelRequest.serve, setLogLevelHandler, LogLevelRequest.setTo, invalid]
  · have valid := lastLogLevel_valid reqs ((validLogLevel_iff flag).mpr ⟨low, high⟩)
    obtain ⟨atLeastDebug, atMostError⟩ := (validLogLevel_iff _).mp valid
    exact ⟨atLeastDebug, atMostError, shouldLogError_of_valid valid⟩

/-- From the default flag: a PUT of debug, a PUT of `9`, a PUT whose body does not decode, and a
GET. -/
def logLevelRequests : List LogLevelRequest :=
  [.put (.ok 1), .put (.ok 9), .put (.error "unexpected EOF"), .get]

/-- Debug is set, the `9` and the bad body are refused with their reasons, and the GET reads
debug. -/
theorem log_level_register_refused_put :
    ((serveLogLevel 4 logLevelRequests).1[0]? = some (.ok 1) ∧
      lastLogLevel 4 (logLevelRequests.take 1) = 1) ∧
    ((serveLogLevel 4 logLevelRequests).1[1]? = some (.error (.badReq "invalid log level")) ∧
      lastLogLevel 4 (logLevelRequests.take 2) = lastLogLevel 4 (logLevelRequests.take 1)) ∧
    ((serveLogLevel 4 logLevelRequests).1[2]? = some (.error (.badReq "invalid PUT body")) ∧
      lastLogLevel 4 (logLevelRequests.take 3) = lastLogLevel 4 (logLevelRequests.take 2)) ∧
    (serveLogLevel 4 logLevelRequests).1[3]? = some (.ok (lastLogLevel 4 (logLevelRequests.take 3))) ∧
    lastLogLevel 4 (logLevelRequests.take 3) = 1 ∧
    (1 ≤ lastLogLevel 4 logLevelRequests ∧ lastLogLevel 4 logLevelRequests ≤ 4 ∧
      shouldLogError (lastLogLevel 4 logLevelRequests) = true) :=
  ⟨(log_level_register 4 logLevelRequests).2.2.1 0 1 rfl rfl,
    (log_level_register 4 logLevelRequests).2.2.2.1 1 9 rfl rfl,
    (log_level_register 4 logLevelRequests).2.2.2.2.1 2 "unexpected EOF" rfl,
    (log_level_register 4 logLevelRequests).2.1 3 rfl, by decide,
    (log_level_register 4 logLevelRequests).2.2.2.2.2.2 (by decide) (by decide)⟩

end Oscar
