import Oscar.DropBoxes.Handlers

/-! # E-mail verification

`email.go`'s handlers of POST /email-verifications (`verifyEmailHandler`) and
DELETE /email-verifications/{token} (`disavowEmailHandler`). Both ask the user store `rs`,
which is not among the repository's files: what it answers is an input of the handler
(`EmailStore`), and the calls a handler makes are part of what it does, with the replies it
writes, each in order (`EmailOutcome`).

Each handler has its spec lemma (`verifyEmailHandler_ok`, `disavowEmailHandler_given`).
`verifyEmailHandler` does not return after writing "Missing verification token": a body whose
token is empty gets that reply, and the handler goes on to look the empty token up and write a
second reply, verifying the e-mail of whatever record the store holds under it
(`verifyEmailHandler_empty_token`).
-/

namespace Oscar

/-- The codes `sendBadReqCode` is given in `email.go`; their values are not in the repository. -/
inductive ErrorCode where
  | errorBadRequest
  | errorMissingVerificationToken
  deriving DecidableEq, Repr

/-- A reply an e-mail handler writes: one of `Reply`'s, or `sendBadReqCode`'s status 400 with
its code. -/
inductive EmailReply where
  | reply (r : Reply)
  | badReqCode (msg : String) (code : ErrorCode)
  deriving DecidableEq, Repr

/-- The fields of the record `rs.EmailVerificationTokenRecord` returns that the handler reads. -/
structure TokenRecord where
  email : String
  /-- An int64, as user ids are in `newSocketServer`. -/
  userID : BitVec 64
  deriving DecidableEq, Repr

/-- What the store `rs` answers the e-mail handlers. -/
structure EmailStore where
  /-- The record under a token: `none` for a `nil` record, or the error. -/
  emailVerificationTokenRecord : String → Except String (Option TokenRecord)
  /-- The error of `rs.VerifyEmail(email, userID)`, if any. -/
  verifyEmail : String → BitVec 64 → Except String Unit
  /-- The error of `rs.DisavowEmail(token)`, if any. -/
  disavowEmail : String → Except String Unit

/-- A call an e-mail handler makes to the store. -/
inductive EmailCall where
  | emailVerificationTokenRecord (token : String)
  | verifyEmail (email : String) (userID : BitVec 64)
  | disavowEmail (token : String)
  deriving DecidableEq, Repr

/-- What an e-mail handler did: the calls it made to the store and the replies it wrote. -/
structure EmailOutcome where
  calls : List EmailCall
  replies : List EmailReply
  deriving DecidableEq, Repr

/-- `verifyEmailHandler` — the body's token (or the decoder's error), looked up in the store,
and the e-mail of its record verified. -/
def verifyEmailHandler (rs : EmailStore) (body : Except String String) : EmailOutcome :=
  match body with
  | .error _ => ⟨[], [.reply (.badReq "unable to parse POST body")]⟩
  | .ok token =>
    -- no `return` after this reply
    let missing : List EmailReply :=
      if token = "" then [.badReqCode "Missing verification token" .errorBadRequest] else []
    let lookup := EmailCall.emailVerificationTokenRecord token
    match rs.emailVerificationTokenRecord token with
    | .error err => ⟨[lookup], missing ++ [.reply (.internalErr err)]⟩
    | .ok none =>
      ⟨[lookup], missing ++ [.badReqCode "Invalid token" .errorMissingVerificationToken]⟩
    | .ok (some evtr) =>
      let verify := EmailCall.verifyEmail evtr.email evtr.userID
      match rs.verifyEmail evtr.email evtr.userID with
      | .error err => ⟨[lookup, verify], missing ++ [.reply (.internalErr err)]⟩
      | .ok () => ⟨[lookup, verify], missing ++ [.reply .success]⟩

/-- `disavowEmailHandler` — the path's token, disavowed in the store. -/
def disavowEmailHandler (rs : EmailStore) (token : String) : EmailOutcome :=
  if token = "" then ⟨[], [.badReqCode "Invalid token" .errorMissingVerificationToken]⟩
  else
    match rs.disavowEmail token with
    | .error err => ⟨[.disavowEmail token], [.reply (.internalErr err)]⟩
    | .ok () => ⟨[.disavowEmail token], [.reply .success]⟩

/-! ## Calls and replies -/

section Verify

variable (rs : EmailStore) (token : String)

/-- The verification `verifyEmailHandler` asks for under a token: that of the e-mail of the
token's record, when the store has one. -/
def EmailStore.verifies (email : String) (userID : BitVec 64) : Prop :=
  match rs.emailVerificationTokenRecord token with
  | .ok (some evtr) => evtr.email = email ∧ evtr.userID = userID
  | _ => False

/-- A decoded body's token is looked up first, and the only other call is the verification of
its record's e-mail; the handler writes one reply after the "Missing verification token" of an
empty token, a success exactly when that verification succeeded. -/
theorem verifyEmailHandler_ok :
    ∃ rest last, verifyEmailHandler rs (.ok token) =
      ⟨.emailVerificationTokenRecord token :: rest,
        (if token = "" then [.badReqCode "Missing verification token" .errorBadRequest] else []) ++
          [last]⟩ ∧
      (∀ call ∈ rest, ∃ email userID, call = .verifyEmail email userID ∧
        rs.verifies token email userID) ∧
      (∀ email userID, rs.verifies token email userID → EmailCall.verifyEmail email userID ∈ rest) ∧
      (last = .reply .success ↔ ∃ email userID, rs.verifies token email userID ∧
        rs.verifyEmail email userID = .ok ()) := by
  rcases lookup : rs.emailVerificationTokenRecord token with err | _ | evtr
  · exact ⟨[], .reply (.internalErr err), by simp [verifyEmailHandler, lookup], by simp,
      by simp [EmailStore.verifies, lookup], by simp [EmailStore.verifies, lookup]⟩
  · exact ⟨[], .badReqCode "Invalid token" .errorMissingVerificationToken,
      by simp [verifyEmailHandler, lookup], by simp,
      by simp [EmailStore.verifies, lookup], by simp [EmailStore.verifies, lookup]⟩
  · rcases verified : rs.verifyEmail evtr.email evtr.userID with err | ⟨⟩
    · exact ⟨[.verifyEmail evtr.email evtr.userID], .reply (.internalErr err),
        by simp [verifyEmailHandler, lookup, verified], by simp [EmailStore.verifies, lookup],
        by simp [EmailStore.verifies, lookup], by simp [EmailStore.verifies, lookup, verified]⟩
    · exact ⟨[.verifyEmail evtr.email evtr.userID], .reply .success,
        by simp [verifyEmailHandler, lookup, verified], by simp [EmailStore.verifies, lookup],
        by simp [EmailStore.verifies, lookup],
        iff_of_true rfl ⟨_, _, by simp [EmailStore.verifies, lookup], verified⟩⟩

end Verify

/-- An empty token does not stop `verifyEmailHandler`: "Missing verification token" is written
first, the empty token is looked up all the same, and the request gets two replies. -/
theorem verifyEmailHandler_empty_token (rs : EmailStore) :
    (verifyEmailHandler rs (.ok "")).calls.head? = some (.emailVerificationTokenRecord "") ∧
    (verifyEmailHandler rs (.ok "")).replies.length = 2 ∧
    (verifyEmailHandler rs (.ok "")).replies.head? =
      some (.badReqCode "Missing verification token" .errorBadRequest) := by
  obtain ⟨rest, last, handled, -⟩ := verifyEmailHandler_ok rs ""
  rw [handled]
  exact ⟨rfl, rfl, rfl⟩

/- Against a store that holds no token, the empty token gets both 400s. -/
example : (verifyEmailHandler ⟨fun _ => .ok none, fun _ _ => .ok (), fun _ => .ok ()⟩
    (.ok "")).replies = [.badReqCode "Missing verification token" .errorBadRequest,
      .badReqCode "Invalid token" .errorMissingVerificationToken] := by
  decide

/-- `disavowEmailHandler` disavows a non-empty token once, with one reply, a success exactly when
`DisavowEmail` succeeded. -/
theorem disavowEmailHandler_given (rs : EmailStore) {token : String} (given : token ≠ "") :
    (disavowEmailHandler rs token).calls = [.disavowEmail token] ∧
      (disavowEmailHandler rs token).replies.length = 1 ∧
      ((disavowEmailHandler rs token).replies = [.reply .success] ↔
        rs.disavowEmail token = .ok ()) := by
  rcases disavowed : rs.disavowEmail token with err | ⟨⟩ <;>
    simp [disavowEmailHandler, given, disavowed]

end Oscar
