import Keychain.Rust.Direct

/-!
The user action flow of Dfns, `dfns/auth.rs`: a request that changes something is
challenged, the challenge is answered by the signer's credential, and the token that
comes back goes out with the request.

`Conversation` says what may have been exchanged by a call of `sign_transaction`. Each
message is the answer to what came before it, and all of them are about one body.
-/

namespace Keychain.Rust

open Prog

variable {σ T : Type}

/-! ## One exchange -/

/-- A failed exchange has sent its request or nothing. -/
def AtMost [Crates] (request : Except SignerError Request) (w w' : World Request Reply σ) : Prop :=
  w' = w ∨ ∃ sent, request = .ok sent ∧ ∃ reply, w' = w.heard sent reply

theorem exchange_meets_heard [Crates] {request : Except SignerError Request}
    {judge : Response → Except SignerError T} {answers : ℕ → Reply} {w : World Request Reply σ} :
    (exchange request judge).Meets answers w
      (fun result w' => ∃ sent reply, request = .ok sent ∧ w' = w.heard sent reply ∧
        (received reply >>= judge) = .ok result)
      (fun _ w' => AtMost request w w') := by
  refine meets_of_run ?_ ?_
  · intro result w' ran
    rw [exchange_run] at ran
    cases formed : exchanged request with
    | error e => simp [formed] at ran
    | ok sent =>
      simp only [formed, Prod.mk.injEq] at ran
      exact ⟨sent, _, (exchanged_eq_ok.mp formed).1, ran.2.symm, ran.1⟩
  · intro e w' ran
    rw [exchange_run] at ran
    cases formed : exchanged request with
    | error e => simp only [formed, Prod.mk.injEq] at ran; exact .inl ran.2.symm
    | ok sent =>
      simp only [formed, Prod.mk.injEq] at ran
      exact .inr ⟨sent, (exchanged_eq_ok.mp formed).1, _, ran.2.symm⟩

namespace DfnsSigner

section

variable [Crates] [FromSlice DfnsUserActionInit] [FromSlice DfnsUserAction]

/-! ## The messages -/

/-- The request for a challenge, for a body that is to be posted to a path. -/
def challengeRequest (signer : DfnsSigner) (httpPath body : String) : Except SignerError Request :=
  signer.authPost "/auth/action/init" (.object [
    ("userActionPayload", .string body), ("userActionHttpMethod", .string "POST"),
    ("userActionHttpPath", .string httpPath), ("userActionServerKind", .string "Api")])

/-- The challenge that a reply holds. -/
def challengeIn (reply : Reply) : Except SignerError DfnsUserActionInit :=
  received reply >>= (parseJsonResponse · "Dfns auth/action/init")

/-- The token that a reply holds. -/
def tokenIn (reply : Reply) : Except SignerError DfnsUserAction :=
  received reply >>= (parseJsonResponse · "Dfns auth/action")

/-- The assertion signs the challenge with a credential that the challenge allows. -/
structure Asserts (signer : DfnsSigner) (challenge : DfnsUserActionInit) (request : Request) :
    Prop where
  allowed : signer.credId ∈ challenge.allowCredentials
  posted : request.method = .post ∧ request.url = signer.apiBaseUrl ++ "/auth/action"
  signed : ∃ clientData signature,
    clientData = utf8 (Crates.showValue (.object [
      ("type", .string "key.get"), ("challenge", .string challenge.challenge)])) ∧
    signChallenge signer.privateKeyPem clientData = .ok signature ∧
    Crates.jsonToString (.object [
      ("challengeIdentifier", .string challenge.challengeIdentifier),
      ("firstFactor", .object [("kind", .string "Key"), ("credentialAssertion", .object [
        ("credId", .string signer.credId),
        ("clientData", .string (Crates.base64UrlEncode clientData)),
        ("signature", .string (Crates.base64UrlEncode signature))])])]) = .ok request.body

/-- The request that was challenged, under its token. -/
def signatureRequest (signer : DfnsSigner) (httpPath body userAction : String) : Request where
  method := .post
  url := signer.apiBaseUrl ++ httpPath
  headers := [("Authorization", s!"Bearer {signer.authToken}"),
    ("Content-Type", "application/json"), ("x-dfns-useraction", userAction)]
  body

/-- What may have been exchanged about a body that is to be posted to a path. -/
structure Conversation (signer : DfnsSigner) (httpPath body : String)
    (log : List (Request × Reply)) : Prop where
  short : log.length ≤ 3
  /-- First a challenge for this very body is asked for. -/
  challenged : ∀ request reply, log[0]? = some (request, reply) →
    signer.challengeRequest httpPath body = .ok request
  /-- Then the challenge that was given is answered. -/
  asserted : ∀ request reply, log[1]? = some (request, reply) →
    ∃ asked given challenge, log[0]? = some (asked, given) ∧ challengeIn given = .ok challenge ∧
      signer.Asserts challenge request
  /-- At last the body goes out, under the token that was given. -/
  authorized : ∀ request reply, log[2]? = some (request, reply) →
    ∃ answer given action, log[1]? = some (answer, given) ∧ tokenIn given = .ok action ∧
      request = signer.signatureRequest httpPath body action.userAction

omit [FromSlice DfnsUserActionInit] [FromSlice DfnsUserAction] in
theorem asserts_of_answerChallenge {signer : DfnsSigner} {challenge : DfnsUserActionInit}
    {request : Request} (answered : signer.answerChallenge challenge = .ok request) :
    signer.Asserts challenge request := by
  rcases bind_eq_ok.mp answered with ⟨_, allowed, answered⟩
  rcases bind_eq_ok.mp answered with ⟨signature, signed, answered⟩
  rcases bind_eq_ok.mp answered with ⟨body, printed, same⟩
  cases same
  exact ⟨require_eq_ok.mp allowed, ⟨rfl, rfl⟩, _, signature, rfl, signed, mapError_eq_ok.mp printed⟩

/-! ## The flow -/

theorem Conversation.nil {signer : DfnsSigner} {httpPath body : String} :
    signer.Conversation httpPath body [] where
  short := by simp
  challenged := by simp
  asserted := by simp
  authorized := by simp

variable {signer : DfnsSigner} {httpPath body : String} {init answer request : Request}
  {given token reply : Reply} {challenge : DfnsUserActionInit} {action : DfnsUserAction}

theorem Conversation.one (challenged : signer.challengeRequest httpPath body = .ok init) :
    signer.Conversation httpPath body [(init, given)] where
  short := by simp
  challenged := by
    intro request reply first
    cases first
    exact challenged
  asserted := by simp
  authorized := by simp

theorem Conversation.two (challenged : signer.challengeRequest httpPath body = .ok init)
    (presented : challengeIn given = .ok challenge)
    (asserts : signer.Asserts challenge answer) :
    signer.Conversation httpPath body [(init, given), (answer, token)] where
  short := by simp
  challenged := by
    intro request reply first
    cases first
    exact challenged
  asserted := by
    intro request reply second
    cases second
    exact ⟨init, given, challenge, rfl, presented, asserts⟩
  authorized := by simp

theorem Conversation.three (challenged : signer.challengeRequest httpPath body = .ok init)
    (presented : challengeIn given = .ok challenge) (asserts : signer.Asserts challenge answer)
    (issued : tokenIn token = .ok action) :
    signer.Conversation httpPath body [(init, given), (answer, token),
      (signer.signatureRequest httpPath body action.userAction, reply)] where
  short := by simp
  challenged := by
    intro request reply first
    cases first
    exact challenged
  asserted := by
    intro request reply second
    cases second
    exact ⟨init, given, challenge, rfl, presented, asserts⟩
  authorized := by
    intro request reply third
    cases third
    exact ⟨answer, token, action, rfl, issued, rfl⟩

/-- Where the signature requests of a signer go. -/
def signaturesPath (signer : DfnsSigner) : String :=
  s!"/keys/{encodeUriComponent signer.keyId}/signatures"

/-- The conversation about a request, once it could be printed. -/
def Converses (signer : DfnsSigner) (requestBody : Value) (log : List (Request × Reply)) : Prop :=
  ∃ body, Crates.jsonToString requestBody = .ok body ∧
    signer.Conversation signer.signaturesPath body log

variable [FromSlice DfnsGenerateSignatureResponse]

theorem sendSignatureRequest_meets {requestBody : Value} {answers : ℕ → Reply}
    {w : World Request Reply σ} (fresh : w.log = []) :
    (signer.sendSignatureRequest requestBody).Meets answers w
      (fun _ w' => signer.Converses requestBody w'.log ∧ w'.log.length = 3)
      (fun _ w' => w'.log = [] ∨ signer.Converses requestBody w'.log) := by
  unfold sendSignatureRequest signUserAction
  simp only [meets_bind, meets_ofExcept, meets_pure]
  refine ⟨fun body printed => ?_, fun _ _ => .inl fresh⟩
  have printed := mapError_eq_ok.mp printed
  refine exchange_meets_heard.mono ?_ ?_
  · intro challenge w' heard
    rcases heard with ⟨init, given, challenged, rfl, presented⟩
    refine exchange_meets_heard.mono ?_ ?_
    · intro action w' heard
      rcases heard with ⟨answer, token, answered, rfl, issued⟩
      have asserts := asserts_of_answerChallenge answered
      have third : ∀ reply, signer.Converses requestBody
          [(init, given), (answer, token),
            (signer.signatureRequest signer.signaturesPath body action.userAction, reply)] :=
        fun _ => ⟨body, printed, .three challenged presented asserts issued⟩
      refine exchange_meets_heard.mono ?_ ?_
      · intro signature w' heard
        rcases heard with ⟨sent, reply, same, rfl, -⟩
        cases same
        simp only [World.heard, fresh, List.nil_append, List.cons_append]
        exact ⟨third reply, rfl⟩
      · intro e w' heard
        rcases heard with rfl | ⟨sent, same, reply, rfl⟩
        · simp only [World.heard, fresh, List.nil_append, List.cons_append]
          exact .inr ⟨body, printed, .two challenged presented asserts⟩
        · cases same
          simp only [World.heard, fresh, List.nil_append, List.cons_append]
          exact .inr (third reply)
    · intro e w' heard
      rcases heard with rfl | ⟨answer, answered, reply, rfl⟩
      · simp only [World.heard, fresh, List.nil_append]
        exact .inr ⟨body, printed, .one challenged⟩
      · simp only [World.heard, fresh, List.nil_append, List.cons_append]
        exact .inr ⟨body, printed, .two challenged presented
          (asserts_of_answerChallenge answered)⟩
  · intro e w' heard
    rcases heard with rfl | ⟨init, challenged, reply, rfl⟩
    · exact .inl fresh
    · simp only [World.heard, fresh, List.nil_append]
      exact .inr ⟨body, printed, .one challenged⟩

/-- The request for a signature over a wire transaction. -/
def transactionRequest (wire : Bytes) : Value :=
  .object [("kind", .string "Transaction"),
    ("transaction", .string ("0x" ++ Crates.hexEncode wire)), ("blockchainKind", .string "Solana")]

/-- Whatever Dfns answers, a call of `sign_transaction` sends nothing or holds the conversation
about the caller's transaction, and it returns a signature only at the end of it. -/
theorem signTransaction_converses (signer : DfnsSigner) (transaction : VersionedTransaction)
    (answers : ℕ → Reply) :
    signer.signTransaction.Meets answers (.start transaction)
      (fun _ w => ∃ wire, Crates.serializeWire transaction = .ok wire ∧
        signer.Converses (transactionRequest wire) w.log ∧ w.log.length = 3)
      (fun _ w => w.log = [] ∨ ∃ wire, Crates.serializeWire transaction = .ok wire ∧
        signer.Converses (transactionRequest wire) w.log) := by
  unfold signTransaction signAndClassify signAndSerialize signTransactionBytes checked
    placeAndSerialize
  simp only [meets_bind, meets_state, meets_ofExcept, meets_pure, meets_modifyState]
  refine ⟨fun wire serialized => ?_, fun _ _ => .inl rfl⟩
  have serialized := mapError_eq_ok.mp serialized
  refine ⟨fun publicKey _ => ?_, fun _ _ => .inl rfl⟩
  refine (sendSignatureRequest_meets rfl).mono ?_ ?_
  · intro signature w conversed
    have whole := And.intro serialized conversed
    have held : w.log = [] ∨ ∃ wire, Crates.serializeWire transaction = .ok wire ∧
        signer.Converses (transactionRequest wire) w.log :=
      .inr ⟨wire, serialized, conversed.1⟩
    refine ⟨fun _ _ => ⟨fun _ _ => ⟨fun _ _ => ⟨fun _ _ => ?_, fun _ _ => held⟩,
      fun _ _ => held⟩, fun _ _ => held⟩, fun _ _ => held⟩
    exact ⟨wire, whole⟩
  · intro e w conversed
    rcases conversed with quiet | conversed
    · exact .inl quiet
    · exact .inr ⟨wire, serialized, conversed⟩

end

end DfnsSigner

end Keychain.Rust
