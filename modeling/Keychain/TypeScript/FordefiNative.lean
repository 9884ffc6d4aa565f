import Keychain.TypeScript.Managed

/-!
`fordefi-signer.ts`: the native Solana path with `push_mode` `auto`, which Fordefi broadcasts.

The path of a poll carries the transaction id as it is. `signAndSendNativeTransaction_promised`
is the promise of `Keychain.TypeScript.Managed` for one transaction of a batch, together with
what must succeed before its create goes out (`Gated`).
-/

namespace Keychain.TypeScript

open Prog

inductive FordefiSolanaFee where
  | priority (priorityLevel : JsString)
  | custom (unitPrice priorityFee : Option JsString)

/-- A signer in native mode. -/
structure FordefiSigner where
  address : JsString
  accessToken : JsString
  apiBaseUrl : JsString
  chain : JsString
  fee : Option FordefiSolanaFee
  maxPollAttempts : ℕ
  requestTimeoutMs : ℚ
  vaultId : JsString
  maxPollAttempts_pos : 0 < maxPollAttempts

namespace FordefiSigner

/-- `DEFAULT_MAX_POLL_ATTEMPTS` -/
def defaultMaxPollAttempts : ℕ := 50

theorem defaultMaxPollAttempts_pos : 0 < defaultMaxPollAttempts := by decide

variable [Runtime] [Kit]

/-! ## The create -/

def transactionsPath : JsString := "/api/v1/transactions"

def canonicalFee : Option FordefiSolanaFee → JsString
  | none => ""
  | some (.priority level) => ("priority|" : String) ++ level ++ "||"
  | some (.custom unitPrice priorityFee) =>
    ("custom||" : String) ++ unitPrice.getD "" ++ "|" ++ priorityFee.getD ""

/-- The members stand in the order of their type. -/
def feeValue : FordefiSolanaFee → Unknown
  | .priority level =>
    .object [("priority_level", .string level), ("type", .string "priority")]
  | .custom unitPrice priorityFee =>
    .object (priorityFee.toList.map (fun fee => (("priority_fee" : JsString), .string fee)) ++
      [(("type" : JsString), .string "custom")] ++
      unitPrice.toList.map fun price => (("unit_price" : JsString), .string price))

def solanaTransactionRequestBody (signer : FordefiSigner) (base64Data : JsString)
    (pushMode : String) : Unknown :=
  .object [
    ("details", .object
      ([(("chain" : JsString), .string signer.chain), (("data" : JsString), .string base64Data)] ++
        signer.fee.toList.map (fun fee => (("fee" : JsString), feeValue fee)) ++
        [(("push_mode" : JsString), .string pushMode),
          (("type" : JsString), .string "solana_serialized_transaction_message")])),
    ("sign_mode", .string "auto"),
    ("signer_type", .string "api_signer"),
    ("type", .string "solana_transaction"),
    ("vault_id", .string signer.vaultId)]

/-- `none` is a `RangeError`. -/
def namespaceIdempotencyInput (signer : FordefiSigner) (pushMode : String) (messageBytes : Bytes) :
    Option Bytes := do
  let leading := textEncode (("fordefi:solana:" ++ pushMode ++ ":" : String) ++ signer.chain ++
    ":" ++ signer.vaultId ++ ":" ++ canonicalFee signer.fee ++ ":")
  let namespaced := newUint8Array (leading.length + messageBytes.length)
  let namespaced ← setBytes namespaced leading 0
  setBytes namespaced messageBytes leading.length

def nativeIdempotencyKey (signer : FordefiSigner) (pushMode : String) (messageBytes : Bytes) :
    Except Thrown JsString := do
  let input ← okOr (signer.namespaceIdempotencyInput pushMode messageBytes)
    (.builtin "RangeError")
  pure (idempotencyKeyFromMessage input)

/-- `signRequest`, up to the caller's own request signer. -/
def signRequest (path : JsString) (timestamp : ℕ) (body : JsString) : FetchProg JsString := do
  let moment ← ask (.signRequest (path ++ "|" ++ (toString timestamp : String) ++ "|" ++ body))
  ofExcept moment.signed

def requestHeaders (signer : FordefiSigner) (apiPath : JsString)
    (body idempotenceId : Option JsString) : FetchProg (List (String × JsString)) := do
  let authorization : List (String × JsString) :=
    [("Authorization", ("Bearer " : String) ++ signer.accessToken)]
  let signed ← match body with
    | none => pure []
    | some body => do
      let moment ← ask .now
      let signature ← signRequest apiPath moment.now body
      pure [("Content-Type", (("application/json" : String) : JsString)),
        ("x-signature", signature), ("x-timestamp", (toString moment.now : String))]
  pure (authorization ++ signed ++ idempotenceId.toList.map fun id => ("x-idempotence-id", id))

structure PreparedSubmit where
  body : JsString
  headers : List (String × JsString)

def prepareTransactionSubmit (signer : FordefiSigner) (requestBody : Unknown)
    (idempotenceId : Option JsString) : FetchProg PreparedSubmit := do
  let body := stringified requestBody
  let headers ← signer.requestHeaders transactionsPath (some body) idempotenceId
  pure { body, headers }

def submitRequest (signer : FordefiSigner) (prepared : PreparedSubmit) : FetchRequest where
  url := signer.apiBaseUrl ++ transactionsPath
  method := .post
  headers := prepared.headers
  body := some prepared.body
  timeoutMs := signer.requestTimeoutMs

/-- The id of a created transaction. A value that is no string has no method `trim`. -/
def createdId (createResponse : Unknown) : Except Thrown JsString := do
  let noId : Except Thrown JsString := .error (.create .serializationError {
    message := some ("Fordefi returned no transaction id" : String) })
  match ← property createResponse "id" with
  | .string id => if id.isBlank then noId else pure id
  | .null => noId
  | .number .undefined => noId
  | _ => .error (.builtin "TypeError")

def sendTransactionSubmit (signer : FordefiSigner) (abortSignal : Bool)
    (prepared : PreparedSubmit) : FetchProg JsString :=
  submission abortSignal "Fordefi" (.ok (signer.submitRequest prepared)) createdId

/-! ## Polling -/

/-- `FAILURE_STATES` -/
def failureStates : List String :=
  ["aborted", "cancelled", "completed_reverted", "dropped", "error_pushing_to_blockchain",
    "error_signing", "insufficient_funds", "mined_reverted"]

/-- `PUSHABLE_SUCCESS_STATES` and `NON_PUSHABLE_SUCCESS_STATES` -/
def successStates (pushable : Bool) : List String :=
  if pushable then ["completed"] else ["signed", "completed"]

def isState (states : List String) : Unknown → Option JsString
  | .string state =>
    if states.any fun known => state = (known : JsString) then some state else none
  | _ => none

def pollRequest (signer : FordefiSigner) (txId : JsString)
    (headers : List (String × JsString)) : FetchRequest where
  url := signer.apiBaseUrl ++ ("/api/v1/transactions/" ++ txId)
  method := .get
  headers := headers
  body := none
  timeoutMs := signer.requestTimeoutMs

/-- There is no delay after the last attempt. -/
def pauseBefore (attempts : ℕ) (abortSignal : Bool) : FetchProg Unit :=
  if 0 < attempts then abortableDelay abortSignal else pure ()

/-- The loop with its remaining attempts. -/
def pollLoop (signer : FordefiSigner) (abortSignal : Bool) (txId : JsString) (pushable : Bool) :
    ℕ → FetchProg Unknown
  | 0 => fail (.create .remoteApiError {
      message := some ("Polling timeout after " ++ toString signer.maxPollAttempts ++
        " attempts" : String)
      providerTransactionId := some txId })
  | attempts + 1 => do
    let headers ← signer.requestHeaders ("/api/v1/transactions/" ++ txId) none none
    let txData ← fetchSignerJson abortSignal "Fordefi" (signer.pollRequest txId headers)
    let state ← ofExcept (property txData "state")
    if (isState (successStates pushable) state).isSome then pure txData
    else
      match isState failureStates state with
      | some state => fail (.create .signingFailed {
          message := some ("Transaction " ++ txId ++ " reached terminal state: " ++ state) })
      | none => do
        pauseBefore attempts abortSignal
        pollLoop signer abortSignal txId pushable attempts

def pollForResult (signer : FordefiSigner) (abortSignal : Bool) (txId : JsString)
    (pushable : Bool) : FetchProg Unknown :=
  signer.pollLoop abortSignal txId pushable signer.maxPollAttempts

/-! ## Sending -/

def compiledMessageOf (messageBytes : Bytes) : Except Thrown CompiledTransactionMessage :=
  (Kit.decodeMessage messageBytes).mapError fun error => .create .parsingError {
    cause := some error
    message := some
      ("Failed to decode the transaction message Fordefi was asked to sign" : String) }

def assertNativeAutoTransactionSupported (signer : FordefiSigner) (transaction : Transaction) :
    Except Thrown Unit := do
  let message ← compiledMessageOf transaction.messageBytes
  require (message.numSignerAccounts = 1 ∧ message.staticAccounts.head? = some signer.address)
    (.create .signingFailed {
      address := some signer.address
      message := some ("Fordefi native auto-broadcast currently supports only transactions " ++
        "whose sole required signer is the configured vault" : String) })
  require (∀ entry ∈ transaction.signatures, entry.2 = none)
    (.create .signingFailed {
      address := some signer.address
      message := some ("Fordefi native auto-broadcast must run before any transaction " ++
        "signatures are applied" : String) })

/-- The signature of a returned transaction that identifies it on chain. -/
def broadcastSignature [Packages] (signer : FordefiSigner) (decoded : Transaction) :
    Except Thrown Bytes := do
  let signerSignature ← okOr ((decoded.signatures.lookup signer.address).bind id)
    (.create .signingFailed {
      address := some signer.address
      message := some
        ("Fordefi wire transaction did not contain the configured vault signature" : String) })
  let transactionSignature ←
    (Kit.getSignatureFromTransaction decoded >>= fun text =>
      okOr (Packages.base58Encode text) (.builtin "SolanaError")).mapError fun error =>
        .create .signingFailed {
          cause := some error
          message := some ("Fordefi wire transaction carries no fee-payer signature to " ++
            "identify the broadcast by" : String) }
  assertSignatureValid decoded.messageBytes signerSignature signer.address
  let message ← compiledMessageOf decoded.messageBytes
  match message.staticAccounts.head? with
  | some feePayer =>
    if truthy (some feePayer) && feePayer != signer.address then
      assertSignatureValid decoded.messageBytes transactionSignature feePayer
  | none => pure ()
  pure transactionSignature

def finishNativeBroadcast [Packages] (signer : FordefiSigner) (abortSignal : Bool)
    (txId : JsString) : FetchProg Bytes := do
  let result ← signer.pollForResult abortSignal txId true
  let rawTransaction ← ofExcept (property result "raw_transaction")
  if isTruthy rawTransaction then do
    let bytes ← ofExcept (base64Bytes rawTransaction)
    let decoded ← ofExcept (Kit.decodeTransaction bytes)
    let signature ← ofExcept (signer.broadcastSignature decoded)
    throwIfAborted abortSignal
    pure signature
  else
    fail (.create .signingFailed {
      message := some ("Fordefi solana_transaction response missing raw_transaction" : String) })

/-- What `signAndSendNativeTransactions` does with one transaction. -/
def signAndSendNativeTransaction [Packages] (signer : FordefiSigner) (abortSignal : Bool)
    (transaction : Transaction) : FetchProg Bytes := do
  throwIfAborted abortSignal
  ofExcept (signer.assertNativeAutoTransactionSupported transaction)
  let base64Data := Kit.base64Decode transaction.messageBytes
  let idempotencyKey ← ofExcept (signer.nativeIdempotencyKey "auto" transaction.messageBytes)
  let prepared ← signer.prepareTransactionSubmit
    (signer.solanaTransactionRequestBody base64Data "auto") (some idempotencyKey)
  throwIfAborted abortSignal
  broadcastManaged "Fordefi" "Fordefi may have accepted" idempotencyKey id
    (signer.sendTransactionSubmit abortSignal prepared)
    (signer.finishNativeBroadcast abortSignal)

/-! ## The promise -/

/-- The requests that create a transaction. -/
def isCreate (signer : FordefiSigner) (request : FetchRequest) : Bool :=
  request.method = .post && request.url = signer.apiBaseUrl ++ transactionsPath

section

variable {signer : FordefiSigner} {abortSignal : Bool} {answers : ℕ → Moment}
variable {w : World Ask Moment Unit}

omit [Runtime] [Kit] in
theorem requestHeaders_asks {R : Ask → Prop} {apiPath : JsString} {id : Option JsString}
    : (signer.requestHeaders apiPath none id).Asks R := asks_pure.bind fun _ => asks_pure

omit [Kit] in
/-- A poll looks at the signal and fetches, and nothing else. -/
theorem pollLoop_asks {R : Ask → Prop} {txId : JsString} {pushable : Bool} {attempts : ℕ}
    (look : R .look) (polls : ∀ headers, R (.fetch (signer.pollRequest txId headers))) :
    (signer.pollLoop abortSignal txId pushable attempts).Asks R := by
  induction attempts with
  | zero => exact asks_fail
  | succ attempts ih =>
    refine requestHeaders_asks.bind fun headers => ?_
    refine (asks_fetchSignerJson look (polls headers)).bind fun txData => ?_
    refine asks_ofExcept.bind fun state => ?_
    split
    · exact asks_pure
    · cases isState failureStates state with
      | some state => exact asks_fail
      | none =>
        refine Asks.bind ?_ fun _ => ih
        unfold pauseBefore
        split
        · exact asks_abortableDelay look
        · exact asks_pure

theorem finishNativeBroadcast_asks [Packages] {R : Ask → Prop} {txId : JsString}
    (look : R .look) (polls : ∀ headers, R (.fetch (signer.pollRequest txId headers))) :
    (signer.finishNativeBroadcast abortSignal txId).Asks R := by
  refine (pollLoop_asks look polls).bind fun result => asks_ofExcept.bind fun rawTransaction => ?_
  split
  · refine asks_ofExcept.bind fun bytes => asks_ofExcept.bind fun decoded => ?_
    refine asks_ofExcept.bind fun signature => (asks_throwIfAborted look).bind fun _ => ?_
    exact asks_pure
  · exact asks_fail

theorem finishNativeBroadcast_followsUp [Packages] {txId : JsString} :
    (signer.finishNativeBroadcast abortSignal txId).Asks (FollowsUp signer.isCreate) := by
  refine finishNativeBroadcast_asks trivial fun headers => ?_
  simp [FollowsUp, isCreate, pollRequest]

omit [Runtime] [Kit] in
theorem createdId_judges : Judges createdId id where
  accepted := by
    intro value created judged
    obtain ⟨found, named, judged⟩ := bind_eq_ok.mp judged
    have own := property_eq_ok named
    cases found with
    | string text =>
      dsimp only at judged
      split at judged
      · cases judged
      · next usable =>
        cases judged
        rw [providerTransactionIdOf, own]
        exact if_neg usable
    | number found => cases found <;> cases judged
    | _ => cases judged
  refused := by
    intro value error judged
    have unnamed : ∀ found, optionalProperty value "id" = found →
        (∀ text, found = .string text → text.isBlank) →
        ∀ id, providerTransactionIdOf value = some id → error.providerTransactionId = some id := by
      intro found own blank id named
      rw [providerTransactionIdOf, own] at named
      cases found with
      | string text =>
        dsimp only at named
        rw [if_pos (blank text rfl)] at named
        cases named
      | _ => cases named
    rcases bind_eq_error.mp judged with early | ⟨found, named, late⟩
    · refine ⟨providerMayHaveAccepted_of_property early, ?_⟩
      exact unnamed _ (property_eq_error early) fun text same => by cases same
    · have own := property_eq_ok named
      cases found with
      | string text =>
        dsimp only at late
        split at late
        · next blank =>
          cases late
          exact ⟨rfl, unnamed _ own fun other same => by cases same; exact blank⟩
        · cases late
      | number found =>
        cases found <;> cases late <;>
          exact ⟨rfl, unnamed _ own fun text same => by cases same⟩
      | _ =>
        cases late
        exact ⟨rfl, unnamed _ own fun text same => by cases same⟩

/-- The clock was read and the request signer asked, and nothing else. -/
def AskedSigner (answers : ℕ → Moment) (w w' : World Ask Moment Unit) : Prop :=
  ∃ payload, w'.log = w.log ++
    [(.now, answers w.asked), (.signRequest payload, answers (w.asked + 1))]

omit [Runtime] [Kit] in
theorem AskedSigner.silent {w' : World Ask Moment Unit} (asked : AskedSigner answers w w') :
    exchanges w'.log = exchanges w.log := by
  rcases asked with ⟨payload, log⟩
  simp [log, exchanges]

omit [Runtime] [Kit] in
/-- Preparing a create asks the request signer, whose failure is thrown as it is. -/
theorem prepareTransactionSubmit_meets {requestBody : Unknown} {key : JsString} :
    (signer.prepareTransactionSubmit requestBody (some key)).Meets answers w
      (fun prepared w' => AskedSigner answers w w' ∧
        (∃ signature, (answers (w.asked + 1)).signed = .ok signature) ∧
        prepared.headers.lookup "x-idempotence-id" = some key)
      (fun error w' => AskedSigner answers w w' ∧
        (answers (w.asked + 1)).signed = .error error) := by
  have asked : ∀ payload, AskedSigner answers w ((w.heard .now (answers w.asked)).heard
      (.signRequest payload) (answers (w.asked + 1))) := fun payload => ⟨payload, by simp⟩
  simp only [prepareTransactionSubmit, requestHeaders, signRequest, meets_bind, meets_ask,
    meets_ofExcept, meets_pure, World.heard_asked]
  refine ⟨?_, fun error failed => ⟨asked _, failed⟩⟩
  intro signature signed
  exact ⟨asked _, ⟨signature, signed⟩, rfl⟩

theorem signAndSendNativeTransaction_kept [Packages] (foreign : ∀ i, (answers i).Foreign)
    (transaction : Transaction) (fresh : exchanges w.log = []) :
    (signer.signAndSendNativeTransaction abortSignal transaction).Meets answers w
      (fun signature => Promised "Fordefi" signer.isCreate "x-idempotence-id" (.ok signature))
      (fun error => Promised "Fordefi" signer.isCreate "x-idempotence-id" (.error error)) := by
  unfold signAndSendNativeTransaction
  rw [meets_bind]
  refine throwIfAborted_meets ?_ fun w₁ reason silent _ => .of_silent (silent.trans fresh)
  intro w₁ silent₁
  have fresh₁ := silent₁.trans fresh
  rw [meets_bind, meets_ofExcept]
  refine ⟨?_, fun error _ => .of_silent fresh₁⟩
  intro _ _
  rw [meets_bind, meets_ofExcept]
  refine ⟨?_, fun error _ => .of_silent fresh₁⟩
  intro idempotencyKey _
  rw [meets_bind]
  refine prepareTransactionSubmit_meets.mono ?_ fun error w₂ failed =>
    .of_silent (failed.1.silent.trans fresh₁)
  intro prepared w₂ made
  rcases made with ⟨asked, -, carried⟩
  have fresh₂ := asked.silent.trans fresh₁
  rw [meets_bind]
  refine throwIfAborted_meets ?_ fun w₃ reason silent₃ _ => .of_silent (silent₃.trans fresh₂)
  intro w₃ silent₃
  refine broadcastManaged_promised foreign createdId_judges ?_
    (fun created => finishNativeBroadcast_followsUp) (silent₃.trans fresh₂)
  intro request formed
  cases formed
  exact ⟨by simp [isCreate, submitRequest], carried⟩

/-! ## What a create waits for -/

/-- What must succeed before anything is sent. -/
structure Gated (signer : FordefiSigner) (transaction : Transaction)
    (result : Except Thrown Bytes) (w : World Ask Moment Unit) : Prop where
  /-- A transaction that the checks refuse is not sent. -/
  checked : ∀ error, signer.assertNativeAutoTransactionSupported transaction = .error error →
    exchanges w.log = [] ∧ ∃ error', result = .error error'
  /-- When the request signer fails nothing is sent, and its error is thrown as it is. -/
  signed : ∀ payload moment error, (.signRequest payload, moment) ∈ w.log →
    moment.signed = .error error → exchanges w.log = [] ∧ result = .error error

/-- Only the abort signal was looked at. -/
def Looked (w : World Ask Moment Unit) : Prop := ∀ event ∈ w.log, event.1 = .look

omit [Runtime] [Kit] in
theorem Looked.silent (looked : Looked w) : exchanges w.log = [] := by
  refine List.filterMap_eq_nil_iff.mpr fun event member => ?_
  rw [looked event member]

variable {transaction : Transaction}

omit [Runtime] in
/-- A run that ends before the request signer is asked. -/
theorem Gated.of_looked {error : Thrown} (looked : Looked w) :
    Gated signer transaction (.error error) w where
  checked _ _ := ⟨looked.silent, error, rfl⟩
  signed payload moment _ member := by cases looked _ member

omit [Runtime] in
/-- A run in which the checks and the request signer succeeded. -/
theorem Gated.of_passed {result : Except Thrown Bytes}
    (passed : signer.assertNativeAutoTransactionSupported transaction = .ok ())
    (signed : ∀ payload moment, (.signRequest payload, moment) ∈ w.log →
      ∃ signature, moment.signed = .ok signature) : Gated signer transaction result w where
  checked error refused := by
    rw [passed] at refused
    cases refused
  signed payload moment error member failed := by
    rcases signed payload moment member with ⟨signature, succeeded⟩
    rw [succeeded] at failed
    cases failed

omit [Runtime] [Kit] in
/-- The one call of the request signer after a look at the signal. -/
theorem AskedSigner.moment_eq {w' : World Ask Moment Unit} (asked : AskedSigner answers w w')
    (looked : Looked w) {payload : JsString} {moment : Moment}
    (member : (.signRequest payload, moment) ∈ w'.log) : moment = answers (w.asked + 1) := by
  rcases asked with ⟨payload', log⟩
  rw [log] at member
  rcases List.mem_append.mp member with early | late
  · cases looked _ early
  · rcases List.mem_cons.mp late with same | last
    · cases same
    · cases List.mem_singleton.mp last
      rfl

/-- The request signer is not asked again once a request is signed. -/
theorem broadcast_asks [Packages] (signer : FordefiSigner) (abortSignal : Bool)
    (prepared : PreparedSubmit) (idempotencyKey : JsString) :
    (throwIfAborted abortSignal >>= fun _ =>
      broadcastManaged "Fordefi" "Fordefi may have accepted" idempotencyKey id
        (signer.sendTransactionSubmit abortSignal prepared)
        (signer.finishNativeBroadcast abortSignal)).Asks
      fun asked => ∀ payload, asked ≠ .signRequest payload := by
  refine (asks_throwIfAborted (by simp)).bind fun _ => Asks.bind (Asks.mapError ?_) fun _ =>
    (finishNativeBroadcast_asks (by simp) (by simp)).mapError
  exact asks_ofExcept.bind fun _ => (asks_fetchSignerJson (by simp) (by simp)).bind fun _ =>
    asks_ofExcept

theorem signAndSendNativeTransaction_gated [Packages] :
    Gated signer transaction
      ((signer.signAndSendNativeTransaction abortSignal transaction).run answers
        (.start ())).1
      ((signer.signAndSendNativeTransaction abortSignal transaction).run answers
        (.start ())).2 := by
  refine Meets.of_both (P := Gated signer transaction) ?_
  have lookedOn : ∀ {w' : World Ask Moment Unit},
      (∀ event ∈ w'.log, event ∈ (World.start () : World Ask Moment Unit).log ∨ event.1 = .look) →
      Looked w' := fun events event member => (events event member).resolve_left List.not_mem_nil
  have looks : (throwIfAborted abortSignal).Asks (· = .look) := asks_throwIfAborted rfl
  unfold signAndSendNativeTransaction
  rw [meets_bind]
  refine looks.meets.mono ?_ fun error w₁ events => .of_looked (lookedOn events)
  intro _ w₁ events
  have looked := lookedOn events
  rw [meets_bind, meets_ofExcept]
  refine ⟨?_, fun error _ => .of_looked looked⟩
  intro _ passed
  rw [meets_bind, meets_ofExcept]
  refine ⟨?_, fun error _ => .of_looked looked⟩
  intro idempotencyKey _
  rw [meets_bind]
  refine prepareTransactionSubmit_meets.mono ?_ ?_
  · intro prepared w₂ made
    rcases made with ⟨asked, ⟨signature, succeeded⟩, -⟩
    have rest := broadcast_asks signer abortSignal prepared idempotencyKey
    have signed : ∀ {w₃ : World Ask Moment Unit},
        (∀ event ∈ w₃.log, event ∈ w₂.log ∨ ∀ payload, event.1 ≠ .signRequest payload) →
        ∀ payload moment, (.signRequest payload, moment) ∈ w₃.log →
          ∃ signature, moment.signed = .ok signature := by
      intro w₃ events payload moment member
      have early := (events _ member).resolve_right fun apart => apart payload rfl
      rw [asked.moment_eq looked early]
      exact ⟨signature, succeeded⟩
    exact rest.meets.mono (fun _ _ events => .of_passed passed (signed events))
      fun _ _ events => .of_passed passed (signed events)
  · intro error w₂ made
    rcases made with ⟨asked, failed⟩
    have silent := asked.silent.trans looked.silent
    refine ⟨fun _ _ => ⟨silent, error, rfl⟩, ?_⟩
    intro payload moment error' member failed'
    rw [asked.moment_eq looked member, failed] at failed'
    cases failed'
    exact ⟨silent, rfl⟩

end

end FordefiSigner

namespace FordefiSigner

def vaultOneSigner : FordefiSigner where
  address := base58Encode emptyPayer.bytes
  accessToken := "token-1"
  apiBaseUrl := "https://api.fordefi.com"
  chain := "solana_mainnet"
  fee := none
  maxPollAttempts := defaultMaxPollAttempts
  requestTimeoutMs := 30000
  vaultId := "vault-1"
  maxPollAttempts_pos := defaultMaxPollAttempts_pos

attribute [local instance] Runtime.refusing Packages.unsigning

/-- The digest of the preimage of the key of `emptyTransaction`. -/
def vaultOneDigest : Bytes :=
  [86, 171, 10, 189, 9, 241, 228, 6, 232, 58, 34, 1, 143, 139, 84, 227, 182, 214, 119, 13, 8, 70,
    143, 136, 2, 233, 213, 38, 171, 187, 8, 200]

theorem length_vaultOneDigest : vaultOneDigest.length = 32 := rfl

local instance emptyKit : Kit := .linked ⟨vaultOneDigest, length_vaultOneDigest⟩

end FordefiSigner

end Keychain.TypeScript
