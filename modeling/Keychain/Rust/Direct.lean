import Keychain.Rust.Signing

/-!
The backends whose provider answers a signing request at once: Vault, Para,
Turnkey and Dfns. Each obtains its signature in its own way (a raw signature, an
`r`/`s` pair, a whole returned transaction) and ends in the shared tail.
-/

namespace Keychain.Rust

open Prog

variable {σ : Type}

instance [Crates] : FromSlice Value := ⟨Crates.jsonFromSlice⟩

/-! ## Vault -/

structure VaultSigner where
  apiBaseUrl : String
  token : String
  keyName : String
  publicKey : Pubkey

namespace VaultSigner

/-- Remove a versioned Vault transit prefix (`vault:v1:`, `vault:v2:`, ...). -/
def stripVaultSignaturePrefix (signature : String) : String :=
  if "vault:v".toList.isPrefixOf signature.toList then
    let rest := signature.toList.drop 7
    let version := rest.takeWhile (· ≠ ':')
    match rest.drop version.length with
    | _ :: encoded =>
      if version = [] ∨ !version.all Char.isDigit then signature else String.ofList encoded
    | [] => signature
  else
    signature

section

variable [Crates]

/-- The signature text of a Vault response. -/
def signatureInResponse (response : Response) : Except SignerError Signature := do
  let result : Value ← parseJsonResponse response "Vault API"
  let signatureB64 ← okOr (((result.get "data").bind (·.get "signature")).bind Json.asStr)
    (.remoteApi "No signature in Vault response")
  signatureFromBase64 (stripVaultSignaturePrefix signatureB64)

def signRequest (signer : VaultSigner) (serialized : Bytes) : Except String Request := do
  let body ← Crates.jsonToString
    (.object [("input", .string (Crates.base64Encode serialized))])
  pure {
    method := .post
    url := s!"{signer.apiBaseUrl}/v1/transit/sign/{signer.keyName}"
    headers := [("X-Vault-Token", signer.token)]
    body }

def signBytes (signer : VaultSigner) (serialized : Bytes) : HttpProg σ SignerError Signature :=
  checked (verifyOrReject · signer.publicKey serialized) do
    let response ← (send (signer.signRequest serialized)).mapError fun e =>
      .remoteApi s!"Failed to send request to Vault: {e.detailString}"
    ofExcept (signatureInResponse response)

def signAndSerialize (signer : VaultSigner) :
    HttpProg VersionedTransaction SignerError SignedTransaction := do
  let transaction ← state
  let signature ← signer.signBytes (Crates.serializeMessage transaction.message)
  placeAndSerialize signer.publicKey signature

def signTransaction (signer : VaultSigner) :
    HttpProg VersionedTransaction SignerError SignTransactionResult :=
  signAndClassify signer.signAndSerialize

theorem signTransaction_binds_key {signer : VaultSigner} :
    Binds (some signer.publicKey) signer.signTransaction := by
  refine binds_of_signAndSerialize fun transaction answers => ?_
  rw [signAndSerialize, meets_bind, meets_state]
  refine meets_bind_placeAndSerialize rfl rfl rfl (checked_keeps ?_)
    (checked_yields fun _ _ => verifyOrReject_eq_ok.mp)
  exact send_keeps.mapError.bind fun _ => keeps_ofExcept

end

end VaultSigner

/-! ## Para -/

structure SignRawResponse where
  signature : Option String

/-- `publicKey` is set by `init`. -/
structure ParaSigner where
  apiKey : String
  walletId : String
  apiBaseUrl : String
  publicKey : Option Pubkey

namespace ParaSigner

def initializedPubkey (signer : ParaSigner) : Except SignerError Pubkey :=
  okOr signer.publicKey
    (.configError "ParaSigner is not initialized; call init() before signing")

section

variable [Crates] [FromSlice SignRawResponse]

def signRequest (signer : ParaSigner) (data : Bytes) : Except SignerError Request := do
  let body ← (Crates.jsonToString (.object [("data", .string (Crates.hexEncode data)),
    ("encoding", .string "hex")])).mapError .httpError
  pure {
    method := .post
    url := s!"{signer.apiBaseUrl}/v1/wallets/{signer.walletId}/sign-raw"
    headers := [("X-API-Key", signer.apiKey)]
    body }

def signatureInResponse (response : Response) : Except SignerError Signature := do
  let signResponse : SignRawResponse ← parseJsonResponse response "Para API sign_bytes"
  let hexSig ← okOr signResponse.signature (.signingFailed "Missing signature in response")
  signatureFromHex hexSig

/-- Sign raw bytes using the Para API (hex-encoded). -/
def signBytes (signer : ParaSigner) (data : Bytes) : HttpProg σ SignerError Signature := do
  let publicKey ← ofExcept signer.initializedPubkey
  checked (verifyOrReject · publicKey data) (exchange (signer.signRequest data) signatureInResponse)

def signAndSerialize (signer : ParaSigner) :
    HttpProg VersionedTransaction SignerError SignedTransaction := do
  let transaction ← state
  let signature ← signer.signBytes (Crates.serializeMessage transaction.message)
  match signer.publicKey with
  | some publicKey => placeAndSerialize publicKey signature
  -- `pubkey()` would panic here, but `sign_bytes` has already failed.
  | none => fail (.other "ParaSigner is not initialized; call init() first")

def signTransaction (signer : ParaSigner) :
    HttpProg VersionedTransaction SignerError SignTransactionResult :=
  signAndClassify signer.signAndSerialize

theorem signBytes_keeps {signer : ParaSigner} {data : Bytes} :
    (signer.signBytes data : HttpProg σ SignerError Signature).Keeps :=
  keeps_ofExcept.bind fun _ => checked_keeps exchange_keeps

theorem signBytes_yields {signer : ParaSigner} {publicKey : Pubkey} {data : Bytes}
    (own : signer.publicKey = some publicKey) :
    (signer.signBytes data : HttpProg σ SignerError Signature).Yields fun signature =>
      verifies signature publicKey data = true := by
  intro answers w
  rw [signBytes, initializedPubkey, own]
  exact checked_yields (fun _ _ => verifyOrReject_eq_ok.mp) answers w

theorem signTransaction_binds_key {signer : ParaSigner} :
    Binds signer.publicKey signer.signTransaction := by
  refine binds_of_signAndSerialize fun transaction answers => ?_
  rw [signAndSerialize, meets_bind, meets_state]
  cases own : signer.publicKey with
  | none => simp [signBytes, initializedPubkey, own, okOr]
  | some publicKey =>
    exact meets_bind_placeAndSerialize rfl rfl rfl signBytes_keeps (signBytes_yields own)

end

end ParaSigner

/-! ## Turnkey -/

structure TurnkeySignTransactionResult where
  signedTransaction : String

structure TurnkeyActivityResult where
  signTransactionResult : Option TurnkeySignTransactionResult

structure TurnkeyActivity where
  status : Option String
  result : Option TurnkeyActivityResult

structure TurnkeyActivityResponse where
  activity : TurnkeyActivity

structure TurnkeySigner where
  organizationId : String
  privateKeyId : String
  apiPublicKey : String
  apiSigningKey : Bytes
  publicKey : Pubkey
  apiBaseUrl : String

namespace TurnkeySigner

section

variable [Crates] [FromSlice TurnkeyActivityResponse]

def createStamp (signer : TurnkeySigner) (message : String) : Except SignerError String := do
  let signatureDer := Crates.p256SignDer signer.apiSigningKey (utf8 message)
  let jsonStamp ← (Crates.jsonToString (.object [
    ("publicKey", .string signer.apiPublicKey),
    ("signature", .string (Crates.hexEncode signatureDer)),
    ("scheme", .string "SIGNATURE_SCHEME_TK_API_P256")])).mapError .serializationError
  pure (Crates.base64UrlEncode (utf8 jsonStamp))

def activityRequest (signer : TurnkeySigner) (path body : String) : Except SignerError Request := do
  let stamp ← signer.createStamp body
  pure {
    method := .post
    url := signer.apiBaseUrl ++ path
    headers := [("Content-Type", "application/json"), ("X-Stamp", stamp)]
    body }

/-- Turnkey populates `result` only under `ACTIVITY_STATUS_COMPLETED`. -/
def completedActivity (response : Response) : Except SignerError TurnkeyActivityResponse := do
  let response : TurnkeyActivityResponse ← parseJsonResponse response "Turnkey API"
  let status := response.activity.status.getD "<missing>"
  require (status = "ACTIVITY_STATUS_COMPLETED")
    (.signingFailed s!"Turnkey activity is not completed (status: {status})")
  pure response

def postActivity (signer : TurnkeySigner) (path body : String) :
    HttpProg σ SignerError TurnkeyActivityResponse :=
  exchange (signer.activityRequest path body) completedActivity

def signTransactionBody (signer : TurnkeySigner) (timestampMs : Int) (unsignedWire : Bytes) :
    Except SignerError String :=
  (Crates.jsonToString (.object [
    ("type", .string "ACTIVITY_TYPE_SIGN_TRANSACTION_V2"),
    ("timestampMs", .string (toString timestampMs)),
    ("organizationId", .string signer.organizationId),
    ("parameters", .object [("signWith", .string signer.privateKeyId),
      ("type", .string "TRANSACTION_TYPE_SOLANA"),
      ("unsignedTransaction", .string (Crates.hexEncode unsignedWire))])])).mapError
    .serializationError

/-- This signer's signature out of the transaction Turnkey returned. -/
def returnedSignature (signer : TurnkeySigner) (message : Bytes)
    (response : TurnkeyActivityResponse) : Except SignerError Signature := do
  let signed ← okOr
    ((response.activity.result.bind TurnkeyActivityResult.signTransactionResult).map
      TurnkeySignTransactionResult.signedTransaction)
    (.signingFailed "Invalid response from Turnkey API")
  let signedWire ← (Crates.hexDecode signed).mapError fun e =>
    .serializationError s!"Failed to decode signed transaction returned by Turnkey: {e}"
  extractAndVerifyReturnedSignature signedWire signer.publicKey message

/-- Sign via the `sign_transaction` activity, submitting the full wire transaction. -/
def signWire (signer : TurnkeySigner) (transaction : VersionedTransaction) :
    HttpProg σ SignerError Signature := do
  let unsignedWire ← ofExcept (serializeWireTransaction transaction)
  let body ← ofExcept (signer.signTransactionBody (Crates.utcMillis (← elapsed)) unsignedWire)
  let response ← signer.postActivity "/public/v1/submit/sign_transaction" body
  ofExcept (signer.returnedSignature (Crates.serializeMessage transaction.message) response)

def signAndSerialize (signer : TurnkeySigner) :
    HttpProg VersionedTransaction SignerError SignedTransaction := do
  let transaction ← state
  let signature ← signer.signWire transaction
  placeAndSerialize signer.publicKey signature

def signTransaction (signer : TurnkeySigner) :
    HttpProg VersionedTransaction SignerError SignTransactionResult :=
  signAndClassify signer.signAndSerialize

theorem signTransaction_binds_key {signer : TurnkeySigner} :
    Binds (some signer.publicKey) signer.signTransaction := by
  refine binds_of_signAndSerialize fun transaction answers => ?_
  rw [signAndSerialize, meets_bind, meets_state]
  refine meets_bind_placeAndSerialize rfl rfl rfl ?_ ?_
  · exact keeps_ofExcept.bind fun _ => keeps_elapsed.bind fun _ => keeps_ofExcept.bind fun _ =>
      exchange_keeps.bind fun _ => keeps_ofExcept
  · refine yields_bind fun _ => yields_bind fun _ => yields_bind fun _ => yields_bind fun _ => ?_
    refine yields_ofExcept fun signature returned => ?_
    rcases bind_eq_ok.mp returned with ⟨signed, -, returned⟩
    rcases bind_eq_ok.mp returned with ⟨signedWire, -, returned⟩
    exact verifies_of_extractAndVerifyReturnedSignature returned

end

end TurnkeySigner

/-! ## Dfns -/

structure DfnsUserActionInit where
  challenge : String
  challengeIdentifier : String
  /-- The ids under `allowCredentials.key`. -/
  allowCredentials : List String

structure DfnsUserAction where
  userAction : String

structure DfnsSignatureComponents where
  r : String
  s : String

structure DfnsGenerateSignatureResponse where
  status : String
  signature : Option DfnsSignatureComponents

/-- `publicKey` and `keyId` are set by `init`. -/
structure DfnsSigner where
  authToken : String
  credId : String
  privateKeyPem : String
  keyId : String
  publicKey : Option Pubkey
  apiBaseUrl : String

namespace DfnsSigner

def initializedPubkey (signer : DfnsSigner) : Except SignerError Pubkey :=
  okOr signer.publicKey
    (.configError "DfnsSigner is not initialized; call init() before signing")

/-- `strip_prefix("0x")`, when it is there. -/
def stripHexPrefix (text : String) : String :=
  match text.toList with
  | '0' :: 'x' :: digits => String.ofList digits
  | _ => text

section

variable [Crates] [FromSlice DfnsUserActionInit] [FromSlice DfnsUserAction]
  [FromSlice DfnsGenerateSignatureResponse]

/-- Sign challenge data with an Ed25519, ECDSA/P256 or RSA private key in PEM form. -/
def signChallenge (privateKeyPem : String) (data : Bytes) : Except SignerError Bytes :=
  match Crates.ed25519FromPkcs8Pem privateKeyPem with
  | some key => .ok (Crates.ed25519Sign key data).bytes
  | none =>
    match Crates.p256FromPkcs8Pem privateKeyPem, Crates.p256FromSec1Pem privateKeyPem,
        Crates.rsaFromPkcs8Pem privateKeyPem with
    | some key, _, _ => .ok (Crates.p256SignDer key data)
    | none, some key, _ => .ok (Crates.p256SignDer key data)
    | none, none, some sign => .ok (sign data)
    | none, none, none => .error (.invalidPrivateKey
        "Unsupported PEM key type (expected Ed25519, P256, or RSA)")

/-- A JSON post under the signer's bearer token. -/
def authPost (signer : DfnsSigner) (path : String) (body : Value) : Except SignerError Request := do
  let body ← (Crates.jsonToString body).mapError .httpError
  pure {
    method := .post
    url := signer.apiBaseUrl ++ path
    headers := [("Authorization", s!"Bearer {signer.authToken}"),
      ("Content-Type", "application/json")]
    body }

/-- The signed answer to a challenge. -/
def answerChallenge (signer : DfnsSigner) (challenge : DfnsUserActionInit) :
    Except SignerError Request := do
  require (signer.credId ∈ challenge.allowCredentials)
    (.configError s!"Credential {signer.credId} not in allowed credentials")
  let clientData := utf8 (Crates.showValue (.object [
    ("type", .string "key.get"), ("challenge", .string challenge.challenge)]))
  let signature ← signChallenge signer.privateKeyPem clientData
  signer.authPost "/auth/action" (.object [
    ("challengeIdentifier", .string challenge.challengeIdentifier),
    ("firstFactor", .object [("kind", .string "Key"), ("credentialAssertion", .object [
      ("credId", .string signer.credId),
      ("clientData", .string (Crates.base64UrlEncode clientData)),
      ("signature", .string (Crates.base64UrlEncode signature))])])])

/-- The user action signing flow for a mutating API request. -/
def signUserAction (signer : DfnsSigner) (httpMethod httpPath body : String) :
    HttpProg σ SignerError String := do
  let challenge : DfnsUserActionInit ← exchange
    (signer.authPost "/auth/action/init" (.object [
      ("userActionPayload", .string body), ("userActionHttpMethod", .string httpMethod),
      ("userActionHttpPath", .string httpPath), ("userActionServerKind", .string "Api")]))
    (parseJsonResponse · "Dfns auth/action/init")
  let action : DfnsUserAction ← exchange (signer.answerChallenge challenge)
    (parseJsonResponse · "Dfns auth/action")
  pure action.userAction

def combineSignature (r s : String) : Except SignerError Signature := do
  let rBytes ← (Crates.hexDecode (stripHexPrefix r)).mapError fun e =>
    .serializationError s!"Failed to decode signature r: {e}"
  let sBytes ← (Crates.hexDecode (stripHexPrefix s)).mapError fun e =>
    .serializationError s!"Failed to decode signature s: {e}"
  signatureFromBytes (rBytes ++ sBytes)

def signatureInResponse (response : Response) : Except SignerError Signature := do
  let sigResponse : DfnsGenerateSignatureResponse ←
    parseJsonResponse response "Dfns generate_signature"
  require (sigResponse.status ≠ "Failed") (.signingFailed "Dfns signing failed")
  require (sigResponse.status = "Signed") (.signingFailed
    s!"Unexpected signature status: {sigResponse.status} (may require policy approval)")
  let components ← okOr sigResponse.signature
    (.signingFailed "Signature components missing from response")
  combineSignature components.r components.s

/-- Send a signature request to the Dfns Keys API. -/
def sendSignatureRequest (signer : DfnsSigner) (requestBody : Value) :
    HttpProg σ SignerError Signature := do
  let httpPath := s!"/keys/{encodeUriComponent signer.keyId}/signatures"
  let bodyJson ← ofExcept ((Crates.jsonToString requestBody).mapError .serializationError)
  let userAction ← signer.signUserAction "POST" httpPath bodyJson
  exchange
    (.ok {
      method := .post
      url := signer.apiBaseUrl ++ httpPath
      headers := [("Authorization", s!"Bearer {signer.authToken}"),
        ("Content-Type", "application/json"), ("x-dfns-useraction", userAction)]
      body := bodyJson })
    signatureInResponse

def signTransactionBytes (signer : DfnsSigner) (transaction : VersionedTransaction) :
    HttpProg σ SignerError Signature := do
  let txBytes ← ofExcept (serializeWireTransaction transaction)
  let publicKey ← ofExcept signer.initializedPubkey
  checked (verifyOrReject · publicKey (Crates.serializeMessage transaction.message))
    (signer.sendSignatureRequest (.object [("kind", .string "Transaction"),
      ("transaction", .string ("0x" ++ Crates.hexEncode txBytes)),
      ("blockchainKind", .string "Solana")]))

def signAndSerialize (signer : DfnsSigner) :
    HttpProg VersionedTransaction SignerError SignedTransaction := do
  let transaction ← state
  let signature ← signer.signTransactionBytes transaction
  let publicKey ← ofExcept signer.initializedPubkey
  placeAndSerialize publicKey signature

def signTransaction (signer : DfnsSigner) :
    HttpProg VersionedTransaction SignerError SignTransactionResult :=
  signAndClassify signer.signAndSerialize

theorem sendSignatureRequest_keeps {signer : DfnsSigner} {requestBody : Value} :
    (signer.sendSignatureRequest requestBody : HttpProg σ SignerError Signature).Keeps := by
  have action : ∀ httpMethod httpPath body,
      (signer.signUserAction httpMethod httpPath body : HttpProg σ SignerError String).Keeps :=
    fun _ _ _ => exchange_keeps.bind fun _ => exchange_keeps.bind fun _ => keeps_pure
  exact keeps_ofExcept.bind fun _ => (action _ _ _).bind fun _ => exchange_keeps

theorem signTransaction_binds_key {signer : DfnsSigner} :
    Binds signer.publicKey signer.signTransaction := by
  refine binds_of_signAndSerialize fun transaction answers => ?_
  rw [signAndSerialize, meets_bind, meets_state]
  cases own : signer.publicKey with
  | none =>
    have initialized : ∃ e, signer.initializedPubkey = .error e := by
      simp [initializedPubkey, own, okOr]
    rcases initialized with ⟨e, uninitialized⟩
    rw [uninitialized, meets_bind]
    refine meets_of_run (fun _ _ _ => trivial) fun _ _ _ => trivial
  | some publicKey =>
    have initialized : signer.initializedPubkey = .ok publicKey := by
      simp [initializedPubkey, own, okOr]
    rw [initialized]
    refine meets_bind_placeAndSerialize rfl rfl rfl ?_ ?_
    · rw [signTransactionBytes, initialized]
      exact keeps_ofExcept.bind fun _ => keeps_ofExcept.bind fun _ =>
        checked_keeps sendSignatureRequest_keeps
    · refine yields_bind fun txBytes => ?_
      rw [initialized]
      exact checked_yields fun _ _ => verifyOrReject_eq_ok.mp

end

end DfnsSigner

end Keychain.Rust
