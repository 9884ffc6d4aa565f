import Keychain.Rust.Privy
import Keychain.Rust.Wallets

/-!
`privy/mod.rs` and the headers of `privy/authorization.rs`: the Privy signer.

A wallet call is authorized by signatures over the canonical payload of the request,
made by exported keys, by functions of the caller or in advance.
-/

namespace Keychain.Rust

open Prog

variable {σ : Type}

/-! ## Lossy texts -/

/-- The length of the UTF-8 sequence that a byte begins and the range of its second byte. -/
def sequenceShape (lead : UInt8) : Option (ℕ × UInt8 × UInt8) :=
  if 0xC2 ≤ lead && lead ≤ 0xDF then some (2, 0x80, 0xBF)
  else if lead = 0xE0 then some (3, 0xA0, 0xBF)
  else if lead = 0xED then some (3, 0x80, 0x9F)
  else if 0xE1 ≤ lead && lead ≤ 0xEF then some (3, 0x80, 0xBF)
  else if lead = 0xF0 then some (4, 0x90, 0xBF)
  else if 0xF1 ≤ lead && lead ≤ 0xF3 then some (4, 0x80, 0xBF)
  else if lead = 0xF4 then some (4, 0x80, 0x8F)
  else none

/-- The bytes that stand for themselves, out of the sequence they begin: its length when it
is whole, and the length of the part that is there. -/
def sequenceAt (lead : UInt8) (rest : Bytes) : Bool × ℕ :=
  match sequenceShape lead, rest with
  | some (width, low, high), second :: more =>
    if low ≤ second && second ≤ high then
      let present := 2 +
        ((more.take (width - 2)).takeWhile fun byte => 0x80 ≤ byte && byte ≤ 0xBF).length
      (present = width, present)
    else
      (false, 1)
  | _, _ => (false, 1)

/-- The characters of `String::from_utf8_lossy`, as far as the fuel goes. The maximal part of
a broken sequence becomes one U+FFFD. -/
def lossyChars : ℕ → Bytes → List Char
  | 0, _ => []
  | _, [] => []
  | fuel + 1, lead :: rest =>
    if lead < 0x80 then
      Char.ofNat lead.toNat :: lossyChars fuel rest
    else
      let found := sequenceAt lead rest
      let remaining := (lead :: rest).drop found.2
      if found.1 then
        ((strFromUtf8 ((lead :: rest).take found.2)).getD "").toList ++ lossyChars fuel remaining
      else
        Char.ofNat 0xFFFD :: lossyChars fuel remaining

/-- `String::from_utf8_lossy`. -/
def fromUtf8Lossy (bytes : Bytes) : String := String.ofList (lossyChars bytes.length bytes)

example : fromUtf8Lossy [0x61, 0xC3, 0xA9, 0xE2, 0x82, 0x62, 0xFF] =
    "aé\uFFFDb\uFFFD" := by decide +kernel

/-! ## Authorization -/

structure PrivyAuthorizationContext where
  authorizationPrivateKeys : List String
  signatures : List String
  signFns : List (Bytes → Except SignerError String)

inductive PrivyAuthorizationConfig where
  | context (context : PrivyAuthorizationContext)
  | provider (provider :
      PrivyAuthorizationRequestInput → Except SignerError (Option PrivyAuthorizationContext))

structure PrivyAuthorizationHeaders where
  authorizationSignature : Option String := none
  requestExpiry : Option String := none

namespace PrivyAuthorization

section

variable [Crates] [TokenCrates]

def parseP256PrivateKey (authorizationPrivateKey : String) : Except SignerError Bytes := do
  let normalized := trimSpace <|
    ((stripPrefix "wallet-auth:" authorizationPrivateKey).orElse fun _ =>
      stripPrefix "wallet-api:" authorizationPrivateKey).getD authorizationPrivateKey
  if normalized.toList.tails.any ("-----BEGIN".toList.isPrefixOf ·) then
    okOr (Crates.p256FromPkcs8Pem (normalized.replace "\\n" "\n"))
      (.invalidPrivateKey "Invalid Privy authorization private key")
  else
    let compact := String.ofList (normalized.toList.filter fun c => !isWhitespace c)
    let der ← (Crates.base64Decode compact).mapError fun _ =>
      .invalidPrivateKey "Invalid Privy authorization private key encoding"
    okOr (TokenCrates.p256FromPkcs8Der der)
      (.invalidPrivateKey "Invalid Privy authorization private key")

def generatePrivyAuthorizationSignature (authorizationPrivateKey : String) (payload : Bytes) :
    Except SignerError String := do
  let signingKey ← parseP256PrivateKey authorizationPrivateKey
  pure (Crates.base64Encode (Crates.p256SignDer signingKey payload))

/-- The signatures given in advance, those of the keys and those of the functions. -/
def generatePrivyAuthorizationSignatures (request : PrivyAuthorizationRequestInput)
    (context : PrivyAuthorizationContext) : Except SignerError (List String) := do
  let payload ← formatPrivyAuthorizationSignaturePayload request
  let ofKeys ← context.authorizationPrivateKeys.mapM fun privateKey =>
    generatePrivyAuthorizationSignature privateKey payload
  let ofFns ← context.signFns.mapM fun signFn => signFn payload
  pure (context.signatures ++ ofKeys ++ ofFns)

omit [TokenCrates] in
/-- The sum is one of `u64`. -/
def requestExpiry (requestExpiryMs : Option ℕ) : Except SignerError (Option String) :=
  match requestExpiryMs with
  | none => .ok none
  | some expiryMs => do
    let now ← Crates.unixMillis.mapError fun e =>
      .signingFailed s!"Failed to compute Privy request expiry: {e}"
    pure (some (toString ((now % UInt64.size + expiryMs) % UInt64.size)))

/-- The request as it is authorized. The headers are the entries of a `BTreeMap`. -/
def authorizationInput (appId method url : String) (body : Value)
    (requestExpiry : Option String) : PrivyAuthorizationRequestInput where
  version := 1
  method
  url
  body
  headers := ("privy-app-id", appId) ::
    requestExpiry.toList.map fun expiry => ("privy-request-expiry", expiry)

omit [Crates] [TokenCrates] in
def contextFor (config : PrivyAuthorizationConfig) (request : PrivyAuthorizationRequestInput) :
    Except SignerError (Option PrivyAuthorizationContext) :=
  match config with
  | .context context => .ok (some context)
  | .provider provider => provider request

def preparePrivyAuthorizationHeaders (appId : String) (config : Option PrivyAuthorizationConfig)
    (method url : String) (body : Value) (requestExpiryMs : Option ℕ) :
    Except SignerError PrivyAuthorizationHeaders :=
  match config with
  | none => .ok {}
  | some config => do
    let requestExpiry ← requestExpiry requestExpiryMs
    let request := authorizationInput appId method url body requestExpiry
    match ← contextFor config request with
    | none => pure {}
    | some context => do
      let signatures ← generatePrivyAuthorizationSignatures request context
      require (signatures ≠ []) (.configError
        "authorization_context must include authorization_private_keys, signatures, or sign_fns")
      pure ⟨some (",".intercalate signatures), requestExpiry⟩

end

end PrivyAuthorization

/-! ## The signer -/

structure PrivySignTransactionResponse where
  signedTransaction : String

/-- `publicKey` is set by `init`. -/
structure PrivySigner where
  appId : String
  appSecret : String
  walletId : String
  apiBaseUrl : String
  publicKey : Option Pubkey
  authorizationContext : Option PrivyAuthorizationConfig
  authorizationRequestExpiryMs : Option ℕ

namespace PrivySigner

open PrivyAuthorization

def initializedPubkey (signer : PrivySigner) : Except SignerError Pubkey :=
  okOr signer.publicKey
    (.configError "PrivySigner is not initialized; call init() before signing")

def rpcUrl (signer : PrivySigner) : String :=
  s!"{signer.apiBaseUrl}/wallets/{encodeUriComponent signer.walletId}/rpc"

section

variable [Crates] [TokenCrates]

omit [TokenCrates] in
/-- The Basic Auth header value. -/
def getPrivyAuthHeader (signer : PrivySigner) : String :=
  "Basic " ++ Crates.base64Encode (utf8 (signer.appId ++ ":" ++ signer.appSecret))

omit [TokenCrates] in
/-- The headers of a wallet call. -/
def rpcHeaders (signer : PrivySigner) (authorization : PrivyAuthorizationHeaders) :
    List (String × String) :=
  [("Authorization", signer.getPrivyAuthHeader), ("privy-app-id", signer.appId),
    ("Content-Type", "application/json")] ++
    (authorization.authorizationSignature.toList.map fun signature =>
      ("privy-authorization-signature", signature)) ++
    (authorization.requestExpiry.toList.map fun expiry => ("privy-request-expiry", expiry))

/-- The text of a wallet call's response. -/
def rpcText (response : Response) : Except SignerError String := do
  if !Reply.isSuccess response.status then
    throw (extractApiError response "Privy API rpc")
  let body ← readBodyCapped response.body
  pure (fromUtf8Lossy body)

/-- POST a wallet call with Privy's auth and authorization headers. -/
def postRpc (signer : PrivySigner) (request : Value) : HttpProg σ SignerError String := do
  let authorization ← ofExcept (preparePrivyAuthorizationHeaders signer.appId
    signer.authorizationContext "POST" signer.rpcUrl request signer.authorizationRequestExpiryMs)
  let response ← send do
    let text ← Crates.jsonToString request
    pure {
      method := .post
      url := signer.rpcUrl
      headers := signer.rpcHeaders authorization
      body := text }
  ofExcept (rpcText response)

omit [TokenCrates] in
def signTransactionRequest (unsignedWire : Bytes) : Value :=
  .object [("method", .string "signTransaction"), ("chain_type", .string "solana"),
    ("params", .object [("transaction", .string (Crates.base64Encode unsignedWire)),
      ("encoding", .string "base64")])]

variable [FromSlice PrivySignTransactionResponse]

omit [TokenCrates] in
/-- This signer's signature out of the transaction Privy returned. -/
def returnedSignature (publicKey : Pubkey) (message : Bytes) (responseText : String) :
    Except SignerError Signature := do
  let signResponse : PrivySignTransactionResponse ←
    (fromSlice (utf8 responseText)).mapError .serializationError
  let signedWire ← (Crates.base64Decode signResponse.signedTransaction).mapError fun _ =>
    .serializationError "Failed to decode signed transaction returned by Privy"
  extractAndVerifyReturnedSignature signedWire publicKey message

/-- Obtain the signature from Privy's `signTransaction`. -/
def signWire (signer : PrivySigner) (publicKey : Pubkey) (transaction : VersionedTransaction) :
    HttpProg σ SignerError Signature := do
  let unsignedWire ← ofExcept (serializeWireTransaction transaction)
  let responseText ← signer.postRpc (signTransactionRequest unsignedWire)
  ofExcept (returnedSignature publicKey (Crates.serializeMessage transaction.message) responseText)

def signAndSerialize (signer : PrivySigner) :
    HttpProg VersionedTransaction SignerError SignedTransaction := do
  let publicKey ← ofExcept signer.initializedPubkey
  let transaction ← state
  let signature ← signer.signWire publicKey transaction
  placeAndSerialize publicKey signature

def signTransaction (signer : PrivySigner) :
    HttpProg VersionedTransaction SignerError SignTransactionResult :=
  signAndClassify signer.signAndSerialize

theorem signWire_keeps {signer : PrivySigner} {publicKey : Pubkey}
    {transaction : VersionedTransaction} :
    (signer.signWire publicKey transaction : HttpProg σ SignerError Signature).Keeps := by
  have post : ∀ request, (signer.postRpc request : HttpProg σ SignerError String).Keeps :=
    fun _ => keeps_ofExcept.bind fun _ => send_keeps.bind fun _ => keeps_ofExcept
  exact keeps_ofExcept.bind fun _ => (post _).bind fun _ => keeps_ofExcept

theorem signWire_yields {signer : PrivySigner} {publicKey : Pubkey}
    {transaction : VersionedTransaction} :
    (signer.signWire publicKey transaction : HttpProg σ SignerError Signature).Yields
      fun signature => verifies signature publicKey
        (Crates.serializeMessage transaction.message) = true := by
  refine yields_bind fun _ => yields_bind fun responseText => ?_
  refine yields_ofExcept fun signature returned => ?_
  rcases bind_eq_ok.mp returned with ⟨signResponse, -, returned⟩
  rcases bind_eq_ok.mp returned with ⟨signedWire, -, extracted⟩
  exact verifies_of_extractAndVerifyReturnedSignature extracted

theorem signTransaction_binds_key {signer : PrivySigner} :
    Binds signer.publicKey signer.signTransaction := by
  refine binds_of_signAndSerialize fun transaction answers => ?_
  rw [signAndSerialize, meets_bind]
  cases own : signer.publicKey with
  | none => simp [initializedPubkey, own, okOr]
  | some publicKey =>
    have initialized : signer.initializedPubkey = .ok publicKey := by
      simp [initializedPubkey, own, okOr]
    rw [initialized, meets_ofExcept_ok, meets_bind, meets_state]
    exact meets_bind_placeAndSerialize rfl rfl rfl signWire_keeps signWire_yields

end

end PrivySigner

end Keychain.Rust
