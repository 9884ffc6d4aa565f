import Keychain.Rust.Fordefi.NativeAuto
import Keychain.Rust.Fordefi.NativeManual
import Keychain.Rust.InPlace

/-!
What the authenticator of a request covers.

Turnkey, Fireblocks, Fordefi, CDP, Openfort and Privy check a stamp, a token or a
signature over the request. `Authentic` states each provider's check on the request
as it arrives. A signer passes it with every request of every run: the url, the method
and the body that were authenticated are those that are sent. Fordefi's polls and Privy's
calls without a context carry a fixed credential only, and the signatures that a caller of
Privy gives in advance are passed on unseen.
-/

namespace Keychain.Rust

open Prog WalletJwt

variable {σ : Type}

/-- The request carries the header. -/
def Carries (request : Request) (name value : String) : Prop :=
  (name, value) ∈ request.headers

section

variable [Crates]

/-- The digest of a text in hex. -/
def hexDigest (text : String) : String := Crates.hexEncode (Crates.sha256 (utf8 text)).1

/-! ## The checks -/

/-- The stamp holds a P-256 signature over the body. -/
def TurnkeySigner.Authentic (signer : TurnkeySigner) (request : Request) : Prop :=
  ∃ stamp, Carries request "X-Stamp" (Crates.base64UrlEncode (utf8 stamp)) ∧
    Crates.jsonToString (.object [
      ("publicKey", .string signer.apiPublicKey),
      ("signature", .string
        (Crates.hexEncode (Crates.p256SignDer signer.apiSigningKey (utf8 request.body)))),
      ("scheme", .string "SIGNATURE_SCHEME_TK_API_P256")]) = .ok stamp

/-- The token names the uri and the digest of the body. -/
def FireblocksSigner.Authentic (signer : FireblocksSigner) (request : Request) : Prop :=
  ∃ uri nonce issuedAt expires token,
    request.url = signer.apiBaseUrl ++ uri ∧
    Carries request "Authorization" s!"Bearer {token}" ∧
    Crates.jwtEncode signer.signingKey (.object [
      ("uri", .string uri), ("nonce", .string nonce), ("iat", issuedAt), ("nbf", issuedAt),
      ("exp", expires), ("sub", .string signer.apiKey),
      ("bodyHash", .string (hexDigest request.body))]) = some token

/-- Every request carries the access token, and a create is signed over its path, its time and
its body. -/
def Fordefi.FordefiCore.Authentic (core : FordefiCore) (request : Request) : Prop :=
  Carries request "Authorization" s!"Bearer {core.accessToken}" ∧
  (request.method = .post → ∃ timestamp signature,
    request.url = core.apiBaseUrl ++ path ∧
    Carries request "x-timestamp" (toString (timestamp : ℕ)) ∧
    Carries request "x-signature" signature ∧
    core.requestSigner (utf8 s!"{path}|{timestamp}|{request.body}") = .ok signature)

variable [TokenCrates]

/-- The wallet token names the method, the host, the path and the digest of the canonical text
of the value that the body is the text of. -/
def WalletAuthentic (key : TokenCrates.EncodingKey) (lifetimeSecs : Int)
    (apiBaseUrl apiHost path : String) (request : Request) : Prop :=
  ∃ body text now jti token,
    request.method = .post ∧ request.url = apiBaseUrl ++ path ∧
    Crates.jsonToString body = .ok request.body ∧ canonicalizeJson body = some text ∧
    Carries request "x-wallet-auth" token ∧
    TokenCrates.encode walletHeader
      (walletClaims (jwtUri apiHost "POST" path) now lifetimeSecs jti (some (hexDigest text)))
      key = some token

/-- Both CDP tokens name the path. -/
def CdpSigner.Authentic (signer : CdpSigner) (request : Request) : Prop :=
  ∃ key apiKey path now nonce token,
    walletKey signer.walletSecret = .ok key ∧
    WalletAuthentic key cdpWalletJwtLifetimeSecs signer.apiBaseUrl signer.apiHost path request ∧
    authKey signer.apiKeySecret = .ok apiKey ∧
    Carries request "Authorization" s!"Bearer {token}" ∧
    TokenCrates.encode (authHeader signer.apiKeyId nonce)
      (authClaims signer.apiKeyId (jwtUri signer.apiHost "POST" path) now) apiKey = some token

def OpenfortSigner.Authentic (signer : OpenfortSigner) (request : Request) : Prop :=
  Carries request "Authorization" s!"Bearer {signer.secretKey}" ∧
  ∃ key, walletSecretEncodingKey signer.walletSecret = .ok key ∧
    WalletAuthentic key walletJwtLifetimeSecs signer.apiBaseUrl signer.apiHost signer.signPath
      request

/-- The signatures made over the payload: one with each private key, then one by each function
of the caller. -/
def PrivyAuthorizationContext.Makes (context : PrivyAuthorizationContext) (payload : Bytes)
    (made : List String) : Prop :=
  ∃ ofKeys ofFns, made = ofKeys ++ ofFns ∧
    List.Forall₂ (fun privateKey signature => ∃ key,
      PrivyAuthorization.parseP256PrivateKey privateKey = .ok key ∧
        signature = Crates.base64Encode (Crates.p256SignDer key payload))
      context.authorizationPrivateKeys ofKeys ∧
    List.Forall₂ (fun signFn signature => signFn payload = .ok signature) context.signFns ofFns

/-- Every request carries the app's credentials. Under a context it also carries, behind the
signatures given in advance, those made over its canonical payload, which holds its method, its
url, its body and the headers Privy reads. -/
def PrivySigner.Authentic (signer : PrivySigner) (request : Request) : Prop :=
  Carries request "Authorization" signer.getPrivyAuthHeader ∧
  Carries request "privy-app-id" signer.appId ∧
  ∀ config, signer.authorizationContext = some config → ∃ body expiry context,
    Crates.jsonToString body = .ok request.body ∧ request.method = .post ∧
    PrivyAuthorization.contextFor config (PrivyAuthorization.authorizationInput signer.appId
      "POST" request.url body expiry) = .ok context ∧
    ∀ given, context = some given → ∃ payload made,
      formatPrivyAuthorizationSignaturePayload (PrivyAuthorization.authorizationInput
        signer.appId "POST" request.url body expiry) = .ok payload ∧
      (∀ time, expiry = some time → Carries request "privy-request-expiry" time) ∧
      Carries request "privy-authorization-signature"
        (",".intercalate (given.signatures ++ made)) ∧
      given.signatures ++ made ≠ [] ∧ given.Makes payload made

/-! ## What is sent -/

section

variable {T Q A : Type} {R : Request → Prop}

omit [TokenCrates] in
theorem asks_send {request : Except String Request}
    (allowed : ∀ sent, request = .ok sent → R sent) :
    (send request : HttpProg σ SignerError Response).Asks R := by
  intro answers w
  rw [send_run]
  cases formed : sendable request with
  | error e => exact ⟨[], by simp, by simp⟩
  | ok sent =>
    have sends := allowed sent (sendable_eq_ok.mp formed).1
    exact ⟨[(sent, answers w.asked)], rfl, by simpa using sends⟩

omit [Crates] [TokenCrates] in
theorem asks_checked {R : Q → Prop} {check : Signature → Except SignerError Unit}
    {sign : Prog Q A σ SignerError Signature} (asks : sign.Asks R) :
    (checked check sign).Asks R :=
  asks.bind fun _ => asks_ofExcept.bind fun _ => asks_pure

omit [TokenCrates] in
/-- The shared tail sends nothing. -/
theorem asks_bind_placeAndSerialize {R : Q → Prop} {publicKey : Pubkey}
    {sign : Prog Q A VersionedTransaction SignerError Signature} (asks : sign.Asks R) :
    (sign >>= placeAndSerialize publicKey).Asks R :=
  asks.bind fun _ => asks_state.bind fun _ => asks_ofExcept.bind fun _ =>
    asks_modifyState.bind fun _ => asks_ofExcept.bind fun _ => asks_pure

omit [Crates] [TokenCrates] in
theorem asks_signAndClassify {R : Q → Prop}
    {signAndSerialize : Prog Q A VersionedTransaction SignerError SignedTransaction}
    (asks : signAndSerialize.Asks R) : (signAndClassify signAndSerialize).Asks R :=
  asks.bind fun _ => asks_state.bind fun _ => asks_pure

end

omit [TokenCrates] in
theorem TurnkeySigner.asks_authentic [FromSlice TurnkeyActivityResponse] {signer : TurnkeySigner} :
    signer.signTransaction.Asks signer.Authentic := by
  refine asks_signAndClassify (asks_state.bind fun transaction => asks_bind_placeAndSerialize ?_)
  refine asks_ofExcept.bind fun _ => asks_elapsed.bind fun _ => asks_ofExcept.bind fun body => ?_
  refine (asks_exchange ?_).bind fun _ => asks_ofExcept
  intro sent formed
  rcases bind_eq_ok.mp formed with ⟨stamp, stamped, formed⟩
  cases formed
  rcases bind_eq_ok.mp stamped with ⟨json, printed, stamped⟩
  cases stamped
  exact ⟨json, by simp [Carries], mapError_eq_ok.mp printed⟩

omit [TokenCrates] in
/-- A token is made for the uri and the body of the request that is sent with it. -/
theorem FireblocksSigner.asks_createAuthToken_bind {T : Type} {signer : FireblocksSigner}
    {uri body : String} {next : String → HttpProg σ SignerError T}
    (carries : ∀ token, (∀ request : Request, request.url = signer.apiBaseUrl ++ uri →
      request.body = body → Carries request "Authorization" s!"Bearer {token}" →
        signer.Authentic request) → (next token).Asks signer.Authentic) :
    (signer.createAuthToken uri body >>= next).Asks signer.Authentic := by
  rw [createAuthToken, bind_assoc]
  refine asks_elapsed.bind fun moment => asks_ofExcept_bind fun token made => ?_
  refine carries token fun request url sent carried => ?_
  have encoded := okOr_eq_ok.mp made
  rw [← sent] at encoded
  exact ⟨uri, _, _, _, token, url, carried, encoded⟩

omit [TokenCrates] in
theorem FireblocksSigner.asks_authentic [FromSlice Fireblocks.CreateTransactionResponse]
    [FromSlice Fireblocks.TransactionResponse] {signer : FireblocksSigner} :
    signer.signTransaction.Asks signer.Authentic := by
  have created : ∀ request, (signer.createTransaction request :
      HttpProg VersionedTransaction SignerError _).Asks signer.Authentic := by
    intro request
    refine asks_ofExcept.bind fun body => asks_createAuthToken_bind fun token authentic => ?_
    refine asks_exchange fun sent formed => ?_
    cases formed
    exact authentic _ rfl rfl (by simp [Carries, createRequest])
  have polled : ∀ txId mode, (signer.pollForCompletion txId mode :
      HttpProg VersionedTransaction SignerError _).Asks signer.Authentic := by
    intro txId mode
    refine Asks.retry ((asks_createAuthToken_bind fun token authentic => ?_).bind fun _ =>
      asks_ofExcept) _
    refine asks_exchange fun sent formed => ?_
    cases formed
    exact authentic _ rfl rfl (by simp [Carries, pollRequest])
  have raw : ∀ message, (signer.signRawBytes message :
      HttpProg VersionedTransaction SignerError _).Asks signer.Authentic := by
    intro message
    exact asks_ofExcept.bind fun _ => asks_checked <| (created _).bind fun _ =>
      (polled _ _).bind fun _ => asks_ofExcept
  have programCall : ∀ transaction message, (signer.signProgramCall transaction message :
      HttpProg VersionedTransaction SignerError _).Asks signer.Authentic := by
    intro transaction message
    exact asks_ofExcept.bind fun _ => asks_ofExcept.bind fun _ =>
      asks_checked <| (created _).bind fun _ => (polled _ _).bind fun _ => asks_ofExcept
  refine asks_signAndClassify (asks_ofExcept.bind fun publicKey => asks_state.bind fun _ => ?_)
  dsimp only
  split
  · exact asks_bind_placeAndSerialize (programCall _ _)
  · exact asks_bind_placeAndSerialize (raw _)

/-! ## Fordefi -/

namespace Fordefi

omit [TokenCrates] in
theorem FordefiCore.asks_submitRequest [FromSlice CreateTransactionResponse] {core : FordefiCore}
    {request : Value} {idempotenceId : Option String} {broadcastManaged : Bool} :
    (core.submitRequest request idempotenceId broadcastManaged :
      HttpProg σ SignerError String).Asks core.Authentic := by
  refine asks_ofExcept_bind fun create formed => (asks_send ?_).mapError.bind fun _ => asks_ofExcept
  intro sent same
  cases same
  rcases bind_eq_ok.mp formed with ⟨body, -, formed⟩
  rcases bind_eq_ok.mp formed with ⟨millis, -, formed⟩
  rcases bind_eq_ok.mp formed with ⟨signature, signed, formed⟩
  cases formed
  refine ⟨by simp [Carries], fun _ => ?_⟩
  exact ⟨_, signature, rfl, by simp [Carries], by simp [Carries], signed⟩

omit [TokenCrates] in
/-- Polls are no creates, and carry the access token. -/
theorem FordefiCore.asks_pollForResult [FromSlice TransactionStatusResponse] {core : FordefiCore}
    {txId : String} {pushable : Bool} :
    (core.pollForResult txId pushable :
      HttpProg σ SignerError TransactionStatusResponse).Asks core.Authentic := by
  refine Asks.retry (asks_exchange fun sent formed => ?_) _
  cases formed
  refine ⟨by simp [Carries, FordefiCore.pollRequest], fun posted => ?_⟩
  cases posted

variable [FromSlice CreateTransactionResponse] [FromSlice TransactionStatusResponse]

omit [TokenCrates] in
theorem FordefiBlackBoxSigner.asks_authentic {signer : FordefiBlackBoxSigner} :
    signer.signTransaction.Asks signer.core.Authentic := by
  refine asks_signAndClassify (asks_state.bind fun _ => asks_bind_placeAndSerialize ?_)
  exact asks_checked <| FordefiCore.asks_submitRequest.bind fun _ =>
    FordefiCore.asks_pollForResult.bind fun _ => asks_ofExcept

omit [TokenCrates] in
theorem FordefiNativeManualSigner.asks_authentic {signer : FordefiNativeManualSigner} :
    signer.modifyAndSignTransaction.Asks signer.core.Authentic := by
  refine asks_signAndClassify (asks_state.bind fun _ => asks_ofExcept.bind fun _ => ?_)
  refine FordefiCore.asks_submitRequest.bind fun _ => ?_
  refine FordefiCore.asks_pollForResult.bind fun _ => ?_
  exact asks_ofExcept.bind fun _ => asks_ofExcept.bind fun _ => asks_ofExcept.bind fun _ =>
    asks_modifyState.bind fun _ => asks_pure

omit [TokenCrates] in
theorem FordefiNativeAutoSigner.asks_authentic {signer : FordefiNativeAutoSigner}
    {transaction : VersionedTransaction} :
    (signer.signAndSendTransaction transaction).Asks signer.core.Authentic := by
  refine asks_ofExcept.bind fun _ => FordefiCore.asks_submitRequest.bind fun _ => ?_
  refine asks_modifyState.bind fun _ => Asks.finallyModify (Asks.mapError ?_)
  exact FordefiCore.asks_pollForResult.bind fun _ => asks_ofExcept

end Fordefi

/-! ## Wallet tokens -/

/-- The digest of a wallet token is that of the canonical text. -/
theorem walletAuthentic_of_createWalletJwt {provider : String} {key : TokenCrates.EncodingKey}
    {now lifetimeSecs : Int} {jti apiBaseUrl apiHost path token : String} {request : Request}
    (body : JsonValue) (hashed : ¬ Unhashed body.1)
    (issued : createWalletJwt provider key now jti apiHost "POST" path (some body.1) lifetimeSecs =
      .ok token)
    (posted : request.method = .post) (url : request.url = apiBaseUrl ++ path)
    (printed : Crates.jsonToString body.1 = .ok request.body)
    (carried : Carries request "x-wallet-auth" token) :
    WalletAuthentic key lifetimeSecs apiBaseUrl apiHost path request := by
  rcases createWalletJwt_eq_ok.mp issued with ⟨reqHash, computed, encoded⟩
  rw [computeReqHash_eq hashed] at computed
  cases computed
  exact ⟨body.1, _, now, jti, token, posted, url, printed,
    (canonicalizeJson_canonical TokenCrates.mapKind body body).1, carried, encoded⟩

omit [Crates] in
/-- The members of the body are distinct, in whichever order the map has them. -/
theorem CdpSigner.signTransactionBody_eq {signer : CdpSigner} {base64Tx : String} :
    ∃ members : List (String × String), members ≠ [] ∧ (members.map Prod.fst).Nodup ∧
      signer.signTransactionBody base64Tx =
        .object (members.map fun member => (member.1, .string member.2)) := by
  rw [signTransactionBody]
  cases signer.network with
  | none => exact ⟨[("transaction", base64Tx)], by simp, by simp, rfl⟩
  | some network =>
    have apart : ("transaction" : String) ≠ "network" := by simp
    simp only [MapKind.insert, if_neg apart]
    split
    · exact ⟨[("network", network), ("transaction", base64Tx)], by simp, by simp, rfl⟩
    · exact ⟨[("transaction", base64Tx), ("network", network)], by simp, by simp, rfl⟩

omit [Crates] [TokenCrates] in
/-- A body of texts is one that serializes and has a digest. -/
theorem hashed_of_texts {members : List (String × String)} (filled : members ≠ [])
    (distinct : (members.map Prod.fst).Nodup) :
    let body : Value := .object (members.map fun member => (member.1, .string member.2))
    Json.WellFormed Number.Printed body ∧ ¬ Unhashed body := by
  refine ⟨.object ?_ ?_, ?_⟩
  · simpa [List.map_map, Function.comp_def] using distinct
  · intro m member
    rcases List.mem_map.mp member with ⟨text, -, rfl⟩
    exact .string text.2
  · cases members with
    | nil => exact absurd rfl filled
    | cons member members => exact id

theorem CdpSigner.asks_authentic [FromSlice CdpSignTransactionResponse] {signer : CdpSigner} :
    signer.signTransaction.Asks signer.Authentic := by
  refine asks_signAndClassify (asks_state.bind fun _ => asks_bind_placeAndSerialize ?_)
  refine asks_ofExcept.bind fun _ => asks_ofExcept.bind fun wire => ?_
  refine Asks.bind ?_ fun _ => asks_ofExcept
  refine asks_elapsed.bind fun moment => asks_ofExcept_bind fun headers built => ?_
  refine (asks_send fun sent formed => ?_).mapError.bind fun _ => asks_ofExcept
  rcases bind_eq_ok.mp formed with ⟨text, printed, formed⟩
  cases formed
  rcases bind_eq_ok.mp built with ⟨authToken, authIssued, built⟩
  rcases bind_eq_ok.mp built with ⟨walletToken, walletIssued, built⟩
  rcases bind_eq_ok.mp built with ⟨_, -, built⟩
  rcases bind_eq_ok.mp built with ⟨_, -, built⟩
  cases built
  rcases createAuthJwt_eq_ok.mp authIssued with ⟨apiKey, parsed, encoded⟩
  rcases bind_eq_ok.mp walletIssued with ⟨key, walletParsed, walletIssued⟩
  refine ⟨key, apiKey, signer.signTransactionPath, _, _, authToken, walletParsed, ?_, parsed,
    by simp [Carries], encoded⟩
  rcases signer.signTransactionBody_eq with ⟨members, filled, distinct, body⟩
  have texts := hashed_of_texts filled distinct
  rw [← body] at texts
  exact walletAuthentic_of_createWalletJwt ⟨_, texts.1⟩ texts.2 walletIssued rfl rfl printed
    (by simp [Carries])

theorem OpenfortSigner.asks_authentic [FromSlice OpenfortSignResponse] {signer : OpenfortSigner} :
    signer.signTransaction.Asks signer.Authentic := by
  refine asks_signAndClassify (asks_ofExcept.bind fun _ => asks_state.bind fun transaction => ?_)
  refine asks_bind_placeAndSerialize (asks_ofExcept.bind fun _ => asks_checked (Asks.bind ?_
    fun _ => asks_ofExcept))
  refine asks_elapsed.bind fun moment => asks_ofExcept_bind fun headers built => ?_
  refine (asks_send fun sent formed => ?_).mapError.bind fun _ => asks_ofExcept
  rcases bind_eq_ok.mp formed with ⟨text, printed, formed⟩
  cases formed
  rcases bind_eq_ok.mp built with ⟨key, parsed, built⟩
  rcases bind_eq_ok.mp built with ⟨walletToken, issued, built⟩
  rcases bind_eq_ok.mp built with ⟨_, -, built⟩
  rcases bind_eq_ok.mp built with ⟨_, -, built⟩
  cases built
  let data := "0x" ++ Crates.hexEncode (Crates.serializeMessage transaction.message)
  have filled : [("data", data)] ≠ [] := by simp
  have texts := hashed_of_texts filled (by simp)
  refine ⟨by simp [Carries], key, parsed, ?_⟩
  exact walletAuthentic_of_createWalletJwt ⟨_, texts.1⟩ texts.2 issued rfl rfl printed
    (by simp [Carries])

/-! ## Privy -/

omit [Crates] [TokenCrates] in
/-- What is collected comes from the items, one result for each of them. -/
theorem forall₂_of_mapM {α β ε : Type} {f : α → Except ε β} {items : List α} {results : List β}
    (collected : items.mapM f = .ok results) :
    List.Forall₂ (fun item result => f item = .ok result) items results := by
  induction items generalizing results with
  | nil =>
    cases collected
    exact .nil
  | cons item items ih =>
    rw [List.mapM_cons] at collected
    rcases bind_eq_ok.mp collected with ⟨first, made, collected⟩
    rcases bind_eq_ok.mp collected with ⟨rest, others, same⟩
    cases same
    exact .cons made (ih others)

theorem PrivyAuthorization.makes_of_generate {request : PrivyAuthorizationRequestInput}
    {context : PrivyAuthorizationContext} {signatures : List String}
    (generated : generatePrivyAuthorizationSignatures request context = .ok signatures) :
    ∃ payload made, formatPrivyAuthorizationSignaturePayload request = .ok payload ∧
      signatures = context.signatures ++ made ∧ context.Makes payload made := by
  rcases bind_eq_ok.mp generated with ⟨payload, formatted, generated⟩
  rcases bind_eq_ok.mp generated with ⟨ofKeys, keys, generated⟩
  rcases bind_eq_ok.mp generated with ⟨ofFns, fns, same⟩
  cases same
  refine ⟨payload, ofKeys ++ ofFns, formatted, List.append_assoc _ _ _, ofKeys, ofFns, rfl, ?_,
    forall₂_of_mapM fns⟩
  refine (forall₂_of_mapM keys).imp fun privateKey signature made => ?_
  rcases bind_eq_ok.mp made with ⟨key, parsed, same⟩
  cases same
  exact ⟨key, parsed, rfl⟩

theorem PrivySigner.asks_authentic [FromSlice PrivySignTransactionResponse]
    {signer : PrivySigner} : signer.signTransaction.Asks signer.Authentic := by
  refine asks_signAndClassify (asks_ofExcept.bind fun _ => asks_state.bind fun transaction => ?_)
  refine asks_bind_placeAndSerialize (asks_ofExcept.bind fun wire => Asks.bind ?_
    fun _ => asks_ofExcept)
  refine asks_ofExcept_bind fun authorization prepared => ?_
  refine (asks_send fun sent formed => ?_).bind fun _ => asks_ofExcept
  rcases bind_eq_ok.mp formed with ⟨text, printed, formed⟩
  cases formed
  refine ⟨by simp [Carries, rpcHeaders], by simp [Carries, rpcHeaders], ?_⟩
  intro config configured
  rw [configured, PrivyAuthorization.preparePrivyAuthorizationHeaders] at prepared
  rcases bind_eq_ok.mp prepared with ⟨expiry, timed, prepared⟩
  rcases bind_eq_ok.mp prepared with ⟨context, provided, prepared⟩
  refine ⟨_, expiry, context, printed, rfl, provided, ?_⟩
  intro given same
  subst same
  rcases bind_eq_ok.mp prepared with ⟨signatures, generated, prepared⟩
  rcases bind_eq_ok.mp prepared with ⟨_, some_, prepared⟩
  cases prepared
  rcases PrivyAuthorization.makes_of_generate generated with ⟨payload, made, formatted, rfl, makes⟩
  refine ⟨payload, made, formatted, ?_, by simp [Carries, rpcHeaders], require_eq_ok.mp some_,
    makes⟩
  intro time same
  subst same
  simp [Carries, rpcHeaders]

end

end Keychain.Rust
