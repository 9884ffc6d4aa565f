import Keychain.Go.Crossmint
import Keychain.Go.Fordefi

/-!
The promise of `Keychain.Broadcast` for the sending signers in Go.

A create is read by what the signer itself can read of its response: the id of a body that
arrives whole under a status that is no error. Both plans are `Candid`, so every run is `Sound`.
-/

namespace Keychain.Go

open Prog

section

variable [Packages]

/-- A status other than 0 is the provider's. -/
theorem exists_response_of_status {provider : String} {reply : Reply}
    (answered : (sendRequest provider reply).status ≠ 0) :
    ∃ body, reply = .response (sendRequest provider reply).status body := by
  cases reply with
  | failed e =>
    rw [sendRequest] at answered
    cases known : Packages.clientError e <;> simp [known] at answered
  | response status body =>
    rcases sendRequest_response provider status body with ⟨-, same⟩ | ⟨-, _, same⟩
    · exact ⟨body, by rw [same]⟩
    · rw [same] at answered
      exact absurd rfl answered

/-- What a rejected create says is the provider's answer. -/
theorem rejects_of_isRejection (provider : String) {reply : Reply}
    (rejected : Reply.isRejection (sendRequest provider reply).status) : reply.Rejects := by
  have answered : (sendRequest provider reply).status ≠ 0 := by
    intro silent
    rw [silent] at rejected
    exact absurd rejected (by decide)
  obtain ⟨body, same⟩ := exists_response_of_status answered
  exact ⟨_, body, same, rejected⟩

/-- A classified failure is definite only for a create that the provider has rejected. -/
theorem rejects_of_unconfirmedUnlessRejected {provider : String} {reply : Reply}
    {providerTxID idempotencyKey : String} {err : Error}
    (plain : (unconfirmedUnlessRejected (sendRequest provider reply).status providerTxID
      idempotencyKey err).unconfirmed? = none) : reply.Rejects := by
  refine rejects_of_isRejection provider ?_
  by_contra unresolved
  rw [unconfirmed?_of_not_isRejection (Bool.eq_false_iff.mpr unresolved)] at plain
  cases plain

omit [Packages] in
/-- A classified failure under a status that is no error names the id it is given. -/
theorem named_of_unconfirmedUnlessRejected {status : ℕ} {providerTxID idempotencyKey id : String}
    {err : Error} (fine : ¬ 400 ≤ status) (named : Error.present providerTxID = some id) :
    ∃ outcome, (unconfirmedUnlessRejected status providerTxID idempotencyKey err).unconfirmed? =
      some outcome ∧ outcome.providerTxId = some id := by
  have unresolved : Reply.isRejection status = false := by
    rw [Bool.eq_false_iff, ne_eq, Reply.isRejection_iff]
    exact fun rejected => fine rejected.1
  exact ⟨_, unconfirmed?_of_not_isRejection unresolved, named⟩

end

/-! ## Crossmint -/

namespace Crossmint.Signer

variable [Packages]
variable [Unmarshal String] [Unmarshal MessageObject] [Unmarshal RawObject]
variable [Unmarshal TransactionResponse] [Unmarshal IDObject]

/-- The id of an accepted create, as far as the signer can read one. -/
def acceptedId (reply : Reply) : Option String :=
  let sent := sendRequest "crossmint" reply
  if sent.err.isSome ∨ 400 ≤ sent.status then none
  else
    match parseResponseWithRequiredField sent.status sent.body "create_transaction" with
    | .ok created => Error.present created.id
    | .error _ => Error.present (transactionIDInBody sent.body)

/-- How a conversation with Crossmint is read. -/
def reading (signer : Signer) : Broadcast.Reading Error where
  isCreate request :=
    request.method == .post &&
      (signer.buildWalletsAPIURL ["transactions"]).toOption == some request.url
  acceptedId := acceptedId
  unconfirmed? := Error.unconfirmed?

variable {signer : Signer} {tx : VersionedTransaction} {reply : Reply}

omit [Unmarshal String] [Unmarshal MessageObject] [Unmarshal RawObject]
  [Unmarshal TransactionResponse] [Unmarshal IDObject] in
theorem newRequest_eq_ok {method : Method} {url key : String} {body : Option Value}
    {request : Request} (formed : signer.newRequest method url body key = .ok request) :
    request.method = method ∧ request.url = url := by
  obtain ⟨encoded, -, formed⟩ := bind_eq_ok.mp formed
  obtain ⟨_, -, formed⟩ := bind_eq_ok.mp formed
  cases formed
  exact ⟨rfl, rfl⟩

omit [Unmarshal String] [Unmarshal MessageObject] [Unmarshal RawObject]
  [Unmarshal TransactionResponse] [Unmarshal IDObject] in
/-- Further segments make a longer URL. -/
theorem buildWalletsAPIURL_longer {segments more : List String} {url longer : String}
    (nonempty : more ≠ []) (short : signer.buildWalletsAPIURL segments = .ok url)
    (long : signer.buildWalletsAPIURL (segments ++ more) = .ok longer) : url ≠ longer := by
  obtain ⟨base, parsed, short⟩ := bind_eq_ok.mp short
  obtain ⟨_, valid, short⟩ := bind_eq_ok.mp short
  obtain ⟨base', parsed', long⟩ := bind_eq_ok.mp long
  obtain ⟨_, valid', long⟩ := bind_eq_ok.mp long
  cases short
  cases long
  rw [List.foldl_append]
  have grows : ∀ (segments : List String) (url : String), url.length + segments.length ≤
      (segments.foldl (fun url segment =>
        url ++ "/" ++ encodeURIComponent segment) url).length := by
    intro segments
    induction segments with
    | nil => exact fun url => Nat.le_refl _
    | cons segment segments ih =>
      intro url
      have slash : "/".length = 1 := rfl
      have rest := ih (url ++ "/" ++ encodeURIComponent segment)
      simp only [String.length_append, slash, List.foldl_cons, List.length_cons] at rest ⊢
      omega
  intro same
  have lengths := congrArg String.length same
  have grown := grows more (segments.foldl (fun url segment => url ++ "/" ++
    encodeURIComponent segment) (trimEndMatches '/' signer.apiBaseURL ++ "/2025-06-09/wallets/" ++
      encodeURIComponent signer.walletLocator))
  have further := List.length_pos_iff.mpr nonempty
  omega

theorem prepare_isCreate {request : Request}
    (prepared : signer.prepare tx = .ok request) : signer.reading.isCreate request := by
  obtain ⟨⟨messageData, serialized⟩, -, prepared⟩ := bind_eq_ok.mp prepared
  obtain ⟨url, located, formed⟩ := bind_eq_ok.mp prepared
  obtain ⟨method, same⟩ := newRequest_eq_ok formed
  simp [reading, method, same, located, Except.toOption]

/-- An approval goes to a longer path than the create. -/
theorem isCreate_of_isFollowUp {request : Request} (followUp : signer.IsFollowUp request) :
    signer.reading.isCreate request = false := by
  rcases followUp with ⟨id, formed⟩ | ⟨response, formed⟩
  · obtain ⟨url, -, formed⟩ := bind_eq_ok.mp formed
    simp [reading, (newRequest_eq_ok formed).1]
  · obtain ⟨signingKey, -, formed⟩ := bind_eq_ok.mp formed
    obtain ⟨pending, -, formed⟩ := bind_eq_ok.mp formed
    obtain ⟨message, -, formed⟩ := bind_eq_ok.mp formed
    obtain ⟨messageBytes, -, formed⟩ := bind_eq_ok.mp formed
    obtain ⟨url, located, formed⟩ := bind_eq_ok.mp formed
    obtain ⟨-, same⟩ := newRequest_eq_ok formed
    change signer.buildWalletsAPIURL (["transactions"] ++ [response.id, "approvals"]) = _ at located
    cases collection : signer.buildWalletsAPIURL ["transactions"] with
    | error err => simp [reading, collection, Except.toOption]
    | ok short =>
      have apart := buildWalletsAPIURL_longer (by simp) collection located
      simp [reading, collection, Except.toOption, same, apart]

theorem rejects_of_createVerdict {err : Error} (judged : signer.createVerdict tx reply = .error err)
    (plain : err.unconfirmed? = none) : reply.Rejects := by
  unfold createVerdict createOutcome at judged
  split at judged
  · cases judged
    exact rejects_of_unconfirmedUnlessRejected plain
  · obtain ⟨e, -, rfl⟩ := mapError_eq_error.mp judged
    exact rejects_of_unconfirmedUnlessRejected plain

/-- A response that names an id is reported under it. -/
theorem named_of_createVerdict {err : Error} {id : String}
    (judged : signer.createVerdict tx reply = .error err) (accepted : acceptedId reply = some id) :
    ∃ outcome, err.unconfirmed? = some outcome ∧ outcome.providerTxId = some id := by
  unfold acceptedId at accepted
  simp only at accepted
  split at accepted
  · cases accepted
  · next fine =>
    rw [not_or] at fine
    have whole : (sendRequest "crossmint" reply).err = none :=
      Option.not_isSome_iff_eq_none.mp fine.1
    simp only [createVerdict, createOutcome, whole] at judged
    obtain ⟨e, unparsed, rfl⟩ := mapError_eq_error.mp judged
    rw [unparsed] at accepted
    exact named_of_unconfirmedUnlessRejected fine.2 accepted

theorem acceptedId_of_createVerdict {created : TransactionResponse}
    (judged : signer.createVerdict tx reply = .ok created) :
    acceptedId reply = Error.present created.id := by
  unfold createVerdict createOutcome at judged
  split at judged
  · cases judged
  · next whole =>
    have parsed := mapError_eq_ok.mp judged
    have fine : ¬ 400 ≤ (sendRequest "crossmint" reply).status := by
      intro failed
      rw [parseResponseWithRequiredField, if_pos failed] at parsed
      cases parsed
    simp [acceptedId, whole, fine, parsed]

variable (signer tx) in
theorem managedPlan_candid (ctx : Context) :
    (signer.managedPlan tx ctx).Candid signer.reading fun created => Error.present created.id where
  create _ prepared := prepare_isCreate prepared
  followUp _ _ followUp := isCreate_of_isFollowUp followUp
  refused _ _ judged plain := rejects_of_createVerdict judged plain
  recovered _ _ _ judged accepted := named_of_createVerdict judged accepted
  accepted _ _ judged := acceptedId_of_createVerdict judged
  finish created answers err failed := by
    obtain ⟨e, -, rfl⟩ := mapError_eq_error.mp failed
    exact ⟨_, unconfirmed?_afterCreate, fun id named => named⟩

end Crossmint.Signer

/-! ## Fordefi -/

namespace Fordefi.NativeAutoSigner

variable [Packages] [Unmarshal IDObject]

/-- The id of an accepted submit, as far as the signer can read one. -/
def acceptedId (reply : Reply) : Option String :=
  let sent := sendRequest "fordefi" reply
  if sent.err.isSome ∨ 400 ≤ sent.status then none
  else
    match (unmarshal sent.body : Except String IDObject) with
    | .ok created =>
      if Reply.isSuccess sent.status ∧ isBlank created.id = false then some created.id
      else Error.present (transactionIDInBody sent.body)
    | .error _ => none

/-- How a conversation with Fordefi is read. -/
def reading (signer : NativeAutoSigner) : Broadcast.Reading Error where
  isCreate request :=
    request.method == .post &&
      request.url == signer.core.apiBaseURL ++ SignerCore.transactionsPath
  acceptedId := acceptedId
  unconfirmed? := Error.unconfirmed?

variable {signer : NativeAutoSigner} {tx : VersionedTransaction} {reply : Reply}

theorem prepare_isCreate {request : Request}
    (prepared : signer.prepare tx = .ok request) : signer.reading.isCreate request := by
  obtain ⟨_, -, prepared⟩ := bind_eq_ok.mp prepared
  obtain ⟨bytes, -, prepared⟩ := bind_eq_ok.mp prepared
  obtain ⟨body, -, prepared⟩ := bind_eq_ok.mp prepared
  obtain ⟨signature, -, prepared⟩ := bind_eq_ok.mp prepared
  obtain ⟨built, formed, prepared⟩ := bind_eq_ok.mp prepared
  cases newRequest_eq_ok formed
  cases prepared
  simp [reading]

theorem rejects_of_submitVerdict {err : Error} (judged : signer.submitVerdict tx reply = .error err)
    (plain : err.unconfirmed? = none) : reply.Rejects := by
  have classified : ∀ id e, SignerCore.classify (signer.idempotencyKey tx) true
      (sendRequest "fordefi" reply).status id e = err → reply.Rejects := by
    intro id e same
    subst same
    exact rejects_of_unconfirmedUnlessRejected plain
  unfold submitVerdict SignerCore.submitOutcome at judged
  split at judged
  · exact classified _ _ (Except.error.inj judged)
  split at judged
  · split at judged
    · exact classified _ _ (Except.error.inj judged)
    split at judged
    · exact classified _ _ (Except.error.inj judged)
    · cases judged
  · exact classified _ _ (Except.error.inj judged)

/-- A response that names an id is reported under it. -/
theorem named_of_submitVerdict {err : Error} {id : String}
    (judged : signer.submitVerdict tx reply = .error err) (accepted : acceptedId reply = some id) :
    ∃ outcome, err.unconfirmed? = some outcome ∧ outcome.providerTxId = some id := by
  unfold acceptedId at accepted
  simp only at accepted
  split at accepted
  · cases accepted
  next fine =>
  rw [not_or] at fine
  have whole : (sendRequest "fordefi" reply).err = none := Option.not_isSome_iff_eq_none.mp fine.1
  have classified : ∀ e, SignerCore.classify (signer.idempotencyKey tx) true
      (sendRequest "fordefi" reply).status
        (transactionIDInBody (sendRequest "fordefi" reply).body) e = err →
      Error.present (transactionIDInBody (sendRequest "fordefi" reply).body) = some id →
      ∃ outcome, err.unconfirmed? = some outcome ∧ outcome.providerTxId = some id := by
    intro e same named
    subst same
    exact named_of_unconfirmedUnlessRejected fine.2 named
  simp only [submitVerdict, SignerCore.submitOutcome, whole] at judged
  cases parsed : (unmarshal (sendRequest "fordefi" reply).body : Except String IDObject) with
  | error e => simp [parsed] at accepted
  | ok created =>
    simp only [parsed] at judged accepted
    by_cases success : Reply.isSuccess (sendRequest "fordefi" reply).status
    · rw [if_pos success] at judged
      cases blank : isBlank created.id with
      | false => simp [blank] at judged
      | true =>
        simp only [blank, if_true] at judged
        rw [if_neg (by simp [blank])] at accepted
        exact classified _ (Except.error.inj judged) accepted
    · rw [if_neg success] at judged
      rw [if_neg (fun both => success both.1)] at accepted
      exact classified _ (Except.error.inj judged) accepted

theorem acceptedId_of_submitVerdict {txID : String}
    (judged : signer.submitVerdict tx reply = .ok txID) :
    acceptedId reply = some txID ∧ Error.present txID = some txID := by
  unfold submitVerdict SignerCore.submitOutcome at judged
  split at judged
  · cases judged
  next whole =>
  split at judged
  · next success =>
    split at judged
    · cases judged
    next created parsed =>
    split at judged
    · cases judged
    next visible =>
    cases judged
    have fine : ¬ 400 ≤ (sendRequest "fordefi" reply).status := by
      simp only [Reply.isSuccess, Bool.and_eq_true, decide_eq_true_eq] at success
      omega
    refine ⟨by simp [acceptedId, whole, fine, parsed, success, visible], ?_⟩
    refine Error.present_of_ne fun empty => visible ?_
    rw [empty]
    rfl
  · cases judged

variable [Unmarshal TransactionStatusResponse]

variable (signer tx) in
theorem nativePlan_candid (ctx : Context) :
    (signer.nativePlan tx ctx).Candid signer.reading Error.present where
  create _ prepared := prepare_isCreate prepared
  followUp _ _ formed := by simp [reading, newRequest_eq_ok formed]
  refused _ _ judged plain := rejects_of_submitVerdict judged plain
  recovered _ _ _ judged accepted := named_of_submitVerdict judged accepted
  accepted _ _ judged := by
    obtain ⟨accepted, named⟩ := acceptedId_of_submitVerdict judged
    exact accepted.trans named.symm
  finish txID answers err failed := by
    obtain ⟨e, -, rfl⟩ := mapError_eq_error.mp failed
    exact ⟨_, rfl, fun id named => named⟩

end Fordefi.NativeAutoSigner

/-! ## The promise -/

end Keychain.Go
