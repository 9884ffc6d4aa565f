import Keychain.Python.Crossmint
import Keychain.Python.Fordefi

/-!
What a caller of the Python sending signers is left with once a create was
accepted.

Both signers convert a `SignerError` and nothing else, so the promise that every
later failure is a `BROADCAST_UNCONFIRMED` and that the slot is cleared holds
exactly for the answers on which no step raises another exception.
-/

namespace Keychain.Python

open Prog

/-- After a create that was accepted under a text, a call ends as documented exactly
when the provider's answers do not escape. -/
theorem accepted_concludes_iff [Modules] :
    (∀ (signer : Fordefi.FordefiNativeAutoSigner) (transaction : VersionedTransaction)
      (answers : ℕ → Reply) (slot : PendingTransactionId) (create : Request) (transactionId : Str),
      signer.prepare transaction = .ok create →
      signer.createVerdict transaction (answers 0) = .ok transactionId →
      (Concluded slot "x-idempotence-id" create transactionId
          ((signer.signAndSendTransaction transaction).run answers (.start slot)) ↔
        ¬ signer.Escapes transactionId fun i => answers (i + 1))) ∧
    (∀ (signer : Crossmint.CrossmintSigner) (transaction : VersionedTransaction)
      (answers : ℕ → Reply) (slot : PendingTransactionId) (create : Request) (created : Dict)
      (transactionId : Str),
      signer.prepare transaction = .ok create →
      signer.createVerdict transaction (answers 0) = .ok created →
      Dict.get created "id" = .string transactionId →
      (Concluded slot "x-idempotency-key" create transactionId
          ((signer.signAndSendTransaction transaction).run answers (.start slot)) ↔
        ¬ signer.Escapes signer.maxPollAttempts false created fun i => answers (i + 1))) := by
  refine ⟨?_, ?_⟩
  · intro signer transaction answers slot create transactionId prepared accepted
    exact signer.signAndSendTransaction_concluded_iff transaction answers slot prepared accepted
  · intro signer transaction answers slot create created transactionId prepared accepted named
    exact signer.signAndSendTransaction_concluded_iff transaction answers slot prepared accepted
      named

/-! ## Two polls -/

namespace Fordefi

def acceptedBody : Bytes := utf8 "\x7b\"id\":\"tx-1\"\x7d"

def abortedBody : Bytes := utf8 "\x7b\"state\":\"aborted\"\x7d"

def listStateBody : Bytes := utf8 "\x7b\"state\":[]\x7d"

/-- The create of `emptyTransaction` as it is dumped. -/
def emptyCreateText : String :=
  "\x7b\"vault_id\":\"vault-2\",\"signer_type\":\"api_signer\",\"sign_mode\":\"auto\"," ++
    "\"type\":\"solana_transaction\",\"details\":\x7b" ++
    "\"type\":\"solana_serialized_transaction_message\",\"chain\":\"solana_mainnet\"," ++
    "\"data\":\"" ++ emptyMessageBase64 ++ "\",\"push_mode\":\"auto\"\x7d\x7d"

/-- What `json.loads` makes of the three bodies. -/
def loads (body : Bytes) : Except Exc Value :=
  if body = acceptedBody then .ok (.object [("id", .string "tx-1")])
  else if body = abortedBody then .ok (.object [("state", .string "aborted")])
  else if body = listStateBody then .ok (.object [("state", .array [])])
  else .error (.valueError "Expecting value")

local instance emptyModules : Modules :=
  .linked ⟨[188, 35, 162, 169, 66, 243, 149, 204, 74, 129, 254, 94, 203, 61, 243, 253, 239, 107,
    87, 21, 135, 23, 60, 57, 69, 76, 223, 185, 254, 99, 187, 180], rfl⟩ loads emptyCreateText

def vaultTwoSigner : FordefiNativeAutoSigner where
  accessToken := "token-2"
  vaultId := "vault-2"
  requestSigner _ := .ok "c2lnbmF0dXJl"
  apiBaseUrl := "https://api.fordefi.com"
  publicKey := emptyPayer
  maxPollAttempts := 20
  chain := "solana_mainnet"
  fee := none
  pendingTransactionId := true
  accessToken_ne := by decide
  vaultId_ne := by decide
  maxPollAttempts_pos := by decide
  chain_supported := .inr rfl

/-- The create is accepted as `tx-1`, and every poll is answered with this body. -/
def polledWith (body : Bytes) (i : ℕ) : Reply :=
  if i = 0 then .response 201 (.whole acceptedBody) else .response 200 (.whole body)

def runWith (body : Bytes) : Except Raised Signature × World Request Reply PendingTransactionId :=
  (vaultTwoSigner.signAndSendTransaction emptyTransaction).run (polledWith body) (.start ⟨[]⟩)

/-- The create as it is sent. -/
def emptyCreate : Request where
  method := .post
  url := "https://api.fordefi.com/api/v1/transactions"
  headers := [("Authorization", "Bearer token-2"), ("Content-Type", "application/json"),
    ("x-signature", "c2lnbmF0dXJl"), ("x-timestamp", "1767225600000"),
    ("x-idempotence-id", "bc23a2a9-42f3-45cc-8a81-fe5ecb3df3fd")]
  body := emptyCreateText

theorem prepare_emptyCreate : vaultTwoSigner.prepare emptyTransaction = .ok emptyCreate := by
  rfl

theorem createVerdict_polledWith {body : Bytes} :
    vaultTwoSigner.createVerdict emptyTransaction (polledWith body 0) = .ok "tx-1" := by
  rfl

/-- An aborted transaction is reported as it should be. -/
theorem aborted_concludes :
    vaultTwoSigner.prepare emptyTransaction = .ok emptyCreate ∧
      vaultTwoSigner.createVerdict emptyTransaction (polledWith abortedBody 0) = .ok "tx-1" ∧
      Concluded ⟨[]⟩ "x-idempotence-id" emptyCreate "tx-1" (runWith abortedBody) := by
  refine ⟨prepare_emptyCreate, createVerdict_polledWith, ?_⟩
  rw [runWith, accepted_concludes_iff.1 _ _ _ _ _ _ prepare_emptyCreate
    createVerdict_polledWith]
  have formed : vaultTwoSigner.pollRequest "tx-1" = .ok {
      method := .get
      url := "https://api.fordefi.com/api/v1/transactions/tx-1"
      headers := [("Authorization", "Bearer token-2")]
      body := "" } := by decide +kernel
  have received : ∀ k, receivedJson "Fordefi" (polledWith abortedBody (k + 1)) =
      .ok (.object [("state", .string "aborted")]) := fun _ => rfl
  intro given
  rcases given with unsendable | ⟨k, -, -, trips⟩
  · rcases unsendable with ⟨e, unformed⟩ | ⟨sent, e, -, refused⟩
    · cases formed.symm.trans unformed
    · cases refused
  · rcases trips with ⟨e, thrown⟩ | ⟨response, same, unhashable⟩
    · cases (received k).symm.trans thrown
    · cases (received k).symm.trans same
      rcases unhashable with ⟨items, state⟩ | ⟨members, state⟩ <;> cases state

/-- A poll answered with a list for the state raises a `TypeError`, and `tx-1` stays
in the slot. -/
theorem list_state_escapes :
    vaultTwoSigner.prepare emptyTransaction = .ok emptyCreate ∧
      vaultTwoSigner.createVerdict emptyTransaction (polledWith listStateBody 0) = .ok "tx-1" ∧
      (runWith listStateBody).1 =
        .error (.exception (.typeError "unhashable type: 'list'")) ∧
      (runWith listStateBody).2.state = ⟨["tx-1"]⟩ ∧
      ¬ Concluded ⟨[]⟩ "x-idempotence-id" emptyCreate "tx-1" (runWith listStateBody) := by
  have raised : (runWith listStateBody).1 =
      .error (.exception (.typeError "unhashable type: 'list'")) := by decide +kernel
  refine ⟨prepare_emptyCreate, createVerdict_polledWith, raised, by decide +kernel, ?_⟩
  intro given
  rcases given with ⟨⟨signature, returned⟩ | ⟨error, key, reported, -⟩, -⟩
  · cases raised.symm.trans returned
  · cases raised.symm.trans reported

end Fordefi

end Keychain.Python
