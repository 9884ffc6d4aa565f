import Keychain.Lib.Polling
import Keychain.Rust.Crossmint.Driver

/-!
`poll_transaction` as a client of `Lib/Polling.lean`: what it sends about each response,
which request it sends once, and what it returns.
-/

namespace Keychain.Rust.Crossmint.CrossmintSigner

open Prog

variable [Crates] {σ : Type} {signer : CrossmintSigner}

/-- The response the loop reads from a reply. -/
def responseOf (reply : Reply) : Option TransactionResponse :=
  (received reply >>= parseResponseWithRequiredField TransactionResponse.fromValue "id"
    "get_transaction").toOption

/-- The request approves the response: it carries our signature over the decoded message of
the first pending entry that names our locator. -/
def Approves (signer : CrossmintSigner) (response : TransactionResponse) (request : Request) :
    Prop :=
  ∃ signingKey signerLocator entry message signed,
    signer.signingKey = some signingKey ∧ signer.signer = some signerLocator ∧
    ownEntry signerLocator response = some entry ∧ entry.message = some message ∧
    Crates.bs58Decode message = .ok signed ∧
    signer.approvalPost response.id signerLocator
      (Crates.bs58Encode (Crates.ed25519Sign signingKey signed).bytes) = .ok request

/-- What the loop may send about a response: a poll, or the approval it awaits. -/
def MaySend (signer : CrossmintSigner) (response : TransactionResponse) (request : Request) :
    Prop :=
  response.status ≠ "success" ∧ response.status ≠ "failed" ∧
    (request.method = .get ∧ signer.getRequest response.id = .ok request ∨
      request.method = .post ∧ response.status = "awaiting-approval" ∧
        signer.Approves response request)

def polling (signer : CrossmintSigner) : Polling Request Reply TransactionResponse where
  done response := response.status = "success"
  sends := signer.MaySend
  once request := request.method = .post
  read := responseOf

theorem method_of_getRequest {id : String} {request : Request}
    (built : signer.getRequest id = .ok request) : request.method = .get := by
  obtain ⟨url, -, rest⟩ := bind_eq_ok.mp built
  cases rest
  rfl

theorem method_of_approvalPost {id signerLocator signature : String} {request : Request}
    (built : signer.approvalPost id signerLocator signature = .ok request) :
    request.method = .post := by
  obtain ⟨url, -, built⟩ := bind_eq_ok.mp built
  obtain ⟨body, -, built⟩ := bind_eq_ok.mp built
  cases built
  rfl

theorem approves_of_approvalRequest {response : TransactionResponse} {request : Request}
    (built : signer.approvalRequest response = .ok request) : signer.Approves response request := by
  rw [approvalRequest_eq] at built
  cases owed : signer.approval response with
  | error e =>
    rw [owed] at built
    cases built
  | ok followUp =>
    rw [owed] at built
    unfold approval at owed
    split at owed
    · next signingKey signerLocator key locator =>
      obtain ⟨entry, own, owed⟩ := bind_eq_ok.mp owed
      obtain ⟨message, pending, owed⟩ := bind_eq_ok.mp owed
      obtain ⟨signed, decoded, owed⟩ := bind_eq_ok.mp owed
      cases owed
      exact ⟨signingKey, signerLocator, entry, message, signed, key, locator, okOr_eq_ok.mp own,
        okOr_eq_ok.mp pending, mapError_eq_ok.mp decoded, built⟩
    · cases owed

/-- The name of the operation only shows in errors. -/
theorem toOption_parseResponse {context context' : String} {response : Response} :
    (parseResponseWithRequiredField TransactionResponse.fromValue "id" context
        response).toOption =
      (parseResponseWithRequiredField TransactionResponse.fromValue "id" context'
        response).toOption := by
  unfold parseResponseWithRequiredField
  cases readJsonValue response with
  | error e => rfl
  | ok value =>
    change (valueToTyped _ _ _ _ _).toOption = (valueToTyped _ _ _ _ _).toOption
    unfold valueToTyped
    split
    · rfl
    split
    · cases extractErrorMessage value <;> rfl
    · cases TransactionResponse.fromValue value <;> rfl

/-- An exchange sends its request if it can be formed, and reads the reply. -/
theorem tells_exchange {spent spent' : Bool} {response : TransactionResponse}
    {request : Except SignerError Request} {context : String}
    (sends : ∀ sent, request = .ok sent → signer.MaySend response sent ∧
      (spent && decide (sent.method = .post)) = false ∧
      (spent || decide (sent.method = .post)) = spent') :
    signer.polling.Tells spent spent' response
      (exchange request (parseResponseWithRequiredField TransactionResponse.fromValue "id"
        context) : HttpProg σ SignerError TransactionResponse) := by
  intro answers w
  rw [exchange_run]
  cases formed : exchanged request with
  | error e => exact .inl ⟨⟨e, rfl⟩, rfl⟩
  | ok sent =>
    obtain ⟨allowed, fresh, flag⟩ := sends sent (exchanged_eq_ok.mp formed).1
    refine .inr ⟨sent, allowed, fresh, flag, rfl, ?_⟩
    change (received (answers w.asked) >>= _).toOption = (received (answers w.asked) >>= _).toOption
    cases received (answers w.asked) with
    | error e => rfl
    | ok response => exact toOption_parseResponse

/-- The loop is a polling client with as many follow-ups as it has attempts. -/
theorem pollLoop_follows {attempts : ℕ} {approvalSubmitted : Bool}
    {response : TransactionResponse} :
    signer.polling.Follows attempts approvalSubmitted response
      (signer.pollLoop attempts approvalSubmitted response :
        HttpProg σ SignerError TransactionResponse) := by
  induction attempts generalizing approvalSubmitted response with
  | zero => exact Polling.follows_ofExcept fun final => pollExhausted_eq_ok.mp
  | succ attempts ih =>
    unfold pollLoop
    split
    · next success => exact Polling.follows_pure success
    split
    · exact Polling.follows_fail
    split
    · next success failed awaited =>
      obtain ⟨awaiting, rfl⟩ := awaited
      rw [handleAwaitingApproval_eq]
      refine .bind (tells_exchange fun sent built => ?_) fun _ => ih
      have approves := approves_of_approvalRequest built
      have post : sent.method = .post := by
        obtain ⟨_, _, _, _, _, -, -, -, -, -, posted⟩ := approves
        exact method_of_approvalPost posted
      exact ⟨⟨success, failed, .inr ⟨post, awaiting, approves⟩⟩, rfl, by simp [post]⟩
    · next success failed other =>
      refine .bind (tells_exchange fun sent built => ?_) fun _ => ih
      have get := method_of_getRequest built
      exact ⟨⟨success, failed, .inl ⟨get, built⟩⟩, by simp [get], by simp [get]⟩

end Keychain.Rust.Crossmint.CrossmintSigner
