import Keychain.Lib.Polling
import Keychain.Go.Crossmint

/-!
`pollTransaction` of the Go signer as a client of `Lib/Polling.lean`. It waits before each
poll, and the context may end in a wait; it then fails without another request.
-/

namespace Keychain.Go.Crossmint.Signer

open Prog

variable [Packages] {signer : Signer}

/-- The request approves the response: it carries our signature over the decoded message of
the first pending entry that names our locator. -/
def Approves (signer : Signer) (response : TransactionResponse) (request : Request) : Prop :=
  ∃ signingKey entry message signed,
    signer.signingKey = some signingKey ∧ signer.signerLocator ≠ "" ∧
    (response.pending.getD []).find? (fun entry => entry.locator = some signer.signerLocator) =
      some entry ∧
    entry.message = some message ∧ Packages.base58Decode message = .ok signed ∧
    signer.submitApprovalRequest response.id
      (Packages.base58Encode (Packages.ed25519Sign signingKey signed)) = .ok request

/-- What the loop may send about a response: a poll, or the approval it awaits. -/
def MaySend (signer : Signer) (response : TransactionResponse) (request : Request) : Prop :=
  response.status ≠ "success" ∧ response.status ≠ "failed" ∧
    (request.method = .get ∧ signer.getRequest response.id = .ok request ∨
      request.method = .post ∧ response.status = "awaiting-approval" ∧
        signer.Approves response request)

theorem method_of_newRequest {method : Method} {url key : String} {body : Option Value}
    {request : Request} (formed : signer.newRequest method url body key = .ok request) :
    request.method = method := by
  obtain ⟨encoded, -, formed⟩ := bind_eq_ok.mp formed
  obtain ⟨_, -, formed⟩ := bind_eq_ok.mp formed
  cases formed
  rfl

theorem approves_of_approvalRequest {response : TransactionResponse} {request : Request}
    (formed : signer.approvalRequest response = .ok request) :
    signer.Approves response request := by
  obtain ⟨signingKey, configured, formed⟩ := bind_eq_ok.mp formed
  obtain ⟨entry, own, formed⟩ := bind_eq_ok.mp formed
  obtain ⟨message, pending, formed⟩ := bind_eq_ok.mp formed
  obtain ⟨signed, decoded, formed⟩ := bind_eq_ok.mp formed
  obtain ⟨key, located⟩ := Option.filter_eq_some_iff.mp (okOr_eq_ok.mp configured)
  exact ⟨signingKey, entry, message, signed, key, by simpa using located, okOr_eq_ok.mp own,
    okOr_eq_ok.mp pending, mapError_eq_ok.mp decoded, formed⟩

theorem method_of_approves {response : TransactionResponse} {request : Request}
    (approves : signer.Approves response request) : request.method = .post := by
  obtain ⟨_, _, _, _, -, -, -, -, -, formed⟩ := approves
  obtain ⟨url, -, formed⟩ := bind_eq_ok.mp formed
  exact method_of_newRequest formed

theorem pollExhausted_eq_ok {approvalSubmitted : Bool} {response final : TransactionResponse} :
    signer.pollExhausted approvalSubmitted response = .ok final ↔
      response.status = "success" ∧ response = final := by
  unfold pollExhausted
  split
  · next success => simp [success]
  · next other => split_ifs <;> simp [other]

variable [Unmarshal String] [Unmarshal MessageObject] [Unmarshal RawObject]
variable [Unmarshal TransactionResponse]

/-- The response the loop reads from a reply. -/
def responseOf (reply : Reply) : Option TransactionResponse :=
  (followUpOutcome "get_transaction" (sendRequest "crossmint" reply)).toOption

def polling (signer : Signer) : Polling Request Reply TransactionResponse where
  done response := response.status = "success"
  sends := signer.MaySend
  once request := request.method = .post
  read := responseOf

omit [Packages] in
/-- The name of the operation only shows in errors. -/
theorem toOption_followUpOutcome {opContext opContext' : String} {sent : Sent} :
    (followUpOutcome opContext sent).toOption = (followUpOutcome opContext' sent).toOption := by
  unfold followUpOutcome
  cases sent.err with
  | some err => rfl
  | none =>
    simp only [parseResponseWithRequiredField]
    split
    · rfl
    split
    · cases (unmarshal sent.body : Except String TransactionResponse) <;> rfl
    · cases extractErrorMessage (rawObject sent.body) <;> rfl

/-- An exchange sends its request if it can be formed, and reads the reply. -/
theorem tells_exchange {spent spent' : Bool} {response : TransactionResponse}
    {request : Except Error Request} {opContext : String}
    (sends : ∀ sent, request = .ok sent → signer.MaySend response sent ∧
      (spent && decide (sent.method = .post)) = false ∧
      (spent || decide (sent.method = .post)) = spent') :
    signer.polling.Tells spent spent' response
      (exchange "crossmint" request (followUpOutcome opContext) :
        HttpProg Context Error TransactionResponse) := by
  intro answers w
  rw [exchange_run]
  cases request with
  | error err => exact .inl ⟨⟨err, rfl⟩, rfl⟩
  | ok sent =>
    obtain ⟨allowed, fresh, flag⟩ := sends sent rfl
    exact .inr ⟨sent, allowed, fresh, flag, rfl, toOption_followUpOutcome⟩

/-- A wait before an exchange sends nothing. -/
theorem tells_sleep {spent spent' : Bool} {response : TransactionResponse} {id : String}
    {m : HttpProg Context Error TransactionResponse}
    (tells : signer.polling.Tells spent spent' response m) :
    signer.polling.Tells spent spent' response
      (sleepContextUnconfirmed id >>= fun _ => m) := by
  intro answers w
  rw [run_bind, sleepContextUnconfirmed_run]
  cases w.state.endsIn 0 with
  | true => exact .inl ⟨⟨_, rfl⟩, rfl⟩
  | false => exact tells answers { w with state := w.state.waited }

/-- The loop is a polling client with as many follow-ups as it has iterations. -/
theorem pollLoop_follows {left : ℕ} {approvalSubmitted : Bool} {response : TransactionResponse} :
    signer.polling.Follows left approvalSubmitted response
      (signer.pollLoop left approvalSubmitted response) := by
  induction left generalizing approvalSubmitted response with
  | zero => exact Polling.follows_ofExcept fun final => pollExhausted_eq_ok.mp
  | succ left ih =>
    unfold pollLoop
    split
    · next success => exact Polling.follows_pure success
    split
    · exact Polling.follows_fail
    split
    · next success failed awaited =>
      obtain ⟨awaiting, rfl⟩ := awaited
      refine .bind (tells_exchange fun sent formed => ?_) fun _ => ih
      have approves := approves_of_approvalRequest formed
      have post := method_of_approves approves
      exact ⟨⟨success, failed, .inr ⟨post, awaiting, approves⟩⟩, rfl, by simp [post]⟩
    · next success failed other =>
      rw [← bind_assoc]
      refine .bind (tells_sleep (tells_exchange fun sent formed => ?_)) fun _ => ih
      obtain ⟨url, -, located⟩ := bind_eq_ok.mp formed
      have get := method_of_newRequest located
      exact ⟨⟨success, failed, .inl ⟨get, formed⟩⟩, by simp [get], by simp [get]⟩

end Keychain.Go.Crossmint.Signer
